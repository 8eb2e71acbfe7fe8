import Mathlib.Data.List.FinRange
import Mathlib.Data.Nat.Choose.Basic
import Rapport.Proofs.Graph.Symmetry
import Rapport.Proofs.Mail.SelfExclusion

set_option autoImplicit false

/-! # Cliques, pair by pair

A clique goes through the `places` of a list, the pairs of its positions, and reinforces the contacts
that stand there. The same contact may stand at several positions, so what becomes of a pair is
said of its place. `attemptClique` puts failures in front of the places, as `Graph.faltering` does,
and keeps a record of what is attempted.

`clique_attempted` says what comes of this. Failures of the graph's own kinds are passed over and
counted, and any other ends the run where it occurs; what was made and did not fail is all that
changes. If the reinforcement counts in both directions, the order of the list does not matter. -/

namespace Rapport

open Mail (pairs_map mem_pairs forall_mem_pairs_iff)

namespace Graph

/-! ## Places -/

section Pairs

variable {α : Type}

theorem length_pairs (l : List α) : (pairs l).length = l.length.choose 2 := by
  induction l with
  | nil => rfl
  | cons a rest ih =>
    rw [pairs, List.length_append, List.length_map, ih, List.length_cons, Nat.choose_succ_succ',
      Nat.choose_one_right]

theorem mem_pairs_iff_lt [LinearOrder α] {l : List α} (hl : l.Pairwise (· < ·)) {a b : α} :
    (a, b) ∈ pairs l ↔ a ∈ l ∧ b ∈ l ∧ a < b := by
  refine ⟨fun h => ⟨(mem_pairs h).1, (mem_pairs h).2, forall_mem_pairs_iff.2 hl _ h⟩, ?_⟩
  induction l with
  | nil => exact fun h => absurd h.1 List.not_mem_nil
  | cons c rest ih =>
    obtain ⟨hc, hrest⟩ := List.pairwise_cons.1 hl
    rintro ⟨ha, hb, hab⟩
    rw [pairs, List.mem_append]
    rcases List.mem_cons.1 ha with rfl | ha
    · have hb : b ∈ rest := (List.mem_cons.1 hb).resolve_left hab.ne'
      exact Or.inl (List.mem_map_of_mem hb)
    · have hb : b ∈ rest := (List.mem_cons.1 hb).resolve_left ((hc a ha).trans hab).ne'
      exact Or.inr (ih hrest ⟨ha, hb, hab⟩)

/-- The pairs of an ascending list come in lexicographic order. -/
theorem pairwise_pairs [LinearOrder α] {l : List α} (hl : l.Pairwise (· < ·)) :
    (pairs l).Pairwise fun p q => p.1 < q.1 ∨ p.1 = q.1 ∧ p.2 < q.2 := by
  induction l with
  | nil => exact List.Pairwise.nil
  | cons c rest ih =>
    obtain ⟨hc, hrest⟩ := List.pairwise_cons.1 hl
    rw [pairs, List.pairwise_append, List.pairwise_map]
    refine ⟨hrest.imp fun h => Or.inr ⟨rfl, h⟩, ih hrest, ?_⟩
    intro p hp q hq
    obtain ⟨b, _, rfl⟩ := List.mem_map.1 hp
    exact Or.inl (hc q.1 (mem_pairs hq).1)

/-- How many pairs satisfy a condition does not depend on the order of a list, if the condition does
    not tell the first from the second. -/
theorem countP_pairs_perm {l l' : List α} (h : l.Perm l') {p : α × α → Bool}
    (hp : ∀ a b, p (a, b) = p (b, a)) : (pairs l).countP p = (pairs l').countP p := by
  induction h with
  | nil => rfl
  | cons a hrest ih =>
    rw [pairs, pairs, List.countP_append, List.countP_append, (hrest.map _).countP_eq, ih]
  | swap a b rest =>
    simp only [pairs, List.map_cons, List.cons_append, List.countP_cons, List.countP_append]
    rw [hp b a]
    omega
  | trans _ _ ih ih' => exact ih.trans ih'

end Pairs

/-- The pairs of positions in a list of some length, in the order in which a clique takes them. -/
def places (n : Nat) : List (Fin n × Fin n) := pairs (List.finRange n)

variable {n : Nat}

theorem mem_places {p : Fin n × Fin n} : p ∈ places n ↔ p.1 < p.2 :=
  (mem_pairs_iff_lt (List.pairwise_lt_finRange n)).trans
    ⟨fun h => h.2.2, fun h => ⟨List.mem_finRange _, List.mem_finRange _, h⟩⟩

theorem pairwise_places : (places n).Pairwise fun p q => p.1 < q.1 ∨ p.1 = q.1 ∧ p.2 < q.2 :=
  pairwise_pairs (List.pairwise_lt_finRange n)

theorem length_places : (places n).length = n * (n - 1) / 2 := by
  rw [places, length_pairs, List.length_finRange, Nat.choose_two_right]

/-- The pairs of a list are the contacts that stand at the places. -/
theorem pairs_ofFn {α : Type} (f : Fin n → α) :
    pairs (List.ofFn f) = (places n).map fun p => (f p.1, f p.2) := by
  rw [List.ofFn_eq_map, pairs_map, places]

/-! ## Attempts -/

/-- Have the clique of some contacts made in memory, with a failure in front of each place that has
    one, and keep a record of the pairs that are attempted. -/
def attemptClique (account : String) (contacts : Fin n → Contact) (r : Reinforcement)
    (fault : Fin n × Fin n → Option Failure) (s : Store) :
    Except Failure Unit × Traced ((Store × List (Option Failure)) × List Tie) :=
  ((inMemory account).faltering.recording.clique (List.ofFn contacts) r).outcome
    ((s, (places n).map fault), [])

/-- What a clique answers, if it has counted some failed pairs or has come upon another failure. -/
def cliqueAnswer (account : String) (r : Reinforcement) : Except Failure Nat → Except Failure Unit
  | .ok failed =>
    if failed = 0 then .ok () else .error (.cliqueIncomplete failed r.channel.name account)
  | .error f => .error f

/-- A clique that passes the check goes as its pairs do, and fails in the end if some of them
    did. -/
theorem runs_reinforceClique_answer {σ : Type} {account : String}
    {reinforce : Contact → Contact → Reinforcement → Action σ Unit} {contacts : List Contact}
    {r : Reinforcement} (hr : ¬r.multiplier < 1) {result : Except Failure Nat} {t t' : Traced σ}
    (h : (reinforceAll account reinforce r (pairs contacts)).Runs t result t') :
    (reinforceClique account reinforce contacts r).Runs t (cliqueAnswer account r result) t' := by
  have hcheck : check account r = .ok () := if_neg hr
  rw [reinforceClique, hcheck]
  refine (Action.Runs.ofExcept (.ok ()) t).bind ?_
  cases result with
  | error f => exact h.bind_error _
  | ok failed =>
    refine h.bind ?_
    by_cases hfailed : failed = 0
    · rw [cliqueAnswer, if_pos hfailed, if_neg (not_not_intro hfailed)]
      exact Action.Runs.pure () t'
    · rw [cliqueAnswer, if_neg hfailed, if_pos hfailed]
      exact Action.Runs.throw _ t'

/-- The tie that is made at a place. -/
def tieAt (contacts : Fin n → Contact) (r : Reinforcement) (p : Fin n × Fin n) : Tie :=
  ⟨contacts p.1, contacts p.2, r⟩

section Attempts

variable {account : String} {a b : Contact} {r : Reinforcement} {s : Store}
  {faults : List (Option Failure)} {asked : List Tie} {journal : List Journal.Entry}

theorem runs_recording {σ : Type} {g : Graph σ} {s s' : σ} {journal' : List Journal.Entry}
    {result : Except Failure Unit}
    (h : (g.reinforce a b r).Runs ⟨s, journal⟩ result ⟨s', journal'⟩) :
    (g.recording.reinforce a b r).Runs ⟨(s, asked), journal⟩ result
      ⟨(s', asked ++ [⟨a, b, r⟩]), journal'⟩ :=
  (Action.Runs.update _ _).bind
    (h.within Prod.fst (fun s t => (s, t.2)) (u := ⟨(s, asked ++ [⟨a, b, r⟩]), journal⟩))

/-- A pair at a place with a failure is attempted, and nothing is written. -/
theorem runs_attempt_of_fault (f : Failure) :
    ((inMemory account).faltering.recording.reinforce a b r).Runs
      ⟨((s, some f :: faults), asked), journal⟩ (.error f)
      ⟨((s, faults), asked ++ [⟨a, b, r⟩]), journal⟩ :=
  runs_recording (runs_faltering_of_fault rfl s journal)

/-- A pair at any other place is made. -/
theorem runs_attempt_of_none (hr : ¬r.multiplier < 1) :
    ((inMemory account).faltering.recording.reinforce a b r).Runs
      ⟨((s, none :: faults), asked), journal⟩ (.ok ())
      ⟨((s.reinforce account a b r, faults), asked ++ [⟨a, b, r⟩]), journal⟩ :=
  runs_recording (runs_faltering_of_none rfl (runs_reinforceInMemory hr account a b ⟨s, journal⟩))

variable {contacts : Fin n → Contact} {fault : Fin n × Fin n → Option Failure}

/-- A run goes past places whose failures are the graph's own, and on from what they have made of the
    store. -/
theorem runs_reinforceAll_append (account : String) (contacts : Fin n → Contact) (s : Store)
    (faults : List (Option Failure)) (asked : List Tie) (journal : List Journal.Entry)
    (rest : List (Contact × Contact)) (hr : ¬r.multiplier < 1) {before : List (Fin n × Fin n)}
    (hbefore : ∀ p ∈ before, ∀ f, fault p = some f → f.IsOfGraph)
    {result : Except Failure Nat}
    {t : Traced ((Store × List (Option Failure)) × List Tie)}
    (hrest : (reinforceAll account (inMemory account).faltering.recording.reinforce r rest).Runs
      ⟨((s.tieAll account ((before.filter fun p => (fault p).isNone).map (tieAt contacts r)), faults),
          asked ++ before.map (tieAt contacts r)),
        journal ++ List.replicate (before.countP fun p => (fault p).isSome)
          (.pairFailed account r.channel.name)⟩ result t) :
    (reinforceAll account (inMemory account).faltering.recording.reinforce r
        (before.map (fun p => (contacts p.1, contacts p.2)) ++ rest)).Runs
      ⟨((s, before.map fault ++ faults), asked), journal⟩
      (result.map (· + before.countP fun p => (fault p).isSome)) t := by
  induction before generalizing s asked journal with
  | nil => cases result <;> simpa [Except.map] using hrest
  | cons p before ih =>
    have hbefore' : ∀ q ∈ before, ∀ f, fault q = some f → f.IsOfGraph :=
      fun q hq => hbefore q (List.mem_cons_of_mem _ hq)
    rw [List.map_cons, List.append_cons asked] at hrest
    cases hp : fault p with
    | none =>
      rw [List.filter_cons_of_pos (by simp [hp]), List.countP_cons_of_neg (by simp [hp])] at hrest
      rw [List.countP_cons_of_neg (by simp [hp]), List.map_cons, List.map_cons, hp]
      exact (runs_attempt_of_none hr).attempt.bind (ih _ _ _ hbefore' hrest)
    | some f =>
      rw [List.filter_cons_of_neg (by simp [hp]), List.countP_cons_of_pos (by simp [hp]),
        List.replicate_succ, List.append_cons journal] at hrest
      rw [List.countP_cons_of_pos (by simp [hp]), List.map_cons, List.map_cons, hp]
      refine (runs_attempt_of_fault f).attempt.bind ?_
      show (if f.isGraphFailure then _ else _ : Action _ Nat).Runs _ _ _
      rw [if_pos (Failure.isGraphFailure_iff.2 (hbefore p List.mem_cons_self f hp))]
      have hcount := (ih _ _ _ hbefore' hrest).map (· + 1)
      have hresult : (result.map (· + before.countP fun p => (fault p).isSome)).map (· + 1)
          = result.map (· + (before.countP (fun p => (fault p).isSome) + 1)) := by
        cases result <;> rfl
      rw [hresult] at hcount
      exact (Action.Runs.note _ _).bind hcount

/-! ### Whole cliques -/

theorem attemptClique_of_lt (hr : r.multiplier < 1) :
    attemptClique account contacts r fault s
      = (.error (.multiplierTooSmall account), ⟨((s, (places n).map fault), []), []⟩) := by
  have hcheck : check account r = .error (.multiplierTooSmall account) := if_pos hr
  have hrun : (reinforceClique account (inMemory account).faltering.recording.reinforce
        (List.ofFn contacts) r).Runs ⟨((s, (places n).map fault), []), []⟩
      (.error (.multiplierTooSmall account)) ⟨((s, (places n).map fault), []), []⟩ := by
    rw [reinforceClique, hcheck]
    exact Action.Runs.bind_error _ (Action.Runs.ofExcept _ _)
  exact hrun.outcome

theorem attemptClique_of_runs (hr : ¬r.multiplier < 1) {result : Except Failure Nat}
    {t : Traced ((Store × List (Option Failure)) × List Tie)}
    (h : (reinforceAll account (inMemory account).faltering.recording.reinforce r
        ((places n).map fun p => (contacts p.1, contacts p.2))).Runs
      ⟨((s, (places n).map fault), []), []⟩ result t) :
    attemptClique account contacts r fault s = (cliqueAnswer account r result, t) := by
  rw [← pairs_ofFn] at h
  exact (runs_reinforceClique_answer hr h).outcome

/-- How a clique goes whose failures are all the graph's own. -/
theorem attemptClique_of_contained (hr : ¬r.multiplier < 1)
    (h : ∀ p ∈ places n, ∀ f, fault p = some f → f.IsOfGraph) :
    let failed := (places n).countP fun p => (fault p).isSome
    attemptClique account contacts r fault s
      = (if failed = 0 then .ok () else .error (.cliqueIncomplete failed r.channel.name account),
        ⟨((s.tieAll account (((places n).filter fun p => (fault p).isNone).map (tieAt contacts r)),
            []), (places n).map (tieAt contacts r)),
          List.replicate failed (.pairFailed account r.channel.name)⟩) := by
  intro failed
  have hall := runs_reinforceAll_append account contacts s [] [] [] [] hr h (Action.Runs.pure 0 _)
  rw [List.append_nil, List.append_nil] at hall
  rw [attemptClique_of_runs hr hall]
  simp only [Except.map, cliqueAnswer, Nat.zero_add, List.nil_append, failed]

/-- How a clique goes with a failure that is not the graph's own behind others that are. -/
theorem attemptClique_of_escaping (hr : ¬r.multiplier < 1) {before after : List (Fin n × Fin n)}
    {p : Fin n × Fin n} {f : Failure} (hplaces : places n = before ++ p :: after)
    (hp : fault p = some f) (hf : ¬f.IsOfGraph)
    (h : ∀ q ∈ before, ∀ f, fault q = some f → f.IsOfGraph) :
    attemptClique account contacts r fault s
      = (.error f,
        ⟨((s.tieAll account ((before.filter fun q => (fault q).isNone).map (tieAt contacts r)),
            after.map fault), (before ++ [p]).map (tieAt contacts r)),
          List.replicate (before.countP fun q => (fault q).isSome)
            (.pairFailed account r.channel.name)⟩) := by
  have hrest : ∀ (s : Store) (asked : List Tie) (journal : List Journal.Entry),
      (reinforceAll account (inMemory account).faltering.recording.reinforce r
          ((p :: after).map fun p => (contacts p.1, contacts p.2))).Runs
        ⟨((s, (p :: after).map fault), asked), journal⟩ (.error f)
        ⟨((s, after.map fault), asked ++ [tieAt contacts r p]), journal⟩ := by
    intro s asked journal
    rw [List.map_cons, List.map_cons, hp]
    refine (runs_attempt_of_fault f).attempt.bind ?_
    show (if f.isGraphFailure then _ else _ : Action _ Nat).Runs _ _ _
    rw [if_neg (mt Failure.isGraphFailure_iff.1 hf)]
    exact Action.Runs.throw f _
  have hall := runs_reinforceAll_append account contacts s _ [] [] _ hr h (hrest _ _ _)
  rw [← List.map_append, ← List.map_append, ← hplaces] at hall
  rw [attemptClique_of_runs hr hall, List.map_append]
  rfl

end Attempts

/-! ## The order of a clique -/

/-- The order of a list does not matter to a clique in both directions. -/
theorem same_tieAll_clique {contacts others : List Contact} (h : others.Perm contacts)
    {r : Reinforcement} (hr : r.directed = false) (account : String) (s : Store) :
    (s.tieAll account (Request.clique others r).ties).Same
      (s.tieAll account (Request.clique contacts r).ties) := by
  have hconst : ∀ list, ∀ t ∈ (Request.clique list r).ties, t.reinforcement = r := by
    intro list t ht
    rw [Request.ties] at ht
    split at ht
    · exact absurd ht List.not_mem_nil
    · obtain ⟨p, _, rfl⟩ := List.mem_map.1 ht
      rfl
  refine s.same_tieAll account (hconst others) (hconst contacts) fun origin target => ?_
  rw [Request.ties, Request.ties]
  split
  · rfl
  · rw [List.countP_map, List.countP_map]
    exact countP_pairs_perm h fun a b => Tie.writes_swap hr a b origin target

/-- A clique of a list with failures in front of some of its pairs.

    The pairs are those of two positions, the earlier one first, in lexicographic order. A multiplier
    below one is refused and no pair is attempted. Otherwise, if all failures are the graph's own,
    each pair is attempted, those without a failure are made, and the clique fails if there are
    others, with their number. Another failure is raised where it occurs: the pairs before it are
    attempted and made in the same way, and none after it.

    Without failures, what a clique in both directions leaves does not depend on the order of its
    list. -/
theorem clique_attempted (account : String) {n : Nat} (contacts : Fin n → Contact)
    (r : Reinforcement) (fault : Fin n × Fin n → Option Failure) (s : Store) :
    let run := attemptClique account contacts r fault s
    let refused := Failure.multiplierTooSmall account
    let incomplete := fun failed => Failure.cliqueIncomplete failed r.channel.name account
    let store := run.2.state.1.1
    let asked := run.2.state.2
    let isOwn := fun p => ∀ f, fault p = some f → f.IsOfGraph
    let made := fun ps : List (Fin n × Fin n) =>
      s.tieAll account ((ps.filter fun p => (fault p).isNone).map (tieAt contacts r))
    ((∀ p, p ∈ places n ↔ p.1 < p.2)
        ∧ ((places n).Pairwise fun p q => p.1 < q.1 ∨ p.1 = q.1 ∧ p.2 < q.2)
        ∧ (places n).length = n * (n - 1) / 2)
      ∧ (refused.kind = .invalidArgument
        ∧ ∀ failed, (incomplete failed).kind = .backendFailure
          ∧ (incomplete failed).message
            = "unable to update " ++ toString failed ++ " contact pairs of type '"
              ++ r.channel.name ++ "'")
      ∧ (r.multiplier < 1 → run.1 = .error refused ∧ asked = [] ∧ store = s)
      ∧ (¬r.multiplier < 1 → (∀ p ∈ places n, isOwn p) →
          let failed := (places n).countP fun p => (fault p).isSome
          run.1 = (if failed = 0 then .ok () else .error (incomplete failed))
            ∧ asked = (places n).map (tieAt contacts r) ∧ store = made (places n))
      ∧ (¬r.multiplier < 1 → ∀ before p after f, places n = before ++ p :: after →
          (∀ q ∈ before, isOwn q) → fault p = some f → ¬f.IsOfGraph →
          run.1 = .error f
            ∧ asked = (before ++ [p]).map (tieAt contacts r) ∧ store = made before)
      ∧ (r.directed = false → ∀ others, others.Perm (List.ofFn contacts) →
          let after := fun list => ((inMemory account).clique list r).outcome s
          (after others).1 = (after (List.ofFn contacts)).1
            ∧ (after others).2.state.Same (after (List.ofFn contacts)).2.state) := by
  intro run refused incomplete store asked isOwn made
  refine ⟨⟨fun p => mem_places, pairwise_places, length_places⟩, ⟨rfl, fun _ => ⟨rfl, rfl⟩⟩,
    ?small, ?contained, ?escaping, ?order⟩
  case small =>
    intro hr
    have hrun : run = _ := attemptClique_of_lt hr
    exact ⟨congrArg Prod.fst hrun, congrArg (·.2.state.2) hrun, congrArg (·.2.state.1.1) hrun⟩
  case contained =>
    intro hr hown
    have hrun : run = _ := attemptClique_of_contained hr hown
    exact ⟨congrArg Prod.fst hrun, congrArg (·.2.state.2) hrun, congrArg (·.2.state.1.1) hrun⟩
  case escaping =>
    intro hr before p after f hplaces hown hp hf
    have hrun : run = _ := attemptClique_of_escaping hr hplaces hp hf hown
    exact ⟨congrArg Prod.fst hrun, congrArg (·.2.state.2) hrun, congrArg (·.2.state.1.1) hrun⟩
  case order =>
    intro hr others hperm after
    have hafter : ∀ list, (after list).1 = check account r
        ∧ (after list).2.state = s.tieAll account (Request.clique list r).ties :=
      fun list => (ends_reinforceClique_inMemory account list r s).outcome
    refine ⟨(hafter others).1.trans (hafter _).1.symm, ?_⟩
    rw [(hafter others).2, (hafter _).2]
    exact same_tieAll_clique hperm hr account s

/-- Two contacts, one of them at the front of the list and again at the end. -/
def roundTrip (i : Fin 3) : Contact := if i = 1 then ⟨"b", none⟩ else ⟨"a", none⟩

/-- The first pair is refused by the graph. -/
def refusedFirst (p : Fin 3 × Fin 3) : Option Failure :=
  if p = (0, 1) then some (.statementRefused .reinforce "x") else none

/-- The second pair comes with a number that is too large, which is no failure of the graph. -/
def raisedSecond (p : Fin 3 × Fin 3) : Option Failure :=
  if p = (0, 2) then some .integerTooLarge else none

theorem clique_attempted_roundTrip :
    let r : Reinforcement := { channel := .cc, timestamp := 5 }
    let run := attemptClique "x" roundTrip r refusedFirst {}
    let raised := attemptClique "x" roundTrip r raisedSecond {}
    (run.1 = .error (.cliqueIncomplete 1 "cc" "x")
        ∧ run.2.state.1.1.bond? "x" "a" "a" "combined" = some ⟨2, 5⟩
        ∧ run.2.state.1.1.bond? "x" "a" "b" "combined" = some ⟨2, 5⟩)
      ∧ raised.1 = .error .integerTooLarge
        ∧ raised.2.state.2.length = 2
        ∧ raised.2.state.1.1.bond? "x" "a" "a" "combined" = none
        ∧ raised.2.state.1.1.bond? "x" "a" "b" "combined" = some ⟨2, 5⟩ := by
  intro r run raised
  have hown : ∀ p ∈ places 3, ∀ f, refusedFirst p = some f → f.IsOfGraph := by
    intro p _ f hf
    unfold refusedFirst at hf
    split at hf
    · rw [← Option.some.inj hf]
      exact Failure.isGraphFailure_iff.1 rfl
    · exact absurd hf (Option.some_ne_none f).symm
  constructor
  · obtain ⟨_, _, _, hcontained, _⟩ := clique_attempted "x" roundTrip r refusedFirst {}
    obtain ⟨hresult, _, hstore⟩ := hcontained (by decide) hown
    rw [show run.2.state.1.1 = _ from hstore]
    exact ⟨hresult.trans (by decide +kernel), by decide +kernel, by decide +kernel⟩
  · obtain ⟨_, _, _, _, hraised, _⟩ := clique_attempted "x" roundTrip r raisedSecond {}
    obtain ⟨hresult, hasked, hstore⟩ := hraised (by decide) [(0, 1)] (0, 2) [(1, 2)]
      .integerTooLarge (by decide +kernel) (by simp [raisedSecond]) rfl
      Failure.not_isOfGraph_integerTooLarge
    rw [show raised.2.state.1.1 = _ from hstore, show raised.2.state.2 = _ from hasked]
    exact ⟨hresult, by decide +kernel, by decide +kernel, by decide +kernel⟩

end Graph

end Rapport
