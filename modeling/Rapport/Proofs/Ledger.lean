import Mathlib.Data.List.Induction
import Rapport.Proofs.Request

set_option autoImplicit false

/-! # The ledger of an edge

What a graph in memory answers about an edge can be told from the requests alone, without a look at
any store. `Ledger.since` is the part of a run that comes after the last request that took the edge
out, `Ledger.credit` the ties that were made on the edge in that part. The weight of a relation is
the sum of the amounts of those ties that carry it, and the relation is there if there is one.

The rule is not quite free of itself: whether a removal of stale edges takes the edge out depends on
the credit that the edge has by then. -/

namespace Rapport.Ledger

/-! ## The credit of an edge -/

/-- The latest of the times of some ties, or zero if none is later. -/
def latest (ties : List Tie) : Int := (ties.map (·.reinforcement.timestamp)).foldl max 0

/-- The ties that requests make on an edge of an account. -/
def made (account origin target : String) (requests : List (String × Request)) : List Tie :=
  requests.flatMap fun q =>
    if q.1 = account then q.2.ties.filter (·.writes origin target) else []

/-- Whether a removal takes out the edge between two keys, given the time of its last tie. -/
def Clears (what : Removal) (origin target : String) (last : Int) : Prop :=
  match what with
  | .contact c => origin = c.key ∨ target = c.key
  | .between a b => (origin = a.key ∧ target = b.key) ∨ (origin = b.key ∧ target = a.key)
  | .source name =>
    (name ++ ":").toList <+: origin.toList ∨ (name ++ ":").toList <+: target.toList
  | .everything => True
  | .stale cutoff => last ≤ cutoff

instance (what : Removal) (origin target : String) (last : Int) :
    Decidable (Clears what origin target last) :=
  match what with
  | .contact _ => inferInstanceAs (Decidable (_ ∨ _))
  | .between _ _ => inferInstanceAs (Decidable (_ ∨ _))
  | .source _ => inferInstanceAs (Decidable (_ ∨ _))
  | .everything => inferInstanceAs (Decidable True)
  | .stale _ => inferInstanceAs (Decidable (_ ≤ _))

/-- Whether a request of an account takes an edge of it out, when `earlier` are the requests since
    the last one that did. -/
def Closes (account origin target : String) (earlier : List (String × Request)) :
    String × Request → Prop
  | (account', .remove what) =>
    account' = account ∧ Clears what origin target (latest (made account origin target earlier))
  | _ => False

instance (account origin target : String) (earlier : List (String × Request))
    (q : String × Request) : Decidable (Closes account origin target earlier q) :=
  match q with
  | (_, .remove _) => inferInstanceAs (Decidable (_ ∧ _))
  | (_, .reinforce _ _ _) | (_, .clique _ _) | (_, .bond _ _ _) | (_, .related _) =>
    inferInstanceAs (Decidable False)

/-- The requests since the last one that took an edge out. -/
def since (account origin target : String) (requests : List (String × Request)) :
    List (String × Request) :=
  requests.foldl
    (fun earlier q => if Closes account origin target earlier q then [] else earlier ++ [q]) []

/-- The ties made on an edge since it was last taken out. -/
def credit (account origin target : String) (requests : List (String × Request)) : List Tie :=
  made account origin target (since account origin target requests)

/-! ## One request -/

variable {account origin target : String}

theorem made_append (xs ys : List (String × Request)) :
    made account origin target (xs ++ ys)
      = made account origin target xs ++ made account origin target ys :=
  List.flatMap_append

theorem since_append (requests : List (String × Request)) (q : String × Request) :
    since account origin target (requests ++ [q])
      = if Closes account origin target (since account origin target requests) q then []
        else since account origin target requests ++ [q] := by
  rw [since, List.foldl_append]
  rfl

/-- The relations of an edge are what its credit adds up to. -/
def Balanced (s : Store) (account origin target : String) (ties : List Tie) : Prop :=
  ∀ relation, s.bond? account origin target relation
    = Tie.accumulate none (ties.filter (·.carries relation))

theorem balanced_empty : Balanced {} account origin target [] := fun _ => rfl

/-- A balanced edge without credit is not there, as far as its relations show, and one with credit
    has a combined relation as old as the latest tie. -/
theorem Balanced.bond?_combined {s : Store} {ties : List Tie}
    (h : Balanced s account origin target ties) :
    (s.bond? account origin target Channel.combinedName).map (·.updatedAt)
      = if ties = [] then none else some (latest ties) := by
  have hall : ties.filter (·.carries Channel.combinedName) = ties :=
    List.filter_eq_self.2 fun t _ => t.carries_combined
  rw [h, hall, Tie.accumulate]
  split <;> rfl

/-- On an edge with credit, a removal takes out what the ledger says. -/
theorem takes_iff_clears {s : Store} {ties : List Tie} {bonds : Bonds}
    (h : Balanced s account origin target ties) (hties : ties ≠ [])
    (hrec : s.record? account origin target = some bonds) (what : Removal) :
    what.takes origin target bonds = true ↔ Clears what origin target (latest ties) := by
  cases what with
  | contact c => simp [Removal.takes, Clears]
  | between a b => simp [Removal.takes, Clears]
  | source name =>
    have htag : Contact.sourceTag name = name ++ ":" := rfl
    simp [Removal.takes, Clears, htag]
  | everything => simp [Removal.takes, Clears]
  | stale cutoff =>
    have hcombined := h.bond?_combined
    rw [Store.bond?_eq, hrec, Option.bind_some, if_neg hties, Option.map_eq_some_iff] at hcombined
    obtain ⟨b, hb, hlast⟩ := hcombined
    simp [Removal.takes, Clears, hb, hlast]

theorem Balanced.tieAll {s : Store} {ties : List Tie}
    (h : Balanced s account origin target ties) {more : List Tie}
    (hmore : ∀ t ∈ more, t.reinforcement.channel.name ≠ Channel.combinedName) :
    Balanced (s.tieAll account more) account origin target
      (ties ++ more.filter (·.writes origin target)) := by
  intro relation
  rw [Store.bond?_tieAll s account hmore, h relation, ← Tie.accumulate_append, List.filter_append,
    List.filter_filter]
  simp only [Bool.and_comm]

theorem Balanced.remove {s : Store} {ties : List Tie}
    (h : Balanced s account origin target ties) (what : Removal) :
    Balanced (s.remove account what.takes) account origin target
      (if Clears what origin target (latest ties) then [] else ties) := by
  intro relation
  rw [Store.bond?_remove]
  -- A removal looks at edges that are there, the ledger at the credit: on an edge without credit
  -- they may disagree, but then there is nothing on it to be taken out.
  cases hrec : s.record? account origin target with
  | none =>
    have hnone : s.bond? account origin target Channel.combinedName = none := by
      rw [Store.bond?_eq, hrec, Option.bind_none]
    have hties : ties = [] := by
      have hcombined := h.bond?_combined
      rw [hnone] at hcombined
      by_contra hne
      simp [hne] at hcombined
    subst hties
    simp [Store.bond?_eq, hrec]
  | some bonds =>
    by_cases hties : ties = []
    · subst hties
      rw [h relation]
      simp
    · have hiff := takes_iff_clears h hties hrec what
      by_cases hclears : Clears what origin target (latest ties)
      · simp [hclears, hiff.2 hclears]
      · have hnot : what.takes origin target bonds = false := by
          rw [← Bool.not_eq_true, hiff]
          exact hclears
        simp [hclears, hnot, h relation]

/-- What other accounts do does not touch the edge. -/
theorem Balanced.effect_of_ne {s : Store} {ties : List Tie}
    (h : Balanced s account origin target ties) {account' : String} (hne : account' ≠ account)
    (q : Request) : Balanced (q.effect account' s) account origin target ties := by
  intro relation
  by_cases hremove : ∃ what, q = .remove what
  · obtain ⟨what, rfl⟩ := hremove
    rw [Request.effect, Store.bond?_remove, if_neg fun hcond => hne hcond.1.symm]
    exact h relation
  · rw [Request.effect_of_ne_remove (fun what heq => hremove ⟨what, heq⟩), Store.bond?_eq,
      Store.record?_tieAll_of_not_writes s account' q.ties fun heq => absurd heq.symm hne,
      ← Store.bond?_eq]
    exact h relation

/-! ## Whole runs -/

/-- A request keeps an edge balanced with the ledger. -/
theorem balanced_step {s : Store} {earlier : List (String × Request)}
    (h : Balanced s account origin target (made account origin target earlier))
    {q : String × Request} (hq : q.2.IsTyped) :
    Balanced (q.2.effect q.1 s) account origin target
      (made account origin target
        (if Closes account origin target earlier q then [] else earlier ++ [q])) := by
  obtain ⟨account', q⟩ := q
  -- Only a removal by the account itself can close the edge, and only its ties are made on it.
  by_cases ha : account' = account
  · subst ha
    by_cases hremove : ∃ what, q = .remove what
    · obtain ⟨what, rfl⟩ := hremove
      have hremoved := h.remove what
      have hiff : Closes account' origin target earlier (account', .remove what)
          ↔ Clears what origin target (latest (made account' origin target earlier)) :=
        and_iff_right rfl
      by_cases hclears : Clears what origin target (latest (made account' origin target earlier))
      · rw [if_pos hclears] at hremoved
        rw [if_pos (hiff.2 hclears)]
        exact hremoved
      · have hnone : made account' origin target [(account', .remove what)] = [] := by
          simp [made, Request.ties]
        rw [if_neg hclears] at hremoved
        rw [if_neg fun hcloses => hclears (hiff.1 hcloses), made_append, hnone, List.append_nil]
        exact hremoved
    · have hopen : ¬Closes account' origin target earlier (account', q) := by
        cases q with
        | remove what => exact absurd ⟨what, rfl⟩ hremove
        | _ => exact id
      have hmade : made account' origin target [(account', q)]
          = q.ties.filter (·.writes origin target) := by
        simp [made]
      rw [if_neg hopen, made_append, hmade,
        Request.effect_of_ne_remove fun what heq => hremove ⟨what, heq⟩]
      exact h.tieAll fun t ht => Request.name_ne_of_mem_ties hq ht
  · have hopen : ¬Closes account origin target earlier (account', q) := by
      cases q with
      | remove what => exact fun hcloses => ha hcloses.1
      | _ => exact id
    have hnone : made account origin target [(account', q)] = [] := by
      simp [made, ha]
    rw [if_neg hopen, made_append, hnone, List.append_nil]
    exact h.effect_of_ne ha q

/-- After any run from an empty store every edge is balanced with its credit. -/
theorem balanced_after {requests : List (String × Request)} (h : ∀ q ∈ requests, q.2.IsTyped) :
    Balanced (Graph.after Graph.inMemory {} requests) account origin target
      (credit account origin target requests) := by
  rw [Graph.after_inMemory]
  -- The last request comes after all that the ledger has to look back on, so the induction is from
  -- the end of the run.
  induction requests using List.reverseRecOn with
  | nil => exact balanced_empty
  | append_singleton earlier q ih =>
    rw [List.foldl_append, credit, since_append]
    exact balanced_step (ih fun q' hq' => h q' (List.mem_append_left _ hq'))
      (h q (by simp))

/-- The ledger law. After any run from an empty store, a relation of an edge is not there iff no tie
    that adds to it has been made on the edge since the edge was last taken out. Otherwise its weight
    is the sum of what these ties add, and its time the latest of theirs. All ties add to the combined
    relation, which is meant by no name and by the empty one. Any other name is read in lower case,
    and only the ties of the channel of that name add to its relation. -/
theorem bond?_after {requests : List (String × Request)} (h : ∀ q ∈ requests, q.2.IsTyped)
    (account : String) (a b : Contact) (name : Option String) :
    let relation := name.elim "combined" fun text =>
      if text = "" then "combined" else Text.lower text
    let s := Graph.after Graph.inMemory {} requests
    let ties := (credit account a.key b.key requests).filter fun t =>
      relation = "combined" ∨ relation = t.reinforcement.channel.name
    (((Graph.inMemory account).bond? a b name).outcome s).1
      = .ok (if ties = [] then none
        else some {
          weight := (ties.map fun t =>
            t.reinforcement.multiplier * t.reinforcement.channel.weight).sum
          updatedAt := latest ties }) := by
  intro relation s ties
  have hties : (credit account a.key b.key requests).filter (·.carries relation) = ties :=
    List.filter_congr fun t _ => by
      rw [Bool.eq_iff_iff, Tie.carries_iff, Reinforcement.mem_relations, decide_eq_true_iff, or_comm]
      rfl
  show Except.ok (s.bond? account a.key b.key (Graph.relationName name)) = _
  rw [Graph.relationName_eq, balanced_after h, hties, Tie.accumulate]
  congr 1
  split
  · rfl
  · simp only [Option.getD_none, zero_add, latest]
    rfl

/-- A run in which an edge goes stale and is pruned, and then comes back through a clique that names
    a contact twice. One of the contacts is known through a data source too. -/
def comeback : List (String × Request) :=
  [("x", .reinforce ⟨"a", some "s"⟩ ⟨"b", none⟩ { channel := .direct, timestamp := 10 }),
    ("x", .remove (.stale 10)),
    ("x", .clique [⟨"a", some "s"⟩, ⟨"b", none⟩, ⟨"b", none⟩]
      { channel := .cc, timestamp := 20, multiplier := 5 }),
    ("y", .remove .everything),
    ("x", .remove (.source "b")),
    ("x", .reinforce ⟨"b", none⟩ ⟨"a", some "s"⟩ { channel := ⟨"reply", -7⟩, timestamp := 15 }),
    ("x", .reinforce ⟨"a", none⟩ ⟨"b", none⟩ { channel := .cc, timestamp := 25 }),
    ("x", .reinforce ⟨"b", none⟩ ⟨"a", some "s"⟩
      { channel := .direct, timestamp := 30, directed := true })]

theorem bond?_after_comeback :
    (∀ q ∈ comeback, q.2.IsTyped) ∧
      let bond (name : Option String) :=
        (((Graph.inMemory "x").bond? ⟨"a", some "s"⟩ ⟨"b", none⟩ name).outcome
          (Graph.after Graph.inMemory {} comeback)).1
      bond none = .ok (some ⟨13, 20⟩)
        ∧ bond (some "") = .ok (some ⟨13, 20⟩)
        ∧ bond (some "CC") = .ok (some ⟨20, 20⟩)
        ∧ bond (some "to") = .ok none := by
  have htyped : ∀ q ∈ comeback, q.2.IsTyped := by
    simp [comeback, Request.IsTyped, Request.channel?, Channel.direct, Channel.cc,
      Channel.combinedName]
  have hbond := bond?_after htyped "x" ⟨"a", some "s"⟩ ⟨"b", none⟩
  exact ⟨htyped, (hbond none).trans (by decide +kernel), (hbond (some "")).trans (by decide +kernel),
    (hbond (some "CC")).trans (by decide +kernel), (hbond (some "to")).trans (by decide +kernel)⟩

end Rapport.Ledger
