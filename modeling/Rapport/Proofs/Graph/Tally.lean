import Rapport.Proofs.Graph.Combined
import Rapport.Proofs.Sql.Amount

set_option autoImplicit false

/-! # What reinforcements add up to in a database

Where graphs in a database take reinforcements, one after the other, and nothing else is asked, every
relation holds what those come to that add to it: in memory their sum, and in a database the total of
`Amount.total`, which is no sum any more as soon as one is too large. `serve_bond_tallied` says when
the two are the same. -/

namespace Rapport

open Sql Identifier Numeral

/-! ## Runs of reinforcements -/

/-- The request that makes a tie. -/
def Tie.request (t : Tie) : Request := .reinforce t.first t.second t.reinforcement

/-- The requests that make ties for accounts, one after the other. -/
def Tie.requests (ties : List (String × Tie)) : List (String × Request) :=
  ties.map fun t => (t.1, t.2.request)

/-- A run of requests that graphs in a database do as they are told. -/
def Accepted (l : Layout) (waits : Bool) (run : List (String × Request)) : Prop :=
  EveryStep (fun before q =>
    (((Graph.inDatabase l q.1 waits).serve q.2).outcome (connectionAfter l waits before)).1
      = .ok .done) run

/-- Whether a tie for an account adds to a row. -/
def addsTo (k : RowKey) (t : String × Tie) : Bool :=
  t.1 == k.account && t.2.writes k.origin k.target && t.2.carries k.relation

/-- The ties among those of accounts that add to a row. -/
def adding (k : RowKey) (ties : List (String × Tie)) : List Tie :=
  (ties.filter (addsTo k)).map (·.2)

theorem addsTo_iff {k : RowKey} {t : String × Tie} :
    addsTo k t = true
      ↔ k ∈ Rows.reinforcedKeys t.1 (t.2.reinforcement.edges t.2.first t.2.second)
          t.2.reinforcement.relations := by
  rw [addsTo, Rows.mem_reinforcedKeys, Bool.and_eq_true, Bool.and_eq_true, beq_iff_eq,
    Tie.writes_iff, Tie.carries_iff, and_assoc, eq_comm]

/-- A tie adds to the rows that its reinforcement writes. -/
theorem adding_concat (k : RowKey) (ties : List (String × Tie)) (t : String × Tie) :
    adding k (ties ++ [t])
      = if k ∈ Rows.reinforcedKeys t.1 (t.2.reinforcement.edges t.2.first t.2.second)
            t.2.reinforcement.relations then adding k ties ++ [t.2]
        else adding k ties := by
  rw [adding, List.filter_append, List.map_append, ← adding]
  split
  · next hmem =>
    rw [List.filter_cons_of_pos (addsTo_iff.2 hmem), List.filter_nil, List.map_singleton]
  · next hmem =>
    rw [List.filter_cons_of_neg fun h => hmem (addsTo_iff.1 h), List.filter_nil, List.map_nil,
      List.append_nil]

theorem exists_of_adding_ne_nil {k : RowKey} {ties : List (String × Tie)}
    (h : adding k ties ≠ []) : ∃ t ∈ ties, t.1 = k.account := by
  obtain ⟨_, hadding⟩ := List.exists_mem_of_ne_nil _ h
  obtain ⟨t, hfiltered, _⟩ := List.mem_map.1 hadding
  obtain ⟨hmem, hadds⟩ := List.mem_filter.1 hfiltered
  exact ⟨t, hmem, (Rows.mem_reinforcedKeys.1 (addsTo_iff.1 hadds)).1.symm⟩

/-! ## Totals -/

/-- What a row holds after ties have added to it, one after the other; none, if there is none. -/
def Sql.Cells.accumulate (ties : List Tie) : Option Cells :=
  if ties = [] then none
  else some ⟨Amount.total (ties.map (·.reinforcement.amount)),
    (ties.map (·.reinforcement.timestamp)).foldl max 0⟩

theorem Sql.Cells.accumulate_nil : accumulate [] = none := rfl

theorem Sql.Cells.accumulate_concat (ties : List Tie) (t : Tie) :
    accumulate (ties ++ [t]) = some (((accumulate ties).getD {}).increased t.reinforcement.amount
      t.reinforcement.timestamp) := by
  have hold : (accumulate ties).getD {} = ⟨Amount.total (ties.map (·.reinforcement.amount)),
      (ties.map (·.reinforcement.timestamp)).foldl max 0⟩ := by
    rw [accumulate]
    split
    · next hnil =>
      rw [hnil]
      rfl
    · rfl
  rw [hold, accumulate, if_neg (by simp), List.map_append, List.map_append, List.map_singleton,
    List.map_singleton, Amount.total_concat, List.foldl_append, increased, ← max_def_lt]
  rfl

/-! ## One reinforcement -/

/-- A tie that a database has room for, and a table whose name can be written everywhere. -/
structure Tie.IsStorable (t : Tie) (table : String) : Prop where
  multiplier : ¬t.reinforcement.multiplier < 1
  amount : Word64.holds t.reinforcement.amount = true
  timestamp : Word64.holds t.reinforcement.timestamp = true
  free : standing table = .free

/-- What a tie of an account makes of a connection: the rows that it writes are increased, and the
    table is ready, as all are that were. -/
structure Connection.Tied (l : Layout) (account : String) (t : Tie) (c c' : Connection) : Prop where
  ready : l.tableOf account ∈ c'.ready
  subset : c.ready ⊆ c'.ready
  cells : ∀ k, c'.cells? l k
    = if k ∈ Rows.reinforcedKeys account (t.reinforcement.edges t.first t.second)
          t.reinforcement.relations then
        some (((c.cells? l k).getD {}).increased t.reinforcement.amount
          t.reinforcement.timestamp)
      else c.cells? l k

/-- A tie that a graph in a database takes can be stored, and is. -/
theorem Connection.exists_tied {l : Layout} {account : String} {waits : Bool} {t : Tie}
    {c : Connection}
    (h : (((Graph.inDatabase l account waits).serve t.request).outcome c).1 = .ok .done) :
    t.IsStorable (l.tableOf account)
      ∧ ∃ c', ((Graph.inDatabase l account waits).serve t.request).Ends c (.ok .done) c'
        ∧ Tied l account t c c' := by
  have hcheck : ¬t.reinforcement.multiplier < 1 := by
    intro hlt
    have hfails : ((Graph.inDatabase l account waits).serve t.request).Ends c (.error _) c :=
      Action.Ends.bind_error _ (Action.Ends.bind_error _ (Graph.ends_check_of_lt hlt account c))
    rw [hfails.outcome.1] at h
    exact nomatch h
  rcases ends_transact_cases .reinforce account (l.tableOf account) (fun rows =>
      return (← rows.reinforce account t.first t.second t.reinforcement, ())) c with
    ⟨e, hends⟩ | ⟨rows, rows', _, hok, hrows, hallows, hdo, hends⟩
  · rw [Tie.request, (Graph.ends_serve_reinforce waits hcheck hends).outcome.1] at h
    exact nomatch h
  · have hrun := Rows.reinforce_unit_eq_ok_iff.1 hdo
    have hfree := Standing.allows_reinforce_iff.1 hallows
    obtain ⟨hamount, htime⟩ := Rows.holds_of_reinforce hrun
    exact ⟨⟨hcheck, hamount, htime, hfree⟩, _, Graph.ends_serve_reinforce waits hcheck hends,
      mem_ready_ensured hok, ready_subset_ensured _ c, cells?_setRowsAt_reinforce hok hrows hrun⟩

/-! ## All of them -/

/-- Every relation holds what the ties come to that add to it, in memory and in a database, and all
    tables that are written to are ready. -/
structure Tallied (l : Layout) (ties : List (String × Tie)) (s : Store) (c : Connection) :
    Prop where
  bonds : ∀ k : RowKey, s.bond? k.account k.origin k.target k.relation
    = Tie.accumulate none (adding k ties)
  cells : ∀ k, c.cells? l k = Cells.accumulate (adding k ties)
  storable : ∀ t ∈ ties, t.2.IsStorable (l.tableOf t.1)
  ready : ∀ t ∈ ties, l.tableOf t.1 ∈ c.ready

variable {l : Layout} {ties : List (String × Tie)} {s : Store} {c : Connection}

theorem tallied_nil (l : Layout) : Tallied l [] {} {} where
  bonds _ := rfl
  cells _ := rfl
  storable _ h := absurd h List.not_mem_nil
  ready _ h := absurd h List.not_mem_nil

/-- One more tie keeps the tally. -/
theorem Tallied.concat (h : Tallied l ties s c) {account : String} {t : Tie}
    (htyped : t.reinforcement.channel.name ≠ Channel.combinedName)
    (hstorable : t.IsStorable (l.tableOf account)) {c' : Connection}
    (htied : Connection.Tied l account t c c') :
    Tallied l (ties ++ [(account, t)]) (t.request.effect account s) c' := by
  have heffect : t.request.effect account s
      = s.reinforce account t.first t.second t.reinforcement := by
    rw [Tie.request, Request.effect_of_ne_remove (by simp), Request.ties,
      if_neg hstorable.multiplier]
    rfl
  refine ⟨fun k => ?_, fun k => ?_, fun t' ht' => ?_, fun t' ht' => ?_⟩
  · rw [heffect, s.bond?_reinforce account t.first t.second htyped, adding_concat, h.bonds]
    simp only [Rows.mem_reinforcedKeys]
    split
    · rw [Tie.accumulate_append, Tie.accumulate_cons, Tie.accumulate_nil]
    · rfl
  · rw [htied.cells, adding_concat, h.cells]
    split
    · rw [Cells.accumulate_concat]
    · rfl
  · rcases List.mem_append.1 ht' with hold | hnew
    · exact h.storable t' hold
    · rw [List.mem_singleton.1 hnew]
      exact hstorable
  · rcases List.mem_append.1 ht' with hold | hnew
    · exact htied.subset (h.ready t' hold)
    · rw [List.mem_singleton.1 hnew]
      exact htied.ready

/-- A run of ties that are accepted is tallied. -/
theorem tallied_requests (waits : Bool)
    (htyped : ∀ t ∈ ties, t.2.reinforcement.channel.name ≠ Channel.combinedName)
    (h : Accepted l waits (Tie.requests ties)) :
    Tallied l ties (storeAfter (Tie.requests ties)) (connectionAfter l waits (Tie.requests ties)) := by
  induction ties using List.reverseRecOn with
  | nil => exact tallied_nil l
  | append_singleton init t ih =>
    have happend : Tie.requests (init ++ [t]) = Tie.requests init ++ [(t.1, t.2.request)] := List.map_append
    rw [happend] at h ⊢
    obtain ⟨hinit, hlast⟩ := everyStep_append.1 h
    obtain ⟨hstorable, c', hends, htied⟩ := Connection.exists_tied hlast
    rw [storeAfter_append, connectionAfter_append hends]
    exact (ih (fun t' ht' => htyped t' (List.mem_append_left _ ht')) hinit).concat
      (htyped t (List.mem_append_right _ List.mem_cons_self)) hstorable htied

/-! ## Reading -/

/-- A relation that ties have added to is read as what they come to. -/
theorem Tallied.ends_serve_bond (h : Tallied l ties s c) (horderly : c.Orderly l) (waits : Bool)
    {account : String} {a b : Contact} {name : Option String} {cells : Cells}
    (hcells : c.cells? l ⟨account, a.key, b.key, Graph.relationName name⟩ = some cells) :
    ∃ c', ((Graph.inDatabase l account waits).serve (.bond a b name)).Ends c
      (.ok (.bond (some ⟨cells.weight.value, cells.updatedAt⟩))) c' := by
  have hwritten : adding ⟨account, a.key, b.key, Graph.relationName name⟩ ties ≠ [] := by
    intro hnil
    rw [h.cells, hnil, Cells.accumulate_nil] at hcells
    cases hcells
  -- A tie that has added to the relation has left the table of the account ready.
  obtain ⟨t, hmem, haccount⟩ := exists_of_adding_ne_nil hwritten
  have hready := h.ready t hmem
  have hfree := (h.storable t hmem).free
  rw [haccount] at hready hfree
  rw [Connection.cells?, Connection.share, Rows.find?_share _ rfl] at hcells
  cases hrows : c.rowsAt (l.tableOf account) with
  | none =>
    rw [hrows, Option.getD_none, Keyed.find?_empty] at hcells
    cases hcells
  | some rows =>
    rw [hrows, Option.getD_some] at hcells
    have hread : (Connection.transact .read account (l.tableOf account) fun rows =>
        .ok (rows, (rows.bond? account a.key b.key (Graph.relationName name)).map
          fun cells => (⟨cells.weight.value, cells.updatedAt⟩ : Bond))).Ends c
        (.ok (some ⟨cells.weight.value, cells.updatedAt⟩)) (c.setRowsAt (l.tableOf account) rows) :=
      Connection.ends_transact_of_mem hready hrows (by rw [hfree]; rfl)
        (by rw [Rows.bond?, hcells]; rfl) horderly.writable
    exact ⟨_, hread.bind (Action.Ends.pure _ _)⟩

/-- A relation that ties have added to, and nothing else, is read as the sum of their amounts in
    memory, and as their total in a database. As long as no sum before the last has more than 64
    bits, the two are the same if the last has no more or is a multiple of 2048, and never else. The
    combined relation is meant by no name and by the empty one, and any other name is read in lower
    case. -/
theorem serve_bond_tallied (l : Layout) (waits : Bool) (ties : List (String × Tie))
    (htyped : ∀ t ∈ ties, t.2.reinforcement.channel.name ≠ Channel.combinedName)
    (haccepted : Accepted l waits (Tie.requests ties)) (account : String) (a b : Contact)
    (name : Option String) :
    let relation := name.elim "combined" fun text =>
      if text = "" then "combined" else Text.lower text
    let added := adding ⟨account, a.key, b.key, relation⟩ ties
    let amounts := added.map (·.reinforcement.amount)
    let time := (added.map (·.reinforcement.timestamp)).foldl max 0
    added ≠ [] →
    (((Graph.inMemory account).serve (.bond a b name)).outcome (storeAfter (Tie.requests ties))).1
        = .ok (.bond (some ⟨amounts.sum, time⟩))
      ∧ (((Graph.inDatabase l account waits).serve (.bond a b name)).outcome
          (connectionAfter l waits (Tie.requests ties))).1
        = .ok (.bond (some ⟨(Amount.total amounts).value, time⟩))
      ∧ ((∀ count < amounts.length, Word64.holds (amounts.take count).sum = true) →
          ((Amount.total amounts).value = amounts.sum
            ↔ Word64.holds amounts.sum = true ∨ 2048 ∣ amounts.sum)) := by
  intro relation added amounts time hwritten
  have htallied := tallied_requests waits htyped haccepted
  have hname : Graph.relationName name = relation := Graph.relationName_eq name
  have hbond : (storeAfter (Tie.requests ties)).bond? account a.key b.key relation
      = some ⟨amounts.sum, time⟩ := by
    have hsum := htallied.bonds ⟨account, a.key, b.key, relation⟩
    rw [Tie.accumulate, if_neg hwritten] at hsum
    rw [hsum, Option.getD_none, zero_add]
  have hcells : (connectionAfter l waits (Tie.requests ties)).cells? l
      ⟨account, a.key, b.key, Graph.relationName name⟩ = some ⟨Amount.total amounts, time⟩ := by
    rw [hname, htallied.cells, Cells.accumulate, if_neg hwritten]
  have hamounts : ∀ n ∈ amounts, Word64.holds n = true := by
    intro n hn
    obtain ⟨t, ht, rfl⟩ := List.mem_map.1 hn
    obtain ⟨_, hmem, rfl⟩ := List.mem_map.1 ht
    exact (htallied.storable _ (List.mem_of_mem_filter hmem)).amount
  obtain ⟨_, hread⟩ := htallied.ends_serve_bond
    (Connection.Orderly.connectionAfter l waits (Tie.requests ties)) waits hcells
  refine ⟨?_, hread.outcome.1, Amount.value_total_eq_iff hamounts⟩
  rw [(Graph.ends_serve_inMemory account (.bond a b name) _).outcome.1, Request.answer, hname, hbond]

/-- Two ties of two contacts, the first of which adds `2 ^ 63 - 2`. -/
def overflowing (second : Channel) : List (String × Tie) :=
  [("acct-1", ⟨⟨"a", none⟩, ⟨"b", none⟩,
      { channel := .direct, timestamp := 10, multiplier := 3074457345618258602 }⟩),
    ("acct-1", ⟨⟨"a", none⟩, ⟨"b", none⟩, { channel := second, timestamp := 20 }⟩)]

/-- A sum of `2 ^ 63` is too large, and read as such all the same. -/
theorem serve_bond_overflowing_cc :
    Accepted {} true (Tie.requests (overflowing .cc)) ∧
      let bond (name : Option String) :=
        (((Graph.inDatabase {} "acct-1" true).serve (.bond ⟨"a", none⟩ ⟨"b", none⟩ name)).outcome
          (connectionAfter {} true (Tie.requests (overflowing .cc)))).1
      bond none = .ok (.bond (some ⟨9223372036854775808, 20⟩))
        ∧ bond (some "TO") = .ok (.bond (some ⟨9223372036854775806, 10⟩)) := by
  have haccepted : Accepted {} true (Tie.requests (overflowing .cc)) :=
    (@everyStep_append _ [_] _).2 ⟨(@everyStep_append _ [] _).2 ⟨everyStep_nil _, by
      decide +kernel⟩, by decide +kernel⟩
  have hserved := serve_bond_tallied {} true (overflowing .cc) (by decide +kernel) haccepted
    "acct-1" ⟨"a", none⟩ ⟨"b", none⟩
  obtain ⟨_, hread, hexact⟩ := hserved none (by decide +kernel)
  have hsame := (hexact (by decide +kernel)).2 (Or.inr (by decide +kernel))
  obtain ⟨_, hread', hexact'⟩ := hserved (some "TO") (by decide +kernel)
  have hsame' := (hexact' (by decide +kernel)).2 (Or.inl (by decide +kernel))
  rw [hsame] at hread
  rw [hsame'] at hread'
  exact ⟨haccepted, hread, hread'⟩

/-- A sum of one more is read as one less. -/
theorem ne_bond_overflowing_direct :
    Accepted {} true (Tie.requests (overflowing .direct))
      ∧ (((Graph.inMemory "acct-1").serve (.bond ⟨"a", none⟩ ⟨"b", none⟩ none)).outcome
          (storeAfter (Tie.requests (overflowing .direct)))).1
        = .ok (.bond (some ⟨9223372036854775809, 20⟩))
      ∧ (((Graph.inDatabase {} "acct-1" true).serve (.bond ⟨"a", none⟩ ⟨"b", none⟩ none)).outcome
          (connectionAfter {} true (Tie.requests (overflowing .direct)))).1
        = .ok (.bond (some ⟨9223372036854775808, 20⟩)) := by
  refine ⟨(@everyStep_append _ [_] _).2 ⟨(@everyStep_append _ [] _).2 ⟨everyStep_nil _, ?_⟩, ?_⟩,
    ?_, ?_⟩
  · decide +kernel
  · decide +kernel
  · decide +kernel
  · decide +kernel

end Rapport
