import Rapport.Graph.InMemory
import Rapport.Proofs.Store
import Rapport.Sql.Table

set_option autoImplicit false

/-! # Rows that show a store

The rows of an account show a store if there is one row for each relation that the store holds for
the account, with its weight and its time. `Shows` says so, and it is kept by the statements that
write: `exists_reinforce` and `exists_remove` carry out a reinforcement and a removal on the rows,
and what comes of it is what comes of them in the store. The rows of other accounts stay as they
are.

The integers have to fit. A removal by data source is left out: a database compares texts in another
way. -/

namespace Rapport.Sql

open Numeral

/-! ## Cells -/

/-- The cells of the row that stands for a bond. -/
def Cells.ofBond (b : Bond) : Cells := ⟨.whole b.weight, b.updatedAt⟩

@[simp] theorem Cells.value_weight_ofBond (b : Bond) : (ofBond b).weight.value = b.weight := by
  rw [ofBond, Amount.value]

@[simp] theorem Cells.updatedAt_ofBond (b : Bond) : (ofBond b).updatedAt = b.updatedAt := by
  rw [ofBond]

/-- The cells of a row after it has been increased. -/
def Cells.increased (c : Cells) (amount timestamp : Int) : Cells :=
  ⟨c.weight.add amount, if c.updatedAt < timestamp then timestamp else c.updatedAt⟩

theorem Cells.ofBond_reinforced {b : Bond} {amount timestamp : Int}
    (h : Word64.holds (b.weight + amount) = true) :
    ofBond (b.reinforced amount timestamp) = (ofBond b).increased amount timestamp := by
  have hweight : (Amount.whole b.weight).add amount = .whole (b.weight + amount) := if_pos h
  have htime : max b.updatedAt timestamp
      = if b.updatedAt < timestamp then timestamp else b.updatedAt := by
    split <;> omega
  show Cells.mk (.whole (b.weight + amount)) (max b.updatedAt timestamp) = Cells.mk _ _
  rw [← hweight, htime]
  rfl

theorem bind_of_holds {n : Int} (h : Word64.holds n = true) : bind n = .ok () := by
  rw [bind, if_pos h]

theorem bind_of_not_holds {n : Int} (h : Word64.holds n = false) : bind n = .error .tooLarge := by
  rw [bind, if_neg (by simp [h])]

namespace Rows

/-- The rows of an account stand for the relations that a store holds for it. -/
def Shows (rows : Rows) (account : String) (s : Store) : Prop :=
  ∀ origin target relation, rows.find? ⟨account, origin, target, relation⟩
    = (s.bond? account origin target relation).map Cells.ofBond

/-! ## Reinforcing -/

theorem mem_reinforcedKeys {account : String} {edges : List (String × String)}
    {relations : List String} {k : RowKey} :
    k ∈ reinforcedKeys account edges relations
      ↔ k.account = account ∧ (k.origin, k.target) ∈ edges ∧ k.relation ∈ relations := by
  rw [reinforcedKeys, List.mem_flatMap]
  constructor
  · rintro ⟨e, he, hk⟩
    obtain ⟨relation, hrelation, rfl⟩ := List.mem_map.1 hk
    exact ⟨rfl, he, Ascending.mem_ofList.1 hrelation⟩
  · rintro ⟨rfl, he, hrelation⟩
    exact ⟨_, he, List.mem_map.2 ⟨k.relation, Ascending.mem_ofList.2 hrelation, rfl⟩⟩

theorem find?_foldl_increase (account : String) (relations : List String)
    (amount timestamp : Int) {es : List (String × String)} (hes : es.Nodup) (rows : Rows)
    (k : RowKey) :
    (es.foldl (fun rows e => rows.increase account e.1 e.2 relations amount timestamp) rows).find? k
      = (rows.find? k).map fun cells =>
          if k ∈ reinforcedKeys account es relations then cells.increased amount timestamp
          else cells := by
  simp only [mem_reinforcedKeys]
  induction es generalizing rows with
  | nil => simp
  | cons e rest ih =>
    obtain ⟨he, hrest⟩ := List.nodup_cons.1 hes
    rw [List.foldl_cons, ih hrest, increase, Keyed.find?_map, Option.map_map]
    congr 1
    funext cells
    by_cases hedge : (k.origin, k.target) = e
    · subst hedge
      by_cases hrow : k.account = account ∧ k.relation ∈ relations
      · simp [he, hrow, Cells.increased]
      · simp only [List.mem_cons_self, Function.comp_apply, true_and, he, false_and, and_false,
          if_false, if_neg hrow]
    · have hends : ¬(k.origin = e.1 ∧ k.target = e.2) := fun h => hedge (Prod.ext h.1 h.2)
      have hnot : ¬(k.account = account ∧ k.origin = e.1 ∧ k.target = e.2
          ∧ k.relation ∈ relations) := fun h => hends ⟨h.2.1, h.2.2.1⟩
      simp only [Function.comp_apply, if_neg hnot, List.mem_cons, hedge, false_or]

/-- A reinforcement whose integers fit is carried out. -/
theorem reinforce_eq {r : Reinforcement} (hamount : Word64.holds r.amount = true)
    (htime : Word64.holds r.timestamp = true) (rows : Rows) (account : String) (a b : Contact) :
    rows.reinforce account a b r
      = .ok ((r.edges a b).foldl
          (fun rows e => rows.increase account e.1 e.2 r.relations r.amount r.timestamp)
          (rows.insertMissing (reinforcedKeys account (r.edges a b) r.relations))) := by
  rw [reinforce, bind_of_holds hamount, bind_of_holds htime]
  exact List.foldlM_pure

/-- A reinforcement whose time does not fit is given up at its first edge. -/
theorem reinforce_of_not_holds {r : Reinforcement} (hamount : Word64.holds r.amount = true)
    (htime : Word64.holds r.timestamp = false) (rows : Rows) (account : String) (a b : Contact) :
    rows.reinforce account a b r = .error .tooLarge := by
  have hedge : (a.key, b.key) ∈ r.edges a b := Reinforcement.mem_edges.2 (Or.inl ⟨rfl, rfl⟩)
  rw [reinforce, bind_of_holds hamount, bind_of_not_holds htime]
  cases hedges : r.edges a b with
  | nil => exact absurd (hedges ▸ hedge) List.not_mem_nil
  | cons e rest => rfl

/-- A reinforcement changes the rows that it writes, and no others. -/
theorem find?_reinforce {rows rows' : Rows} {account : String} {a b : Contact} {r : Reinforcement}
    (hamount : Word64.holds r.amount = true) (htime : Word64.holds r.timestamp = true)
    (h : rows.reinforce account a b r = .ok rows') (k : RowKey) :
    rows'.find? k
      = if k ∈ reinforcedKeys account (r.edges a b) r.relations then
          some (((rows.find? k).getD {}).increased r.amount r.timestamp)
        else rows.find? k := by
  rw [reinforce_eq hamount htime, Except.ok.injEq] at h
  rw [← h, find?_foldl_increase _ _ _ _ (r.nodup_edges a b), insertMissing,
    Keyed.find?_foldl_ensure]
  by_cases hk : k ∈ reinforcedKeys account (r.edges a b) r.relations
  · simp [hk]
  · simp [hk]

theorem exists_reinforce {rows : Rows} {account : String} {s : Store} (h : rows.Shows account s)
    {r : Reinforcement} (hname : r.channel.name ≠ Channel.combinedName) {a b : Contact}
    (hamount : Word64.holds r.amount = true) (htime : Word64.holds r.timestamp = true)
    (hfits : ∀ origin target relation bond,
      (s.reinforce account a b r).bond? account origin target relation = some bond →
        Word64.holds bond.weight = true) :
    ∃ rows', rows.reinforce account a b r = .ok rows'
      ∧ rows'.Shows account (s.reinforce account a b r)
      ∧ ∀ k : RowKey, k.account ≠ account → rows'.find? k = rows.find? k := by
  refine ⟨_, reinforce_eq hamount htime rows account a b, ?_, ?_⟩
  · intro origin target relation
    rw [find?_reinforce hamount htime (reinforce_eq hamount htime rows account a b), h]
    have hbond := s.bond?_reinforce account a b hname account origin target relation
    have hfit := hfits origin target relation
    simp only [mem_reinforcedKeys, true_and] at hbond ⊢
    by_cases hwritten : (origin, target) ∈ r.edges a b ∧ relation ∈ r.relations
    · rw [if_pos hwritten] at hbond
      rw [if_pos hwritten, hbond, Option.map_some,
        Cells.ofBond_reinforced (hfit _ hbond)]
      cases s.bond? account origin target relation <;> rfl
    · rw [if_neg hwritten] at hbond
      rw [if_neg hwritten, hbond]
  · intro k hk
    rw [find?_reinforce hamount htime (reinforce_eq hamount htime rows account a b), if_neg]
    exact fun hmem => hk (mem_reinforcedKeys.1 hmem).1

/-! ## Removing -/

theorem find?_delete (rows : Rows) (p : RowKey → Cells → Bool) (k : RowKey) :
    (rows.delete p).find? k = (rows.find? k).filter fun cells => !p k cells :=
  Keyed.find?_filter rows _ k

/-- An edge is stale if its combined row is old enough. -/
theorem any_stale_iff {rows : Rows} {account origin target : String} {cutoff : Int} :
    (rows.entries.any fun row => isStale cutoff row && (row.1.account == account
        && row.1.origin == origin && row.1.target == target)) = true
      ↔ ∃ cells, rows.bond? account origin target Channel.combinedName = some cells
        ∧ cells.updatedAt ≤ cutoff := by
  -- All rows are searched for one that makes the edge stale, but only its combined one can.
  have hrow : ∀ row : RowKey × Cells, (isStale cutoff row && (row.1.account == account
        && row.1.origin == origin && row.1.target == target)) = true
      ↔ row.1 = ⟨account, origin, target, Channel.combinedName⟩ ∧ row.2.updatedAt ≤ cutoff := by
    rintro ⟨⟨account', origin', target', relation'⟩, cells'⟩
    simp only [isStale, Bool.and_eq_true, beq_iff_eq, decide_eq_true_eq, RowKey.mk.injEq]
    tauto
  simp only [List.any_eq_true, hrow]
  constructor
  · rintro ⟨⟨k, cells⟩, hmem, rfl, hold⟩
    exact ⟨cells, Keyed.mem_entries.1 hmem, hold⟩
  · rintro ⟨cells, hfound, hold⟩
    exact ⟨_, Keyed.mem_entries.2 hfound, rfl, hold⟩

/-- A row of the account stands for a relation of an edge, and is taken out if the edge is. -/
theorem takes_eq {rows : Rows} {account : String} {s : Store} (h : rows.Shows account s)
    {what : Removal} (hsource : ∀ name, what ≠ .source name) {origin target : String}
    {bonds : Bonds} (hrec : s.record? account origin target = some bonds) (relation : String)
    (cells : Cells) :
    rows.takes account what false ⟨account, origin, target, relation⟩ cells
      = what.takes origin target bonds := by
  cases what with
  | contact c => simp [takes, Removal.takes]
  | between a b => simp [takes, Removal.takes]
  | source name => exact absurd rfl (hsource name)
  | everything => simp [takes, Removal.takes]
  | stale cutoff =>
    have hcombined : rows.bond? account origin target Channel.combinedName
        = (bonds.find? Channel.combinedName).map Cells.ofBond := by
      rw [bond?, h origin target Channel.combinedName, Store.bond?_eq, hrec, Option.bind_some]
    rw [takes, Removal.takes, Bool.eq_iff_iff]
    simp only [beq_self_eq_true, Bool.true_and, Bool.false_or, any_stale_iff, hcombined]
    cases bonds.find? Channel.combinedName with
    | none => simp
    | some b => simp

theorem remove_eq {what : Removal} (hsource : ∀ name, what ≠ .source name)
    (hcutoff : ∀ cutoff, what = .stale cutoff → Word64.holds cutoff = true) (rows : Rows)
    (account : String) (shadowed : Bool) :
    rows.remove account what shadowed
      = .ok (rows.delete (rows.takes account what shadowed),
          rows.count (rows.takes account what shadowed)) := by
  cases what with
  | contact c => rfl
  | between a b => rfl
  | source name => exact absurd rfl (hsource name)
  | everything => rfl
  | stale cutoff =>
    rw [remove, bindRemoval, bind_of_holds (hcutoff cutoff rfl)]
    rfl

theorem exists_remove {rows : Rows} {account : String} {s : Store} (h : rows.Shows account s)
    {what : Removal} (hsource : ∀ name, what ≠ .source name)
    (hcutoff : ∀ cutoff, what = .stale cutoff → Word64.holds cutoff = true) :
    ∃ rows' n, rows.remove account what false = .ok (rows', n)
      ∧ rows'.Shows account (s.remove account what.takes)
      ∧ ∀ k : RowKey, k.account ≠ account → rows'.find? k = rows.find? k := by
  refine ⟨_, _, remove_eq hsource hcutoff rows account false, ?_, ?_⟩
  · intro origin target relation
    rw [find?_delete, h, Store.bond?_remove]
    cases hrec : s.record? account origin target with
    | none => simp [Store.bond?_eq, hrec]
    | some bonds =>
      simp only [takes_eq h hsource hrec, true_and, Option.any_some]
      cases s.bond? account origin target relation with
      | none => simp
      | some b =>
        by_cases htaken : what.takes origin target bonds = true
        · simp [htaken, Option.filter]
        · simp [htaken, Option.filter]
  · intro k hk
    have hnot : ∀ cells, rows.takes account what false k cells = false := fun cells => by
      simp [takes, hk]
    rw [find?_delete]
    cases rows.find? k with
    | none => rfl
    | some cells => simp [hnot, Option.filter]

/-- In a shadowed table one stale edge, of whatever account, makes all edges of an account stale. -/
theorem takes_shadowed {rows : Rows} {row : RowKey × Cells} (hrow : row ∈ rows.entries)
    {cutoff : Int} (hstale : isStale cutoff row = true) (account : String) (k : RowKey)
    (cells : Cells) : rows.takes account (.stale cutoff) true k cells = (k.account == account) := by
  rw [takes, List.any_eq_true.2 ⟨row, hrow, ?_⟩, Bool.and_true]
  rw [hstale]
  rfl

/-- In a shadowed table a removal of stale edges takes out all rows of the account as soon as one
    edge is stale. -/
theorem exists_remove_shadowed {rows : Rows} {account : String} {s : Store}
    (h : rows.Shows account s) {cutoff : Int} (hcutoff : Word64.holds cutoff = true)
    {origin target : String} {b : Bond}
    (hb : s.bond? account origin target Channel.combinedName = some b)
    (hstale : b.updatedAt ≤ cutoff) :
    ∃ rows' n, rows.remove account (.stale cutoff) true = .ok (rows', n)
      ∧ rows'.Shows account (s.remove account fun _ _ _ => true)
      ∧ ∀ k : RowKey, k.account ≠ account → rows'.find? k = rows.find? k := by
  have hrow := h origin target Channel.combinedName
  rw [hb, Option.map_some] at hrow
  have hstaleRow : isStale cutoff
      (⟨account, origin, target, Channel.combinedName⟩, Cells.ofBond b) = true := by
    simp [isStale, hstale]
  have htakes := takes_shadowed (Keyed.mem_entries.2 hrow) hstaleRow account
  refine ⟨_, _, remove_eq (by simp) (fun c hc => ?_) rows account true, ?_, ?_⟩
  · rw [Removal.stale.injEq] at hc
    exact hc ▸ hcutoff
  · intro origin target relation
    rw [find?_delete, Store.bond?_remove, h]
    simp only [htakes, beq_self_eq_true, Bool.not_true]
    cases hrec : s.record? account origin target with
    | none => simp [Store.bond?_eq, hrec]
    | some bonds => simp
  · intro k hk
    rw [find?_delete]
    simp only [htakes]
    cases rows.find? k with
    | none => rfl
    | some cells => simp [hk, Option.filter]

end Rows

end Rapport.Sql
