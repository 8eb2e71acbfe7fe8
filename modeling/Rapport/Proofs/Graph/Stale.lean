import Rapport.Proofs.Graph.Divergence
import Rapport.Proofs.Graph.Stock

set_option autoImplicit false

/-! # Removals of stale edges

An edge is stale if its combined relation is no later than a cutoff. Pruning is to take all
relations of the stale edges of an account, and to leave all others as they are, however old they
are themselves: the graph is `Pruned`. In memory it is. In a database it is just if the account is
`Prunable`: the cutoff is one that the database takes, and no edge of the account is fresh beside a
stale one if the table has the very name under which its rows are seen a second time.

Prunings add up. One after the other they leave what the one with the latest cutoff leaves, in
memory and in a database, whatever the name of the table (`remove_stale_remove_stale`,
`pruned_pruned`). `prune_iff` puts all of this together. -/

namespace Rapport

open Sql Identifier Numeral

/-! ## In memory -/

namespace Store

/-- The combined relation of an edge is no later than a cutoff. -/
def IsStale (s : Store) (cutoff : Int) (account origin target : String) : Prop :=
  ∃ b ∈ s.bond? account origin target Channel.combinedName, b.updatedAt ≤ cutoff

instance (s : Store) (cutoff : Int) (account origin target : String) :
    Decidable (s.IsStale cutoff account origin target) :=
  inferInstanceAs (Decidable (∃ b ∈ _, _))

/-- Of what a store has, another has all but the stale edges of an account. -/
def Pruned (account : String) (cutoff : Int) (s s' : Store) : Prop :=
  ∀ account' origin target, s'.record? account' origin target
    = if account' = account ∧ s.IsStale cutoff account origin target then none
      else s.record? account' origin target

theorem takes_stale_iff {s : Store} {account origin target : String} {bonds : Bonds}
    (h : s.record? account origin target = some bonds) (cutoff : Int) :
    (Removal.stale cutoff).takes origin target bonds = true
      ↔ s.IsStale cutoff account origin target := by
  rw [Removal.takes, IsStale, bond?_eq, h, Option.bind_some]
  cases bonds.find? Channel.combinedName with
  | none => simp
  | some b => simp

theorem pruned_remove (s : Store) (account : String) (cutoff : Int) :
    s.Pruned account cutoff (s.remove account (Removal.stale cutoff).takes) := by
  intro account' origin target
  rw [record?_remove]
  cases hrecord : s.record? account' origin target with
  | none => rw [Option.filter_none, ite_self]
  | some bonds =>
    by_cases haccount : account' = account
    · subst haccount
      have htakes := takes_stale_iff hrecord cutoff
      by_cases hstale : s.IsStale cutoff account' origin target
      · simp [hstale, htakes.2 hstale]
      · simp [hstale, Bool.eq_false_iff.2 (mt htakes.1 hstale)]
    · simp [haccount]

theorem takes_stale_max (c₁ c₂ : Int) (origin target : String) (bonds : Bonds) :
    (Removal.stale (max c₁ c₂)).takes origin target bonds
      = ((Removal.stale c₁).takes origin target bonds
        || (Removal.stale c₂).takes origin target bonds) := by
  unfold Removal.takes
  cases bonds.find? Channel.combinedName with
  | none => rfl
  | some b => simp only [le_max_iff, Bool.decide_or]

/-- Two prunings come to one, with the later cutoff. -/
theorem remove_stale_remove_stale (s : Store) (account : String) (c₁ c₂ : Int) :
    (s.remove account (Removal.stale c₁).takes).remove account (Removal.stale c₂).takes
      = s.remove account (Removal.stale (max c₁ c₂)).takes := by
  rw [remove_remove]
  congr 1
  funext origin target bonds
  exact (takes_stale_max c₁ c₂ origin target bonds).symm

end Store

/-! ## Rows -/

namespace Sql.Rows

/-- The rows that a removal of the stale edges of an account leaves. -/
def pruned (rows : Rows) (account : String) (cutoff : Int) (shadowed : Bool) : Rows :=
  rows.delete (rows.takes account (.stale cutoff) shadowed)

theorem remove_stale (rows : Rows) (account : String) (cutoff : Int) (shadowed : Bool) :
    rows.remove account (.stale cutoff) shadowed
      = if Word64.holds cutoff = true then
          .ok (rows.pruned account cutoff shadowed,
            rows.count (rows.takes account (.stale cutoff) shadowed))
        else .error .tooLarge := by
  rw [remove, bindRemoval, bind]
  split <;> rfl

/-- A row is seen where it is judged whether another one is of a stale edge: it is of the same edge
    or, in a shadowed table, whatever row. -/
def Seen (shadowed : Bool) (seen k : RowKey) : Prop :=
  shadowed = true ∨ seen.account = k.account ∧ seen.origin = k.origin ∧ seen.target = k.target

theorem Seen.trans {shadowed : Bool} {k k' k'' : RowKey} (h : Seen shadowed k k')
    (h' : Seen shadowed k' k'') : Seen shadowed k k'' := by
  rcases h with hshadowed | ⟨ha, ho, ht⟩
  · exact Or.inl hshadowed
  · exact h'.imp_right fun ⟨ha', ho', ht'⟩ => ⟨ha.trans ha', ho.trans ho', ht.trans ht'⟩

theorem takes_stale_iff {rows : Rows} {account : String} {cutoff : Int} {shadowed : Bool}
    {k : RowKey} {cells : Cells} :
    rows.takes account (.stale cutoff) shadowed k cells = true
      ↔ k.account = account
        ∧ ∃ row ∈ rows.entries, isStale cutoff row = true ∧ Seen shadowed row.1 k := by
  simp only [takes, Seen, Bool.and_eq_true, Bool.or_eq_true, beq_iff_eq, List.any_eq_true,
    and_assoc]

theorem isStale_max {c₁ c₂ : Int} {row : RowKey × Cells} :
    isStale (max c₁ c₂) row = true ↔ isStale c₁ row = true ∨ isStale c₂ row = true := by
  simp only [isStale, le_max_iff, Bool.and_eq_true, decide_eq_true_eq, and_or_left]

theorem mem_entries_pruned {rows : Rows} {account : String} {cutoff : Int} {shadowed : Bool}
    {row : RowKey × Cells} :
    row ∈ (rows.pruned account cutoff shadowed).entries
      ↔ row ∈ rows.entries
        ∧ ¬rows.takes account (.stale cutoff) shadowed row.1 row.2 = true := by
  rw [pruned, delete, Keyed.entries_filter, List.mem_filter, Bool.not_eq_true', Bool.not_eq_true]

/-- Two prunings come to one, with the later cutoff. -/
theorem pruned_pruned (rows : Rows) (account : String) (c₁ c₂ : Int) (shadowed : Bool) :
    (rows.pruned account c₁ shadowed).pruned account c₂ shadowed
      = rows.pruned account (max c₁ c₂) shadowed := by
  have htakes : ∀ row ∈ rows.entries, (rows.takes account (.stale c₁) shadowed row.1 row.2 = true
        ∨ (rows.pruned account c₁ shadowed).takes account (.stale c₂) shadowed row.1 row.2 = true)
      ↔ rows.takes account (.stale (max c₁ c₂)) shadowed row.1 row.2 = true := by
    rintro ⟨k, cells⟩ _
    simp only [takes_stale_iff, isStale_max, mem_entries_pruned]
    constructor
    · rintro (⟨hk, row, hrow, hstale, hseen⟩ | ⟨hk, row, ⟨hrow, _⟩, hstale, hseen⟩)
      · exact ⟨hk, row, hrow, Or.inl hstale, hseen⟩
      · exact ⟨hk, row, hrow, Or.inr hstale, hseen⟩
    · rintro ⟨hk, row, hrow, hstale | hstale, hseen⟩
      · exact Or.inl ⟨hk, row, hrow, hstale, hseen⟩
      · -- If the first pruning has taken the row that is seen, it has taken this one, too.
        by_cases htaken : row.1.account = account
            ∧ ∃ row' ∈ rows.entries, isStale c₁ row' = true ∧ Seen shadowed row'.1 row.1
        · obtain ⟨_, row', hrow', hstale', hseen'⟩ := htaken
          exact Or.inl ⟨hk, row', hrow', hstale', hseen'.trans hseen⟩
        · exact Or.inr ⟨hk, row, ⟨hrow, htaken⟩, hstale, hseen⟩
  show ((rows.filter _).filter _ : Rows) = rows.filter _
  rw [Keyed.filter_filter]
  refine Keyed.filter_congr fun row hrow => ?_
  rw [← Bool.not_or, Bool.not_inj_iff, Bool.eq_iff_iff, Bool.or_eq_true]
  exact htakes row hrow

/-- The combined row of an edge is no later than a cutoff. -/
def EdgeIsStale (rows : Rows) (cutoff : Int) (account origin target : String) : Prop :=
  ∃ cells ∈ rows.bond? account origin target Channel.combinedName, cells.updatedAt ≤ cutoff

instance (rows : Rows) (cutoff : Int) (account origin target : String) :
    Decidable (rows.EdgeIsStale cutoff account origin target) :=
  inferInstanceAs (Decidable (∃ cells ∈ _, _))

theorem edgeIsStale_iff {rows : Rows} {cutoff : Int} {k : RowKey} :
    rows.EdgeIsStale cutoff k.account k.origin k.target
      ↔ ∃ row ∈ rows.entries, isStale cutoff row = true ∧ Seen false row.1 k := by
  rw [EdgeIsStale]
  simp only [Option.mem_def, ← any_stale_iff, Seen, List.any_eq_true, Bool.and_eq_true,
    beq_iff_eq, and_assoc, Bool.false_eq_true, false_or]

/-- A pruning takes just the stale edges of the account if none of them is stale by a row that is
    seen in its place. -/
theorem find?_pruned_iff {rows : Rows} {account : String} {cutoff : Int} {shadowed : Bool} :
    (∀ k : RowKey, k.account = account → (rows.pruned account cutoff shadowed).find? k
        = if rows.EdgeIsStale cutoff account k.origin k.target then none else rows.find? k)
      ↔ (shadowed = true → (∃ row ∈ rows.entries, isStale cutoff row = true) →
          ∀ k : RowKey, k.account = account → rows.find? k ≠ none →
            rows.EdgeIsStale cutoff account k.origin k.target) := by
  have hkey : ∀ k : RowKey, k.account = account →
      ((rows.pruned account cutoff shadowed).find? k
          = (if rows.EdgeIsStale cutoff account k.origin k.target then none else rows.find? k)
        ↔ ((∃ row ∈ rows.entries, isStale cutoff row = true ∧ Seen shadowed row.1 k) →
            rows.find? k ≠ none → rows.EdgeIsStale cutoff account k.origin k.target)) := by
    rintro k rfl
    have htakes : ∀ cells, rows.takes k.account (.stale cutoff) shadowed k cells = true
        ↔ ∃ row ∈ rows.entries, isStale cutoff row = true ∧ Seen shadowed row.1 k :=
      fun cells => takes_stale_iff.trans (and_iff_right rfl)
    rw [pruned, find?_delete]
    cases rows.find? k with
    | none => simp
    | some cells =>
      rw [Option.filter_some, ← htakes cells]
      by_cases hstale : rows.EdgeIsStale cutoff k.account k.origin k.target
      · obtain ⟨row, hrow, hold, hseen⟩ := edgeIsStale_iff.1 hstale
        have htaken := (htakes cells).2 ⟨row, hrow, hold, Or.inr (hseen.resolve_left (by simp))⟩
        simp [hstale, htaken]
      · simp [hstale]
  cases shadowed with
  | false =>
    -- In a table of its own name an edge is stale by its own rows only.
    refine iff_of_true (fun k hk => (hkey k hk).2 fun hseen _ => ?_) (by simp)
    rw [← hk]
    exact edgeIsStale_iff.2 hseen
  | true =>
    constructor
    · rintro h - ⟨row, hrow, hold⟩ k hk
      exact (hkey k hk).1 (h k hk) ⟨row, hrow, hold, Or.inl rfl⟩
    · intro h k hk
      refine (hkey k hk).2 ?_
      rintro ⟨row, hrow, hold, -⟩
      exact h rfl ⟨row, hrow, hold⟩ k hk

/-- A pruning takes nothing where there is nothing to take. -/
theorem pruned_of_forall {rows : Rows} {account : String}
    (h : ∀ k : RowKey, k.account = account → rows.find? k = none) (cutoff : Int)
    (shadowed : Bool) : rows.pruned account cutoff shadowed = rows := by
  refine Keyed.ext_entries ?_
  rw [pruned, delete, Keyed.entries_filter, List.filter_eq_self]
  rintro ⟨k, cells⟩ hrow
  rw [Bool.not_eq_true']
  refine Bool.eq_false_iff.2 fun htaken => ?_
  have hnone := h k (account_of_takes htaken)
  rw [Keyed.mem_entries.1 hrow] at hnone
  exact nomatch hnone

end Sql.Rows

/-! ## In a database -/

/-- What a removal of the edges that are stale at a cutoff answers, and the state that it leaves. -/
def Graph.prune {σ : Type} (g : Graph σ) (cutoff : Int) (s : σ) : Except Failure Answer × σ :=
  let run := (g.serve (.remove (.stale cutoff))).outcome s
  (run.1, run.2.state)

theorem Graph.prune_of_ends {σ : Type} {g : Graph σ} {cutoff : Int} {s s' : σ}
    {result : Except Failure Answer}
    (h : (g.serve (.remove (.stale cutoff))).Ends s result s') : g.prune cutoff s = (result, s') :=
  Prod.ext h.outcome.1 h.outcome.2

namespace Connection

variable {l : Layout} {c : Connection} {account : String} {cutoff : Int}

/-- The rows of the table of an account, its own and others. -/
def tableRows (c : Connection) (l : Layout) (account : String) : Rows :=
  (c.rowsAt (l.tableOf account)).getD .empty

/-- Of what accounts have in a database, they have all afterwards but the stale edges of one
    account. -/
def Pruned (l : Layout) (account : String) (cutoff : Int) (c c' : Connection) : Prop :=
  ∀ k : RowKey, c'.cells? l k
    = if k.account = account
          ∧ (c.tableRows l account).EdgeIsStale cutoff account k.origin k.target then none
      else c.cells? l k

/-- An account can be pruned: no row of it that is not of a stale edge is beside a stale one in a
    shadowed table and, if the cutoff is one that the database does not take, nothing is stale. -/
def Prunable (l : Layout) (account : String) (cutoff : Int) (c : Connection) : Prop :=
  let rows := c.tableRows l account
  if Word64.holds cutoff = true then
    isShadowed (l.tableOf account) = true →
      (∃ row ∈ rows.entries, Rows.isStale cutoff row = true) →
        ∀ k : RowKey, k.account = account → rows.find? k ≠ none →
          rows.EdgeIsStale cutoff account k.origin k.target
  else ∀ origin target, ¬rows.EdgeIsStale cutoff account origin target

theorem cells?_eq_tableRows (c : Connection) (l : Layout) {k : RowKey} (hk : k.account = account) :
    c.cells? l k = (c.tableRows l account).find? k := by
  rw [cells?_eq, hk]
  rfl

theorem tableRows_of_rowsAt {rows : Rows} (hrows : c.rowsAt (l.tableOf account) = some rows) :
    c.tableRows l account = rows := by
  rw [tableRows, hrows, Option.getD_some]

theorem tableRows_setRowsAt {rows : Rows} (hrows : c.rowsAt (l.tableOf account) = some rows)
    (rows' : Rows) : (c.setRowsAt (l.tableOf account) rows').tableRows l account = rows' := by
  rw [tableRows, rowsAt_setRowsAt, if_pos rfl, hrows]
  rfl

/-- What a pruning comes to, right or wrong: the rows of the table of the account are pruned, unless
    the cutoff is one that the database does not take, and those of other accounts are as they
    were. -/
structure Pruning (l : Layout) (account : String) (cutoff : Int) (c c' : Connection) : Prop where
  rows : c'.tableRows l account
    = if Word64.holds cutoff = true then
        (c.tableRows l account).pruned account cutoff (isShadowed (l.tableOf account))
      else c.tableRows l account
  others : ∀ k : RowKey, k.account ≠ account → c'.cells? l k = c.cells? l k

/-- What a pruning comes to is what it should come to just if the account can be pruned. -/
theorem Pruning.pruned_iff {c' : Connection} (h : Pruning l account cutoff c c') :
    c.Pruned l account cutoff c' ↔ c.Prunable l account cutoff := by
  have hpruned : c.Pruned l account cutoff c' ↔ ∀ k : RowKey, k.account = account →
      (c'.tableRows l account).find? k
        = if (c.tableRows l account).EdgeIsStale cutoff account k.origin k.target then none
          else (c.tableRows l account).find? k := by
    refine forall_congr' fun k => ?_
    by_cases hk : k.account = account
    · rw [cells?_eq_tableRows c l hk, cells?_eq_tableRows c' l hk]
      simp only [hk, true_and, true_implies]
    · rw [h.others k hk, if_neg fun hcut => hk hcut.1]
      exact iff_of_true rfl fun heq => absurd heq hk
  rw [hpruned, h.rows, Prunable]
  split
  · exact Rows.find?_pruned_iff
  · constructor
    · -- The combined row of an edge that is stale is still there.
      rintro hkeep origin target ⟨cells, hcells, hold⟩
      have hkept := hkeep ⟨account, origin, target, Channel.combinedName⟩ rfl
      rw [if_pos ⟨cells, hcells, hold⟩] at hkept
      exact absurd (hkept.symm.trans hcells) (by simp)
    · exact fun hfresh k _ => (if_neg (hfresh k.origin k.target)).symm

/-- Two prunings come to what one with the later cutoff comes to, if the database takes both
    cutoffs. -/
theorem Pruning.cells?_eq_max {c₁ c₂ : Int} {s s₁ s₂ s' : Connection}
    (h₁ : Pruning l account c₁ s s₁) (h₂ : Pruning l account c₂ s₁ s₂)
    (h : Pruning l account (max c₁ c₂) s s') (hc₁ : Word64.holds c₁ = true)
    (hc₂ : Word64.holds c₂ = true) (k : RowKey) : s₂.cells? l k = s'.cells? l k := by
  by_cases hk : k.account = account
  · have hmax : Word64.holds (max c₁ c₂) = true := by
      rcases max_choice c₁ c₂ with heq | heq
      · rw [heq, hc₁]
      · rw [heq, hc₂]
    have hrows := h.rows
    rw [if_pos hmax, ← Rows.pruned_pruned] at hrows
    have hrows₂ := h₂.rows
    rw [if_pos hc₂, h₁.rows, if_pos hc₁] at hrows₂
    rw [cells?_eq_tableRows _ _ hk, cells?_eq_tableRows _ _ hk, hrows₂, hrows]
  · rw [h₂.others k hk, h₁.others k hk, h.others k hk]

/-- Where the account has rows, its table is there and takes the pruning, unless the database does
    not take the cutoff. -/
theorem Stocked.prune_of_cells (h : Stocked l c) (hwritable : c.isWritable = true)
    (waits : Bool) (cutoff : Int)
    (hcells : ∃ k : RowKey, k.account = account ∧ c.cells? l k ≠ none) :
    ((Graph.inDatabase l account waits).prune cutoff c).1
        = (if Word64.holds cutoff = true then .ok .done else .error .integerTooLarge)
      ∧ Pruning l account cutoff c ((Graph.inDatabase l account waits).prune cutoff c).2 := by
  obtain ⟨k, hk, hcell⟩ := hcells
  obtain ⟨hready, hfree⟩ := h k hcell
  rw [hk] at hready hfree
  have hallows : (standing (l.tableOf account)).allows (.remove (.stale cutoff)) = true := by
    rw [hfree]
    rfl
  obtain ⟨rows, hrows⟩ : ∃ rows, c.rowsAt (l.tableOf account) = some rows := by
    cases hrows : c.rowsAt (l.tableOf account) with
    | some rows => exact ⟨rows, rfl⟩
    | none =>
      rw [cells?_eq, hk, hrows] at hcell
      exact absurd rfl hcell
  have hremove := rows.remove_stale account cutoff (isShadowed (l.tableOf account))
  by_cases hholds : Word64.holds cutoff = true
  · rw [if_pos hholds] at hremove
    rw [Graph.prune_of_ends (Graph.ends_serve_remove waits
      (ends_transact_of_mem hready hrows hallows hremove hwritable)), if_pos hholds]
    refine ⟨rfl, ?_, fun k hne => ?_⟩
    · rw [tableRows_setRowsAt hrows, if_pos hholds, tableRows_of_rowsAt hrows]
    · rw [cells?_setRowsAt hrows fun _ hother => Rows.confined_remove account _ _ hother hremove,
        if_neg hne]
  · rw [if_neg hholds] at hremove
    have hensured : Connection.ensured (l.tableOf account) c = (.ok (), c) := ensured_of_mem hready
    rw [Graph.prune_of_ends (Graph.ends_serve_remove waits (ends_transact_tooLarge
      (by rw [hensured]) (by rw [hensured, hrows]) hallows hremove)), hensured, if_neg hholds]
    exact ⟨rfl, (if_neg hholds).symm, fun _ _ => rfl⟩

/-- Where the account has no rows, nothing is changed, whatever becomes of the pruning. -/
theorem pruning_of_forall (waits : Bool) (c : Connection) (cutoff : Int)
    (hcells : ∀ k : RowKey, k.account = account → c.cells? l k = none) :
    Pruning l account cutoff c ((Graph.inDatabase l account waits).prune cutoff c).2 := by
  have hnone : ∀ k : RowKey, k.account = account → (c.tableRows l account).find? k = none := by
    intro k hk
    rw [← hcells k hk, cells?_eq_tableRows c l hk]
  have hensured : (Connection.ensured (l.tableOf account) c).2.tableRows l account
      = c.tableRows l account := getD_rowsAt_ensured _ _ _
  obtain ⟨result, c', hends, heq⟩ := exists_ends_transact (.remove (.stale cutoff)) account
    (l.tableOf account)
    (fun rows => rows.remove account (.stale cutoff) (isShadowed (l.tableOf account))) c
  rw [Graph.prune_of_ends (Graph.ends_serve_remove waits hends)]
  rcases heq with rfl | ⟨rows, rows', n, _, hrows, _, hrun, rfl⟩
  · refine ⟨?_, fun k _ => cells?_ensured _ _ _⟩
    rw [hensured, Rows.pruned_of_forall hnone, ite_self]
  · have htable := tableRows_of_rowsAt hrows
    rw [hensured] at htable
    subst htable
    refine ⟨?_, fun k hne => ?_⟩
    · rw [tableRows_setRowsAt hrows, Rows.eq_delete_of_remove hrun, Rows.pruned_of_forall hnone,
        ite_self]
      exact Rows.pruned_of_forall hnone _ _
    · rw [cells?_setRowsAt hrows fun _ hother => Rows.confined_remove account _ _ hother hrun,
        if_neg hne, cells?_ensured]

theorem Stocked.pruning (h : Stocked l c) (hwritable : c.isWritable = true) (waits : Bool)
    (account : String) (cutoff : Int) :
    Pruning l account cutoff c ((Graph.inDatabase l account waits).prune cutoff c).2 := by
  by_cases hcells : ∃ k : RowKey, k.account = account ∧ c.cells? l k ≠ none
  · exact (h.prune_of_cells hwritable waits cutoff hcells).2
  · exact pruning_of_forall waits c cutoff fun k hk => by_contra fun hcell => hcells ⟨k, hk, hcell⟩

section Run

variable (l : Layout) (waits : Bool) (run : List (String × Request)) (account : String)

theorem pruning_connectionAfter (cutoff : Int) :
    Pruning l account cutoff (connectionAfter l waits run)
      ((Graph.inDatabase l account waits).prune cutoff (connectionAfter l waits run)).2 :=
  (stocked_connectionAfter l waits run).pruning (Orderly.connectionAfter l waits run).writable
    waits account cutoff

/-- A pruning is a request more of a run. -/
theorem prune_connectionAfter (cutoff : Int) :
    ((Graph.inDatabase l account waits).prune cutoff (connectionAfter l waits run)).2
      = connectionAfter l waits (run ++ [(account, .remove (.stale cutoff))]) := by
  rw [connectionAfter, connectionAfter, Graph.after, Graph.after, List.foldl_append]
  rfl

theorem cells?_prune_prune {c₁ c₂ : Int} (h₁ : Word64.holds c₁ = true)
    (h₂ : Word64.holds c₂ = true) (k : RowKey) :
    let g := Graph.inDatabase l account waits
    (g.prune c₂ (g.prune c₁ (connectionAfter l waits run)).2).2.cells? l k
      = (g.prune (max c₁ c₂) (connectionAfter l waits run)).2.cells? l k := by
  have hsecond := pruning_connectionAfter l waits (run ++ [(account, .remove (.stale c₁))]) account
    c₂
  rw [← prune_connectionAfter] at hsecond
  exact (pruning_connectionAfter l waits run account c₁).cells?_eq_max hsecond
    (pruning_connectionAfter l waits run account _) h₁ h₂ k

end Run

end Connection

/-! ## Both -/

/-- In memory a pruning always takes all relations of just the stale edges of the account. In a
    database it does just if the account can be pruned and, if the account has rows, it is answered
    just if the database takes the cutoff. Two prunings with cutoffs that are taken leave, in
    whatever order, what one with the later cutoff leaves. -/
theorem prune_iff (l : Layout) (waits : Bool) (run : List (String × Request)) (account : String) :
    let c := connectionAfter l waits run
    let memory := Graph.inMemory account
    let database := Graph.inDatabase l account waits
    (∀ s cutoff, (memory.prune cutoff s).1 = .ok .done
        ∧ s.Pruned account cutoff (memory.prune cutoff s).2)
      ∧ (∀ s c₁ c₂, (memory.prune c₂ (memory.prune c₁ s).2).2 = (memory.prune (max c₁ c₂) s).2
        ∧ (memory.prune c₁ (memory.prune c₂ s).2).2 = (memory.prune (max c₁ c₂) s).2)
      ∧ (∀ cutoff, c.Pruned l account cutoff (database.prune cutoff c).2
        ↔ c.Prunable l account cutoff)
      ∧ (∀ cutoff, (∃ k : RowKey, k.account = account ∧ c.cells? l k ≠ none) →
        (database.prune cutoff c).1
          = if Word64.holds cutoff = true then .ok .done else .error .integerTooLarge)
      ∧ (∀ c₁ c₂, Word64.holds c₁ = true → Word64.holds c₂ = true → ∀ k : RowKey,
        (database.prune c₂ (database.prune c₁ c).2).2.cells? l k
            = (database.prune (max c₁ c₂) c).2.cells? l k
          ∧ (database.prune c₁ (database.prune c₂ c).2).2.cells? l k
            = (database.prune (max c₁ c₂) c).2.cells? l k) := by
  have hmemory : ∀ (s : Store) cutoff, (Graph.inMemory account).prune cutoff s
      = (.ok .done, s.remove account (Removal.stale cutoff).takes) := fun s cutoff =>
    Graph.prune_of_ends (Graph.ends_serve_inMemory account (.remove (.stale cutoff)) s)
  dsimp only
  refine ⟨fun s cutoff => ?_, fun s c₁ c₂ => ?_, fun cutoff => ?_, fun cutoff hcells => ?_,
    fun c₁ c₂ h₁ h₂ k => ⟨?_, ?_⟩⟩
  · rw [hmemory]
    exact ⟨rfl, s.pruned_remove account cutoff⟩
  · simp only [hmemory, Store.remove_stale_remove_stale, max_comm c₂ c₁, and_self]
  · exact (Connection.pruning_connectionAfter l waits run account cutoff).pruned_iff
  · exact ((Connection.stocked_connectionAfter l waits run).prune_of_cells
      (Connection.Orderly.connectionAfter l waits run).writable waits cutoff hcells).1
  · exact Connection.cells?_prune_prune l waits run account h₁ h₂ k
  · rw [max_comm c₁ c₂]
    exact Connection.cells?_prune_prune l waits run account h₂ h₁ k

/-- A stale edge, and a fresh one of which a relation is as old. -/
def ageing : List (String × Request) :=
  let tie a b channel timestamp :=
    ("x", Request.reinforce ⟨a, none⟩ ⟨b, none⟩ { channel, timestamp })
  [tie "a" "b" .direct 10, tie "c" "d" .direct 10, tie "c" "d" .cc 100]

/-- In a table of its own name the fresh edge is kept. -/
theorem prune_iff_ageing :
    (connectionAfter {} true ageing).Pruned {} "x" 50
        ((Graph.inDatabase {} "x" true).prune 50 (connectionAfter {} true ageing)).2 :=
  ((prune_iff {} true ageing "x").2.2.1 50).2 fun hshadowed => absurd hshadowed (by decide)

/-- In a shadowed table it is taken, too. -/
theorem not_pruned_ageing :
    ¬∀ (l : Layout) (waits : Bool) (run : List (String × Request)) (account : String)
      (cutoff : Int), (connectionAfter l waits run).Pruned l account cutoff
        ((Graph.inDatabase l account waits).prune cutoff (connectionAfter l waits run)).2 := by
  intro h
  have hkept := h shadowedLayout true ageing "x" 50 ⟨"x", "c", "d", "combined"⟩
  revert hkept
  decide +kernel

end Rapport
