import Rapport.Proofs.Keyed.Part
import Rapport.Proofs.Sql.Rows

set_option autoImplicit false

/-! # The rows of one account

A table may hold the rows of many accounts. `Rows.share` are those of one. A transaction for an
account is `Confined` if it changes no other's share, and `Local` if besides its own share is all
that it goes by. Every transaction of a graph is confined, and every one is local but for the
removal of stale edges from a shadowed table. -/

namespace Rapport.Sql.Rows

open Numeral

variable {α : Type} {account : String}

/-- The rows of an account. -/
def share (rows : Rows) (account : String) : Rows := rows.part fun k => k.account = account

theorem entries_share (rows : Rows) (account : String) :
    (rows.share account).entries = rows.entries.filter fun row => row.1.account = account :=
  Keyed.entries_part _ _

theorem find?_share (rows : Rows) {account : String} {k : RowKey} (h : k.account = account) :
    (rows.share account).find? k = rows.find? k := by
  rw [share, Keyed.find?_part, if_pos (decide_eq_true h)]

theorem mem_entries_share {rows : Rows} {row : RowKey × Cells} :
    row ∈ (rows.share account).entries ↔ row ∈ rows.entries ∧ row.1.account = account := by
  rw [entries_share, List.mem_filter, decide_eq_true_eq]

/-! ## Transactions of one account -/

/-- A transaction that leaves the rows of all other accounts as they are. -/
def Confined (account : String) (f : Rows → Except Refusal (Rows × α)) : Prop :=
  ∀ {account' : String}, account' ≠ account → ∀ {rows rows' : Rows} {a : α},
    f rows = .ok (rows', a) → rows'.share account' = rows.share account'

/-- A transaction that does to the rows of its account what it does where they are the only ones. -/
def Local (account : String) (f : Rows → Except Refusal (Rows × α)) : Prop :=
  ∀ rows : Rows,
    (f rows).map (fun result => (result.1.share account, result.2)) = f (rows.share account)

/-! ## Reinforcing -/

theorem reinforce_of_not_holds_amount {r : Reinforcement} (hamount : Word64.holds r.amount = false)
    (rows : Rows) (account : String) (a b : Contact) :
    rows.reinforce account a b r = .error .tooLarge := by
  have hedge : (a.key, b.key) ∈ r.edges a b := Reinforcement.mem_edges.2 (Or.inl ⟨rfl, rfl⟩)
  rw [reinforce, bind_of_not_holds hamount]
  cases hedges : r.edges a b with
  | nil => exact absurd (hedges ▸ hedge) List.not_mem_nil
  | cons e rest => rfl

/-- A reinforcement is carried out if its integers fit, and given up else, whatever the rows. -/
theorem reinforce_eq_ite (rows : Rows) (account : String) (a b : Contact) (r : Reinforcement) :
    rows.reinforce account a b r
      = if Word64.holds r.amount = true ∧ Word64.holds r.timestamp = true then
          .ok ((r.edges a b).foldl
            (fun rows e => rows.increase account e.1 e.2 r.relations r.amount r.timestamp)
            (rows.insertMissing (reinforcedKeys account (r.edges a b) r.relations)))
        else .error .tooLarge := by
  by_cases hamount : Word64.holds r.amount = true
  · by_cases htime : Word64.holds r.timestamp = true
    · rw [if_pos ⟨hamount, htime⟩, reinforce_eq hamount htime]
    · rw [if_neg fun h => htime h.2,
        reinforce_of_not_holds hamount (Bool.eq_false_iff.2 htime)]
  · rw [if_neg fun h => hamount h.1,
      reinforce_of_not_holds_amount (Bool.eq_false_iff.2 hamount)]

/-- The integers of a reinforcement that is carried out fit. -/
theorem holds_of_reinforce {rows rows' : Rows} {a b : Contact} {r : Reinforcement}
    (h : rows.reinforce account a b r = .ok rows') :
    Word64.holds r.amount = true ∧ Word64.holds r.timestamp = true := by
  rw [reinforce_eq_ite] at h
  split at h
  · next hholds => exact hholds
  · exact nomatch h

/-- The transaction of a reinforcement is carried out if the reinforcement is. -/
theorem reinforce_unit_eq_ok_iff {rows rows' : Rows} {a b : Contact} {r : Reinforcement} :
    (do return (← rows.reinforce account a b r, ()) : Except Refusal (Rows × Unit)) = .ok (rows', ())
      ↔ rows.reinforce account a b r = .ok rows' := by
  cases rows.reinforce account a b r with
  | error e => exact iff_of_false nofun nofun
  | ok rows₁ =>
    show Except.ok (rows₁, ()) = .ok (rows', ()) ↔ Except.ok rows₁ = .ok rows'
    rw [Except.ok.injEq, Except.ok.injEq, Prod.mk.injEq, and_iff_left rfl]

theorem share_upsert (rows : Rows) {k : RowKey} (h : k.account = account)
    (f : Option Cells → Cells) :
    share (rows.upsert k f) account = (rows.share account).upsert k f := by
  let mine (k : RowKey) : Bool := k.account = account
  have hk : mine k = true := decide_eq_true h
  exact Keyed.part_upsert hk rows f

theorem share_upsert_of_ne (rows : Rows) {k : RowKey} (h : k.account ≠ account)
    (f : Option Cells → Cells) : share (rows.upsert k f) account = rows.share account := by
  let mine (k : RowKey) : Bool := k.account = account
  have hk : mine k = false := decide_eq_false h
  exact Keyed.part_upsert_of_not hk rows f

theorem share_insertMissing (rows : Rows) {keys : List RowKey}
    (h : ∀ k ∈ keys, k.account = account) :
    (rows.insertMissing keys).share account = (rows.share account).insertMissing keys := by
  induction keys generalizing rows with
  | nil => rfl
  | cons k rest ih =>
    have hrest := ih (rows.upsert k fun cells => cells.getD {})
      fun k' hmem => h k' (List.mem_cons_of_mem _ hmem)
    rw [share_upsert rows (h k List.mem_cons_self)] at hrest
    exact hrest

theorem share_insertMissing_of_ne (rows : Rows) {keys : List RowKey}
    (h : ∀ k ∈ keys, k.account ≠ account) :
    (rows.insertMissing keys).share account = rows.share account := by
  induction keys generalizing rows with
  | nil => rfl
  | cons k rest ih =>
    have hrest := ih (rows.upsert k fun cells => cells.getD {})
      fun k' hmem => h k' (List.mem_cons_of_mem _ hmem)
    rw [share_upsert_of_ne rows (h k List.mem_cons_self)] at hrest
    exact hrest

theorem share_foldl_increase (rows : Rows) (account : String) (relations : List String)
    (amount timestamp : Int) (es : List (String × String)) :
    (es.foldl (fun rows e => rows.increase account e.1 e.2 relations amount timestamp)
        rows).share account
      = es.foldl (fun rows e => rows.increase account e.1 e.2 relations amount timestamp)
          (rows.share account) := by
  induction es generalizing rows with
  | nil => rfl
  | cons e rest ih =>
    rw [List.foldl_cons, ih, List.foldl_cons]
    congr 1
    exact Keyed.part_filterMap _ _ _

theorem share_foldl_increase_of_ne (rows : Rows) {account' : String} (h : account ≠ account')
    (relations : List String) (amount timestamp : Int) (es : List (String × String)) :
    (es.foldl (fun rows e => rows.increase account' e.1 e.2 relations amount timestamp)
        rows).share account = rows.share account := by
  induction es generalizing rows with
  | nil => rfl
  | cons e rest ih =>
    rw [List.foldl_cons, ih]
    refine Keyed.part_filterMap_of_some (fun k cells hk => ?_) _
    have hnot : ¬(k.account = account' ∧ k.origin = e.1 ∧ k.target = e.2
        ∧ k.relation ∈ relations) :=
      fun hwritten => h ((of_decide_eq_true hk).symm.trans hwritten.1)
    exact congrArg some (if_neg hnot)

section Reinforce

variable (account) (a b : Contact) (r : Reinforcement)

theorem local_reinforce :
    Local account fun rows => return (← rows.reinforce account a b r, ()) := by
  intro rows
  simp only [reinforce_eq_ite]
  split
  · show Except.ok (share _ account, ()) = Except.ok _
    rw [share_foldl_increase, share_insertMissing _ fun k hk => (mem_reinforcedKeys.1 hk).1]
  · rfl

theorem confined_reinforce :
    Confined account fun rows => return (← rows.reinforce account a b r, ()) := by
  intro account' hne rows rows' _ h
  have hrun : rows.reinforce account a b r = .ok rows' := reinforce_unit_eq_ok_iff.1 h
  rw [reinforce_eq_ite] at hrun
  split at hrun
  · rw [← Except.ok.inj hrun, share_foldl_increase_of_ne _ hne, share_insertMissing_of_ne]
    exact fun k hk heq => hne (heq.symm.trans (mem_reinforcedKeys.1 hk).1)
  · exact nomatch hrun

end Reinforce

/-! ## Removing -/

/-- Whether a row is stale that may make an edge of an account so depends on the rows of the
    account, unless the table is shadowed. -/
theorem any_stale_share (rows : Rows) {account : String} {k : RowKey} (hk : k.account = account)
    (cutoff : Int) :
    ((rows.share account).entries.any fun row => isStale cutoff row && (false
        || (row.1.account == k.account && row.1.origin == k.origin && row.1.target == k.target)))
      = rows.entries.any fun row => isStale cutoff row && (false
        || (row.1.account == k.account && row.1.origin == k.origin
          && row.1.target == k.target)) := by
  rw [entries_share, List.any_filter, hk]
  congr 1
  funext row
  by_cases hrow : row.1.account = account
  · simp [hrow]
  · simp [hrow]

theorem takes_share (rows : Rows) (account : String) (what : Removal) (k : RowKey)
    (cells : Cells) : (rows.share account).takes account what false k cells
      = rows.takes account what false k cells := by
  by_cases hk : k.account = account
  · cases what with
    | stale cutoff =>
      rw [takes, takes]
      exact congrArg (k.account == account && ·) (any_stale_share rows hk cutoff)
    | contact c | between a b | source name | everything => rfl
  · have hother : (k.account == account) = false := by simpa using hk
    unfold takes
    rw [hother, Bool.false_and, Bool.false_and]

theorem canJudge_share (rows : Rows) (account : String) (what : Removal) :
    (rows.share account).canJudge account what = rows.canJudge account what := by
  cases what with
  | source name =>
    rw [canJudge, canJudge, entries_share, List.all_filter]
    congr 2
    funext row
    by_cases hrow : row.1.account = account
    · simp [hrow]
    · simp [hrow]
  | contact c | between a b | everything | stale cutoff => rfl

theorem share_delete (rows : Rows) (account : String) (p : RowKey → Cells → Bool) :
    (rows.delete p).share account = (rows.share account).delete p :=
  Keyed.part_filterMap _ _ _

theorem count_share (rows : Rows) {p : RowKey → Cells → Bool}
    (h : ∀ k cells, p k cells = true → k.account = account) :
    (rows.share account).count p = rows.count p := by
  rw [count, count, entries_share, List.countP_filter]
  refine List.countP_congr fun row _ => ?_
  rw [Bool.and_eq_true, decide_eq_true_eq]
  exact ⟨And.left, fun hp => ⟨hp, h _ _ hp⟩⟩

theorem account_of_takes {rows : Rows} {what : Removal} {shadowed : Bool} {k : RowKey}
    {cells : Cells} (h : rows.takes account what shadowed k cells = true) :
    k.account = account := by
  unfold takes at h
  rw [Bool.and_eq_true] at h
  exact beq_iff_eq.1 h.1

theorem local_remove (account : String) (what : Removal) :
    Local account fun rows => rows.remove account what false := by
  intro rows
  have htakes : (rows.share account).takes account what false = rows.takes account what false :=
    funext fun k => funext fun cells => takes_share rows account what k cells
  simp only [remove, canJudge_share, htakes]
  cases bindRemoval what with
  | error e => rfl
  | ok _ =>
    cases rows.canJudge account what with
    | false => rfl
    | true =>
      show Except.ok ((rows.delete _).share account, _) = Except.ok _
      rw [share_delete, count_share rows fun _ _ => account_of_takes]

/-- A removal that is carried out deletes the rows that it takes. -/
theorem eq_delete_of_remove {rows rows' : Rows} {what : Removal} {shadowed : Bool} {n : Nat}
    (h : rows.remove account what shadowed = .ok (rows', n)) :
    rows' = rows.delete (rows.takes account what shadowed) := by
  simp only [remove] at h
  cases hbind : bindRemoval what with
  | error e =>
    rw [hbind] at h
    cases h
  | ok _ =>
    rw [hbind] at h
    cases hjudge : rows.canJudge account what with
    | false =>
      rw [hjudge] at h
      cases h
    | true =>
      rw [hjudge] at h
      exact (congrArg Prod.fst (Except.ok.inj h)).symm

theorem confined_remove (account : String) (what : Removal) (shadowed : Bool) :
    Confined account fun rows => rows.remove account what shadowed := by
  intro account' hne rows rows' n h
  rw [eq_delete_of_remove h]
  refine Keyed.part_filterMap_of_some (fun k cells hk => ?_) _
  have hnot : rows.takes account what shadowed k cells = false :=
    Bool.eq_false_iff.2 fun htakes =>
      hne ((of_decide_eq_true hk).symm.trans (account_of_takes htakes))
  exact if_pos (congrArg not hnot)

/-! ## Reading -/

/-- A transaction that only reads is confined. -/
theorem confined_of_fst_eq {f : Rows → Except Refusal (Rows × α)}
    (h : ∀ {rows rows' a}, f rows = .ok (rows', a) → rows' = rows) : Confined account f :=
  fun _ _ _ _ hok => by rw [h hok]

theorem local_bond? (account origin target relation : String) (f : Option Cells → α) :
    Local account fun rows => .ok (rows, f (rows.bond? account origin target relation)) := by
  intro rows
  have hfound : (rows.share account).bond? account origin target relation
      = rows.bond? account origin target relation := find?_share rows rfl
  exact congrArg (fun cells => Except.ok (rows.share account, f cells)) hfound.symm

/-- A query leaves the rows as they are. -/
theorem eq_of_related {rows rows' : Rows} {q : Query} {suggestions : List Suggestion}
    (h : (do return (rows, ← rows.related account q) : Except Refusal _)
      = .ok (rows', suggestions)) : rows' = rows := by
  cases hrelated : rows.related account q with
  | error e =>
    rw [hrelated] at h
    cases h
  | ok found =>
    rw [hrelated] at h
    exact (congrArg Prod.fst (Except.ok.inj h)).symm

theorem related_share (rows : Rows) (account : String) (q : Query) :
    (rows.share account).related account q = rows.related account q := by
  have hcounted : (rows.share account).entries.filter (fun row => counts q account row.1 row.2)
      = rows.entries.filter fun row => counts q account row.1 row.2 := by
    rw [entries_share, List.filter_filter]
    refine List.filter_congr fun row _ => ?_
    by_cases hrow : row.1.account = account
    · simp [hrow]
    · simp [counts, hrow]
  rw [related, related, hcounted]

theorem local_related (account : String) (q : Query) :
    Local account fun rows => return (rows, ← rows.related account q) := by
  intro rows
  simp only [related_share]
  cases rows.related account q <;> rfl

end Rapport.Sql.Rows
