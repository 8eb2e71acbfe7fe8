import Rapport.Proofs.Graph.Orderly
import Rapport.Proofs.Sql.Like

set_option autoImplicit false

/-! # Removals by data source

When a data source is removed from the graph of an account, all edges are to go that touch a contact
of the source (`Touches`), and no others: the graph is `CutOff` from the source. In memory this is
so. A database looks for the edges with a pattern, and may take others for edges of the source, or
not take the pattern at all. `removeSource_iff` says that the removal is what it is to be just if
the rows of the account leave it no room for that (`Discern`). -/

namespace Rapport

open Sql Identifier

/-- An edge touches a contact of a source: the key of one of its ends begins with the name of the
    source and a colon. -/
def Touches (name origin target : String) : Prop :=
  (name ++ ":").toList <+: origin.toList ∨ (name ++ ":").toList <+: target.toList

instance (name origin target : String) : Decidable (Touches name origin target) :=
  inferInstanceAs (Decidable (_ ∨ _))

/-! ## In memory -/

/-- Of what a store has, another has all but the edges of an account that touch a source. -/
def Store.CutOff (account name : String) (s s' : Store) : Prop :=
  ∀ account' origin target, s'.record? account' origin target
    = if account' = account ∧ Touches name origin target then none
      else s.record? account' origin target

theorem takes_source_iff {name origin target : String} {bonds : Bonds} :
    (Removal.source name).takes origin target bonds = true ↔ Touches name origin target := by
  have htag : Contact.sourceTag name = name ++ ":" := rfl
  rw [Removal.takes, Bool.or_eq_true, List.isPrefixOf_iff_prefix, List.isPrefixOf_iff_prefix, htag,
    Touches]

theorem Store.cutOff_remove (s : Store) (account name : String) :
    s.CutOff account name (s.remove account (Removal.source name).takes) := by
  intro account' origin target
  rw [record?_remove]
  cases s.record? account' origin target with
  | none => rw [Option.filter_none, ite_self]
  | some bonds =>
    by_cases htouched : account' = account ∧ Touches name origin target
    · rw [if_pos htouched, Option.filter_some, takes_source_iff.2 htouched.2, htouched.1]
      simp
    · rw [if_neg htouched, Option.filter_some, if_pos]
      by_cases haccount : account' = account
      · have hnot : (Removal.source name).takes origin target bonds = false :=
          Bool.eq_false_iff.2 fun htakes => htouched ⟨haccount, takes_source_iff.1 htakes⟩
        rw [hnot, Bool.and_false, Bool.not_false]
      · have hother : (account' == account) = false := by simpa using haccount
        rw [hother, Bool.false_and, Bool.not_false]

theorem Store.CutOff.bond?_eq {s s' : Store} {account name : String}
    (h : s.CutOff account name s') (account' origin target relation : String) :
    s'.bond? account' origin target relation
      = if account' = account ∧ Touches name origin target then none
        else s.bond? account' origin target relation := by
  rw [Store.bond?_eq, h]
  split
  · rfl
  · rfl

/-! ## In a database -/

namespace Connection

/-- The cells of a row in the table of its account. -/
def cells? (c : Connection) (l : Layout) (k : RowKey) : Option Cells :=
  (c.share l k.account).find? k

/-- Of what accounts have in a database, they have all afterwards but the edges of one account that
    touch a source. -/
def CutOff (l : Layout) (account name : String) (c c' : Connection) : Prop :=
  ∀ k : RowKey, c'.cells? l k
    = if k.account = account ∧ Touches name k.origin k.target then none else c.cells? l k

/-- A database holds for all accounts what a store does. -/
def Holds (l : Layout) (s : Store) (c : Connection) : Prop :=
  ∀ k : RowKey, c.cells? l k
    = (s.bond? k.account k.origin k.target k.relation).map Cells.ofBond

/-- Where a database holds what a store does, and the store is cut off from a source, the database
    holds what is left just if it is cut off, too. -/
theorem Holds.holds_iff_cutOff {l : Layout} {s s' : Store} {c c' : Connection}
    {account name : String} (h : c.Holds l s) (hs : s.CutOff account name s') :
    c'.Holds l s' ↔ c.CutOff l account name c' := by
  refine forall_congr' fun k => ?_
  rw [hs.bond?_eq, h k]
  split
  · rfl
  · rfl

end Connection

namespace Sql.Rows

/-- Whether a row is found to touch a source, as the database compares texts. -/
def seemsOf (name : String) (k : RowKey) : Bool :=
  startsLike (Contact.sourceTag name) k.origin || startsLike (Contact.sourceTag name) k.target

/-- The database can tell the rows that touch a source from the others: it takes the pattern, and no
    row is found that does not touch the source. -/
def Discern (rows : Rows) (name : String) : Prop :=
  ∀ row ∈ rows.entries, Wild.isUsable (Contact.sourceTag name) = true
    ∧ (seemsOf name row.1 = true → Touches name row.1.origin row.1.target)

theorem seemsOf_of_touches {name : String} {k : RowKey} (h : Touches name k.origin k.target) :
    seemsOf name k = true := by
  rw [seemsOf, Bool.or_eq_true]
  exact h.imp startsLike_of_prefix startsLike_of_prefix

theorem takes_source (rows : Rows) (account name : String) (shadowed : Bool) (k : RowKey)
    (cells : Cells) :
    rows.takes account (.source name) shadowed k cells
      = (k.account == account && seemsOf name k) := rfl

theorem remove_source (rows : Rows) (account name : String) (shadowed : Bool) :
    rows.remove account (.source name) shadowed
      = if rows.canJudge account (.source name) then
          .ok (rows.delete (rows.takes account (.source name) shadowed),
            rows.count (rows.takes account (.source name) shadowed))
        else .error .refused := by
  rw [remove, bindRemoval]
  cases rows.canJudge account (.source name) <;> rfl

/-- A removal is not refused if its pattern is taken, or if there are no rows to put it to. -/
theorem canJudge_source_iff {rows : Rows} {account name : String} :
    rows.canJudge account (.source name) = true
      ↔ ∀ row ∈ (rows.share account).entries, Wild.isUsable (Contact.sourceTag name) = true := by
  rw [canJudge, Bool.or_eq_true, List.all_eq_true]
  constructor
  · rintro (husable | hnone) row hrow
    · exact husable
    · obtain ⟨hmem, haccount⟩ := mem_entries_share.1 hrow
      exact absurd haccount (by simpa using hnone row hmem)
  · intro h
    by_cases husable : Wild.isUsable (Contact.sourceTag name) = true
    · exact Or.inl husable
    · refine Or.inr fun row hmem => ?_
      rw [bne_iff_ne]
      exact fun haccount => husable (h row (mem_entries_share.2 ⟨hmem, haccount⟩))

/-- What a removal leaves is cut off from the source just if no row was found that does not touch
    it. -/
theorem find?_delete_source_iff {rows : Rows} {account name : String} {shadowed : Bool} :
    (∀ k : RowKey, k.account = account →
        (rows.delete (rows.takes account (.source name) shadowed)).find? k
          = if Touches name k.origin k.target then none else rows.find? k)
      ↔ ∀ row ∈ (rows.share account).entries,
          seemsOf name row.1 = true → Touches name row.1.origin row.1.target := by
  have hdelete : ∀ k : RowKey, k.account = account →
      (rows.delete (rows.takes account (.source name) shadowed)).find? k
        = (rows.find? k).filter fun _ => !seemsOf name k := by
    intro k hk
    have howned : (k.account == account) = true := by simpa using hk
    rw [find?_delete]
    simp only [takes_source, howned, Bool.true_and]
  constructor
  · rintro h ⟨k, cells⟩ hrow hseems
    obtain ⟨hmem, hk⟩ := mem_entries_share.1 hrow
    by_contra hnot
    -- The row should have been kept, but the pattern has taken it.
    have hkept := h k hk
    rw [hdelete k hk, if_neg hnot, Keyed.mem_entries.1 hmem, Option.filter_some] at hkept
    dsimp only at hseems
    rw [hseems] at hkept
    cases hkept
  · intro h k hk
    rw [hdelete k hk]
    cases hfound : rows.find? k with
    | none => rw [Option.filter_none, ite_self]
    | some cells =>
      have hrow : (k, cells) ∈ (rows.share account).entries :=
        mem_entries_share.2 ⟨Keyed.mem_entries.2 hfound, hk⟩
      rw [Option.filter_some]
      by_cases htouches : Touches name k.origin k.target
      · rw [if_pos htouches, seemsOf_of_touches htouches]
        rfl
      · have hnot : seemsOf name k = false :=
          Bool.eq_false_iff.2 fun hseems => htouches (h _ hrow hseems)
        rw [if_neg htouches, hnot]
        rfl

end Sql.Rows

namespace Connection

variable {l : Layout} {c : Connection} {account : String}

theorem Orderly.cutOff_setRowsAt_iff (h : Orderly l c) {name : String} {rows : Rows}
    (hok : ((ensureTable (l.tableOf account)).outcome c).1 = .ok ())
    (husable : IsUsableTable (l.tableOf account))
    (hothers : ∀ other, other ≠ account →
      rows.share other = ((c.rowsAt (l.tableOf account)).getD .empty).share other) :
    c.CutOff l account name
        ((Connection.ensured (l.tableOf account) c).2.setRowsAt (l.tableOf account) rows)
      ↔ ∀ k : RowKey, k.account = account → rows.find? k
          = if Touches name k.origin k.target then none
            else ((c.rowsAt (l.tableOf account)).getD .empty).find? k := by
  refine forall_congr' fun k => ?_
  rw [cells?, h.share_setRowsAt hok husable hothers]
  by_cases hk : k.account = account
  · have hold : c.cells? l k = ((c.rowsAt (l.tableOf account)).getD .empty).find? k := by
      rw [cells?, share, Rows.find?_share _ rfl, hk]
    rw [if_pos hk, Rows.find?_share _ hk, hold]
    simp only [hk, true_and, true_implies]
  · rw [if_neg hk, if_neg fun hcut => hk hcut.1, cells?]
    exact iff_of_true rfl fun heq => absurd heq hk

section RemoveSource

variable (h : Orderly l c) (waits : Bool) {name : String}
  (hok : ((ensureTable (l.tableOf account)).outcome c).1 = .ok ())
  (husable : IsUsableTable (l.tableOf account)) {rows : Rows}
  (hrows : rows = (c.rowsAt (l.tableOf account)).getD .empty)

include h hok husable hrows

/-- On an orderly connection a removal by source ends as it does on the rows of the table. -/
theorem Orderly.ends_removeSource (hjudge : rows.canJudge account (.source name) = true) :
    ((Graph.inDatabase l account waits).serve (.remove (.source name))).Ends c (.ok .done)
      ((Connection.ensured (l.tableOf account) c).2.setRowsAt (l.tableOf account)
        (rows.delete (rows.takes account (.source name) (isShadowed (l.tableOf account))))) :=
  Graph.ends_serve_remove waits (h.ends_transact hok husable hrows
    ((rows.remove_source account name _).trans (if_pos hjudge)))

theorem Orderly.ends_removeSource_refused
    (hjudge : ¬rows.canJudge account (.source name) = true) :
    ((Graph.inDatabase l account waits).serve (.remove (.source name))).Ends c
      (.error (.statementRefused (.remove (.source name)) account))
      (Connection.ensured (l.tableOf account) c).2 :=
  Graph.ends_serve_remove waits (h.ends_transact_refusal hok husable hrows
    ((rows.remove_source account name _).trans (if_neg hjudge)))

end RemoveSource

/-- On an orderly connection a removal by source cuts the account off from the source, just if its
    rows can be told apart. -/
theorem Orderly.cutOff_remove_iff (h : Orderly l c) (waits : Bool) (name : String)
    (hok : ((ensureTable (l.tableOf account)).outcome c).1 = .ok ())
    (husable : IsUsableTable (l.tableOf account)) :
    ((((Graph.inDatabase l account waits).serve (.remove (.source name))).outcome c).1 = .ok .done
        ∧ c.CutOff l account name
          (((Graph.inDatabase l account waits).serve (.remove (.source name))).outcome c).2.state)
      ↔ (c.share l account).Discern name := by
  obtain ⟨rows, hrows⟩ : ∃ rows, rows = (c.rowsAt (l.tableOf account)).getD .empty := ⟨_, rfl⟩
  have hdiscern : (c.share l account).Discern name
      ↔ rows.canJudge account (.source name) = true
        ∧ ∀ row ∈ (rows.share account).entries,
          Rows.seemsOf name row.1 = true → Touches name row.1.origin row.1.target := by
    rw [Rows.canJudge_source_iff, share, ← hrows]
    exact forall₂_and
  rw [hdiscern]
  by_cases hjudge : rows.canJudge account (.source name) = true
  · have hserve := h.ends_removeSource waits hok husable hrows hjudge
    have hothers : ∀ other, other ≠ account →
        (rows.delete (rows.takes account (.source name)
          (isShadowed (l.tableOf account)))).share other
        = ((c.rowsAt (l.tableOf account)).getD .empty).share other := by
      intro other hne
      rw [← hrows]
      exact Rows.confined_remove account (.source name) _ hne
        ((rows.remove_source account name _).trans (if_pos hjudge))
    rw [hserve.outcome.1, hserve.outcome.2, h.cutOff_setRowsAt_iff hok husable hothers, ← hrows,
      Rows.find?_delete_source_iff]
    exact and_congr_left' (iff_of_true rfl hjudge)
  · have hserve := h.ends_removeSource_refused waits hok husable hrows hjudge
    rw [hserve.outcome.1]
    exact iff_of_false (by simp) fun hboth => hjudge hboth.1

end Connection

/-! ## Both -/

/-- In memory a removal by source always cuts the account off from the source. In a database it
    does, and then it leaves what is left in memory, just if the database can tell the rows of the
    account apart. -/
theorem removeSource_iff (l : Layout) (waits : Bool) (run : List (String × Request))
    (account name : String)
    (hok : ((Connection.ensureTable (l.tableOf account)).outcome
      (connectionAfter l waits run)).1 = .ok ())
    (husable : IsUsableTable (l.tableOf account)) :
    let c := connectionAfter l waits run
    let inMemory s := ((Graph.inMemory account).serve (.remove (.source name))).outcome s
    let inDatabase := ((Graph.inDatabase l account waits).serve (.remove (.source name))).outcome c
    (∀ s, (inMemory s).1 = .ok .done ∧ s.CutOff account name (inMemory s).2.state)
      ∧ ((inDatabase.1 = .ok .done ∧ c.CutOff l account name inDatabase.2.state)
        ↔ (c.share l account).Discern name)
      ∧ ∀ s, c.Holds l s →
        ((inDatabase.1 = .ok .done ∧ inDatabase.2.state.Holds l (inMemory s).2.state)
          ↔ (c.share l account).Discern name) := by
  have hmemory : ∀ s : Store,
      (((Graph.inMemory account).serve (.remove (.source name))).outcome s).1 = .ok .done
      ∧ s.CutOff account name
        (((Graph.inMemory account).serve (.remove (.source name))).outcome s).2.state := by
    intro s
    obtain ⟨hresult, hstate⟩ :=
      (Graph.ends_serve_inMemory account (.remove (.source name)) s).outcome
    rw [hresult, hstate]
    exact ⟨rfl, s.cutOff_remove account name⟩
  have hdatabase := (Connection.Orderly.connectionAfter l waits run).cutOff_remove_iff waits name
    hok husable
  refine ⟨hmemory, hdatabase, fun s hs => ?_⟩
  rw [hs.holds_iff_cutOff (hmemory s).2]
  exact hdatabase

/-- A tie of a contact of one source, from a message at time 10. -/
def sourced : List (String × Request) :=
  [("acct-1", .reinforce ⟨"bob@example.com", some "Work"⟩ ⟨"amy@example.com", none⟩
    { channel := .direct, timestamp := 10 })]

/-- A contact of the source is told from the others by its own name. -/
theorem cutOff_sourced :
    ((Connection.ensureTable (({} : Layout).tableOf "acct-1")).outcome
        (connectionAfter {} true sourced)).1 = .ok ()
      ∧ ((connectionAfter {} true sourced).share {} "acct-1").Discern "Work"
      ∧ (connectionAfter {} true sourced).CutOff {} "acct-1" "Work"
        (((Graph.inDatabase {} "acct-1" true).serve (.remove (.source "Work"))).outcome
          (connectionAfter {} true sourced)).2.state := by
  have hok : ((Connection.ensureTable (({} : Layout).tableOf "acct-1")).outcome
      (connectionAfter {} true sourced)).1 = .ok () := by decide +kernel
  have hdiscern : ((connectionAfter {} true sourced).share {} "acct-1").Discern "Work" := by
    unfold Rows.Discern
    decide +kernel
  exact ⟨hok, hdiscern, ((removeSource_iff {} true sourced "acct-1" "Work" hok
    (isSoundTable_usual "acct-1").toIsUsableTable).2.1.2 hdiscern).2⟩

/-- The contact of one source is lost when another one is removed whose name differs from the first
    in case only. -/
theorem not_cutOff_sourced :
    ¬(connectionAfter {} true sourced).CutOff {} "acct-1" "work"
      (((Graph.inDatabase {} "acct-1" true).serve (.remove (.source "work"))).outcome
        (connectionAfter {} true sourced)).2.state := by
  intro h
  have hrow := h ⟨"acct-1", "Work:bob@example.com", "amy@example.com", "combined"⟩
  rw [if_neg (by decide)] at hrow
  have hthere : (connectionAfter {} true sourced).cells? {}
      ⟨"acct-1", "Work:bob@example.com", "amy@example.com", "combined"⟩ ≠ none := by decide +kernel
  rw [← hrow] at hthere
  exact hthere (by decide +kernel)

end Rapport
