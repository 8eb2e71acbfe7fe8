import Rapport.Proofs.Graph.Divergence
import Rapport.Proofs.Graph.Isolation

set_option autoImplicit false

/-! # Accounts that disturb each other

A table that has the name under which its rows are seen a second time is always one of several
accounts, and in it one account's stale edge makes another's fresh edges go when that one asks for
its stale edges to be removed (`exists_not_undisturbed`). Under any other name no account is
disturbed, so `undisturbed_iff` says just when an account is disturbed in no run. -/

namespace Rapport

open Sql Identifier

/-! ## Shadowed tables -/

theorem standing_of_isShadowed {table : String} (h : isShadowed table = true) :
    standing table = .free := by
  have hfold : fold (denoted table) = secondName := of_decide_eq_true h
  have hnot : ∀ {words : List String}, (∀ word ∈ words, fold word ≠ secondName) →
      denoted table ∉ words := fun hwords hmem => hwords _ hmem hfold
  have hrefused : denoted table ∉ refusedWords := hnot (by decide)
  have hbare : denoted table ∉ bareWords := hnot (by decide)
  have hwith : denoted table ∉ ["with"] := hnot (by decide)
  rw [List.mem_singleton] at hwith
  simp [standing, hrefused, hbare, hwith]

/-- No shadowed table has the rows of one account only. -/
theorem exists_ne_tableOf_eq {l : Layout} {account : String}
    (h : isShadowed (l.tableOf account) = true) :
    ∃ other, other ≠ account ∧ l.tableOf other = l.tableOf account := by
  have hfold : fold (denoted (l.tableOf account)) = secondName := of_decide_eq_true h
  obtain ⟨partition, stem⟩ := l
  cases partition with
  | combined => exact ⟨account ++ "x", by simp, rfl⟩
  | account =>
    have htable : ∀ a, (⟨.account, stem⟩ : Layout).tableOf a = tableName stem (some a) :=
      fun _ => rfl
    rw [htable, denoted_tableName_some] at hfold
    have hlists := congrArg String.toList hfold
    rw [toList_fold_tableName_some] at hlists
    have hsecond : secondName.toList = "combined".toList ++ '_' :: "edge".toList := by decide
    rw [hsecond, eq_comm, List.append_cons_inj_of_notMem (by decide) (by decide)] at hlists
    have hpart : accountPart account = "edge" := String.toList_injective hlists.2.2.symm
    have hsame : ∀ a, accountPart a = "edge" →
        (⟨.account, stem⟩ : Layout).tableOf a = (⟨.account, stem⟩ : Layout).tableOf account := by
      intro a ha
      rw [htable, htable, tableName, tableName, ha, hpart]
    by_cases haccount : account = "edge"
    · refine ⟨"EDGE", ?_, hsame _ (by decide +kernel)⟩
      rw [haccount]
      decide
    · exact ⟨"edge", Ne.symm haccount, hsame _ (by decide +kernel)⟩

namespace Graph

open Connection

variable {l : Layout} {waits : Bool} {account : String} {c : Connection} {rows : Rows}

/-- The key of a row of an edge. -/
def edgeKey (account : String) : RowKey := ⟨account, "a", "b", Channel.combinedName⟩

/-- A row of a fresh edge, and no others. -/
def freshRows (account : String) : Rows := Keyed.empty.insert (edgeKey account) ⟨.whole 0, 3⟩

theorem exists_fresh (l : Layout) (account : String) :
    ∃ c : Connection, c.isWritable = true ∧ l.tableOf account ∈ c.ready
      ∧ c.rowsAt (l.tableOf account) = some (freshRows account) := by
  let stored : Stored := ⟨l.tableOf account, freshRows account⟩
  let db : Database := ⟨Keyed.empty.insert (fold (denoted (l.tableOf account))) stored, Keyed.empty⟩
  refine ⟨{ database := some db, ready := [l.tableOf account] }, rfl, List.mem_cons_self, ?_⟩
  simp [rowsAt, Database.rows?, db, stored]

theorem ends_serve_trial (a b : Contact) (hready : l.tableOf account ∈ c.ready)
    (hwritable : c.isWritable = true) (hrows : c.rowsAt (l.tableOf account) = some rows)
    (hfree : standing (l.tableOf account) = .free) :
    ∃ rows', rows.reinforce account a b (trial 1) = .ok rows'
      ∧ ((inDatabase l account waits).serve (.reinforce a b (trial 1))).Ends c (.ok .done)
          (c.setRowsAt (l.tableOf account) rows') := by
  have hrun := Rows.reinforce_eq (r := trial 1) (by decide) (by decide) rows account a b
  refine ⟨_, hrun, ?_⟩
  have htransact : (transact .reinforce account (l.tableOf account) fun rows =>
      return (← rows.reinforce account a b (trial 1), ())).Ends c (.ok ()) _ :=
    ends_transact_of_mem hready hrows (by rw [hfree]; rfl) (by rw [hrun]; rfl) hwritable
  exact ends_serve_reinforce waits (by decide) htransact

theorem ends_serve_removeStale (hready : l.tableOf account ∈ c.ready)
    (hwritable : c.isWritable = true) (hrows : c.rowsAt (l.tableOf account) = some rows)
    (hshadowed : isShadowed (l.tableOf account) = true) :
    ((inDatabase l account waits).serve (.remove (.stale 2))).Ends c (.ok .done)
      (c.setRowsAt (l.tableOf account) (rows.delete (rows.takes account (.stale 2) true))) := by
  have hsource : ∀ name, Removal.stale 2 ≠ .source name := by simp
  have hrun := Rows.remove_eq hsource
    (fun cutoff hcutoff => by rw [← Removal.stale.inj hcutoff]; decide) rows account true
  have htransact : (transact (.remove (.stale 2)) account (l.tableOf account) fun rows =>
      rows.remove account (.stale 2) (isShadowed (l.tableOf account))).Ends c (.ok _) _ :=
    ends_transact_of_mem hready hrows (by rw [standing_of_isShadowed hshadowed]; rfl)
      (by rw [hshadowed, hrun]) hwritable
  exact ends_serve_remove waits htransact

theorem share_setRowsAt (hrows : c.rowsAt (l.tableOf account) = some rows) (rows' : Rows) :
    (c.setRowsAt (l.tableOf account) rows').share l account = rows'.share account := by
  rw [share, rowsAt_setRowsAt, if_pos rfl, hrows]
  rfl

/-- A trial of another account leaves a stale row. -/
theorem exists_stale_of_trial {other : String} (hne : other ≠ account) {rows' : Rows}
    (h : (freshRows account).reinforce other ⟨"a", none⟩ ⟨"b", none⟩ (trial 1) = .ok rows') :
    ∃ row ∈ rows'.entries, Rows.isStale 2 row = true := by
  have hkey : edgeKey other ∈ Rows.reinforcedKeys other ((trial 1).edges ⟨"a", none⟩ ⟨"b", none⟩)
      (trial 1).relations :=
    Rows.mem_reinforcedKeys.2
      ⟨rfl, List.mem_singleton.2 rfl, List.mem_cons_of_mem _ List.mem_cons_self⟩
  have hold : (freshRows account).find? (edgeKey other) = none := by
    simp [freshRows, edgeKey, hne]
  have hfound := Rows.find?_reinforce (r := trial 1) (by decide) (by decide) h (edgeKey other)
  rw [if_pos hkey, hold] at hfound
  exact ⟨_, Keyed.mem_entries.2 hfound, rfl⟩

/-- Where there is a stale row of any account, a removal from a shadowed table takes every row of
    its own account. -/
theorem find?_delete_of_stale (h : ∃ row ∈ rows.entries, Rows.isStale 2 row = true) :
    ((rows.delete (rows.takes account (.stale 2) true)).share account).find? (edgeKey account)
      = none := by
  obtain ⟨row, hrow, hstale⟩ := h
  have hkey : (edgeKey account).account = account := rfl
  rw [Rows.find?_share _ hkey, Rows.find?_delete]
  cases rows.find? (edgeKey account) with
  | none => rfl
  | some cells => simp [Option.filter, Rows.takes_shadowed hrow hstale, edgeKey]

theorem find?_delete_freshRows (account : String) :
    (((freshRows account).delete
        ((freshRows account).takes account (.stale 2) true)).share account).find? (edgeKey account)
      = some ⟨.whole 0, 3⟩ := by
  have hkey : (edgeKey account).account = account := rfl
  have hentries : (freshRows account).entries = [(edgeKey account, ⟨.whole 0, 3⟩)] := rfl
  have hfound : (freshRows account).find? (edgeKey account) = some ⟨.whole 0, 3⟩ := by
    simp [freshRows]
  rw [Rows.find?_share _ hkey, Rows.find?_delete, hfound]
  simp [Rows.takes, hentries, Rows.isStale]

/-- In a shadowed table the fresh edge of an account is gone after a removal of stale edges if
    another account has a stale one, and stays else. -/
theorem exists_not_undisturbed (waits : Bool)
    (hshadowed : isShadowed (l.tableOf account) = true) :
    ∃ c run, EveryStep (fun before q => Makes l (after (inDatabase l · waits) c before) q) run
      ∧ ¬Undisturbed (inDatabase l · waits) (·.share l account) account c run := by
  obtain ⟨other, hne, hsame⟩ := exists_ne_tableOf_eq hshadowed
  obtain ⟨c, hwritable, hready, hrows⟩ := exists_fresh l account
  -- The other account is the first in one run, and does not come up in the other run.
  have htrial : ∃ rows', (freshRows account).reinforce other ⟨"a", none⟩ ⟨"b", none⟩ (trial 1)
        = .ok rows'
      ∧ ((inDatabase l other waits).serve (.reinforce ⟨"a", none⟩ ⟨"b", none⟩ (trial 1))).Ends
          c (.ok .done) (c.setRowsAt (l.tableOf account) rows') := by
    rw [← hsame] at hready hrows hshadowed ⊢
    exact ends_serve_trial _ _ hready hwritable hrows (standing_of_isShadowed hshadowed)
  obtain ⟨rows', hrun, htrial⟩ := htrial
  have hrows' : (c.setRowsAt (l.tableOf account) rows').rowsAt (l.tableOf account)
      = some rows' := by
    rw [rowsAt_setRowsAt, if_pos rfl, hrows, Option.map_some]
  have hready' : l.tableOf account ∈ (c.setRowsAt (l.tableOf account) rows').ready := hready
  have hafter : ((inDatabase l account waits).serve (.remove (.stale 2))).Ends _ (.ok .done) _ :=
    ends_serve_removeStale hready' hwritable hrows' hshadowed
  have halone : ((inDatabase l account waits).serve (.remove (.stale 2))).Ends c (.ok .done) _ :=
    ends_serve_removeStale hready hwritable hrows hshadowed
  have hmakes : ∀ {c : Connection}, l.tableOf account ∈ c.ready → ∀ {q : String × Request},
      l.tableOf q.1 = l.tableOf account → Makes l c q := by
    intro c hready q hq _
    rw [hq]
    exact (ends_ensureTable_of_mem hready).outcome.1
  refine ⟨c, [(other, .reinforce ⟨"a", none⟩ ⟨"b", none⟩ (trial 1)),
    (account, .remove (.stale 2))], ?_, fun h => ?_⟩
  · refine (@everyStep_append _ [_] _).2 ⟨(@everyStep_append _ [] _).2
      ⟨everyStep_nil _, hmakes hready hsame⟩, hmakes ?_ rfl⟩
    rw [after_cons htrial]
    exact hready'
  · have hown : requestsOf account [(other, .reinforce ⟨"a", none⟩ ⟨"b", none⟩ (trial 1)),
        (account, .remove (.stale 2))] = [(account, .remove (.stale 2))] := by
      simp [requestsOf, hne]
    have hseen := h.seen
    rw [hown, after_cons htrial, after_cons hafter, after_cons halone] at hseen
    dsimp only [after, List.foldl_nil] at hseen
    rw [share_setRowsAt hrows', share_setRowsAt hrows] at hseen
    have hfound := congrArg (·.find? (edgeKey account)) hseen
    rw [find?_delete_freshRows, find?_delete_of_stale (exists_stale_of_trial hne hrun)] at hfound
    cases hfound

/-! ## Accounts that are not disturbed -/

/-- In memory no account is disturbed by others in any run. In a database an account is disturbed in
    no run through which all tables come to be ready, just if its own table is not shadowed. -/
theorem undisturbed_iff (l : Layout) (waits : Bool) (account : String) :
    (∀ s run, Undisturbed inMemory (·.edgesOf account) account s run)
      ∧ ((∀ c run,
          EveryStep (fun before q => Makes l (after (inDatabase l · waits) c before) q) run →
            Undisturbed (inDatabase l · waits) (·.share l account) account c run)
        ↔ isShadowed (l.tableOf account) = false) := by
  refine ⟨undisturbed_inMemory account, fun h => ?_, fun hshadowed c run =>
    undisturbed_inDatabase hshadowed c⟩
  by_contra hshadowed
  rw [Bool.not_eq_false] at hshadowed
  obtain ⟨c, run, hrun, hnot⟩ := exists_not_undisturbed waits hshadowed
  exact hnot (h c run hrun)

/-- An account with a fresh edge, another one with a stale edge, and a removal of the stale edges of
    the first. -/
def pruning : List (String × Request) :=
  [("x", .reinforce ⟨"a", none⟩ ⟨"b", none⟩ { channel := .direct, timestamp := 100 }),
    ("y", .reinforce ⟨"a", none⟩ ⟨"b", none⟩ { channel := .direct, timestamp := 10 }),
    ("x", .remove (.stale 50))]

theorem not_undisturbed_pruning :
    EveryStep (fun before q =>
        Makes shadowedLayout (after (inDatabase shadowedLayout · true) {} before) q) pruning
      ∧ ¬Undisturbed (inDatabase shadowedLayout · true) (·.share shadowedLayout "x") "x" {}
          pruning := by
  have hempty : ((after (inDatabase shadowedLayout · true) {} pruning).share shadowedLayout
      "x").isEmpty = true := by decide +kernel
  have hkept : ((after (inDatabase shadowedLayout · true) {} (requestsOf "x" pruning)).share
      shadowedLayout "x").isEmpty = false := by decide +kernel
  refine ⟨?_, fun h => ?_⟩
  · refine (@everyStep_append _ [_, _] _).2 ⟨(@everyStep_append _ [_] _).2
      ⟨(@everyStep_append _ [] _).2 ⟨everyStep_nil _, ?_⟩, ?_⟩, ?_⟩
    · exact fun _ => by decide +kernel
    · exact fun _ => by decide +kernel
    · exact fun _ => by decide +kernel
  · have hseen := h.seen
    rw [hseen, hkept] at hempty
    exact nomatch hempty

end Graph

end Rapport
