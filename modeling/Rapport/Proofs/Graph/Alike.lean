import Mathlib.Data.List.Induction
import Rapport.Proofs.Graph.Step
import Rapport.Proofs.List

set_option autoImplicit false

/-! # Runs in memory and in a database

A run is a list of requests to the graphs of accounts. It is served twice, by graphs in memory from
an empty store, and by graphs in a database from an empty database. `Alike` says that after every
step both have given the same answer, and that the rows in all tables are the relations in the
store. `alike_of_isSoundTable` says that a run is alike if all tables that it comes to have sound
names, as far as it is `Admissible`: it brings up nothing that a database has no place for. -/

namespace Rapport

open Sql Identifier Numeral

/-! ## Everything that is stored -/

/-- The rows that stand for all relations of a store. -/
def Store.rows (s : Store) : List (RowKey × Cells) :=
  s.adjacency.entries.flatMap fun node =>
    node.2.entries.flatMap fun edge =>
      edge.2.entries.map fun relation =>
        (⟨node.1.1, node.1.2, edge.1, relation.1⟩, .ofBond relation.2)

/-- The rows of all tables. -/
def Connection.rows (c : Connection) : List (RowKey × Cells) :=
  (c.database.getD {}).tables.entries.flatMap fun table => table.2.rows.entries

theorem Store.mem_rows {s : Store} {k : RowKey} {cells : Cells} :
    (k, cells) ∈ s.rows
      ↔ (s.bond? k.account k.origin k.target k.relation).map Cells.ofBond = some cells := by
  simp only [Store.rows, List.mem_flatMap, List.mem_map, Prod.mk.injEq]
  constructor
  · rintro ⟨⟨node, edges⟩, hnode, ⟨target, bonds⟩, hedge, ⟨relation, b⟩, hrelation, rfl, rfl⟩
    rw [Keyed.mem_entries] at hnode hedge hrelation
    rw [Store.bond?_eq, Store.record?, Store.edges, hnode, Option.getD_some, hedge,
      Option.bind_some, hrelation]
    rfl
  · intro h
    obtain ⟨b, hb, hcells⟩ := Option.map_eq_some_iff.1 h
    rw [Store.bond?_eq, Option.bind_eq_some_iff] at hb
    obtain ⟨bonds, hedge, hrelation⟩ := hb
    rw [Store.record?, Store.edges] at hedge
    cases hnode : s.adjacency.find? (k.account, k.origin) with
    | none =>
      rw [hnode, Option.getD_none, Keyed.find?_empty] at hedge
      exact absurd hedge (by simp)
    | some edges =>
      rw [hnode, Option.getD_some] at hedge
      exact ⟨_, Keyed.mem_entries.2 hnode, _, Keyed.mem_entries.2 hedge, _,
        Keyed.mem_entries.2 hrelation, rfl, hcells⟩

theorem Store.nodup_rows (s : Store) : s.rows.Nodup := by
  refine nodup_flatMap s.adjacency.distinct (fun node _ => ?_)
    (fun row => (row.1.account, row.1.origin)) fun node _ row hrow => ?_
  · refine nodup_flatMap node.2.distinct (fun edge _ => ?_) (fun row => row.1.target)
      fun edge _ row hrow => ?_
    · refine List.Nodup.of_map (fun row => row.1.relation) ?_
      rw [List.map_map]
      exact edge.2.distinct
    · obtain ⟨relation, _, rfl⟩ := List.mem_map.1 hrow
      rfl
  · obtain ⟨edge, _, hrow⟩ := List.mem_flatMap.1 hrow
    obtain ⟨relation, _, rfl⟩ := List.mem_map.1 hrow
    rfl

/-- The rows of a database that mirrors a store are the relations of the store. -/
theorem Mirrors.perm_rows {l : Layout} {s : Store} {c : Connection} {db : Database}
    (h : Mirrors l s c db) : c.rows.Perm s.rows := by
  have hrows : c.rows = db.tables.entries.flatMap fun table => table.2.rows.entries := by
    rw [Connection.rows, h.database, Option.getD_some]
  -- A row is in the table of its account, and so in no other.
  have hnodup : c.rows.Nodup := by
    rw [hrows]
    refine nodup_flatMap db.tables.distinct (fun table _ => table.2.rows.nodup_entries)
      (fun row => fold (denoted (l.tableOf row.1.account))) fun table htable row hrow => ?_
    exact (h.placed table.1 table.2 (Keyed.mem_entries.1 htable) row.1 row.2
      (Keyed.mem_entries.1 hrow)).symm
  refine (List.perm_ext_iff_of_nodup hnodup s.nodup_rows).2 ?_
  rintro ⟨k, cells⟩
  have hshows := h.rows k.account k.origin k.target k.relation
  rw [Store.mem_rows, ← hshows, hrows, List.mem_flatMap]
  constructor
  · rintro ⟨⟨key, stored⟩, htable, hrow⟩
    rw [Keyed.mem_entries] at htable hrow
    have hkey := h.placed _ _ htable _ _ hrow
    rw [hkey] at htable
    rw [Database.rowsOf_of_find? htable]
    exact hrow
  · intro hrow
    cases hfound : db.tables.find? (fold (denoted (l.tableOf k.account))) with
    | none =>
      rw [Database.rowsOf_of_find?_eq_none hfound] at hrow
      exact absurd hrow (by simp)
    | some stored =>
      rw [Database.rowsOf_of_find? hfound] at hrow
      exact ⟨_, Keyed.mem_entries.2 hfound, Keyed.mem_entries.2 hrow⟩

/-! ## Runs -/

/-- What holds at every step of a run, of the requests before it and of its own. -/
def EveryStep (P : List (String × Request) → String × Request → Prop)
    (run : List (String × Request)) : Prop :=
  ∀ before q rest, run = before ++ q :: rest → P before q

theorem everyStep_nil (P : List (String × Request) → String × Request → Prop) : EveryStep P [] :=
  fun _ _ _ h => absurd h (by simp)

theorem everyStep_append {P : List (String × Request) → String × Request → Prop}
    {run : List (String × Request)} {q : String × Request} :
    EveryStep P (run ++ [q]) ↔ EveryStep P run ∧ P run q := by
  constructor
  · intro h
    exact ⟨fun before q' rest hrun => h before q' (rest ++ [q]) (by simp [hrun]), h run q [] rfl⟩
  · rintro ⟨h, hq⟩ before q' rest hrun
    rcases List.eq_nil_or_concat rest with rfl | ⟨rest', q'', rfl⟩
    · obtain ⟨rfl, hlast⟩ := List.append_inj' hrun rfl
      rw [List.cons.injEq] at hlast
      exact hlast.1 ▸ hq
    · rw [List.concat_eq_append, ← List.cons_append, ← List.append_assoc] at hrun
      exact h before q' rest' (List.append_inj' hrun rfl).1

/-- The store after a run. -/
def storeAfter (run : List (String × Request)) : Store := Graph.after Graph.inMemory {} run

/-- The connection to a database, empty at first, after a run. -/
def connectionAfter (l : Layout) (waits : Bool) (run : List (String × Request)) : Connection :=
  Graph.after (Graph.inDatabase l · waits) {} run

/-- A step that brings up nothing that a database has no place for: no integer of more than 64 bits,
    and no table that cannot be created. Removals by data source are left out, and channels of the
    combined one's name. -/
structure Admits (l : Layout) (waits : Bool) (before : List (String × Request))
    (q : String × Request) : Prop where
  typed : q.2.IsTyped
  unsourced : ∀ name, q.2 ≠ .remove (.source name)
  fits : q.2.Fits q.1 (storeAfter before)
  creatable : q.2.NeedsTable →
    ((Connection.ensureTable (l.tableOf q.1)).outcome (connectionAfter l waits before)).1 = .ok ()

/-- A run of steps that bring up nothing that a database has no place for. -/
def Admissible (l : Layout) (waits : Bool) (run : List (String × Request)) : Prop :=
  EveryStep (Admits l waits) run

/-- Two results that nobody who asks a graph can tell apart: one answer, or failures of one kind
    that graphs answer with. -/
def SameResult : Except Failure Answer → Except Failure Answer → Prop
  | .ok a, .ok b => a = b
  | .error f, .error g => f.IsOfGraph ∧ f.kind = g.kind
  | .ok _, .error _ | .error _, .ok _ => False

/-- A step with one result in memory and in a database, and with one content of both after it. -/
structure StepsAlike (l : Layout) (waits : Bool) (before : List (String × Request))
    (q : String × Request) : Prop where
  result : SameResult (((Graph.inMemory q.1).serve q.2).outcome (storeAfter before)).1
    (((Graph.inDatabase l q.1 waits).serve q.2).outcome (connectionAfter l waits before)).1
  rows : (connectionAfter l waits (before ++ [q])).rows.Perm (storeAfter (before ++ [q])).rows

/-- A run whose steps are all alike in memory and in a database. -/
def Alike (l : Layout) (waits : Bool) (run : List (String × Request)) : Prop :=
  EveryStep (StepsAlike l waits) run

variable {l : Layout} {waits : Bool} {run : List (String × Request)} {q : String × Request}

theorem storeAfter_append (run : List (String × Request)) (q : String × Request) :
    storeAfter (run ++ [q]) = q.2.effect q.1 (storeAfter run) := by
  rw [storeAfter, storeAfter, Graph.after_inMemory, Graph.after_inMemory, List.foldl_append]
  rfl

theorem connectionAfter_append {result : Except Failure Answer} {c : Connection}
    (h : ((Graph.inDatabase l q.1 waits).serve q.2).Ends (connectionAfter l waits run) result c) :
    connectionAfter l waits (run ++ [q]) = c := by
  rw [connectionAfter, Graph.after, List.foldl_append]
  exact h.outcome.2

/-- Results in memory, and whatever is the same. -/
theorem sameResult_answer (account : String) (s : Store) (q : Request) :
    SameResult (q.answer account s) (q.answer account s) := by
  cases h : q.answer account s with
  | ok a => exact rfl
  | error f =>
    refine ⟨?_, rfl⟩
    cases q with
    | reinforce a b r | clique contacts r =>
      rw [Request.answer, Graph.check] at h
      split at h
      · rw [Except.map, Except.error.injEq] at h
        rw [← h]
        exact Failure.isGraphFailure_iff.1 rfl
      · exact absurd h (by simp [Except.map])
    | remove what | bond a b relation | related q => exact absurd h (by simp [Request.answer])

/-! ## Runs of sound tables -/

/-- A step from mirrored contents is alike, and leads to mirrored contents. -/
theorem stepsAlike_of_mirrors {db : Database}
    (h : Mirrors l (storeAfter run) (connectionAfter l waits run) db) (hq : Admits l waits run q)
    (hsound : Creatable (l.tableOf q.1) → IsSoundTable (l.tableOf q.1)) :
    StepsAlike l waits run q
      ∧ ∃ db', Mirrors l (storeAfter (run ++ [q])) (connectionAfter l waits (run ++ [q])) db' := by
  obtain ⟨c', db', hends, hmirrors⟩ := h.exists_serve hq.typed hq.unsourced hq.fits hq.creatable
    fun hneeds => hsound (h.creatable (hq.creatable hneeds))
  rw [← storeAfter_append, ← connectionAfter_append hends] at hmirrors
  refine ⟨⟨?_, hmirrors.perm_rows⟩, db', hmirrors⟩
  rw [(Graph.ends_serve_inMemory q.1 q.2 _).outcome.1, hends.outcome.1]
  exact sameResult_answer q.1 _ q.2

theorem alike_of_isSoundTable (hadmissible : Admissible l waits run)
    (hsound : ∀ q ∈ run, Creatable (l.tableOf q.1) → IsSoundTable (l.tableOf q.1)) :
    Alike l waits run
      ∧ ∃ db, Mirrors l (storeAfter run) (connectionAfter l waits run) db := by
  -- A step is from the contents after all that comes before it, so the induction is from the end.
  induction run using List.reverseRecOn with
  | nil => exact ⟨everyStep_nil _, {}, mirrors_empty l⟩
  | append_singleton run q ih =>
    obtain ⟨hrun, hq⟩ := everyStep_append.1 hadmissible
    obtain ⟨halike, db, hmirrors⟩ := ih hrun fun q' hq' => hsound q' (List.mem_append_left _ hq')
    obtain ⟨hstep, hmirrors'⟩ := stepsAlike_of_mirrors hmirrors hq
      (hsound q (List.mem_append_right _ List.mem_cons_self))
    exact ⟨everyStep_append.2 ⟨halike, hstep⟩, hmirrors'⟩

/-! ## Tables of the usual stem -/

/-- What the names of all tables begin with, unless the settings say otherwise. -/
def usualStart : List Char := "contacts_".toList

theorem not_mem_of_usualStart {name : String} (hname : usualStart <+: name.toList)
    {words : List String} (hwords : ∀ word ∈ words, ¬usualStart <+: word.toList) :
    name ∉ words :=
  fun hmem => hwords name hmem hname

/-- The usual stem makes no word of the language, no table of the database's own and no second
    name of rows. -/
theorem isSoundTable_usual (account : String) : IsSoundTable (({} : Layout).tableOf account) := by
  have hdenoted : denoted (({} : Layout).tableOf account) = ({} : Layout).tableOf account :=
    denoted_tableName_some "contacts" account
  have hname : usualStart <+: (({} : Layout).tableOf account).toList :=
    ⟨(accountPart account).toList, (toList_tableName_some "contacts" account).symm⟩
  have hfold : usualStart <+: (fold (({} : Layout).tableOf account)).toList :=
    ⟨(accountPart account).toList, (toList_fold_tableName_some "contacts" account).symm⟩
  refine ⟨⟨?_, ?_⟩, ?_⟩
  · have hrefused : ({} : Layout).tableOf account ∉ refusedWords :=
      not_mem_of_usualStart hname (by decide)
    have hbare : ({} : Layout).tableOf account ∉ bareWords :=
      not_mem_of_usualStart hname (by decide)
    have hwith : ({} : Layout).tableOf account ∉ ["with"] :=
      not_mem_of_usualStart hname (by decide)
    rw [List.mem_singleton] at hwith
    simp [standing, hdenoted, hrefused, hbare, hwith]
  · obtain ⟨rest, hrest⟩ := hfold
    exact isBuiltIn_eq_false (by rw [← hrest]; rfl) (show 'c' ∉ ['f', 'j', 'p', 's'] by decide)
  · have hsecond : fold (({} : Layout).tableOf account) ∉ [secondName] :=
      not_mem_of_usualStart hfold (by decide)
    rw [List.mem_singleton] at hsecond
    rw [isShadowed, hdenoted]
    exact decide_eq_false hsecond

/-- In the usual layout all admissible runs are alike. -/
theorem alike_usual {run : List (String × Request)} (h : Admissible {} waits run) :
    Alike {} waits run :=
  (alike_of_isSoundTable h fun q _ _ => isSoundTable_usual q.1).1

end Rapport
