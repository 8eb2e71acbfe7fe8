import Rapport.Proofs.Graph.Alike
import Rapport.Proofs.Isolation
import Rapport.Proofs.Sql.Share
import Rapport.Proofs.Sql.Transaction

set_option autoImplicit false

/-! # Accounts that share a database

What an account has in a database are its rows in its table (`Connection.share`). Two connections
are alike to it (`Shares`) if these are the same, and if the table can be made ready through the
second wherever it can through the first. Requests of the account keep two connections alike
(`respects_serve`), and those of others a connection and what they make of it (`keeps_serve`). Both
come down to the transactions that a request makes (`Transacts`, `closed_serve`).

The one transaction that goes by rows of other accounts is the removal of stale edges from a
shadowed table. `undisturbed_inDatabase` says that an account whose table has another name is
disturbed in no run. -/

namespace Rapport

open Sql Identifier

/-! ## Connections that are alike to an account -/

namespace Connection

variable {c c' c'' : Connection} {table account : String}

/-- The rows of an account in its table. -/
def share (c : Connection) (l : Layout) (account : String) : Rows :=
  ((c.rowsAt (l.tableOf account)).getD .empty).share account

/-- Two connections through which a table is ready, with the same rows of an account in it. -/
structure SharesReady (table account : String) (c c' : Connection) : Prop where
  ready : table ∈ c.ready
  ready' : table ∈ c'.ready
  writable : c.isWritable = c'.isWritable
  rows : (c.rowsAt table).map (·.share account) = (c'.rowsAt table).map (·.share account)

/-- Two connections with the same rows of an account in a table, which comes to be ready through the
    second if it does through the first. -/
structure Shares (table account : String) (c c' : Connection) : Prop where
  rows : ((c.rowsAt table).getD .empty).share account
    = ((c'.rowsAt table).getD .empty).share account
  ensured : (ensured table c).1 = .ok () → (Connection.ensured table c').1 = .ok ()
    ∧ SharesReady table account (Connection.ensured table c).2 (Connection.ensured table c').2

theorem SharesReady.trans (h : SharesReady table account c c')
    (h' : SharesReady table account c' c'') : SharesReady table account c c'' :=
  ⟨h.ready, h'.ready', h.writable.trans h'.writable, h.rows.trans h'.rows⟩

theorem Shares.refl (table account : String) (c : Connection) : Shares table account c c :=
  ⟨rfl, fun hok => ⟨hok, mem_ready_ensured hok, mem_ready_ensured hok, rfl, rfl⟩⟩

theorem Shares.trans (h : Shares table account c c') (h' : Shares table account c' c'') :
    Shares table account c c'' := by
  refine ⟨h.rows.trans h'.rows, fun hok => ?_⟩
  obtain ⟨hok', hready⟩ := h.ensured hok
  obtain ⟨hok'', hready'⟩ := h'.ensured hok'
  exact ⟨hok'', hready.trans hready'⟩

theorem share_getD (rows : Option Rows) (account : String) :
    (rows.getD .empty).share account = (rows.map (·.share account)).getD .empty := by
  cases rows <;> rfl

theorem SharesReady.shares (h : SharesReady table account c c') : Shares table account c c' := by
  refine ⟨by rw [share_getD, h.rows, ← share_getD], fun _ => ?_⟩
  rw [ensured_of_mem h.ready, ensured_of_mem h.ready']
  exact ⟨rfl, h⟩

/-! ## What others do -/

/-- A connection that is beside another as far as a table and the rows of an account in it go: less
    names may be free, but the table is found through both or through neither. -/
structure Beside (table account : String) (c c' : Connection) : Prop where
  ready : table ∈ c.ready ↔ table ∈ c'.ready
  obstacle : c.obstacle = c'.obstacle
  writable : c.isWritable = c'.isWritable
  database : ∀ db, c.database = some db → ∃ db', c'.database = some db'
    ∧ db'.TakesWithin db ∧ db.hasTable table = db'.hasTable table
  rows : (c.rowsAt table).map (·.share account) = (c'.rowsAt table).map (·.share account)

theorem Beside.shares (h : Beside table account c c') : Shares table account c c' := by
  refine ⟨by rw [share_getD, h.rows, ← share_getD], fun hok => ?_⟩
  rcases ensured_cases hok with
    ⟨hready, heq⟩ | ⟨hready, hobstacle, hname, db, db₁, hdatabase, hmade, heq⟩
  · rw [heq, ensured_of_mem (h.ready.1 hready)]
    exact ⟨rfl, hready, h.ready.1 hready, h.writable, h.rows⟩
  · obtain ⟨db', hdatabase', hwithin, hfound⟩ := h.database db hdatabase
    obtain ⟨db₁', hmade', hnew⟩ := Database.made_mono hwithin hfound hmade
    rw [h.writable] at hmade'
    have heq' := ensured_of_made (fun hready' => hready (h.ready.2 hready'))
      (h.obstacle ▸ hobstacle) hname hdatabase' hmade'
    rw [heq, heq']
    refine ⟨rfl, List.mem_append_right _ List.mem_cons_self,
      List.mem_append_right _ List.mem_cons_self, h.writable, ?_⟩
    have hrows := h.rows
    rw [rowsAt, rowsAt, hdatabase, hdatabase'] at hrows
    rw [rowsAt, rowsAt]
    simp only [Option.bind_some] at hrows ⊢
    rcases hnew with ⟨rfl, rfl⟩ | ⟨htables, htables'⟩
    · exact hrows
    · rw [Database.rows?, Database.rows?, htables, htables', Keyed.find?_insert, if_pos rfl,
        Keyed.find?_insert, if_pos rfl]

variable {l : Layout} {other : String}

/-- That another account's table is made sure of does not show. -/
theorem shares_ensured (account : String) (hok : (ensured (l.tableOf other) c).1 = .ok ()) :
    Shares (l.tableOf account) account (ensured (l.tableOf other) c).2 c := by
  by_cases hsame : l.tableOf account = l.tableOf other
  · rw [← hsame] at hok ⊢
    refine ⟨?_, fun _ => ?_⟩
    · rcases rowsAt_ensured (l.tableOf account) c (l.tableOf account) with
        hrows | ⟨hnone, hempty⟩
      · rw [hrows]
      · rw [hnone, hempty]
        rfl
    · have hready := mem_ready_ensured hok
      rw [ensured_of_mem hready]
      exact ⟨hok, hready, hready, rfl, rfl⟩
  · rcases ensured_cases hok with
      ⟨_, heq⟩ | ⟨_, hobstacle, _, db, db', hdatabase, hmade, heq⟩
    · rw [heq]
      exact Shares.refl _ _ c
    · -- The new table has another name, even to the database.
      have hname : fold (l.tableOf account) ≠ fold (denoted (l.tableOf other)) :=
        fun hkey => hsame (tableFor_eq_of_fold hkey)
      have hdenoted : fold (denoted (l.tableOf account)) ≠ fold (denoted (l.tableOf other)) :=
        fun hkey => hsame (tableFor_eq_of_fold_denoted hkey)
      have hfound : db'.hasTable (l.tableOf account) = db.hasTable (l.tableOf account) := by
        rcases Database.tables_made hmade with htables | ⟨_, htables⟩
        · rw [Database.hasTable, htables, Database.hasTable]
        · rw [Database.hasTable, htables, Database.contains_insert,
            decide_eq_false hname, Bool.false_or, Database.hasTable]
      have hrows : db'.rows? (denoted (l.tableOf account))
          = db.rows? (denoted (l.tableOf account)) := by
        rcases Database.tables_made hmade with htables | ⟨_, htables⟩
        · rw [Database.rows?, htables, Database.rows?]
        · rw [Database.rows?, htables, Keyed.find?_insert, if_neg hdenoted, Database.rows?]
      refine Beside.shares ⟨?_, by rw [heq], by rw [heq], fun db₁ hdb₁ => ?_, ?_⟩
      · rw [heq, List.mem_append, List.mem_singleton]
        exact or_iff_left hsame
      · rw [heq, Option.some.injEq] at hdb₁
        subst hdb₁
        exact ⟨db, hdatabase, Database.takesWithin_made hmade, hfound⟩
      · rw [heq, rowsAt, rowsAt, hdatabase]
        exact congrArg (Option.map (·.share account)) hrows

variable {α : Type} {f : Rows → Except Refusal (Rows × α)} {task : Task}

/-- What is done to the rows of others does not show, even in the same table. -/
theorem shares_setRowsAt {table' : String} {rows rows' : Rows}
    (hrows : c.rowsAt table' = some rows) (h : rows'.share account = rows.share account)
    (table : String) : Shares table account (c.setRowsAt table' rows') c := by
  refine Beside.shares ⟨Iff.rfl, rfl, rfl, fun db hdb => ?_, ?_⟩
  · obtain ⟨db', hdatabase, rfl⟩ := Option.map_eq_some_iff.1 hdb
    refine ⟨db', hdatabase, fun n hn => ?_, Database.hasTable_setRows _ _ _ _⟩
    rw [Database.isTaken_setRows]
    exact hn
  · rw [rowsAt_setRowsAt]
    split
    · next hkey =>
      have hsame : c.rowsAt table = c.rowsAt table' := by
        simp only [rowsAt, Database.rows?, hkey]
      rw [hsame, hrows, Option.map_some, Option.map_some, Option.map_some, h]
    · rfl

theorem shares_carryOut (hne : account ≠ other) (hf : Rows.Confined other f) (table' : String) :
    Shares table account (carryOut task other table' f c).2 c := by
  rcases carryOut_cases task other table' f c with heq | ⟨rows, rows', a, hrows, _, hrun, heq⟩
  · rw [heq]
    exact Shares.refl _ _ c
  · rw [heq]
    exact shares_setRowsAt hrows (hf hne hrun) table

/-- A transaction of another account does not show. -/
theorem shares_transact (hne : account ≠ other) (hf : Rows.Confined other f)
    (hok : (ensured (l.tableOf other) c).1 = .ok ()) :
    Shares (l.tableOf account) account
      (carryOut task other (l.tableOf other) f (ensured (l.tableOf other) c).2).2 c :=
  (shares_carryOut hne hf _).trans (shares_ensured account hok)

/-- What accounts have after a transaction of one of them that is carried out: its own rows are
    those that the transaction has put, and all others have what they had. -/
theorem share_setRowsAt {rows rows' : Rows} (hok : (ensured (l.tableOf account) c).1 = .ok ())
    (hrows : (ensured (l.tableOf account) c).2.rowsAt (l.tableOf account) = some rows)
    (hothers : ∀ other, other ≠ account → rows'.share other = rows.share other)
    (other : String) :
    ((ensured (l.tableOf account) c).2.setRowsAt (l.tableOf account) rows').share l other
      = if other = account then rows'.share account else c.share l other := by
  split
  · next heq =>
    rw [heq, share, rowsAt_setRowsAt, if_pos rfl, hrows]
    rfl
  · next hne =>
    exact ((shares_setRowsAt hrows (hothers other hne) (l.tableOf other)).trans
      (shares_ensured other hok)).rows

/-! ## What the account does -/

/-- A transaction that goes by the rows of its account only does the same through connections that
    are alike to it. -/
theorem SharesReady.carryOut (h : SharesReady table account c c') (task : Task)
    (hf : Rows.Local account f) :
    (carryOut task account table f c).1 = (Connection.carryOut task account table f c').1
      ∧ SharesReady table account (Connection.carryOut task account table f c).2
          (Connection.carryOut task account table f c').2 := by
  have hrows := h.rows
  unfold Connection.carryOut
  cases hfound : c.rowsAt table with
  | none =>
    rw [hfound, Option.map_none] at hrows
    rw [Option.map_eq_none_iff.1 hrows.symm]
    exact ⟨rfl, h⟩
  | some rows =>
    rw [hfound, Option.map_some] at hrows
    obtain ⟨rows', hfound', hshare⟩ := Option.map_eq_some_iff.1 hrows.symm
    rw [hfound']
    dsimp only
    split
    · -- What is done to the account's rows alone is a part of what is done in both tables.
      have hresults := hf rows
      rw [← hshare, ← hf rows'] at hresults
      cases hrun : f rows with
      | error e =>
        cases hrun' : f rows' with
        | error e' =>
          rw [hrun, hrun'] at hresults
          rw [Except.error.inj hresults]
          cases e' with
          | refused => exact ⟨rfl, h⟩
          | tooLarge => exact ⟨rfl, h⟩
        | ok result' =>
          rw [hrun, hrun'] at hresults
          exact nomatch hresults
      | ok result =>
        cases hrun' : f rows' with
        | error e' =>
          rw [hrun, hrun'] at hresults
          exact nomatch hresults
        | ok result' =>
          obtain ⟨rows₁, a⟩ := result
          obtain ⟨rows₁', a'⟩ := result'
          rw [hrun, hrun'] at hresults
          obtain ⟨hshare₁, ha⟩ := Prod.mk.inj (Except.ok.inj hresults)
          dsimp only at hshare₁ ha ⊢
          rw [h.writable, ha]
          split
          · exact ⟨rfl, h⟩
          · refine ⟨rfl, h.ready, h.ready', h.writable, ?_⟩
            rw [rowsAt_setRowsAt, rowsAt_setRowsAt, if_pos rfl, if_pos rfl, hfound, hfound',
              Option.map_some, Option.map_some, Option.map_some, Option.map_some, hshare₁]
    · exact ⟨rfl, h⟩

end Connection

/-! ## Requests -/

namespace Graph

open Connection

variable {l : Layout} {waits : Bool} {account : String} {c c' : Connection} {α : Type}
  {task : Task} {f : Rows → Except Refusal (Rows × α)}

/-- The table of an account comes to be ready if a request needs it. -/
def Ensures (l : Layout) (account : String) (q : Request) (c : Connection) : Prop :=
  q.NeedsTable → (ensured (l.tableOf account) c).1 = .ok ()

/-- The transactions that requests of an account make on its table. -/
inductive Transacts (l : Layout) (account : String) :
    {α : Type} → Task → (Rows → Except Refusal (Rows × α)) → Prop
  | reinforce (a b : Contact) (r : Reinforcement) :
    Transacts l account .reinforce fun rows => return (← rows.reinforce account a b r, ())
  | remove (what : Removal) :
    Transacts l account (.remove what) fun rows =>
      rows.remove account what (isShadowed (l.tableOf account))
  | bond (origin target relation : String) :
    Transacts l account .read fun rows =>
      .ok (rows, (rows.bond? account origin target relation).map fun cells =>
        (⟨cells.weight.value, cells.updatedAt⟩ : Bond))
  | related (q : Query) :
    Transacts l account .query fun rows => return (rows, ← rows.related account q)

theorem Transacts.confined (h : Transacts l account task f) : Rows.Confined account f := by
  cases h with
  | reinforce a b r => exact Rows.confined_reinforce account a b r
  | remove what => exact Rows.confined_remove account what _
  | bond origin target relation =>
    exact Rows.confined_of_fst_eq fun hok => (congrArg Prod.fst (Except.ok.inj hok)).symm
  | related q => exact Rows.confined_of_fst_eq fun hok => Rows.eq_of_related hok

/-- In a table that is not shadowed the transactions of an account go by its own rows. -/
theorem Transacts.isLocal (h : Transacts l account task f)
    (hshadowed : isShadowed (l.tableOf account) = false) : Rows.Local account f := by
  cases h with
  | reinforce a b r => exact Rows.local_reinforce account a b r
  | remove what =>
    rw [hshadowed]
    exact Rows.local_remove account what
  | bond origin target relation => exact Rows.local_bond? account origin target relation _
  | related q => exact Rows.local_related account q

/-- What is true of the transactions that a request makes is true of the request. -/
theorem closed_serve {P : (α : Type) → Action Connection α → Prop} (hP : Action.Closed P)
    {q : Request}
    (h : q.NeedsTable → ∀ {α : Type} {task : Task} {f : Rows → Except Refusal (Rows × α)},
      Transacts l account task f → P α (transact task account (l.tableOf account) f)) :
    P Answer ((inDatabase l account waits).serve q) := by
  have hreinforce : ∀ {a b : Contact} {r : Reinforcement}, (¬r.multiplier < 1 → q.NeedsTable) →
      P Unit (reinforceInDatabase l account a b r) := fun {a b r} hneeds =>
    hP.check fun hr => h (hneeds hr) (.reinforce a b r)
  cases q with
  | reinforce a b r =>
    refine hP.bind (hreinforce fun hr => ?_) fun _ => hP.pure _
    simp [Request.NeedsTable, Request.ties, hr]
  | clique contacts r =>
    refine hP.bind (hP.reinforceClique fun hr p hp => hreinforce fun _ => ?_) fun _ => hP.pure _
    rw [Request.NeedsTable, Request.ties, if_neg hr]
    exact List.ne_nil_of_mem (List.mem_map_of_mem hp)
  | remove what =>
    refine hP.bind ?_ fun _ => hP.pure _
    exact hP.bind (h trivial (.remove what)) fun _ => hP.note _
  | bond a b relation => exact hP.bind (h trivial (.bond _ _ _)) fun _ => hP.pure _
  | related q => exact hP.bind (h trivial (.related q)) fun _ => hP.pure _

section Other

variable {other : String} {q : Request}

/-- Nothing that shows to an account has been done to a connection, and the table of another comes
    to be ready if a request needs it. -/
def Aside (l : Layout) (account other : String) (q : Request) (c' c : Connection) : Prop :=
  Shares (l.tableOf account) account c c' ∧ Ensures l other q c

theorem keeps_transact (hne : account ≠ other) (hneeds : q.NeedsTable)
    (hf : Rows.Confined other f) :
    (transact task other (l.tableOf other) f).Keeps (Aside l account other q c') := by
  refine Action.Keeps.of_ends fun c hc => ⟨_, _, ends_transact_carryOut (hc.2 hneeds), ?_, ?_⟩
  · exact (shares_transact hne hf (hc.2 hneeds)).trans hc.1
  · intro _
    have hready := mem_ready_ensured (hc.2 hneeds)
    rw [← ready_carryOut task other (l.tableOf other) f] at hready
    rw [ensured_of_mem hready]

/-- A request of another account does not show. -/
theorem keeps_serve (waits : Bool) (hne : account ≠ other) (q : Request) :
    ((inDatabase l other waits).serve q).Keeps (Aside l account other q c') :=
  closed_serve (Action.Keeps.closed _) fun hneeds _ _ _ hf =>
    keeps_transact hne hneeds hf.confined

end Other

section Own

variable {q : Request}

/-- Two connections are alike to an account, and its table comes to be ready if a request needs
    it. -/
def Abreast (l : Layout) (account : String) (q : Request) (c c' : Connection) : Prop :=
  Shares (l.tableOf account) account c c' ∧ Ensures l account q c

theorem respects_transact (hneeds : q.NeedsTable) (hf : Rows.Local account f) :
    (transact task account (l.tableOf account) f).Respects (Abreast l account q) := by
  refine Action.Respects.of_ends fun c c' hc => ?_
  have hok := hc.2 hneeds
  obtain ⟨hok', hready⟩ := hc.1.ensured hok
  obtain ⟨hresult, hshares⟩ := hready.carryOut task hf
  refine ⟨_, _, _, ends_transact_carryOut hok, ?_, hshares.shares, fun _ => ?_⟩
  · rw [hresult]
    exact ends_transact_carryOut hok'
  · rw [ensured_of_mem hshares.ready]

/-- A request has one answer through connections that are alike to its account, unless the table is
    shadowed. -/
theorem respects_serve (waits : Bool) (hshadowed : isShadowed (l.tableOf account) = false)
    (q : Request) :
    ((inDatabase l account waits).serve q).Respects (Abreast l account q) :=
  closed_serve (Action.Respects.closed _) fun hneeds _ _ _ hf =>
    respects_transact hneeds (hf.isLocal hshadowed)

end Own

/-! ## Runs -/

/-- A request whose table can be made ready, if it needs one. -/
def Makes (l : Layout) (c : Connection) (q : String × Request) : Prop :=
  q.2.NeedsTable → ((ensureTable (l.tableOf q.1)).outcome c).1 = .ok ()

theorem ensures_of_makes {q : String × Request} (h : Makes l c q) : Ensures l q.1 q.2 c := by
  intro hneeds
  rw [← (ends_ensureTable_ensured (l.tableOf q.1) c).outcome.1]
  exact h hneeds

theorem unwinds_inDatabase (hshadowed : isShadowed (l.tableOf account) = false) :
    Unwinds (inDatabase l · waits) account (Makes l) (Shares (l.tableOf account) account) where
  own {c c' q} hc hq := by
    obtain ⟨hresult, hshares, _⟩ := respects_serve waits hshadowed q ⟨c, []⟩ ⟨c', []⟩
      ⟨hc, ensures_of_makes hq⟩
    exact ⟨hresult, hshares⟩
  other {c c' q} hne hc hq :=
    (keeps_serve waits hne.symm q.2 ⟨c, []⟩ ⟨hc, ensures_of_makes hq⟩).1

/-- In a table that is not shadowed an account is not disturbed by others. -/
theorem undisturbed_inDatabase (hshadowed : isShadowed (l.tableOf account) = false)
    (c : Connection) {run : List (String × Request)}
    (hrun : EveryStep (fun before q => Makes l (after (inDatabase l · waits) c before) q) run) :
    Undisturbed (inDatabase l · waits) (·.share l account) account c run :=
  (unwinds_inDatabase hshadowed).undisturbed (fun _ _ hc => hc.rows) (Shares.refl _ _ c) hrun

end Graph

end Rapport
