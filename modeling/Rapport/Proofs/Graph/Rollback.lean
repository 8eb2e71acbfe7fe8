import Rapport.Proofs.Graph.Clique
import Rapport.Proofs.Sql.Session
import Rapport.Proofs.Sql.Transaction

set_option autoImplicit false

/-! # Reinforcements that fail

A reinforcement that fails in a database leaves all rows as they were. At most the table of the
account has been created, and that is empty (`LeavesRows`). A multiplier below one is refused before
even that.

The pairs of a clique share their reinforcement. If its integers do not fit, no pair is carried out;
if they do, and the first pair is, then the table is ready, and whatever fails after that is counted
and does not end the clique (`exists_ends_reinforceAll_of_ready`). So where a failure ends a clique
early, it is too early for anything to be written. `leavesRows_of_failing` puts this together. -/

namespace Rapport

open Sql Identifier Numeral

namespace Connection

/-! ## Tables that are left as they were -/

/-- The tables of the database, if there is one. -/
def tables (c : Connection) : Keyed String Stored := (c.database.map (·.tables)).getD .empty

/-- All tables of a connection are left as they were, row for row. Besides there may be one more, of
    a given name, which is empty. -/
def LeavesRows (table : String) (c c' : Connection) : Prop :=
  c'.tables = c.tables
    ∨ c.tables.find? (fold (denoted table)) = none
      ∧ c'.tables = c.tables.insert (fold (denoted table)) ⟨denoted table, .empty⟩

variable {c c' c'' : Connection} {table : String}

theorem LeavesRows.refl (table : String) (c : Connection) : LeavesRows table c c := Or.inl rfl

theorem LeavesRows.trans (h : LeavesRows table c c') (h' : LeavesRows table c' c'') :
    LeavesRows table c c'' := by
  rcases h with heq | ⟨hfree, heq⟩
  · rw [LeavesRows, heq] at h'
    exact h'
  · rcases h' with heq' | ⟨hfree', _⟩
    · exact Or.inr ⟨hfree, heq'.trans heq⟩
    · -- The table is there already, and so it is not created once more.
      rw [heq, Keyed.find?_insert, if_pos rfl] at hfree'
      exact nomatch hfree'

theorem leavesRows_ensured (table : String) (c : Connection) :
    LeavesRows table c (ensured table c).2 := by
  rcases snd_ensured_cases table c with heq | ⟨db, db', usable, _, hdatabase, hmade, heq⟩
  · rw [heq]
    exact LeavesRows.refl table c
  · have hbefore : c.tables = db.tables := by rw [tables, hdatabase]; rfl
    have hafter : (ensured table c).2.tables = db'.tables := by rw [heq]; rfl
    rw [LeavesRows, hbefore, hafter]
    exact Database.tables_made hmade

/-! ## Transactions -/

variable {α : Type} {task : Task} {account : String} {f : Rows → Except Refusal (Rows × α)}

/-- A transaction whose numbers fit fails only as a graph does, once its table is ready. -/
theorem eq_statementRefused_of_carryOut (hf : ∀ rows, f rows ≠ .error .tooLarge) {e : Failure}
    (h : (carryOut task account table f c).1 = .error e) : e = .statementRefused task account := by
  unfold carryOut at h
  split at h
  · exact (Except.error.inj h).symm
  · next rows _ =>
    split at h
    · split at h
      · split at h
        · exact (Except.error.inj h).symm
        · exact nomatch h
      · exact (Except.error.inj h).symm
      · next htooLarge => exact absurd htooLarge (hf rows)
    · exact (Except.error.inj h).symm

/-- The rows that a task finds in a table, once that has been made sure of. -/
structure Finds (task : Task) (table : String) (c : Connection) (rows : Rows) : Prop where
  ready : ((ensureTable table).outcome c).1 = .ok ()
  rows : ((ensureTable table).outcome c).2.state.rowsAt table = some rows
  allows : (standing table).allows task = true

theorem Finds.ensured {rows : Rows} (h : Finds task table c rows) :
    (ensured table c).1 = .ok () ∧ (Connection.ensured table c).2.rowsAt table = some rows := by
  obtain ⟨hresult, hstate⟩ := (ends_ensureTable_ensured table c).outcome
  exact ⟨hresult.symm.trans h.ready, hstate ▸ h.rows⟩

end Connection

namespace Graph

open Connection

variable {l : Layout} {account : String} {r : Reinforcement}

/-! ## One pair -/

theorem reinforce_ne_tooLarge (hfits : r.Fits) (rows : Rows) (account : String) (a b : Contact) :
    (do return (← rows.reinforce account a b r, ()) : Except Refusal (Rows × Unit))
      ≠ .error .tooLarge := by
  rw [Rows.reinforce_eq hfits.1 hfits.2]
  exact nofun

/-- A reinforcement fails, and leaves what making sure of its table leaves, or its integers fit and
    its table is ready. -/
theorem ends_reinforceInDatabase_cases (hr : ¬r.multiplier < 1) (a b : Contact) (c : Connection) :
    (∃ e, (reinforceInDatabase l account a b r).Ends c (.error e)
        (ensured (l.tableOf account) c).2)
      ∨ r.Fits ∧ ∃ c', (reinforceInDatabase l account a b r).Ends c (.ok ()) c'
        ∧ l.tableOf account ∈ c'.ready := by
  have hcheck := ends_check_of_not_lt hr account c
  rcases ends_transact_cases .reinforce account (l.tableOf account)
      (fun rows => return (← rows.reinforce account a b r, ())) c with
    ⟨e, hends⟩ | ⟨rows, rows', _, hok, _, _, hrun, hends⟩
  · exact Or.inl ⟨e, hcheck.bind hends⟩
  · have hfits : r.Fits := Rows.holds_of_reinforce (Rows.reinforce_unit_eq_ok_iff.1 hrun)
    exact Or.inr ⟨hfits, _, hcheck.bind hends, mem_ready_ensured hok⟩

/-- Where the table is ready, a reinforcement whose integers fit fails only as a graph does. -/
theorem exists_ends_reinforceInDatabase_of_ready (hr : ¬r.multiplier < 1) (hfits : r.Fits)
    {c : Connection} (hready : l.tableOf account ∈ c.ready) (a b : Contact) :
    ∃ result c', (reinforceInDatabase l account a b r).Ends c result c'
      ∧ l.tableOf account ∈ c'.ready ∧ ∀ f, result = .error f → f.IsOfGraph := by
  have hensured := ensured_of_mem hready
  have hends : (transact .reinforce account (l.tableOf account)
      fun rows => return (← rows.reinforce account a b r, ())).Ends c _ _ :=
    ends_transact_carryOut (by rw [hensured])
  rw [hensured] at hends
  refine ⟨_, _, (ends_check_of_not_lt hr account c).bind hends, ?_, fun f hf => ?_⟩
  · rw [ready_carryOut]
    exact hready
  · have hrefused := eq_statementRefused_of_carryOut
      (fun rows => reinforce_ne_tooLarge hfits rows account a b) hf
    rw [hrefused]
    exact Failure.isGraphFailure_iff.1 rfl

/-! ## All pairs of a clique -/

/-- Where the table is ready, no failure ends the pairs of a clique early if their integers fit. -/
theorem exists_ends_reinforceAll_of_ready (hr : ¬r.multiplier < 1) (hfits : r.Fits)
    {c : Connection} (hready : l.tableOf account ∈ c.ready) (ps : List (Contact × Contact)) :
    ∃ failed c', (reinforceAll account (reinforceInDatabase l account) r ps).Ends c (.ok failed)
      c' := by
  induction ps generalizing c with
  | nil => exact ⟨0, c, Action.Ends.pure 0 c⟩
  | cons p rest ih =>
    obtain ⟨a, b⟩ := p
    obtain ⟨result, c₁, hpair, hready₁, hgraph⟩ :=
      exists_ends_reinforceInDatabase_of_ready hr hfits hready a b
    obtain ⟨failed, c₂, hrest⟩ := ih hready₁
    cases result with
    | ok _ => exact ⟨failed, c₂, hpair.attempt.bind hrest⟩
    | error f =>
      refine ⟨failed + 1, c₂, hpair.attempt.bind ?_⟩
      simp only [if_pos (Failure.isGraphFailure_iff.2 (hgraph f rfl))]
      exact (Action.Ends.note _ _).bind (hrest.map (· + 1))

/-- Where a failure ends the pairs of a clique early, or their integers do not fit, all rows are left
    as they were. A failure that ends them finds the first pair failed. -/
theorem exists_ends_reinforceAll_leavesRows (hr : ¬r.multiplier < 1)
    (ps : List (Contact × Contact)) (c : Connection) :
    ∃ result c', (reinforceAll account (reinforceInDatabase l account) r ps).Ends c result c'
      ∧ (∀ f, result = .error f → LeavesRows (l.tableOf account) c c'
        ∧ ∃ p ∈ ps.head?, ∃ e c₁,
          (reinforceInDatabase l account p.1 p.2 r).Ends c (.error e) c₁)
      ∧ (¬r.Fits → LeavesRows (l.tableOf account) c c') := by
  induction ps generalizing c with
  | nil =>
    exact ⟨_, c, Action.Ends.pure 0 c, nofun, fun _ => LeavesRows.refl _ c⟩
  | cons p rest ih =>
    obtain ⟨a, b⟩ := p
    rcases ends_reinforceInDatabase_cases hr a b c with ⟨e, hpair⟩ | ⟨hfits, c₁, hpair, hready⟩
    · have hleaves := leavesRows_ensured (l.tableOf account) c
      have hfirst : ∃ p ∈ ((a, b) :: rest).head?, ∃ e c₁,
          (reinforceInDatabase l account p.1 p.2 r).Ends c (.error e) c₁ :=
        ⟨(a, b), rfl, e, _, hpair⟩
      by_cases hgraph : e.isGraphFailure = true
      · -- The pair is counted, and the others find the rows as they were.
        obtain ⟨result, c', hrest, herror, hunfit⟩ := ih (ensured (l.tableOf account) c).2
        refine ⟨result.map (· + 1), c', hpair.attempt.bind ?_, fun f hf => ⟨?_, hfirst⟩,
          fun hnot => hleaves.trans (hunfit hnot)⟩
        · simp only [hgraph, if_true]
          exact (Action.Ends.note _ _).bind (hrest.map (· + 1))
        · cases result with
          | ok failed => exact nomatch hf
          | error f' => exact hleaves.trans (herror f' rfl).1
      · refine ⟨.error e, _, hpair.attempt.bind ?_, fun _ _ => ⟨hleaves, hfirst⟩,
          fun _ => hleaves⟩
        simp only [if_neg hgraph]
        exact Action.Ends.throw _ _
    · -- The first pair has been carried out, so that nothing ends the others early.
      obtain ⟨failed, c', hrest⟩ := exists_ends_reinforceAll_of_ready hr hfits hready rest
      exact ⟨.ok failed, c', hpair.attempt.bind hrest, nofun, fun hnot => absurd hfits hnot⟩

/-- Where a failure ends a clique early, or the integers do not fit, all rows are left as they
    were. -/
theorem exists_ends_reinforceClique_leavesRows (hr : ¬r.multiplier < 1) (contacts : List Contact)
    (c : Connection) :
    ∃ result c', (reinforceClique account (reinforceInDatabase l account) contacts r).Ends c result
        c'
      ∧ (∀ f, result = .error f →
        (∀ failed, f ≠ .cliqueIncomplete failed r.channel.name account) →
          LeavesRows (l.tableOf account) c c' ∧ ∃ p ∈ (pairs contacts).head?, ∃ e c₁,
            (reinforceInDatabase l account p.1 p.2 r).Ends c (.error e) c₁)
      ∧ (¬r.Fits → LeavesRows (l.tableOf account) c c') := by
  obtain ⟨result, c', hall, herror, hunfit⟩ :=
    exists_ends_reinforceAll_leavesRows hr (pairs contacts) c
  refine ⟨cliqueAnswer account r result, c', fun journal => ?_, fun f hf hearly => ?_, hunfit⟩
  · obtain ⟨journal', hrun⟩ := hall journal
    exact ⟨journal', runs_reinforceClique_answer hr hrun⟩
  · cases result with
    | error e => exact herror f (congrArg Except.error (Except.error.inj hf))
    | ok failed =>
      rw [cliqueAnswer] at hf
      split at hf
      · exact absurd hf (by simp)
      · exact absurd (Except.error.inj hf).symm (hearly failed)

/-! ## What is left -/

/-- What becomes of a reinforcement that the rows of its table give up: nothing is carried out, and
    what is left in the table is what the session of the reinforcement leaves when it is closed. -/
theorem outcome_reinforce_of_finds (hr : ¬r.multiplier < 1) (hfits : ¬r.Fits) {c : Connection}
    {rows : Rows} (hfinds : Finds .reinforce (l.tableOf account) c rows) (a b : Contact) :
    let run := (reinforceInDatabase l account a b r).outcome c
    let session := (Session.opened rows).run (Statement.reinforcing account a b r)
    run.1 = .error .integerTooLarge
      ∧ session = (⟨rows, rows.insertMissing
          (Rows.reinforcedKeys account (r.edges a b) r.relations)⟩, some .tooLarge)
      ∧ run.2.state.rowsAt (l.tableOf account) = some (Session.left session) := by
  intro run session
  have hsession := Session.run_reinforcing_of_not_fits hfits rows account a b
  have hgivenUp : (do return (← rows.reinforce account a b r, ())
      : Except Refusal (Rows × Unit)) = .error .tooLarge := by
    rw [Rows.reinforce_eq_ite, if_neg (show ¬(_ ∧ _) from hfits)]
    rfl
  obtain ⟨hok, hrows⟩ := hfinds.ensured
  have hends : (reinforceInDatabase l account a b r).Ends c _ _ :=
    (ends_check_of_not_lt hr account c).bind
      (ends_transact_tooLarge hok hrows hfinds.allows hgivenUp)
  refine ⟨hends.outcome.1, hsession, ?_⟩
  rw [hends.outcome.2, hrows, show session = _ from hsession]
  rfl

/-- A reinforcement that fails leaves all rows as they were, and no more than an empty table besides.
    One that is refused for its multiplier leaves everything. One whose integers do not fit fails in
    any case; where it is put to rows, the missing ones have been inserted when that shows, and they
    are gone afterwards. A clique whose pairs are ended early by a failure leaves all rows as they
    were, since its first pair has failed already. -/
theorem leavesRows_of_failing (l : Layout) (account : String) (waits : Bool) (c : Connection)
    (r : Reinforcement) :
    let g := inDatabase l account waits
    let table := l.tableOf account
    (∀ a b, let run := (g.reinforce a b r).outcome c
      (∀ f, run.1 = .error f → LeavesRows table c run.2.state)
        ∧ (r.multiplier < 1 → run.1 = .error (.multiplierTooSmall account) ∧ run.2.state = c)
        ∧ (¬r.Fits → ∃ f, run.1 = .error f)
        ∧ ∀ rows, ¬r.multiplier < 1 → ¬r.Fits → Finds .reinforce table c rows →
          let session := (Session.opened rows).run (Statement.reinforcing account a b r)
          run.1 = .error .integerTooLarge
            ∧ session = (⟨rows, rows.insertMissing
                (Rows.reinforcedKeys account (r.edges a b) r.relations)⟩, some .tooLarge)
            ∧ run.2.state.rowsAt table = some (Session.left session))
      ∧ ∀ contacts, let run := (g.clique contacts r).outcome c
        (r.multiplier < 1 → run.1 = .error (.multiplierTooSmall account) ∧ run.2.state = c)
          ∧ (¬r.Fits → LeavesRows table c run.2.state)
          ∧ ∀ f, run.1 = .error f →
            (∀ failed, f ≠ .cliqueIncomplete failed r.channel.name account) →
              LeavesRows table c run.2.state
                ∧ (¬r.multiplier < 1 → ∃ p ∈ (pairs contacts).head?, ∃ e,
                  ((g.reinforce p.1 p.2 r).outcome c).1 = .error e) := by
  intro g table
  refine ⟨fun a b => ?_, fun contacts => ?_⟩
  · by_cases hr : r.multiplier < 1
    · have hends : (g.reinforce a b r).Ends c _ c :=
        Action.Ends.bind_error _ (ends_check_of_lt hr account c)
      obtain ⟨hresult, hstate⟩ := hends.outcome
      dsimp only
      rw [hresult, hstate]
      exact ⟨fun _ _ => LeavesRows.refl table c, fun _ => ⟨rfl, rfl⟩, fun _ => ⟨_, rfl⟩,
        fun _ hnot => absurd hr hnot⟩
    · refine ⟨fun f hf => ?_, fun hlt => absurd hlt hr, fun hfits => ?_,
        fun rows _ hfits hfinds => outcome_reinforce_of_finds hr hfits hfinds a b⟩
      · rcases ends_reinforceInDatabase_cases hr a b c with ⟨e, hends⟩ | ⟨_, c', hends, _⟩
        · rw [show ((g.reinforce a b r).outcome c).2.state = _ from hends.outcome.2]
          exact leavesRows_ensured table c
        · exact nomatch hends.outcome.1.symm.trans hf
      · rcases ends_reinforceInDatabase_cases hr a b c with ⟨e, hends⟩ | ⟨hholds, _⟩
        · exact ⟨e, hends.outcome.1⟩
        · exact absurd hholds hfits
  · by_cases hr : r.multiplier < 1
    · have hends : (g.clique contacts r).Ends c _ c :=
        Action.Ends.bind_error _ (ends_check_of_lt hr account c)
      obtain ⟨hresult, hstate⟩ := hends.outcome
      dsimp only
      rw [hresult, hstate]
      exact ⟨fun _ => ⟨rfl, rfl⟩, fun _ => LeavesRows.refl table c,
        fun _ _ _ => ⟨LeavesRows.refl table c, fun hnot => absurd hr hnot⟩⟩
    · obtain ⟨result, c', hends, herror, hunfit⟩ :=
        exists_ends_reinforceClique_leavesRows hr contacts c
      obtain ⟨hresult, hstate⟩ := (show (g.clique contacts r).Ends c result c' from hends).outcome
      dsimp only
      rw [hresult, hstate]
      refine ⟨fun hlt => absurd hlt hr, hunfit, fun f hf hearly => ?_⟩
      obtain ⟨hleaves, p, hp, e, c₁, hfirst⟩ := herror f hf hearly
      exact ⟨hleaves, fun _ => ⟨p, hp, e, hfirst.outcome.1⟩⟩

/-- A database in which two contacts are tied. -/
def tiedConnection : Connection :=
  (((inDatabase {} "x" true).reinforce ⟨"a", none⟩ ⟨"b", none⟩
    { channel := .direct, timestamp := 10 }).outcome {}).2.state

/-- A clique of these two and a third contact, at the first time that does not fit. -/
theorem leavesRows_of_failing_late :
    let run := ((inDatabase {} "x" true).clique [⟨"a", none⟩, ⟨"b", none⟩, ⟨"c", none⟩]
      { channel := .cc, timestamp := 2 ^ 63 }).outcome tiedConnection
    run.1 = .error .integerTooLarge
      ∧ LeavesRows ((⟨.account, "contacts"⟩ : Layout).tableOf "x") tiedConnection run.2.state := by
  intro run
  have hraised : run.1 = .error .integerTooLarge := by decide +kernel
  exact ⟨hraised, (((leavesRows_of_failing {} "x" true tiedConnection _).2 _).2.2 _ hraised
    nofun).1⟩

end Graph

end Rapport
