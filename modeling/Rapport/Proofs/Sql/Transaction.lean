import Rapport.Proofs.Sql.Creation

set_option autoImplicit false

/-! # Transactions from beginning to end

`Connection.ensured` is what making sure of a table comes to on any connection, with the connection
it leaves, and `Connection.carryOut` what the transaction that follows comes to. Neither looks at
the journal: `ends_ensureTable_ensured` and `ends_transact_carryOut` say that the actions end so.

What follows are the parts of a connection that these two touch. Making sure of a table adds an
empty table at most (`tables_made`), and only where its name is free; a transaction puts other rows
into one table, and nothing else (`rowsAt_setRowsAt`). -/

namespace Rapport

open Sql Identifier

/-! ## Making tables -/

namespace Sql.Database

/-- The database after a table has been made sure of, by creating it where the database may be
    written to, and whether the table is taken to be ready now. -/
def made (writable : Bool) (table : String) (db : Database) : Database × Bool :=
  if writable then db.create (edgeTable table) else (db, db.hasTable table || isBuiltIn table)

theorem TakesWithin.refl (db : Database) : TakesWithin db db := fun _ h => h

theorem TakesWithin.trans {db db' db'' : Database} (h : TakesWithin db db')
    (h' : TakesWithin db' db'') : TakesWithin db db'' := fun n hn => h' n (h n hn)

theorem takesWithin_addTable (db : Database) (name : String) :
    TakesWithin db (db.addTable name) := by
  intro n hn
  rw [isTaken_addTable, hn, Bool.or_true]

theorem takesWithin_createIndexes (db : Database) (indexes : List Index) :
    TakesWithin db (db.createIndexes indexes).1 := by
  induction indexes generalizing db with
  | nil => exact TakesWithin.refl db
  | cons index rest ih =>
    rw [createIndexes_cons]
    split
    · exact TakesWithin.refl db
    · refine TakesWithin.trans (fun n hn => ?_) (ih (db.addIndex index.name))
      rw [isTaken_addIndex, hn, Bool.or_true]

/-- A table that comes to be ready is there already, or is one of the database's own, or is created
    under a name that nothing has. -/
theorem made_cases {writable : Bool} {table : String} {db db' : Database}
    (h : db.made writable table = (db', true)) :
    ((db.hasTable table = true ∨ isBuiltIn table = true) ∧ db' = db)
      ∨ (writable = true ∧ db.hasTable table = false ∧ isBuiltIn table = false
        ∧ db.canCreate (edgeTable table) = true
        ∧ (db.addTable (denoted table)).createIndexes (edgeTable table).indexes = (db', true)) := by
  cases writable with
  | true =>
    rcases create_cases h with ⟨hfound, rfl⟩ | ⟨_, _, hown, rfl⟩ | ⟨hfound, _, hown, hcan, hnew⟩
    · exact Or.inl ⟨Or.inl hfound, rfl⟩
    · exact Or.inl ⟨Or.inr hown, rfl⟩
    · exact Or.inr ⟨rfl, hfound, hown, hcan, hnew⟩
  | false =>
    obtain ⟨rfl, hready⟩ := Prod.mk.inj h
    exact Or.inl ⟨by simpa using hready, rfl⟩

/-- A table that is created with its indexes is empty, and the others are as they were. -/
theorem tables_addTable_createIndexes {db db' : Database} {name : String} {indexes : List Index}
    {ok : Bool} (h : (db.addTable name).createIndexes indexes = (db', ok)) :
    db'.tables = db.tables.insert (fold name) ⟨name, .empty⟩ := by
  have hkept := tables_createIndexes (db.addTable name) indexes
  rw [h] at hkept
  exact hkept

/-- Making sure of a table leaves the tables as they are, but for a new one that is empty. -/
theorem tables_made {writable : Bool} {table : String} {db db' : Database} {usable : Bool}
    (h : db.made writable table = (db', usable)) :
    db'.tables = db.tables
      ∨ (db.tables.find? (fold (denoted table)) = none
        ∧ db'.tables = db.tables.insert (fold (denoted table)) ⟨denoted table, .empty⟩) := by
  have hsame : ∀ {ready : Bool}, (db, ready) = (db', usable) → db'.tables = db.tables :=
    fun heq => by rw [(Prod.mk.inj heq).1]
  cases writable with
  | false => exact Or.inl (hsame h)
  | true =>
    rw [made, if_pos rfl, create_eq] at h
    split at h
    · exact Or.inl (hsame h)
    · split at h
      · exact Or.inl (hsame h)
      · split at h
        · exact Or.inl (hsame h)
        · split at h
          · next hcan =>
            refine Or.inr ⟨?_, tables_addTable_createIndexes h⟩
            rw [canCreate, Bool.and_eq_true, Bool.not_eq_true', isTaken,
              Bool.or_eq_false_iff] at hcan
            exact Option.isNone_iff_eq_none.1 (Option.isSome_eq_false_iff.1 hcan.2.1)
          · exact Or.inl (hsame h)

theorem takesWithin_made {writable : Bool} {table : String} {db db' : Database}
    (h : db.made writable table = (db', true)) : TakesWithin db db' := by
  rcases made_cases h with ⟨_, rfl⟩ | ⟨_, _, _, _, hnew⟩
  · exact TakesWithin.refl _
  · have hwithin := (takesWithin_addTable db (denoted table)).trans
      (takesWithin_createIndexes _ (edgeTable table).indexes)
    rw [hnew] at hwithin
    exact hwithin

/-- A table that is found in neither or in both of two databases can be made in the one that takes
    less names if it can be made in the other, and is created in both or in neither. -/
theorem made_mono {writable : Bool} {table : String} {db db' db₁' : Database}
    (hwithin : TakesWithin db db') (hfound : db'.hasTable table = db.hasTable table)
    (h : db'.made writable table = (db₁', true)) :
    ∃ db₁, db.made writable table = (db₁, true)
      ∧ ((db₁' = db' ∧ db₁ = db)
        ∨ (db₁'.tables = db'.tables.insert (fold (denoted table)) ⟨denoted table, .empty⟩
          ∧ db₁.tables = db.tables.insert (fold (denoted table)) ⟨denoted table, .empty⟩)) := by
  cases writable with
  | false =>
    obtain ⟨rfl, hready⟩ := Prod.mk.inj h
    rw [hfound] at hready
    exact ⟨db, Prod.ext rfl hready, Or.inl ⟨rfl, rfl⟩⟩
  | true =>
    rcases create_cases h with
      ⟨hthere, rfl⟩ | ⟨hnot, hask, hown, rfl⟩ | ⟨hnot, hask, hown, hcan, hnew⟩
    · rw [hfound] at hthere
      refine ⟨db, ?_, Or.inl ⟨rfl, rfl⟩⟩
      show db.create (edgeTable table) = (db, true)
      rw [create_eq, if_pos hthere]
    · rw [hfound] at hnot
      refine ⟨db, ?_, Or.inl ⟨rfl, rfl⟩⟩
      show db.create (edgeTable table) = (db, true)
      rw [create_eq, if_neg (by simp [hnot]), if_neg (by simp [hask]), if_pos hown]
    · rw [hfound] at hnot
      -- A name that is free where more are taken is free here, and so are those of the indexes.
      have hcan' : db.canCreate (edgeTable table) = true := by
        rw [canCreate, Bool.and_eq_true] at hcan ⊢
        refine ⟨hcan.1, ?_⟩
        rw [Bool.not_eq_true', Bool.eq_false_iff] at hcan ⊢
        exact fun htaken => hcan.2 (hwithin _ htaken)
      have hcreated : ((db'.addTable (denoted table)).createIndexes (edgeTable table).indexes).2
          = true := by rw [hnew]
      have hindexes := createIndexes_mono (hwithin.addTable (denoted table)) hcreated
      rcases hnew' : (db.addTable (denoted table)).createIndexes (edgeTable table).indexes
        with ⟨db₁, ok⟩
      rw [hnew'] at hindexes
      dsimp only at hindexes
      subst hindexes
      refine ⟨db₁, ?_, Or.inr ⟨tables_addTable_createIndexes hnew,
        tables_addTable_createIndexes hnew'⟩⟩
      show db.create (edgeTable table) = (db₁, true)
      rw [create_eq, if_neg (by simp [hnot]), if_neg (by simp [hask]), if_neg (by simp [hown]),
        if_pos hcan', hnew']

theorem tables_setRows (db : Database) (table : String) (rows : Rows) (key : String) :
    (db.setRows table rows).tables.find? key
      = (db.tables.find? key).map fun stored =>
          if key = fold table then { stored with rows } else stored :=
  Keyed.find?_map _ _ _

theorem hasTable_setRows (db : Database) (table : String) (rows : Rows) (name : String) :
    (db.setRows table rows).hasTable name = db.hasTable name := by
  rw [hasTable, hasTable, Keyed.contains, Keyed.contains, tables_setRows, Option.isSome_map]

theorem isTaken_setRows (db : Database) (table : String) (rows : Rows) (name : String) :
    (db.setRows table rows).isTaken name = db.isTaken name := by
  rw [isTaken, isTaken, hasTable_setRows]
  rfl

end Sql.Database

namespace Connection

/-! ## What actions on connections come to -/

variable {α : Type} {c : Connection} {table : String}

/-- What making sure of a table comes to, and the connection that it leaves. -/
def ensured (table : String) (c : Connection) : Except Failure Unit × Connection :=
  if table ∈ c.ready then (.ok (), c)
  else
    match c.obstacle, c.database with
    | some o, _ => (.error (.unreachable o), c)
    | none, none => (.error (.tableUnavailable table), c)
    | none, some db =>
      if table = "" then (.error .tableUnnamed, c)
      else
        match db.made c.isWritable table with
        | (db', true) => (.ok (), { c with database := some db', ready := c.ready ++ [table] })
        | (db', false) => (.error (.tableUnavailable table), { c with database := some db' })

theorem ends_ensureTable_ensured (table : String) (c : Connection) :
    (ensureTable table).Ends c (ensured table c).1 (ensured table c).2 := by
  by_cases hready : table ∈ c.ready
  · rw [ensured, if_pos hready]
    exact ends_ensureTable_of_mem hready
  · rw [ensured, if_neg hready]
    refine (Action.Ends.state c).bind ?_
    rw [if_neg (by simpa using hready)]
    obtain ⟨obstacle, database, isWritable, ready⟩ := c
    cases obstacle with
    | some o => exact Action.Ends.bind_error _ (Action.Ends.throw _ _)
    | none =>
      cases database with
      | none => exact Action.Ends.throw _ _
      | some db =>
        by_cases hname : table = ""
        · simp only [if_pos hname]
          exact Action.Ends.bind_error _ (Action.Ends.throw _ _)
        · simp only [if_neg hname]
          show Action.Ends (Action.update _ >>= _) _ _ _
          rcases hmade : db.made isWritable table with ⟨db', usable⟩
          rw [Database.made] at hmade
          simp only [hmade]
          refine (Action.Ends.update _ _).bind ?_
          cases usable with
          | true => exact (Action.Ends.update _ _).bind (Action.Ends.note _ _)
          | false => exact Action.Ends.throw _ _

/-- The rows of the table that statements mean by a name, if it is there. -/
def rowsAt (c : Connection) (table : String) : Option Rows :=
  c.database.bind (·.rows? (denoted table))

/-- Put other rows into the table that statements mean by a name. -/
def setRowsAt (c : Connection) (table : String) (rows : Rows) : Connection :=
  { c with database := c.database.map (·.setRows (denoted table) rows) }

/-- What the transaction of a task comes to once its table has been made sure of, and the connection
    that it leaves. -/
def carryOut (task : Task) (account table : String) (f : Rows → Except Refusal (Rows × α))
    (c : Connection) : Except Failure α × Connection :=
  match c.rowsAt table with
  | none => (.error (.statementRefused task account), c)
  | some rows =>
    if (standing table).allows task then
      match f rows with
      | .ok (rows', a) =>
        if writes task && !c.isWritable then (.error (.statementRefused task account), c)
        else (.ok a, c.setRowsAt table rows')
      | .error .refused => (.error (.statementRefused task account), c)
      | .error .tooLarge => (.error .integerTooLarge, c)
    else (.error (.statementRefused task account), c)

variable {task : Task} {account : String} {f : Rows → Except Refusal (Rows × α)}

theorem carryOut_eq {rows rows' : Rows} {a : α} (hrows : c.rowsAt table = some rows)
    (hallows : (standing table).allows task = true) (hf : f rows = .ok (rows', a))
    (hwritable : c.isWritable = true) :
    carryOut task account table f c = (.ok a, c.setRowsAt table rows') := by
  rw [carryOut, hrows]
  simp only [if_pos hallows, hf, hwritable, Bool.not_true, Bool.and_false, Bool.false_eq_true,
    if_false]

theorem ends_transact_carryOut (hok : (ensured table c).1 = .ok ()) :
    (transact task account table f).Ends c (carryOut task account table f (ensured table c).2).1
      (carryOut task account table f (ensured table c).2).2 := by
  have hensure := ends_ensureTable_ensured table c
  rw [hok] at hensure
  refine hensure.bind ?_
  generalize (ensured table c).2 = c'
  refine (Action.Ends.state c').bind ?_
  obtain ⟨obstacle, database, isWritable, ready⟩ := c'
  cases database with
  | none => exact Action.Ends.throw _ _
  | some db =>
    simp only [carryOut, rowsAt, Option.bind_some, Database.transact]
    cases db.rows? (denoted table) with
    | none => exact Action.Ends.throw _ _
    | some rows =>
      by_cases hallows : (standing table).allows task = true
      · simp only [if_pos hallows]
        cases hf : f rows with
        | ok result =>
          obtain ⟨rows', a⟩ := result
          dsimp only
          split
          · exact Action.Ends.bind_error _ (Action.Ends.throw _ _)
          · exact (Action.Ends.update _ _).bind (Action.Ends.pure _ _)
        | error e =>
          cases e with
          | refused => exact Action.Ends.throw _ _
          | tooLarge => exact Action.Ends.throw _ _
      · simp only [if_neg hallows]
        exact Action.Ends.throw _ _

/-- A transaction whose rows give it up for an integer that is too large leaves what making sure of
    its table leaves. -/
theorem ends_transact_tooLarge {rows : Rows} (hok : (ensured table c).1 = .ok ())
    (hrows : (ensured table c).2.rowsAt table = some rows)
    (hallows : (standing table).allows task = true) (hf : f rows = .error .tooLarge) :
    (transact task account table f).Ends c (.error .integerTooLarge) (ensured table c).2 := by
  have hends : (transact task account table f).Ends c _ _ := ends_transact_carryOut hok
  simp only [carryOut, hrows, if_pos hallows, hf] at hends
  exact hends

theorem ends_transact_error {e : Failure} (herror : (ensured table c).1 = .error e) :
    (transact task account table f).Ends c (.error e) (ensured table c).2 := by
  have hensure := ends_ensureTable_ensured table c
  rw [herror] at hensure
  exact hensure.bind_error _

/-- A transaction fails, and leaves what making sure of its table leaves, or it puts other rows into
    its table that come of the rows before. -/
theorem ends_transact_cases (task : Task) (account table : String)
    (f : Rows → Except Refusal (Rows × α)) (c : Connection) :
    (∃ e, (transact task account table f).Ends c (.error e) (ensured table c).2)
      ∨ ∃ rows rows' a, (ensured table c).1 = .ok () ∧ (ensured table c).2.rowsAt table = some rows
        ∧ (standing table).allows task = true ∧ f rows = .ok (rows', a)
        ∧ (transact task account table f).Ends c (.ok a)
          ((ensured table c).2.setRowsAt table rows') := by
  cases hready : (ensured table c).1 with
  | error e => exact Or.inl ⟨e, ends_transact_error hready⟩
  | ok _ =>
    have hends : (transact task account table f).Ends c _ _ := ends_transact_carryOut hready
    cases hrows : (ensured table c).2.rowsAt table with
    | none =>
      simp only [carryOut, hrows] at hends
      exact Or.inl ⟨_, hends⟩
    | some rows =>
      by_cases hallows : (standing table).allows task = true
      · simp only [carryOut, hrows, if_pos hallows] at hends
        rcases hf : f rows with (_ | _) | ⟨rows', a⟩
        · simp only [hf] at hends
          exact Or.inl ⟨_, hends⟩
        · simp only [hf] at hends
          exact Or.inl ⟨_, hends⟩
        · simp only [hf] at hends
          split at hends
          · exact Or.inl ⟨_, hends⟩
          · exact Or.inr ⟨rows, rows', a, rfl, rfl, hallows, hf, hends⟩
      · simp only [carryOut, hrows, if_neg hallows] at hends
        exact Or.inl ⟨_, hends⟩

/-! ## What is left of a connection -/

theorem ensured_of_mem (h : table ∈ c.ready) : ensured table c = (.ok (), c) := by
  rw [ensured, if_pos h]

/-- A transaction on a table that is ready, whose task may be done with it and which its rows do not
    refuse, puts other rows into the table. -/
theorem ends_transact_of_mem {rows rows' : Rows} {a : α} (hready : table ∈ c.ready)
    (hrows : c.rowsAt table = some rows) (hallows : (standing table).allows task = true)
    (hf : f rows = .ok (rows', a)) (hwritable : c.isWritable = true) :
    (transact task account table f).Ends c (.ok a) (c.setRowsAt table rows') := by
  have hok : (ensured table c).1 = .ok () := by rw [ensured_of_mem hready]
  have hends : (transact task account table f).Ends c _ _ := ends_transact_carryOut hok
  rw [ensured_of_mem hready, carryOut_eq hrows hallows hf hwritable] at hends
  exact hends

/-- Where a table comes to be ready, it was so, or it has been made. -/
theorem ensured_cases (hok : (ensured table c).1 = .ok ()) :
    (table ∈ c.ready ∧ (ensured table c).2 = c)
      ∨ (table ∉ c.ready ∧ c.obstacle = none ∧ table ≠ "" ∧ ∃ db db', c.database = some db
        ∧ db.made c.isWritable table = (db', true)
        ∧ (ensured table c).2
          = { c with database := some db', ready := c.ready ++ [table] }) := by
  by_cases hready : table ∈ c.ready
  · exact Or.inl ⟨hready, by rw [ensured_of_mem hready]⟩
  · refine Or.inr ⟨hready, ?_⟩
    obtain ⟨obstacle, database, isWritable, ready⟩ := c
    rw [ensured, if_neg hready] at hok ⊢
    cases obstacle with
    | some o => exact nomatch hok
    | none =>
      cases database with
      | none => exact nomatch hok
      | some db =>
        by_cases hname : table = ""
        · simp only [if_pos hname] at hok
          exact nomatch hok
        · simp only [if_neg hname] at hok ⊢
          rcases hmade : db.made isWritable table with ⟨db', _ | _⟩
          · rw [hmade] at hok
            exact nomatch hok
          · exact ⟨trivial, hname, db, db', rfl, hmade, rfl⟩

theorem ensured_of_made {db db' : Database} (hready : table ∉ c.ready)
    (hobstacle : c.obstacle = none) (hname : table ≠ "") (hdatabase : c.database = some db)
    (hmade : db.made c.isWritable table = (db', true)) :
    ensured table c
      = (.ok (), { c with database := some db', ready := c.ready ++ [table] }) := by
  rw [ensured, if_neg hready, hobstacle, hdatabase]
  simp only [if_neg hname, hmade]

theorem mem_ready_ensured (hok : (ensured table c).1 = .ok ()) :
    table ∈ (ensured table c).2.ready := by
  rcases ensured_cases hok with ⟨hready, heq⟩ | ⟨_, _, _, db, db', _, _, heq⟩
  · rw [heq]
    exact hready
  · rw [heq]
    exact List.mem_append_right _ List.mem_cons_self

/-- What is left of a connection after a table has been made sure of, whether it is ready or not. -/
theorem snd_ensured_cases (table : String) (c : Connection) :
    (ensured table c).2 = c
      ∨ ∃ db db' usable, c.obstacle = none ∧ c.database = some db
        ∧ db.made c.isWritable table = (db', usable)
        ∧ (ensured table c).2 = { c with
          database := some db'
          ready := if usable then c.ready ++ [table] else c.ready } := by
  by_cases hready : table ∈ c.ready
  · exact Or.inl (by rw [ensured_of_mem hready])
  · obtain ⟨obstacle, database, isWritable, ready⟩ := c
    rw [ensured, if_neg hready]
    cases obstacle with
    | some o => exact Or.inl rfl
    | none =>
      cases database with
      | none => exact Or.inl rfl
      | some db =>
        by_cases hname : table = ""
        · exact Or.inl (by simp only [if_pos hname])
        · rcases hmade : db.made isWritable table with ⟨db', usable⟩
          refine Or.inr ⟨db, db', usable, rfl, rfl, hmade, ?_⟩
          simp only [if_neg hname, hmade]
          cases usable <;> rfl

/-- A table that is ready stays so. -/
theorem ready_subset_ensured (table : String) (c : Connection) :
    c.ready ⊆ (ensured table c).2.ready := by
  rcases snd_ensured_cases table c with heq | ⟨_, _, usable, _, _, _, heq⟩
  · rw [heq]
    exact List.Subset.refl _
  · rw [heq]
    cases usable with
    | true => exact List.subset_append_left _ _
    | false => exact List.Subset.refl _

/-- Making sure of a table leaves all rows as they are, and brings an empty table at most. -/
theorem rowsAt_ensured (table : String) (c : Connection) (table' : String) :
    (ensured table c).2.rowsAt table' = c.rowsAt table'
      ∨ (c.rowsAt table' = none ∧ (ensured table c).2.rowsAt table' = some .empty) := by
  rcases snd_ensured_cases table c with heq | ⟨db, db', usable, _, hdatabase, hmade, heq⟩
  · rw [heq]
    exact Or.inl rfl
  · rw [heq, rowsAt, rowsAt, hdatabase]
    simp only [Option.bind_some, Database.rows?]
    rcases Database.tables_made hmade with htables | ⟨hfree, htables⟩
    · rw [htables]
      exact Or.inl rfl
    · rw [htables, Keyed.find?_insert]
      by_cases hkey : fold (denoted table') = fold (denoted table)
      · rw [if_pos hkey, hkey, hfree]
        exact Or.inr ⟨rfl, rfl⟩
      · rw [if_neg hkey]
        exact Or.inl rfl

theorem rowsAt_setRowsAt (c : Connection) (table table' : String) (rows : Rows) :
    (c.setRowsAt table rows).rowsAt table'
      = if fold (denoted table') = fold (denoted table) then (c.rowsAt table').map fun _ => rows
        else c.rowsAt table' := by
  obtain ⟨obstacle, database, isWritable, ready⟩ := c
  cases database with
  | none =>
    rw [rowsAt, setRowsAt, rowsAt]
    split <;> rfl
  | some db =>
    simp only [rowsAt, setRowsAt, Option.map_some, Option.bind_some, Database.rows?,
      Database.tables_setRows, Option.map_map]
    split
    · cases db.tables.find? (fold (denoted table')) <;> rfl
    · rfl

/-- What a transaction leaves is the connection that it found, or one with other rows in its table
    that come of the rows before, if statements can be made of its name. -/
theorem carryOut_cases (task : Task) (account table : String)
    (f : Rows → Except Refusal (Rows × α)) (c : Connection) :
    (carryOut task account table f c).2 = c
      ∨ ∃ rows rows' a, c.rowsAt table = some rows ∧ (standing table).allows task = true
        ∧ f rows = .ok (rows', a)
        ∧ (carryOut task account table f c).2 = c.setRowsAt table rows' := by
  rw [carryOut]
  split
  · exact Or.inl rfl
  · next rows hrows =>
    split
    · next hallows =>
      split
      · next rows' a hf =>
        split
        · exact Or.inl rfl
        · exact Or.inr ⟨rows, rows', a, hrows, hallows, hf, rfl⟩
      · exact Or.inl rfl
      · exact Or.inl rfl
    · exact Or.inl rfl

/-- A transaction that is not carried out leaves what making sure of its table leaves. One that is
    puts other rows into the table, and statements can be made of its name. -/
theorem exists_ends_transact (task : Task) (account table : String)
    (f : Rows → Except Refusal (Rows × α)) (c : Connection) :
    ∃ result c', (transact task account table f).Ends c result c'
      ∧ (c' = (ensured table c).2
        ∨ ∃ rows rows' a, (ensured table c).1 = .ok () ∧ (ensured table c).2.rowsAt table = some rows
          ∧ (standing table).allows task = true ∧ f rows = .ok (rows', a)
          ∧ c' = (ensured table c).2.setRowsAt table rows') := by
  rcases ends_transact_cases task account table f c with
    ⟨e, hends⟩ | ⟨rows, rows', a, hok, hrows, hallows, hf, hends⟩
  · exact ⟨_, _, hends, Or.inl rfl⟩
  · exact ⟨_, _, hends, Or.inr ⟨rows, rows', a, hok, hrows, hallows, hf, rfl⟩⟩

theorem ready_carryOut (task : Task) (account table : String)
    (f : Rows → Except Refusal (Rows × α)) (c : Connection) :
    (carryOut task account table f c).2.ready = c.ready := by
  rcases carryOut_cases task account table f c with heq | ⟨_, _, _, _, _, _, heq⟩
  · rw [heq]
  · rw [heq]
    rfl

end Connection

end Rapport
