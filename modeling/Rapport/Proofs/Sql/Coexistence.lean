import Rapport.Proofs.Sql.Clash
import Rapport.Proofs.Sql.Transaction

set_option autoImplicit false

/-! # Tables in one database

Whether a table comes to be ready depends on the database only by the names that are taken there:
`snd_made_iff`. So two tables that can each be made ready can both be, in either order, unless they
clash. If they do, the one that comes second cannot, whichever it is.

For the tables of the accounts of one layout this is a matter of the stem alone: `coexist_iff`. -/

namespace Rapport

open Sql Identifier

namespace Sql.Database

/-! ## Names that are taken -/

/-- Indexes are all created just where their names are free and short enough, and no two are one. -/
theorem snd_createIndexes_iff (db : Database) (indexes : List Index) :
    (db.createIndexes indexes).2 = true
      ↔ (∀ i ∈ indexes, db.isTaken i.name = false ∧ isShortEnough i.name = true)
        ∧ (indexes.map fun i => fold i.name).Nodup := by
  induction indexes generalizing db with
  | nil => simp [createIndexes]
  | cons index rest ih =>
    rw [createIndexes_cons, List.forall_mem_cons, List.map_cons, List.nodup_cons, List.mem_map]
    by_cases hfree : db.isTaken index.name = false ∧ isShortEnough index.name = true
    · rw [if_neg (by simp [hfree]), ih, and_iff_right hfree]
      have hothers : (∀ i ∈ rest, (db.addIndex index.name).isTaken i.name = false
            ∧ isShortEnough i.name = true)
          ↔ (∀ i ∈ rest, db.isTaken i.name = false ∧ isShortEnough i.name = true)
            ∧ ¬∃ i ∈ rest, fold i.name = fold index.name := by
        simp only [isTaken_addIndex, Bool.or_eq_false_iff, decide_eq_false_iff_not, not_exists,
          not_and]
        constructor
        · exact fun h => ⟨fun i hi => ⟨(h i hi).1.2, (h i hi).2⟩, fun i hi => (h i hi).1.1⟩
        · exact fun h i hi => ⟨⟨h.2 i hi, (h.1 i hi).1⟩, (h.1 i hi).2⟩
      rw [hothers, and_assoc]
    · rw [if_pos (by simpa [Decidable.imp_iff_not_or] using hfree)]
      exact iff_of_false Bool.false_ne_true fun h => hfree h.1.1

theorem isTaken_createIndexes {db db' : Database} {indexes : List Index}
    (h : db.createIndexes indexes = (db', true)) (n : String) :
    db'.isTaken n = true ↔ (∃ i ∈ indexes, fold n = fold i.name) ∨ db.isTaken n = true := by
  induction indexes generalizing db with
  | nil =>
    obtain ⟨rfl, _⟩ := Prod.mk.inj h
    simp
  | cons index rest ih =>
    rw [createIndexes_cons] at h
    split at h
    · exact nomatch (Prod.mk.inj h).2
    · rw [ih h, isTaken_addIndex, Bool.or_eq_true, decide_eq_true_eq]
      simp only [List.mem_cons, exists_eq_or_imp, or_left_comm, or_assoc]

/-! ## Making tables -/

/-- Whether a database accepts the names of a table and its indexes where they are free. -/
def isAcceptable (table : String) : Bool :=
  isShortEnough ("pk_" ++ table) && standing table != .refused && !isReserved table
    && (edgeTable table).indexes.all fun i => isShortEnough i.name

variable {db db' : Database} {writable : Bool} {table other : String}

theorem nodup_indexes (table : String) :
    (∀ i ∈ (edgeTable table).indexes, fold i.name ≠ fold table)
      ∧ ((edgeTable table).indexes.map fun i => fold i.name).Nodup := by
  have hnodup := nodup_fold_names table
  rw [names, List.map_cons, List.nodup_cons, List.map_map] at hnodup
  exact ⟨fun i hi heq => hnodup.1 (heq ▸ List.mem_map.2 ⟨i, hi, rfl⟩), hnodup.2⟩

/-- A table is created with its indexes just where their names are free, if it can be at all. -/
theorem creates_iff (hdenoted : denoted table = table) (db : Database) :
    db.canCreate (edgeTable table) = true
        ∧ ((db.addTable (denoted table)).createIndexes (edgeTable table).indexes).2 = true
      ↔ isAcceptable table = true ∧ ∀ n ∈ names table, db.isTaken n = false := by
  have hother : ∀ i ∈ (edgeTable table).indexes,
      (db.addTable table).isTaken i.name = db.isTaken i.name := by
    intro i hi
    rw [isTaken_addTable, decide_eq_false ((nodup_indexes table).1 i hi), Bool.false_or]
  have hindexes : (∀ i ∈ (edgeTable table).indexes,
        (db.addTable table).isTaken i.name = false ∧ isShortEnough i.name = true)
      ↔ (∀ i ∈ (edgeTable table).indexes, db.isTaken i.name = false)
        ∧ ∀ i ∈ (edgeTable table).indexes, isShortEnough i.name = true := by
    rw [← forall₂_and]
    exact forall₂_congr fun i hi => by rw [hother i hi]
  rw [hdenoted, snd_createIndexes_iff, and_iff_left (nodup_indexes table).2, hindexes, canCreate,
    isAcceptable, names, List.forall_mem_cons, List.forall_mem_map,
    show (edgeTable table).name = table from rfl,
    show (edgeTable table).keyName = "pk_" ++ table from rfl, hdenoted]
  simp only [Bool.and_eq_true, Bool.not_eq_true', List.all_eq_true]
  constructor
  · rintro ⟨⟨hname, hfree⟩, hfrees, hshort⟩
    exact ⟨⟨hname, hshort⟩, hfree, hfrees⟩
  · rintro ⟨⟨hname, hshort⟩, hfree, hfrees⟩
    exact ⟨⟨hname, hfree⟩, hfrees, hshort⟩

/-- When making sure of a table succeeds: the table is there, or is one of the database's own, or
    can be created where its names are free, and they are. -/
theorem snd_made_iff (hdenoted : denoted table = table) (db : Database) :
    (db.made writable table).2 = true
      ↔ db.hasTable table = true
        ∨ isBuiltIn table = true ∧ (writable = true → isUnaskable table = false)
        ∨ writable = true ∧ isUnaskable table = false ∧ isAcceptable table = true
          ∧ ∀ n ∈ names table, db.isTaken n = false := by
  cases writable with
  | false => simp [made]
  | true =>
    rw [made, if_pos rfl, create_eq, ← creates_iff hdenoted]
    by_cases hfound : db.hasTable table = true
    · simp [hfound]
    · by_cases hask : isUnaskable table = true
      · simp [hfound, hask]
      · by_cases hown : isBuiltIn table = true
        · simp [hfound, hask, hown]
        · by_cases hcan : db.canCreate (edgeTable table) = true
          · simp [hfound, hask, hown, hcan]
          · simp [hfound, hask, hown, hcan]

/-- The names that are taken once a table has been created. -/
theorem isTaken_created (hdenoted : denoted table = table)
    (h : (db.addTable (denoted table)).createIndexes (edgeTable table).indexes = (db', true))
    (n : String) :
    db'.isTaken n = true ↔ (∃ m ∈ names table, fold m = fold n) ∨ db.isTaken n = true := by
  rw [isTaken_createIndexes h, hdenoted, isTaken_addTable, Bool.or_eq_true, decide_eq_true_eq,
    names]
  simp only [List.mem_cons, exists_eq_or_imp, List.mem_map, exists_exists_and_eq_and,
    eq_comm (a := fold n), or_left_comm, or_assoc]

theorem hasTable_created (hdenoted : denoted table = table)
    (h : (db.addTable (denoted table)).createIndexes (edgeTable table).indexes = (db', true))
    (name : String) :
    db'.hasTable name = (decide (fold name = fold table) || db.hasTable name) := by
  rw [hasTable, tables_addTable_createIndexes h, contains_insert, hdenoted]
  rfl

/-- A table does not stand in the way of one that it does not clash with. -/
theorem snd_made_of_not_clash (htable : denoted table = table) (hother : denoted other = other)
    (hclash : ¬Clash table other) (hmade : db.made writable table = (db', true))
    (hready : (db.made writable other).2 = true) : (db'.made writable other).2 = true := by
  rcases made_cases hmade with ⟨_, rfl⟩ | ⟨_, _, _, _, hnew⟩
  · exact hready
  · rw [snd_made_iff hother] at hready ⊢
    rcases hready with hfound | hown | ⟨hwritable, hask, hacceptable, hfree⟩
    · exact Or.inl (by rw [hasTable_created htable hnew, hfound, Bool.or_true])
    · exact Or.inr (Or.inl hown)
    · refine Or.inr (Or.inr ⟨hwritable, hask, hacceptable, fun n hn => ?_⟩)
      rw [← Bool.not_eq_true, isTaken_created htable hnew, not_or, Bool.not_eq_true]
      exact ⟨fun ⟨m, hm, heq⟩ => hclash ⟨m, hm, n, hn, heq⟩, hfree n hn⟩

/-- A table that has been created stands in the way of one that it clashes with. -/
theorem snd_made_of_clash (htable : denoted table = table) (hother : denoted other = other)
    (hne : fold table ≠ fold other) (hclash : Clash table other)
    (hfound : db.hasTable table = false) (hown : isBuiltIn table = false)
    (hfound' : db.hasTable other = false) (hown' : isBuiltIn other = false)
    (hmade : db.made writable table = (db', true)) : (db'.made writable other).2 = false := by
  rcases made_cases hmade with ⟨hthere, _⟩ | ⟨_, _, _, _, hnew⟩
  · simp [hfound, hown] at hthere
  · rw [← Bool.not_eq_true, snd_made_iff hother, hasTable_created htable hnew,
      decide_eq_false (Ne.symm hne), hfound', hown']
    rintro (hnone | ⟨hnone, _⟩ | ⟨_, _, _, hfree⟩)
    · exact Bool.false_ne_true hnone
    · exact Bool.false_ne_true hnone
    · obtain ⟨m, hm, n, hn, heq⟩ := hclash
      have htaken := (isTaken_created htable hnew n).2 (Or.inl ⟨m, hm, heq⟩)
      rw [hfree n hn] at htaken
      exact Bool.false_ne_true htaken

end Sql.Database

namespace Connection

open Database

/-! ## Making sure of two tables -/

/-- Making sure of a table succeeds. -/
def MakesReady (c : Connection) (table : String) : Prop :=
  ((ensureTable table).outcome c).1 = .ok ()

instance (c : Connection) (table : String) : Decidable (c.MakesReady table) :=
  inferInstanceAs (Decidable (_ = _))

/-- What is left of a connection after a table has been made sure of. -/
def afterEnsuring (c : Connection) (table : String) : Connection :=
  ((ensureTable table).outcome c).2.state

/-- A table is not there, and not taken to be ready. -/
def Lacks (c : Connection) (table : String) : Prop :=
  table ∉ c.ready ∧ ∀ db ∈ c.database, db.hasTable table = false

variable {c : Connection} {table other : String}

theorem makesReady_iff : c.MakesReady table ↔ (ensured table c).1 = .ok () := by
  rw [MakesReady, (ends_ensureTable_ensured table c).outcome.1]

theorem afterEnsuring_eq (c : Connection) (table : String) :
    c.afterEnsuring table = (ensured table c).2 := (ends_ensureTable_ensured table c).outcome.2

theorem makesReady_iff_made {db : Database} (hnot : table ∉ c.ready)
    (hdatabase : c.database = some db) :
    c.MakesReady table
      ↔ c.obstacle = none ∧ table ≠ "" ∧ (db.made c.isWritable table).2 = true := by
  rw [makesReady_iff]
  constructor
  · intro hready
    rcases ensured_cases hready with ⟨hmem, _⟩ | ⟨_, hobstacle, hname, db₁, _, hdatabase₁, hmade, _⟩
    · exact absurd hmem hnot
    · obtain rfl : db = db₁ := Option.some.inj (hdatabase.symm.trans hdatabase₁)
      exact ⟨hobstacle, hname, by rw [hmade]⟩
  · rintro ⟨hobstacle, hname, hmade⟩
    rw [ensured_of_made hnot hobstacle hname hdatabase (Prod.ext rfl hmade)]

theorem makesReady_after_of_not_clash (htable : denoted table = table)
    (hother : denoted other = other) (hclash : ¬Clash table other) (hready : c.MakesReady table)
    (hready' : c.MakesReady other) : (c.afterEnsuring table).MakesReady other := by
  rw [afterEnsuring_eq]
  rcases ensured_cases (makesReady_iff.1 hready) with
    ⟨_, heq⟩ | ⟨_, _, _, db, db', hdatabase, hmade, heq⟩
  · rw [heq]
    exact hready'
  · rw [heq]
    by_cases hmem : other ∈ c.ready ++ [table]
    · rw [makesReady_iff, ensured_of_mem hmem]
    · have hnot : other ∉ c.ready := fun h => hmem (List.mem_append_left _ h)
      obtain ⟨hobstacle, hname, hmade'⟩ := (makesReady_iff_made hnot hdatabase).1 hready'
      exact (makesReady_iff_made hmem rfl).2
        ⟨hobstacle, hname, snd_made_of_not_clash htable hother hclash hmade hmade'⟩

theorem not_makesReady_after_of_clash (htable : denoted table = table)
    (hother : denoted other = other) (hne : fold table ≠ fold other) (hclash : Clash table other)
    (hown : isBuiltIn table = false) (hown' : isBuiltIn other = false) (hlacks : c.Lacks table)
    (hlacks' : c.Lacks other) (hready : c.MakesReady table) :
    ¬(c.afterEnsuring table).MakesReady other := by
  rw [afterEnsuring_eq]
  rcases ensured_cases (makesReady_iff.1 hready) with
    ⟨hmem, _⟩ | ⟨_, _, _, db, db', hdatabase, hmade, heq⟩
  · exact absurd hmem hlacks.1
  · have hmem : other ∉ c.ready ++ [table] := by
      rw [List.mem_append, List.mem_singleton]
      rintro (hmem | rfl)
      · exact hlacks'.1 hmem
      · exact hne rfl
    rw [heq, makesReady_iff_made hmem rfl, snd_made_of_clash htable hother hne hclash
      (hlacks.2 db hdatabase) hown (hlacks'.2 db hdatabase) hown' hmade]
    exact fun h => Bool.false_ne_true h.2.2

end Connection

/-! ## Tables of two accounts -/

/-- No table of an account whose stem is a chain is one of the database's own. -/
theorem isBuiltIn_of_isChain {stem : String} (h : isChain (fold stem).toList = true)
    (account : String) : isBuiltIn (tableName stem (some account)) = false := by
  obtain ⟨rest, hrest⟩ := exists_of_isChain h
  refine isBuiltIn_eq_false ?_ (show 'i' ∉ ['f', 'j', 'p', 's'] by decide)
  rw [toList_fold_tableName_some, hrest]
  rfl

/-- The tables of two accounts need no name both, and where each of them can be made ready, both can
    be, in either order. -/
structure Layout.Coexist (l : Layout) (account other : String) : Prop where
  not_clash : ¬Clash (l.tableOf account) (l.tableOf other)
  ready : ∀ c : Connection, c.MakesReady (l.tableOf account) → c.MakesReady (l.tableOf other) →
    (c.afterEnsuring (l.tableOf account)).MakesReady (l.tableOf other)
      ∧ (c.afterEnsuring (l.tableOf other)).MakesReady (l.tableOf account)

theorem Layout.coexist_iff_not_clash {stem account other : String} :
    Coexist ⟨.account, stem⟩ account other
      ↔ ¬Clash (tableName stem (some account)) (tableName stem (some other)) := by
  have haccount := denoted_tableName_some stem account
  have hother := denoted_tableName_some stem other
  refine ⟨Coexist.not_clash, fun hclash => ⟨hclash, fun c hready hready' => ⟨?_, ?_⟩⟩⟩
  · exact Connection.makesReady_after_of_not_clash haccount hother hclash hready hready'
  · exact Connection.makesReady_after_of_not_clash hother haccount (mt Clash.symm hclash) hready'
      hready

/-- Where two tables that clash are not there yet, the second one cannot be made ready. -/
theorem Layout.not_makesReady_after {stem account other : String}
    (hne : tableName stem (some account) ≠ tableName stem (some other))
    (hclash : Clash (tableName stem (some account)) (tableName stem (some other)))
    {c : Connection} (hlacks : c.Lacks (tableName stem (some account)))
    (hlacks' : c.Lacks (tableName stem (some other)))
    (hready : c.MakesReady (tableName stem (some account))) :
    ¬(c.afterEnsuring (tableName stem (some account))).MakesReady
      (tableName stem (some other)) := by
  have hchain := ((clash_iff hne).1 hclash).1
  exact Connection.not_makesReady_after_of_clash (denoted_tableName_some stem account)
    (denoted_tableName_some stem other) (fun heq => hne (tableName_eq_of_fold heq)) hclash
    (isBuiltIn_of_isChain hchain account) (isBuiltIn_of_isChain hchain other) hlacks hlacks' hready

/-- After a chain there is a clash. -/
theorem Layout.exists_clash {stem : String} (h : isChain (fold stem).toList = true) :
    ∃ account other, tableName stem (some account) ≠ tableName stem (some other)
      ∧ Clash (tableName stem (some account)) (tableName stem (some other)) := by
  have hextends : Extends "a" "ix_a_to_node" := by decide
  have hparts : accountPart "a" ≠ accountPart "ix_a_to_node" := by decide
  have hne : tableName stem (some "a") ≠ tableName stem (some "ix_a_to_node") := by
    intro heq
    have hlists := congrArg String.toList heq
    rw [toList_tableName_some, toList_tableName_some] at hlists
    exact hparts (String.toList_injective (List.cons_injective (List.append_cancel_left hlists)))
  exact ⟨_, _, hne, (clash_iff hne).2 ⟨h, Or.inl hextends⟩⟩

/-- The tables of all accounts that have tables of their own coexist, unless the stem is a chain.
    Two of them coexist just if they do not clash, and clash just if the stem is a chain and the part
    of one account is the part of the other in the name of an index. Of two that clash and are not
    there yet, only the one that comes first can be made ready. -/
theorem Layout.coexist_iff (stem : String) :
    let l : Layout := ⟨.account, stem⟩
    ((∀ account other, l.tableOf account ≠ l.tableOf other → l.Coexist account other)
        ↔ isChain (fold stem).toList = false)
      ∧ ∀ account other, l.tableOf account ≠ l.tableOf other →
        (l.Coexist account other ↔ ¬Clash (l.tableOf account) (l.tableOf other))
          ∧ (Clash (l.tableOf account) (l.tableOf other)
            ↔ isChain (fold stem).toList = true ∧ (Extends account other ∨ Extends other account))
          ∧ (Clash (l.tableOf account) (l.tableOf other) → ∀ c : Connection,
            c.Lacks (l.tableOf account) → c.Lacks (l.tableOf other) →
              (c.MakesReady (l.tableOf account) →
                  ¬(c.afterEnsuring (l.tableOf account)).MakesReady (l.tableOf other))
                ∧ (c.MakesReady (l.tableOf other) →
                  ¬(c.afterEnsuring (l.tableOf other)).MakesReady (l.tableOf account))) := by
  intro l
  refine ⟨?_, fun account other hne => ⟨coexist_iff_not_clash, clash_iff hne,
    fun hclash c hlacks hlacks' => ⟨not_makesReady_after hne hclash hlacks hlacks',
      not_makesReady_after hne.symm hclash.symm hlacks' hlacks⟩⟩⟩
  rw [← Bool.not_eq_true]
  constructor
  · intro hall hchain
    obtain ⟨account, other, hne, hclash⟩ := exists_clash hchain
    exact (hall account other hne).not_clash hclash
  · intro hchain account other hne
    exact coexist_iff_not_clash.2 fun hclash => hchain ((clash_iff hne).1 hclash).1

/-- Under the usual stem two accounts get along, in an empty database, say. -/
theorem Layout.coexist_iff_usual :
    let l : Layout := {}
    let c : Connection := {}
    (c.afterEnsuring (l.tableOf "a")).MakesReady (l.tableOf "ix_a_to_node")
      ∧ (c.afterEnsuring (l.tableOf "ix_a_to_node")).MakesReady (l.tableOf "a") := by
  intro l c
  have hall := (coexist_iff "contacts").1.2 (by decide)
  exact (hall "a" "ix_a_to_node" (by decide)).ready c (by decide +kernel) (by decide +kernel)

/-- Under the stem `ix` they do not, not even there. -/
theorem Layout.not_coexist :
    ¬∀ (stem account other : String), stem ≠ "" →
      (⟨.account, stem⟩ : Layout).tableOf account ≠ (⟨.account, stem⟩ : Layout).tableOf other →
        (⟨.account, stem⟩ : Layout).Coexist account other := by
  intro h
  have hcoexist := h "ix" "a" "ix_a_to_node" (by decide) (by decide)
  have hready := hcoexist.ready {} (by decide +kernel) (by decide +kernel)
  exact absurd hready.1 (by decide +kernel)

end Rapport
