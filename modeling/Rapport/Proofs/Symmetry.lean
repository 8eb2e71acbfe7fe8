import Rapport.Proofs.Schedule
import Rapport.Proofs.Sql.Share
import Rapport.Proofs.Sql.Transaction

set_option autoImplicit false

/-! # Edges that are the same in both directions

A store is `Symmetric` if every relation of an edge is a relation of the edge back, with the same
weight and the same time; so are the rows of a table, and a connection all of whose tables are. A
reinforcement that counts in both directions keeps this, whatever its channel is and whether its
integers fit or not, and so does every removal: what it goes by does not change when the ends of an
edge are swapped. Stale edges are found by their own time, which is that of the edge back. -/

namespace Rapport

/-- A reinforcement that counts in both directions writes both edges or neither. -/
theorem Reinforcement.mem_edges_swap {r : Reinforcement} (hr : r.directed = false) {a b : Contact}
    {origin target : String} :
    (target, origin) ∈ r.edges a b ↔ (origin, target) ∈ r.edges a b := by
  simp only [mem_edges, hr, true_and]
  constructor
  · rintro (⟨ht, ho⟩ | ⟨ht, ho⟩)
    · exact Or.inr ⟨ho, ht⟩
    · exact Or.inl ⟨ho, ht⟩
  · rintro (⟨ho, ht⟩ | ⟨ho, ht⟩)
    · exact Or.inr ⟨ht, ho⟩
    · exact Or.inl ⟨ht, ho⟩

/-! ## Stores -/

/-- A removal takes an edge if it takes the edge back. -/
theorem Removal.takes_swap (what : Removal) (origin target : String) {bonds back : Bonds}
    (h : back.find? Channel.combinedName = bonds.find? Channel.combinedName) :
    what.takes target origin back = what.takes origin target bonds := by
  cases what with
  | contact c => simp only [takes, Bool.or_comm]
  | between a b => simp only [takes, Bool.or_comm, Bool.and_comm]
  | source name => simp only [takes, Bool.or_comm]
  | everything => rfl
  | stale cutoff => simp only [takes, h]

namespace Store

/-- Every relation of an edge is one of the edge back, with the same weight and time. -/
def Symmetric (s : Store) : Prop :=
  ∀ account origin target relation,
    s.bond? account origin target relation = s.bond? account target origin relation

theorem symmetric_empty : Symmetric {} := by
  intro account origin target relation
  rw [bond?_empty, bond?_empty]

/-- What a reinforcement makes of relations depends on what they hold, not on their order. -/
theorem find?_grownBonds_congr {bonds bonds' : Bonds} (h : ∀ k, bonds.find? k = bonds'.find? k)
    (r : Reinforcement) (relation : String) :
    (grownBonds r bonds).find? relation = (grownBonds r bonds').find? relation := by
  have hfold : ∀ (f : Option Bond → Bond) (m : Bonds) (k : String),
      (r.relations.foldl (fun m k => m.upsert k f) m).find? k
        = (r.relations.filter (id · = k)).foldl (fun o _ => some (f o)) (m.find? k) :=
    fun f m k => Keyed.find?_foldl_upsert id (fun _ => f) r.relations m k
  unfold grownBonds
  rw [hfold, hfold, hfold, hfold, h]

theorem bond?_reinforce_of_mem (s : Store) (account : String) {a b : Contact} {r : Reinforcement}
    {origin target : String} (h : (origin, target) ∈ r.edges a b) (relation : String) :
    (s.reinforce account a b r).bond? account origin target relation
      = (grownBonds r ((s.record? account origin target).getD .empty)).find? relation := by
  rw [bond?_eq, record?_reinforce, if_pos ⟨rfl, h⟩, Option.bind_some]

theorem bond?_reinforce_of_not (s : Store) {account account' : String} {a b : Contact}
    {r : Reinforcement} {origin target : String}
    (h : ¬(account' = account ∧ (origin, target) ∈ r.edges a b)) (relation : String) :
    (s.reinforce account a b r).bond? account' origin target relation
      = s.bond? account' origin target relation := by
  rw [bond?_eq, record?_reinforce, if_neg h, bond?_eq]

theorem Symmetric.reinforce {s : Store} (hs : s.Symmetric) (account : String) (a b : Contact)
    {r : Reinforcement} (hr : r.directed = false) : (s.reinforce account a b r).Symmetric := by
  intro account' origin target relation
  by_cases h : account' = account ∧ (origin, target) ∈ r.edges a b
  · obtain ⟨rfl, hedge⟩ := h
    rw [bond?_reinforce_of_mem s account' hedge,
      bond?_reinforce_of_mem s account' ((Reinforcement.mem_edges_swap hr).2 hedge)]
    refine find?_grownBonds_congr (fun k => ?_) r relation
    rw [find?_getD_record?, find?_getD_record?]
    exact hs account' origin target k
  · rw [bond?_reinforce_of_not s h, bond?_reinforce_of_not s fun hback =>
      h ⟨hback.1, (Reinforcement.mem_edges_swap hr).1 hback.2⟩]
    exact hs account' origin target relation

theorem Symmetric.remove {s : Store} (hs : s.Symmetric) (account : String) (what : Removal) :
    (s.remove account what.takes).Symmetric := by
  intro account' origin target relation
  rw [bond?_remove, bond?_remove]
  have hback := hs account' origin target relation
  cases hbond : s.bond? account' origin target relation with
  | none =>
    rw [← hback, hbond, ite_self, ite_self]
  | some b =>
    rw [hbond] at hback
    obtain ⟨bonds, hrecord, _⟩ := Option.bind_eq_some_iff.1 hbond
    obtain ⟨back, hrecord', _⟩ := Option.bind_eq_some_iff.1 hback.symm
    have hcombined : back.find? Channel.combinedName = bonds.find? Channel.combinedName := by
      have hsame := hs account' target origin Channel.combinedName
      rw [bond?_eq, bond?_eq, record?, record?, hrecord, hrecord'] at hsame
      exact hsame
    rw [record?, record?, hrecord, hrecord', ← hback, Option.any_some, Option.any_some,
      what.takes_swap origin target hcombined]

end Store

/-! ## Rows -/

namespace Sql.Rows

/-- Every row has one for the edge back, with the same cells. -/
def Symmetric (rows : Rows) : Prop :=
  ∀ account origin target relation,
    rows.bond? account origin target relation = rows.bond? account target origin relation

theorem symmetric_empty : Symmetric .empty := by
  intro account origin target relation
  rw [bond?, bond?, Keyed.find?_empty, Keyed.find?_empty]

theorem Symmetric.reinforce {rows rows' : Rows} (hrows : rows.Symmetric) {account : String}
    {a b : Contact} {r : Reinforcement} (hr : r.directed = false)
    (h : rows.reinforce account a b r = .ok rows') : rows'.Symmetric := by
  have hholds : Numeral.Word64.holds r.amount = true ∧ Numeral.Word64.holds r.timestamp = true := by
    by_contra hnot
    rw [reinforce_eq_ite, if_neg hnot] at h
    cases h
  intro account' origin target relation
  have hback := hrows account' origin target relation
  rw [bond?, bond?, find?_reinforce hholds.1 hholds.2 h, find?_reinforce hholds.1 hholds.2 h]
  unfold bond? at hback
  simp only [mem_reinforcedKeys, Reinforcement.mem_edges_swap hr, hback]

/-- A removal takes a row if it takes that of the edge back. -/
theorem Symmetric.takes_swap {rows : Rows} (hrows : rows.Symmetric) (account : String)
    (what : Removal) (shadowed : Bool) (account' origin target relation : String)
    (cells back : Cells) :
    rows.takes account what shadowed ⟨account', target, origin, relation⟩ back
      = rows.takes account what shadowed ⟨account', origin, target, relation⟩ cells := by
  unfold takes
  cases what with
  | contact c => simp only [Bool.or_comm]
  | between a b => simp only [Bool.or_comm, Bool.and_comm]
  | source name => simp only [Bool.or_comm]
  | everything => rfl
  | stale cutoff =>
    cases shadowed with
    | true => simp only [Bool.true_or]
    | false =>
      -- The row that makes an edge stale has one for the edge back, of the same time.
      have hstale := hrows account' origin target Channel.combinedName
      congr 1
      rw [Bool.eq_iff_iff]
      simp only [Bool.false_or, any_stale_iff, hstale]

theorem Symmetric.remove {rows rows' : Rows} (hrows : rows.Symmetric) {account : String}
    {what : Removal} {shadowed : Bool} {n : Nat}
    (h : rows.remove account what shadowed = .ok (rows', n)) : rows'.Symmetric := by
  intro account' origin target relation
  have hback := hrows account' origin target relation
  unfold bond? at hback
  rw [eq_delete_of_remove h, bond?, bond?, find?_delete, find?_delete, hback]
  congr 1
  funext cells
  rw [hrows.takes_swap account what shadowed account' origin target relation cells cells]

end Sql.Rows

/-! ## Connections -/

namespace Connection

open Sql

/-- Every table is the same in both directions. -/
def Symmetric (c : Connection) : Prop :=
  ∀ db, c.database = some db → ∀ key stored, db.tables.find? key = some stored →
    stored.rows.Symmetric

variable {α : Type} {c : Connection} {table : String}

/-- No table of a connection has any rows. -/
def IsBlank (c : Connection) : Prop :=
  ∀ db, c.database = some db → ∀ key stored, db.tables.find? key = some stored →
    stored.rows = .empty

theorem IsBlank.symmetric (h : c.IsBlank) : c.Symmetric := by
  intro db hdb key stored hstored
  rw [h db hdb key stored hstored]
  exact Rows.symmetric_empty

theorem Symmetric.rowsAt (hc : c.Symmetric) {rows : Rows} (h : c.rowsAt table = some rows) :
    rows.Symmetric := by
  obtain ⟨db, hdb, hrows⟩ := Option.bind_eq_some_iff.1 h
  obtain ⟨stored, hstored, rfl⟩ := Option.map_eq_some_iff.1 hrows
  exact hc db hdb _ stored hstored

theorem Symmetric.setRowsAt (hc : c.Symmetric) {rows : Rows} (hrows : rows.Symmetric) :
    (c.setRowsAt table rows).Symmetric := by
  intro db' hdb' key stored hstored
  obtain ⟨db, hdb, rfl⟩ := Option.map_eq_some_iff.1 hdb'
  rw [Database.tables_setRows] at hstored
  obtain ⟨stored', hstored', rfl⟩ := Option.map_eq_some_iff.1 hstored
  by_cases hkey : key = Identifier.fold (Identifier.denoted table)
  · rw [if_pos hkey]
    exact hrows
  · rw [if_neg hkey]
    exact hc db hdb key stored' hstored'

/-- A table that has to be created is empty. -/
theorem Symmetric.ensured (hc : c.Symmetric) (table : String) :
    (ensured table c).2.Symmetric := by
  rcases snd_ensured_cases table c with heq | ⟨db, db', usable, _, hdb, hmade, heq⟩
  · rw [heq]
    exact hc
  · rw [heq]
    intro db₁ hdb₁ key stored hstored
    rw [← Option.some_inj.1 hdb₁] at hstored
    rcases Database.tables_made hmade with htables | ⟨_, htables⟩
    · rw [htables] at hstored
      exact hc db hdb key stored hstored
    · rw [htables, Keyed.find?_insert] at hstored
      split at hstored
      · rw [← Option.some_inj.1 hstored]
        exact Rows.symmetric_empty
      · exact hc db hdb key stored hstored

/-- A transaction that keeps the rows of its table symmetric keeps all of them so, whether it is
    carried out or fails. -/
theorem keeps_symmetric_transact {task : Task} {account : String}
    {f : Rows → Except Refusal (Rows × α)}
    (hf : ∀ rows rows' a, rows.Symmetric → f rows = .ok (rows', a) → rows'.Symmetric) :
    (transact task account table f).Keeps Symmetric := by
  refine Action.Keeps.of_ends fun c hc => ?_
  have hensured := hc.ensured table
  obtain ⟨result, c', hends, heq | ⟨rows, rows', a, _, hrows, _, hok, heq⟩⟩ :=
    exists_ends_transact task account table f c
  · exact ⟨result, c', hends, heq ▸ hensured⟩
  · exact ⟨result, c', hends, heq ▸ hensured.setRowsAt (hf rows rows' a (hensured.rowsAt hrows) hok)⟩

end Connection

end Rapport
