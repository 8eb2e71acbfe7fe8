import Mathlib.Data.List.Nodup
import Rapport.Proofs.Sql.Naming

set_option autoImplicit false

/-! # Names that clash

A table and its indexes need three names, and a database keeps all names in one space. Tables of
two accounts clash if a name that one needs is, but for the case of `A` to `Z`, a name that the
other needs. Indexes of two tables never have one name, but the table of one account may have the
name of an index of the other's: after the stem `ix` the table of `ix_a_to_node` has that of an
index of the table of `a`. `clash_iff` says that there are no clashes but of this kind, which takes
a stem that is `ix` again and again (`isChain`). -/

namespace Rapport.Sql

open Identifier

/-! ## Names that a table needs -/

/-- What the names of indexes end with. -/
def indexEndings : List String := ["_to_node", "_edge_update"]

/-- The name of an index of a table. -/
def indexName (table ending : String) : String := "ix_" ++ table ++ ending

/-- The names that a table and its indexes need. -/
def names (table : String) : List String := table :: (edgeTable table).indexes.map (·.name)

theorem names_eq (table : String) : names table = table :: indexEndings.map (indexName table) := rfl

theorem mem_names {table n : String} :
    n ∈ names table ↔ n = table ∨ ∃ ending ∈ indexEndings, indexName table ending = n := by
  rw [names_eq, List.mem_cons, List.mem_map]

/-- A name that one table needs is, to the database, one that another needs. -/
def Clash (table other : String) : Prop := ∃ m ∈ names table, ∃ n ∈ names other, fold m = fold n

instance (table other : String) : Decidable (Clash table other) :=
  inferInstanceAs (Decidable (∃ m ∈ _, _))

theorem Clash.symm {table other : String} (h : Clash table other) : Clash other table := by
  obtain ⟨m, hm, n, hn, heq⟩ := h
  exact ⟨n, hn, m, hm, heq.symm⟩

theorem toList_fold_indexName (table : String) {ending : String} (h : ending ∈ indexEndings) :
    (fold (indexName table ending)).toList
      = 'i' :: 'x' :: '_' :: ((fold table).toList ++ ending.toList) := by
  have hbeginning : "ix_".toList.map Text.lowerASCIIChar = ['i', 'x', '_'] := by decide
  have hending : ∀ e ∈ indexEndings, e.toList.map Text.lowerASCIIChar = e.toList := by decide
  rw [toList_fold, indexName, String.toList_append, String.toList_append, List.map_append,
    List.map_append, hbeginning, hending ending h, ← toList_fold, List.append_assoc]
  rfl

theorem length_fold (name : String) : (fold name).length = name.length := by
  rw [← String.length_toList, toList_fold, List.length_map, String.length_toList]

/-- No table needs a name twice. -/
theorem nodup_fold_names (table : String) : ((names table).map fold).Nodup := by
  refine List.Nodup.of_map String.length ?_
  simp only [names_eq, indexEndings, indexName, List.map_cons, List.map_nil, length_fold,
    String.length_append]
  have hbeginning : "ix_".length = 3 := by decide
  have hnode : "_to_node".length = 8 := by decide
  have hupdate : "_edge_update".length = 12 := by decide
  simp only [List.nodup_cons, List.mem_cons, List.not_mem_nil, or_false, hbeginning, hnode, hupdate]
  refine ⟨by omega, by omega, by simp, List.nodup_nil⟩

/-- Indexes of two tables have one name only if the tables have. -/
theorem fold_eq_of_indexName {table other e e' : String} (he : e ∈ indexEndings)
    (he' : e' ∈ indexEndings) (h : fold (indexName table e) = fold (indexName other e')) :
    fold table = fold other := by
  have hlists := congrArg String.toList h
  rw [toList_fold_indexName table he, toList_fold_indexName other he'] at hlists
  have hwords : (fold table).toList ++ e.toList = (fold other).toList ++ e'.toList :=
    List.append_cancel_left (show ['i', 'x', '_'] ++ _ = ['i', 'x', '_'] ++ _ from hlists)
  -- Two different endings differ in the last letter but one.
  have hends : e.toList.reverse.take 2 = e'.toList.reverse.take 2 := by
    have hlength : ∀ e ∈ indexEndings, 2 ≤ e.toList.reverse.length := by decide
    have hreversed := congrArg (List.take 2 ∘ List.reverse) hwords
    simp only [Function.comp_apply, List.reverse_append] at hreversed
    rwa [List.take_append_of_le_length (hlength e he),
      List.take_append_of_le_length (hlength e' he')] at hreversed
  have hendings : ∀ e ∈ indexEndings, ∀ e' ∈ indexEndings,
      e.toList.reverse.take 2 = e'.toList.reverse.take 2 → e = e' := by decide
  obtain rfl := hendings e he e' he' hends
  exact String.toList_injective (List.append_cancel_right hwords)

/-! ## Chains -/

/-- Whether a word is `ix`, or several of it with underscores in between. -/
def isChain : List Char → Bool
  | [] | [_] => false
  | [c, d] => c == 'i' && d == 'x'
  | c :: d :: e :: rest => c == 'i' && d == 'x' && e == '_' && isChain rest

theorem exists_of_isChain {cs : List Char} (h : isChain cs = true) :
    ∃ rest, cs = 'i' :: 'x' :: rest := by
  match cs with
  | [] | [_] => exact nomatch h
  | [c, d] =>
    simp only [isChain, Bool.and_eq_true, beq_iff_eq] at h
    exact ⟨[], by rw [h.1, h.2]⟩
  | c :: d :: e :: rest =>
    simp only [isChain, Bool.and_eq_true, beq_iff_eq] at h
    exact ⟨e :: rest, by rw [h.1.1.1, h.1.1.2]⟩

/-- A word that is moved by `ix_` when it is put behind that is a chain. -/
theorem append_eq_cons_append_iff (rest ys : List Char) : ∀ cs : List Char,
    cs ++ '_' :: ys = 'i' :: 'x' :: '_' :: (cs ++ rest)
      ↔ isChain cs = true ∧ ys = 'i' :: 'x' :: rest
  | [] => by simp [isChain]
  | [c] => by simp [isChain]
  | [c, d] => by
    simp only [isChain, List.cons_append, List.nil_append, List.cons.injEq, Bool.and_eq_true,
      beq_iff_eq]
    constructor
    · rintro ⟨rfl, rfl, _, rfl⟩
      exact ⟨⟨rfl, rfl⟩, rfl⟩
    · rintro ⟨⟨rfl, rfl⟩, rfl⟩
      exact ⟨rfl, rfl, trivial, rfl⟩
  | c :: d :: e :: cs => by
    simp only [isChain, List.cons_append, List.cons.injEq, Bool.and_eq_true, beq_iff_eq]
    have ih := append_eq_cons_append_iff rest ys cs
    constructor
    · rintro ⟨rfl, rfl, rfl, heq⟩
      obtain ⟨hchain, hys⟩ := ih.1 heq
      exact ⟨⟨⟨⟨rfl, rfl⟩, rfl⟩, hchain⟩, hys⟩
    · rintro ⟨⟨⟨⟨rfl, rfl⟩, rfl⟩, hchain⟩, hys⟩
      exact ⟨rfl, rfl, rfl, ih.2 ⟨hchain, hys⟩⟩

/-! ## Tables of two accounts -/

/-- The part of one account in the name of its table is the part of another in that of an index. -/
def Extends (account other : String) : Prop :=
  ∃ ending ∈ indexEndings, accountPart other = indexName (accountPart account) ending

instance (account other : String) : Decidable (Extends account other) :=
  inferInstanceAs (Decidable (∃ ending ∈ _, _))

/-- When the table of one account has the name of an index of another's. -/
theorem fold_tableName_eq_indexName_iff {stem account other ending : String}
    (he : ending ∈ indexEndings) :
    fold (tableName stem (some other)) = fold (indexName (tableName stem (some account)) ending)
      ↔ isChain (fold stem).toList = true
        ∧ accountPart other = indexName (accountPart account) ending := by
  rw [← String.toList_inj, toList_fold_tableName_some, toList_fold_indexName _ he,
    toList_fold_tableName_some, List.append_assoc, append_eq_cons_append_iff, ← String.toList_inj]
  refine and_congr_right fun _ => ?_
  rw [indexName, String.toList_append, String.toList_append]
  rfl

theorem clash_iff {stem account other : String}
    (hne : tableName stem (some account) ≠ tableName stem (some other)) :
    Clash (tableName stem (some account)) (tableName stem (some other))
      ↔ isChain (fold stem).toList = true ∧ (Extends account other ∨ Extends other account) := by
  have htables : fold (tableName stem (some account)) ≠ fold (tableName stem (some other)) :=
    fun heq => hne (tableName_eq_of_fold heq)
  constructor
  · rintro ⟨m, hm, n, hn, heq⟩
    rw [mem_names] at hm hn
    rcases hm with rfl | ⟨e, he, rfl⟩
    · rcases hn with rfl | ⟨e', he', rfl⟩
      · exact absurd heq htables
      · obtain ⟨hchain, hpart⟩ := (fold_tableName_eq_indexName_iff he').1 heq
        exact ⟨hchain, Or.inr ⟨e', he', hpart⟩⟩
    · rcases hn with rfl | ⟨e', he', rfl⟩
      · obtain ⟨hchain, hpart⟩ := (fold_tableName_eq_indexName_iff he).1 heq.symm
        exact ⟨hchain, Or.inl ⟨e, he, hpart⟩⟩
      · exact absurd (fold_eq_of_indexName he he' heq) htables
  · rintro ⟨hchain, ⟨e, he, hpart⟩ | ⟨e, he, hpart⟩⟩
    · have heq := (fold_tableName_eq_indexName_iff he).2 ⟨hchain, hpart⟩
      exact ⟨_, mem_names.2 (Or.inr ⟨e, he, rfl⟩), _, mem_names.2 (Or.inl rfl), heq.symm⟩
    · have heq := (fold_tableName_eq_indexName_iff he).2 ⟨hchain, hpart⟩
      exact ⟨_, mem_names.2 (Or.inl rfl), _, mem_names.2 (Or.inr ⟨e, he, rfl⟩), heq⟩

end Rapport.Sql
