import Mathlib.Data.List.Basic
import Rapport.Sql.Identifier
import Rapport.Sql.Schema

set_option autoImplicit false

/-! # Names of tables

A statement may mean another name than the one it writes, and a database does not tell small letters
from capital ones. Neither makes the edge tables of one backend clash: two accounts whose tables are
one to the database have one table name. `tableFor_eq_of_fold_denoted` says so; it holds since the
part of a name that stands for the account has no capital letters and no line feed. -/

namespace Rapport.Sql

open Identifier

/-! ## The part of an account -/

/-- A character that the part of an account may have. -/
def IsPlainChar (c : Char) : Prop :=
  ('a' ≤ c ∧ c ≤ 'z') ∨ ('0' ≤ c ∧ c ≤ '9') ∨ c = '_'

theorem isPlainChar_of_mem_accountPart {account : String} {c : Char}
    (hc : c ∈ (accountPart account).toList) : IsPlainChar c := by
  unfold accountPart at hc
  rw [String.toList_ofList] at hc
  obtain ⟨d, _, rfl⟩ := List.mem_map.1 hc
  dsimp only
  split
  · next hplain => simpa [IsPlainChar, or_assoc] using hplain
  · exact Or.inr (Or.inr rfl)

theorem lowerASCIIChar_of_isPlainChar {c : Char} (hc : IsPlainChar c) :
    Text.lowerASCIIChar c = c := by
  refine if_neg ?_
  rintro ⟨hge, hle⟩
  rcases hc with ⟨hlow, _⟩ | ⟨_, hhigh⟩ | rfl
  · exact absurd (Char.le_trans hlow hle) (by decide)
  · exact absurd (Char.le_trans hge hhigh) (by decide)
  · exact absurd hle (by decide)

theorem ne_lineFeed_of_isPlainChar {c : Char} (hc : IsPlainChar c) : c ≠ '\n' := by
  rintro rfl
  exact absurd hc (by simp [IsPlainChar])

/-! ## Names as the database knows them -/

theorem toList_fold (name : String) :
    (fold name).toList = name.toList.map Text.lowerASCIIChar := by
  rw [fold, Text.lowerASCII, String.toList_ofList]

theorem toList_tableName_some (stem account : String) :
    (tableName stem (some account)).toList
      = stem.toList ++ '_' :: (accountPart account).toList := by
  simp [tableName]

/-- Capital letters of the stem are all that folding changes in the name of an account's table. -/
theorem toList_fold_tableName_some (stem account : String) :
    (fold (tableName stem (some account))).toList
      = (fold stem).toList ++ '_' :: (accountPart account).toList := by
  have hpart : (accountPart account).toList.map Text.lowerASCIIChar
      = (accountPart account).toList := by
    refine (List.map_congr_left fun c hc => ?_).trans (List.map_id _)
    exact lowerASCIIChar_of_isPlainChar (isPlainChar_of_mem_accountPart hc)
  rw [toList_fold, toList_tableName_some, List.map_append, List.map_cons, hpart, toList_fold]
  rfl

theorem tableName_eq_of_fold {stem a b : String}
    (h : fold (tableName stem (some a)) = fold (tableName stem (some b))) :
    tableName stem (some a) = tableName stem (some b) := by
  have hlists := congrArg String.toList h
  rw [toList_fold_tableName_some, toList_fold_tableName_some] at hlists
  have hparts : (accountPart a).toList = (accountPart b).toList :=
    List.cons_injective (List.append_cancel_left hlists)
  rw [tableName, tableName, String.toList_injective hparts]

/-- Statements mean what they write when they write the name of an account's table. -/
theorem denoted_tableName_some (stem account : String) :
    denoted (tableName stem (some account)) = tableName stem (some account) := by
  have hlast : (tableName stem (some account)).toList.getLast? ≠ some '\n' := by
    rw [toList_tableName_some, List.getLast?_append_of_ne_nil _ (List.cons_ne_nil _ _)]
    intro hlast
    have hmem := List.mem_of_getLast? hlast
    rcases List.mem_cons.1 hmem with heq | hmem
    · exact absurd heq (by decide)
    · exact ne_lineFeed_of_isPlainChar (isPlainChar_of_mem_accountPart hmem) rfl
  rw [denoted, dropLineFeed, if_neg hlast, String.ofList_toList, ite_self]

theorem not_mem_of_head {name : String} {first : Char} {letters : List Char} {words : List String}
    (hfirst : name.toList.head? = some first) (hnot : first ∉ letters)
    (hwords : ∀ word ∈ words, word.toList.head?.any letters.contains = true) : name ∉ words := by
  intro hmem
  have hhead := hwords name hmem
  rw [hfirst, Option.any_some, List.contains_iff_mem] at hhead
  exact hnot hhead

/-- The tables that are always there have names that begin with one of four letters. -/
theorem isBuiltIn_eq_false {name : String} {first : Char}
    (hfirst : (fold name).toList.head? = some first) (hnot : first ∉ ['f', 'j', 'p', 's']) :
    isBuiltIn name = false := by
  have hsetting : ∀ setting, fold name ≠ "pragma_" ++ setting := by
    intro setting heq
    rw [heq, String.toList_append] at hfirst
    have hp : 'p' = first := Option.some.inj hfirst
    exact hnot (hp ▸ by decide)
  rw [isBuiltIn, Bool.or_eq_false_iff, ← Bool.not_eq_true, List.contains_iff_mem]
  exact ⟨not_mem_of_head hfirst hnot (by decide), by simp [hsetting]⟩

/-! ## Standings -/

/-- Only a name that is one everywhere lets reinforcements be done. -/
theorem Identifier.Standing.allows_reinforce_iff {s : Standing} :
    s.allows .reinforce = true ↔ s = .free := by
  cases s with
  | free => exact iff_of_true rfl rfl
  | refused | bare | unbracketed => exact iff_of_false (by simp [Standing.allows]) (by simp)

/-! ## Tables of accounts -/

/-- Two accounts whose tables are one to the database have one table. -/
theorem tableFor_eq_of_fold_denoted {partition : Partition} {stem a b : String}
    (h : fold (denoted (tableFor partition stem a)) = fold (denoted (tableFor partition stem b))) :
    tableFor partition stem a = tableFor partition stem b := by
  cases partition with
  | account =>
    simp only [tableFor, denoted_tableName_some] at h ⊢
    exact tableName_eq_of_fold h
  | combined => rfl

/-- A table that is found under the name of another account's table is that table. -/
theorem tableFor_eq_of_fold {partition : Partition} {stem a b : String}
    (h : fold (tableFor partition stem a) = fold (denoted (tableFor partition stem b))) :
    tableFor partition stem a = tableFor partition stem b := by
  cases partition with
  | account =>
    simp only [tableFor, denoted_tableName_some] at h ⊢
    exact tableName_eq_of_fold h
  | combined => rfl

end Rapport.Sql
