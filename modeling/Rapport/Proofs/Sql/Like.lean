import Mathlib.Data.List.TakeWhile
import Rapport.Sql.Like

set_option autoImplicit false

/-! # What a pattern of texts that begin alike fits

Of a text a pattern sees its `shown` form: all up to the first character of code zero, in which the
case of `A` to `Z` does not count. `startsLike_iff` says that a text is found to begin with another
one if its shown form does, unless the other one has a character of code zero: then the pattern has
lost its last sign, and the shown forms have to be the same.

So no text is missed that does begin with the other one (`startsLike_of_prefix`), but texts are
found that do not. -/

namespace Rapport.Sql

namespace Wild

/-! ## Fitting -/

theorem anyEnd_isEmpty (cs : List Char) : anyEnd (·.isEmpty) cs = true := by
  induction cs with
  | nil => rfl
  | cons c rest ih => rw [anyEnd, ih, Bool.or_true]

theorem fits_exactly (pattern : List Char) (cs : List Char) :
    fits (pattern.map .exactly) cs = true
      ↔ pattern.map Text.lowerASCIIChar = cs.map Text.lowerASCIIChar := by
  induction pattern generalizing cs with
  | nil => cases cs <;> simp [fits]
  | cons c rest ih =>
    cases cs with
    | nil => simp [fits]
    | cons d cs => simp [fits, ih]

theorem fits_exactly_text (pattern : List Char) (cs : List Char) :
    fits (pattern.map .exactly ++ [.text]) cs = true
      ↔ pattern.map Text.lowerASCIIChar <+: cs.map Text.lowerASCIIChar := by
  induction pattern generalizing cs with
  | nil => simp [fits, anyEnd_isEmpty]
  | cons c rest ih =>
    cases cs with
    | nil => simp [fits]
    | cons d cs => simp [fits, ih, List.cons_prefix_cons]

/-! ## Reading -/

theorem escaped_cons (escape c : Char) (cs : List Char) :
    escaped escape (c :: cs)
      = (if c = escape ∨ c = '%' ∨ c = '_' then [escape, c] else [c]) ++ escaped escape cs := rfl

/-- An escaped text stands for itself, whatever comes after it. -/
theorem read_escaped (escape : Char) (cs rest : List Char) :
    read escape (escaped escape cs ++ rest) = cs.map .exactly ++ read escape rest := by
  induction cs with
  | nil => rfl
  | cons c cs ih =>
    rw [escaped_cons]
    split
    · simp [read, ih]
    · next hplain =>
      rw [not_or, not_or] at hplain
      obtain ⟨hescape, htext, hone⟩ := hplain
      rw [List.append_assoc, List.singleton_append, read.eq_def]
      simp only [if_neg hescape, if_neg htext, if_neg hone, ih, List.map_cons, List.cons_append]

/-! ## Seeing -/

/-- What a pattern takes a character for. -/
def replaced (c : Char) : Char :=
  if c.toNat = 0xFFFE ∨ c.toNat = 0xFFFF then '\uFFFD' else c

theorem seen_eq (cs : List Char) : seen cs = (cs.takeWhile (· ≠ '\x00')).map replaced := rfl

theorem replaced_eq_iff {c d : Char} (hd : d.toNat < 0xFFFD) : replaced c = d ↔ c = d := by
  unfold replaced
  split
  · next hlast =>
    constructor
    · rintro rfl
      exact absurd hd (by decide)
    · rintro rfl
      omega
  · exact Iff.rfl

/-- What is taken for another character is no sign, and stands for no sign. -/
theorem map_replaced_escaped (cs : List Char) :
    (escaped '/' cs).map replaced = escaped '/' (cs.map replaced) := by
  induction cs with
  | nil => rfl
  | cons c cs ih =>
    have hsign : (replaced c = '/' ∨ replaced c = '%' ∨ replaced c = '_')
        ↔ (c = '/' ∨ c = '%' ∨ c = '_') := by
      rw [replaced_eq_iff (by decide), replaced_eq_iff (by decide), replaced_eq_iff (by decide)]
    rw [List.map_cons, escaped_cons, escaped_cons, List.map_append, ih]
    by_cases hc : c = '/' ∨ c = '%' ∨ c = '_'
    · rw [if_pos hc, if_pos (hsign.2 hc)]
      rfl
    · rw [if_neg hc, if_neg fun h => hc (hsign.1 h)]
      rfl

theorem escaped_append (escape : Char) (cs ds : List Char) :
    escaped escape (cs ++ ds) = escaped escape cs ++ escaped escape ds := List.flatMap_append

theorem zero_mem_escaped {cs : List Char} : '\x00' ∈ escaped '/' cs ↔ '\x00' ∈ cs := by
  rw [escaped, List.mem_flatMap]
  constructor
  · rintro ⟨c, hc, hmem⟩
    split at hmem
    · rcases List.mem_cons.1 hmem with hzero | hzero
      · exact absurd hzero (by decide)
      · exact List.mem_singleton.1 hzero ▸ hc
    · exact List.mem_singleton.1 hmem ▸ hc
  · exact fun h => ⟨_, h, by decide⟩

theorem takeWhile_of_zero_not_mem {cs : List Char} (h : '\x00' ∉ cs) (ds : List Char) :
    (cs ++ ds).takeWhile (· ≠ '\x00') = cs ++ ds.takeWhile (· ≠ '\x00') := by
  refine List.takeWhile_append_of_pos fun c hc => ?_
  rw [decide_eq_true_eq]
  rintro rfl
  exact h hc

/-- A text is cut at its first character of code zero. -/
theorem exists_cut {cs : List Char} (h : '\x00' ∈ cs) :
    ∃ rest, cs = cs.takeWhile (· ≠ '\x00') ++ '\x00' :: rest
      ∧ '\x00' ∉ cs.takeWhile (· ≠ '\x00') := by
  induction cs with
  | nil => exact absurd h (by simp)
  | cons c cs ih =>
    by_cases hc : c = '\x00'
    · subst hc
      exact ⟨cs, by simp, by simp⟩
    · obtain ⟨rest, hcut, hnot⟩ := ih ((List.mem_cons.1 h).resolve_left (Ne.symm hc))
      refine ⟨rest, ?_, ?_⟩
      · rw [List.takeWhile_cons_of_pos (by simpa using hc), List.cons_append, ← hcut]
      · rw [List.takeWhile_cons_of_pos (by simpa using hc), List.mem_cons, not_or]
        exact ⟨Ne.symm hc, hnot⟩

theorem takeWhile_cut {cs : List Char} (h : '\x00' ∉ cs) (ds : List Char) :
    (cs ++ '\x00' :: ds).takeWhile (· ≠ '\x00') = cs := by
  rw [takeWhile_of_zero_not_mem h, List.takeWhile_cons_of_neg (by simp), List.append_nil]

/-! ## Patterns of beginnings -/

/-- The pattern of a text without a character of code zero: the text itself, and then any text. -/
theorem beginningWith_eq {start : String} (h : '\x00' ∉ start.toList) :
    beginningWith start = (seen start.toList).map .exactly ++ [.text] := by
  have hescaped : '\x00' ∉ escaped '/' start.toList := fun hmem => h (zero_mem_escaped.1 hmem)
  have hseen : seen (opening start) = escaped '/' (seen start.toList) ++ ['%'] := by
    have hstart := takeWhile_of_zero_not_mem h []
    rw [List.append_nil, List.takeWhile_nil, List.append_nil] at hstart
    rw [seen_eq, opening, takeWhile_of_zero_not_mem hescaped, List.map_append,
      map_replaced_escaped, seen_eq, hstart]
    rfl
  rw [beginningWith, hseen, read_escaped]
  rfl

/-- The pattern of a text with a character of code zero: what comes before it, and nothing else. -/
theorem beginningWith_eq_of_zero_mem {start : String} (h : '\x00' ∈ start.toList) :
    beginningWith start = (seen start.toList).map .exactly := by
  obtain ⟨rest, hcut, hnot⟩ := exists_cut h
  generalize start.toList.takeWhile (· ≠ '\x00') = cs at hcut hnot
  have hescaped : '\x00' ∉ escaped '/' cs := fun hmem => hnot (zero_mem_escaped.1 hmem)
  have hseen : seen (opening start) = escaped '/' (seen start.toList) := by
    rw [seen_eq, seen_eq, opening, hcut, escaped_append, takeWhile_cut hnot, escaped_cons,
      if_neg (by decide), List.append_assoc, List.append_assoc, List.singleton_append,
      takeWhile_cut hescaped, map_replaced_escaped]
  have hread := read_escaped '/' (seen start.toList) []
  rw [List.append_nil] at hread
  rw [beginningWith, hseen, hread, read, List.append_nil]

/-- A text as patterns see it. -/
def shown (text : String) : List Char := (seen text.toList).map Text.lowerASCIIChar

end Wild

open Wild

/-- A text is found to begin with another one if it does so as patterns see it. Where the other one
    has a character of code zero, both have to be the same. -/
theorem startsLike_iff (start text : String) :
    startsLike start text = true
      ↔ if '\x00' ∈ start.toList then shown start = shown text else shown start <+: shown text := by
  rw [startsLike]
  split
  · next h => rw [beginningWith_eq_of_zero_mem h, fits_exactly, shown, shown]
  · next h => rw [beginningWith_eq h, fits_exactly_text, shown, shown]

/-- A text that begins with another one is found to do so. -/
theorem startsLike_of_prefix {start text : String} (h : start.toList <+: text.toList) :
    startsLike start text = true := by
  obtain ⟨rest, hrest⟩ := h
  rw [startsLike_iff, shown, shown, seen_eq, seen_eq, ← hrest]
  split
  · next hzero =>
    obtain ⟨rest', hcut, hnot⟩ := exists_cut hzero
    generalize start.toList.takeWhile (· ≠ '\x00') = cs at hcut hnot
    rw [hcut, List.append_assoc, List.cons_append, takeWhile_cut hnot]
  · next hzero =>
    have hstart := takeWhile_of_zero_not_mem hzero []
    rw [List.append_nil, List.takeWhile_nil, List.append_nil] at hstart
    rw [hstart, takeWhile_of_zero_not_mem hzero]
    exact ((List.prefix_append _ _).map _).map _

/-- Whether a text begins with another one is found out regardless of the case of `A` to `Z`. -/
example : startsLike "work_1:" "Work_1:a" = true ∧ startsLike "work_1:" "workx1:a" = false := by
  decide +kernel

end Rapport.Sql
