import Rapport.Proofs.Keyed

set_option autoImplicit false

/-! # Parts of keyed collections

`m.part p` has the entries of `m` whose keys satisfy `p`, in their order. What is written under a
key of the part is written to the part (`part_upsert`), what is written under any other key does not
show in it (`part_upsert_of_not`), and entries are changed and dropped in the part as they are in
the whole (`part_filterMap`). -/

namespace Rapport.Keyed

variable {κ ν : Type} {p : κ → Bool}

/-- The entries whose keys satisfy `p`. -/
def part (m : Keyed κ ν) (p : κ → Bool) : Keyed κ ν := m.filter fun k _ => p k

theorem entries_part (m : Keyed κ ν) (p : κ → Bool) :
    (m.part p).entries = m.entries.filter fun e => p e.1 := m.entries_filter fun k _ => p k

@[simp] theorem find?_part [DecidableEq κ] (m : Keyed κ ν) (p : κ → Bool) (k : κ) :
    (m.part p).find? k = if p k then m.find? k else none := by
  rw [part, find?_filter]
  cases m.find? k with
  | none => simp
  | some v => simp [Option.filter]

/-! ## Writing -/

section Write

variable [DecidableEq κ]

theorem filter_upsertIn {k : κ} (h : p k = true) (f : Option ν → ν) (es : List (κ × ν)) :
    (upsertIn k f es).filter (fun e => p e.1) = upsertIn k f (es.filter fun e => p e.1) := by
  induction es with
  | nil => simp [upsertIn, h]
  | cons e rest ih =>
    obtain ⟨k', v⟩ := e
    by_cases hk : k' = k
    · subst hk
      simp [upsertIn, h]
    · by_cases hp : p k' = true
      · simp [upsertIn, hk, hp, ih]
      · simp [upsertIn, hk, hp, ih]

theorem filter_upsertIn_of_not {k : κ} (h : p k = false) (f : Option ν → ν) (es : List (κ × ν)) :
    (upsertIn k f es).filter (fun e => p e.1) = es.filter fun e => p e.1 := by
  induction es with
  | nil => simp [upsertIn, h]
  | cons e rest ih =>
    obtain ⟨k', v⟩ := e
    by_cases hk : k' = k
    · subst hk
      simp [upsertIn, h]
    · simp only [upsertIn, if_neg hk, List.filter_cons, ih]

theorem part_upsert {k : κ} (h : p k = true) (m : Keyed κ ν) (f : Option ν → ν) :
    (m.upsert k f).part p = (m.part p).upsert k f := by
  refine ext_entries ?_
  show _ = upsertIn k f (m.part p).entries
  rw [entries_part, entries_part]
  exact filter_upsertIn h f m.entries

theorem part_upsert_of_not {k : κ} (h : p k = false) (m : Keyed κ ν) (f : Option ν → ν) :
    (m.upsert k f).part p = m.part p := by
  refine ext_entries ?_
  rw [entries_part, entries_part]
  exact filter_upsertIn_of_not h f m.entries

end Write

/-! ## Changing and dropping entries -/

theorem filter_filterMapIn (p : κ → Bool) (f : κ → ν → Option ν) (es : List (κ × ν)) :
    (filterMapIn f es).filter (fun e => p e.1) = filterMapIn f (es.filter fun e => p e.1) := by
  induction es with
  | nil => rfl
  | cons e rest ih =>
    obtain ⟨k, v⟩ := e
    simp only [filterMapIn] at ih
    cases hf : f k v with
    | none => by_cases hp : p k = true <;> simp [filterMapIn, hf, hp, ih]
    | some w => by_cases hp : p k = true <;> simp [filterMapIn, hf, hp, ih]

theorem part_filterMap (m : Keyed κ ν) (p : κ → Bool) (f : κ → ν → Option ν) :
    (m.filterMap f).part p = (m.part p).filterMap f := by
  refine ext_entries ?_
  show _ = filterMapIn f (m.part p).entries
  rw [entries_part, entries_part]
  exact filter_filterMapIn p f m.entries

/-- Only what is done to the entries of a part shows in it. -/
theorem part_filterMap_congr {f g : κ → ν → Option ν} (h : ∀ k v, p k = true → f k v = g k v)
    (m : Keyed κ ν) : (m.part p).filterMap f = (m.part p).filterMap g := by
  refine ext_entries ?_
  show filterMapIn f (m.part p).entries = filterMapIn g (m.part p).entries
  rw [entries_part]
  refine List.filterMap_congr fun e he => ?_
  rw [h e.1 e.2 (List.mem_filter.1 he).2]

theorem filterMap_some (m : Keyed κ ν) : m.filterMap (fun _ v => some v) = m := by
  refine ext_entries ?_
  show filterMapIn (fun _ v => some v) m.entries = m.entries
  simp [filterMapIn]

theorem part_filterMap_of_some {f : κ → ν → Option ν} (h : ∀ k v, p k = true → f k v = some v)
    (m : Keyed κ ν) : (m.filterMap f).part p = m.part p := by
  rw [part_filterMap, part_filterMap_congr h, filterMap_some]

end Rapport.Keyed
