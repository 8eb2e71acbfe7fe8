import Mathlib.Data.List.Induction
import Mathlib.Data.List.Nodup
import Rapport.Keyed

set_option autoImplicit false

/-! # Keyed collections and their view

The operations of a `Keyed` collection that are built from others, seen through `find?`: what is
left of an entry by `filter` and `map`, and what a key holds after a whole list of keys has been
written. `mem_entries` says that the entries are exactly what the view shows, so two collections
with one view have the same entries up to order; `keys_foldl_upsert` says in which order the keys
stand. -/

namespace Rapport.Keyed

variable {κ ν : Type} [DecidableEq κ]

/-! ## Entries -/

theorem mem_of_findIn {k : κ} {v : ν} {es : List (κ × ν)} (h : findIn k es = some v) :
    (k, v) ∈ es := by
  induction es with
  | nil => simp [findIn] at h
  | cons e rest ih =>
    obtain ⟨k', v'⟩ := e
    by_cases hk : k' = k
    · simp only [findIn, hk, if_true, Option.some.injEq] at h
      subst hk h
      exact List.mem_cons_self
    · simp only [findIn, hk, if_false] at h
      exact List.mem_cons_of_mem _ (ih h)

theorem findIn_of_mem {k : κ} {v : ν} {es : List (κ × ν)} (hes : (es.map Prod.fst).Nodup)
    (h : (k, v) ∈ es) : findIn k es = some v := by
  induction es with
  | nil => exact absurd h (by simp)
  | cons e rest ih =>
    obtain ⟨k', v'⟩ := e
    obtain ⟨hk, hrest⟩ := List.nodup_cons.1 hes
    rcases List.mem_cons.1 h with heq | hmem
    · simp only [Prod.mk.injEq] at heq
      simp [findIn, heq]
    · have hne : k' ≠ k := by
        rintro rfl
        exact hk (List.mem_map.2 ⟨_, hmem, rfl⟩)
      simp [findIn, hne, ih hrest hmem]

/-- The entries are what the view shows. -/
theorem mem_entries {m : Keyed κ ν} {k : κ} {v : ν} : (k, v) ∈ m.entries ↔ m.find? k = some v :=
  ⟨findIn_of_mem m.distinct, mem_of_findIn⟩

omit [DecidableEq κ] in
theorem nodup_entries (m : Keyed κ ν) : m.entries.Nodup := m.distinct.of_map

/-- Two collections with one view have the same entries, but for the order. -/
theorem perm_entries {m n : Keyed κ ν} (h : ∀ k, m.find? k = n.find? k) :
    m.entries.Perm n.entries := by
  refine (List.perm_ext_iff_of_nodup m.nodup_entries n.nodup_entries).2 ?_
  rintro ⟨k, v⟩
  rw [mem_entries, mem_entries, h k]

theorem find?_eq_none_of_isEmpty {m : Keyed κ ν} (h : m.isEmpty = true) (k : κ) :
    m.find? k = none := by
  have hnil : m.entries = [] := List.isEmpty_iff.1 h
  rw [find?, hnil, findIn]

/-! ## Filtering and changing -/

omit [DecidableEq κ] in
theorem entries_filter (m : Keyed κ ν) (p : κ → ν → Bool) :
    (m.filter p).entries = m.entries.filter fun e => p e.1 e.2 := by
  show filterMapIn (fun k v => if p k v then some v else none) m.entries = _
  rw [filterMapIn, ← List.filterMap_eq_filter]
  refine List.filterMap_congr fun e _ => ?_
  by_cases hp : p e.1 e.2 = true
  · simp [hp, Option.guard]
  · simp [hp, Option.guard]

@[simp] theorem find?_filter (m : Keyed κ ν) (p : κ → ν → Bool) (k : κ) :
    (m.filter p).find? k = (m.find? k).filter (p k) := by
  rw [filter, find?_filterMap]
  cases m.find? k with
  | none => rfl
  | some v => simp [Option.filter]

@[simp] theorem find?_map (m : Keyed κ ν) (f : κ → ν → ν) (k : κ) :
    (m.map f).find? k = (m.find? k).map (f k) := by
  rw [map, find?_filterMap]
  cases m.find? k <;> rfl

omit [DecidableEq κ] in
theorem filterMap_congr {m : Keyed κ ν} {f g : κ → ν → Option ν}
    (h : ∀ e ∈ m.entries, f e.1 e.2 = g e.1 e.2) : m.filterMap f = m.filterMap g :=
  ext_entries (List.filterMap_congr fun e he => by rw [h e he])

omit [DecidableEq κ] in
theorem filter_congr {m : Keyed κ ν} {p q : κ → ν → Bool}
    (h : ∀ e ∈ m.entries, p e.1 e.2 = q e.1 e.2) : m.filter p = m.filter q :=
  ext_entries (by rw [entries_filter, entries_filter, List.filter_congr h])

omit [DecidableEq κ] in
theorem filter_filter (m : Keyed κ ν) (p q : κ → ν → Bool) :
    (m.filter p).filter q = m.filter fun k v => p k v && q k v := by
  refine ext_entries ?_
  rw [entries_filter, entries_filter, entries_filter, List.filter_filter]
  exact List.filter_congr fun e _ => Bool.and_comm _ _

omit [DecidableEq κ] in
theorem filterMap_filterMap (m : Keyed κ ν) (f g : κ → ν → Option ν) :
    (m.filterMap f).filterMap g = m.filterMap fun k v => (f k v).bind (g k) := by
  refine ext_entries ?_
  show filterMapIn g (filterMapIn f m.entries)
    = filterMapIn (fun k v => (f k v).bind (g k)) m.entries
  rw [filterMapIn, filterMapIn, filterMapIn, List.filterMap_filterMap]
  refine List.filterMap_congr fun e _ => ?_
  cases f e.1 e.2 <;> rfl

/-! ## Writing one key -/

theorem keys_upsert (m : Keyed κ ν) (k : κ) (f : Option ν → ν) :
    (m.upsert k f).keys = if k ∈ m.keys then m.keys else m.keys ++ [k] :=
  keys_upsertIn k f m.entries

/-- What a writing puts under a key is all that matters. -/
theorem upsert_congr {m : Keyed κ ν} {k : κ} {f g : Option ν → ν}
    (h : f (m.find? k) = g (m.find? k)) : m.upsert k f = m.upsert k g := by
  have hentries : ∀ es : List (κ × ν), f (findIn k es) = g (findIn k es) →
      upsertIn k f es = upsertIn k g es := by
    intro es hes
    induction es with
    | nil => rw [upsertIn, upsertIn]; exact congrArg (fun v => [(k, v)]) hes
    | cons e rest ih =>
      obtain ⟨k', v⟩ := e
      rw [upsertIn, upsertIn]
      rw [findIn] at hes
      by_cases hk : k' = k
      · rw [if_pos hk] at hes ⊢
        rw [if_pos hk, hes]
      · rw [if_neg hk] at hes ⊢
        rw [if_neg hk, ih hes]
  exact ext_entries (hentries m.entries h)

/-! ## Writing many keys -/

/-- When each of a list of things has been written under its key, a key has been changed by those
    things that have it, one after the other. -/
theorem find?_foldl_upsert {α : Type} (key : α → κ) (f : α → Option ν → ν) (xs : List α)
    (m : Keyed κ ν) (k : κ) :
    (xs.foldl (fun m x => m.upsert (key x) (f x)) m).find? k
      = (xs.filter (key · = k)).foldl (fun o x => some (f x o)) (m.find? k) := by
  induction xs generalizing m with
  | nil => rfl
  | cons x rest ih =>
    rw [List.foldl_cons, ih, find?_upsert]
    by_cases hk : key x = k
    · subst hk
      simp
    · simp [hk, Ne.symm hk]

/-- A key that some of a list of things have been put under holds the last of them. -/
theorem find?_foldl_insert {α : Type} (key : α → κ) (value : α → ν) (xs : List α) (k : κ) :
    (xs.foldl (fun m x => m.insert (key x) (value x)) empty).find? k
      = (xs.filter (key · = k)).getLast?.map value := by
  refine (find?_foldl_upsert key (fun x _ => value x) xs empty k).trans ?_
  induction xs.filter (key · = k) using List.reverseRecOn with
  | nil => rfl
  | append_singleton ys y _ => simp

/-- What is written under a list of keys stands in the order in which the keys first come up. -/
theorem keys_foldl_upsert {α : Type} (key : α → κ) (f : α → Option ν → ν) (xs : List α) :
    (xs.foldl (fun m x => m.upsert (key x) (f x)) empty).keys = (xs.map key).eraseDups := by
  induction xs using List.reverseRecOn with
  | nil => rfl
  | append_singleton xs x ih =>
    rw [List.foldl_append, List.foldl_cons, List.foldl_nil, keys_upsert, ih, List.map_append,
      List.eraseDups_append, List.map_singleton]
    generalize xs.map key = ks
    by_cases hx : key x ∈ ks
    · simp [hx, List.removeAll]
    · simp [hx, List.removeAll, List.eraseDups_cons]

/-- A list that names no key twice changes each of its keys once. -/
theorem find?_foldl_upsert_of_nodup (f : Option ν → ν) {ks : List κ} (hks : ks.Nodup)
    (m : Keyed κ ν) (k : κ) :
    (ks.foldl (fun m k => m.upsert k f) m).find? k
      = if k ∈ ks then some (f (m.find? k)) else m.find? k := by
  refine (find?_foldl_upsert id (fun _ => f) ks m k).trans ?_
  by_cases hk : k ∈ ks
  · have hfilter : ks.filter (id · = k) = [k] := by
      simp [List.filter_eq, List.count_eq_one_of_mem hks hk]
    rw [hfilter, if_pos hk, List.foldl_cons, List.foldl_nil]
  · have hfilter : ks.filter (id · = k) = [] := by
      simp [List.filter_eq, List.count_eq_zero_of_not_mem hk]
    rw [hfilter, if_neg hk, List.foldl_nil]

/-- Creating what is missing under each of some keys leaves alone what is there. -/
theorem find?_foldl_ensure (d : ν) (ks : List κ) (m : Keyed κ ν) (k : κ) :
    (ks.foldl (fun m k => m.upsert k fun v => v.getD d) m).find? k
      = if k ∈ ks then some ((m.find? k).getD d) else m.find? k := by
  induction ks generalizing m with
  | nil => simp
  | cons k₀ rest ih =>
    rw [List.foldl_cons, ih, find?_upsert]
    by_cases hk : k = k₀
    · subst hk
      simp
    · simp [hk]

end Rapport.Keyed
