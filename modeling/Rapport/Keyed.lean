set_option autoImplicit false

/-! # Keyed collections

A `Keyed κ ν` holds at most one value per key and remembers the order in which the keys arrived.
Everything that is looked up by name in this library is one: the relations of an edge, the edges
that leave a node, the rows of an edge table, the registered channels.

The view of a collection is `find?`. Each operation comes with the equation that says what it does
to that view, and `Keyed.ext_entries` says that the entries are all there is. -/

namespace Rapport

/-- At most one value per key, in the order in which the keys arrived. -/
structure Keyed (κ ν : Type) where
  /-- The keys with their values, oldest key first. -/
  entries : List (κ × ν)
  /-- No key is listed twice. -/
  distinct : (entries.map Prod.fst).Nodup
deriving DecidableEq

namespace Keyed

variable {κ ν : Type}

theorem ext_entries {m n : Keyed κ ν} (h : m.entries = n.entries) : m = n := by
  cases m; cases n; cases h; rfl

/-- The collection without entries. -/
def empty : Keyed κ ν := ⟨[], List.nodup_nil⟩

instance : EmptyCollection (Keyed κ ν) := ⟨empty⟩

instance : Inhabited (Keyed κ ν) := ⟨empty⟩

/-- The keys, oldest first. -/
def keys (m : Keyed κ ν) : List κ := m.entries.map Prod.fst

/-- The values, that of the oldest key first. -/
def values (m : Keyed κ ν) : List ν := m.entries.map Prod.snd

/-- How many keys there are. -/
def size (m : Keyed κ ν) : Nat := m.entries.length

def isEmpty (m : Keyed κ ν) : Bool := m.entries.isEmpty

/-! ## Looking up -/

section Lookup

variable [DecidableEq κ]

/-- The value that a list of entries holds for a key. -/
def findIn (k : κ) : List (κ × ν) → Option ν
  | [] => none
  | (k', v) :: rest => if k' = k then some v else findIn k rest

/-- The value of a key, if it has one. -/
def find? (m : Keyed κ ν) (k : κ) : Option ν := findIn k m.entries

def contains (m : Keyed κ ν) (k : κ) : Bool := (m.find? k).isSome

@[simp] theorem find?_empty (k : κ) : (empty : Keyed κ ν).find? k = none := rfl

theorem findIn_eq_none_iff (k : κ) (es : List (κ × ν)) :
    findIn k es = none ↔ k ∉ es.map Prod.fst := by
  induction es with
  | nil => simp [findIn]
  | cons e rest ih =>
    obtain ⟨k', v⟩ := e
    by_cases h : k' = k
    · simp [findIn, h]
    · simp [findIn, h, ih, Ne.symm h]

end Lookup

/-! ## Writing -/

section Write

variable [DecidableEq κ]

/-- Put `f` of the present value, or of `none`, at key `k`; a new key goes to the end. -/
def upsertIn (k : κ) (f : Option ν → ν) : List (κ × ν) → List (κ × ν)
  | [] => [(k, f none)]
  | (k', v) :: rest => if k' = k then (k', f (some v)) :: rest else (k', v) :: upsertIn k f rest

theorem keys_upsertIn (k : κ) (f : Option ν → ν) (es : List (κ × ν)) :
    (upsertIn k f es).map Prod.fst
      = if k ∈ es.map Prod.fst then es.map Prod.fst else es.map Prod.fst ++ [k] := by
  induction es with
  | nil => simp [upsertIn]
  | cons e rest ih =>
    obtain ⟨k', v⟩ := e
    by_cases h : k' = k
    · simp [upsertIn, h]
    · by_cases hm : k ∈ rest.map Prod.fst
      · simp [upsertIn, h, ih, hm]
      · simp [upsertIn, h, ih, hm, Ne.symm h]

theorem nodup_upsertIn (k : κ) (f : Option ν → ν) {es : List (κ × ν)}
    (h : (es.map Prod.fst).Nodup) : ((upsertIn k f es).map Prod.fst).Nodup := by
  rw [keys_upsertIn]
  by_cases hm : k ∈ es.map Prod.fst
  · simpa [hm] using h
  · simp only [hm, if_false]
    refine List.nodup_append.2 ⟨h, by simp, ?_⟩
    intro a ha b hb hab
    rw [List.mem_singleton] at hb
    exact hm (hb ▸ hab ▸ ha)

/-- Put `f` of the present value, or of `none`, at key `k`. A key that is already there keeps its
    place; a new one goes to the end. -/
def upsert (m : Keyed κ ν) (k : κ) (f : Option ν → ν) : Keyed κ ν :=
  ⟨upsertIn k f m.entries, nodup_upsertIn k f m.distinct⟩

/-- Put value `v` at key `k`, in place of any former value. -/
def insert (m : Keyed κ ν) (k : κ) (v : ν) : Keyed κ ν := m.upsert k fun _ => v

theorem findIn_upsertIn (k k' : κ) (f : Option ν → ν) (es : List (κ × ν)) :
    findIn k' (upsertIn k f es) = if k' = k then some (f (findIn k es)) else findIn k' es := by
  induction es with
  | nil => by_cases h : k = k' <;> simp [upsertIn, findIn, h, eq_comm]
  | cons e rest ih =>
    obtain ⟨k₀, v⟩ := e
    by_cases h₀ : k₀ = k
    · subst h₀
      by_cases h : k₀ = k'
      · subst h; simp [upsertIn, findIn]
      · simp [upsertIn, findIn, h, Ne.symm h]
    · by_cases h : k₀ = k'
      · subst h; simp [upsertIn, findIn, h₀]
      · simp [upsertIn, findIn, h₀, h, ih]

@[simp] theorem find?_upsert (m : Keyed κ ν) (k k' : κ) (f : Option ν → ν) :
    (m.upsert k f).find? k' = if k' = k then some (f (m.find? k)) else m.find? k' :=
  findIn_upsertIn k k' f m.entries

@[simp] theorem find?_insert (m : Keyed κ ν) (k k' : κ) (v : ν) :
    (m.insert k v).find? k' = if k' = k then some v else m.find? k' :=
  findIn_upsertIn k k' _ m.entries

end Write

/-! ## Changing and dropping entries -/

/-- Replace every value by `f` of its entry, and drop the entry where `f` gives nothing. -/
def filterMapIn (f : κ → ν → Option ν) (es : List (κ × ν)) : List (κ × ν) :=
  es.filterMap fun e => (f e.1 e.2).map (e.1, ·)

theorem keys_filterMapIn_sublist (f : κ → ν → Option ν) (es : List (κ × ν)) :
    ((filterMapIn f es).map Prod.fst).Sublist (es.map Prod.fst) := by
  induction es with
  | nil => simp [filterMapIn]
  | cons e rest ih =>
    obtain ⟨k, v⟩ := e
    cases h : f k v with
    | none => simpa [filterMapIn, h] using ih.trans (List.sublist_cons_self k _)
    | some w => simpa [filterMapIn, h] using ih.cons_cons k

/-- Replace every value by `f` of its entry, and drop the entry where `f` gives nothing. -/
def filterMap (m : Keyed κ ν) (f : κ → ν → Option ν) : Keyed κ ν :=
  ⟨filterMapIn f m.entries, m.distinct.sublist (keys_filterMapIn_sublist f m.entries)⟩

/-- Keep the entries that satisfy `p`. -/
def filter (m : Keyed κ ν) (p : κ → ν → Bool) : Keyed κ ν :=
  m.filterMap fun k v => if p k v then some v else none

/-- Replace every value by `f` of its entry. -/
def map (m : Keyed κ ν) (f : κ → ν → ν) : Keyed κ ν :=
  m.filterMap fun k v => some (f k v)

variable [DecidableEq κ] in
theorem findIn_filterMapIn (f : κ → ν → Option ν) (k : κ) {es : List (κ × ν)}
    (h : (es.map Prod.fst).Nodup) : findIn k (filterMapIn f es) = (findIn k es).bind (f k) := by
  induction es with
  | nil => simp [filterMapIn, findIn]
  | cons e rest ih =>
    obtain ⟨k₀, v⟩ := e
    obtain ⟨hk, hr⟩ := List.nodup_cons.1 h
    have ih := ih hr
    by_cases hk₀ : k₀ = k
    · subst hk₀
      cases hf : f k₀ v with
      | none =>
        have hnone : findIn k₀ rest = none := (findIn_eq_none_iff k₀ rest).2 hk
        rw [hnone] at ih
        simpa [filterMapIn, findIn, hf] using ih
      | some w => simp [filterMapIn, findIn, hf]
    · cases hf : f k₀ v with
      | none => simpa [filterMapIn, findIn, hf, hk₀] using ih
      | some w => simpa [filterMapIn, findIn, hf, hk₀] using ih

variable [DecidableEq κ] in
@[simp] theorem find?_filterMap (m : Keyed κ ν) (f : κ → ν → Option ν) (k : κ) :
    (m.filterMap f).find? k = (m.find? k).bind (f k) :=
  findIn_filterMapIn f k m.distinct

end Keyed

end Rapport
