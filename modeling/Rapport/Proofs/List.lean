import Mathlib.Algebra.Order.Ring.Int
import Mathlib.Algebra.Ring.Nat
import Mathlib.Data.List.Nodup

set_option autoImplicit false

/-! # Facts on lists

What is needed of lists in several places and is not about contacts, messages or tables: removing
repetitions, picking out what is listed once, counting, and going through a list with a function that
may fail. -/

namespace Rapport

variable {α β κ : Type}

/-! ## Each thing once -/

theorem nodup_eraseDups [DecidableEq α] (l : List α) : l.eraseDups.Nodup := by
  -- What comes after the first member is filtered before it is looked at, so the induction is on
  -- the length of the list.
  generalize hn : l.length = n
  induction n using Nat.strong_induction_on generalizing l with
  | _ n ih =>
    cases l with
    | nil => simp
    | cons a rest =>
      have hlt : (rest.filter fun b => !b == a).length < n := by
        have hle := List.length_filter_le (fun b => !b == a) rest
        rw [List.length_cons] at hn
        omega
      rw [List.eraseDups_cons, List.nodup_cons]
      refine ⟨?_, ih _ hlt _ rfl⟩
      simp [List.mem_eraseDups]

/-- What is listed for things of different keys is listed once, if it shows the key. -/
theorem nodup_flatMap {key : α → κ} {f : α → List β} {l : List α} (hl : (l.map key).Nodup)
    (hf : ∀ a ∈ l, (f a).Nodup) (shown : β → κ) (hshown : ∀ a ∈ l, ∀ b ∈ f a, shown b = key a) :
    (l.flatMap f).Nodup := by
  induction l with
  | nil => exact List.nodup_nil
  | cons a rest ih =>
    obtain ⟨ha, hrest⟩ := List.nodup_cons.1 hl
    rw [List.flatMap_cons]
    refine List.nodup_append.2 ⟨hf a List.mem_cons_self,
      ih hrest (fun x hx => hf x (List.mem_cons_of_mem _ hx))
        (fun x hx => hshown x (List.mem_cons_of_mem _ hx)), ?_⟩
    rintro b hb _ hb' rfl
    obtain ⟨a', ha', hmem⟩ := List.mem_flatMap.1 hb'
    refine ha (List.mem_map.2 ⟨a', ha', ?_⟩)
    rw [← hshown a List.mem_cons_self b hb, hshown a' (List.mem_cons_of_mem _ ha') b hmem]

theorem filter_eq_singleton [DecidableEq α] {l : List α} (hl : l.Nodup) {p : α → Bool} {a : α}
    (ha : a ∈ l) (hp : ∀ x, p x = true ↔ x = a) : l.filter p = [a] := by
  have hcongr : l.filter p = l.filter (· == a) :=
    List.filter_congr fun x _ => by rw [Bool.eq_iff_iff, hp, beq_iff_eq]
  rw [hcongr, List.filter_beq, List.count_eq_one_of_mem hl ha]
  rfl

/-- Among things of which none is listed twice, one at most is the one looked for. -/
theorem flatMap_ite_eq [DecidableEq α] {l : List α} (hl : l.Nodup) (x : α) (c : List β) :
    l.flatMap (fun a => if x = a then c else []) = if x ∈ l then c else [] := by
  induction l with
  | nil => rfl
  | cons a rest ih =>
    obtain ⟨ha, hrest⟩ := List.nodup_cons.1 hl
    rw [List.flatMap_cons, ih hrest]
    by_cases hx : x = a
    · subst hx
      simp [ha]
    · simp [hx]

/-! ## One after the other -/

theorem flatMap_ite (p : α → Bool) (f : α → β) (l : List α) :
    (l.flatMap fun x => if p x then [f x] else []) = (l.filter p).map f := by
  induction l with
  | nil => rfl
  | cons x rest ih =>
    rw [List.flatMap_cons, ih]
    by_cases hx : p x = true
    · simp [hx]
    · simp [hx]

/-- Where one thing takes the place of another, what is listed for the one makes room for what is
    listed for the other. -/
theorem perm_flatMap_set (f : α → List β) {l : List α} {i : Nat} {a : α} (h : l[i]? = some a)
    (a' : α) : (f a ++ (l.set i a').flatMap f).Perm (f a' ++ l.flatMap f) := by
  induction l generalizing i with
  | nil => exact nomatch h
  | cons x rest ih =>
    cases i with
    | zero =>
      obtain rfl := Option.some.inj h
      exact List.perm_append_comm_assoc _ _ _
    | succ i =>
      have hrest := ih (by simpa using h)
      have hswap := (hrest.append_left (f x)).trans (List.perm_append_comm_assoc _ _ _)
      exact (List.perm_append_comm_assoc _ _ _).trans hswap

theorem filterMap_id_singleton (a? : Option α) : [a?].filterMap id = a?.toList := by
  cases a? with
  | none => rfl
  | some a => rfl

/-! ## Counting -/

/-- Two properties that exclude each other are counted one by one. -/
theorem countP_or {p q : α → Bool} {l : List α} (h : ∀ x ∈ l, ¬(p x = true ∧ q x = true)) :
    l.countP (fun x => p x || q x) = l.countP p + l.countP q := by
  induction l with
  | nil => rfl
  | cons x rest ih =>
    rw [List.countP_cons, List.countP_cons, List.countP_cons,
      ih fun y hy => h y (List.mem_cons_of_mem _ hy)]
    have hx := h x List.mem_cons_self
    cases hp : p x <;> cases hq : q x <;> simp [hp, hq] at hx ⊢ <;> omega

theorem countP_flatMap_cons (p : β → Bool) (g : α → β) (f : α → List β) (l : List α) :
    (l.flatMap fun x => g x :: f x).countP p = l.countP (p ∘ g) + (l.flatMap f).countP p := by
  induction l with
  | nil => rfl
  | cons x rest ih =>
    rw [List.flatMap_cons, List.flatMap_cons, List.countP_append, ih, List.countP_append,
      List.countP_cons, List.countP_cons, Function.comp_apply]
    omega

theorem sum_map_ite (p : α → Bool) (l : List α) :
    (l.map fun a => if p a then 1 else 0).sum = l.countP p := by
  induction l with
  | nil => rfl
  | cons a rest ih => rw [List.map_cons, List.sum_cons, ih, List.countP_cons, Nat.add_comm]

theorem le_foldl_max (l : List Int) (n : Int) : n ≤ l.foldl max n := by
  induction l generalizing n with
  | nil => exact le_refl n
  | cons t rest ih => exact (le_max_left n t).trans (ih _)

/-! ## Functions that may fail -/

variable {ε : Type}

theorem mapM_eq_ok {f : α → Except ε β} {g : α → β} {l : List α} (h : ∀ a ∈ l, f a = .ok (g a)) :
    l.mapM f = .ok (l.map g) := by
  induction l with
  | nil => rfl
  | cons a rest ih =>
    rw [List.mapM_cons, h a List.mem_cons_self, ih fun b hb => h b (List.mem_cons_of_mem _ hb)]
    rfl

theorem exists_eq_ok_of_mapM {f : α → Except ε β} {l : List α} {ys : List β}
    (h : l.mapM f = .ok ys) : ∀ a ∈ l, ∃ b, f a = .ok b := by
  induction l generalizing ys with
  | nil => exact fun a ha => absurd ha List.not_mem_nil
  | cons a rest ih =>
    rw [List.mapM_cons] at h
    cases ha : f a with
    | error e =>
      rw [ha] at h
      cases h
    | ok b =>
      cases hrest : rest.mapM f with
      | error e =>
        rw [ha, hrest] at h
        cases h
      | ok bs =>
        intro a' ha'
        rcases List.mem_cons.1 ha' with rfl | ha'
        · exact ⟨b, ha⟩
        · exact ih hrest a' ha'

end Rapport
