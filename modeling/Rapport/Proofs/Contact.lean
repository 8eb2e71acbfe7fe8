import Mathlib.Data.Set.Function
import Rapport.Contact

set_option autoImplicit false

/-! # What a key tells of its contact

A contact is stored under its key, and its address is read back off the key. The separator between
the source and the address is not escaped and both may contain it, so what is read back need not be
the address. `tellsAddress_iff` says that it is the address of just the `Legible` contacts, and that
no two of these share a key. -/

namespace Rapport.Contact

/-! ## Keys -/

theorem toList_key_of_source (address source : String) :
    (⟨address, some source⟩ : Contact).key.toList
      = source.toList ++ separator :: address.toList := by
  show (sourceTag source ++ address).toList = _
  rw [sourceTag, String.toList_append, String.toList_append, String.toList_singleton,
    List.append_assoc, List.singleton_append]

/-- A key with a separator is that of a contact of some source. -/
theorem exists_key_eq {k : String} (h : separator ∈ k.toList) :
    ∃ address source, (⟨address, some source⟩ : Contact).key = k := by
  obtain ⟨source, address, hk⟩ := List.append_of_mem h
  refine ⟨String.ofList address, String.ofList source, String.toList_inj.1 ?_⟩
  rw [toList_key_of_source, hk, String.toList_ofList, String.toList_ofList]

theorem key_ne_address (address source : String) :
    (⟨address, some source⟩ : Contact).key ≠ address := by
  intro h
  have hlength := congrArg (List.length ∘ String.toList) h
  simp only [Function.comp_apply, toList_key_of_source, List.length_append,
    List.length_cons] at hlength
  omega

theorem key_inj {a b : String} {source : Option String} :
    (Contact.mk a source).key = (Contact.mk b source).key ↔ a = b := by
  cases source with
  | none => exact Iff.rfl
  | some name => exact String.append_right_inj _

/-- One address has another key for every source. -/
theorem source_inj {address : String} {source source' : Option String}
    (h : (Contact.mk address source).key = (Contact.mk address source').key) :
    source = source' := by
  cases source with
  | none =>
    cases source' with
    | none => rfl
    | some name' => exact absurd h.symm (key_ne_address address name')
  | some name =>
    cases source' with
    | none => exact absurd h (key_ne_address address name)
    | some name' =>
      have hlist := congrArg String.toList h
      rw [toList_key_of_source, toList_key_of_source, List.append_cancel_right_eq] at hlist
      rw [String.toList_inj.1 hlist]

/-! ## Addresses read off keys -/

/-- The address is all of a key without a separator. -/
theorem addressOfKey_of_not_mem {k : String} (h : separator ∉ k.toList) : addressOfKey k = k := by
  have hall : ∀ c ∈ k.toList, decide (c ≠ separator) = true :=
    fun c hc => decide_eq_true fun heq => h (heq ▸ hc)
  have hdrop : k.toList.dropWhile (· ≠ separator) = [] := by
    rw [← List.append_nil k.toList, List.dropWhile_append_of_pos hall, List.dropWhile_nil]
  unfold addressOfKey
  simp only [hdrop]
  cases k.toList.takeWhile (· ≠ separator) <;> rfl

/-- The address is what follows the first separator, unless the key begins with that. -/
theorem addressOfKey_of_append {k : String} {front rest : List Char}
    (hk : k.toList = front ++ separator :: rest) (hfront : separator ∉ front) :
    addressOfKey k = if front = [] then k else String.ofList rest := by
  have hall : ∀ c ∈ front, decide (c ≠ separator) = true :=
    fun c hc => decide_eq_true fun heq => hfront (heq ▸ hc)
  have htake : k.toList.takeWhile (· ≠ separator) = front := by
    rw [hk, List.takeWhile_append_of_pos hall, List.takeWhile_cons_of_neg (by simp),
      List.append_nil]
  have hdrop : k.toList.dropWhile (· ≠ separator) = separator :: rest := by
    rw [hk, List.dropWhile_append_of_pos hall, List.dropWhile_cons_of_neg (by simp)]
  unfold addressOfKey
  simp only [htake, hdrop]
  cases front with
  | nil => rfl
  | cons c front => rfl

/-! ## Contacts whose keys tell their addresses -/

/-- A contact without a source has no separator in its address but for one at the front, and one with
    a source has a source that is not empty and has no separator. -/
def Legible (c : Contact) : Prop :=
  match c.source with
  | none => separator ∉ c.address.toList ∨ c.address.toList.head? = some separator
  | some source => source ≠ "" ∧ separator ∉ source.toList

instance : DecidablePred Legible := fun c => by
  unfold Legible
  split <;> infer_instance

theorem addressOfKey_key_none (address : String) :
    addressOfKey (⟨address, none⟩ : Contact).key = address
      ↔ separator ∉ address.toList ∨ address.toList.head? = some separator := by
  show addressOfKey address = address ↔ _
  by_cases hmem : separator ∈ address.toList
  · obtain ⟨front, rest, haddress, hfront⟩ := List.eq_append_cons_of_mem hmem
    rw [addressOfKey_of_append haddress hfront, haddress]
    cases front with
    | nil => simp
    | cons c front =>
      -- What follows the separator is shorter than the address.
      have hne : String.ofList rest ≠ address := by
        intro h
        have hlength := congrArg (List.length ∘ String.toList) h
        simp only [Function.comp_apply, String.toList_ofList, haddress, List.length_append,
          List.length_cons] at hlength
        omega
      have hc : c ≠ separator := fun h => hfront (h ▸ List.mem_cons_self)
      simp [hne, hc]
  · simp [addressOfKey_of_not_mem hmem, hmem]

theorem addressOfKey_key_some (address source : String) :
    addressOfKey (⟨address, some source⟩ : Contact).key = address
      ↔ source ≠ "" ∧ separator ∉ source.toList := by
  have hkey := toList_key_of_source address source
  by_cases hmem : separator ∈ source.toList
  · obtain ⟨front, rest, hsource, hfront⟩ := List.eq_append_cons_of_mem hmem
    rw [hsource, List.append_assoc, List.cons_append] at hkey
    refine iff_of_false ?_ fun h => h.2 hmem
    rw [addressOfKey_of_append hkey hfront]
    split
    · exact key_ne_address address source
    · -- The rest of the source is read as part of the address.
      intro h
      have hlength := congrArg (List.length ∘ String.toList) h
      simp only [Function.comp_apply, String.toList_ofList, List.length_append,
        List.length_cons] at hlength
      omega
  · have hempty : source.toList = [] ↔ source = "" := String.toList_eq_nil_iff
    rw [addressOfKey_of_append hkey hmem, String.ofList_toList]
    by_cases h : source = ""
    · rw [if_pos (hempty.2 h)]
      exact iff_of_false (key_ne_address address source) fun hne => hne.1 h
    · rw [if_neg (mt hempty.1 h)]
      exact iff_of_true rfl ⟨h, hmem⟩

theorem addressOfKey_key_iff (c : Contact) : addressOfKey c.key = c.address ↔ c.Legible := by
  obtain ⟨address, source⟩ := c
  cases source with
  | none => exact addressOfKey_key_none address
  | some source => exact addressOfKey_key_some address source

theorem injOn_key : Set.InjOn key {c | c.Legible} := by
  intro c hc d hd h
  have haddress : c.address = d.address := by
    rw [← (addressOfKey_key_iff c).2 hc, ← (addressOfKey_key_iff d).2 hd, h]
  obtain ⟨address, source⟩ := c
  obtain ⟨address', source'⟩ := d
  obtain rfl : address = address' := haddress
  rw [source_inj h]

/-- The address read off the key of a contact is its own just if the contact is legible, and no two
    legible contacts share a key. -/
theorem tellsAddress_iff :
    (∀ c : Contact, addressOfKey c.key = c.address ↔ c.Legible)
      ∧ Set.InjOn key {c : Contact | c.Legible} :=
  ⟨addressOfKey_key_iff, injOn_key⟩

end Rapport.Contact
