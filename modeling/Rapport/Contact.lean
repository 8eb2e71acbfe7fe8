set_option autoImplicit false

/-! # Contacts

A contact is an address, possibly tagged with the data source through which it was seen. Graphs
store a contact under its `key`, the address with the source in front of it; `addressOfKey` reads
the address back off a key. The separator is not escaped, so the two are inverse only where the
source is not empty and has no separator of its own. -/

namespace Rapport

/-- An address, with the data source it was seen through, if any. -/
structure Contact where
  address : String
  source : Option String := none
deriving DecidableEq, Repr

namespace Contact

/-- The character between a source and an address. -/
def separator : Char := ':'

/-- What the keys of all contacts of a source begin with. -/
def sourceTag (source : String) : String := source ++ String.singleton separator

/-- The name under which a graph stores the contact. -/
def key (c : Contact) : String :=
  match c.source with
  | some source => sourceTag source ++ c.address
  | none => c.address

/-- The address of the contact that is stored under a key: what follows the first separator, or the
    whole key if there is none or if it comes first. -/
def addressOfKey (key : String) : String :=
  let cs := key.toList
  match cs.takeWhile (· ≠ separator), cs.dropWhile (· ≠ separator) with
  | [], _ => key
  | _, [] => key
  | _, _ :: address => String.ofList address

end Contact

end Rapport
