import Rapport.Failure
import Rapport.Text.Blank
import Rapport.Text.Lower

set_option autoImplicit false

/-! # Identities

Who receives a message. An `Identity` is asked whether an address is one of the account's own; the
answer may not be had, when the directory behind it fails. `OwnAddresses` is an identity given by a
list of addresses, compared without regard to case. -/

namespace Rapport.Mail

/-- An account that can be asked whether an address is its own. -/
structure Identity where
  account : String
  /-- Whether an address is the account's own, if that can be found out. -/
  owns : String → Except Failure Bool

/-- The addresses of an account: its main one, and those that it may send as. -/
structure OwnAddresses where
  account : String
  primary : String
  sendAs : List String := []
deriving DecidableEq, Repr

namespace OwnAddresses

/-- Whether an address, without the blanks around it, is one of the account's, in any case. -/
def owns (own : OwnAddresses) (address : String) : Bool :=
  let candidate := Text.lower (Text.strip address)
  candidate == Text.lower own.primary || own.sendAs.any fun other => candidate == Text.lower other

/-- The identity that the addresses make. -/
def identity (own : OwnAddresses) : Identity := ⟨own.account, fun address => .ok (own.owns address)⟩

/-- The identity of an account whose directory fails for some addresses, or for all if a star is
    among them. -/
def failingFor (own : OwnAddresses) (addresses : List String) : Identity :=
  ⟨own.account, fun address =>
    if addresses.contains "*" || addresses.contains address then .error .directoryUnavailable
    else .ok (own.owns address)⟩

end OwnAddresses

end Rapport.Mail
