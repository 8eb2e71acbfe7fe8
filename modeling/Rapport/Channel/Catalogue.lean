import Rapport.Failure
import Rapport.Keyed

set_option autoImplicit false

/-! # The catalogue of channels

The channels that can be asked for by name. A name is looked up without regard to case; registering
a name again replaces its channel and keeps its place. The combined channel cannot be registered,
and neither can a channel that adds no weight. -/

namespace Rapport

/-- The registered channels by name, in the order of registration. -/
structure Catalogue where
  channels : Keyed String Channel := .empty
deriving DecidableEq

namespace Catalogue

/-- Add a channel, in place of one of the same name. -/
def register (c : Catalogue) (channel : Channel) : Except Failure Catalogue :=
  if channel.isCombined then .error .reservedChannel
  else if channel.weight < 1 then .error (.channelTooLight channel.name)
  else .ok ⟨c.channels.insert channel.name channel⟩

/-- The catalogue of a list of channels, registered one after the other. -/
def ofList (channels : List Channel) : Except Failure Catalogue := channels.foldlM register {}

/-- The channel of a name, if it is registered. -/
def find? (c : Catalogue) (name : String) : Option Channel := c.channels.find? (Text.lower name)

/-- The channel of a name. -/
def require (c : Catalogue) (name : String) : Except Failure Channel :=
  match c.find? name with
  | some channel => .ok channel
  | none => .error (.unknownChannel name)

/-- The registered names, oldest first. -/
def names (c : Catalogue) : List String := c.channels.keys

/-- The channels of mail: the To, Cc and Bcc lists. -/
def mail : Catalogue :=
  ⟨[Channel.direct, Channel.cc, Channel.bcc].foldl (fun m c => m.insert c.name c) .empty⟩

end Catalogue

end Rapport
