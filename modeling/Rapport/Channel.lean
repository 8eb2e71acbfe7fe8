import Rapport.Text.Lower

set_option autoImplicit false

/-! # Channels

A channel is a way in which a message ties two contacts together, with the weight of one such
message: being on its To list counts for three, on its Cc list for two, on its Bcc list for one.
Channels are known by lower-case names. The combined channel stands for the sum over all others. -/

namespace Rapport

/-- A kind of tie between contacts and the weight of one message of that kind. -/
structure Channel where
  /-- The name, in lower case where `Channel.named` made the channel. -/
  name : String
  weight : Int
deriving DecidableEq, Repr

namespace Channel

/-- The channel of a name, which is lower-cased. -/
def named (name : String) (weight : Int) : Channel := ⟨Text.lower name, weight⟩

/-- The name of the relation that sums up all channels. -/
def combinedName : String := "combined"

/-- Whether the channel is the combined one. -/
def isCombined (c : Channel) : Bool := c.name == combinedName

/-- The To list of a message. -/
def direct : Channel := ⟨"to", 3⟩

/-- The Cc list of a message. -/
def cc : Channel := ⟨"cc", 2⟩

/-- The Bcc list of a message. -/
def bcc : Channel := ⟨"bcc", 1⟩

/-- The sum over all channels. -/
def combined : Channel := ⟨combinedName, 0⟩

end Channel

end Rapport
