import Rapport.Graph.Basic
import Rapport.Mail.Address
import Rapport.Mail.Identity

set_option autoImplicit false

/-! # What messages tell about contacts

A message strengthens the ties between the people it names. When an account sends one, every two
recipients of one list are tied to each other. When it receives one, every two recipients of the To
list and every two of the Cc list are, the account itself left out, and the sender is tied to each
of them, in that direction only. A list that is too long says little and ties nobody to one another.

What a message asks for is worked out first, as a list of `Errand`s; `Errand.run` has the graph do
one. Ties are a by-product of mail: a graph that fails is noted in the journal, and the remaining
errands are run all the same. -/

namespace Rapport.Mail

/-! ## Recipients -/

/-- The lists of addresses that a message carries, each as it is written there. -/
structure Recipients where
  from_ : List String := []
  direct : List String := []
  cc : List String := []
  bcc : List String := []
deriving DecidableEq, Repr

/-- The addresses of a message as a mail reader hands them over. -/
structure Envelope where
  sender : Option String := none
  direct : List String := []
  cc : List String := []
  bcc : List String := []
deriving DecidableEq, Repr

/-- The lists of an envelope. No sender is named by an empty text. -/
def Envelope.recipients (e : Envelope) : Recipients where
  from_ := if e.sender.getD "" = "" then [] else e.sender.toList
  direct := e.direct
  cc := e.cc
  bcc := e.bcc

/-- The addresses of a list, each once, in the order of their first mention. Recipients that come to
    nothing are dropped. -/
def addressesOf (recipients : List String) : List String :=
  ((recipients.map address).filter (· ≠ "")).eraseDups

/-! ## Errands -/

/-- Something that a message asks of a graph, or of the journal. -/
inductive Errand
  | note (e : Journal.Entry)
  /-- Tie all of some contacts to one another. -/
  | clique (members : List Contact) (r : Reinforcement)
  /-- Tie a sender to a recipient. -/
  | tie (sender recipient : Contact) (r : Reinforcement)
deriving DecidableEq

/-- The largest clique: the size that the settings give, or ten if no clique has that size. -/
def cliqueLimit (size : Int) : Int := if size < 2 then Settings.defaultCliqueSize else size

/-- What is noted when the largest clique is asked for. -/
def cliqueLimitNotes (size : Int) : List Journal.Entry :=
  if size < 2 then [.cliqueSizeInvalid size] else []

/-- The errands of one list of recipients among each other. -/
def cliqueErrands (account : String) (maxSize : Int) (members : List Contact) (r : Reinforcement) :
    List Errand :=
  if members.length < 2 then []
  else
    (cliqueLimitNotes maxSize).map .note
      ++ if cliqueLimit maxSize < members.length then
          [.note (.cliqueTooLarge account r.channel.name members.length (cliqueLimit maxSize))]
        else [.clique members r]

/-- The errands of a message that an account has sent. -/
def sentErrands (account : String) (maxSize : Int) (recipients : Recipients) (timestamp : Int)
    (source : Option String) : List Errand :=
  let lists :=
    [(recipients.direct, Channel.direct), (recipients.cc, Channel.cc),
      (recipients.bcc, Channel.bcc)]
  lists.flatMap fun (list, channel) =>
    cliqueErrands account maxSize ((addressesOf list).map (⟨·, source⟩)) { channel, timestamp }

/-- Whether an address counts as one of the account's own: if that cannot be found out it does
    not. -/
def Identity.excludes (who : Identity) (address : String) : Bool :=
  match who.owns address with
  | .ok own => own
  | .error _ => false

/-- What is noted when an address of a list cannot be judged. -/
def Identity.notes (who : Identity) (address : String) : List Errand :=
  match who.owns address with
  | .ok _ => []
  | .error _ => [.note (.ownershipUnresolved who.account)]

/-- The contacts of a list, the account itself left out. -/
def Identity.others (who : Identity) (list : List String) (source : Option String) :
    List Contact :=
  ((addressesOf list).filter fun a => !who.excludes a).map (⟨·, source⟩)

/-- The errands of one list of a received message, the sender's ties apart. -/
def listErrands (who : Identity) (maxSize : Int) (list : List String) (channel : Channel)
    (timestamp : Int) (source : Option String) : List Errand :=
  (addressesOf list).flatMap who.notes
    ++ cliqueErrands who.account maxSize (who.others list source) { channel, timestamp }

/-- The ties from a sender to the contacts of a list. Nobody is tied to himself. -/
def senderErrands (sender : String) (recipients : List Contact) (channel : Channel)
    (timestamp : Int) : List Errand :=
  (recipients.filter (·.address ≠ sender)).map fun recipient =>
    .tie ⟨sender, none⟩ recipient { channel, timestamp, directed := true }

/-- The errands of a message that an account has received. -/
def receivedErrands (who : Identity) (maxSize : Int) (recipients : Recipients) (timestamp : Int)
    (source : Option String) : List Errand :=
  let lists := [(recipients.direct, Channel.direct), (recipients.cc, Channel.cc)]
  lists.flatMap (fun (list, channel) => listErrands who maxSize list channel timestamp source)
    ++ (addressesOf recipients.from_).flatMap fun sender =>
      lists.flatMap fun (list, channel) =>
        senderErrands sender (who.others list source) channel timestamp

/-! ## Running errands -/

variable {σ : Type}

/-- Let a graph's own failure be noted, and any other pass. -/
def contain (entry : Journal.Entry) (act : Action σ Unit) : Action σ Unit := do
  match ← act.attempt with
  | .ok () => return ()
  | .error f => if f.isGraphFailure then Action.note entry else throw f

/-- Run one errand. -/
def Errand.run (g : Graph σ) : Errand → Action σ Unit
  | note e => Action.note e
  | clique members r =>
    contain (.cliqueFailed g.account r.channel.name members.length) (g.clique members r)
  | tie sender recipient r =>
    contain (.senderFailed g.account r.channel.name) (g.reinforce sender recipient r)

/-- Run errands one after the other. -/
def runErrands (g : Graph σ) (errands : List Errand) : Action σ Unit :=
  errands.forM (Errand.run g)

/-- Have a graph learn from a message that its account has sent. -/
def sent (g : Graph σ) (maxSize : Int) (recipients : Recipients) (timestamp : Int)
    (source : Option String) : Action σ Unit :=
  runErrands g (sentErrands g.account maxSize recipients timestamp source)

/-- Have a graph learn from a message that its account has received. -/
def received (g : Graph σ) (who : Identity) (maxSize : Int) (recipients : Recipients)
    (timestamp : Int) (source : Option String) : Action σ Unit :=
  runErrands g (receivedErrands who maxSize recipients timestamp source)

end Rapport.Mail
