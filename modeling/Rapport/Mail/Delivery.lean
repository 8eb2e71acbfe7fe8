import Rapport.Mail.Message
import Rapport.Registry

set_option autoImplicit false

/-! # Delivery

The way in for mail: a message is brought to the graph of the account that sent or received it. Mail
goes on whatever becomes of the ties: without an active backend the message is ignored. -/

namespace Rapport.Mail

/-- Do something with the graph of an account, if there is one. -/
def withGraph (account : String) (act : Graph Deployment → Action Deployment Unit) :
    Action Deployment Unit := do
  match ← (Registry.graph account).attempt with
  | .ok g => act g
  | .error f =>
    if f.kind = .graphNotFound then Action.note (.mailIgnored account) else throw f

/-- An account has sent a message. -/
def deliverSent (settings : Settings) (account : String) (recipients : Recipients)
    (timestamp : Int) (source : Option String) : Action Deployment Unit :=
  withGraph account fun g => sent g settings.maxCliqueSize recipients timestamp source

/-- An account has received a message. -/
def deliverReceived (settings : Settings) (who : Identity) (recipients : Recipients)
    (timestamp : Int) (source : Option String) : Action Deployment Unit :=
  withGraph who.account fun g => received g who settings.maxCliqueSize recipients timestamp source

/-- An account has sent or received the message of an envelope. -/
def deliver (settings : Settings) (who : Identity) (envelope : Envelope) (timestamp : Int)
    (wasSent : Bool) (source : Option String) : Action Deployment Unit :=
  if wasSent then deliverSent settings who.account envelope.recipients timestamp source
  else deliverReceived settings who envelope.recipients timestamp source

/-- The size of the largest clique, with a note where the settings give none of any use. -/
def largestClique (settings : Settings) : Action Deployment Int := do
  (cliqueLimitNotes settings.maxCliqueSize).forM Action.note
  return cliqueLimit settings.maxCliqueSize

end Rapport.Mail
