import Rapport.Channel.Catalogue
import Rapport.Proofs.Action
import Rapport.Proofs.Keyed
import Rapport.Proofs.Text.Lower

set_option autoImplicit false

/-! # What a catalogue has been told

A catalogue begins with a list of channels and is asked to register more. What it is asked is an
`Offer`: a name in any spelling, and a weight. It takes the ones that are fit and refuses the
others, and a refusal leaves it as it was (`outcome_enter`). So what it tells at any time follows
from the offers that it has taken so far, in their order (`channels_entered`). `Catalogue.Tells`
says how, and `tells_entered` that this is so after every run of offers. -/

namespace Rapport

/-! ## Offers -/

/-- A registration that is asked for. -/
structure Offer where
  name : String
  weight : Int
deriving DecidableEq, Repr

namespace Offer

/-- The name under which the channel would be kept. -/
def key (o : Offer) : String := Text.lower o.name

def channel (o : Offer) : Channel := .named o.name o.weight

/-- Whether the channel can be registered: its name is not the combined one's, and it adds
    weight. -/
def isFit (o : Offer) : Bool := o.key != Channel.combinedName && decide (1 ≤ o.weight)

theorem isFit_iff {o : Offer} : o.isFit = true ↔ o.key ≠ Channel.combinedName ∧ 1 ≤ o.weight := by
  simp [isFit]

/-- A channel is found again by the name under which it is kept. -/
theorem lower_key (o : Offer) : Text.lower o.key = o.key := Text.lower_lower o.name

end Offer

namespace Catalogue

/-! ## One offer -/

/-- The catalogue with the channel of an offer. -/
def including (c : Catalogue) (o : Offer) : Catalogue := ⟨c.channels.insert o.key o.channel⟩

theorem register_of_isFit (c : Catalogue) {o : Offer} (h : o.isFit = true) :
    c.register o.channel = .ok (c.including o) := by
  obtain ⟨hname, hweight⟩ := Offer.isFit_iff.1 h
  have hcombined : o.channel.isCombined = false := beq_eq_false_iff_ne.2 hname
  have hheavy : ¬o.channel.weight < 1 := Int.not_lt.2 hweight
  rw [register, hcombined, if_neg Bool.false_ne_true, if_neg hheavy]
  rfl

theorem register_of_not_isFit (c : Catalogue) {o : Offer} (h : ¬o.isFit = true) :
    ∃ f, c.register o.channel = .error f ∧ f.kind = .invalidArgument := by
  rw [register]
  by_cases hcombined : o.channel.isCombined = true
  · exact ⟨.reservedChannel, if_pos hcombined, rfl⟩
  · rw [if_neg hcombined]
    by_cases hlight : o.channel.weight < 1
    · exact ⟨.channelTooLight o.channel.name, if_pos hlight, rfl⟩
    · have hname : o.key ≠ Channel.combinedName := fun heq => hcombined (beq_iff_eq.2 heq)
      exact absurd (Offer.isFit_iff.2 ⟨hname, Int.not_lt.1 hlight⟩) h

/-- Ask the catalogue at hand to register a channel. -/
def enter (o : Offer) : Action Catalogue Unit := do
  let c ← Action.ofExcept ((← Action.state).register o.channel)
  Action.update fun _ => c

/-- A fit offer is taken. Any other is refused as an invalid argument, and leaves the catalogue as
    it was. -/
theorem outcome_enter (c : Catalogue) (o : Offer) :
    if o.isFit then (enter o).outcome c = (.ok (), ⟨c.including o, []⟩)
    else ∃ f, (enter o).outcome c = (.error f, ⟨c, []⟩) ∧ f.kind = .invalidArgument := by
  have hread := Action.Runs.state (⟨c, []⟩ : Traced Catalogue)
  have hanswer : ∀ {result}, c.register o.channel = result →
      (Action.ofExcept (c.register o.channel)).Runs (⟨c, []⟩ : Traced Catalogue) result
        ⟨c, []⟩ := by
    intro result hresult
    rw [hresult]
    exact Action.Runs.ofExcept result _
  by_cases h : o.isFit = true
  · rw [if_pos h]
    have htaken := hanswer (register_of_isFit c h)
    exact (hread.bind (htaken.bind (Action.Runs.update _ _))).outcome
  · rw [if_neg h]
    obtain ⟨f, hf, hkind⟩ := register_of_not_isFit c h
    exact ⟨f, (hread.bind ((hanswer hf).bind_error _)).outcome, hkind⟩

/-! ## Runs of offers -/

/-- The catalogue after offers have been made to it, whatever it answered. -/
def entered (c : Catalogue) (offers : List Offer) : Catalogue :=
  offers.foldl (fun c o => ((enter o).outcome c).2.state) c

theorem entered_cons (c : Catalogue) (o : Offer) (rest : List Offer) :
    c.entered (o :: rest) = (if o.isFit then c.including o else c).entered rest := by
  have hstate : ((enter o).outcome c).2.state = if o.isFit then c.including o else c := by
    have houtcome := outcome_enter c o
    by_cases h : o.isFit = true
    · rw [if_pos h] at houtcome ⊢
      rw [houtcome]
    · rw [if_neg h] at houtcome ⊢
      obtain ⟨f, hf, _⟩ := houtcome
      rw [hf]
  rw [entered, List.foldl_cons, hstate, entered]

/-- The offers taken are all that is left of a run. -/
theorem channels_entered (c : Catalogue) (offers : List Offer) :
    (c.entered offers).channels
      = (offers.filter Offer.isFit).foldl (fun m o => m.insert o.key o.channel) c.channels := by
  induction offers generalizing c with
  | nil => rfl
  | cons o rest ih =>
    rw [entered_cons, ih]
    by_cases h : o.isFit = true
    · rw [if_pos h, List.filter_cons_of_pos h, List.foldl_cons, including]
    · rw [if_neg h, List.filter_cons_of_neg h]

/-- Channels that are registered one after the other, up to the first that is refused. -/
theorem foldlM_register (c : Catalogue) (offers : List Offer) :
    match (offers.map Offer.channel).foldlM register c with
    | .ok c' => offers.all Offer.isFit = true ∧ c' = c.entered offers
    | .error f => offers.all Offer.isFit = false ∧ f.kind = .invalidArgument := by
  induction offers generalizing c with
  | nil => exact ⟨rfl, rfl⟩
  | cons o rest ih =>
    rw [List.map_cons, List.foldlM_cons, List.all_cons, entered_cons]
    by_cases h : o.isFit = true
    · rw [register_of_isFit c h, h, Bool.true_and, if_pos rfl]
      exact ih (c.including o)
    · obtain ⟨f, hf, hkind⟩ := register_of_not_isFit c h
      rw [hf, Bool.eq_false_iff.2 h, Bool.false_and]
      exact ⟨rfl, hkind⟩

/-! ## What is told -/

/-- What a catalogue tells that has taken some offers, the first of them first. -/
structure Tells (c : Catalogue) (taken : List Offer) : Prop where
  /-- The names are listed in the order in which they were first taken. -/
  names : c.names = (taken.map Offer.key).eraseDups
  nodup_names : c.names.Nodup
  combined_notMem : Channel.combinedName ∉ c.names
  one_le_weight : ∀ channel ∈ c.channels.values, 1 ≤ channel.weight
  /-- In whatever spelling a name is asked for, the last channel of that name is found. -/
  find? : ∀ name, c.find? name
    = (taken.filter (·.key = Text.lower name)).getLast?.map Offer.channel
  require_ok : ∀ name channel, c.require name = .ok channel ↔ c.find? name = some channel
  require_error : ∀ name,
    (∃ f, c.require name = .error f ∧ f.kind = .invalidArgument) ↔ c.find? name = none
  /-- What is kept under a name is the channel of that name, and it is found by it. -/
  find?_stored : ∀ e ∈ c.channels.entries, e.2.name = e.1 ∧ c.find? e.2.name = some e.2

theorem require_eq (c : Catalogue) (name : String) :
    c.require name = match c.find? name with
      | some channel => .ok channel
      | none => .error (.unknownChannel name) := rfl

/-- A catalogue that holds the channels of fit offers tells of them. -/
theorem tells_of_channels {c : Catalogue} {taken : List Offer}
    (hc : c.channels = taken.foldl (fun m o => m.insert o.key o.channel) .empty)
    (hfit : ∀ o ∈ taken, o.isFit = true) : c.Tells taken := by
  have hnames : c.names = (taken.map Offer.key).eraseDups := by
    rw [Catalogue.names, hc]
    exact Keyed.keys_foldl_upsert Offer.key (fun o _ => o.channel) taken
  have hkey : ∀ k, c.channels.find? k = (taken.filter (·.key = k)).getLast?.map Offer.channel := by
    intro k
    rw [hc]
    exact Keyed.find?_foldl_insert Offer.key Offer.channel taken k
  -- Every entry goes back to an offer.
  have hentry : ∀ e ∈ c.channels.entries, ∃ o ∈ taken, o.key = e.1 ∧ o.channel = e.2 := by
    rintro ⟨k, channel⟩ he
    have hfound := Keyed.mem_entries.1 he
    rw [hkey, Option.map_eq_some_iff] at hfound
    obtain ⟨o, ho, hchannel⟩ := hfound
    have hmem := List.mem_filter.1 (List.mem_of_getLast? ho)
    exact ⟨o, hmem.1, of_decide_eq_true hmem.2, hchannel⟩
  refine
    { names := hnames
      nodup_names := c.channels.distinct
      combined_notMem := ?_
      one_le_weight := ?_
      find? := fun name => hkey (Text.lower name)
      require_ok := ?_
      require_error := ?_
      find?_stored := ?_ }
  · rw [hnames, List.mem_eraseDups, List.mem_map]
    rintro ⟨o, ho, hcombined⟩
    exact (Offer.isFit_iff.1 (hfit o ho)).1 hcombined
  · intro channel hchannel
    obtain ⟨e, he, rfl⟩ := List.mem_map.1 hchannel
    obtain ⟨o, ho, -, hstored⟩ := hentry e he
    rw [← hstored]
    exact (Offer.isFit_iff.1 (hfit o ho)).2
  · intro name channel
    rw [require_eq]
    cases c.find? name <;> simp
  · intro name
    rw [require_eq]
    cases c.find? name with
    | some channel => simp
    | none => simp [Failure.kind]
  · intro e he
    obtain ⟨o, -, hstored⟩ := hentry e he
    have hname : e.2.name = e.1 := by rw [← hstored.2, ← hstored.1]; rfl
    refine ⟨hname, ?_⟩
    rw [Catalogue.find?, hname, ← hstored.1, o.lower_key, hstored.1]
    exact Keyed.mem_entries.1 he

/-- A list of channels one of which is unfit makes no catalogue. Any other makes one that has taken
    them all, and whatever is offered to it afterwards, it tells of these and of the fit ones among
    the later offers. The next offer it takes if it is fit, and refuses without any change if it is
    not. -/
theorem tells_entered (initial offers : List Offer) :
    match ofList (initial.map Offer.channel) with
    | .error f => initial.all Offer.isFit = false ∧ f.kind = .invalidArgument
    | .ok c₀ =>
      let c := c₀.entered offers
      initial.all Offer.isFit = true
        ∧ c.Tells (initial ++ offers.filter Offer.isFit)
        ∧ ∀ o : Offer,
          if o.isFit then (enter o).outcome c = (.ok (), ⟨c.including o, []⟩)
          else ∃ f, (enter o).outcome c = (.error f, ⟨c, []⟩) ∧ f.kind = .invalidArgument := by
  have hinitial := foldlM_register {} initial
  rw [← ofList] at hinitial
  cases hc₀ : ofList (initial.map Offer.channel) with
  | error f =>
    rw [hc₀] at hinitial
    exact hinitial
  | ok c₀ =>
    rw [hc₀] at hinitial
    obtain ⟨hall, rfl⟩ := hinitial
    have hkept : initial.filter Offer.isFit = initial :=
      List.filter_eq_self.2 (List.all_eq_true.1 hall)
    refine ⟨hall, tells_of_channels ?_ fun o ho => ?_, outcome_enter _⟩
    · rw [channels_entered, channels_entered, hkept, List.foldl_append]
    · rcases List.mem_append.1 ho with ho | ho
      · exact List.all_eq_true.1 hall o ho
      · exact (List.mem_filter.1 ho).2

/-- Offers to a catalogue that knows `"to"`: a new channel, one of the combined name, the known one
    in another spelling, one without weight, and one whose last letter has a form of its own at the
    end of a word. -/
def renewing : List Offer :=
  [⟨"Reply", 4⟩, ⟨"COMBINED", 9⟩, ⟨"TO", 5⟩, ⟨"bcc", 0⟩, ⟨"ΛΟΓΟΣ", 1⟩]

theorem tells_entered_renewing : ∃ c₀, ofList ([⟨"to", 3⟩].map Offer.channel) = .ok c₀
    ∧ (c₀.entered renewing).names = ["to", "reply", "λογος"]
    ∧ (c₀.entered renewing).find? "To" = some ⟨"to", 5⟩
    ∧ (c₀.entered renewing).find? "Λογος" = some ⟨"λογος", 1⟩
    ∧ (c₀.entered renewing).find? "bcc" = none := by
  have h := tells_entered [⟨"to", 3⟩] renewing
  cases hc₀ : ofList ([⟨"to", 3⟩].map Offer.channel) with
  | error f =>
    rw [hc₀] at h
    exact absurd h.1 (by decide +kernel)
  | ok c₀ =>
    rw [hc₀] at h
    have htold := h.2.1
    refine ⟨c₀, rfl, ?_, ?_, ?_, ?_⟩
    · rw [htold.names]
      decide +kernel
    · rw [htold.find?]
      decide +kernel
    · rw [htold.find?]
      decide +kernel
    · rw [htold.find?]
      decide +kernel

/-- The catalogue of mail is one that has been told its channels. -/
example : ofList ([⟨"to", 3⟩, ⟨"cc", 2⟩, ⟨"bcc", 1⟩].map Offer.channel) = .ok mail := by
  decide +kernel

end Catalogue

end Rapport
