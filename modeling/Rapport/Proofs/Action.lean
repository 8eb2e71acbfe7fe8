import Rapport.Action

set_option autoImplicit false

/-! # How actions end

`act.Runs t result t'` says that `act`, run on a state and a journal, comes to `result` and leaves
the state and the journal of `t'`. Often the journal does not matter: `act.Ends s result s'` says
that `act`, run on the state `s`, ends with `result` and leaves the state `s'`, whatever the journal
holds. The parts of an action are put together by `bind` where all goes well, and by `bind_error` at
the first failure. `outcome` leads back to what is seen when the action is run.

Where it is not known how an action ends, something can still be known of it. `act.Keeps holds` says
that `holds` stays true of the state, whatever the result is, and `act.FailsOnly holds fails` that,
besides, `fails` is true of every failure. Of two states `act.Respects alike` says that the results
are the same if the states are `alike`, and that the states are so again afterwards. Both `Keeps` and
`Respects` are `Closed`: they hold of every action that is put together of others of which they
hold. -/

namespace Rapport.Action

variable {σ τ α β : Type}

theorem run_bind (act : Action σ α) (k : α → Action σ β) (t : Traced σ) :
    (act >>= k).run.run t = match act.run.run t with
      | (.ok a, t') => (k a).run.run t'
      | (.error f, t') => (.error f, t') := by
  show (ExceptT.bindCont k =<< act.run).run t = _
  rcases h : act.run.run t with ⟨result, t'⟩
  show (ExceptT.bindCont k (act.run t).1).run (act.run t).2 = _
  rw [show act.run t = (result, t') from h]
  cases result <;> rfl

/-! ## Runs -/

/-- Run on a state and a journal, an action comes to a result and leaves others. -/
def Runs (act : Action σ α) (t : Traced σ) (result : Except Failure α) (t' : Traced σ) : Prop :=
  act.run.run t = (result, t')

namespace Runs

variable {act : Action σ α} {t t' t'' : Traced σ} {result : Except Failure α}

theorem outcome {s : σ} (h : act.Runs ⟨s, []⟩ result t') : act.outcome s = (result, t') := h

protected theorem pure (a : α) (t : Traced σ) : (pure a : Action σ α).Runs t (.ok a) t := rfl

protected theorem throw (f : Failure) (t : Traced σ) :
    (throw f : Action σ α).Runs t (.error f) t := rfl

protected theorem ofExcept (result : Except Failure α) (t : Traced σ) :
    (Action.ofExcept result).Runs t result t := rfl

protected theorem note (e : Journal.Entry) (t : Traced σ) :
    (Action.note e).Runs t (.ok ()) ⟨t.state, t.journal ++ [e]⟩ := rfl

protected theorem state (t : Traced σ) : (Action.state : Action σ σ).Runs t (.ok t.state) t := rfl

protected theorem update (f : σ → σ) (t : Traced σ) :
    (Action.update f).Runs t (.ok ()) ⟨f t.state, t.journal⟩ := rfl

protected theorem bind {a : α} {k : α → Action σ β} {answer : Except Failure β}
    (h : act.Runs t (.ok a) t') (hk : (k a).Runs t' answer t'') : (act >>= k).Runs t answer t'' := by
  rw [Runs, run_bind, h]
  exact hk

theorem bind_error {f : Failure} (k : α → Action σ β) (h : act.Runs t (.error f) t') :
    (act >>= k).Runs t (.error f) t' := by
  rw [Runs, run_bind, h]

/-- A result that is passed on in another form. -/
protected theorem map (h : act.Runs t result t') (f : α → β) :
    (do let a ← act; return f a : Action σ β).Runs t (result.map f) t' := by
  cases result with
  | ok a => exact h.bind (Runs.pure (f a) t')
  | error e => exact h.bind_error _

/-- A failure that is looked at is an answer. -/
theorem attempt (h : act.Runs t result t') : act.attempt.Runs t (.ok result) t' := by
  show (Except.ok (act.run.run t).1, (act.run.run t).2) = _
  rw [h]

/-- An action on a part of a state goes as it does on that part, and the rest is kept. -/
theorem within (read : τ → σ) (write : σ → τ → τ) {u : Traced τ}
    (h : act.Runs ⟨read u.state, u.journal⟩ result t') :
    (act.within read write).Runs u result ⟨write t'.state u.state, t'.journal⟩ := by
  show ((act.run.run ⟨read u.state, u.journal⟩).1,
    (⟨write (act.run.run ⟨read u.state, u.journal⟩).2.state u.state,
      (act.run.run ⟨read u.state, u.journal⟩).2.journal⟩ : Traced τ)) = _
  rw [h]

end Runs

/-! ## Ends -/

/-- Run on a state, an action ends with a result and a state, whatever was in the journal. -/
def Ends (act : Action σ α) (s : σ) (result : Except Failure α) (s' : σ) : Prop :=
  ∀ journal, ∃ journal', act.run.run ⟨s, journal⟩ = (result, ⟨s', journal'⟩)

namespace Ends

variable {act : Action σ α} {s s' s'' : σ} {result : Except Failure α}

theorem outcome (h : act.Ends s result s') :
    (act.outcome s).1 = result ∧ (act.outcome s).2.state = s' := by
  obtain ⟨journal', h⟩ := h []
  rw [Action.outcome, h]
  exact ⟨rfl, rfl⟩

/-! ### Single steps -/

protected theorem pure (a : α) (s : σ) : (pure a : Action σ α).Ends s (.ok a) s :=
  fun journal => ⟨journal, rfl⟩

protected theorem throw (f : Failure) (s : σ) : (throw f : Action σ α).Ends s (.error f) s :=
  fun journal => ⟨journal, rfl⟩

protected theorem ofExcept (result : Except Failure α) (s : σ) :
    (Action.ofExcept result).Ends s result s :=
  fun journal => ⟨journal, rfl⟩

protected theorem note (e : Journal.Entry) (s : σ) : (Action.note e).Ends s (.ok ()) s :=
  fun journal => ⟨journal ++ [e], rfl⟩

protected theorem state (s : σ) : (Action.state : Action σ σ).Ends s (.ok s) s :=
  fun journal => ⟨journal, rfl⟩

protected theorem update (f : σ → σ) (s : σ) : (Action.update f).Ends s (.ok ()) (f s) :=
  fun journal => ⟨journal, rfl⟩

/-! ### Composition -/

protected theorem bind {a : α} {k : α → Action σ β} {answer : Except Failure β}
    (h : act.Ends s (.ok a) s') (hk : (k a).Ends s' answer s'') :
    (act >>= k).Ends s answer s'' := by
  intro journal
  obtain ⟨journal', h⟩ := h journal
  obtain ⟨journal'', hk⟩ := hk journal'
  exact ⟨journal'', Runs.bind h hk⟩

theorem bind_error {f : Failure} (k : α → Action σ β) (h : act.Ends s (.error f) s') :
    (act >>= k).Ends s (.error f) s' := by
  intro journal
  obtain ⟨journal', h⟩ := h journal
  exact ⟨journal', Runs.bind_error k h⟩

/-- A result that is passed on in another form. -/
protected theorem map (h : act.Ends s result s') (f : α → β) :
    (do let a ← act; return f a : Action σ β).Ends s (result.map f) s' := by
  cases result with
  | ok a => exact h.bind (Ends.pure (f a) s')
  | error e => exact h.bind_error _

/-- A failure that is looked at is an answer. -/
theorem attempt (h : act.Ends s result s') : act.attempt.Ends s (.ok result) s' := by
  intro journal
  obtain ⟨journal', h⟩ := h journal
  exact ⟨journal', Runs.attempt h⟩

/-- An action on a part of a state ends as it does on that part, and the rest is kept. -/
theorem within (read : τ → σ) (write : σ → τ → τ) {t : τ} (h : act.Ends (read t) result s') :
    (act.within read write).Ends t result (write s' t) := by
  intro journal
  obtain ⟨journal', h⟩ := h journal
  have hact : act.Runs ⟨read t, journal⟩ result ⟨s', journal'⟩ := h
  exact ⟨journal', hact.within read write (u := ⟨t, journal⟩)⟩

end Ends

/-! ## What holds of parts and whole -/

/-- A property that is true of every action that leaves the state alone, and of an action that is
    put together of others if it is true of those. -/
structure Closed (P : (α : Type) → Action σ α → Prop) : Prop where
  pure : ∀ {α : Type} (a : α), P α (pure a)
  throw : ∀ {α : Type} (f : Failure), P α (throw f)
  note : ∀ e : Journal.Entry, P Unit (Action.note e)
  bind : ∀ {α β : Type} {act : Action σ α} {k : α → Action σ β},
    P α act → (∀ a, P β (k a)) → P β (act >>= k)
  attempt : ∀ {α : Type} {act : Action σ α}, P α act → P (Except Failure α) act.attempt

/-! ## What an action keeps -/

/-- What is true of a state stays true, however the action ends. -/
def Keeps (holds : σ → Prop) (act : Action σ α) : Prop :=
  ∀ t, holds t.state → holds (act.run.run t).2.state

namespace Keeps

variable {holds : σ → Prop} {act : Action σ α}

protected theorem pure (a : α) : (pure a : Action σ α).Keeps holds := fun _ ht => ht

protected theorem throw (f : Failure) : (throw f : Action σ α).Keeps holds := fun _ ht => ht

protected theorem ofExcept (result : Except Failure α) : (Action.ofExcept result).Keeps holds :=
  fun _ ht => ht

protected theorem note (e : Journal.Entry) : (Action.note e).Keeps holds := fun _ ht => ht

protected theorem update {f : σ → σ} (h : ∀ s, holds s → holds (f s)) :
    (Action.update f).Keeps holds :=
  fun t ht => h t.state ht

protected theorem bind {k : α → Action σ β} (h : act.Keeps holds) (hk : ∀ a, (k a).Keeps holds) :
    (act >>= k).Keeps holds := by
  intro t ht
  have hact := h t ht
  rw [run_bind]
  rcases hrun : act.run.run t with ⟨_ | a, t'⟩
  · rw [hrun] at hact
    exact hact
  · rw [hrun] at hact
    exact hk a t' hact

theorem attempt (h : act.Keeps holds) : act.attempt.Keeps holds := h

theorem within {read : τ → σ} {write : σ → τ → τ} {holds' : τ → Prop} (act : Action σ α)
    (h : ∀ s t, holds' t → holds' (write s t)) : (act.within read write).Keeps holds' :=
  fun t ht => h _ t.state ht

/-- What an action keeps of a part of a state it keeps when it is run on that part. -/
theorem within_read {read : τ → σ} {write : σ → τ → τ} (h : act.Keeps holds)
    (hread : ∀ s t, read (write s t) = s) :
    (act.within read write).Keeps fun t => holds (read t) := by
  intro t ht
  have hact := h ⟨read t.state, t.journal⟩ ht
  show holds (read (write (act.run.run ⟨read t.state, t.journal⟩).2.state t.state))
  rw [hread]
  exact hact

theorem of_ends (h : ∀ s, holds s → ∃ result s', act.Ends s result s' ∧ holds s') :
    act.Keeps holds := by
  rintro ⟨s, journal⟩ hs
  obtain ⟨result, s', hends, hs'⟩ := h s hs
  obtain ⟨journal', hrun⟩ := hends journal
  rw [hrun]
  exact hs'

theorem closed (holds : σ → Prop) : Closed fun (α : Type) (act : Action σ α) => act.Keeps holds :=
  ⟨Keeps.pure, Keeps.throw, Keeps.note, Keeps.bind, Keeps.attempt⟩

end Keeps

/-! ## What an action makes of two states -/

/-- From states that are alike an action comes to the same result, and to states that are alike. -/
def Respects (alike : σ → σ → Prop) (act : Action σ α) : Prop :=
  ∀ t t', alike t.state t'.state → (act.run.run t).1 = (act.run.run t').1
    ∧ alike (act.run.run t).2.state (act.run.run t').2.state

namespace Respects

variable {alike : σ → σ → Prop} {act : Action σ α}

protected theorem pure (a : α) : (pure a : Action σ α).Respects alike := fun _ _ h => ⟨rfl, h⟩

protected theorem throw (f : Failure) : (throw f : Action σ α).Respects alike :=
  fun _ _ h => ⟨rfl, h⟩

protected theorem note (e : Journal.Entry) : (Action.note e).Respects alike :=
  fun _ _ h => ⟨rfl, h⟩

protected theorem bind {k : α → Action σ β} (h : act.Respects alike)
    (hk : ∀ a, (k a).Respects alike) : (act >>= k).Respects alike := by
  intro t t' ht
  obtain ⟨hresult, hstate⟩ := h t t' ht
  rw [run_bind, run_bind]
  rcases hrun : act.run.run t with ⟨result, u⟩
  rcases hrun' : act.run.run t' with ⟨result', u'⟩
  rw [hrun, hrun'] at hresult hstate
  dsimp only at hresult hstate
  subst hresult
  cases result with
  | ok a => exact hk a u u' hstate
  | error f => exact ⟨rfl, hstate⟩

theorem attempt (h : act.Respects alike) : act.attempt.Respects alike := by
  intro t t' ht
  obtain ⟨hresult, hstate⟩ := h t t' ht
  exact ⟨congrArg Except.ok hresult, hstate⟩

theorem of_ends (h : ∀ s s', alike s s' → ∃ result u u',
    act.Ends s result u ∧ act.Ends s' result u' ∧ alike u u') : act.Respects alike := by
  rintro ⟨s, journal⟩ ⟨s', journal'⟩ hs
  obtain ⟨result, u, u', hends, hends', hu⟩ := h s s' hs
  obtain ⟨_, hrun⟩ := hends journal
  obtain ⟨_, hrun'⟩ := hends' journal'
  rw [hrun, hrun']
  exact ⟨rfl, hu⟩

theorem closed (alike : σ → σ → Prop) :
    Closed fun (α : Type) (act : Action σ α) => act.Respects alike :=
  ⟨Respects.pure, Respects.throw, Respects.note, Respects.bind, Respects.attempt⟩

end Respects

/-! ## How an action may fail -/

/-- From a state of which `holds` is true an action comes to one of which it is true again, and if
    it fails then with a failure of which `fails` is true. -/
structure FailsOnly (holds : σ → Prop) (fails : Failure → Prop) (act : Action σ α) : Prop where
  keeps : act.Keeps holds
  fails : ∀ t, holds t.state → ∀ f, (act.run.run t).1 = .error f → fails f

namespace FailsOnly

variable {holds : σ → Prop} {fails fails' : Failure → Prop} {act : Action σ α}

theorem mono (h : act.FailsOnly holds fails) (hfails : ∀ f, fails f → fails' f) :
    act.FailsOnly holds fails' :=
  ⟨h.keeps, fun t ht f hf => hfails f (h.fails t ht f hf)⟩

protected theorem pure (a : α) : (pure a : Action σ α).FailsOnly holds fails :=
  ⟨Keeps.pure a, fun _ _ _ hf => nomatch hf⟩

protected theorem throw {f : Failure} (h : fails f) :
    (throw f : Action σ α).FailsOnly holds fails :=
  ⟨Keeps.throw f, fun _ _ _ hf => Except.error.inj hf ▸ h⟩

protected theorem ofExcept {result : Except Failure α} (h : ∀ f, result = .error f → fails f) :
    (Action.ofExcept result).FailsOnly holds fails :=
  ⟨Keeps.ofExcept result, fun _ _ f hf => h f hf⟩

protected theorem note (e : Journal.Entry) : (Action.note e).FailsOnly holds fails :=
  ⟨Keeps.note e, fun _ _ _ hf => nomatch hf⟩

protected theorem update {f : σ → σ} (h : ∀ s, holds s → holds (f s)) :
    (Action.update f).FailsOnly holds fails :=
  ⟨Keeps.update h, fun _ _ _ hf => nomatch hf⟩

protected theorem bind {k : α → Action σ β} (h : act.FailsOnly holds fails)
    (hk : ∀ a, (k a).FailsOnly holds fails) : (act >>= k).FailsOnly holds fails := by
  refine ⟨h.keeps.bind fun a => (hk a).keeps, fun t ht f hf => ?_⟩
  have hstate := h.keeps t ht
  rw [run_bind] at hf
  rcases hrun : act.run.run t with ⟨g | a, t'⟩
  · rw [hrun] at hf
    have hg : (act.run.run t).1 = .error g := congrArg Prod.fst hrun
    exact Except.error.inj hf ▸ h.fails t ht g hg
  · rw [hrun] at hf hstate
    exact (hk a).fails t' hstate f hf

/-- What is done with the present state may rely on what is true of it. -/
theorem bind_state {k : σ → Action σ β} (hk : ∀ s, holds s → (k s).FailsOnly holds fails) :
    (Action.state >>= k).FailsOnly holds fails where
  keeps t ht := (hk t.state ht).keeps t ht
  fails t ht f hf := (hk t.state ht).fails t ht f hf

/-- What is done after an action has been looked at may rely on how it fails. -/
theorem bind_attempt {k : Except Failure α → Action σ β} (h : act.FailsOnly holds fails)
    (hok : ∀ a, (k (.ok a)).FailsOnly holds fails')
    (herror : ∀ f, fails f → (k (.error f)).FailsOnly holds fails') :
    (act.attempt >>= k).FailsOnly holds fails' := by
  have hrun : ∀ t, (act.attempt >>= k).run.run t
      = (k (act.run.run t).1).run.run (act.run.run t).2 := fun _ => rfl
  have hk : ∀ t, holds t.state → (k (act.run.run t).1).FailsOnly holds fails' := by
    intro t ht
    cases hresult : (act.run.run t).1 with
    | ok a => exact hok a
    | error f => exact herror f (h.fails t ht f hresult)
  refine ⟨fun t ht => ?_, fun t ht f hf => ?_⟩
  · rw [hrun]
    exact (hk t ht).keeps _ (h.keeps t ht)
  · rw [hrun] at hf
    exact (hk t ht).fails _ (h.keeps t ht) f hf

/-- An action on a part of a state fails as it does on that part. -/
theorem within {read : τ → σ} {write : σ → τ → τ} (h : act.FailsOnly holds fails)
    (hread : ∀ t, holds (read t)) : (act.within read write).FailsOnly (fun _ => True) fails :=
  ⟨Keeps.within act fun _ _ _ => trivial, fun t _ f hf =>
    h.fails ⟨read t.state, t.journal⟩ (hread t.state) f hf⟩

/-- An action that cannot fail gives an answer. -/
theorem exists_outcome_eq_ok (h : act.FailsOnly holds fails) (hnone : ∀ f, ¬fails f) {s : σ}
    (hs : holds s) : ∃ a, (act.outcome s).1 = .ok a := by
  cases hresult : (act.outcome s).1 with
  | ok a => exact ⟨a, rfl⟩
  | error f => exact absurd (h.fails ⟨s, []⟩ hs f hresult) (hnone f)

end FailsOnly

end Rapport.Action
