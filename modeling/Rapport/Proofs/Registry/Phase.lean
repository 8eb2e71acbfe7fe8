import Rapport.Proofs.List
import Rapport.Proofs.Registry.Backend

set_option autoImplicit false

/-! # Calls in phases

A call that changes which backend is active goes on in phases, between which others may go on: it
builds a backend, makes it the active one, and shuts down the one that was. `Call.phase` is one
phase, from one `Progress` to the next, and `Call.phases` is a call whose phases come one right
after the other. It is what the registry does from the beginning of the call to its end
(`Call.phases_eq_act`).

`Moves` says once what a phase can do, so that nothing that follows from it needs to look into a
phase again. -/

namespace Rapport.Registry

/-! ## Phases -/

/-- A call that changes which backend is active. -/
inductive Call
  | configure (settings : Settings)
  | settingsChanged (settings : Settings)
  | shutDown
deriving DecidableEq

/-- How far a call has come. -/
inductive Progress
  | waiting
  /-- Its backend is built. -/
  | built (b : Backend)
  /-- It has made a backend the active one, or none, in place of another or none. -/
  | swapped (next previous : Option Backend)
  | done (answer : Option Backend)
  | failed (f : Failure)
deriving DecidableEq

namespace Progress

/-- The progress of a call when a phase has ended. -/
def ofResult : Except Failure Progress → Progress
  | .ok p => p
  | .error f => failed f

def answer : Progress → Option Backend
  | done answer => answer
  | waiting | built _ | swapped _ _ | failed _ => none

def isOver : Progress → Bool
  | done _ | failed _ => true
  | waiting | built _ | swapped _ _ => false

/-- The backend that is built and not yet active. -/
def underway : Progress → List Backend
  | built b => [b]
  | waiting | swapped _ _ | done _ | failed _ => []

/-- The backend that the next phase shuts down. -/
def pending : Progress → List Backend
  | swapped _ previous => previous.toList
  | waiting | built _ | done _ | failed _ => []

/-- What the phase that has just ended made the active backend. -/
def swaps : Progress → List (Option Backend)
  | swapped next _ => [next]
  | waiting | built _ | done _ | failed _ => []

theorem underway_of_isOver {p : Progress} (h : p.isOver = true) : p.underway = [] := by
  cases p <;> first | rfl | exact nomatch h

theorem pending_of_isOver {p : Progress} (h : p.isOver = true) : p.pending = [] := by
  cases p <;> first | rfl | exact nomatch h

theorem swaps_of_isOver {p : Progress} (h : p.isOver = true) : p.swaps = [] := by
  cases p <;> first | rfl | exact nomatch h

end Progress

/-! ## Parts of calls -/

/-- Shut down a backend, if there is one. -/
def shutDown? : Option Backend → Action Deployment Unit
  | some b => b.shutDown
  | none => return ()

/-- What is left when a backend, if there is one, has been shut down. -/
def closing? : Option Backend → Deployment → Deployment
  | some b, d => b.closing d
  | none, d => d

theorem exists_runs_shutDown? (b? : Option Backend) (t : Traced Deployment) :
    ∃ journal, (shutDown? b?).Runs t (.ok ()) ⟨closing? b? t.state, journal⟩ := by
  cases b? with
  | none => exact ⟨t.journal, Action.Runs.pure () t⟩
  | some b => exact b.ends_shutDown t.state t.journal

/-- What the settings have built, or why nothing can be. -/
def medium? (settings : Settings) (d : Deployment) : Except Failure Medium :=
  match d.builders.lookup settings.backend with
  | none => .error (.noBackend settings.backend)
  | some builder => builder.build settings d.built

theorem build_eq (settings : Settings) :
    build settings = do
      let d ← Action.state
      let medium ← Action.ofExcept (medium? settings d)
      Action.update fun d => { d with built := d.built + 1 }
      return ⟨d.built, medium⟩ := by
  refine bind_congr fun d => ?_
  rw [medium?]
  cases d.builders.lookup settings.backend with
  | none => rfl
  | some builder => rfl

theorem runs_build_error {settings : Settings} {t : Traced Deployment} {f : Failure}
    (h : medium? settings t.state = .error f) : (build settings).Runs t (.error f) t := by
  have hmedium := Action.Runs.ofExcept (medium? settings t.state) t
  rw [h] at hmedium
  rw [build_eq]
  refine (Action.Runs.state t).bind (Action.Runs.bind_error _ ?_)
  rw [h]
  exact hmedium

theorem runs_build_ok {settings : Settings} {t : Traced Deployment} {medium : Medium}
    (h : medium? settings t.state = .ok medium) :
    (build settings).Runs t (.ok ⟨t.state.built, medium⟩)
      ⟨{ t.state with built := t.state.built + 1 }, t.journal⟩ := by
  have hmedium := Action.Runs.ofExcept (medium? settings t.state) t
  rw [build_eq]
  refine (Action.Runs.state t).bind ?_
  rw [h] at hmedium ⊢
  exact hmedium.bind ((Action.Runs.update _ t).bind (Action.Runs.pure _ _))

theorem runs_swap (next : Option Backend) (t : Traced Deployment) :
    (swap next).Runs t (.ok t.state.active) ⟨{ t.state with active := next }, t.journal⟩ :=
  (Action.Runs.state t).bind ((Action.Runs.update _ t).bind (Action.Runs.pure _ _))

namespace Call

/-- The settings that a call puts to work. -/
def settings? : Call → Option Settings
  | configure settings | settingsChanged settings => some settings
  | shutDown => none

/-- What a call does when its backend cannot be built. -/
def refuse (f : Failure) : Call → Action Deployment Progress
  | settingsChanged settings =>
    if f.kind = .configuration then do
      Action.note (.reconfigureFailed settings.backend)
      return .done none
    else throw f
  | configure _ | shutDown => throw f

/-- What a call answers when it has made a backend, or none, the active one. -/
def answer (next : Option Backend) : Call → Option Backend
  | configure _ => next
  | settingsChanged _ | shutDown => none

/-- A call from where it has come to the next point where others may go on. -/
def phase (call : Call) : Progress → Action Deployment Progress
  | .waiting =>
    match call.settings? with
    | some settings => do
      match ← (build settings).attempt with
      | .ok b => return .built b
      | .error f => call.refuse f
    | none => return .swapped none (← swap none)
  | .built b => return .swapped (some b) (← swap (some b))
  | .swapped next previous => do
    match call.settings? with
    | some settings => Action.note (.configured settings.backend settings.partition)
    | none => pure ()
    shutDown? previous
    if call.settings?.isNone && previous.isSome then Action.note .registryShutDown
    return .done (call.answer next)
  | .done answer => return .done answer
  | .failed f => return .failed f

variable {call : Call} {settings : Settings} {t t' : Traced Deployment}

theorem runs_phase_ok (hcall : call.settings? = some settings) {medium : Medium}
    (h : medium? settings t.state = .ok medium) :
    (call.phase .waiting).Runs t (.ok (.built ⟨t.state.built, medium⟩))
      ⟨{ t.state with built := t.state.built + 1 }, t.journal⟩ := by
  simp only [phase, hcall]
  exact (runs_build_ok h).attempt.bind (Action.Runs.pure _ _)

theorem runs_phase_error (hcall : call.settings? = some settings) {f : Failure}
    (h : medium? settings t.state = .error f) {result : Except Failure Progress}
    (hrefuse : (call.refuse f).Runs t result t') : (call.phase .waiting).Runs t result t' := by
  simp only [phase, hcall]
  exact (runs_build_error h).attempt.bind hrefuse

end Call

/-! ## What a phase can do -/

/-- What a phase can make of the progress of its call and of a deployment. -/
inductive Moves : Progress → Deployment → Progress → Deployment → Prop
  | builds {d : Deployment} {medium : Medium} :
    Moves .waiting d (.built ⟨d.built, medium⟩) { d with built := d.built + 1 }
  /-- A backend that is built takes the place of the active one, or none does. -/
  | swaps {p : Progress} {d : Deployment} {next : Option Backend}
      (hnext : p.underway = next.toList) :
    Moves p d (.swapped next d.active) { d with active := next }
  | closes {next previous answer : Option Backend} {d : Deployment} :
    Moves (.swapped next previous) d (.done answer) (closing? previous d)
  /-- The call is over, or it is now since no backend can be built. -/
  | rests {p q : Progress} {d : Deployment} (hnone : p.underway = []) (hover : q.isOver = true) :
    Moves p d q d

theorem active_closing? (b? : Option Backend) (d : Deployment) :
    (closing? b? d).active = d.active ∧ (closing? b? d).built = d.built := by
  cases b? with
  | none => exact ⟨rfl, rfl⟩
  | some b => exact b.active_closing d

namespace Moves

variable {p q : Progress} {d d' : Deployment}

theorem active_cases (h : Moves p d q d') :
    q.swaps = [] ∧ d'.active = d.active ∨ q.swaps = [d'.active] := by
  cases h with
  | builds => exact Or.inl ⟨rfl, rfl⟩
  | swaps _ => exact Or.inr rfl
  | closes => exact Or.inl ⟨rfl, (active_closing? _ d).1⟩
  | rests _ hover => exact Or.inl ⟨Progress.swaps_of_isOver hover, rfl⟩

/-- What was active, or has just become so, is active or has yet to be shut down. -/
theorem count_active (h : Moves p d q d') (b : Backend) :
    d.active.toList.count b + (q.swaps.filterMap id).count b
      = d'.active.toList.count b + q.pending.count b := by
  cases h with
  | builds => rfl
  | swaps _ => rw [Progress.swaps, Progress.pending, filterMap_id_singleton, Nat.add_comm]
  | closes =>
    rw [(active_closing? _ d).1]
    rfl
  | rests _ hover =>
    rw [Progress.swaps_of_isOver hover, Progress.pending_of_isOver hover]
    rfl

end Moves

namespace Call

variable {call : Call} {settings : Settings} {t t' : Traced Deployment}

/-- What becomes of a call when its backend cannot be built. -/
def refusal (f : Failure) : Call → Progress
  | settingsChanged _ => if f.kind = .configuration then .done none else .failed f
  | configure _ | shutDown => .failed f

theorem isOver_refusal (call : Call) (f : Failure) : (call.refusal f).isOver = true := by
  cases call with
  | configure settings => rfl
  | settingsChanged settings =>
    rw [refusal]
    split
    · rfl
    · rfl
  | shutDown => rfl

theorem exists_ends_refuse (call : Call) (f : Failure) (d : Deployment) :
    ∃ result, (call.refuse f).Ends d result d ∧ .ofResult result = call.refusal f := by
  cases call with
  | configure settings => exact ⟨_, Action.Ends.throw f d, rfl⟩
  | settingsChanged settings =>
    rw [refuse, refusal]
    split
    · exact ⟨_, (Action.Ends.note _ d).bind (Action.Ends.pure _ d), rfl⟩
    · exact ⟨_, Action.Ends.throw f d, rfl⟩
  | shutDown => exact ⟨_, Action.Ends.throw f d, rfl⟩

/-- A call whose backend cannot be built is over at once, and changes nothing. -/
theorem exists_ends_phase_refused {call : Call} {settings : Settings} {f : Failure}
    {d : Deployment} (hcall : call.settings? = some settings)
    (h : medium? settings d = .error f) :
    ∃ result, (call.phase .waiting).Ends d result d ∧ .ofResult result = call.refusal f := by
  obtain ⟨result, hrefuse, hrefusal⟩ := call.exists_ends_refuse f d
  refine ⟨result, fun journal => ?_, hrefusal⟩
  obtain ⟨journal', hrun⟩ := hrefuse journal
  exact ⟨journal', runs_phase_error (t := ⟨d, journal⟩) hcall h hrun⟩

theorem ends_phase_swapped (call : Call) (next previous : Option Backend) (d : Deployment) :
    (call.phase (.swapped next previous)).Ends d (.ok (.done (call.answer next)))
      (closing? previous d) := by
  have hshut : (shutDown? previous).Ends d (.ok ()) (closing? previous d) :=
    fun journal => exists_runs_shutDown? previous ⟨d, journal⟩
  have hend : (do
        if call.settings?.isNone && previous.isSome then Action.note .registryShutDown
        return .done (call.answer next) : Action Deployment Progress).Ends (closing? previous d)
      (.ok (.done (call.answer next))) (closing? previous d) := by
    split
    · exact (Action.Ends.note _ _).bind (Action.Ends.pure _ _)
    · exact Action.Ends.pure _ _
  cases hsettings : call.settings? with
  | none =>
    rw [hsettings] at hend
    simp only [phase, hsettings]
    exact hshut.bind hend
  | some settings =>
    rw [hsettings] at hend
    simp only [phase, hsettings]
    exact (Action.Ends.note _ d).bind (hshut.bind hend)

theorem exists_ends_phase_of_isOver {p : Progress} (h : p.isOver = true) (call : Call)
    (d : Deployment) : ∃ result, (call.phase p).Ends d result d ∧ .ofResult result = p := by
  cases p with
  | waiting => exact nomatch h
  | built b => exact nomatch h
  | swapped next previous => exact nomatch h
  | done answer => exact ⟨_, Action.Ends.pure _ d, rfl⟩
  | failed f => exact ⟨_, Action.Ends.pure _ d, rfl⟩

theorem exists_moves (call : Call) (p : Progress) (d : Deployment) :
    ∃ result d', (call.phase p).Ends d result d' ∧ Moves p d (.ofResult result) d' := by
  have hswap : ∀ next, (swap next).Ends d (.ok d.active) { d with active := next } :=
    fun next journal => ⟨_, runs_swap next ⟨d, journal⟩⟩
  cases p with
  | waiting =>
    cases hsettings : call.settings? with
    | none =>
      have hphase : (call.phase .waiting).Ends d (.ok (.swapped none d.active))
          { d with active := none } := by
        simp only [phase, hsettings]
        exact (hswap none).bind (Action.Ends.pure _ _)
      exact ⟨_, _, hphase, .swaps rfl⟩
    | some settings =>
      cases hmedium : medium? settings d with
      | ok medium =>
        have hphase : (call.phase .waiting).Ends d (.ok (.built ⟨d.built, medium⟩))
            { d with built := d.built + 1 } :=
          fun journal => ⟨journal, runs_phase_ok (t := ⟨d, journal⟩) hsettings hmedium⟩
        exact ⟨_, _, hphase, .builds⟩
      | error f =>
        obtain ⟨result, hends, hrefusal⟩ := exists_ends_phase_refused hsettings hmedium
        exact ⟨result, d, hends, .rests rfl (hrefusal ▸ call.isOver_refusal f)⟩
  | built b => exact ⟨_, _, (hswap (some b)).bind (Action.Ends.pure _ _), .swaps rfl⟩
  | swapped next previous => exact ⟨_, _, ends_phase_swapped call next previous d, .closes⟩
  | done answer => exact ⟨_, _, Action.Ends.pure _ d, .rests rfl rfl⟩
  | failed f => exact ⟨_, _, Action.Ends.pure _ d, .rests rfl rfl⟩

/-! ## A call without others -/

/-- A call from its beginning to its end, and the backend that it answers with. -/
def act : Call → Action Deployment (Option Backend)
  | configure settings => return some (← Registry.configure settings)
  | settingsChanged settings => do
    onSettingsChanged settings
    return none
  | shutDown => do
    Registry.shutDown
    return none

/-- A call in phases that nothing else comes between. -/
def phases (call : Call) : Action Deployment (Option Backend) := do
  let p ← call.phase .waiting
  let p ← call.phase p
  let p ← call.phase p
  return p.answer

/-- What is done with a backend that is built. -/
def install (settings : Settings) (b : Backend) : Action Deployment Unit := do
  let previous ← swap (some b)
  Action.note (.configured settings.backend settings.partition)
  shutDown? previous

theorem exists_runs_install (settings : Settings) (b : Backend) (t : Traced Deployment) :
    ∃ t', (install settings b).Runs t (.ok ()) t' := by
  obtain ⟨journal, hshut⟩ := exists_runs_shutDown? t.state.active
    ⟨{ t.state with active := some b },
      t.journal ++ [.configured settings.backend settings.partition]⟩
  exact ⟨_, (runs_swap (some b) t).bind ((Action.Runs.note _ _).bind hshut)⟩

theorem configure_eq (settings : Settings) :
    Registry.configure settings = do
      let b ← build settings
      install settings b
      return b := by
  simp only [Registry.configure, install, bind_assoc]
  refine bind_congr fun b => bind_congr fun previous => bind_congr fun _ => ?_
  cases previous with
  | none => rfl
  | some b => rfl

theorem runs_configure_error {f : Failure} (h : medium? settings t.state = .error f) :
    (Registry.configure settings).Runs t (.error f) t := by
  rw [configure_eq]
  exact (runs_build_error h).bind_error _

/-- A call whose backend is built goes on to install it. -/
theorem exists_runs_configure_ok {medium : Medium} (h : medium? settings t.state = .ok medium) :
    ∃ t', (Registry.configure settings).Runs t (.ok ⟨t.state.built, medium⟩) t'
      ∧ ∀ call : Call, call.settings? = some settings →
        call.phases.Runs t (.ok (call.answer (some ⟨t.state.built, medium⟩))) t' := by
  obtain ⟨t', hinstall⟩ := exists_runs_install settings ⟨t.state.built, medium⟩
    ⟨{ t.state with built := t.state.built + 1 }, t.journal⟩
  refine ⟨t', ?_, fun call hcall => (runs_phase_ok hcall h).bind ?_⟩
  · rw [configure_eq]
    exact (runs_build_ok h).bind (hinstall.bind (Action.Runs.pure _ t'))
  · have hrest : (do
          let p ← call.phase (.built ⟨t.state.built, medium⟩)
          let p ← call.phase p
          return p.answer)
        = (do
          install settings ⟨t.state.built, medium⟩
          return call.answer (some ⟨t.state.built, medium⟩)) := by
      simp only [phase, install, hcall, bind_assoc, pure_bind, Progress.answer]
      rfl
    rw [hrest]
    exact hinstall.bind (Action.Runs.pure _ t')

theorem phases_configure (settings : Settings) :
    phases (configure settings) = act (configure settings) := by
  funext t
  cases hmedium : medium? settings t.state with
  | error f =>
    have hrefuse : (refuse f (configure settings)).Runs t (.error f) t := Action.Runs.throw f t
    have hphases : (phases (configure settings)).Runs t (.error f) t :=
      (runs_phase_error rfl hmedium hrefuse).bind_error _
    exact hphases.trans ((runs_configure_error hmedium).bind_error _).symm
  | ok medium =>
    obtain ⟨t', hconfigure, hphases⟩ := exists_runs_configure_ok hmedium
    have hact : (act (configure settings)).Runs t (.ok (some ⟨t.state.built, medium⟩)) t' :=
      hconfigure.bind (Action.Runs.pure _ t')
    exact (hphases (configure settings) rfl).trans hact.symm

theorem phases_settingsChanged (settings : Settings) :
    phases (settingsChanged settings) = act (settingsChanged settings) := by
  funext t
  cases hmedium : medium? settings t.state with
  | error f =>
    have hattempt := (runs_configure_error hmedium).attempt
    by_cases hkind : f.kind = .configuration
    · have hnote := Action.Runs.note (.reconfigureFailed settings.backend) t
      have hrefuse : (refuse f (settingsChanged settings)).Runs t (.ok (.done none))
          ⟨t.state, t.journal ++ [.reconfigureFailed settings.backend]⟩ := by
        rw [refuse, if_pos hkind]
        exact hnote.bind (Action.Runs.pure _ _)
      have hchanged : (onSettingsChanged settings).Runs t (.ok ())
          ⟨t.state, t.journal ++ [.reconfigureFailed settings.backend]⟩ := by
        refine hattempt.bind ?_
        dsimp only
        rw [if_pos hkind]
        exact hnote
      have hphases : (phases (settingsChanged settings)).Runs t (.ok none)
          ⟨t.state, t.journal ++ [.reconfigureFailed settings.backend]⟩ :=
        (runs_phase_error rfl hmedium hrefuse).bind (Action.Runs.pure _ _)
      exact hphases.trans (hchanged.bind (Action.Runs.pure none _)).symm
    · have hrefuse : (refuse f (settingsChanged settings)).Runs t (.error f) t := by
        rw [refuse, if_neg hkind]
        exact Action.Runs.throw f t
      have hchanged : (onSettingsChanged settings).Runs t (.error f) t := by
        refine hattempt.bind ?_
        dsimp only
        rw [if_neg hkind]
        exact Action.Runs.throw f t
      have hphases : (phases (settingsChanged settings)).Runs t (.error f) t :=
        (runs_phase_error rfl hmedium hrefuse).bind_error _
      exact hphases.trans (hchanged.bind_error _).symm
  | ok medium =>
    obtain ⟨t', hconfigure, hphases⟩ := exists_runs_configure_ok hmedium
    have hchanged : (onSettingsChanged settings).Runs t (.ok ()) t' :=
      hconfigure.attempt.bind (Action.Runs.pure () t')
    exact (hphases (settingsChanged settings) rfl).trans
      (hchanged.bind (Action.Runs.pure none t')).symm

theorem phases_shutDown : phases shutDown = act shutDown := by
  simp only [phases, phase, act, Registry.shutDown, settings?, bind_assoc, pure_bind]
  refine bind_congr fun previous => ?_
  cases previous with
  | none => rfl
  | some b =>
    refine Eq.trans (bind_congr fun _ => ?_)
      (bind_assoc b.shutDown (fun _ => Action.note .registryShutDown) fun _ => pure none).symm
    rfl

/-- The phases of a call are what it does from its beginning to its end. -/
theorem phases_eq_act (call : Call) : call.phases = call.act := by
  cases call with
  | configure settings => exact phases_configure settings
  | settingsChanged settings => exact phases_settingsChanged settings
  | shutDown => exact phases_shutDown

end Call

end Rapport.Registry
