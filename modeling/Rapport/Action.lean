import Rapport.Journal

set_option autoImplicit false

/-! # Actions

An `Action σ α` works on a state of type `σ`, writes to the journal, and either fails or gives an
`α`. State and journal outlive a failure: what was stored and written before it stays. -/

namespace Rapport

/-- A state, and the journal written so far, oldest entry first. -/
structure Traced (σ : Type) where
  state : σ
  journal : List Journal.Entry := []

/-- A computation on a state that may fail and keeps a journal. -/
abbrev Action (σ α : Type) : Type := ExceptT Failure (StateM (Traced σ)) α

namespace Action

variable {σ τ α : Type}

/-- Run an action on a state with an empty journal. -/
def outcome (act : Action σ α) (s : σ) : Except Failure α × Traced σ := act.run.run ⟨s, []⟩

/-- Write an entry to the journal. -/
def note (e : Journal.Entry) : Action σ Unit :=
  modify fun t => { t with journal := t.journal ++ [e] }

/-- The present state. -/
def state : Action σ σ := return (← get).state

/-- Change the state. -/
def update (f : σ → σ) : Action σ Unit := modify fun t => { t with state := f t.state }

/-- The action that fails or gives an answer without touching anything. -/
def ofExcept (result : Except Failure α) : Action σ α := ExceptT.mk (pure result)

/-- Run an action and look at how it went: the failure, if there was one, is an answer. -/
def attempt (act : Action σ α) : Action σ (Except Failure α) :=
  ExceptT.mk (Except.ok <$> act.run)

/-- Run an action on a part of a larger state. -/
def within (read : τ → σ) (write : σ → τ → τ) (act : Action σ α) : Action τ α :=
  ExceptT.mk fun t =>
    let (result, s) := act.run.run ⟨read t.state, t.journal⟩
    (result, ⟨write s.state t.state, s.journal⟩)

end Action

end Rapport
