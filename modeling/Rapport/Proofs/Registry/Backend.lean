import Rapport.Registry
import Rapport.Proofs.Request

set_option autoImplicit false

/-! # What the graphs of a backend read and write

A backend has a `Home`: the shelf that its store is on, or the place of its database. Its graphs see
what is kept there, and of a database also which tables the backend knows to be ready
(`Backend.view`). What a graph answers and what it writes depends on this alone
(`serve_of_view_eq`), and it writes nowhere else (`kept_put_of_ne`, `find?_ready_put_of_ne`).
Backends that share a home see what the others write.

Shutting a backend down changes nothing, unless the backend `isVolatile`: if its database is in the
memory of its engine, nothing is left of that (`view_closing_self`). -/

namespace Rapport

/-! ## Graphs in a part of a state -/

section Within

variable {σ τ α β : Type} (read : τ → σ) (write : σ → τ → τ)

theorem Action.outcome_within (act : Action σ α) (u : τ) :
    (act.within read write).outcome u = ((act.outcome (read u)).1,
      ⟨write (act.outcome (read u)).2.state u, (act.outcome (read u)).2.journal⟩) := rfl

/-- An answer may be passed on inside or outside of the part of the state. -/
theorem Action.within_map (act : Action σ α) (f : α → β) :
    (do let a ← act.within read write; return f a : Action τ β)
      = (do let a ← act; return f a : Action σ β).within read write := by
  funext t
  have hact : act.Runs ⟨read t.state, t.journal⟩ _ _ := rfl
  exact ((hact.within read write).map f).trans ((hact.map f).within read write).symm

theorem Graph.serve_within (g : Graph σ) (q : Request) :
    (g.within read write).serve q = (g.serve q).within read write := by
  cases q with
  | reinforce a b r =>
    exact Action.within_map read write (g.reinforce a b r) fun _ => Answer.done
  | clique contacts r =>
    exact Action.within_map read write (g.clique contacts r) fun _ => Answer.done
  | remove what => exact Action.within_map read write (g.remove what) fun _ => Answer.done
  | bond a b relation => exact Action.within_map read write (g.bond? a b relation) Answer.bond
  | related q => exact Action.within_map read write (g.related q) Answer.related

end Within

/-! ## Homes -/

/-- The place of the database that the engine of a numbered backend is for, whether or not there is
    one. -/
def Sql.Location.target? (serial : Nat) : Sql.Location → Option Place
  | .file path _ => some (.file path)
  | .memory => some (.engine serial)
  | .server | .nowhere => none

/-- Where graphs are kept. -/
inductive Home
  | shelf (s : Shelf)
  | place (p : Place)
deriving DecidableEq

namespace Backend

/-- Where the graphs of a backend are kept. A server is out of sight. -/
def home? (b : Backend) : Option Home :=
  match b.medium with
  | .memory shelf | .rehearsal shelf _ => some (.shelf shelf)
  | .database engine _ => (engine.location.target? b.serial).map .place

/-- Whether a backend is another one, or has the same home. -/
def shares (b b' : Backend) : Bool := b = b' || b'.home?.isSome && b.home? = b'.home?

theorem home?_eq_of_shares {b b' : Backend} (h : b.shares b' = true) : b.home? = b'.home? := by
  rw [shares, Bool.or_eq_true, Bool.and_eq_true, decide_eq_true_eq, decide_eq_true_eq] at h
  rcases h with rfl | ⟨_, hhome⟩
  · rfl
  · exact hhome

theorem home?_ne_of_not_shares {b b' : Backend} (h : ¬b.shares b' = true) {home : Home}
    (hhome : home ∈ b'.home?) : b.home? ≠ some home := by
  rw [shares, Bool.or_eq_true, Bool.and_eq_true, decide_eq_true_eq, decide_eq_true_eq,
    Option.mem_def.1 hhome] at h
  exact fun heq => h (Or.inr ⟨rfl, heq⟩)

end Backend

namespace Deployment

variable {d d' : Deployment} {serial : Nat} {engine : Sql.Engine}

/-- What is kept in a home. -/
def kept (d : Deployment) : Home → Option Store ⊕ Option Sql.Database
  | .shelf s => .inl (d.stores.find? s)
  | .place p => .inr (d.databases.find? p)

theorem target?_of_place? {location : Sql.Location} {p : Place}
    (h : d.place? serial location = some p) : location.target? serial = some p := by
  cases location with
  | file path access =>
    rw [place?] at h
    split at h
    · exact h
    · exact nomatch h
  | memory => exact h
  | server => exact nomatch h
  | nowhere => exact nomatch h

theorem place?_congr {location : Sql.Location} (hdirectories : d.directories = d'.directories)
    (hdatabases : ∀ p ∈ location.target? serial, d.databases.find? p = d'.databases.find? p) :
    d.place? serial location = d'.place? serial location := by
  cases location with
  | file path access =>
    rw [place?, canHold, Keyed.contains, hdirectories, hdatabases (.file path) rfl]
    rfl
  | memory => rfl
  | server => rfl
  | nowhere => rfl

/-- What a backend sees of a database depends on nothing but that database and the tables that the
    backend knows to be ready. -/
theorem connection_congr (hdirectories : d.directories = d'.directories)
    (hdatabases : ∀ p ∈ engine.location.target? serial, d.databases.find? p = d'.databases.find? p)
    (hready : d.ready.find? serial = d'.ready.find? serial) :
    d.connection serial engine = d'.connection serial engine := by
  have hdatabase : (d.place? serial engine.location).map (fun p => (d.databases.find? p).getD {})
      = (d'.place? serial engine.location).map fun p => (d'.databases.find? p).getD {} := by
    rw [place?_congr hdirectories hdatabases]
    cases hp : d'.place? serial engine.location with
    | none => rfl
    | some p => rw [Option.map_some, Option.map_some, hdatabases p (target?_of_place? hp)]
  rw [connection, connection, hdatabase, hready]

end Deployment

namespace Backend

variable {b b' : Backend} {d d' : Deployment} {v : Store ⊕ Connection}

/-! ## Views -/

/-- What the graphs of a backend see. -/
def view (b : Backend) (d : Deployment) : Store ⊕ Connection :=
  match b.medium with
  | .memory shelf | .rehearsal shelf _ => .inl (d.store shelf)
  | .database engine _ => .inr (d.connection b.serial engine)

/-- Put something else in place of what the graphs of a backend see. -/
def put (b : Backend) (v : Store ⊕ Connection) (d : Deployment) : Deployment :=
  match b.medium, v with
  | .memory shelf, .inl s | .rehearsal shelf _, .inl s => d.setStore shelf s
  | .database engine _, .inr c => d.setConnection b.serial engine c
  | _, _ => d

theorem view_congr (hdirectories : d.directories = d'.directories)
    (hkept : ∀ home ∈ b.home?, d.kept home = d'.kept home)
    (hready : d.ready.find? b.serial = d'.ready.find? b.serial) : b.view d = b.view d' := by
  obtain ⟨serial, medium⟩ := b
  cases medium with
  | memory shelf | rehearsal shelf faults =>
    have hstore := Sum.inl.inj (hkept (.shelf shelf) rfl)
    exact congrArg (fun found => Sum.inl (Option.getD found {})) hstore
  | database engine layout =>
    refine congrArg Sum.inr (Deployment.connection_congr hdirectories (fun p hp => ?_) hready)
    exact Sum.inr.inj (hkept (.place p) (Option.map_eq_some_iff.2 ⟨p, hp, rfl⟩))

/-- What a graph answers, and what it writes, depends on what it sees alone. -/
theorem serve_of_view_eq (h : b.view d = b.view d') (account : String) (q : Request) :
    (((b.graph account).serve q).outcome d).1 = (((b.graph account).serve q).outcome d').1
      ∧ ∃ v, (((b.graph account).serve q).outcome d).2.state = b.put v d
        ∧ (((b.graph account).serve q).outcome d').2.state = b.put v d' := by
  obtain ⟨serial, medium⟩ := b
  cases medium with
  | memory shelf | rehearsal shelf faults =>
    have hstore : d.store shelf = d'.store shelf := Sum.inl.inj h
    rw [graph, Graph.serve_within, Action.outcome_within, Action.outcome_within, hstore]
    exact ⟨rfl, .inl _, rfl, rfl⟩
  | database engine layout =>
    have hconnection : d.connection serial engine = d'.connection serial engine := Sum.inr.inj h
    rw [graph, Graph.serve_within, Action.outcome_within, Action.outcome_within, hconnection]
    exact ⟨rfl, .inr _, rfl, rfl⟩

/-! ## Writing -/

theorem put_cases (b : Backend) (v : Store ⊕ Connection) :
    (∃ shelf s, b.home? = some (.shelf shelf) ∧ ∀ d, b.put v d = d.setStore shelf s)
      ∨ (∃ engine c, b.home? = (engine.location.target? b.serial).map .place
        ∧ ∀ d, b.put v d = d.setConnection b.serial engine c)
      ∨ ∀ d, b.put v d = d := by
  obtain ⟨serial, medium⟩ := b
  cases medium with
  | memory shelf | rehearsal shelf faults =>
    cases v with
    | inl s => exact Or.inl ⟨shelf, s, rfl, fun _ => rfl⟩
    | inr c => exact Or.inr (Or.inr fun _ => rfl)
  | database engine layout =>
    cases v with
    | inl s => exact Or.inr (Or.inr fun _ => rfl)
    | inr c => exact Or.inr (Or.inl ⟨engine, c, rfl, fun _ => rfl⟩)

theorem active_put (b : Backend) (v : Store ⊕ Connection) (d : Deployment) :
    (b.put v d).active = d.active ∧ (b.put v d).built = d.built
      ∧ (b.put v d).directories = d.directories := by
  rcases b.put_cases v with ⟨_, _, _, hput⟩ | ⟨_, _, _, hput⟩ | hput
  all_goals
    rw [hput]
    exact ⟨rfl, rfl, rfl⟩

theorem find?_ready_put_of_ne {serial : Nat} (h : serial ≠ b.serial) :
    (b.put v d).ready.find? serial = d.ready.find? serial := by
  rcases b.put_cases v with ⟨_, _, _, hput⟩ | ⟨_, _, _, hput⟩ | hput
  · rw [hput]
    rfl
  · rw [hput]
    exact (Keyed.find?_insert _ _ _ _).trans (if_neg h)
  · rw [hput]

theorem kept_put_of_ne {home : Home} (h : b.home? ≠ some home) :
    (b.put v d).kept home = d.kept home := by
  rcases b.put_cases v with ⟨shelf, s, hhome, hput⟩ | ⟨engine, c, hhome, hput⟩ | hput
  · rw [hput]
    cases home with
    | shelf shelf' =>
      have hne : shelf' ≠ shelf := fun heq => h (heq ▸ hhome)
      exact congrArg Sum.inl ((Keyed.find?_insert _ _ _ _).trans (if_neg hne))
    | place p => rfl
  · rw [hput]
    cases home with
    | shelf shelf' => rfl
    | place p =>
      refine congrArg Sum.inr ?_
      rw [Deployment.setConnection]
      dsimp only
      split
      · rename_i place db _ hplace _
        have hne : p ≠ place := by
          rintro rfl
          rw [hhome, Deployment.target?_of_place? hplace] at h
          exact h rfl
        rw [Keyed.find?_insert, if_neg hne]
      · rfl
  · rw [hput]

/-- What is the same in two deployments stays the same when the same is written in both. -/
theorem find?_ready_put_congr {serial : Nat} (h : d.ready.find? serial = d'.ready.find? serial) :
    (b.put v d).ready.find? serial = (b.put v d').ready.find? serial := by
  rcases b.put_cases v with ⟨_, _, _, hput⟩ | ⟨_, _, _, hput⟩ | hput
  · rw [hput, hput]
    exact h
  · rw [hput, hput]
    simp only [Deployment.setConnection, Keyed.find?_insert, h]
  · rw [hput, hput]
    exact h

theorem kept_put_congr (hdirectories : d.directories = d'.directories)
    (hkept : ∀ home ∈ b.home?, d.kept home = d'.kept home) {home : Home}
    (h : d.kept home = d'.kept home) : (b.put v d).kept home = (b.put v d').kept home := by
  rcases b.put_cases v with ⟨shelf, s, hhome, hput⟩ | ⟨engine, c, hhome, hput⟩ | hput
  · rw [hput, hput]
    cases home with
    | shelf shelf' =>
      refine congrArg Sum.inl ?_
      simp only [Deployment.setStore, Keyed.find?_insert, Sum.inl.inj h]
    | place p => exact h
  · rw [hput, hput]
    cases home with
    | shelf shelf' => exact h
    | place p =>
      have hplace : d.place? b.serial engine.location = d'.place? b.serial engine.location := by
        refine Deployment.place?_congr hdirectories fun p hp => ?_
        exact Sum.inr.inj (hkept (.place p) (hhome ▸ Option.map_eq_some_iff.2 ⟨p, hp, rfl⟩))
      refine congrArg Sum.inr ?_
      simp only [Deployment.setConnection, hplace]
      split
      · rw [Keyed.find?_insert, Keyed.find?_insert, Sum.inr.inj h]
      · exact Sum.inr.inj h
  · rw [hput, hput]
    exact h

/-! ## Requests -/

/-- No graph has a part in which backend is active and which were built. -/
theorem active_serve (b : Backend) (account : String) (q : Request) (d : Deployment) :
    (((b.graph account).serve q).outcome d).2.state.active = d.active
      ∧ (((b.graph account).serve q).outcome d).2.state.built = d.built := by
  obtain ⟨_, v, hstate, _⟩ := b.serve_of_view_eq (d := d) rfl account q
  rw [hstate]
  exact ⟨(b.active_put v d).1, (b.active_put v d).2.1⟩

/-- Two deployments that are the same to a backend, and to those of some others that share its
    home. -/
structure Alike (b : Backend) (others : List Backend) (d d' : Deployment) : Prop where
  directories : d.directories = d'.directories
  kept : ∀ home ∈ b.home?, d.kept home = d'.kept home
  ready : ∀ b' ∈ others, b'.shares b = true →
    d.ready.find? b'.serial = d'.ready.find? b'.serial

namespace Alike

variable {others : List Backend}

theorem refl (b : Backend) (others : List Backend) (d : Deployment) : Alike b others d d :=
  ⟨rfl, fun _ _ => rfl, fun _ _ _ => rfl⟩

theorem view_eq (h : Alike b others d d') (hb' : b' ∈ others) (hshares : b'.shares b = true) :
    b'.view d = b'.view d' := by
  refine view_congr h.directories (fun home hhome => h.kept home ?_) (h.ready b' hb' hshares)
  rw [← home?_eq_of_shares hshares]
  exact hhome

/-- A request to a graph that shares the home is answered the same way in both. -/
theorem serve (h : Alike b others d d') (hb' : b' ∈ others) (hshares : b'.shares b = true)
    (account : String) (q : Request) :
    (((b'.graph account).serve q).outcome d).1 = (((b'.graph account).serve q).outcome d').1
      ∧ Alike b others (((b'.graph account).serve q).outcome d).2.state
        (((b'.graph account).serve q).outcome d').2.state := by
  obtain ⟨hanswer, v, hstate, hstate'⟩ := serve_of_view_eq (h.view_eq hb' hshares) account q
  refine ⟨hanswer, ?_⟩
  rw [hstate, hstate']
  refine ⟨?_, fun home hhome => ?_, fun b'' hb'' hshares'' => ?_⟩
  · rw [(b'.active_put v d).2.2, (b'.active_put v d').2.2, h.directories]
  · have hhome' := home?_eq_of_shares hshares
    exact kept_put_congr h.directories (fun home hhome => h.kept home (hhome' ▸ hhome))
      (h.kept home hhome)
  · exact find?_ready_put_congr (h.ready b'' hb'' hshares'')

/-- A request to another graph changes nothing of what is the same. -/
theorem serve_left (h : Alike b others d d')
    (hothers : ∀ b₁ ∈ others, ∀ b₂ ∈ others, b₁.serial = b₂.serial → b₁ = b₂)
    (hb' : b' ∈ others) (hshares : ¬b'.shares b = true) (account : String) (q : Request) :
    Alike b others (((b'.graph account).serve q).outcome d).2.state d' := by
  obtain ⟨_, v, hstate, _⟩ := b'.serve_of_view_eq (d := d) rfl account q
  rw [hstate]
  refine ⟨?_, fun home hhome => ?_, fun b'' hb'' hshares'' => ?_⟩
  · rw [(b'.active_put v d).2.2, h.directories]
  · rw [kept_put_of_ne (home?_ne_of_not_shares hshares hhome), h.kept home hhome]
  · have hne : b''.serial ≠ b'.serial := fun heq =>
      hshares (hothers b'' hb'' b' hb' heq ▸ hshares'')
    rw [find?_ready_put_of_ne hne, h.ready b'' hb'' hshares'']

end Alike

/-! ## Shutting down -/

/-- Whether a backend loses its database when it is shut down. -/
def isVolatile (b : Backend) : Bool :=
  match b.medium with
  | .memory _ | .rehearsal _ _ => false
  | .database engine _ => decide (engine.location = .memory)

/-- What is left when a backend has been shut down. -/
def closing (b : Backend) (d : Deployment) : Deployment :=
  if b.isVolatile then { d with databases := d.databases.insert (.engine b.serial) {} } else d

theorem ends_shutDown (b : Backend) (d : Deployment) :
    b.shutDown.Ends d (.ok ()) (b.closing d) := by
  obtain ⟨serial, medium⟩ := b
  cases medium with
  | memory shelf | rehearsal shelf faults => exact Action.Ends.note _ d
  | database engine layout =>
    rw [shutDown, closing, isVolatile]
    dsimp only
    by_cases hmemory : engine.location = .memory
    · rw [if_pos hmemory, if_pos (decide_eq_true hmemory)]
      exact (Action.Ends.update _ d).bind (Action.Ends.note _ _)
    · rw [if_neg hmemory, if_neg (by simpa using hmemory)]
      exact Action.Ends.note _ d

theorem active_closing (b : Backend) (d : Deployment) :
    (b.closing d).active = d.active ∧ (b.closing d).built = d.built := by
  rw [closing]
  split
  · exact ⟨rfl, rfl⟩
  · exact ⟨rfl, rfl⟩

/-- The memory of an engine is the home of a volatile backend. -/
theorem isVolatile_of_home?_eq {serial : Nat} (h : b.home? = some (.place (.engine serial))) :
    b.isVolatile = true ∧ b.serial = serial := by
  obtain ⟨serial', medium⟩ := b
  cases medium with
  | memory shelf | rehearsal shelf faults => exact nomatch h
  | database engine layout =>
    obtain ⟨dialect, driver, location⟩ := engine
    cases location with
    | file path access => exact nomatch h
    | memory => exact ⟨rfl, Place.engine.inj (Home.place.inj (Option.some.inj h))⟩
    | server => exact nomatch h
    | nowhere => exact nomatch h

/-- Shutting down a backend takes nothing from the home of another one. -/
theorem Alike.closing_left {others : List Backend} (h : Alike b others d d')
    (hvolatile : b'.serial = b.serial → b.isVolatile = false) :
    Alike b others (b'.closing d) d' := by
  rw [closing]
  split
  · refine ⟨h.directories, fun home hhome => ?_, h.ready⟩
    cases home with
    | shelf shelf => exact h.kept _ hhome
    | place p =>
      have hne : p ≠ .engine b'.serial := by
        -- The memory of an engine is no one's home but that of its own backend.
        rintro rfl
        obtain ⟨hlost, hserial⟩ := isVolatile_of_home?_eq hhome
        exact Bool.false_ne_true ((hvolatile hserial.symm).symm.trans hlost)
      exact (congrArg Sum.inr ((Keyed.find?_insert _ _ _ _).trans (if_neg hne))).trans
        (h.kept _ hhome)
  · exact h

/-- A connection whose database has nothing in it any more. -/
def blanked (c : Connection) : Connection := { c with database := some {} }

/-- A volatile backend that is shut down keeps nothing but the tables that it takes to be ready. -/
theorem view_closing_self (h : b.isVolatile = true) (d : Deployment) :
    b.view (b.closing d) = (b.view d).map id blanked := by
  obtain ⟨serial, medium⟩ := b
  cases medium with
  | memory shelf | rehearsal shelf faults => exact nomatch h
  | database engine layout =>
    have hmemory : engine.location = .memory := of_decide_eq_true h
    rw [closing, if_pos h]
    refine congrArg Sum.inr ?_
    simp only [Deployment.connection, blanked, hmemory, Deployment.place?, Option.map_some,
      Keyed.find?_insert, if_true, Option.getD_some]

end Backend

end Rapport
