import Rapport.Graph.Relational
import Rapport.Graph.Rehearsal

set_option autoImplicit false

/-! # The registry of backends

A `Deployment` is an installation at work: the backend that is active, and whatever the backends
built so far keep. New settings build a new backend, which takes the place of the active one; the
old one is shut down afterwards. Graphs that a backend has handed out go on working with what that
backend keeps, whichever is active.

`configure` runs through the phases `build`, `swap` and `Backend.shutDown` one after the other.
Nothing else comes between the two ends of a phase, but other calls may run between two phases. -/

namespace Rapport

/-! ## Backends -/

/-- Where a backend keeps its stores: on a shelf that all share, or on one of its own. -/
inductive Shelf
  | shared
  | own (serial : Nat)
deriving DecidableEq, Repr

/-- What a backend keeps graphs in. -/
inductive Medium
  | memory (shelf : Shelf)
  | database (engine : Sql.Engine) (layout : Layout)
  /-- Memory, with failures on demand. -/
  | rehearsal (shelf : Shelf) (faults : Rehearsal)
deriving DecidableEq, Repr

/-- A backend. No two have the same number. -/
structure Backend where
  serial : Nat
  medium : Medium
deriving DecidableEq, Repr

/-- How backends of a kind are built. -/
inductive Builder
  /-- With a store of their own. -/
  | memory
  /-- On the database that the settings name. -/
  | sql
  /-- With one store for all. -/
  | shared
  /-- Not at all. -/
  | refusing (reason : String)
  /-- With a store of their own, and failures on demand. -/
  | rehearsal (faults : Rehearsal)
deriving DecidableEq, Repr

/-- Build what a backend of a given number keeps graphs in. -/
def Builder.build (settings : Settings) (serial : Nat) : Builder → Except Failure Medium
  | memory => .ok (.memory (.own serial))
  | shared => .ok (.memory .shared)
  | refusing reason => .error (.builderRefused reason)
  | rehearsal faults => .ok (.rehearsal (.own serial) faults)
  | sql =>
    match settings.backendUrl with
    | none | some "" => .error .urlMissing
    | some url => do
      return .database (← Sql.Engine.ofUrl url) ⟨settings.partition, settings.tableStem⟩

/-- The builders of an installation that asks for no others. -/
def defaultBuilders : List (BackendKind × Builder) := [(.memory, .memory), (.sql, .sql)]

/-! ## Deployments -/

/-- A database that exists: a file, or the memory of a backend's engine. -/
inductive Place
  | file (path : String)
  | engine (serial : Nat)
deriving DecidableEq, Repr

/-- An installation at work. -/
structure Deployment where
  builders : List (BackendKind × Builder) := defaultBuilders
  /-- The directories that files can be created in. -/
  directories : List String := []
  active : Option Backend := none
  /-- How many backends have been built. -/
  built : Nat := 0
  stores : Keyed Shelf Store := .empty
  databases : Keyed Place Sql.Database := .empty
  /-- The tables that each backend knows to be ready. -/
  ready : Keyed Nat (List String) := .empty
deriving DecidableEq

namespace Deployment

/-- The store on a shelf. -/
def store (d : Deployment) (shelf : Shelf) : Store := (d.stores.find? shelf).getD {}

def setStore (shelf : Shelf) (s : Store) (d : Deployment) : Deployment :=
  { d with stores := d.stores.insert shelf s }

/-- The longest name of a file, in bytes, that leaves room for the name of the journal that the
    database keeps beside it. -/
def longestName : Nat := 247

/-- Whether a file can be created at a path. -/
def canHold (d : Deployment) (path : List Char) : Bool :=
  d.directories.contains (String.ofList (Path.directory path))
    && decide ((String.ofList (Path.name path)).utf8ByteSize ≤ longestName)

/-- The place of a database that a backend's engine can reach. -/
def place? (d : Deployment) (serial : Nat) : Sql.Location → Option Place
  | .file path access =>
    if d.canHold path.toList && (access.creates || d.databases.contains (.file path)) then
      some (.file path)
    else none
  | .memory => some (.engine serial)
  | .server | .nowhere => none

/-- The database of a backend as the backend sees it. -/
def connection (d : Deployment) (serial : Nat) (engine : Sql.Engine) : Connection where
  obstacle := engine.obstacle
  database := (d.place? serial engine.location).map fun p => (d.databases.find? p).getD {}
  isWritable := engine.location.isWritable
  ready := (d.ready.find? serial).getD []

def setConnection (serial : Nat) (engine : Sql.Engine) (c : Connection) (d : Deployment) :
    Deployment :=
  { d with
    ready := d.ready.insert serial c.ready
    databases := match engine.obstacle, d.place? serial engine.location, c.database with
      | none, some place, some db => d.databases.insert place db
      | _, _, _ => d.databases }

/-- Whether there is a directory of a name that ends in a slash: one that files can be created in,
    or one above it. -/
def isDirectory (d : Deployment) (name : List Char) : Bool :=
  d.directories.any fun directory => name.isPrefixOf directory.toList

/-- The database in the file that a path leads to. -/
def fileAt? (d : Deployment) (path : String) : Option Sql.Database := do
  let file ← Path.follow? d.isDirectory path.toList
  d.databases.find? (.file (String.ofList file))

end Deployment

namespace Backend

/-- The graph of an account. -/
def graph (b : Backend) (account : String) : Graph Deployment :=
  match b.medium with
  | .memory shelf =>
    (Graph.inMemory account).within (Deployment.store · shelf) (Deployment.setStore shelf)
  | .rehearsal shelf faults =>
    (Graph.inRehearsal faults account).within (Deployment.store · shelf)
      (Deployment.setStore shelf)
  | .database engine layout =>
    (Graph.inDatabase layout account engine.waits).within (Deployment.connection · b.serial engine)
      (Deployment.setConnection b.serial engine)

/-- Shut a backend down. What is kept in files stays, and so does what is kept in stores; an engine
    that keeps its database in memory loses it. -/
def shutDown (b : Backend) : Action Deployment Unit :=
  match b.medium with
  | .memory _ | .rehearsal _ _ => Action.note .memoryShutDown
  | .database engine _ => do
    if engine.location = .memory then
      Action.update fun d => { d with databases := d.databases.insert (.engine b.serial) {} }
    Action.note (.databaseShutDown engine.dialect.word)

end Backend

/-! ## Life cycle -/

namespace Registry

/-- Build the backend that the settings ask for. Nothing that is at work is touched. -/
def build (settings : Settings) : Action Deployment Backend := do
  let d ← Action.state
  match d.builders.lookup settings.backend with
  | none => throw (.noBackend settings.backend)
  | some builder =>
    let medium ← Action.ofExcept (builder.build settings d.built)
    Action.update fun d => { d with built := d.built + 1 }
    return ⟨d.built, medium⟩

/-- Make another backend the active one, or none, and tell which one was. -/
def swap (next : Option Backend) : Action Deployment (Option Backend) := do
  let d ← Action.state
  Action.update fun d => { d with active := next }
  return d.active

/-- Put the settings to work: build their backend, make it the active one, and shut down the one
    that was. -/
def configure (settings : Settings) : Action Deployment Backend := do
  let backend ← build settings
  let previous ← swap (some backend)
  Action.note (.configured settings.backend settings.partition)
  match previous with
  | some b => b.shutDown
  | none => pure ()
  return backend

/-- Put new settings to work. Where they are of no use the backend stays as it is, and the journal
    says so. -/
def onSettingsChanged (settings : Settings) : Action Deployment Unit := do
  match ← (configure settings).attempt with
  | .ok _ => return ()
  | .error f =>
    if f.kind = .configuration then Action.note (.reconfigureFailed settings.backend) else throw f

/-- The graph of an account, from the active backend. -/
def graph (account : String) : Action Deployment (Graph Deployment) := do
  match (← Action.state).active with
  | some b => return b.graph account
  | none => throw (.notConfigured account)

/-- Shut down the active backend, and leave none active. -/
def shutDown : Action Deployment Unit := do
  match ← swap none with
  | some b =>
    b.shutDown
    Action.note .registryShutDown
  | none => return ()

end Registry

end Rapport
