import Rapport.Numeral.Reading
import Rapport.Settings.Basic
import Rapport.Settings.EnvFile
import Rapport.Text.Lower
import Rapport.Text.Quoted

set_option autoImplicit false

/-! # Loading settings

Settings come from variables of the environment and from a file of variables. A variable of the
environment goes before one of the file; an empty value counts as none. -/

namespace Rapport

/-- Why a variable cannot be used. -/
inductive SettingsError
  /-- It is none of the words that it may be. -/
  | notOneOf (name : String) (choices : List String) (given : String)
  | notInteger (name given : String)
  | notNumber (name given : String)
deriving DecidableEq, Repr

/-- The reason in words. -/
def SettingsError.message : SettingsError → String
  | notOneOf name choices given =>
    let words := String.intercalate ", " choices
    s!"{name} must be one of: {words} (got {Text.quoted given})"
  | notInteger name given => s!"{name} must be an integer: {given}"
  | notNumber name given => s!"{name} must be a number: {given}"

namespace Settings

/-- Where variables are looked up: each source that knows a name has a value for it. -/
abbrev Source : Type := String → Option String

/-- The value of a variable: the first that is not empty. -/
def value? (sources : List Source) (name : String) : Option String :=
  (sources.filterMap fun source => source name).find? (· ≠ "")

/-- Read a word out of a list of choices, in any case and between blanks. -/
def readChoice {α : Type} (choices : List α) (word : α → String) (name given : String) :
    Except SettingsError α :=
  match choices.find? fun a => word a = Text.lower (Text.strip given) with
  | some a => .ok a
  | none => .error (.notOneOf name (choices.map word) given)

/-- The backend that is named, or the one that the address of a database calls for. -/
def loadBackend (sources : List Source) (url : Option String) : Except SettingsError BackendKind :=
  match value? sources "CONTACT_AFFINITY_BACKEND" with
  | some given => readChoice [.memory, .sql] BackendKind.word "CONTACT_AFFINITY_BACKEND" given
  | none => .ok (if url.isSome then .sql else .memory)

def loadPartition (sources : List Source) : Except SettingsError Partition :=
  match value? sources "CONTACT_AFFINITY_INDEX_TYPE" with
  | some given =>
    readChoice [.account, .combined] Partition.word "CONTACT_AFFINITY_INDEX_TYPE" given
  | none => .ok .account

def loadCliqueSize (sources : List Source) : Except SettingsError Int :=
  let name := "CONTACT_AFFINITY_MAX_CLIQUE_SIZE"
  match value? sources name with
  | some given =>
    match Numeral.readInt given with
    | some n => .ok n
    | none => .error (.notInteger name given)
  | none => .ok defaultCliqueSize

/-- The time that a query may take. A time that is not positive is no limit. -/
def loadTimeout (sources : List Source) : Except SettingsError (Option Seconds) :=
  let name := "CONTACT_AFFINITY_QUERY_TIMEOUT"
  match value? sources name with
  | some given =>
    match Numeral.readDecimal given with
    | some d => .ok (if d.isPositive then some (.real d) else none)
    | none => .error (.notNumber name given)
  | none => .ok (some (.real (.ofNat 30)))

/-- Load settings from sources, the first of which goes first. Of several variables that cannot be
    used, the first one read is reported. -/
def load (sources : List Source) : Except SettingsError Settings := do
  let backendUrl := value? sources "CONTACT_AFFINITY_BACKEND_URL"
  let backend ← loadBackend sources backendUrl
  let partition ← loadPartition sources
  let maxCliqueSize ← loadCliqueSize sources
  let queryTimeout ← loadTimeout sources
  let tableStem := (value? sources "CONTACT_AFFINITY_TABLE_PREFIX").getD "contacts"
  return { backend, backendUrl, partition, maxCliqueSize, queryTimeout, tableStem }

/-- Load settings from the environment and from the text of a file of variables, if there is one. -/
def fromEnvironment (environment : Source) (file : Option String) : Except SettingsError Settings :=
  let fromFile := match file with
    | some text => EnvFile.resolve environment (EnvFile.bindings text)
    | none => .empty
  load [environment, fun name => (fromFile.find? name).join]

end Settings

end Rapport
