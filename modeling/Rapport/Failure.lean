import Rapport.Channel
import Rapport.Removal
import Rapport.Settings.Basic
import Rapport.Sql.Obstacle

set_option autoImplicit false

/-! # Failures

Everything that can go wrong, by cause. A `Failure` tells what happened; `kind` sorts the causes,
`account?` names the account concerned, and `message` words them. The failures of the first four
kinds are those that a graph answers with: whoever drives graphs from mail contains them. The others
pass through. -/

namespace Rapport

/-- What a database was asked to do. -/
inductive Task
  | reinforce
  | query
  | read
  | remove (r : Removal)
deriving DecidableEq, Repr

/-- A task in words. -/
def Task.words : Task → String
  | reinforce => "update contact edge"
  | query => "query related contacts"
  | read => "read contact edge"
  | remove (.contact _) => "delete contact node"
  | remove (.between _ _) => "delete contact edge"
  | remove (.source _) => "delete datasource edges"
  | remove .everything => "delete contact graph"
  | remove (.stale _) => "prune contact edges"

/-- The kinds of failure that a rehearsal can stage. -/
inductive Staged
  | backend
  | invalid
  | runtime
  | timeout
deriving DecidableEq, Repr

/-- The numbers that an option can be asked for. -/
inductive NumberKind
  | whole
  | real
deriving DecidableEq, Repr

/-- The parts of a date and a time of day that are bounded, beside the year. -/
inductive DatePart
  | month
  | day
  | hour
  | minute
  | second
  | microsecond
deriving DecidableEq, Repr

/-- The bounds of a part, in words. -/
def DatePart.words : DatePart → String
  | month => "month must be in 1..12"
  | day => "day is out of range for month"
  | hour => "hour must be in 0..23"
  | minute => "minute must be in 0..59"
  | second => "second must be in 0..59"
  | microsecond => "microsecond must be in 0..999999"

/-- What went wrong. -/
inductive Failure
  /-- A reinforcement with a multiplier below one. -/
  | multiplierTooSmall (account : String)
  /-- A channel that would be registered under the name of the combined one. -/
  | reservedChannel
  /-- A channel that would be registered with a weight below one. -/
  | channelTooLight (name : String)
  /-- A channel that nobody registered. -/
  | unknownChannel (name : String)
  /-- No backend is active. -/
  | notConfigured (account : String)
  /-- Nothing builds backends of this kind. -/
  | noBackend (kind : BackendKind)
  /-- The settings give no address of a database. -/
  | urlMissing
  /-- The address of the database is of no use. -/
  | engineUnavailable
  /-- The address is that of a database of another make. -/
  | unsupportedDialect (dialect : String)
  /-- The address gives an option more than once that has to be one number. -/
  | optionRepeated (wanted : NumberKind)
  /-- The address has options for the name of a file, but no such name. -/
  | optionsWithoutFile
  /-- A builder of backends refused. -/
  | builderRefused (reason : String)
  /-- The address of the database cannot be followed. -/
  | unreachable (o : Sql.Obstacle)
  /-- The database does not let the edge table be created. -/
  | tableUnavailable (table : String)
  /-- An edge table would have no name at all. -/
  | tableUnnamed
  /-- The database refused a statement. -/
  | statementRefused (task : Task) (account : String)
  /-- Some pairs of a clique could not be reinforced. -/
  | cliqueIncomplete (failed : Nat) (channel : String) (account : String)
  /-- A query took too long. -/
  | queryTimedOut (limit : Option Seconds) (account : String)
  /-- The time that a query is given is too large to be measured. -/
  | limitTooLarge
  /-- A failure staged by a rehearsal. -/
  | staged (kind : Staged) (account : String)
  /-- A staged query that never ends. -/
  | stalled
  /-- A number that does not fit the integers of the database. -/
  | integerTooLarge
  /-- A date outside the years 1 to 9999. -/
  | dateOutOfRange
  /-- A time span of too many days. -/
  | spanOutOfRange (days : Int)
  /-- A time span of a number of units that is not a number. -/
  | spanUndefined
  /-- A time span of infinitely many units. -/
  | spanInfinite
  /-- A year that there is not. The one before the first is also named for a local time on the very
      first day, whose distance to the epoch cannot be told. -/
  | yearOutOfRange (year : Int)
  /-- A part of a date or a time of day that is out of its bounds. -/
  | datePartOutOfRange (part : DatePart)
  /-- A distance to universal time of a day or more, in days and seconds. -/
  | offsetTooLarge (days seconds : Int)
  /-- The directory that knows an account's addresses does not answer. -/
  | directoryUnavailable
deriving DecidableEq

namespace Failure

/-- The kinds of failure. -/
inductive Kind
  | invalidArgument
  | graphNotFound
  | backendFailure
  | configuration
  | overflow
  | runtime
  | timeout
  | invalidValue
  | wrongType
  | outOfBounds
deriving DecidableEq, Repr

/-- What kind of failure it is. -/
def kind : Failure → Kind
  | multiplierTooSmall _ | reservedChannel | channelTooLight _ | unknownChannel _ =>
    .invalidArgument
  | notConfigured _ => .graphNotFound
  | noBackend _ | urlMissing | engineUnavailable | unsupportedDialect _ | builderRefused _ =>
    .configuration
  | tableUnavailable _ | statementRefused _ _ | cliqueIncomplete _ _ _ | queryTimedOut _ _ =>
    .backendFailure
  | staged .backend _ => .backendFailure
  | staged .invalid _ => .invalidArgument
  | staged .runtime _ => .runtime
  | staged .timeout _ => .timeout
  | stalled => .timeout
  | integerTooLarge | dateOutOfRange | spanOutOfRange _ | spanInfinite | limitTooLarge => .overflow
  | yearOutOfRange _ | datePartOutOfRange _ | offsetTooLarge _ _ | spanUndefined => .invalidValue
  | optionRepeated _ | optionsWithoutFile => .wrongType
  | unreachable .nullInPath | unreachable .nullInHost | unreachable .unknownIsolation =>
    .invalidValue
  | unreachable .portOutOfRange | unreachable .optionTooLarge => .overflow
  | unreachable (.unknownOption _) => .wrongType
  | tableUnnamed => .outOfBounds
  | directoryUnavailable => .runtime

/-- Whether the failure is one that a graph answers with. -/
def isGraphFailure (f : Failure) : Bool :=
  match f.kind with
  | .invalidArgument | .graphNotFound | .backendFailure | .configuration => true
  | .overflow | .runtime | .timeout | .invalidValue | .wrongType | .outOfBounds => false

/-- The account whose graph failed, where the failure tells. -/
def account? : Failure → Option String
  | multiplierTooSmall account | notConfigured account | statementRefused _ account
  | cliqueIncomplete _ _ account | queryTimedOut _ account => some account
  | staged .backend account | staged .invalid account => some account
  | _ => none

/-- The failure in words. -/
def message : Failure → String
  | multiplierTooSmall _ => "edge weight multiplier cannot be < 1"
  | reservedChannel => s!"edge type name '{Channel.combinedName}' is reserved"
  | channelTooLight name => s!"edge type '{name}' must have a weight >= 1"
  | unknownChannel name => s!"unknown edge type '{name}'"
  | notConfigured _ => "contact graph backend is not configured"
  | noBackend kind => s!"no contact graph backend '{kind.word}'"
  | urlMissing => "contact graph backend URL is not configured"
  | engineUnavailable => "unable to create contact graph engine"
  | unsupportedDialect dialect => s!"unsupported contact graph database dialect '{dialect}'"
  | optionRepeated .whole =>
    "int() argument must be a string, a bytes-like object or a real number, not 'tuple'"
  | optionRepeated .real => "float() argument must be a string or a real number, not 'tuple'"
  | optionsWithoutFile => "unsupported operand type(s) for +=: 'NoneType' and 'str'"
  | builderRefused reason => reason
  | unreachable .nullInPath => "embedded null byte"
  | unreachable .nullInHost => "embedded null character"
  | unreachable .portOutOfRange => "connect(): port must be 0-65535."
  | unreachable .optionTooLarge => "Python int too large to convert to C int"
  | unreachable .unknownIsolation =>
    "isolation_level string must be '', 'DEFERRED', 'IMMEDIATE', or 'EXCLUSIVE'"
  | unreachable (.unknownOption name) => s!"connect() got an unexpected keyword argument '{name}'"
  | tableUnavailable table => s!"unable to create edge table {table}"
  | tableUnnamed => "string index out of range"
  | statementRefused task _ => s!"unable to {task.words}"
  | cliqueIncomplete failed channel _ =>
    s!"unable to update {failed} contact pairs of type '{channel}'"
  | queryTimedOut limit _ =>
    let time := match limit with | some t => t.text | none => "None"
    s!"related contacts query timed out after {time}s"
  | limitTooLarge => "int too large to convert to float"
  | staged _ _ => "injected failure"
  | stalled => ""
  | integerTooLarge => "Python int too large to convert to SQLite INTEGER"
  | dateOutOfRange => "date value out of range"
  | spanOutOfRange days =>
    if -0x80000000 ≤ days ∧ days < 0x80000000 then s!"days={days}; must have magnitude <= 999999999"
    else "Python int too large to convert to C int"
  | spanUndefined => "cannot convert float NaN to integer"
  | spanInfinite => "cannot convert float infinity to integer"
  | yearOutOfRange year => s!"year {year} is out of range"
  | datePartOutOfRange part => part.words
  | offsetTooLarge days seconds =>
    let rest := if seconds = 0 then "" else s!", seconds={seconds}"
    "offset must be a timedelta strictly between -timedelta(hours=24) and timedelta(hours=24), "
      ++ s!"not datetime.timedelta(days={days}{rest})."
  | directoryUnavailable => "directory unavailable"

end Failure

end Rapport
