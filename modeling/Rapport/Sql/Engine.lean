import Rapport.Sql.Location
import Rapport.Sql.Server
import Rapport.Text.Quoted

set_option autoImplicit false

/-! # Engines

An engine is what the address of a database makes of it: the make of the database, the driver that
talks to it, and where it is. Only drivers that do not block are of use. `Engine.ofUrl` reads the
options that the driver takes and finds the place of the database; whether anything is there shows
when the engine is put to work. -/

namespace Rapport.Sql

open Rapport.Text

/-- The makes of database that can hold edge tables. -/
inductive Dialect
  | postgresql
  | sqlite
deriving DecidableEq, Repr

/-- The word for a make. -/
def Dialect.word : Dialect → String
  | postgresql => "postgresql"
  | sqlite => "sqlite"

/-- A database that can be talked to. -/
structure Engine where
  dialect : Dialect
  driver : String
  location : Location
  /-- What every attempt to connect meets. -/
  obstacle : Option Obstacle := none
  /-- The path of a file as the address writes it. -/
  path : Option String := none
deriving DecidableEq, Repr

/-- Whether anything has to be waited for. An address that cannot be followed to a server is found
    out at once. -/
def Engine.waits (e : Engine) : Bool := e.dialect != .postgresql || e.obstacle.isNone

/-! ## Databases in files -/

/-- The options that are for the driver of files, and not part of the name of a file. -/
def fileOptions : List String :=
  ["uri", "timeout", "isolation_level", "detect_types", "check_same_thread", "cached_statements"]

/-- The value of an option as part of a name: several are written as a list. -/
def optionText (values : List String) : String :=
  match values with
  | [value] => value
  | _ => "(" ++ String.intercalate ", " (values.map quoted) ++ ")"

/-- The long form of a name: the name with the options that are not for the driver behind it. -/
def longName (a : Address) : Except Failure (List Char) :=
  let rest := (a.options.filter fun name _ => !fileOptions.contains name).entries
  let written := (rest.mergeSort fun x y => decide (x.1 ≤ y.1)).map fun (name, values) =>
    name ++ "=" ++ optionText values
  match a.database, written with
  | some name, [] => .ok name
  | some name, _ => .ok (name ++ '?' :: (String.intercalate "&" written).toList)
  | none, [] => .ok "None".toList
  | none, _ => .error .optionsWithoutFile

/-- Whether a number fits the options of the driver. -/
def fitsOption (n : Option Int) : Bool :=
  n.all fun n => decide (-0x80000000 ≤ n) && decide (n < 0x80000000)

/-- The engine of a database in a file or in memory. It has no user, password, host or port. -/
def Engine.ofFile (driver : String) (a : Address) : Except Failure Engine := do
  if !(a.user.isEmpty && a.password.isEmpty && a.host.isEmpty && a.port.getD 0 == 0) then
    throw .engineUnavailable
  let long ← a.options.truth? "uri"
  let _ ← a.options.real? "timeout"
  let types ← a.options.whole? "detect_types"
  let _ ← a.options.truth? "check_same_thread"
  let statements ← a.options.whole? "cached_statements"
  let name ← if long = some true then longName a else .ok (a.database.getD [])
  let isolation := (a.options.find? "isolation_level").any fun values => decide (1 < values.length)
  let obstacle : Option Obstacle :=
    if !fitsOption types then some .optionTooLarge
    else if isolation then some .unknownIsolation
    else if !fitsOption statements then some .optionTooLarge
    else if name.contains '\x00' then some .nullInPath
    else none
  return {
    dialect := .sqlite
    driver
    location := if long = some true then Location.ofLongName name else Location.ofName name {}
    obstacle
    path := a.database.map String.ofList }

/-! ## Databases on servers -/

/-- The options that the driver of servers knows. -/
def serverOptions : List String :=
  ["dsn", "host", "port", "user", "password", "passfile", "service", "servicefile", "database",
    "loop", "timeout", "statement_cache_size", "max_cached_statement_lifetime",
    "max_cacheable_statement_size", "command_timeout", "ssl", "direct_tls", "connection_class",
    "record_class", "server_settings", "target_session_attrs", "krbsrvname", "gsslib",
    "prepared_statement_cache_size", "prepared_statement_name_func", "async_fallback",
    "async_creator_fn"]

/-- The engine of a database on a server, or on one of several. -/
def Engine.ofServer (driver : String) (a : Address) : Except Failure Engine := do
  let (hosts, ports) ← Server.readNames a.options
  let _ ← a.options.whole? "prepared_statement_cache_size"
  let servers ← Server.choose a hosts ports
  let unknown := a.options.keys.find? fun name => !serverOptions.contains name
  return {
    dialect := .postgresql
    driver
    location := .server
    obstacle := (unknown.map .unknownOption).or (servers.findSome? Server.obstacle?) }

/-- Check the options for the driver of a database that is not known here. -/
def checkForeign (options : Options) : Except Failure Unit := do
  let _ ← options.truth? "compress"
  let _ ← options.whole? "connect_timeout"
  let _ ← options.whole? "read_timeout"
  let _ ← options.whole? "write_timeout"
  let _ ← options.whole? "client_flag"
  let _ ← options.truth? "local_infile"
  let _ ← options.truth? "use_unicode"
  let _ ← options.truth? "ssl_check_hostname"
  return ()

/-! ## Engines of addresses -/

/-- The drivers there are, and the make of database each talks to. Of the last two no dialect is
    known here. -/
def drivers : List (String × Option Dialect) :=
  [("postgresql+asyncpg", some .postgresql), ("sqlite+aiosqlite", some .sqlite),
    ("mysql+aiomysql", none), ("mariadb+aiomysql", none)]

/-- The make that is named when a driver talks to one of no use. -/
def makeOf (driver : String) : String := String.ofList (driver.toList.takeWhile (· ≠ '+'))

/-- An address whose driver is left to the library gets the one that does not block. -/
def withDriver (url : List Char) : List Char :=
  let bare := "postgresql://".toList
  if bare.isPrefixOf url then "postgresql+asyncpg://".toList ++ url.drop bare.length else url

/-- The driver that an address begins with, and what follows it. -/
def driverOf? (url : List Char) : Option (String × Option Dialect × List Char) :=
  drivers.findSome? fun (driver, dialect) =>
    let start := driver.toList ++ "://".toList
    if start.isPrefixOf url then some (driver, dialect, url.drop start.length) else none

/-- The engine that an address makes. There are no plugins. -/
def Engine.ofUrl (url : String) : Except Failure Engine :=
  match driverOf? (withDriver url.toList) with
  | none => .error .engineUnavailable
  | some (driver, dialect, rest) =>
    match Address.read rest with
    | none => .error .engineUnavailable
    | some a =>
      if a.options.contains "plugin" then .error .engineUnavailable
      else
        match dialect with
        | some .postgresql => Engine.ofServer driver a
        | some .sqlite => Engine.ofFile driver a
        | none => do
          checkForeign a.options
          throw (.unsupportedDialect (makeOf driver))

end Rapport.Sql
