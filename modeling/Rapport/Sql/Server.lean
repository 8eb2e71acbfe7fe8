import Rapport.Numeral.Lenient
import Rapport.Sql.Options

set_option autoImplicit false

/-! # Servers

The servers that an address names. One is named in the address itself; the options may name others
in its place, in one of two ways:

    host=a,b&port=1,2        host=a:1&host=b:2

Either way several servers need a name and a port each. -/

namespace Rapport.Sql

open Rapport.Text

/-- A server, as far as it is named. -/
structure Server where
  host : List Char := []
  port : Option Int := none
deriving DecidableEq, Repr

namespace Server

/-! ## Servers among the options -/

/-- The hosts that options name, and the texts of their ports where these stand beside the hosts. -/
structure Naming where
  hosts : List (List Char) := []
  ports : Option (List (List Char)) := none
deriving DecidableEq, Repr

/-- A character of the names that may be followed by a port. -/
def isHostLetter (c : Char) : Bool := c.isAlphanum || c == '-' || c == '.'

/-- A single host with a port behind a colon. A line may end behind it. -/
def readPair (cs : List Char) : Option Naming := do
  let (host, port) ← splitFirst? ':' cs
  let port := if port.getLast? = some '\n' then port.dropLast else port
  if host.all isHostLetter && port.all (fun c => (digitValue? c).isSome) then
    some ⟨[host], some [port]⟩
  else none

/-- Several hosts with a port behind a colon each, or none. What stands behind a second colon does
    not count, unless every host has one. -/
def readPairs (hosts : List (List Char)) : Except Failure Naming :=
  if hosts.all fun host => decide (2 ≤ host.count ':') then .error .engineUnavailable
  else .ok
    { hosts := hosts.map (·.takeWhile (· ≠ ':'))
      ports := some (hosts.map fun host => ((split ':' host)[1]?).getD []) }

/-- The hosts that options name. -/
def readHosts (options : Options) : Except Failure Naming :=
  match (options.find? "host").map (·.map String.toList) with
  | none | some [] => .ok {}
  | some [text] =>
    let list : Naming := ⟨split ',' text, none⟩
    if options.contains "port" || text.contains ',' then .ok list
    else .ok ((readPair text).getD list)
  | some hosts => readPairs hosts

/-- The texts of the ports that options name. -/
def readPorts (options : Options) (naming : Naming) : Except Failure (List (List Char)) :=
  match (options.find? "port").map (·.map String.toList) with
  | none | some [] => .ok (naming.ports.getD [])
  | some texts =>
    if naming.ports.isSome then .error .engineUnavailable
    else
      match texts with
      | [text] => .ok (split ',' text)
      | _ => .ok texts

/-- Read a port. An empty text names none. -/
def readPort (text : List Char) : Except Failure (Option Int) :=
  if text.isEmpty then .ok none
  else
    match Numeral.readInt (String.ofList text) with
    | some n => .ok (some n)
    | none => .error .engineUnavailable

/-- The hosts and the ports that options name: as many of the one as of the other, unless there are
    none of one kind. Ports without hosts are for the one server of the address. -/
def readNames (options : Options) : Except Failure (List (List Char) × List (Option Int)) := do
  let naming ← readHosts options
  let ports ← (← readPorts options naming).mapM readPort
  let count := if naming.hosts.isEmpty then 1 else naming.hosts.length
  if ports.isEmpty || ports.length == count then return (naming.hosts, ports)
  else throw .engineUnavailable

/-- The servers of an address, given the hosts and ports that its options name. -/
def choose (a : Address) (hosts : List (List Char)) (ports : List (Option Int)) :
    Except Failure (List Server) :=
  let port := (ports.head?.join).orElse fun _ => a.port
  match hosts with
  | [] => .ok [⟨a.host, port⟩]
  | [host] => .ok [⟨host, port⟩]
  | _ =>
    if hosts.any (·.isEmpty) || decide (ports.length < hosts.length)
      || ports.any (fun p => p.getD 0 == 0) then .error .engineUnavailable
    else .ok ((hosts.zip ports).map fun (host, port) => ⟨host, port⟩)

/-! ## Hosts given by number -/

/-- One of the four numbers of a host. -/
def isOctet (cs : List Char) : Bool :=
  !cs.isEmpty && cs.all Char.isDigit && decide (cs.length ≤ 3)
    && decide (Numeral.ofDigits cs ≤ 255) && (cs.head? != some '0' || cs.length == 1)

/-- A host given by four numbers. -/
def isDotted (cs : List Char) : Bool :=
  let parts := split '.' cs
  parts.length == 4 && parts.all isOctet

/-- One of the groups between colons. -/
def isGroup (cs : List Char) : Bool :=
  !cs.isEmpty && decide (cs.length ≤ 4) && cs.all fun c => (hexValue? c).isSome

/-- How many groups some parts between colons make, the last of which may be four numbers in the
    place of two groups; none if one of them is no group. -/
def groupCount : List (List Char) → Option Nat
  | [] => some 0
  | [part] => if isGroup part then some 1 else if isDotted part then some 2 else none
  | part :: rest => if isGroup part then (groupCount rest).map (· + 1) else none

/-- What stands before the first two colons in a row, and what after them. -/
def splitGap? : List Char → Option (List Char × List Char)
  | ':' :: ':' :: rest => some ([], rest)
  | c :: rest => (splitGap? rest).map fun (before, after) => (c :: before, after)
  | [] => none

/-- A host given by eight groups. Two colons stand for any that are left out. -/
def isGrouped (cs : List Char) : Bool :=
  let parts (cs : List Char) : List (List Char) := if cs.isEmpty then [] else split ':' cs
  match splitGap? cs with
  | none => groupCount (split ':' cs) == some 8
  | some (before, after) =>
    let first := parts before
    first.all isGroup && match groupCount (parts after) with
      | some n => decide (first.length + n ≤ 7)
      | none => false

/-- Whether a host is given by number, so that its name need not be looked up. -/
def isNumeric (host : List Char) : Bool := isDotted host || isGrouped host

/-! ## Obstacles -/

/-- What stands in the way of a connection to a server. -/
def obstacle? (s : Server) : Option Obstacle :=
  if s.host.contains '\x00' && !s.host.contains '%' && s.host.head? != some '/' then
    some .nullInHost
  else
    let port := s.port.getD 5432
    if isNumeric s.host && !(decide (0 ≤ port) && decide (port ≤ 65535)) then some .portOutOfRange
    else none

end Server

end Rapport.Sql
