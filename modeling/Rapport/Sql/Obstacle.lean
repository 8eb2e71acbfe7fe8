set_option autoImplicit false

/-! # Obstacles

An address may be sound in its form, and yet no driver can do what it asks for. Each attempt to
connect meets the obstacle anew. A database that is merely not there is none. -/

namespace Rapport.Sql

/-- Why a driver cannot follow an address. -/
inductive Obstacle
  /-- The name of its file has a character of code zero. -/
  | nullInPath
  /-- The name of its server has one. -/
  | nullInHost
  /-- No server has a port of that number. -/
  | portOutOfRange
  /-- A number among the options has more than 32 bits. -/
  | optionTooLarge
  /-- The options ask for a kind of isolation that there is not. -/
  | unknownIsolation
  /-- The driver knows no such option. -/
  | unknownOption (name : String)
deriving DecidableEq, Repr

end Rapport.Sql
