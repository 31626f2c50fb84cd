/-
Addresses to listen on: an IP address and a port.

An address of four numbers is followed by a colon and the port; one of
eight groups stands in brackets and may carry a scope.
-/
import BatchAdmin.Text.Ip

namespace BatchAdmin

open Text

/-- An IP address. -/
inductive HostAddress where
  | four (numbers : List Nat)
  | six (groups : List Nat) (scope : Nat)
  deriving DecidableEq, Repr

/-- An address to listen on. -/
structure ListenAddress where
  host : HostAddress
  port : Nat
  deriving DecidableEq, Repr

namespace ListenAddress

open Ip

-- ================================================================= reading

/-- A colon and a port, and nothing after it. -/
def readPort (s : List Char) : Option Nat := do
  let s ← sign ':' s
  let (port, s) ← number false s.length 65536 true s
  if s.isEmpty then some port else none

/-- The address in brackets. -/
def readSix (s : List Char) : Option ListenAddress := do
  let s ← sign '[' s
  let (groups, s) ← eightGroups s
  let (scope, s) ← match s with
    | '%' :: rest => number false rest.length 4294967296 true rest
    | _ => some (0, s)
  let s ← sign ']' s
  let port ← readPort s
  return { host := .six groups scope, port }

/-- The address of four numbers. -/
def readFour (s : List Char) : Option ListenAddress := do
  let (numbers, s) ← fourNumbers s
  let port ← readPort s
  return { host := .four numbers, port }

/-- The address a text names. -/
def read? (text : String) : Option ListenAddress :=
  (readFour text.toList).orElse fun _ => readSix text.toList

-- ================================================================= writing

/-- Eight groups; those that stand for four numbers are written so. -/
def writeSix (groups : List Nat) : List Char :=
  match groups with
  | [0, 0, 0, 0, 0, 65535, g, h] =>
      "::ffff:".toList
        ++ writeFour [g / 256, g % 256, h / 256, h % 256]
  | _ => writeEight groups

/-- An address as text. -/
def text (a : ListenAddress) : String :=
  let port := ':' :: writeNat a.port
  match a.host with
  | .four numbers => String.ofList (writeFour numbers ++ port)
  | .six groups scope =>
      let scope := if scope = 0 then [] else '%' :: writeNat scope
      String.ofList ('[' :: writeSix groups ++ scope ++ ']' :: port)

end ListenAddress

end BatchAdmin
