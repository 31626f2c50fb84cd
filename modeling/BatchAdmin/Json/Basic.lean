/-
Documents: the values that requests, answers and settings are made of.

A document is a tree of nothing, truth values, numbers, texts, lists and
objects. Whole numbers and fractional ones are told apart, because a
count may not be given as `1.0`. An object keeps its fields in the order
in which they were written, doubles included: whether a doubled field is
an error or the last one counts is for the reader of the object to say.
-/
import BatchAdmin.Decimal.Basic

namespace BatchAdmin

/-- A document. -/
inductive Json where
  | null
  | bool (b : Bool)
  | whole (n : Int)
  | decimal (x : Decimal)
  | text (s : String)
  | list (items : List Json)
  | object (fields : List (String × Json))
  deriving Repr

namespace Json

/-- A count. -/
def nat (n : Nat) : Json := .whole n

/-- A value that may be missing, written as nothing. -/
def opt {α : Type} (f : α → Json) : Option α → Json
  | some a => f a
  | none => .null

/-- The last field of that name. -/
def lastField? (name : String) (fields : List (String × Json)) :
    Option Json :=
  (fields.reverse.find? fun f => f.1 == name).map (·.2)

/-- The field of that name of an object. -/
def field? (name : String) : Json → Option Json
  | .object fields => lastField? name fields
  | _ => none

/-- More fields behind those of an object. -/
def extended (more : List (String × Json)) : Json → Json
  | .object fields => .object (fields ++ more)
  | other => other

end Json

end BatchAdmin
