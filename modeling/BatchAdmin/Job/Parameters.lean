/-
Job parameters as a line of text: `key=value, key=value`.

The line is cut at every comma; segments are trimmed and blank ones
skipped. A segment is cut at its first `=`, so a value may hold more of
them; key and value are trimmed, and a key must not be empty. Of two
values for a key the later one counts.
-/
import BatchAdmin.Text.Blank
import BatchAdmin.Text.Cut
import BatchAdmin.Dict
import BatchAdmin.Failure

namespace BatchAdmin.Parameters

open Text

/-- What is wrong with a line of parameters. -/
inductive Fault where
  | noEquals (segment : List Char)
  | noKey (segment : List Char)
  deriving DecidableEq, Repr

/-- A fault in words. -/
def Fault.detail : Fault → String
  | .noEquals s => "expected key=value, got " ++ String.ofList s
  | .noKey s => "missing key in " ++ String.ofList s

/-- The segments of a line, trimmed, without the blank ones. -/
def segments (line : List Char) : List (List Char) :=
  ((pieces (· == ',') line).map trim).filter fun s => !s.isEmpty

/-- The key and the value of a segment. -/
def readSegment (segment : List Char) : Except Fault (String × String) :=
  match cut '=' segment with
  | none => .error (.noEquals segment)
  | some (key, value) =>
      let key := trim key
      if key.isEmpty then .error (.noKey segment)
      else .ok (String.ofList key, String.ofList (trim value))

/-- The pairs of a line, in order; the first bad segment decides. -/
def readPairs (line : List Char) : Except Fault (List (String × String)) :=
  (segments line).mapM readSegment

/-- The parameters a line spells out. -/
def read (line : String) : Answer Dict :=
  match readPairs line.toList with
  | .ok pairs => .ok (.ofList pairs)
  | .error fault => .error (.invalidParameters fault.detail)

end BatchAdmin.Parameters
