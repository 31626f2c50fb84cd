/-
The body of a launch request.

A document with the name of the job and, if wanted, its parameters as an
object of texts and as one line of `key=value` pairs; of a parameter
given both ways the object's counts. A known field given twice is
refused, as is any body that does not call itself a document; unknown
fields are passed over. The three fields may also be given as a list,
all of them and in order.
-/
import BatchAdmin.Web.Message
import BatchAdmin.Web.MediaType
import BatchAdmin.Json.Selection
import BatchAdmin.Job.Parameters

namespace BatchAdmin.Web

open Text

/-- What is asked for in a launch request. -/
structure LaunchBody where
  job : String
  parameters : List (String × String)
  /-- Parameters as a line of text. -/
  line : Option String
  deriving DecidableEq, Repr

namespace LaunchBody

/-- Why a body is refused. -/
def refused : Failure := .invalidRequest "not a launch request"

/-- A named text. -/
def pair? : String × Json → Option (String × String)
  | (name, .text value) => some (name, value)
  | _ => none

/-- An object of texts. -/
def texts? : Json → Option (List (String × String))
  | .object fields => fields.mapM pair?
  | _ => none

/-- A text or nothing. -/
def optionalText? : Json → Option (Option String)
  | .null => some none
  | .text s => some (some s)
  | _ => none

/-- The launch request that its three fields make. -/
def ofFields (job parameters line : Option Json) : Option LaunchBody := do
  let .text job ← job | none
  let parameters ← match parameters with
    | some doc => texts? doc
    | none => some []
  let line ← match line with
    | some doc => optionalText? doc
    | none => some none
  return { job, parameters, line }

/-- The names of the fields. -/
def names : List String := ["jobname", "parameters", "jobparameters"]

/-- The launch request of a document. -/
def ofJson : Json → Option LaunchBody
  | .object fields =>
      let under (name : String) := fields.filter fun f => f.1 == name
      if names.any fun name => 1 < (under name).length then none
      else
        let get (name : String) := Json.lastField? name fields
        ofFields (get "jobname") (get "parameters") (get "jobparameters")
  | .list [job, parameters, line] =>
      ofFields (some job) (some parameters) (some line)
  | _ => none

/-- The most octets a document may have. -/
def sizeLimit : Nat := 2097152

/-- The launch request of a request. -/
def read (r : Request) : Answer LaunchBody :=
  let media := (r.header? "content-type").bind MediaType.read?
  if !media.any (·.isDocument) ∨ sizeLimit < r.body.length then
    .error refused
  else
    match ((chars? r.body).bind (Json.selected? names)).bind ofJson with
    | some body => .ok body
    | none => .error refused

/-- The parameters of a launch: those of the line, and over them those
of the object. -/
def effective (b : LaunchBody) : Answer Dict := do
  let fromLine ← match b.line with
    | some line => Parameters.read line
    | none => .ok .empty
  return fromLine.insertAll b.parameters

end LaunchBody

end BatchAdmin.Web
