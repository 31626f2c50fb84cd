/-
Requests and responses.

A failure becomes a response with a status, its reason code and its
message; of an internal failure the client is told nothing but that
there was one.
-/
import BatchAdmin.Failure
import BatchAdmin.Json.Basic
import BatchAdmin.Text.Octets
import BatchAdmin.Text.Cut

namespace BatchAdmin.Web

open Text

-- ================================================================= requests

/-- A request. -/
structure Request where
  method : String
  /-- Path and query. -/
  uri : String
  headers : List (String × String)
  body : List Octet

/-- A character that the value of a header may show as text. -/
def isShown (c : Char) : Bool :=
  c == '\t' || (0x20 ≤ c.toNat && c.toNat < 0x7F)

/-- The first header of a name, in any case, if it is a text. -/
def Request.header? (r : Request) (name : String) :
    Option (List Char) :=
  (r.headers.find? fun h => lower h.1.toList == name.toList).bind
    fun h => if h.2.toList.all isShown then some h.2.toList else none

-- ================================================================ responses

/-- What a response carries. -/
inductive Body where
  | empty
  | document (doc : Json)
  | plain (text : String)

/-- A response. -/
structure Response where
  status : Nat
  body : Body
  /-- The methods allowed, where another one was used. -/
  allow : Option String

namespace Response

/-- A document. -/
def document (status : Nat) (doc : Json) : Response :=
  ⟨status, .document doc, none⟩

/-- No such route. -/
def notFound : Response := ⟨404, .empty, none⟩

/-- A route, but not for this method. -/
def notAllowed (allow : String) : Response :=
  ⟨405, .empty, some allow⟩

/-- The response without what it carries. -/
def withoutBody (r : Response) : Response := { r with body := .empty }

-- ================================================================= failures

/-- The status of a failure. -/
def statusOf (failure : Failure) : Nat :=
  match failure with
  | .upload (.empty _) => 400
  | .upload (.transfer _ _) => 500
  | .upload (.downstream _ _) => 502
  | _ =>
      match failure.kind with
      | .notFound => 404
      | .conflict => 409
      | .invalidRequest => 400
      | .uploadFailure | .internal => 500

/-- What a client is told of a failure. -/
def told (failure : Failure) : String :=
  if failure.kind = .internal then "internal server error"
  else failure.message

/-- The response to a failure. -/
def ofFailure (failure : Failure) : Response :=
  document (statusOf failure)
    (.object [("code", .text failure.reason),
      ("message", .text (told failure))])

/-- The response to an answer. -/
def ofAnswer (status : Nat) : Answer Json → Response
  | .ok doc => document status doc
  | .error failure => ofFailure failure

end Response

end BatchAdmin.Web
