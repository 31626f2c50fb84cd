/-
Exchanges: requests and responses as lines of text.

A line holds one request as a document: its `method`, its `uri`, its
`headers` as a list of pairs and its `body`, all of which may be left
out. Before it is answered the clock of the gateway, and with it every
runner, is moved on to the moment at which the line came in, and never
back. The line that answers it holds the status, the body and, where the
method was not allowed, the methods that are.
-/
import BatchAdmin.Web.Handlers
import BatchAdmin.Json.Reader
import BatchAdmin.Json.Printer

namespace BatchAdmin.Web

open Text

-- ================================================================= requests

/-- A text field, or what it is where it is not given. -/
def textField (name missing : String) (doc : Json) : String :=
  match doc.field? name with
  | some (.text s) => s
  | _ => missing

/-- A header as a pair of texts. -/
def header? : Json → Option (String × String)
  | .list [.text name, .text value] => some (name, value)
  | _ => none

/-- The headers of a request; what is no pair of texts is passed
over. -/
def headersField (doc : Json) : List (String × String) :=
  match doc.field? "headers" with
  | some (.list items) => items.filterMap header?
  | _ => []

/-- The request that a document describes. -/
def Request.ofJson (doc : Json) : Request :=
  { method := textField "method" "GET" doc
    uri := textField "uri" "/" doc
    headers := headersField doc
    body := octetsOf (textField "body" "" doc) }

-- ================================================================ responses

/-- What a response carries, as a document. -/
def Body.toJson : Body → Json
  | .empty => .null
  | .document doc => doc
  | .plain text => .text text

/-- A response as a document. -/
def Response.toJson (r : Response) : Json :=
  let allow := match r.allow with
    | some methods => [("allow", Json.text methods)]
    | none => []
  .object ([("status", .nat r.status), ("body", r.body.toJson)] ++ allow)

-- ================================================================ exchanges

/-- The gateway at a moment, if that is later than its own. -/
def movedTo (g : Gateway) (now : Instant) : Gateway :=
  g.advance (g.now.millisBetween now)

/-- The line that answers a line which came in at a moment, and the
gateway after it; its runners have moved as far as they can. -/
def answerLine (g : Gateway) (now : Instant) (line : String) :
    String × Gateway :=
  match Json.read? line.toList with
  | none =>
      let refused := Failure.invalidRequest "not a document"
      ((Response.ofFailure refused).toJson.render, g)
  | some doc =>
      let (response, g) := handle (movedTo g now) (.ofJson doc)
      (response.toJson.render, g.settle)

end BatchAdmin.Web
