/-
Routes: which path leads where.

All routes stand behind the base path. A parameter takes one segment as
it is written in the path, escapes and all; it may be empty only where
something follows it. The path of a file takes everything that is left.
-/
import BatchAdmin.Failure
import BatchAdmin.Text.Cut
import BatchAdmin.Text.Percent
import BatchAdmin.Web.BasePath

namespace BatchAdmin.Web

open Text

/-- The routes, with the parameters as written. -/
inductive Route where
  | files
  | filesAt (path : List Char)
  | configurations
  | configuration (job : List Char)
  | instances
  | instanceAt (id : List Char)
  | executions
  | executionAt (id : List Char)
  | steps (id : List Char)
  | stepAt (id step : List Char)
  | progress (id step : List Char)
  | health
  deriving DecidableEq, Repr

namespace Route

/-- The segments of a path, that before the first slash included. -/
def segments (path : List Char) : List (List Char) :=
  pieces (· == '/') path

/-- A route with one parameter that ends the path. -/
def ending (route : List Char → Route) (last : List Char) :
    Option Route :=
  if last.isEmpty then none else some (route last)

/-- The route that segments lead to, the first of them empty. -/
def ofSegments : List (List Char) → Option Route
  | [] => none
  | name :: rest =>
      if name = "files".toList then
        match rest with
        | [] => some .files
        | rest => ending .filesAt (joined ['/'] rest)
      else if name = "configurations".toList then
        match rest with
        | [] => some .configurations
        | [job] => ending .configuration job
        | _ => none
      else if name = "instances".toList then
        match rest with
        | [] => some .instances
        | [id] => ending .instanceAt id
        | _ => none
      else if name = "executions".toList then
        match rest with
        | [] => some .executions
        | [id] => ending .executionAt id
        | [id, word] =>
            if word = "steps".toList then some (.steps id) else none
        | [id, word, step] =>
            if word = "steps".toList then ending (.stepAt id) step
            else none
        | [id, word, step, last] =>
            if word = "steps".toList ∧ last = "progress".toList then
              some (.progress id step)
            else none
        | _ => none
      else if name = "health".toList ∧ rest = [] then some .health
      else none

/-- The route of a path behind a base path without a slash at its
end. -/
def find? (base : BasePath) (path : List Char) : Option Route :=
  match base.behind? path with
  | none => none
  | some rest =>
      match segments rest with
      | [] :: names => ofSegments names
      | _ => none

-- ================================================================== methods

/-- The methods a route answers to, as they are told. -/
def allowed : Route → List String
  | .files => ["GET", "HEAD", "POST"]
  | .filesAt _ => ["POST", "DELETE"]
  | .executions => ["GET", "HEAD", "POST", "PUT"]
  | .executionAt _ => ["GET", "HEAD", "PUT"]
  | _ => ["GET", "HEAD"]

-- =============================================================== parameters

/-- Whether a route has parameters. -/
def isParametric : Route → Bool
  | .files | .configurations | .instances | .executions | .health => false
  | _ => true

/-- What is told where a base path has parameters besides those of the
route. -/
def crowded : Failure :=
  .invalidRequest "wrong number of path parameters"

/-- A parameter as the text it stands for. -/
def textParameter (s : List Char) : Answer String :=
  match readSegment s with
  | some t => .ok (String.ofList t)
  | none => .error (.invalidRequest "path is not text")

/-- A parameter as a number. -/
def numberParameter (s : List Char) : Answer Int :=
  match (readSegment s).bind readInt64 with
  | some n => .ok n
  | none => .error (.invalidRequest "path parameter is not a number")

end Route

end BatchAdmin.Web
