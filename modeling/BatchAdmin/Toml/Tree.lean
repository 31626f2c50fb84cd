/-
Tables under construction: what a settings file means, line by line.

A file is a sequence of headers and assignments. A header opens a table
or adds one to a list of tables; an assignment puts a value under a
dotted key of the table that is open. Each table remembers how it came
to be, because that decides what may still be done to it:

- a table opened by a header is closed to a second header and to dotted
  keys from outside;
- a table made on the way to another one (`[a.b]` makes `a`) may still
  be opened once;
- a table made by a dotted key may grow by dotted keys only.

A value, a list in brackets or an inline table included, is finished.
-/
import BatchAdmin.Json.Basic

namespace BatchAdmin.Toml

/-- How a table came to be. -/
inductive Origin where
  /-- By a header of its own. -/
  | header
  /-- On the way to another table. -/
  | implied
  /-- By a dotted key. -/
  | dotted
  deriving DecidableEq, Repr

/-- A node of a file under construction. -/
inductive Node where
  | value (v : Json)
  | table (origin : Origin) (fields : List (String × Node))
  /-- A list of tables, the latest first. -/
  | tables (latest : Node) (earlier : List Node)

namespace Node

/-- A table without fields. -/
def emptyTable (origin : Origin) : Node := .table origin []

-- =================================================================== fields

/-- The node under a name. -/
def under? (name : String) : List (String × Node) → Option Node
  | [] => none
  | (n, node) :: rest => if n = name then some node else under? name rest

/-- The fields with a node under a name, in place of one there. -/
def withUnder (name : String) (node : Node) :
    List (String × Node) → List (String × Node)
  | [] => [(name, node)]
  | (n, old) :: rest =>
      if n = name then (n, node) :: rest
      else (n, old) :: withUnder name node rest

-- =============================================================== at a table

/-- Changes the fields of a table; of a list of tables, the latest. A
value has no fields. -/
def atTable (change : Origin → List (String × Node) → Option Node) :
    Node → Option Node
  | .table origin fields => change origin fields
  | .tables (.table origin fields) earlier =>
      (change origin fields).map fun latest => .tables latest earlier
  | _ => none

/-- Changes the node under a key path; missing tables on the way are
made. Through an inside key, tables opened by a header are closed. -/
def atPath (inside : Bool) (change : Node → Option Node) :
    List String → Node → Option Node
  | [], node => change node
  | name :: path, node =>
      node.atTable fun origin fields =>
        let made := emptyTable (if inside then .dotted else .implied)
        let child := (under? name fields).getD made
        let closed := match child with
          | .table .header _ => inside
          | _ => false
        if closed then none
        else
          (atPath inside change path child).map fun child =>
            .table origin (withUnder name child fields)

-- ================================================================ the moves

/-- Puts a value under a dotted key of a table. The table that takes the
value must have come from the same kind of key. -/
def assign (path : List String) (name : String) (v : Json) :
    Node → Option Node :=
  atPath true
    (atTable fun origin fields =>
      let mixed := decide (origin = .dotted) == path.isEmpty
      if mixed || (under? name fields).isSome then none
      else some (.table origin (fields ++ [(name, .value v)])))
    path

/-- Opens the table of a header below a table. -/
def openTable (name : String) : Node → Option Node :=
  atTable fun origin fields =>
    match under? name fields with
    | none =>
        some (.table origin (fields ++ [(name, emptyTable .header)]))
    | some (.table .implied inner) =>
        some (.table origin (withUnder name (.table .header inner) fields))
    | some _ => none

/-- Adds a table to a list of tables below a table. -/
def addTable (name : String) : Node → Option Node :=
  atTable fun origin fields =>
    match under? name fields with
    | none =>
        some (.table origin
          (fields ++ [(name, .tables (emptyTable .header) [])]))
    | some (.tables latest earlier) =>
        let longer := .tables (emptyTable .header) (latest :: earlier)
        some (.table origin (withUnder name longer fields))
    | some _ => none

-- ============================================================ the document

mutual

/-- The document that a node stands for. -/
def toJson : Node → Json
  | .value v => v
  | .table _ fields => .object (fieldsJson fields)
  | .tables latest earlier =>
      .list ((toJson latest :: listJson earlier).reverse)

/-- The documents of fields. -/
def fieldsJson : List (String × Node) → List (String × Json)
  | [] => []
  | (name, node) :: rest => (name, toJson node) :: fieldsJson rest

/-- The documents of a list of nodes. -/
def listJson : List Node → List Json
  | [] => []
  | node :: rest => toJson node :: listJson rest

end

end Node

end BatchAdmin.Toml
