/-
Layers of settings put one over another.

Where both layers have an object the upper one is put into the lower one
field by field; anywhere else the upper layer replaces the lower one. A
list is replaced as a whole.
-/
import BatchAdmin.Json.Basic

namespace BatchAdmin.Json

mutual

/-- The document `upper` put over `lower`. -/
def overlaid (lower : Json) : Json → Json
  | .object upper =>
      match lower with
      | .object fields => .object (overlaidFields fields upper)
      | _ => .object (overlaidFields [] upper)
  | upper => upper

/-- Fields put over others, one after another. -/
def overlaidFields (lower : List (String × Json)) :
    List (String × Json) → List (String × Json)
  | [] => lower
  | (name, doc) :: rest =>
      let below := (lastField? name lower).getD .null
      let kept := lower.filter fun f => f.1 != name
      overlaidFields (kept ++ [(name, overlaid below doc)]) rest

end

/-- A document under a path of names. -/
def nested (path : List String) (doc : Json) : Json :=
  match path with
  | [] => doc
  | name :: path => .object [(name, nested path doc)]

end BatchAdmin.Json
