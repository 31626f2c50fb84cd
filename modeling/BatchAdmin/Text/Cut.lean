/-
Cutting texts at separators.

Two cuts are used: at every character of a kind (`pieces`), which gives
one piece more than there are separators, empty ones included, and at
the first occurrence of one character (`cut`), which tells a name from
its value. Both lose nothing but the separators themselves.
-/
namespace BatchAdmin.Text

-- ======================================================= every separator

/-- The pieces between the characters `isSep` picks, empty ones
included. -/
def pieces (isSep : Char → Bool) (s : List Char) : List (List Char) :=
  s.splitOnP isSep

/-- The pieces put back together with `sep` between neighbours. -/
def joined (sep : List Char) (ps : List (List Char)) : List Char :=
  sep.intercalate ps

-- ==================================================== the first separator

/-- What stands before and after the first `sep`, if there is one. -/
def cut (sep : Char) : List Char → Option (List Char × List Char)
  | [] => none
  | c :: rest =>
      if c = sep then some ([], rest)
      else (cut sep rest).map fun (before, after) => (c :: before, after)

/-- The text after `front`, if it starts with it. -/
def after? (front : List Char) : List Char → Option (List Char) :=
  fun s =>
    match front, s with
    | [], s => some s
    | _ :: _, [] => none
    | f :: front', c :: rest =>
        if f = c then after? front' rest else none

-- ============================================================ ASCII case

/-- ASCII letters in lower case, all else as it is. -/
def lower (s : List Char) : List Char :=
  s.map fun c => if c.isUpper then c.toLower else c

end BatchAdmin.Text
