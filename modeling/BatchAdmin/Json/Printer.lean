/-
Documents as text.

One written form per document: no blanks between tokens, fields in their
own order, and in texts only the quote, the backslash and the control
characters escaped. Everything else is written as it is, so the text of
a document is as long as its content.
-/
import BatchAdmin.Json.Basic

namespace BatchAdmin.Json

open Text

-- ================================================================== texts

/-- Four hexadecimal digits of a control character. -/
def unicodeEscape (n : Nat) : List Char :=
  let digit (k : Nat) := (hexDigit k).toLower
  ['\\', 'u', digit (n / 4096 % 16), digit (n / 256 % 16),
    digit (n / 16 % 16), digit (n % 16)]

/-- One character between quotes. -/
def quotedChar (c : Char) : List Char :=
  if c = '"' then ['\\', '"']
  else if c = '\\' then ['\\', '\\']
  else if c = '\n' then ['\\', 'n']
  else if c = '\r' then ['\\', 'r']
  else if c = '\t' then ['\\', 't']
  else if c = '\x08' then ['\\', 'b']
  else if c = '\x0c' then ['\\', 'f']
  else if c.toNat < 0x20 then unicodeEscape c.toNat
  else [c]

/-- A text between quotes. -/
def quoted (s : List Char) : List Char :=
  '"' :: (s.flatMap quotedChar ++ ['"'])

-- ============================================================== documents

mutual

/-- The text of a document, in front of what follows it. -/
def write : Json → List Char → List Char
  | .null, rest => "null".toList ++ rest
  | .bool b, rest => (if b then "true" else "false").toList ++ rest
  | .whole n, rest => writeInt n ++ rest
  | .decimal x, rest => x.write ++ rest
  | .text s, rest => quoted s.toList ++ rest
  | .list items, rest => '[' :: writeItems items (']' :: rest)
  | .object fields, rest => '{' :: writeFields fields ('}' :: rest)

/-- The items of a list with commas between them. -/
def writeItems : List Json → List Char → List Char
  | [], rest => rest
  | [j], rest => j.write rest
  | j :: k :: more, rest => j.write (',' :: writeItems (k :: more) rest)

/-- The fields of an object with commas between them. -/
def writeFields : List (String × Json) → List Char → List Char
  | [], rest => rest
  | [(name, j)], rest => quoted name.toList ++ ':' :: j.write rest
  | (name, j) :: f :: more, rest =>
      quoted name.toList
        ++ ':' :: j.write (',' :: writeFields (f :: more) rest)

end

/-- The text of a document. -/
def render (j : Json) : String :=
  String.ofList (j.write [])

end BatchAdmin.Json
