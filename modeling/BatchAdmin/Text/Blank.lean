/-
Blank characters and trimming.

A blank is a character with the Unicode property `White_Space`: the
ASCII blanks, the next-line control, the no-break space and the spaces
of general punctuation. Parameters typed by hand are trimmed of blanks
at both ends before anything else is decided about them, so the set
here is what makes a segment "blank" everywhere in the library.

Texts are lists of characters throughout: a rule about a text is then a
rule by recursion on the list, and `String` is only the outer form.
-/
namespace BatchAdmin.Text

-- ======================================================== the property

/-- The characters with the property `White_Space`. -/
def isBlank (c : Char) : Bool :=
  let n := c.toNat
  (0x09 ≤ n && n ≤ 0x0D) || n == 0x20 || n == 0x85 || n == 0xA0
    || n == 0x1680 || (0x2000 ≤ n && n ≤ 0x200A) || n == 0x2028
    || n == 0x2029 || n == 0x202F || n == 0x205F || n == 0x3000

-- =========================================================== trimming

/-- The text without the blanks at its front. -/
def trimFront (s : List Char) : List Char :=
  s.dropWhile isBlank

/-- The text without the blanks at its back. -/
def trimBack (s : List Char) : List Char :=
  (s.reverse.dropWhile isBlank).reverse

/-- The text without the blanks at either end. -/
def trim (s : List Char) : List Char :=
  trimBack (trimFront s)

/-- The text without any of the characters `p` picks at either end. -/
def trimOf (p : Char → Bool) (s : List Char) : List Char :=
  ((s.dropWhile p).reverse.dropWhile p).reverse

end BatchAdmin.Text
