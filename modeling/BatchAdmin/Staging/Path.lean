/-
Staged paths: the names under which files are staged.

A staged path is a non-empty list of admissible pieces, so it always
names something strictly below the root of the staging area: no piece
is empty, none is `.` or `..`, and none carries the prefix reserved for
uploads on their way. Both kinds of separator are accepted when a path
is read, and separators in a row, in front or at the end make no
difference; a path is written with single slashes.

`read` goes through the pieces from the left, so the first piece that is
not allowed decides what is reported. `inFolder` keeps only the last
piece of a file name, whatever folders its sender put before it.
-/
import BatchAdmin.Failure
import BatchAdmin.Text.Cut

namespace BatchAdmin

open Text

-- ============================================================== the pieces

namespace StagePath

/-- Either separator ends a piece. -/
def isSeparator (c : Char) : Bool := c == '/' || c == '\\'

/-- The prefix of the names of uploads on their way. -/
def reserved : List Char := ".upload-".toList

/-- The name belongs to an upload on its way. -/
def isReserved (name : List Char) : Bool := reserved.isPrefixOf name

/-- Why a text is no staged path. -/
inductive Fault where
  /-- A piece is `.` or `..`. -/
  | relative
  /-- A piece has the reserved prefix. -/
  | reserved
  /-- No piece is left. -/
  | empty
  /-- The file name ends in a separator or is empty. -/
  | nameless
  deriving DecidableEq, Repr

/-- What is wrong with one piece; empty pieces are passed over. -/
def pieceFault (p : List Char) : Option Fault :=
  if p = ['.'] ∨ p = ['.', '.'] then some .relative
  else if isReserved p then some .reserved
  else none

/-- A text between quotes; only quotes and backslashes are escaped,
which is all that a text of separators needs. -/
def quoted (s : List Char) : List Char :=
  '"' :: s.flatMap (fun c =>
    if c = '"' ∨ c = '\\' then ['\\', c] else [c]) ++ ['"']

/-- What is wrong with a path, in words. -/
def Fault.detail (raw : List Char) : Fault → String
  | .relative =>
      String.ofList raw ++ ": relative segments are not allowed"
  | .reserved => String.ofList raw ++ ": reserved name"
  | .empty => String.ofList (quoted raw) ++ ": empty path"
  | .nameless => "missing file name"

end StagePath

-- =============================================================== the paths

/-- A piece that may stand in a staged path. -/
def StagePath.Admissible (p : List Char) : Prop :=
  p ≠ [] ∧ StagePath.pieceFault p = none
    ∧ p.any StagePath.isSeparator = false

instance (p : List Char) : Decidable (StagePath.Admissible p) :=
  inferInstanceAs (Decidable (_ ∧ _ ∧ _))

/-- A path inside the staging area. -/
structure StagePath where
  /-- The names from the root down to the file. -/
  pieces : List (List Char)
  nonempty : pieces ≠ []
  admissible : ∀ p ∈ pieces, StagePath.Admissible p
  deriving DecidableEq

namespace StagePath

/-- The written path. -/
def chars (p : StagePath) : List Char := joined ['/'] p.pieces

/-- The written path as a string. -/
def text (p : StagePath) : String := String.ofList p.chars

/-- The names from the root down to the file, as strings. -/
def names (p : StagePath) : List String := p.pieces.map String.ofList

/-- The name of the file itself. -/
def fileName (p : StagePath) : String :=
  String.ofList (p.pieces.getLast p.nonempty)

-- ================================================================ reading

/-- No piece of a cut text holds a separator. -/
theorem any_isSeparator_of_mem_pieces {s p : List Char}
    (h : p ∈ Text.pieces isSeparator s) : p.any isSeparator = false := by
  unfold Text.pieces at h
  induction s generalizing p with
  | nil =>
      rw [List.splitOnP_nil, List.mem_singleton] at h
      subst h
      rfl
  | cons c rest ih =>
      rw [List.splitOnP_cons_eq_if_modifyHead] at h
      cases hc : isSeparator c with
      | true =>
          rw [if_pos hc] at h
          rcases List.mem_cons.1 h with h | h
          · subst h
            rfl
          · exact ih h
      | false =>
          rw [if_neg (by simp [hc])] at h
          cases hs : List.splitOnP isSeparator rest with
          | nil => simp [hs] at h
          | cons q qs =>
              rw [hs, List.modifyHead_cons] at h
              rcases List.mem_cons.1 h with h | h
              · subst h
                have hq := ih (hs ▸ List.mem_cons_self)
                simp [hc, hq]
              · exact ih (hs ▸ List.mem_cons_of_mem _ h)

/-- The pieces of a path text: what stands between separators and is not
empty. -/
def namesIn (s : List Char) : List (List Char) :=
  (Text.pieces isSeparator s).filter fun p => !p.isEmpty

/-- What is wrong with the first piece that is not allowed. -/
def firstFault (ps : List (List Char)) : Option Fault :=
  ps.findSome? pieceFault

/-- The pieces left when none is at fault are admissible. -/
theorem admissible_of_firstFault {s : List Char}
    (h : firstFault (namesIn s) = none) :
    ∀ p ∈ namesIn s, Admissible p := by
  intro p hp
  have hmem := List.mem_filter.1 hp
  refine ⟨?_, List.findSome?_eq_none_iff.1 h p hp,
    any_isSeparator_of_mem_pieces hmem.1⟩
  intro he
  subst he
  simp at hmem

/-- The staged path a text names, or what is wrong with it. -/
def readChars (s : List Char) : Except Fault StagePath :=
  match h : firstFault (namesIn s) with
  | some fault => .error fault
  | none =>
      if hn : namesIn s = [] then .error .empty
      else .ok ⟨namesIn s, hn, admissible_of_firstFault h⟩

/-- The staged path a text names. -/
def read (raw : String) : Answer StagePath :=
  match readChars raw.toList with
  | .ok p => .ok p
  | .error fault => .error (.invalidPath (fault.detail raw.toList))

/-- The last piece of a file name. -/
def baseName (name : List Char) : List Char :=
  (Text.pieces isSeparator name).getLastD []

/-- The staged path of a file in a folder; of the file name only the
last piece counts. -/
def inFolder (folder name : String) : Answer StagePath :=
  let base := baseName name.toList
  if base.isEmpty then .error (.invalidPath (Fault.nameless.detail []))
  else read (String.ofList (folder.toList ++ '/' :: base))

end StagePath

end BatchAdmin
