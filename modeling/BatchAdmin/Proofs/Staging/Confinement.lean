/-
Where staged paths lead.

A text names a staged path exactly if none of the pieces between its
separators is forbidden and some piece is not empty
(`exists_read`); the path has the pieces that are not empty, so texts
with the same of them name the same path. The file of a folder and a file
name has the pieces of the folder and the last piece of the name
(`exists_inFolder`, `pieces_of_inFolder`).

A path cannot lead out of the area (`Confined`). Its text is joined to the
root and the names of the whole are taken one by one, as the system takes
them: that leads to the root and from there down the path's own names. On a
disk those names are looked up where they spell, unless somebody has put a
link on the way.
-/
import BatchAdmin.Proofs.Staging.Contents
import BatchAdmin.Proofs.Text.Escapes

namespace BatchAdmin

open Text

-- ======================================================== the pieces allowed

namespace StagePath

variable {path : StagePath} {p s : List Char} {raw folder name : String}

/-- A piece that may stand between separators: neither `.` nor `..`, and
without the prefix of uploads on their way. -/
def Allowed (p : List Char) : Prop :=
  p ≠ ['.'] ∧ p ≠ ['.', '.'] ∧ ¬ reserved <+: p

instance (p : List Char) : Decidable (Allowed p) :=
  inferInstanceAs (Decidable (_ ∧ _ ∧ _))

theorem pieceFault_eq_none : pieceFault p = none ↔ Allowed p := by
  unfold pieceFault Allowed isReserved
  rw [← List.isPrefixOf_iff_prefix]
  split
  · rename_i hdots
    constructor
    · nofun
    · rintro ⟨hdot, hdots', -⟩
      rcases hdots with h | h
      · exact absurd h hdot
      · exact absurd h hdots'
  · rename_i hdots
    rw [not_or] at hdots
    split
    · rename_i hr
      exact ⟨nofun, fun h => absurd hr h.2.2⟩
    · rename_i hr
      exact ⟨fun _ => ⟨hdots.1, hdots.2, hr⟩, fun _ => rfl⟩

theorem allowed_nil : Allowed [] := ⟨nofun, nofun, by decide⟩

theorem mem_namesIn :
    p ∈ namesIn s ↔ p ∈ Text.pieces isSeparator s ∧ p ≠ [] := by
  unfold namesIn
  rw [List.mem_filter]
  simp

/-- The empty piece is allowed, so only the names in a text can be
forbidden. -/
theorem forall_namesIn_allowed :
    (∀ p ∈ namesIn s, Allowed p)
      ↔ ∀ p ∈ Text.pieces isSeparator s, Allowed p := by
  constructor
  · intro h p hp
    by_cases hnil : p = []
    · subst hnil
      exact allowed_nil
    · exact h p (mem_namesIn.2 ⟨hp, hnil⟩)
  · intro h p hp
    exact h p (mem_namesIn.1 hp).1

theorem Admissible.allowed (h : Admissible p) : Allowed p :=
  pieceFault_eq_none.1 h.2.1

theorem admissible_of_mem_namesIn (hp : p ∈ namesIn s) (h : Allowed p) :
    Admissible p :=
  ⟨(mem_namesIn.1 hp).2, pieceFault_eq_none.2 h,
    any_isSeparator_of_mem_pieces (mem_namesIn.1 hp).1⟩

-- =============================================================== the reading

/-- A text is read as the path that has its names. -/
theorem read_iff_namesIn :
    read raw = .ok path ↔ namesIn raw.toList = path.pieces := by
  rw [← readChars_eq_ok]
  unfold read
  cases hread : readChars raw.toList with
  | error fault => exact ⟨nofun, nofun⟩
  | ok other =>
      constructor
      · intro h
        cases h
        rfl
      · intro h
        cases h
        rfl

/-- A text is a path if none of its pieces is forbidden and there is one
that counts. -/
theorem exists_read :
    (∃ path, read raw = .ok path)
      ↔ (∀ p ∈ Text.pieces isSeparator raw.toList, Allowed p)
        ∧ ∃ p ∈ Text.pieces isSeparator raw.toList, p ≠ [] := by
  rw [← forall_namesIn_allowed]
  constructor
  · rintro ⟨path, hread⟩
    rw [read_iff_namesIn] at hread
    refine ⟨fun p hp => (path.admissible p (hread ▸ hp)).allowed, ?_⟩
    obtain ⟨p, hp⟩ := List.exists_mem_of_ne_nil _ path.nonempty
    exact ⟨p, mem_namesIn.1 (hread ▸ hp)⟩
  · rintro ⟨hallowed, p, hp⟩
    exact ⟨⟨namesIn raw.toList, List.ne_nil_of_mem (mem_namesIn.2 hp),
      fun p hp => admissible_of_mem_namesIn hp (hallowed p hp)⟩,
      read_iff_namesIn.2 rfl⟩

/-- Two texts are read as one path if they have the same names. -/
theorem read_eq_read {other : String} {path' : StagePath}
    (hread : read raw = .ok path) (hother : read other = .ok path') :
    path'.text = path.text ↔ namesIn other.toList = namesIn raw.toList := by
  rw [read_iff_namesIn] at hread hother
  rw [hread, hother]
  constructor
  · intro h
    rw [text_injective h]
  · intro h
    unfold text chars
    rw [h]

-- ===================================================== the file of a folder

/-- What stands behind the last separator of a text. -/
def lastPiece (s : List Char) : List Char :=
  (Text.pieces isSeparator s).getLast (List.splitOnP_ne_nil _ s)

theorem baseName_eq (s : List Char) : baseName s = lastPiece s := by
  unfold baseName lastPiece
  rw [List.getLastD_eq_getLast?, List.getLast?_eq_some_getLast]
  rfl

theorem lastPiece_mem (s : List Char) :
    lastPiece s ∈ Text.pieces isSeparator s := List.getLast_mem _

/-- The names of a folder and of a name in it. -/
theorem namesIn_folder {base : List Char} (hbase : base ≠ [])
    (hsep : base.any isSeparator = false) :
    namesIn (folder.toList ++ '/' :: base)
      = namesIn folder.toList ++ [base] := by
  rw [namesIn_append rfl, namesIn_whole hbase hsep]

/-- A file in a folder has the names of the folder and the last piece of
its name. -/
theorem pieces_of_inFolder :
    inFolder folder name = .ok path
      ↔ lastPiece name.toList ≠ []
        ∧ path.pieces = namesIn folder.toList ++ [lastPiece name.toList] := by
  unfold inFolder
  dsimp only
  rw [baseName_eq]
  by_cases hbase : lastPiece name.toList = []
  · rw [hbase]
    exact ⟨nofun, fun h => absurd rfl h.1⟩
  · rw [if_neg (by simpa using hbase), read_iff_namesIn,
      String.toList_ofList, namesIn_folder hbase
        (any_isSeparator_of_mem_pieces (lastPiece_mem _)), eq_comm]
    exact ⟨fun h => ⟨hbase, h⟩, fun h => h.2⟩

/-- There is such a file if the last piece of its name is not empty and
neither that nor a piece of the folder is forbidden. -/
theorem exists_inFolder :
    (∃ path, inFolder folder name = .ok path)
      ↔ lastPiece name.toList ≠ [] ∧ Allowed (lastPiece name.toList)
        ∧ ∀ p ∈ Text.pieces isSeparator folder.toList, Allowed p := by
  rw [← forall_namesIn_allowed]
  constructor
  · rintro ⟨path, h⟩
    obtain ⟨hbase, hpieces⟩ := pieces_of_inFolder.1 h
    have hallowed (p : List Char)
        (hp : p ∈ namesIn folder.toList ++ [lastPiece name.toList]) :
        Allowed p := (path.admissible p (hpieces ▸ hp)).allowed
    exact ⟨hbase, hallowed _ (by simp),
      fun p hp => hallowed p (List.mem_append_left _ hp)⟩
  · rintro ⟨hbase, hlast, hfolder⟩
    have hmem : lastPiece name.toList ∈ namesIn name.toList :=
      mem_namesIn.2 ⟨lastPiece_mem _, hbase⟩
    refine ⟨⟨namesIn folder.toList ++ [lastPiece name.toList], by simp, ?_⟩,
      pieces_of_inFolder.2 ⟨hbase, rfl⟩⟩
    intro p hp
    rcases List.mem_append.1 hp with hp | hp
    · exact admissible_of_mem_namesIn hp (hfolder p hp)
    · cases List.mem_singleton.1 hp
      exact admissible_of_mem_namesIn hmem hlast

end StagePath

-- ======================================================== the way from a root

/-- A way joined to a root: a way from the very top stands for itself, any
other one follows the root, with a slash between them if there is none. -/
def rooted (root way : List Char) : List Char :=
  if way.head? = some '/' then way
  else if root = [] ∨ root.getLast? = some '/' then root ++ way
  else root ++ '/' :: way

/-- Where the next name of a way leads. -/
def stepTo (place : List (List Char)) (name : List Char) : List (List Char) :=
  if name = [] ∨ name = ['.'] then place
  else if name = ['.', '.'] then place.dropLast
  else place ++ [name]

/-- Where a way leads, from the folder one is in or from the very top. -/
def reached (here : List (List Char)) (way : List Char) : List (List Char) :=
  (pieces (· == '/') way).foldl stepTo
    (if way.head? = some '/' then [] else here)

namespace StagePath

variable {path : StagePath}

/-- The names of a path lead down, one by one. -/
theorem foldl_stepTo_pieces (path : StagePath) (place : List (List Char)) :
    path.pieces.foldl stepTo place = place ++ path.pieces := by
  have hdown : ∀ ps : List (List Char), (∀ p ∈ ps, Admissible p) →
      ∀ place, ps.foldl stepTo place = place ++ ps := by
    intro ps
    induction ps with
    | nil => simp
    | cons p rest ih =>
        intro h place
        obtain ⟨hp, hrest⟩ := List.forall_mem_cons.1 h
        obtain ⟨hdot, hdots, -⟩ := hp.allowed
        rw [List.foldl_cons, stepTo, if_neg (not_or.2 ⟨hp.1, hdot⟩),
          if_neg hdots, ih hrest, List.append_assoc, List.singleton_append]
  exact hdown _ path.admissible place

/-- Between its slashes a written path has its own pieces. -/
theorem slash_pieces_chars (path : StagePath) :
    Text.pieces (· == '/') path.chars = path.pieces := by
  unfold chars
  refine pieces_joined (fun p hp hslash => ?_) path.nonempty
  have hsep := (path.admissible p hp).2.2
  rw [List.any_eq_false] at hsep
  exact hsep _ hslash rfl

/-- A written path does not start at the very top. -/
theorem head?_chars (path : StagePath) : path.chars.head? ≠ some '/' := by
  intro h
  obtain ⟨rest, hrest⟩ := List.head?_eq_some_iff.1 h
  have hpieces := path.slash_pieces_chars
  rw [hrest] at hpieces
  unfold Text.pieces at hpieces
  rw [List.splitOnP_cons_eq_if_modifyHead, if_pos (by rfl)] at hpieces
  exact (path.admissible [] (hpieces ▸ List.mem_cons_self)).1 rfl

theorem slash_pieces_append (s t : List Char) :
    Text.pieces (· == '/') (s ++ '/' :: t)
      = Text.pieces (· == '/') s ++ Text.pieces (· == '/') t :=
  List.splitOnP_append_cons s t rfl

/-- Joined to a root, a path leads to the root and from there down its own
names. -/
theorem reached_rooted (path : StagePath) (here : List (List Char))
    (root : List Char) :
    reached here (rooted root path.chars)
      = reached here root ++ path.pieces := by
  rw [rooted, if_neg path.head?_chars]
  by_cases hroot : root = []
  · subst hroot
    rw [if_pos (.inl rfl), List.nil_append]
    unfold reached
    rw [if_neg path.head?_chars, path.slash_pieces_chars,
      path.foldl_stepTo_pieces]
    rfl
  · have hfrom (more : List Char) : (root ++ more).head? = root.head? :=
      List.head?_append_of_ne_nil _ hroot
    by_cases hslash : root.getLast? = some '/'
    · -- The root has a slash at its end, behind which nothing stands.
      rw [if_pos (.inr hslash)]
      unfold reached
      obtain ⟨front, rfl⟩ := List.getLast?_eq_some_iff.1 hslash
      rw [hfrom, List.append_assoc, List.singleton_append, slash_pieces_append,
        slash_pieces_append, List.foldl_append, List.foldl_append,
        path.slash_pieces_chars, path.foldl_stepTo_pieces]
      rfl
    · rw [if_neg (not_or.2 ⟨hroot, hslash⟩)]
      unfold reached
      rw [hfrom, slash_pieces_append, List.foldl_append,
        path.slash_pieces_chars, path.foldl_stepTo_pieces]

-- ============================================================ the whole of it

/-- A path cannot lead out of the area. -/
structure Confined (path : StagePath) : Prop where
  /-- It does not name the root itself. -/
  strict : path.pieces ≠ []
  /-- Wherever a root leads, the path leads on down its own names. -/
  below : ∀ here root,
    reached here (rooted root path.chars) = reached here root ++ path.pieces
  /-- Nothing but a link can make a disk look it up elsewhere. -/
  there : ∀ {d : Disk} {through : Bool} {place : Disk.Place},
    d.Unlinked [] path.names → d.find through path.names = .ok place →
    d.Leads path.names place

theorem confined (path : StagePath) : path.Confined where
  strict := path.nonempty
  below := path.reached_rooted
  there := fun hunlinked hfind =>
    (Disk.find_leads hunlinked path.dotless_names hfind).2

/-- A text is a path exactly if no piece between its separators is
forbidden and one is not empty, and the path has the pieces that are not
empty. A folder and a file name give a path exactly if the last piece of
the name is not empty and neither that nor a piece of the folder is
forbidden, and the path has the pieces of the folder and that last one. -/
theorem canonical_and_confined :
    (∀ raw : String,
      ((∃ path, read raw = .ok path)
        ↔ (∀ p ∈ Text.pieces isSeparator raw.toList, Allowed p)
          ∧ ∃ p ∈ Text.pieces isSeparator raw.toList, p ≠ [])
      ∧ ∀ path, read raw = .ok path →
          path.text = String.ofList (joined ['/'] (namesIn raw.toList))
          ∧ read path.text = .ok path
          ∧ (∀ other path', read other = .ok path' →
              (path'.text = path.text
                ↔ namesIn other.toList = namesIn raw.toList))
          ∧ path.Confined)
    ∧ ∀ folder name : String,
      ((∃ path, inFolder folder name = .ok path)
        ↔ lastPiece name.toList ≠ [] ∧ Allowed (lastPiece name.toList)
          ∧ ∀ p ∈ Text.pieces isSeparator folder.toList, Allowed p)
      ∧ ∀ path, inFolder folder name = .ok path →
          path.text = String.ofList (joined ['/']
            (namesIn folder.toList ++ [lastPiece name.toList]))
          ∧ path.fileName = String.ofList (lastPiece name.toList)
          ∧ (Text.pieces (· == '/') path.chars).getLast?
            = some (lastPiece name.toList)
          ∧ path.Confined := by
  refine ⟨fun raw => ⟨exists_read, fun path hread => ⟨?_, path.read_text,
    fun other path' => read_eq_read hread, path.confined⟩⟩,
    fun folder name => ⟨exists_inFolder, fun path h => ?_⟩⟩
  · rw [read_iff_namesIn.1 hread]
    rfl
  · obtain ⟨-, hpieces⟩ := pieces_of_inFolder.1 h
    have hlast : path.pieces.getLast? = some (lastPiece name.toList) := by
      rw [hpieces, List.getLast?_concat]
    refine ⟨?_, ?_, ?_, path.confined⟩
    · rw [← hpieces]
      rfl
    · rw [List.getLast?_eq_some_getLast path.nonempty] at hlast
      injection hlast with hlast
      unfold fileName
      rw [hlast]
    · rw [path.slash_pieces_chars, hlast]

/-- Backslashes and separators in a row make no difference, and of a file
name only what stands last counts. -/
theorem mixedSeparators_canonical :
    (∃ path, read "/in\\\\a.csv/" = .ok path ∧ path.text = "in/a.csv"
      ∧ path.Confined)
    ∧ ∃ path, inFolder "in" "C:\\a.csv" = .ok path ∧ path.text = "in/a.csv"
      ∧ path.fileName = "a.csv" := by
  obtain ⟨hreads, hfiles⟩ := canonical_and_confined
  constructor
  · obtain ⟨path, hread⟩ := (hreads "/in\\\\a.csv/").1.2
      ⟨by decide, "in".toList, by decide, by decide⟩
    obtain ⟨htext, -, -, hconfined⟩ := (hreads _).2 path hread
    exact ⟨path, hread, htext.trans (by decide), hconfined⟩
  · obtain ⟨path, hfile⟩ := (hfiles "in" "C:\\a.csv").1.2
      ⟨by decide, by decide, by decide⟩
    obtain ⟨htext, hname, -, -⟩ := (hfiles _ _).2 path hfile
    exact ⟨path, hfile, htext.trans (by decide), hname.trans (by decide)⟩

end StagePath

end BatchAdmin
