/-
Names in a path text.

A text that names a path says which pieces it has: what stands between its
separators and is not empty. It is read as a path exactly if those are the
pieces of one (`readChars_eq_ok`), so a written path is read back as itself
(`readChars_chars`, `read_text`), and a text with a reserved name in it is
read as none.
-/
import BatchAdmin.Staging.Path
import BatchAdmin.Staging.Disk

namespace BatchAdmin.StagePath

open Text

variable {path : StagePath} {p s t : List Char}

-- ============================================================== the pieces

/-- A separator parts the names before it from those behind it. -/
theorem namesIn_append {c : Char} (hc : isSeparator c = true) :
    namesIn (s ++ c :: t) = namesIn s ++ namesIn t := by
  unfold namesIn Text.pieces
  rw [List.splitOnP_append_cons s t hc, List.filter_append]

/-- A text without separators is one name, if it is not empty. -/
theorem namesIn_whole (hne : p ≠ []) (hsep : p.any isSeparator = false) :
    namesIn p = [p] := by
  unfold namesIn Text.pieces
  rw [List.splitOnP_eq_singleton (by simpa using hsep),
    List.filter_cons_of_pos (by simpa using hne), List.filter_nil]

theorem Admissible.not_isReserved (h : Admissible p) :
    isReserved p = false := by
  obtain ⟨-, hfault, -⟩ := h
  unfold pieceFault at hfault
  split at hfault
  · cases hfault
  · split at hfault
    · cases hfault
    · rename_i hr
      exact Bool.not_eq_true _ ▸ hr

/-- The names in a text that was put together are those in its parts. -/
theorem namesIn_joined (ps : List (List Char)) :
    namesIn (joined ['/'] ps) = ps.flatMap namesIn := by
  unfold joined
  induction ps with
  | nil => rfl
  | cons p rest ih =>
      by_cases hrest : rest = []
      · subst hrest
        simp
      · rw [List.intercalate_cons_of_ne_nil hrest, List.append_assoc,
          List.singleton_append, namesIn_append rfl, ih, List.flatMap_cons]

/-- Pieces without separators are found again. -/
theorem flatMap_namesIn {ps : List (List Char)}
    (h : ∀ p ∈ ps, p ≠ [] ∧ p.any isSeparator = false) :
    ps.flatMap namesIn = ps := by
  induction ps with
  | nil => rfl
  | cons p rest ih =>
      obtain ⟨hp, hrest⟩ := List.forall_mem_cons.1 h
      rw [List.flatMap_cons, namesIn_whole hp.1 hp.2, ih hrest,
        List.singleton_append]

theorem toList_text (path : StagePath) : path.text.toList = path.chars :=
  String.toList_ofList

theorem namesIn_chars (path : StagePath) :
    namesIn path.chars = path.pieces := by
  unfold chars
  rw [namesIn_joined, flatMap_namesIn]
  intro p hp
  obtain ⟨hne, -, hsep⟩ := path.admissible p hp
  exact ⟨hne, hsep⟩

-- ============================================================= the reading

/-- A text is read as the path that has its names. -/
theorem readChars_eq_ok : readChars s = .ok path ↔ namesIn s = path.pieces := by
  unfold readChars
  constructor
  · intro h
    split at h
    · cases h
    · split at h
      · cases h
      · cases h
        rfl
  · intro h
    have hfault : firstFault (namesIn s) = none := by
      refine List.findSome?_eq_none_iff.2 fun p hp => ?_
      obtain ⟨-, hfault, -⟩ := path.admissible p (h ▸ hp)
      exact hfault
    split
    · rename_i fault hsome
      cases hfault.symm.trans hsome
    · split
      · rename_i hnil
        exact absurd (h.symm.trans hnil) path.nonempty
      · obtain ⟨pieces, nonempty, admissible⟩ := path
        subst h
        rfl

/-- A written path is read back. -/
theorem readChars_chars (path : StagePath) : readChars path.chars = .ok path :=
  readChars_eq_ok.2 path.namesIn_chars

theorem read_text (path : StagePath) : read path.text = .ok path := by
  unfold read text
  rw [String.toList_ofList, readChars_chars]

/-- A path is told by its text. -/
theorem text_injective : Function.Injective text := by
  intro path other h
  have hread := path.readChars_chars
  rw [String.ofList_injective h, other.readChars_chars] at hread
  injection hread with hread
  exact hread.symm

-- ============================================================ the locations

/-- The text of a location: its names with slashes between them. -/
def spelt (loc : Location) : List Char := joined ['/'] (loc.map String.toList)

theorem readChars_spelt_names (path : StagePath) :
    readChars (spelt path.names) = .ok path := by
  have hspelt : spelt path.names = path.chars := by
    unfold spelt names chars
    rw [List.map_map]
    congr 1
    exact (List.map_congr_left fun p _ => String.toList_ofList).trans
      (List.map_id _)
  rw [hspelt, readChars_chars]

/-- A location with a reserved name in it is no path. -/
theorem readChars_spelt_reserved {folder : Location} {name : String}
    (hsep : name.toList.any isSeparator = false)
    (hname : isReserved name.toList = true) :
    readChars (spelt (folder ++ [name])) ≠ .ok path := by
  intro hread
  rw [readChars_eq_ok] at hread
  have hne : name.toList ≠ [] := by
    intro hnil
    rw [hnil] at hname
    cases hname
  have hmem : name.toList ∈ path.pieces := by
    unfold spelt at hread
    rw [← hread, namesIn_joined, List.map_append, List.flatMap_append,
      List.map_singleton, List.flatMap_singleton, namesIn_whole hne hsep]
    exact List.mem_append_right _ (List.mem_singleton_self _)
  rw [(path.admissible _ hmem).not_isReserved] at hname
  cases hname

end BatchAdmin.StagePath
