/-
Deletes that are meant for one file.

The path of a file can be given to a delete, which takes it for a pattern.
It removes that file and no other exactly if the path, as a pattern,
matches this file alone of those that are there (`lost_iff_singled`). A
path without operators does so in every area. With an operator in it a path
is no pattern, or does not match itself, or matches a path beside it that
files can have as well; so there is always an area in which the delete does
not do what it is meant for (`singled_iff_literal`).
-/
import BatchAdmin.Proofs.Glob.Literal
import BatchAdmin.Proofs.Staging.Clearing
import BatchAdmin.Proofs.Staging.Siblings

namespace BatchAdmin

open Text StagingArea

variable {home : StagingRoot} {area after : StagingArea} {f : StoredFile}
  {path : StagePath}

-- ================================================================ one file

namespace StagingArea

/-- The file is gone; the others are there, with what was in them. -/
structure Lost (before after : StagingArea) (f : StoredFile) : Prop where
  files : ∀ other, other ∈ after.files ↔ other ∈ before.files ∧ other ≠ f
  contents : ∀ path, path ≠ f.path →
    after.contentAt? path = before.contentAt? path

/-- Of the files of the area the path of this one matches it alone. -/
def Singled (area : StagingArea) (f : StoredFile) : Prop :=
  ∀ other ∈ area.files, Sweep.Aims f.path.text other.path ↔ other = f

/-- There is one file at a path. -/
theorem Orderly.eq_of_path (h : area.Orderly) {other : StoredFile}
    (hf : f ∈ area.files) (hother : other ∈ area.files)
    (hpath : other.path = f.path) : other = f := by
  have hstat := h.mem_files_iff_stat.1 hother
  rw [hpath, h.mem_files_iff_stat.1 hf] at hstat
  injection hstat with hstat
  injection hstat with hstat
  exact hstat.symm

/-- A path without operators matches itself alone. -/
theorem Orderly.singled_of_literal (h : area.Orderly) (hf : f ∈ area.files)
    (hliteral : Glob.Literal f.path.chars) : area.Singled f := by
  have hne : f.path.text ≠ "" := by
    intro hnil
    have hread := f.path.read_text
    rw [hnil] at hread
    cases hread
  obtain ⟨glob, hread, hmatches⟩ :=
    Glob.matches_of_literal hne (f.path.toList_text ▸ hliteral)
  intro other hother
  rw [Sweep.aims_iff hread, hmatches]
  constructor
  · intro htext
    exact h.eq_of_path hf hother (StagePath.text_injective htext)
  · rintro rfl
    rfl

end StagingArea

-- ============================================================== its removal

namespace Desk

variable {faults : StoreFaults} {glob : Glob} {pattern : String}

/-- A delete leaves what is at a path if the pattern does not match it, or if
there is nothing. -/
theorem contentAt?_delete (h : area.Orderly)
    (hread : Glob.read pattern = .ok glob)
    (hlist : faults.fails .list = false)
    (hpath : ∀ f ∈ area.files, f.path = path →
      glob.matches path.text = false) :
    (delete faults area pattern).2.contentAt? path = area.contentAt? path := by
  have hafter := (kept_delete h faults pattern).1.tidy
  obtain ⟨gone, hperm, heq⟩ :=
    delete_of_leadsBack h.distinct hread hlist (leadsBack_of_orderly h)
  rw [heq] at hafter ⊢
  have hkept : path.names ∉ gone := by
    intro hgone
    obtain ⟨x, hx, hloc⟩ := List.mem_map.1 (hperm.subset hgone)
    obtain ⟨hstaged, haimed⟩ := List.mem_filter.1 hx
    obtain ⟨e, hmem, hstored⟩ := mem_staged.1 hstaged
    obtain ⟨-, -, hnames, -⟩ :=
      (h.stagedAt_eq_some (h.distinct.mem_entries.1 hmem)).1 hstored
    have hsame := StagePath.names_injective (hloc.symm.trans hnames)
    have hfile := (staged_perm area).subset (List.mem_map_of_mem hstaged)
    rw [← hsame, hpath x.2 hfile hsame.symm] at haimed
    cases haimed
  have hroot : (area.cleared gone).disk.root = area.disk.root :=
    Disk.root_clear _ gone
  refine h.tidy.contentAt?_congr hafter hroot fun content time => ?_
  have hin := path.dotless_names.outside
  dsimp only [StagingArea.cleared]
  rw [← Disk.look_inside hin, Disk.look_clear, if_neg hkept,
    Disk.look_inside hin]

variable (h : area.Orderly) (hlist : faults.fails .list = false)
  (hfree : ∀ f ∈ area.files, faults.stuck f.path.text = false)
  (hf : f ∈ area.files)

include h hlist hfree

/-- What a delete by an accepted pattern leaves, if nothing hinders it. -/
theorem mem_files_delete (hread : Glob.read pattern = .ok glob)
    (other : StoredFile) :
    other ∈ (delete faults area pattern).2.files
      ↔ other ∈ area.files ∧ glob.matches other.path.text = false := by
  obtain ⟨-, hleft⟩ := files_of_leadsBack h.distinct hread hlist
    (leadsBack_of_orderly h)
  rw [hleft]
  refine and_congr_right fun hother => ?_
  rw [hfree other hother, Bool.not_false, Bool.and_true]

include hf

/-- A delete by the path of a file removes it alone if the path matches it
alone. -/
theorem lost_iff_singled :
    area.Lost (delete faults area f.path.text).2 f ↔ area.Singled f := by
  constructor
  · -- A pattern that is refused would leave the file.
    intro hlost
    have hgone : f ∉ (delete faults area f.path.text).2.files :=
      fun hmem => ((hlost.files f).1 hmem).2 rfl
    cases hread : Glob.read f.path.text with
    | error failure =>
        unfold delete at hgone
        rw [hread] at hgone
        exact absurd hf hgone
    | ok glob =>
        intro other hother
        have hleft := mem_files_delete h hlist hfree hread other
        rw [hlost.files other, and_congr_right_iff] at hleft
        rw [Sweep.aims_iff hread, ← not_iff_not, Bool.not_eq_true]
        exact (hleft hother).symm
  · intro hone
    obtain ⟨glob, hread, hself⟩ := (hone f hf).2 rfl
    have hmatches : ∀ other ∈ area.files,
        glob.matches other.path.text = true ↔ other = f := by
      intro other hother
      rw [← Sweep.aims_iff hread, hone other hother]
    constructor
    · intro other
      rw [mem_files_delete h hlist hfree hread]
      refine and_congr_right fun hother => ?_
      rw [← Bool.not_eq_true, hmatches other hother]
    · intro path hpath
      refine contentAt?_delete h hread hlist fun other hother hsame => ?_
      rw [← Bool.not_eq_true, ← hsame, hmatches other hother]
      rintro rfl
      exact hpath hsame.symm

/-- Then one is what it tells. -/
theorem answer_of_singled (hone : area.Singled f) :
    (delete faults area f.path.text).1 = .ok 1 := by
  obtain ⟨glob, hread, -⟩ := (hone f hf).2 rfl
  obtain ⟨hanswer, -⟩ := files_of_leadsBack h.distinct hread hlist
    (leadsBack_of_orderly h)
  have hnodup : area.files.Nodup :=
    h.nodup_files.imp fun hne heq => hne (congrArg StoredFile.path heq)
  have hcount : area.files.countP (fun other =>
      glob.matches other.path.text && !faults.stuck other.path.text)
        = area.files.count f := by
    refine List.countP_congr fun other hother => ?_
    rw [hfree other hother, Bool.not_false, Bool.and_true, beq_iff_eq,
      ← hone other hother, Sweep.aims_iff hread]
  rw [hanswer, hcount, List.count_eq_one_of_mem hnodup hf]

end Desk

-- =========================================================== in every area

/-- A path with an operator that matches itself matches another path of the
same depth. -/
theorem StagePath.exists_rival (hop : ¬ Glob.Literal path.chars)
    (hself : Sweep.Aims path.text path) :
    ∃ other : StagePath, other ≠ path ∧ Sweep.Aims path.text other
      ∧ other.pieces.length = path.pieces.length
      ∧ (Disk.Passable home path.names
          → Disk.Passable home other.names) := by
  obtain ⟨glob, hread, hm⟩ := hself
  obtain ⟨front, c, back, hchars, hslash, hvary⟩ :=
    Glob.matches_varied hread hm (path.toList_text ▸ hop)
  rw [path.toList_text] at hchars
  -- Of two digits one is not the character that it stands for.
  obtain ⟨d, hd, hne⟩ : ∃ d : Char, d.isDigit = true ∧ d ≠ c := by
    by_cases hc : c = '0'
    · exact ⟨'1', by decide, by rw [hc]; decide⟩
    · exact ⟨'0', by decide, Ne.symm hc⟩
  obtain ⟨other, hother, hdepth, hfit⟩ :=
    path.exists_varied hchars hslash hd
  refine ⟨other, ?_, ⟨glob, hread, ?_⟩, hdepth, hfit⟩
  · rintro rfl
    rw [hchars] at hother
    exact hne (List.cons_eq_cons.1 (List.append_cancel_left hother)).1.symm
  · unfold StagePath.text
    rw [hother]
    exact hvary d (by rintro rfl; cases hd)

/-- With an operator in it a path that can be looked up has a file, in some
area, that it does not match, or not alone. -/
theorem StagePath.exists_not_singled (hpass : Disk.Passable home path.names)
    (hop : ¬ Glob.Literal path.chars) :
    ∃ area : StagingArea, area.Reached ∧ area.disk.root = home
      ∧ ∃ f ∈ area.files, f.path = path ∧ ¬ area.Singled f := by
  by_cases hself : Sweep.Aims path.text path
  · obtain ⟨other, hne, haims, hdepth, hfit⟩ := path.exists_rival hop hself
    obtain ⟨area, hreached, hhome, hfiles⟩ := Desk.exists_reached_filed
      (show ∀ p ∈ [path, other], Disk.Passable home p.names by
        simpa using ⟨hpass, hfit hpass⟩)
      (show ∀ p ∈ [path, other], p.pieces.length = path.pieces.length by
        simpa using hdepth)
    obtain ⟨f, hf, rfl⟩ := (hfiles path).2 (by simp)
    obtain ⟨rival, hrival, rfl⟩ := (hfiles other).2 (by simp)
    refine ⟨area, hreached, hhome, f, hf, rfl, fun hone => hne ?_⟩
    rw [(hone rival hrival).1 haims]
  · -- Then the file may be the only one there is.
    obtain ⟨area, hreached, hhome, hfiles⟩ := Desk.exists_reached_filed
      (show ∀ p ∈ [path], Disk.Passable home p.names by simpa using hpass)
      (show ∀ p ∈ [path], p.pieces.length = path.pieces.length by simp)
    obtain ⟨f, hf, rfl⟩ := (hfiles path).2 (by simp)
    exact ⟨area, hreached, hhome, f, hf, rfl,
      fun hone => hself ((hone f hf).2 rfl)⟩

/-- So it is for the paths without operators that the area does not matter. -/
theorem StagePath.singled_iff_literal
    (hpass : Disk.Passable home path.names) :
    (∀ area : StagingArea, area.Reached → area.disk.root = home →
        ∀ f ∈ area.files, f.path = path → area.Singled f)
      ↔ Glob.Literal path.chars := by
  constructor
  · intro hall
    by_contra hop
    obtain ⟨area, hreached, hhome, f, hf, hpath, hno⟩ :=
      exists_not_singled hpass hop
    exact hno (hall area hreached hhome f hf hpath)
  · rintro hliteral area hreached - f hf rfl
    exact hreached.orderly.singled_of_literal hf hliteral

end BatchAdmin
