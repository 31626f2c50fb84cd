/-
What the staging area holds.

Two things are to be told of an area: the content of the file at each
path, and what there is at the hidden locations where drafts are. In an
area without links (`Tidy`) both change in a way that can be told in a
word (`Became`): folders on the way to a path change nothing that can be
seen, a file put at its path changes the content there and nothing else,
and what is put at or taken from the location of a draft changes that
draft and nothing else.
-/
import BatchAdmin.Staging.Area
import BatchAdmin.Proofs.Staging.Names
import BatchAdmin.Proofs.Staging.Tree
import Mathlib.Data.List.Basic

namespace BatchAdmin

open Text

-- =============================================================== the names

namespace StagePath

/-- A path tells its names apart from those of any other. -/
theorem names_injective : Function.Injective names := by
  rintro ⟨ps, hn, ha⟩ ⟨qs, hn', ha'⟩ h
  have hps : ps = qs :=
    List.map_injective_iff.2 (fun _ _ => String.ofList_injective) h
  subst hps
  rfl

theorem names_ne_nil (path : StagePath) : path.names ≠ [] := by
  unfold names
  simpa using path.nonempty

/-- What is admitted as a piece of a path. -/
theorem admissible_of_mem_names {path : StagePath} {name : String}
    (h : name ∈ path.names) : Admissible name.toList := by
  obtain ⟨p, hp, rfl⟩ := List.mem_map.1 h
  rw [String.toList_ofList]
  exact path.admissible p hp

theorem dotless_names (path : StagePath) : Disk.Dotless path.names := by
  intro name hname
  obtain ⟨-, hfault, hsep⟩ := admissible_of_mem_names hname
  refine ⟨?_, ?_, ?_⟩
  · rintro rfl
    exact absurd hfault (by decide)
  · rintro rfl
    exact absurd hfault (by decide)
  · rintro rfl
    exact absurd hsep (by decide)

/-- The folder of a path is in the area. -/
theorem inside_folder (path : StagePath) :
    Location.outside path.names.dropLast = false :=
  path.dotless_names.dropLast.outside

/-- No name of a path is reserved. -/
theorem not_isReserved_of_mem_names {path : StagePath} {name : String}
    (h : name ∈ path.names) : isReserved name.toList = false :=
  (admissible_of_mem_names h).not_isReserved

end StagePath

-- ============================================================== the drafts

namespace StagingArea

/-- A numeral padded with zeros tells its number. -/
private theorem ofDigitChars_writePadded (width n : Nat) :
    Nat.ofDigitChars 10 (writePadded width n) 0 = n := by
  have hzeros (k : Nat) :
      Nat.ofDigitChars 10 (List.replicate k '0') 0 = 0 := by
    induction k with
    | zero => rfl
    | succ k ih => rw [List.replicate_succ, Nat.ofDigitChars_cons]; exact ih
  unfold writePadded writeNat
  rw [Nat.ofDigitChars_append, hzeros]
  exact Nat.ofDigitChars_toDigits (by decide) (by decide)

/-- No two drafts have one name. -/
theorem draftName_injective : Function.Injective draftName := by
  intro n m h
  have hchars := List.append_cancel_left
    (List.append_cancel_right (String.ofList_injective h))
  rw [← ofDigitChars_writePadded 36 n, hchars, ofDigitChars_writePadded]

theorem isReserved_draftName (n : Nat) :
    StagePath.isReserved (draftName n).toList = true := by
  unfold draftName StagePath.isReserved
  rw [String.toList_ofList, List.isPrefixOf_iff_prefix, List.append_assoc]
  exact List.prefix_append _ _

/-- The name of a draft stands for itself. -/
theorem plain_draftName (n : Nat) : Disk.Plain (draftName n) := by
  have hreserved := isReserved_draftName n
  refine ⟨?_, ?_, ?_⟩ <;>
  · intro hname
    rw [hname] at hreserved
    exact absurd hreserved (by decide)

/-- Locations of drafts in the area: a hidden name in some folder. -/
def Hidden (loc : Location) : Prop :=
  ∃ folder n, Location.outside folder = false ∧ loc = folder ++ [draftName n]

theorem Hidden.inside {loc : Location} (h : Hidden loc) :
    Location.outside loc = false := by
  obtain ⟨folder, n, hin, rfl⟩ := h
  exact Disk.outside_concat hin (plain_draftName n)

/-- The names of a path do not lead through the location of a draft. -/
theorem Hidden.not_prefix {loc : Location} (h : Hidden loc)
    (path : StagePath) : ¬ loc <+: path.names := by
  obtain ⟨folder, n, -, rfl⟩ := h
  intro hpre
  have hmem : draftName n ∈ path.names :=
    hpre.subset (List.mem_append_right _ (List.mem_singleton_self _))
  have hnot := StagePath.not_isReserved_of_mem_names hmem
  rw [isReserved_draftName] at hnot
  cases hnot

theorem Hidden.ne_names {loc : Location} (h : Hidden loc)
    (path : StagePath) : path.names ≠ loc := by
  rintro rfl
  exact h.not_prefix path List.prefix_rfl

/-- A draft that comes or goes makes no difference to where a file may be
put. -/
theorem Hidden.takes_congr {loc : Location} (h : Hidden loc)
    {disk disk' : Disk} {path : StagePath} (hroot : disk'.root = disk.root)
    (hsame : ∀ x, x ≠ loc → disk'.get? x = disk.get? x) :
    disk'.Takes path.names ↔ disk.Takes path.names := by
  have hfolder : path.names.dropLast ≠ loc := by
    intro heq
    exact h.not_prefix path (heq ▸ List.dropLast_prefix _)
  constructor
  · rintro ⟨hp, hf, hn⟩
    rw [hsame _ hfolder] at hf
    rw [hsame _ (h.ne_names path)] at hn
    exact ⟨hroot ▸ hp, hf, hn⟩
  · rintro ⟨hp, hf, hn⟩
    rw [← hsame _ hfolder] at hf
    rw [← hsame _ (h.ne_names path)] at hn
    exact ⟨hroot ▸ hp, hf, hn⟩

theorem Hidden.takes_erase {loc : Location} (h : Hidden loc)
    {disk : Disk} {path : StagePath} (ht : disk.Takes path.names) :
    (disk.erase loc).Takes path.names := by
  have hroot : (disk.erase loc).root = disk.root := rfl
  refine (h.takes_congr hroot fun x hx => ?_).2 ht
  rw [Disk.get?_erase, if_neg hx]

-- ============================================================ the contents

/-- The content of the file that a path leads to. -/
def contentAt? (area : StagingArea) (path : StagePath) :
    Option (List Octet) :=
  match area.disk.find true path.names with
  | .ok (.found _ (.file content _)) => some content
  | _ => none

/-- An area as clients make it: without links, and with the names of the
drafts to come all free. -/
structure Tidy (area : StagingArea) : Prop where
  tree : area.disk.Tree
  vacant : ∀ folder n, Location.outside folder = false → area.drafts ≤ n →
    area.disk.get? (folder ++ [draftName n]) = none

variable {area area' : StagingArea} {path : StagePath} {disk : Disk}
  {content : List Octet}

theorem tidy_fresh (root : StagingRoot) : (fresh root).Tidy := by
  refine ⟨Disk.tree_fresh root, fun folder n _ _ => ?_⟩
  exact (Disk.get?_fresh root _).trans (if_neg (by simp))

/-- A disk without links on which the drafts are the same is as tidy. -/
theorem Tidy.of_tree (h : area.Tidy) (htree : disk.Tree)
    (hsame : ∀ loc, Hidden loc → disk.get? loc = area.disk.get? loc) :
    Tidy { area with disk } := by
  refine ⟨htree, fun folder n hin hn => ?_⟩
  rw [hsame _ ⟨folder, n, hin, rfl⟩]
  exact h.vacant folder n hin hn

/-- A file is at the location that its path spells. -/
theorem Tidy.contentAt?_eq_some (h : area.Tidy) :
    area.contentAt? path = some content
      ↔ Disk.Passable area.disk.root path.names ∧ ∃ time,
          area.disk.get? path.names = some (.file content time) := by
  unfold contentAt?
  constructor
  · intro hc
    split at hc
    · rename_i loc content' time hf
      injection hc with hc
      subst hc
      obtain ⟨hp, hleads⟩ := h.tree.find_leads path.dotless_names hf
      cases hleads with
      | found he => exact ⟨hp, time, he⟩
    · cases hc
  · rintro ⟨hp, time, he⟩
    rw [h.tree.find_of_get? path.dotless_names hp he]

/-- Where the same files are, the same contents are found. -/
theorem Tidy.contentAt?_congr (h : area.Tidy) (h' : area'.Tidy)
    (hroot : area'.disk.root = area.disk.root)
    (hfiles : ∀ content time,
      area'.disk.get? path.names = some (.file content time)
        ↔ area.disk.get? path.names = some (.file content time)) :
    area'.contentAt? path = area.contentAt? path := by
  ext content
  rw [h.contentAt?_eq_some, h'.contentAt?_eq_some, hroot]
  simp only [hfiles]

-- ============================================================= the changes

/-- The area has become one with these contents, and with this at the
locations of drafts. -/
structure Became (area' : StagingArea)
    (contents : StagePath → Option (List Octet))
    (hidden : Location → Option DiskEntry) : Prop where
  tidy : area'.Tidy
  contents : ∀ path, area'.contentAt? path = contents path
  hidden : ∀ loc, Hidden loc → area'.disk.get? loc = hidden loc

theorem Tidy.same (h : area.Tidy) :
    area.Became area.contentAt? area.disk.get? :=
  ⟨h, fun _ => rfl, fun _ _ => rfl⟩

variable {contents : StagePath → Option (List Octet)}
  {hidden : Location → Option DiskEntry}

/-- Folders on the way to a file change nothing that can be seen. -/
theorem Became.grown (h : area.Became contents hidden)
    (hg : area.disk.Grown disk path.names.dropLast) :
    Became { area with disk } contents hidden := by
  have hsame (loc : Location) (hl : Hidden loc) :
      disk.get? loc = area.disk.get? loc := by
    ext e
    constructor
    · intro he
      rcases hg.new he with he | ⟨-, hpre⟩
      · exact he
      · -- A new folder is on the way to the path, and no draft is.
        exact absurd (hpre.trans (List.dropLast_prefix _))
          (hl.not_prefix path)
    · exact hg.kept
  have htidy := h.tidy.of_tree hg.tree hsame
  refine ⟨htidy, fun other => ?_, fun loc hl => ?_⟩
  · rw [← h.contents]
    refine h.tidy.contentAt?_congr htidy hg.root fun content time => ?_
    constructor
    · intro he
      rcases hg.new he with he | ⟨he, -⟩
      · exact he
      · cases he
    · exact hg.kept
  · rw [hsame loc hl, h.hidden loc hl]

/-- A file put at the location of its path can be seen there, and nothing
else has changed. -/
theorem Became.put (h : area.Became contents hidden)
    (ht : area.disk.Takes path.names) (time : Instant) :
    Became { area with disk := area.disk.put path.names (.file content time) }
      (Function.update contents path (some content)) hidden := by
  have hsame (loc : Location) (hl : Hidden loc) :
      (area.disk.put path.names (.file content time)).get? loc
        = area.disk.get? loc := by
    rw [Disk.get?_put, if_neg (Ne.symm (hl.ne_names path))]
  have htidy := h.tidy.of_tree
    (h.tidy.tree.put_takes ht path.names_ne_nil content time) hsame
  refine ⟨htidy, fun other => ?_, fun loc hl => ?_⟩
  · by_cases ho : other = path
    · subst ho
      rw [Function.update_self, htidy.contentAt?_eq_some]
      exact ⟨ht.passable, time, Disk.get?_put_self _ _ _⟩
    · rw [Function.update_of_ne ho, ← h.contents]
      refine h.tidy.contentAt?_congr htidy rfl fun content' time' => ?_
      rw [Disk.get?_put, if_neg fun heq => ho (StagePath.names_injective heq)]
  · rw [hsame loc hl, h.hidden loc hl]

/-- A file taken from the location of its path is gone, and nothing else has
changed. -/
theorem Became.erase (h : area.Became contents hidden) {time : Instant}
    (he : area.disk.get? path.names = some (.file content time)) :
    Became { area with disk := area.disk.erase path.names }
      (Function.update contents path none) hidden := by
  have hsame (loc : Location) (hl : Hidden loc) :
      (area.disk.erase path.names).get? loc = area.disk.get? loc := by
    rw [Disk.get?_erase, if_neg (Ne.symm (hl.ne_names path))]
  have htidy := h.tidy.of_tree (h.tidy.tree.erase (by rw [he]; nofun)) hsame
  refine ⟨htidy, fun other => ?_, fun loc hl => ?_⟩
  · by_cases ho : other = path
    · subst ho
      rw [Function.update_self]
      ext content'
      rw [htidy.contentAt?_eq_some, Disk.get?_erase, if_pos rfl]
      simp
    · rw [Function.update_of_ne ho, ← h.contents]
      refine h.tidy.contentAt?_congr htidy rfl fun content' time' => ?_
      rw [Disk.get?_erase,
        if_neg fun heq => ho (StagePath.names_injective heq)]
  · rw [hsame loc hl, h.hidden loc hl]

/-- What is put at or taken from the location of a draft cannot be seen. -/
theorem Became.turn (h : area.Became contents hidden) {loc : Location}
    (hl : Hidden loc) {e? : Option DiskEntry}
    (hget : ∀ x, disk.get? x = if x = loc then e? else area.disk.get? x)
    (hroot : disk.root = area.disk.root)
    (htree : disk.Tree) {drafts : Nat} (hdrafts : area.drafts ≤ drafts)
    (hvacant : e? ≠ none → ∀ folder n, Location.outside folder = false →
      drafts ≤ n → loc ≠ folder ++ [draftName n]) :
    Became ⟨disk, drafts⟩ contents (Function.update hidden loc e?) := by
  have htidy : Tidy ⟨disk, drafts⟩ := by
    refine ⟨htree, fun folder n hin hn => ?_⟩
    rw [hget]
    split
    · rename_i heq
      by_contra he
      exact hvacant he folder n hin hn heq.symm
    · exact h.tidy.vacant folder n hin (Nat.le_trans hdrafts hn)
  refine ⟨htidy, fun other => ?_, fun x hx => ?_⟩
  · rw [← h.contents]
    refine h.tidy.contentAt?_congr htidy hroot fun _ _ => ?_
    rw [hget, if_neg (hl.ne_names other)]
  · rw [hget, Function.update_apply, h.hidden x hx]

end StagingArea

end BatchAdmin
