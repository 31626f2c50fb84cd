/-
Calls that nothing makes fail.

Such a call paves the way to its path in any case: the folders that it
leaves are those on the way, whatever becomes of the file
(`Tidy.folders_create`, `Desk.folders_transfer`); a delete leaves the
folders as they are. And a file is created, or a draft opened and committed,
exactly where a file may be put once the way is paved
(`Tidy.create_isOk_iff`, `Tidy.receives_iff`).
-/
import BatchAdmin.Proofs.Staging.Folders
import BatchAdmin.Proofs.Staging.Listing
import BatchAdmin.Proofs.Staging.Uploads

namespace BatchAdmin

open Text StagingArea

-- ============================================================ the single calls

namespace StagingArea

variable {area : StagingArea} {path : StagePath} {now : Instant}
  {draft : Draft} {content : List Octet} {time : Instant}

/-- The names of a path, and of a draft beside it, are such as the system
takes. -/
structure Fits (area : StagingArea) (path : StagePath) : Prop where
  passable : Disk.Passable area.disk.root path.names
  draft : area.disk.root.tooFar
    (path.names.dropLast ++ [draftName area.drafts]) = false

/-- If nothing is made to fail, creating a file paves the way to it, and
puts it where it may be put. -/
theorem Tidy.create_none (h : area.Tidy) (path : StagePath) (now : Instant) :
    (∃ fault, area.create .none path now = (.error fault, area.paved path))
      ∨ (area.paved path).disk.Takes path.names
        ∧ area.create .none path now = (.ok ⟨path, now, 0⟩,
            (area.paved path).withFile path [] now) := by
  obtain ⟨hg, -⟩ := h.tree.makeFolders path.dotless_names.dropLast
  unfold StagingArea.create StagingArea.paved
  rw [show guard .none .create = .ok () from rfl]
  dsimp only
  rcases hmake : area.disk.makeFolders path.names.dropLast with
    ⟨fault | folder, disk⟩
  · exact .inl ⟨fault, rfl⟩
  · rw [hmake] at hg
    dsimp only
    rcases htruncate : disk.truncate path.names now with ⟨outcome, disk'⟩
    rcases hg.tree.truncate_cases path.dotless_names htruncate with
      ⟨fault, rfl, rfl⟩ | ⟨rfl, htakes, rfl⟩
    · exact .inl ⟨fault, rfl⟩
    · exact .inr ⟨htakes, rfl⟩

/-- The area with the way to a path paved, when its draft has got its
name. -/
def based (area : StagingArea) (path : StagePath) : StagingArea :=
  { area.paved path with drafts := area.drafts + 1 }

/-- The draft that is opened for a path. -/
def draftFor (area : StagingArea) (path : StagePath) : Draft :=
  ⟨path, path.names.dropLast ++ [draftName area.drafts]⟩

theorem hidden_draftFor (area : StagingArea) (path : StagePath) :
    Hidden (area.draftFor path).hidden := ⟨_, _, path.inside_folder, rfl⟩

/-- A draft in the area is put there. -/
theorem holding_eq (hl : Hidden draft.hidden) (base : StagingArea)
    (content : List Octet) (now : Instant) :
    base.holding draft content now = { base with
      disk := base.disk.put draft.hidden (.file content now) } := by
  unfold StagingArea.holding Disk.drafted
  rw [Disk.set_inside hl.inside]

theorem Tidy.root_paved (h : area.Tidy) (path : StagePath) :
    (area.paved path).disk.root = area.disk.root :=
  (h.tree.makeFolders path.dotless_names.dropLast).1.root

/-- Where a draft is opened there was nothing. -/
theorem Tidy.free_draftFor (h : area.Tidy) (path : StagePath) :
    (area.based path).disk.get? (area.draftFor path).hidden = none := by
  show (area.paved path).disk.get? _ = none
  rw [(h.paved path).hidden _ (area.hidden_draftFor path)]
  exact h.vacant _ _ path.inside_folder (Nat.le_refl _)

/-- If nothing is made to fail, opening a draft paves the way to it. -/
theorem Tidy.stage_none (h : area.Tidy) (path : StagePath) (now : Instant) :
    (∃ fault, area.stage .none path now = (.error fault, area.paved path))
      ∨ area.stage .none path now = (.ok (area.draftFor path),
          (area.based path).holding (area.draftFor path) [] now) := by
  obtain ⟨-, hmade⟩ := h.tree.makeFolders path.dotless_names.dropLast
  unfold StagingArea.stage based StagingArea.paved
  rw [show guard .none .stage = .ok () from rfl]
  dsimp only
  rcases hmake : area.disk.makeFolders path.names.dropLast with
    ⟨fault | folder, disk⟩
  · exact .inl ⟨fault, rfl⟩
  · rw [hmake] at hmade
    obtain ⟨rfl, -⟩ := hmade folder rfl
    dsimp only
    rw [Disk.below_plain _ path.inside_folder (plain_draftName _)]
    split
    · exact .inl ⟨_, rfl⟩
    · exact .inr rfl

/-- With any content, the draft is in a tidy area. -/
theorem Tidy.holding (h : area.Tidy)
    (hstage : area.stage .none path now = (.ok (area.draftFor path),
      (area.based path).holding (area.draftFor path) [] now))
    (content : List Octet) :
    ((area.based path).holding (area.draftFor path) content now).Tidy := by
  obtain ⟨hl, -, hb⟩ := (h.stage hstage).2 _ rfl
  have hwrite : ((area.based path).holding (area.draftFor path) [] now).write
      .none (area.draftFor path) 0 content now
        = .ok ((area.based path).holding (area.draftFor path) content now) :=
    write_holding content rfl
  obtain ⟨_, _, -, hb'⟩ := hb.tidy.write hl hwrite
  exact hb'.tidy

/-- A draft can be committed where its file may be put. -/
theorem Tidy.commit_of_takes (h : area.Tidy) (hl : Hidden draft.hidden)
    (hfile : area.disk.get? draft.hidden = some (.file content time))
    (ht : area.disk.Takes draft.path.names) :
    ∃ stored, (area.commit .none draft).1 = .ok stored := by
  have hrename : area.disk.rename draft.hidden draft.path.names
      = .ok ((area.disk.erase draft.hidden).put draft.path.names
          (.file content time)) := by
    unfold Disk.rename
    rw [Disk.look_inside hl.inside, hfile, Disk.unset_inside hl.inside]
    rcases h.tree.find_of_takes false draft.path.dotless_names
      draft.path.names_ne_nil ht with hfind | ⟨_, _, hfind⟩
    · rw [hfind]
      dsimp only
      rw [Disk.set_inside draft.path.dotless_names.outside]
    · rw [hfind]
      dsimp only
      rw [Disk.set_inside draft.path.dotless_names.outside]
  have htree := (h.tree.erase (by rw [hfile]; nofun)).put_takes
    (hl.takes_erase ht) draft.path.names_ne_nil content time
  unfold StagingArea.commit draftFile?
  rw [show guard .none .commit = .ok () from rfl,
    Disk.look_inside hl.inside, hfile]
  dsimp only
  rw [hrename]
  dsimp only
  rw [htree.find_of_get? draft.path.dotless_names ht.passable
    (Disk.get?_put_self _ _ _)]
  exact ⟨_, rfl⟩

section Paved

variable (h : area.Tidy) (hroot : area.disk.get? [] = some .folder)

include h

/-- The folders that are left on the way stay, whatever becomes of the
file. -/
theorem Tidy.folders_create (path : StagePath) (now : Instant) :
    (area.paved path).disk.SameFolders (area.create .none path now).2.disk := by
  rcases h.create_none path now with ⟨fault, heq⟩ | ⟨ht, heq⟩
  · rw [heq]
    exact .refl _
  · rw [heq]
    exact Disk.sameFolders_put ht.place _ _

include hroot

/-- Where a file may be put, the way can be paved. -/
theorem Tidy.makeFolders_of_takes
    (ht : (area.paved path).disk.Takes path.names) :
    (area.disk.makeFolders path.names.dropLast).1
      = .ok path.names.dropLast := by
  have hp : Disk.Passable area.disk.root path.names :=
    h.root_paved path ▸ ht.passable
  exact h.tree.makeFolders_of_unfiled path.dotless_names.dropLast hroot
    hp.dropLast ((h.tree.takes_paved_iff hroot path.dotless_names hp
      path.names_ne_nil).1 ht).1

/-- A file can be created where one may be put. -/
theorem Tidy.create_isOk_iff :
    (∃ stored, (area.create .none path now).1 = .ok stored)
      ↔ (area.paved path).disk.Takes path.names := by
  rcases h.create_none path now with ⟨fault, heq⟩ | ⟨ht, heq⟩
  · rw [heq]
    refine iff_of_false nofun fun ht => ?_
    -- Nothing is left to fail: neither the way nor the file itself.
    have hg := (h.paved path).tidy.tree
    have hmake : area.disk.makeFolders path.names.dropLast
        = (.ok path.names.dropLast, (area.paved path).disk) :=
      Prod.ext (h.makeFolders_of_takes hroot ht) rfl
    unfold StagingArea.create Disk.truncate at heq
    rw [show guard .none .create = .ok () from rfl, hmake] at heq
    dsimp only at heq
    rcases hg.find_of_takes true path.dotless_names
      path.names_ne_nil ht with hfind | ⟨_, _, hfind⟩
    · rw [hfind] at heq
      cases heq
    · rw [hfind] at heq
      cases heq
  · rw [heq]
    exact iff_of_true ⟨_, rfl⟩ ht

/-- So can a draft be opened and committed. -/
theorem Tidy.receives_iff (hfits : area.Fits path) :
    area.Receives path now ↔ (area.paved path).disk.Takes path.names := by
  have hl := area.hidden_draftFor path
  have hsame (disk : Disk) (hroot : disk.root = (area.paved path).disk.root)
      (hdisk : ∀ x, x ≠ (area.draftFor path).hidden →
        disk.get? x = (area.paved path).disk.get? x) :
      disk.Takes path.names ↔ (area.paved path).disk.Takes path.names :=
    hl.takes_congr hroot hdisk
  constructor
  · rintro ⟨draft, staged, stored, hstage, hcommit⟩
    rcases h.stage_none path now with ⟨fault, heq⟩ | heq
    · cases heq.symm.trans hstage
    · cases heq.symm.trans hstage
      have hcommits := (h.holding heq []).commits .none hl
      generalize ((area.based path).holding (area.draftFor path) []
        now).commit .none (area.draftFor path) = outcome at hcommits hcommit
      cases hcommits with
      | failed => cases hcommit
      | committed he ht =>
          rw [holding_eq hl] at ht
          refine (hsame (((area.paved path).disk.put
            (area.draftFor path).hidden (.file [] now)).erase
              (area.draftFor path).hidden) rfl fun x hx => ?_).1 ht
          rw [Disk.get?_erase, if_neg hx, Disk.get?_put, if_neg hx]
  · intro ht
    have hmake : area.disk.makeFolders path.names.dropLast
        = (.ok path.names.dropLast, (area.paved path).disk) :=
      Prod.ext (h.makeFolders_of_takes hroot ht) rfl
    have hstage : area.stage .none path now = (.ok (area.draftFor path),
        (area.based path).holding (area.draftFor path) [] now) := by
      unfold StagingArea.stage
      rw [show guard .none .stage = .ok () from rfl, hmake]
      dsimp only
      rw [Disk.below_plain _ path.inside_folder (plain_draftName _),
        h.root_paved, if_neg (by simp [hfits.draft])]
      rfl
    have hheld := h.holding hstage []
    rw [holding_eq hl] at hheld
    have ht' := (hsame ((area.paved path).disk.put (area.draftFor path).hidden
      (.file [] now)) rfl fun x hx =>
        (Disk.get?_put _ _ _ _).trans (if_neg hx)).2 ht
    obtain ⟨stored, hstored⟩ :=
      hheld.commit_of_takes hl (Disk.get?_put_self _ _ _) ht'
    rw [← holding_eq hl] at hstored
    exact ⟨_, _, stored, hstage, hstored⟩

end Paved

end StagingArea

-- ================================================================ at the desk

namespace Desk

variable {area : StagingArea} {content : Content}

/-- The folders that are left by a transfer are those on the way to its
path. -/
theorem folders_transfer (h : area.Tidy) (hcontent : content.octets ≠ [])
    (path : StagePath) (now : Instant) :
    (area.paved path).disk.SameFolders
      (transfer .none area path content now).2.disk := by
  have hsome : ¬content.chunks.all (·.isEmpty) = true := by
    rwa [← Content.octets_eq_nil]
  have hl := area.hidden_draftFor path
  unfold transfer
  rw [if_neg hsome]
  rcases h.stage_none path now with ⟨fault, heq⟩ | heq
  · rw [heq]
    exact .refl _
  · -- A draft that is discarded leaves what there was before it.
    have hdiscard : (area.paved path).disk.SameFolders
        ((area.based path).discard (area.draftFor path)).disk := by
      rw [discard_eq hl]
      refine Disk.sameFolders_erase (d := (area.based path).disk) ?_
      rw [Disk.mem_folders, h.free_draftFor]
      nofun
    rw [heq]
    dsimp only
    rw [fill_of_writes content.chunks 0 [] fun _ _ => rfl]
    dsimp only
    split
    · rw [discard_holding]
      exact hdiscard
    · have hcommits := (h.holding heq ([] ++ content.chunks.flatten)).commits
        .none hl
      generalize ((area.based path).holding (area.draftFor path)
        ([] ++ content.chunks.flatten) now).commit .none (area.draftFor path)
          = outcome at hcommits ⊢
      cases hcommits with
      | failed =>
          dsimp only
          rw [discard_holding]
          exact hdiscard
      | committed he ht =>
          refine .trans ?_ (Disk.sameFolders_put ht.place _ _)
          rw [← discard_eq hl, discard_holding]
          exact hdiscard

/-- Removing files leaves all folders. -/
theorem folders_removeAll (h : area.Orderly) (left : List StoredFile) :
    area.disk.SameFolders (removeAll .none area left).2.disk := by
  induction left generalizing area with
  | nil => exact .refl _
  | cons f rest ih =>
      have hremoves := h.tidy.removes .none f.path
      unfold removeAll
      cases hr : area.remove .none f.path with
      | error fault => exact ih h
      | ok outcome =>
          obtain ⟨gone, after⟩ := outcome
          have ho := h.remove hr
          rw [hr] at hremoves
          cases hremoves with
          | missed => exact ih h
          | removed hp he =>
              refine .trans (Disk.sameFolders_erase ?_) (ih ho)
              rw [Disk.mem_folders, he]
              nofun

theorem folders_delete (h : area.Orderly) (pattern : String) :
    area.disk.SameFolders (delete .none area pattern).2.disk := by
  unfold delete
  split
  · exact .refl _
  · split
    · exact .refl _
    · exact folders_removeAll h _

end Desk

end BatchAdmin
