/-
What each call makes of an area without links.

A call first makes the folders on the way to its path (`paved`), if it
needs any. Then it does one thing more, or fails: it puts a file at the
path (`withFile`), it changes the draft that it is for, or it takes a file
away. What a call can come to is told by one list for each of them
(`Creates`, `Stages`, `Writes`, `Commits`, `Removes`); whatever is shown
of a call is shown from its list.

From the lists it is read off what the calls make of contents and drafts
(`Became`).
-/
import BatchAdmin.Proofs.Staging.Contents

namespace BatchAdmin.StagingArea

open Text

variable {area area' : StagingArea} {path : StagePath} {faults : StoreFaults}
  {now : Instant} {content : List Octet} {draft : Draft}

-- ============================================================ what calls do

/-- The area with the folders on the way to a path. -/
def paved (area : StagingArea) (path : StagePath) : StagingArea :=
  { area with disk := (area.disk.makeFolders path.names.dropLast).2 }

/-- The area with a file at a path. -/
def withFile (area : StagingArea) (path : StagePath) (content : List Octet)
    (time : Instant) : StagingArea :=
  { area with disk := area.disk.put path.names (.file content time) }

/-- The area without what is at a location. -/
def without (area : StagingArea) (loc : Location) : StagingArea :=
  { area with disk := area.disk.erase loc }

/-- What the creation of a file can come to. -/
inductive Creates (area : StagingArea) (path : StagePath) (now : Instant) :
    Except DiskFault StoredFile × StagingArea → Prop
  | failed {fault : DiskFault} : Creates area path now (.error fault, area)
  | paved {fault : DiskFault} :
      Creates area path now (.error fault, area.paved path)
  | created (ht : (area.paved path).disk.Takes path.names) :
      Creates area path now
        (.ok ⟨path, now, 0⟩, (area.paved path).withFile path [] now)

/-- What the opening of a draft can come to. -/
inductive Stages (area : StagingArea) (path : StagePath) (now : Instant) :
    Except DiskFault Draft × StagingArea → Prop
  | failed {fault : DiskFault} : Stages area path now (.error fault, area)
  | paved {fault : DiskFault} :
      Stages area path now (.error fault, area.paved path)
  | opened
      (hf : (area.paved path).disk.get? path.names.dropLast = some .folder) :
      Stages area path now
        (.ok ⟨path, path.names.dropLast ++ [draftName area.drafts]⟩,
          ⟨(area.paved path).disk.put
              (path.names.dropLast ++ [draftName area.drafts]) (.file [] now),
            area.drafts + 1⟩)

/-- What a write to a draft can come to. -/
inductive Writes (area : StagingArea) (draft : Draft) (more : List Octet)
    (now : Instant) : Except DiskFault StagingArea → Prop
  | failed {fault : DiskFault} : Writes area draft more now (.error fault)
  | written {content : List Octet} {time : Instant}
      (he : area.disk.get? draft.hidden = some (.file content time)) :
      Writes area draft more now
        (.ok { area with
          disk := area.disk.put draft.hidden (.file (content ++ more) now) })

/-- What the commit of a draft can come to. -/
inductive Commits (area : StagingArea) (draft : Draft) :
    Except DiskFault StoredFile × StagingArea → Prop
  | failed {fault : DiskFault} : Commits area draft (.error fault, area)
  | committed {content : List Octet} {time : Instant}
      (he : area.disk.get? draft.hidden = some (.file content time))
      (ht : (area.without draft.hidden).disk.Takes draft.path.names) :
      Commits area draft (.ok ⟨draft.path, time, content.length⟩,
        (area.without draft.hidden).withFile draft.path content time)

/-- What the removal of a file can come to. -/
inductive Removes (area : StagingArea) (path : StagePath) :
    Except DiskFault (Bool × StagingArea) → Prop
  | failed {fault : DiskFault} : Removes area path (.error fault)
  | missed : Removes area path (.ok (false, area))
  | removed {content : List Octet} {time : Instant}
      (hp : Disk.Passable area.disk.root path.names)
      (he : area.disk.get? path.names = some (.file content time)) :
      Removes area path (.ok (true, area.without path.names))

-- ============================================================== the inversion

theorem Tidy.creates (h : area.Tidy) (faults : StoreFaults) (path : StagePath)
    (now : Instant) :
    area.Creates path now (area.create faults path now) := by
  obtain ⟨hg, -⟩ := h.tree.makeFolders path.dotless_names.dropLast
  have hpaved : (area.paved path).disk
      = (area.disk.makeFolders path.names.dropLast).2 := rfl
  unfold create
  split
  · exact .failed
  · rcases hmake : area.disk.makeFolders path.names.dropLast with
      ⟨fault | folder, disk⟩
    · rw [hmake] at hpaved
      subst hpaved
      exact .paved
    · rw [hmake] at hg hpaved
      dsimp only at hpaved
      subst hpaved
      dsimp only
      rcases htruncate : (area.paved path).disk.truncate path.names now with
        ⟨outcome, disk⟩
      rcases hg.tree.truncate_cases path.dotless_names htruncate with
        ⟨fault, rfl, rfl⟩ | ⟨rfl, htakes, rfl⟩
      · exact .paved
      · exact .created htakes

theorem Tidy.stages (h : area.Tidy) (faults : StoreFaults) (path : StagePath)
    (now : Instant) :
    area.Stages path now (area.stage faults path now) := by
  obtain ⟨-, hmade⟩ := h.tree.makeFolders path.dotless_names.dropLast
  have hpaved : (area.paved path).disk
      = (area.disk.makeFolders path.names.dropLast).2 := rfl
  unfold stage
  split
  · exact .failed
  · rcases hmake : area.disk.makeFolders path.names.dropLast with
      ⟨fault | folder, disk⟩
    · rw [hmake] at hpaved
      subst hpaved
      exact .paved
    · rw [hmake] at hmade hpaved
      dsimp only at hpaved
      subst hpaved
      obtain ⟨rfl, hfolder⟩ := hmade folder rfl
      have hname := plain_draftName area.drafts
      dsimp only
      rw [Disk.below_plain _ path.inside_folder hname,
        Disk.set_inside (Disk.outside_concat path.inside_folder hname)]
      split
      · exact .paved
      · exact .opened hfolder

theorem writes (area : StagingArea) (faults : StoreFaults)
    (hl : Hidden draft.hidden) (earlier : Nat) (more : List Octet)
    (now : Instant) :
    area.Writes draft more now (area.write faults draft earlier more now) := by
  unfold write Disk.append
  simp only [Disk.look_inside hl.inside, Disk.set_inside hl.inside]
  cases guard faults (.write earlier) with
  | error fault => exact .failed
  | ok _ =>
      cases he : area.disk.get? draft.hidden with
      | none => exact .failed
      | some e =>
          cases e with
          | folder => exact .failed
          | link target => exact .failed
          | file content time => exact .written he

/-- Without links a draft that has been moved is found at its path. -/
theorem Tidy.find_renamed (h : area.Tidy) {loc : Location} {disk : Disk}
    {time : Instant} (hl : Hidden loc)
    (he : area.disk.get? loc = some (.file content time))
    (hr : area.disk.rename loc path.names = .ok disk) :
    (area.disk.erase loc).Takes path.names
      ∧ disk = (area.disk.erase loc).put path.names (.file content time)
      ∧ disk.find true path.names
        = .ok (.found path.names (.file content time)) := by
  obtain ⟨e, he', htakes, rfl⟩ :=
    h.tree.rename_cases path.dotless_names hl.inside hr
  cases he.symm.trans he'
  have ht := hl.takes_erase htakes
  have htree := (h.tree.erase (by rw [he]; nofun)).put_takes ht
    path.names_ne_nil content time
  exact ⟨ht, rfl, htree.find_of_get? path.dotless_names htakes.passable
    (Disk.get?_put_self _ _ _)⟩

/-- So only a commit that changes nothing can fail. -/
theorem Tidy.commits (h : area.Tidy) (faults : StoreFaults)
    (hl : Hidden draft.hidden) :
    area.Commits draft (area.commit faults draft) := by
  unfold commit draftFile?
  rw [Disk.look_inside hl.inside]
  cases guard faults .commit with
  | error fault => exact .failed
  | ok _ =>
      cases he : area.disk.get? draft.hidden with
      | none => exact .failed
      | some e =>
          cases e with
          | folder => exact .failed
          | link target => exact .failed
          | file content time =>
              dsimp only
              cases hr : area.disk.rename draft.hidden draft.path.names with
              | error fault => exact .failed
              | ok disk =>
                  obtain ⟨ht, rfl, hfound⟩ := h.find_renamed hl he hr
                  dsimp only
                  rw [hfound]
                  exact .committed he ht

theorem Tidy.removes (h : area.Tidy) (faults : StoreFaults)
    (path : StagePath) : area.Removes path (area.remove faults path) := by
  unfold remove
  dsimp only
  by_cases hstuck : faults.stuck path.text = true
  · rw [if_pos hstuck]
    exact .failed
  · rw [if_neg hstuck]
    unfold Disk.remove
    cases hf : area.disk.find false path.names with
    | error fault =>
        cases fault with
        | notFound => exact .missed
        | _ => exact .failed
    | ok place =>
        obtain ⟨hp, hleads⟩ := h.tree.find_leads path.dotless_names hf
        cases hleads with
        | free hfree hfolder => exact .missed
        | @found e he =>
            cases e with
            | folder => exact .failed
            | link target => exact absurd he (h.tree.unlinked _ _)
            | file content time =>
                dsimp only
                rw [Disk.unset_inside path.dotless_names.outside]
                exact .removed hp he

-- =============================================================== the changes

theorem Tidy.paved (h : area.Tidy) (path : StagePath) :
    (area.paved path).Became area.contentAt? area.disk.get? :=
  h.same.grown (h.tree.makeFolders path.dotless_names.dropLast).1

/-- Creating a file leaves it empty; failing to do so changes nothing that
can be seen. -/
theorem Tidy.create (h : area.Tidy)
    {answer : Except DiskFault StoredFile}
    (hc : area.create faults path now = (answer, area')) :
    (∀ fault, answer = .error fault →
        area'.Became area.contentAt? area.disk.get?)
      ∧ (∀ stored, answer = .ok stored →
        area'.Became (Function.update area.contentAt? path (some []))
          area.disk.get?) := by
  have hcreates := h.creates faults path now
  rw [hc] at hcreates
  cases hcreates with
  | failed => exact ⟨fun _ _ => h.same, nofun⟩
  | paved => exact ⟨fun _ _ => h.paved path, nofun⟩
  | created ht => exact ⟨nofun, fun _ _ => (h.paved path).put ht now⟩

/-- A draft is for the path that it was opened for. -/
theorem path_of_stage {draft : Draft}
    (hs : area.stage faults path now = (.ok draft, area')) :
    draft.path = path := by
  unfold StagingArea.stage at hs
  split at hs
  · cases hs
  · split at hs
    · cases hs
    · dsimp only at hs
      split at hs
      · cases hs
      · cases hs
        rfl

/-- A draft is opened at a location that was free; failing to do so changes
nothing that can be seen. -/
theorem Tidy.stage (h : area.Tidy) {answer : Except DiskFault Draft}
    (hs : area.stage faults path now = (answer, area')) :
    (∀ fault, answer = .error fault →
        area'.Became area.contentAt? area.disk.get?)
      ∧ (∀ draft, answer = .ok draft →
        Hidden draft.hidden ∧ area.disk.get? draft.hidden = none
          ∧ area'.Became area.contentAt?
              (Function.update area.disk.get? draft.hidden
                (some (.file [] now)))) := by
  have hstages := h.stages faults path now
  rw [hs] at hstages
  have hgrown := h.paved path
  cases hstages with
  | failed => exact ⟨fun _ _ => h.same, nofun⟩
  | paved => exact ⟨fun _ _ => hgrown, nofun⟩
  | opened hfolder =>
      refine ⟨nofun, ?_⟩
      rintro draft ⟨⟩
      have hl : Hidden (path.names.dropLast ++ [draftName area.drafts]) :=
        ⟨_, area.drafts, path.inside_folder, rfl⟩
      have hfree := h.vacant path.names.dropLast area.drafts
        path.inside_folder (Nat.le_refl _)
      have htree : ((area.paved path).disk.put
          (path.names.dropLast ++ [draftName area.drafts])
          (.file [] now)).Tree :=
        hgrown.tidy.tree.put hfolder
          (by rw [hgrown.hidden _ hl, hfree]; nofun) nofun
      refine ⟨hl, hfree, hgrown.turn hl (Disk.get?_put _ _ _) rfl htree
        (Nat.le_succ _) ?_⟩
      -- Names of drafts to come have greater numbers than this one.
      intro _ folder' n _ hn heq
      have hname := draftName_injective
        (List.singleton_injective (List.append_inj' heq rfl).2)
      exact absurd hn (hname ▸ Nat.not_succ_le_self _)

theorem discard_eq (hl : Hidden draft.hidden) :
    area.discard draft = area.without draft.hidden := by
  unfold StagingArea.discard without
  rw [Disk.unset_inside hl.inside]

/-- A discarded draft is gone. -/
theorem Tidy.discard (h : area.Tidy) (hl : Hidden draft.hidden)
    (hfile : area.disk.get? draft.hidden ≠ some .folder) :
    (area.discard draft).Became area.contentAt?
      (Function.update area.disk.get? draft.hidden none) := by
  rw [discard_eq hl]
  exact h.same.turn hl (Disk.get?_erase _ _) rfl (h.tree.erase hfile)
    (Nat.le_refl _) (absurd rfl)

/-- A write adds to its draft. -/
theorem Tidy.write (h : area.Tidy) {earlier : Nat} {more : List Octet}
    (hl : Hidden draft.hidden)
    (hw : area.write faults draft earlier more now = .ok area') :
    ∃ content time, area.disk.get? draft.hidden = some (.file content time)
      ∧ area'.Became area.contentAt?
          (Function.update area.disk.get? draft.hidden
            (some (.file (content ++ more) now))) := by
  have hwrites := area.writes faults hl earlier more now
  rw [hw] at hwrites
  cases hwrites with
  | written he =>
      refine ⟨_, _, he, h.same.turn hl (Disk.get?_put _ _ _) rfl
        (h.tree.put_file he _ _) (Nat.le_refl _) ?_⟩
      intro _ folder n hin hn heq
      rw [heq, h.vacant folder n hin hn] at he
      cases he

/-- A commit puts the content of the draft at its path; without links the
file is found there, so one that fails has changed nothing. -/
theorem Tidy.commit (h : area.Tidy)
    {answer : Except DiskFault StoredFile} (hl : Hidden draft.hidden)
    (hc : area.commit faults draft = (answer, area')) :
    (∀ fault, answer = .error fault → area' = area)
      ∧ (∀ stored, answer = .ok stored →
        ∃ content time,
          area.disk.get? draft.hidden = some (.file content time)
            ∧ area'.Became
                (Function.update area.contentAt? draft.path (some content))
                (Function.update area.disk.get? draft.hidden none)) := by
  have hcommits := h.commits faults hl
  rw [hc] at hcommits
  cases hcommits with
  | failed => exact ⟨fun _ _ => rfl, nofun⟩
  | committed he ht =>
      -- First the draft goes, then its content is put.
      have hgone := h.discard hl (by rw [he]; nofun)
      rw [discard_eq hl] at hgone
      exact ⟨nofun, fun _ _ => ⟨_, _, he, hgone.put ht _⟩⟩

/-- A removal that has found a file has taken it away, and one that has not
has changed nothing. -/
theorem Tidy.remove (h : area.Tidy) {gone : Bool}
    (hr : area.remove faults path = .ok (gone, area')) :
    (gone = false → area' = area)
      ∧ (gone = true → area.contentAt? path ≠ none
        ∧ area'.Became (Function.update area.contentAt? path none)
            area.disk.get?) := by
  have hremoves := h.removes faults path
  rw [hr] at hremoves
  cases hremoves with
  | missed => exact ⟨fun _ => rfl, nofun⟩
  | removed hp he =>
      refine ⟨nofun, fun _ => ⟨?_, h.same.erase he⟩⟩
      rw [h.contentAt?_eq_some.2 ⟨hp, _, he⟩]
      nofun

end BatchAdmin.StagingArea
