/-
What a request comes to that has the area for itself.

In an orderly area a request that stores puts its file at its path and
changes no other, or it leaves every file as it was (`Desk.Stores`). A
delete leaves some of the files that were there, and no others
(`Desk.kept_delete`). Either way the area stays orderly, since a request
alone is served by the steps that it takes when it is not.
-/
import BatchAdmin.Proofs.Staging.Effects
import BatchAdmin.Proofs.Staging.Sweeps
import BatchAdmin.Proofs.Staging.Uploads

namespace BatchAdmin

open Text StagingArea

variable {rules : DeskRules} {faults : StoreFaults} {area after : StagingArea}
  {path : StagePath} {content : List Octet} {now : Instant}
  {stored : StoredFile}

-- ================================================================= the files

theorem Disk.file?_eq_some {d : Disk} {time : Instant} :
    d.file? path.names = some (content, time)
      ↔ d.get? path.names = some (.file content time) := by
  unfold Disk.file?
  rw [look_inside path.dotless_names.outside]
  constructor
  · intro h
    split at h
    · rename_i he
      cases h
      exact he
    · cases h
  · intro h
    rw [h]

namespace StagingArea

theorem Orderly.mem_files_iff_file? (h : area.Orderly) {f : StoredFile} :
    f ∈ area.files
      ↔ ∃ content, area.disk.file? f.path.names = some (content, f.modified)
          ∧ f.size = content.length := by
  rw [h.mem_files]
  simp only [Disk.file?_eq_some]

/-- What can be seen at a path is the file at its names. -/
theorem Orderly.contentAt?_eq (h : area.Orderly) (path : StagePath) :
    area.contentAt? path = (area.disk.file? path.names).map (·.1) := by
  ext content
  rw [h.contentAt?_eq_some, Option.map_eq_some_iff]
  constructor
  · rintro ⟨time, he⟩
    exact ⟨(content, time), Disk.file?_eq_some.2 he, rfl⟩
  · rintro ⟨⟨_, time⟩, he, rfl⟩
    exact ⟨time, Disk.file?_eq_some.1 he⟩

/-- Where the files are the same, the listings are. -/
theorem SameFiles.mem_files (hb : area.Orderly) (ha : after.Orderly)
    (h : area.SameFiles after) {f : StoredFile} :
    f ∈ after.files ↔ f ∈ area.files := by
  rw [hb.mem_files_iff_file?, ha.mem_files_iff_file?, h]

/-- A file has been put at its path, and every other is as before. -/
structure Placed (before after : StagingArea) (stored : StoredFile)
    (content : List Octet) : Prop where
  file : after.disk.file? stored.path.names = some (content, stored.modified)
  size : stored.size = content.length
  others : ∀ path, path ≠ stored.path →
    after.disk.file? path.names = before.disk.file? path.names

/-- The file is listed, with all the others. -/
theorem Placed.mem_files (h : area.Placed after stored content)
    (hb : area.Orderly) (ha : after.Orderly) {f : StoredFile} :
    f ∈ after.files
      ↔ f = stored ∨ (f.path ≠ stored.path ∧ f ∈ area.files) := by
  rw [ha.mem_files_iff_file?, hb.mem_files_iff_file?]
  by_cases hp : f.path = stored.path
  · obtain ⟨path, modified, size⟩ := f
    obtain ⟨path', modified', size'⟩ := stored
    obtain rfl : path = path' := hp
    have hsize : size' = content.length := h.size
    subst hsize
    rw [h.file]
    constructor
    · rintro ⟨_, hfile, rfl⟩
      cases hfile
      exact .inl rfl
    · rintro (heq | ⟨hne, -⟩)
      · cases heq
        exact ⟨content, rfl, rfl⟩
      · exact absurd rfl hne
  · rw [h.others _ hp]
    constructor
    · exact fun hf => .inr ⟨hp, hf⟩
    · rintro (rfl | ⟨-, hf⟩)
      · exact absurd rfl hp
      · exact hf

/-- What can be seen has changed at the path alone. -/
theorem Placed.contents (h : area.Placed after stored content)
    (hb : area.Orderly) (ha : after.Orderly) :
    after.contentAt?
      = Function.update area.contentAt? stored.path (some content) := by
  funext path
  rw [ha.contentAt?_eq, Function.update_apply]
  split
  · rename_i hp
    rw [hp, h.file]
    rfl
  · rename_i hp
    rw [h.others path hp, hb.contentAt?_eq]

end StagingArea

-- ================================================================= the orders

namespace Errand

/-- Steps with nobody in between keep an area orderly. -/
theorem orderly_run (h : area.Orderly) (e : Errand)
    (hd : ∀ draft writes left, e.phase = .filling draft writes left →
      Hidden draft.hidden
        ∧ Drafted e.order left (area.disk.get? draft.hidden))
    (rules : DeskRules) (turn : Turn) (n : Nat) :
    (e.run rules turn n area).1.Orderly := by
  induction n generalizing area e with
  | zero => exact h
  | succ n ih =>
      have hf := e.effect h.tidy hd rules turn
      exact ih (orderly_step h hd turn) _ fun _ _ _ hphase =>
        (hf.drafted hphase).2

end Errand

theorem Order.orderly_serve (h : area.Orderly) (order : Order)
    (rules : DeskRules) (faults : StoreFaults) (now : Instant) :
    (order.serve rules faults area now).2.Orderly := by
  have hrun := Errand.orderly_run h ⟨order, .asked⟩ nofun rules
    ⟨0, faults, now⟩ order.span
  rw [Errand.run_span] at hrun
  exact hrun

/-- Without links a draft that can be moved is found where it goes. -/
theorem StagingArea.Tidy.not_severs (h : area.Tidy) :
    ¬area.Severs path now := by
  rintro ⟨draft, staged, disk, fault, hstage, hrename, hlost⟩
  obtain ⟨hl, -, hb⟩ := (h.stage hstage).2 _ rfl
  have hfile := hb.hidden _ hl
  rw [Function.update_self] at hfile
  obtain ⟨-, -, hfound⟩ := hb.tidy.find_renamed hl hfile hrename
  cases hlost.symm.trans hfound

namespace Desk

/-- What a request to store at a path comes to: its file is put there, or
all files are as they were. It does not fail for what comes after that. -/
inductive Stores (rules : DeskRules) (area : StagingArea) (path : StagePath)
    (content : List Octet) : Answer FileInfo × StagingArea → Prop
  | failed {failure : Failure} {after : StagingArea}
      (hfailure : ∀ name why, failure ≠ .upload (.downstream name why))
      (hsame : area.SameFiles after) :
      Stores rules area path content (.error failure, after)
  | placed {stored : StoredFile} {after : StagingArea}
      (hpath : stored.path = path)
      (hplaced : area.Placed after stored content) :
      Stores rules area path content (.ok (info rules stored), after)

theorem storeFailure_ne (fault : DiskFault) (name why : String) :
    storeFailure fault ≠ .upload (.downstream name why) := nofun

/-- A look into overwriting does not fail for what comes after. -/
theorem check_ne {failure : Failure}
    (h : checkOverwrite rules faults area path = .error failure)
    (name why : String) : failure ≠ .upload (.downstream name why) := by
  have hchecked := checkOverwrite_checked rules faults area path
  rw [h] at hchecked
  cases hchecked with
  | taken => nofun
  | untold => nofun

theorem create_placed (h : area.Tidy) (faults : StoreFaults)
    (path : StagePath) (now : Instant) :
    (∃ fault after, area.create faults path now = (.error fault, after)
        ∧ area.SameFiles after)
      ∨ ∃ after, area.create faults path now = (.ok ⟨path, now, 0⟩, after)
        ∧ area.Placed after ⟨path, now, 0⟩ [] := by
  have hmade := Disk.furnished_makeFolders area.disk path.names.dropLast
  have hc := h.creates faults path now
  generalize area.create faults path now = outcome at hc ⊢
  cases hc with
  | failed => exact .inl ⟨_, _, rfl, fun _ => rfl⟩
  | paved => exact .inl ⟨_, _, rfl, hmade.file?⟩
  | created =>
      refine .inr ⟨_, rfl, ⟨?_, rfl, fun other hother => ?_⟩⟩
      · exact Disk.file?_eq_some.2 (Disk.get?_put_self _ _ _)
      · rw [← hmade.file?]
        refine Disk.file?_congr ?_
        have hin := other.dotless_names.outside
        unfold StagingArea.withFile
        rw [Disk.look_inside hin, Disk.look_inside hin, Disk.get?_put,
          if_neg fun heq => hother (StagePath.names_injective heq)]
        rfl

/-- A file that has been committed is told of as it is found. -/
theorem found_of_commit {draft : Draft}
    (h : area.commit faults draft = (.ok stored, after)) :
    stored.path = draft.path ∧ ∃ loc octets,
      after.disk.find true draft.path.names
          = .ok (.found loc (.file octets stored.modified))
        ∧ stored.size = octets.length := by
  unfold commit at h
  split at h
  · cases h
  · cases h
  · split at h
    · cases h
    · split at h
      · cases h
      · rename_i hfind
        cases h
        exact ⟨rfl, _, _, hfind, rfl⟩
      · cases h

/-- A file that has been stored was committed last. -/
theorem commit_of_transfer {content : Content}
    (h : transfer faults area path content now = (.ok stored, after)) :
    ∃ filled draft, draft.path = path
      ∧ StagingArea.commit filled faults draft = (.ok stored, after) := by
  unfold transfer at h
  split at h
  · cases h
  · split at h
    · cases h
    · rename_i draft staged hstage
      split at h
      · cases h
      · split at h
        · cases h
        · split at h
          · cases h
          · rename_i hcommit
            cases h
            exact ⟨_, draft, path_of_stage hstage, hcommit⟩

/-- Without links, what is stored where its path leads is stored at its
path. -/
theorem placed_of_storedAt (htidy : after.Tidy) {loc other : Location}
    {octets : List Octet}
    (hstored : area.StoredAt after stored.path content loc)
    (hfind : after.disk.find true stored.path.names
      = .ok (.found other (.file octets stored.modified)))
    (hsize : stored.size = octets.length) :
    area.Placed after stored content := by
  obtain ⟨time, hfound⟩ := hstored.found
  cases hfind.symm.trans hfound
  obtain ⟨-, hleads⟩ :=
    htidy.tree.find_leads stored.path.dotless_names hfound
  cases hleads with
  | found he =>
      exact ⟨Disk.file?_eq_some.2 he, hsize, fun path hpath =>
        hstored.others _ fun heq => hpath (StagePath.names_injective heq)⟩

/-- An upload without links in the area puts its file at its path, or leaves
all files as they were. -/
theorem transfer_placed (h : area.Orderly) {content : Content}
    (htidy : (transfer faults area path content now).2.Tidy) :
    (∃ failure after, transfer faults area path content now
          = (.error failure, after)
        ∧ (∀ name why, failure ≠ .upload (.downstream name why))
        ∧ area.SameFiles after)
      ∨ ∃ stored after, transfer faults area path content now
          = (.ok stored, after)
        ∧ stored.path = path ∧ area.Placed after stored content.octets := by
  by_cases hoctets : content.octets = []
  · refine .inl ⟨fruitless path content, area, ?_, ?_, fun _ => rfl⟩
    · unfold transfer
      rw [if_pos (Content.octets_eq_nil.1 hoctets)]
    · unfold fruitless brokenOff
      split
      · nofun
      · nofun
  · have hfresh := h.tidy.fresh
    have hcourse : Course faults area path content now
        (transfer faults area path content now) :=
      transfer_course hfresh hoctets
    rcases htransfer : transfer faults area path content now with
      ⟨answer, after⟩
    rw [htransfer] at hcourse htidy
    cases hcourse with
    | @granted stored _ loc _ _ _ hstored =>
        obtain ⟨filled, draft, rfl, hcommit⟩ := commit_of_transfer htransfer
        obtain ⟨hpath, _, octets, hfind, hsize⟩ := found_of_commit hcommit
        rw [← hpath] at hstored hfind
        exact .inr ⟨stored, after, rfl, hpath,
          placed_of_storedAt htidy hstored hfind hsize⟩
    | severed _ _ _ hsevers =>
        exact absurd hsevers h.tidy.not_severs
    | failed hbroken _ _ hsame =>
        obtain ⟨name, detail, rfl⟩ := hbroken
        exact .inl ⟨_, after, rfl, nofun, hsame⟩

theorem orderly_uploadTo (h : area.Orderly) (rules : DeskRules)
    (faults : StoreFaults) (path : StagePath) (content : Content)
    (now : Instant) :
    (uploadTo rules faults area path content now).2.Orderly := by
  have hserve : (Order.upload path.text content).serve rules faults area now
      = uploadTo rules faults area path content now := by
    show upload rules faults area path.text content now = _
    unfold upload
    rw [StagePath.read_text]
  rw [← hserve]
  exact Order.orderly_serve h _ rules faults now

theorem uploadTo_stores (h : area.Orderly) (rules : DeskRules)
    (faults : StoreFaults) (path : StagePath) (content : Content)
    (now : Instant) :
    Stores rules area path content.octets
      (uploadTo rules faults area path content now) := by
  have hafter := orderly_uploadTo h rules faults path content now
  unfold uploadTo at hafter ⊢
  cases hcheck : checkOverwrite rules faults area path with
  | error failure => exact .failed (check_ne hcheck) fun _ => rfl
  | ok _ =>
      rw [hcheck] at hafter
      dsimp only at hafter ⊢
      have htidy : (transfer faults area path content now).2.Tidy := by
        rcases htransfer : transfer faults area path content now with
          ⟨_ | _, after⟩
        · rw [htransfer] at hafter
          exact hafter.tidy
        · rw [htransfer] at hafter
          exact hafter.tidy
      rcases transfer_placed h htidy with
        ⟨failure, after, heq, hfailure, hsame⟩
          | ⟨stored, after, heq, hpath, hplaced⟩
      · rw [heq]
        exact .failed hfailure hsame
      · rw [heq]
        exact .placed hpath hplaced

theorem create_stores (h : area.Orderly) (rules : DeskRules)
    (faults : StoreFaults) {text : String}
    (hread : StagePath.read text = .ok path) (now : Instant) :
    Stores rules area path [] (create rules faults area text now) := by
  unfold create
  rw [hread]
  dsimp only
  cases hcheck : checkOverwrite rules faults area path with
  | error failure => exact .failed (check_ne hcheck) fun _ => rfl
  | ok _ =>
      dsimp only
      rcases create_placed h.tidy faults path now with
        ⟨fault, after, heq, hsame⟩ | ⟨after, heq, hplaced⟩
      · rw [heq]
        exact .failed (storeFailure_ne fault) hsame
      · rw [heq]
        exact .placed rfl hplaced

-- ================================================================ the deletes

/-- A removal takes a file away, or changes nothing. -/
theorem kept_remove (h : area.Orderly) {gone : Bool}
    (hr : area.remove faults path = .ok (gone, after)) :
    after.Orderly ∧ ∀ f ∈ after.files, f ∈ area.files := by
  have ho := h.remove hr
  refine ⟨ho, fun f hf => ?_⟩
  have hremoves := h.tidy.removes faults path
  rw [hr] at hremoves
  cases hremoves with
  | missed => exact hf
  | removed hp he =>
      obtain ⟨content, hfile, hsize⟩ := ho.mem_files.1 hf
      unfold StagingArea.without at hfile
      rw [Disk.get?_erase] at hfile
      split at hfile
      · cases hfile
      · exact h.mem_files.2 ⟨content, hfile, hsize⟩

theorem kept_removeAll (h : area.Orderly) (left : List StoredFile) :
    (removeAll faults area left).2.Orderly
      ∧ ∀ f ∈ (removeAll faults area left).2.files, f ∈ area.files := by
  induction left generalizing area with
  | nil => exact ⟨h, fun _ hf => hf⟩
  | cons f rest ih =>
      unfold removeAll
      cases hr : area.remove faults f.path with
      | error fault => exact ih h
      | ok outcome =>
          obtain ⟨gone, after⟩ := outcome
          obtain ⟨ho, hkept⟩ := kept_remove h hr
          obtain ⟨hrest, hrests⟩ := ih ho
          cases gone with
          | false => exact ⟨hrest, fun g hg => hkept g (hrests g hg)⟩
          | true => exact ⟨hrest, fun g hg => hkept g (hrests g hg)⟩

/-- A delete leaves some of the files, and no others. -/
theorem kept_delete (h : area.Orderly) (faults : StoreFaults)
    (pattern : String) :
    (delete faults area pattern).2.Orderly
      ∧ ∀ f ∈ (delete faults area pattern).2.files, f ∈ area.files := by
  unfold delete
  split
  · exact ⟨h, fun _ hf => hf⟩
  · split
    · exact ⟨h, fun _ hf => hf⟩
    · exact kept_removeAll h _

end Desk

end BatchAdmin
