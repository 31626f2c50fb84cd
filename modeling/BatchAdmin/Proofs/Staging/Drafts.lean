/-
Drafts in an area with links.

Opening a draft adds folders and the empty draft (`stage_cases`). From then
on it is told in one line what each call makes of the area: a write adds to
the draft, a discard leaves nothing of it, and a commit moves it first and
then looks for its file. `Opening.ends` tells how a draft can end that is
not hindered: it cannot be moved, it is stored, or it has taken the place of
a link that its path leads through, and is not found any more (`Severs`).
-/
import BatchAdmin.Proofs.Staging.Contents
import BatchAdmin.Proofs.Staging.Moves

namespace BatchAdmin

open Text

-- ================================================================ the names

namespace StagePath

theorem ends_names (path : StagePath) : Disk.Ends path.names path.fileName := by
  unfold Disk.Ends names fileName
  rw [List.getLast?_map, List.getLast?_eq_some_getLast path.nonempty]
  rfl

theorem fileName_mem_names (path : StagePath) :
    path.fileName ∈ path.names :=
  List.mem_of_getLast? path.ends_names

theorem plain_fileName (path : StagePath) : Disk.Plain path.fileName :=
  path.dotless_names _ path.fileName_mem_names

end StagePath

namespace StagingArea

variable {area area' base : StagingArea} {path : StagePath}
  {faults : StoreFaults} {now : Instant} {draft : Draft}
  {content : List Octet} {loc : Location}

-- ============================================================ before, after

/-- The same regular files, wherever they are. -/
def SameFiles (before after : StagingArea) : Prop :=
  ∀ loc, after.disk.file? loc = before.disk.file? loc

/-- The path leads to a file with this content; every other file is as
before, and so are the drafts. -/
structure StoredAt (before after : StagingArea) (path : StagePath)
    (content : List Octet) (loc : Location) : Prop where
  found : ∃ time, after.disk.find true path.names
    = .ok (.found loc (.file content time))
  name : loc.getLast? = some path.fileName
  others : ∀ x, x ≠ loc → after.disk.file? x = before.disk.file? x
  drafts : ∀ x name, x.getLast? = some name →
    StagePath.isReserved name.toList = true →
      after.disk.file? x = before.disk.file? x

/-- Where a draft can be opened, nothing has its name. -/
def Fresh (area : StagingArea) : Prop :=
  ∀ (path : StagePath) folder disk,
    area.disk.makeFolders path.names.dropLast = (.ok folder, disk) →
      disk.look (disk.root.below folder (draftName area.drafts)) = none

/-- A draft can be opened for the path and moved there, but is not found
by it then. -/
def Severs (area : StagingArea) (path : StagePath) (now : Instant) : Prop :=
  ∃ draft staged disk fault, area.stage .none path now = (.ok draft, staged)
    ∧ staged.disk.rename draft.hidden path.names = .ok disk
    ∧ disk.find true path.names = .error fault

/-- A draft can be opened for the path and committed. -/
def Receives (area : StagingArea) (path : StagePath) (now : Instant) :
    Prop :=
  ∃ draft staged stored, area.stage .none path now = (.ok draft, staged)
    ∧ (staged.commit .none draft).1 = .ok stored

-- =============================================================== the drafts

/-- The area with this much of a draft. -/
def holding (base : StagingArea) (draft : Draft) (content : List Octet)
    (now : Instant) : StagingArea :=
  { base with disk := base.disk.drafted draft.hidden content now }

/-- The area where the draft has been moved to a location. -/
def settled (base : StagingArea) (draft : Draft) (loc : Location)
    (content : List Octet) (now : Instant) : StagingArea :=
  { base with disk := base.disk.moved draft.hidden loc content now }

/-- A draft can be opened beside this one: all that is new are folders on
the way to the path, and the name of the draft is free. -/
structure Opening (area base : StagingArea) (path : StagePath)
    (draft : Draft) : Prop where
  folders : area.disk.Furnished base.disk path.names.dropLast
  path : draft.path = path
  hidden : ∀ name ∈ draft.hidden.getLast?,
    StagePath.isReserved name.toList = true
  free : base.disk.look draft.hidden = none

theorem Opening.files (h : area.Opening base path draft) :
    area.SameFiles base := h.folders.file?

/-- Opening a draft adds folders and the empty draft; if it fails, at most
folders. -/
theorem stage_cases (hfresh : area.Fresh) (path : StagePath)
    (now : Instant) :
    (∃ fault after, area.stage .none path now = (.error fault, after)
        ∧ area.SameFiles after)
      ∨ ∃ draft base, area.stage .none path now
            = (.ok draft, base.holding draft [] now)
          ∧ area.Opening base path draft := by
  unfold stage
  rw [show guard .none .stage = .ok () from rfl]
  have hmade := Disk.furnished_makeFolders area.disk path.names.dropLast
  rcases hmake : area.disk.makeFolders path.names.dropLast with
    ⟨fault | folder, disk⟩
  · rw [hmake] at hmade
    exact .inl ⟨fault, _, rfl, hmade.file?⟩
  · rw [hmake] at hmade
    dsimp only
    split
    · exact .inl ⟨_, _, rfl, hmade.file?⟩
    · refine .inr ⟨⟨path, disk.root.below folder (draftName area.drafts)⟩,
        ⟨disk, area.drafts + 1⟩, rfl,
        ⟨hmade, rfl, fun name hname => ?_, hfresh path folder disk hmake⟩⟩
      rcases Disk.below_cases disk.root folder (draftName area.drafts) with
        hnil | hconcat
      · rw [hnil] at hname
        cases hname
      · rw [hconcat, List.getLast?_concat] at hname
        cases hname
        exact isReserved_draftName _

/-- A draft has a name of its own where neither the root nor any entry has
that name. -/
theorem fresh_of_unnamed
    (hsite : ("/" :: area.disk.root.site).getLast?
      ≠ some (draftName area.drafts))
    (hnames : ∀ entry ∈ area.disk.entries ++ area.disk.abroad,
      entry.1.getLast? ≠ some (draftName area.drafts)) : area.Fresh := by
  intro path folder disk hmake
  have hmade := Disk.furnished_makeFolders area.disk path.names.dropLast
  rw [hmake] at hmade
  have hbelow : disk.root.below folder (draftName area.drafts)
      = folder ++ [draftName area.drafts] := by
    refine if_neg fun heq => hsite ?_
    rw [← hmade.root, ← heq, List.getLast?_concat]
  rw [hbelow]
  rcases hmade.look (folder ++ [draftName area.drafts]) with
    hsame | ⟨-, -, hnew⟩
  · rw [hsame]
    cases he : area.disk.look (folder ++ [draftName area.drafts]) with
    | none => rfl
    | some e =>
        exact absurd List.getLast?_concat (hnames _ (Disk.mem_of_look he))
  · -- None of the folders made has the name of a draft.
    have hmem := hnew _ List.getLast?_concat
    have hnot := StagePath.not_isReserved_of_mem_names
      ((List.dropLast_prefix _).subset hmem)
    rw [isReserved_draftName] at hnot
    cases hnot

/-- In an area without links a draft has a name of its own. -/
theorem Tidy.fresh (h : area.Tidy) : area.Fresh := by
  intro path folder disk hmake
  obtain ⟨hgrown, hmade⟩ := h.tree.makeFolders path.dotless_names.dropLast
  rw [hmake] at hgrown hmade
  obtain ⟨rfl, -⟩ := hmade folder rfl
  have hname := plain_draftName area.drafts
  have hl : Hidden (path.names.dropLast ++ [draftName area.drafts]) :=
    ⟨_, _, path.inside_folder, rfl⟩
  rw [Disk.below_plain _ path.inside_folder hname, Disk.look_inside hl.inside,
    (h.same.grown hgrown).hidden _ hl]
  exact h.vacant _ _ path.inside_folder (Nat.le_refl _)

/-- A fault in opening drafts is the only difference that faults make. -/
theorem stage_eq_none (h : faults.fails .stage = false) :
    area.stage faults path now = area.stage .none path now := by
  unfold stage guard
  rw [h]
  rfl

theorem stage_of_fails (h : faults.fails .stage = true) :
    area.stage faults path now = (.error .unavailable, area) := by
  unfold stage guard
  rw [h]
  rfl

section Opened

variable (h : area.Opening base path draft)

include h

/-- What is discarded leaves nothing. -/
theorem Opening.discard : area.SameFiles (base.discard draft) := by
  intro x
  rw [← h.files x]
  refine Disk.file?_congr ?_
  unfold StagingArea.discard
  rw [Disk.look_unset]
  split
  · rename_i hx
    rw [hx, h.free]
  · rfl

/-- A draft has another name than its path. -/
theorem Opening.getLast?_ne : draft.hidden.getLast? ≠ some path.fileName := by
  intro hname
  have hnot := StagePath.not_isReserved_of_mem_names path.fileName_mem_names
  rw [h.hidden _ hname] at hnot
  cases hnot

theorem Opening.moves (now : Instant) :
    base.disk.Moves draft.hidden path.names path.fileName now :=
  Disk.moves path.plain_fileName path.ends_names h.getLast?_ne

/-- Where a draft has been moved, only the file there is another. -/
theorem Opening.file?_moved {x : Location} (hx : x ≠ loc) :
    (base.settled draft loc content now).disk.file? x
      = area.disk.file? x := by
  rw [← h.files x]
  refine Disk.file?_congr ?_
  unfold settled Disk.moved
  rw [Disk.look_set, if_neg hx, Disk.look_unset]
  split
  · rename_i heq
    rw [heq, h.free]
  · rfl

/-- A draft that is found where it has been moved is stored. -/
theorem Opening.storedAt (hname : loc.getLast? = some path.fileName)
    (hfound : (base.settled draft loc content now).disk.find true path.names
      = .ok (.found loc (.file content now))) :
    area.StoredAt (base.settled draft loc content now) path content loc := by
  refine ⟨⟨now, hfound⟩, hname, fun x hx => h.file?_moved hx,
    fun x name hx hreserved => h.file?_moved ?_⟩
  rintro rfl
  obtain rfl := Option.some.inj (hname.symm.trans hx)
  have hnot := StagePath.not_isReserved_of_mem_names path.fileName_mem_names
  rw [hreserved] at hnot
  cases hnot

end Opened

-- ================================================================ the calls

theorem write_of_fails {earlier : Nat} {more : List Octet}
    (h : faults.fails (.write earlier) = true) :
    area.write faults draft earlier more now = .error .unavailable := by
  unfold write guard
  rw [h]
  rfl

theorem write_holding {earlier : Nat} (more : List Octet)
    (h : faults.fails (.write earlier) = false) :
    (base.holding draft content now).write faults draft earlier more now
      = .ok (base.holding draft (content ++ more) now) := by
  have happend : (base.disk.drafted draft.hidden content now).append
      draft.hidden more now
        = .ok (base.disk.drafted draft.hidden (content ++ more) now) := by
    unfold Disk.append Disk.drafted
    rw [Disk.look_set_self]
    dsimp only
    rw [Disk.set_set]
  unfold write guard holding
  rw [h]
  dsimp only
  rw [happend]
  rfl

theorem discard_holding :
    (base.holding draft content now).discard draft = base.discard draft := by
  unfold discard holding Disk.drafted
  rw [Disk.unset_set]

theorem commit_of_fails (h : faults.fails .commit = true) :
    area.commit faults draft = (.error .unavailable, area) := by
  unfold commit guard
  rw [h]
  rfl

theorem draftFile?_holding :
    (base.holding draft content now).draftFile? draft
      = some (content, now) := by
  unfold draftFile? holding Disk.drafted
  rw [Disk.look_set_self]

section Commit

variable (hc : faults.fails .commit = false)

include hc

theorem commit_barred {fault : DiskFault}
    (h : (base.disk.drafted draft.hidden content now).rename draft.hidden
      draft.path.names = .error fault) :
    (base.holding draft content now).commit faults draft
      = (.error fault, base.holding draft content now) := by
  unfold commit guard
  rw [hc, draftFile?_holding]
  dsimp only [holding, Bool.false_eq_true, if_false]
  rw [h]
  rfl

theorem commit_moved
    (h : (base.disk.drafted draft.hidden content now).rename draft.hidden
      draft.path.names = .ok (base.disk.moved draft.hidden loc content now)) :
    (base.holding draft content now).commit faults draft
      = match (base.disk.moved draft.hidden loc content now).find true
          draft.path.names with
        | .error fault => (.error fault, base.settled draft loc content now)
        | .ok (.found _ (.file content' modified)) =>
            (.ok { path := draft.path, modified, size := content'.length },
              base.settled draft loc content now)
        | .ok _ => (.error .notFound, base.settled draft loc content now) := by
  unfold commit guard
  rw [hc, draftFile?_holding]
  dsimp only [holding, Bool.false_eq_true, if_false]
  rw [h]
  rfl

end Commit

-- ================================================================= the ends

/-- How an upload can end once a draft has been opened for it, if nothing
is made to fail; it is the same for every content. -/
inductive Opening.Ends (area base : StagingArea) (path : StagePath)
    (draft : Draft) (now : Instant) : Prop
  | barred (hr : ¬area.Receives path now) (hs : ¬area.Severs path now)
      (h : ∀ content faults, faults.fails .commit = false →
        ∃ fault, (base.holding draft content now).commit faults draft
          = (.error fault, base.holding draft content now))
  | stored (loc : Location) (hr : area.Receives path now)
      (hs : ¬area.Severs path now)
      (h : ∀ content faults, faults.fails .commit = false →
        ∃ stored, (base.holding draft content now).commit faults draft
            = (.ok stored, base.settled draft loc content now)
          ∧ area.StoredAt (base.settled draft loc content now) path content
              loc)
  | severed (loc : Location) (hr : ¬area.Receives path now)
      (hs : area.Severs path now) (hfree : area.disk.file? loc = none)
      (hdraft : loc ≠ draft.hidden)
      (h : ∀ content faults, faults.fails .commit = false →
        ∃ fault, (base.holding draft content now).commit faults draft
          = (.error fault, base.settled draft loc content now))

theorem Opening.ends (h : area.Opening base path draft)
    (hstage : area.stage .none path now
      = (.ok draft, base.holding draft [] now)) :
    Opening.Ends area base path draft now := by
  have hreceives : area.Receives path now ↔ ∃ stored,
      ((base.holding draft [] now).commit .none draft).1 = .ok stored := by
    unfold Receives
    rw [hstage]
    simp
  have hsevers : area.Severs path now ↔ ∃ disk fault,
      (base.holding draft [] now).disk.rename draft.hidden path.names
          = .ok disk
        ∧ disk.find true path.names = .error fault := by
    unfold Severs
    rw [hstage]
    simp
  obtain rfl := h.path
  cases h.moves now with
  | barred hm =>
      refine .barred ?_ ?_ fun content faults hc => ?_
      · rw [hreceives]
        obtain ⟨fault, hfault⟩ := hm []
        rw [commit_barred rfl hfault]
        nofun
      · rw [hsevers]
        rintro ⟨disk, -, hdisk, -⟩
        obtain ⟨fault, hfault⟩ := hm []
        cases hdisk.symm.trans hfault
      · obtain ⟨fault, hfault⟩ := hm content
        exact ⟨fault, commit_barred hc hfault⟩
  | stored loc hname hm =>
      have hcommit (content : List Octet) (faults : StoreFaults)
          (hc : faults.fails .commit = false) :
          (base.holding draft content now).commit faults draft
            = (.ok ⟨draft.path, now, content.length⟩,
                base.settled draft loc content now) := by
        rw [commit_moved hc (hm content).1, (hm content).2]
      refine .stored loc ?_ ?_ fun content faults hc =>
        ⟨_, hcommit content faults hc, h.storedAt hname (hm content).2⟩
      · rw [hreceives, hcommit [] .none rfl]
        exact ⟨_, rfl⟩
      · rw [hsevers]
        rintro ⟨disk, fault, hdisk, hlost⟩
        cases hdisk.symm.trans (hm []).1
        cases hlost.symm.trans (hm []).2
  | severed loc target hname hlink hm =>
      have hcommit (content : List Octet) (faults : StoreFaults)
          (hc : faults.fails .commit = false) :
          (base.holding draft content now).commit faults draft
            = (.error .notAFolder, base.settled draft loc content now) := by
        rw [commit_moved hc (hm content).1, (hm content).2]
      refine .severed loc ?_ ?_ ?_ ?_
        fun content faults hc => ⟨_, hcommit content faults hc⟩
      · rw [hreceives, hcommit [] .none rfl]
        nofun
      · exact hsevers.2 ⟨_, _, hm []⟩
      · rw [← h.files]
        exact Disk.file?_of_link hlink
      · intro heq
        rw [heq, h.free] at hlink
        cases hlink

/-- Only a link can be in the way of a file that has been moved: one with
the name of the file, of which the draft takes the place. -/
theorem Severs.link (hfresh : area.Fresh) (h : area.Severs path now) :
    ∃ loc target, area.disk.look loc = some (.link target)
      ∧ loc.getLast? = some path.fileName := by
  obtain ⟨draft', staged, disk, fault, hstage, hrename, hlost⟩ := h
  rcases stage_cases hfresh path now with
    ⟨fault', after, hopen, -⟩ | ⟨draft, base, hopen, hopening⟩
  · cases hopen.symm.trans hstage
  · cases hopen.symm.trans hstage
    cases hopening.moves now with
    | barred hm =>
        obtain ⟨fault', hfault⟩ := hm []
        cases hfault.symm.trans hrename
    | stored loc hname hm =>
        cases (hm []).1.symm.trans hrename
        cases (hm []).2.symm.trans hlost
    | severed loc target hname hlink hm =>
        refine ⟨loc, target, ?_, hname⟩
        rcases hopening.folders.look loc with hsame | ⟨-, hnew, -⟩
        · exact hsame ▸ hlink
        · rw [hnew] at hlink
          cases hlink

end StagingArea

end BatchAdmin
