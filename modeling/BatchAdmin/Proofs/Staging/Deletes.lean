/-
What a delete by pattern removes.

A delete lists the area, and of the files listed it is to remove those that
the pattern matches and whose removal does not fail (`targets`). It asks for
each of them by its path, so it removes exactly its targets if their paths
lead back to them, and not otherwise (`removesExactly_iff`).

On a disk as file systems have them the paths do lead back, as long as no
name of a target has a backslash in it (`leadsBack_of_lawful`). To the file
system a backslash is a character like any other, and in a path it is a
separator, so a file with such a name is listed under the path of another
place.
-/
import BatchAdmin.Proofs.Staging.Leads
import Mathlib.Data.List.Perm.Basic
import Mathlib.Data.Set.List

namespace BatchAdmin

open Text

-- ============================================================= the targets

namespace StagingArea

variable {area : StagingArea} {faults : StoreFaults} {glob : Glob}
  {locs : List Location} {x : Location × StoredFile}

/-- The staged files and where they are. -/
def staged (area : StagingArea) : List (Location × StoredFile) :=
  area.disk.entries.filterMap fun entry =>
    (stagedAt entry).map (entry.1, ·)

theorem mem_staged : x ∈ area.staged
    ↔ ∃ e, (x.1, e) ∈ area.disk.entries ∧ stagedAt (x.1, e) = some x.2 := by
  unfold staged
  rw [List.mem_filterMap]
  constructor
  · rintro ⟨⟨loc, e⟩, hmem, hx⟩
    obtain ⟨f, hf, rfl⟩ := Option.map_eq_some_iff.1 hx
    exact ⟨e, hmem, hf⟩
  · rintro ⟨e, hmem, hf⟩
    exact ⟨(x.1, e), hmem, by rw [hf]; rfl⟩

/-- A listing is of the staged files. -/
theorem staged_perm (area : StagingArea) :
    (area.staged.map (·.2)).Perm area.files := by
  have hmap : area.staged.map (·.2)
      = area.disk.entries.filterMap stagedAt := by
    unfold staged
    rw [List.map_filterMap]
    congr 1
    funext entry
    cases stagedAt entry <;> rfl
  rw [hmap]
  exact (List.mergeSort_perm _ _).symm

/-- What is staged is a file. -/
theorem file_of_mem_staged (h : area.disk.Distinct) (hx : x ∈ area.staged) :
    ∃ content, area.disk.get? x.1 = some (.file content x.2.modified) := by
  obtain ⟨e, hmem, hf⟩ := mem_staged.1 hx
  have he := h.mem_entries.1 hmem
  obtain ⟨loc, f⟩ := x
  cases e with
  | folder => cases hf
  | link target => cases hf
  | file content time =>
      unfold stagedAt at hf
      dsimp only at hf
      split at hf
      · cases hf
        exact ⟨content, he⟩
      · cases hf

/-- No two staged files are at one location. -/
theorem nodup_staged (h : area.disk.Distinct) :
    (area.staged.map (·.1)).Nodup := by
  have hlocs : area.staged.map (·.1)
      = (area.disk.entries.filter fun entry =>
          (stagedAt entry).isSome).map (·.1) := by
    unfold staged
    induction area.disk.entries with
    | nil => rfl
    | cons entry rest ih =>
        cases hf : stagedAt entry with
        | none =>
            rw [List.filterMap_cons_none (by rw [hf]; rfl),
              List.filter_cons_of_neg (by simp [hf]), ih]
        | some f =>
            rw [List.filterMap_cons_some (by rw [hf]; rfl),
              List.filter_cons_of_pos (by simp [hf]), List.map_cons, ih,
              List.map_cons]
  rw [hlocs]
  exact h.nodup.sublist (List.filter_sublist.map _)

/-- What is taken away is staged no more; what is not in the area never
was. -/
theorem staged_rid (h : area.disk.Distinct) (loc : Location) :
    (area.rid loc).staged = area.staged.filter (·.1 ≠ loc) := by
  have hentries : (area.rid loc).disk.entries
      = area.disk.entries.filter (·.1 != loc) := by
    unfold rid Disk.unset
    dsimp only
    split
    · rename_i hout
      refine (List.filter_eq_self.2 fun entry hmem => ?_).symm
      rw [bne_iff_ne]
      rintro rfl
      cases (h.inside entry hmem).symm.trans hout
    · rfl
  unfold staged
  rw [hentries, List.filter_filterMap, List.filterMap_filter]
  congr 1
  funext entry
  by_cases hloc : entry.1 = loc
  · cases stagedAt entry <;> simp [Option.filter, hloc]
  · cases stagedAt entry <;> simp [Option.filter, hloc]

theorem staged_cleared (h : area.disk.Distinct) (locs : List Location) :
    (area.cleared locs).staged = area.staged.filter (·.1 ∉ locs) := by
  induction locs generalizing area with
  | nil => simp [show area.cleared [] = area from rfl]
  | cons loc locs ih =>
      have hrid : (area.rid loc).disk.Distinct := h.unset loc
      rw [show area.cleared (loc :: locs) = (area.rid loc).cleared locs
        from rfl, ih hrid, staged_rid h, List.filter_filter]
      simp [Bool.and_comm]

/-- The staged files that a delete is to remove: those that the pattern
matches and whose removal does not fail. -/
def targets (area : StagingArea) (faults : StoreFaults) (glob : Glob) :
    List (Location × StoredFile) :=
  area.staged.filter fun x =>
    glob.matches x.2.path.text && !faults.stuck x.2.path.text

theorem nodup_targets (h : area.disk.Distinct) :
    ((area.targets faults glob).map (·.1)).Nodup :=
  (nodup_staged h).sublist (List.filter_sublist.map _)

/-- What is to be removed is a file. -/
theorem file_of_mem_targets (h : area.disk.Distinct)
    (hx : x ∈ area.targets faults glob) :
    ∃ content, area.disk.get? x.1 = some (.file content x.2.modified)
      ∧ area.disk.look x.1 = some (.file content x.2.modified) := by
  obtain ⟨content, he⟩ := file_of_mem_staged h (List.mem_of_mem_filter hx)
  have hin := h.inside _ (h.mem_entries.2 he)
  exact ⟨content, he, (Disk.look_inside hin).trans he⟩

/-- When the targets are gone there are none left. -/
theorem targets_cleared (hd : area.disk.Distinct)
    (h : ∀ x ∈ area.targets faults glob, x.1 ∈ locs) :
    (area.cleared locs).targets faults glob = [] := by
  unfold targets at *
  rw [staged_cleared hd, List.filter_filter, List.filter_eq_nil_iff]
  intro x hx hboth
  obtain ⟨htarget, hkept⟩ := Bool.and_eq_true_iff.1 hboth
  have hin := h x (List.mem_filter.2 ⟨hx, htarget⟩)
  simp [hin] at hkept

end StagingArea

namespace Desk

variable {area : StagingArea} {faults : StoreFaults} {pattern : String}
  {glob : Glob}

/-- A delete with a pattern tries its targets, in the order of their
paths. -/
theorem delete_eq (area : StagingArea) (hread : Glob.read pattern = .ok glob)
    (hlist : faults.fails .list = false) :
    ∃ left, left.Perm ((area.targets faults glob).map (·.2))
      ∧ delete faults area pattern
        = (.ok (removeAll faults area left).1,
            (removeAll faults area left).2) := by
  have hfiles : area.list faults = .ok area.files := by
    unfold StagingArea.list StagingArea.guard
    rw [hlist]
    rfl
  refine ⟨(area.files.filter fun f => glob.matches f.path.text).filter
    fun f => !faults.stuck f.path.text, ?_, ?_⟩
  · have hperm := (area.staged_perm.filter fun f =>
      glob.matches f.path.text && !faults.stuck f.path.text).symm
    rw [List.filter_map] at hperm
    rw [List.filter_filter]
    unfold StagingArea.targets
    simpa [Bool.and_comm, Function.comp_def] using hperm
  · unfold delete
    rw [hread, hfiles]
    dsimp only
    rw [← removeAll_unstuck]

/-- What a delete that tries no target comes to. -/
theorem delete_of_no_targets (hread : Glob.read pattern = .ok glob)
    (hlist : faults.fails .list = false)
    (hnone : area.targets faults glob = []) :
    delete faults area pattern = (.ok 0, area) := by
  obtain ⟨left, hperm, heq⟩ := delete_eq area hread hlist
  rw [hnone] at hperm
  rw [heq, List.perm_nil.1 hperm]
  rfl

/-- A delete removes exactly these: it tells how many they are, they are
gone and all else is as it was, in the area and elsewhere, and the next such
delete finds nothing. -/
structure RemovesExactly (faults : StoreFaults) (pattern : String)
    (area : StagingArea) (locs : List Location) : Prop where
  answer : (delete faults area pattern).1 = .ok locs.length
  gone : ∀ loc, (delete faults area pattern).2.disk.look loc
    = if loc ∈ locs then none else area.disk.look loc
  again : (delete faults (delete faults area pattern).2 pattern).1 = .ok 0

/-- The paths of the targets lead to the targets. -/
def LeadsBack (area : StagingArea)
    (targets : List (Location × StoredFile)) : Prop :=
  (targets.map fun x => area.lead? x.2.path).Perm
    (targets.map fun x => some x.1)

/-- The paths of files that are tried lead to the targets if those of the
targets do. -/
theorem leadsBack_iff {targets : List (Location × StoredFile)}
    {left : List StoredFile} (hleft : left.Perm (targets.map (·.2))) :
    LeadsBack area targets
      ↔ ∃ gone, gone.Perm (targets.map (·.1)) ∧ LeadTo area left gone := by
  have hpaths : (left.map (area.lead? ·.path)).Perm
      (targets.map fun x => area.lead? x.2.path) := by
    have hmap := hleft.map (area.lead? ·.path)
    rwa [List.map_map] at hmap
  have hlocs : (targets.map fun x => some x.1)
      = (targets.map (·.1)).map some := by rw [List.map_map]; rfl
  unfold LeadsBack LeadTo
  rw [hlocs]
  constructor
  · intro h
    have hback := hpaths.trans h
    have hfound : left.map (area.lead? ·.path)
        ∈ Set.range (List.map some) := by
      rw [Set.range_list_map]
      intro lead hmem
      obtain ⟨loc, -, rfl⟩ := List.mem_map.1 (hback.subset hmem)
      exact ⟨loc, rfl⟩
    obtain ⟨gone, hgone⟩ := hfound
    rw [← hgone] at hback
    exact ⟨gone, (List.map_perm_map_iff (Option.some_injective _)).1 hback,
      hgone.symm⟩
  · rintro ⟨gone, hperm, hleads⟩
    exact hpaths.symm.trans (hleads ▸ hperm.map some)

/-- What is to be removed lies nowhere on a way. -/
theorem inert_of_mem_targets (hd : area.disk.Distinct) {loc : Location}
    (h : loc ∈ (area.targets faults glob).map (·.1)) :
    area.disk.Inert loc := by
  obtain ⟨x, hx, rfl⟩ := List.mem_map.1 h
  obtain ⟨content, -, he⟩ := StagingArea.file_of_mem_targets hd hx
  unfold Disk.Inert
  rw [he]
  exact ⟨nofun, nofun⟩

/-- What is tried does not fail to be removed. -/
theorem unstuck_of_perm {left : List StoredFile}
    (hleft : left.Perm ((area.targets faults glob).map (·.2))) :
    ∀ f ∈ left, faults.stuck f.path.text = false := by
  intro f hf
  obtain ⟨x, hx, rfl⟩ := List.mem_map.1 (hleft.subset hf)
  have hboth := List.of_mem_filter hx
  simp only [Bool.and_eq_true, Bool.not_eq_true'] at hboth
  exact hboth.2

/-- If the paths of the targets lead back to them, the targets are taken
away. -/
theorem delete_of_leadsBack (hd : area.disk.Distinct)
    (hread : Glob.read pattern = .ok glob)
    (hlist : faults.fails .list = false)
    (h : LeadsBack area (area.targets faults glob)) :
    ∃ gone, gone.Perm ((area.targets faults glob).map (·.1))
      ∧ delete faults area pattern
        = (.ok gone.length, area.cleared gone) := by
  obtain ⟨left, hleft, heq⟩ := delete_eq area hread hlist
  obtain ⟨gone, hgone, hleads⟩ := (leadsBack_iff hleft).1 h
  have hnodup := hgone.symm.nodup (StagingArea.nodup_targets hd)
  have htook := took_of_leads (unstuck_of_perm hleft) hleads hnodup
    fun loc hloc => inert_of_mem_targets hd (hgone.subset hloc)
  refine ⟨gone, hgone, ?_⟩
  rw [heq, htook.answer]

/-- Then the delete counts them, and the files that are left are all
others. -/
theorem files_of_leadsBack (hd : area.disk.Distinct)
    (hread : Glob.read pattern = .ok glob)
    (hlist : faults.fails .list = false)
    (h : LeadsBack area (area.targets faults glob)) :
    (delete faults area pattern).1 = .ok (area.files.countP fun f =>
        glob.matches f.path.text && !faults.stuck f.path.text)
      ∧ ∀ f, f ∈ (delete faults area pattern).2.files
        ↔ f ∈ area.files ∧ (glob.matches f.path.text
          && !faults.stuck f.path.text) = false := by
  obtain ⟨gone, hperm, heq⟩ := delete_of_leadsBack hd hread hlist h
  rw [heq]
  constructor
  · rw [hperm.length_eq, ← area.staged_perm.countP_eq, List.countP_map,
      List.countP_eq_length_filter, List.length_map]
    rfl
  · intro f
    rw [← (StagingArea.staged_perm _).mem_iff, StagingArea.staged_cleared hd,
      ← area.staged_perm.mem_iff]
    have hgone : ∀ x ∈ area.staged, x.1 ∈ gone
        ↔ (glob.matches x.2.path.text
          && !faults.stuck x.2.path.text) = true := by
      intro x hx
      rw [hperm.mem_iff, List.mem_map]
      constructor
      · rintro ⟨y, hy, hloc⟩
        have hxy : y = x := List.inj_on_of_nodup_map
          (StagingArea.nodup_staged hd) (List.mem_of_mem_filter hy) hx hloc
        rw [← hxy]
        exact (List.mem_filter.1 hy).2
      · intro hx'
        exact ⟨x, List.mem_filter.2 ⟨hx, hx'⟩, rfl⟩
    constructor
    · intro hf
      obtain ⟨x, hx, rfl⟩ := List.mem_map.1 hf
      obtain ⟨hx, hkept⟩ := List.mem_filter.1 hx
      refine ⟨List.mem_map_of_mem hx, ?_⟩
      rw [← Bool.not_eq_true, ← hgone x hx]
      simpa using hkept
    · rintro ⟨hf, hkept⟩
      obtain ⟨x, hx, rfl⟩ := List.mem_map.1 hf
      refine List.mem_map_of_mem (List.mem_filter.2 ⟨hx, ?_⟩)
      rw [← Bool.not_eq_true, ← hgone x hx] at hkept
      simpa using hkept

/-- A delete removes exactly its targets if their paths lead back to
them. -/
theorem removesExactly_iff (hd : area.disk.Distinct)
    (hread : Glob.read pattern = .ok glob)
    (hlist : faults.fails .list = false) :
    RemovesExactly faults pattern area
        ((area.targets faults glob).map (·.1))
      ↔ LeadsBack area (area.targets faults glob) := by
  constructor
  · intro h
    obtain ⟨left, hleft, heq⟩ := delete_eq area hread hlist
    obtain ⟨gone, htook, hleads⟩ := exists_took area (unstuck_of_perm hleft)
    have hall : ∀ loc, loc ∈ gone
        ↔ loc ∈ (area.targets faults glob).map (·.1) := by
      intro loc
      have hloc := h.gone loc
      rw [heq, htook.answer] at hloc
      dsimp only [StagingArea.cleared] at hloc
      rw [Disk.look_clear] at hloc
      constructor
      · intro hin
        by_contra hout
        rw [if_pos hin, if_neg hout] at hloc
        exact htook.there loc hin hloc.symm
      · intro hin
        by_contra hout
        rw [if_neg hout, if_pos hin] at hloc
        obtain ⟨x, hx, rfl⟩ := List.mem_map.1 hin
        obtain ⟨content, -, he⟩ := StagingArea.file_of_mem_targets hd hx
        rw [he] at hloc
        cases hloc
    have hperm : gone.Perm ((area.targets faults glob).map (·.1)) :=
      (List.perm_ext_iff_of_nodup htook.nodup
        (StagingArea.nodup_targets hd)).2 hall
    refine (leadsBack_iff hleft).2 ⟨gone, hperm, hleads ?_ ?_⟩
    · rw [hperm.length_eq, hleft.length_eq, List.length_map, List.length_map]
    · exact fun loc hloc => inert_of_mem_targets hd ((hall loc).1 hloc)
  · intro h
    obtain ⟨gone, hperm, heq⟩ := delete_of_leadsBack hd hread hlist h
    refine ⟨?_, fun loc => ?_, ?_⟩
    · rw [heq, hperm.length_eq]
    · rw [heq]
      dsimp only [StagingArea.cleared]
      rw [Disk.look_clear]
      simp only [hperm.mem_iff]
    · rw [heq]
      have hnone : (area.cleared gone).targets faults glob = [] :=
        StagingArea.targets_cleared hd fun x hx =>
          hperm.symm.subset (List.mem_map_of_mem hx)
      rw [delete_of_no_targets hread hlist hnone]

/-- Targets whose paths lead to where they are. -/
theorem leadsBack_of_lead {targets : List (Location × StoredFile)}
    (h : ∀ x ∈ targets, area.lead? x.2.path = some x.1) :
    LeadsBack area targets := by
  unfold LeadsBack
  rw [List.map_congr_left h]

/-- A file whose names have no backslash in them is listed under these
names. -/
theorem names_of_mem_staged {x : Location × StoredFile}
    (hx : x ∈ area.staged) (hnames : ∀ name ∈ x.1,
      Disk.Nameable name ∧ '\\' ∉ name.toList) :
    x.2.path.names = x.1 := by
  obtain ⟨loc, f⟩ := x
  obtain ⟨e, -, hf⟩ := StagingArea.mem_staged.1 hx
  cases e with
  | folder => cases hf
  | link target => cases hf
  | file content time =>
      unfold StagingArea.stagedAt at hf
      dsimp only at hf
      split at hf
      · rename_i path hread
        cases hf
        rw [StagePath.readChars_eq_ok, StagePath.namesIn_joined,
          StagePath.flatMap_namesIn] at hread
        · unfold StagePath.names
          rw [← hread, List.map_map]
          exact (List.map_congr_left fun name _ => String.ofList_toList).trans
            (List.map_id _)
        · intro p hp
          obtain ⟨name, hmem, rfl⟩ := List.mem_map.1 hp
          obtain ⟨⟨hne, -, hslash⟩, hback⟩ := hnames name hmem
          refine ⟨by simpa using hne, List.any_eq_false.2 fun c hc => ?_⟩
          simp only [StagePath.isSeparator, Bool.or_eq_true, beq_iff_eq,
            not_or]
          exact ⟨fun h => hslash (h ▸ hc), fun h => hback (h ▸ hc)⟩
      · cases hf

/-- On a lawful disk targets without backslashes are led back to. -/
theorem leadsBack_of_lawful (hd : area.disk.Distinct)
    (hlaw : area.disk.Lawful)
    (hback : ∀ x ∈ area.targets faults glob, ∀ name ∈ x.1,
      '\\' ∉ name.toList) :
    LeadsBack area (area.targets faults glob) := by
  refine leadsBack_of_lead fun x hx => ?_
  obtain ⟨content, he, -⟩ := StagingArea.file_of_mem_targets hd hx
  obtain ⟨hp, hnames⟩ := hlaw.named _ (hd.mem_entries.2 he)
  have hspelt := names_of_mem_staged (List.mem_of_mem_filter hx)
    fun name hmem => ⟨hnames name hmem, hback x hx name hmem⟩
  unfold StagingArea.lead?
  rw [hspelt]
  refine (hlaw.toHoused hd).lead? hp (fun name hmem => (hnames name hmem).2.1)
    ?_ he nofun
  rw [← hspelt]
  exact x.2.path.names_ne_nil

/-- A pattern that is refused and a listing that fails are reported, and
nothing is removed. -/
theorem delete_refused
    (h : (¬ ∃ glob, Glob.read pattern = .ok glob)
      ∨ faults.fails .list = true) :
    ∃ failure, delete faults area pattern = (.error failure, area) := by
  unfold delete
  cases hread : Glob.read pattern with
  | error failure => exact ⟨failure, rfl⟩
  | ok glob =>
      rcases h with h | hlist
      · exact absurd ⟨glob, hread⟩ h
      · unfold StagingArea.list StagingArea.guard
        rw [hlist]
        exact ⟨_, rfl⟩

/-- Where a pattern is accepted and the listing does not fail, a delete
removes exactly the files that the pattern matches and whose removal does
not fail, if the paths of these files lead to them and not otherwise; on a
disk as file systems have them they do if no name of such a file has a
backslash in it. Where a pattern is refused or the listing fails, an error
is returned and nothing changes. -/
theorem deletes_exactly_iff (area : StagingArea) (hd : area.disk.Distinct)
    (faults : StoreFaults) (pattern : String) :
    (∀ glob, Glob.read pattern = .ok glob → faults.fails .list = false →
        (RemovesExactly faults pattern area
            ((area.targets faults glob).map (·.1))
          ↔ LeadsBack area (area.targets faults glob))
        ∧ (area.disk.Lawful →
            (∀ x ∈ area.targets faults glob, ∀ name ∈ x.1,
              '\\' ∉ name.toList) →
            RemovesExactly faults pattern area
              ((area.targets faults glob).map (·.1))))
      ∧ ((¬ ∃ glob, Glob.read pattern = .ok glob)
            ∨ faults.fails .list = true →
          ∃ failure, delete faults area pattern = (.error failure, area)) := by
  refine ⟨fun glob hread hlist => ?_, delete_refused⟩
  have hiff := removesExactly_iff hd hread hlist
  exact ⟨hiff, fun hlaw hback => hiff.2 (leadsBack_of_lawful hd hlaw hback)⟩

/-- An area with an upload on its way, a link, and two files in one
folder. -/
def harbour : StagingArea :=
  ⟨{ Disk.fresh with
      entries := [([], .folder), (["in"], .folder),
        (["in", "a.csv"], .file [1] default),
        (["in", "b.csv"], .file [2] default),
        (["in", ".upload-7.part"], .file [3] default),
        (["latest"], .link "in")] }, 8⟩

/-- The removal of one of the files fails. -/
def harbourFaults : StoreFaults := ⟨fun _ => false, (· == "in/b.csv")⟩

/-- Only the other one is removed, and nothing by what is no pattern. -/
theorem harbour_exact :
    harbour.disk.Distinct ∧ harbour.disk.Lawful
      ∧ RemovesExactly harbourFaults "in/*" harbour [["in", "a.csv"]]
      ∧ ∃ failure, delete harbourFaults harbour "in/[*"
          = (.error failure, harbour) := by
  have hd : harbour.disk.Distinct := ⟨by decide, by decide⟩
  have hlaw : harbour.disk.Lawful := by
    refine ⟨by decide, ?_⟩
    unfold Disk.Passable Disk.Nameable Disk.Plain
    decide +kernel
  let regex : Regex := [.start, .one (.char 'i'), .one (.char 'n'),
    .one (.char '/'), .many .any, .stop]
  have hread : Glob.read "in/*" = .ok ⟨"in/*", regex⟩ := by
    decide
  have htargets : (harbour.targets harbourFaults ⟨"in/*", regex⟩).map (·.1)
        = [["in", "a.csv"]] := by
    decide
  have hrefuse : ¬ ∃ glob, Glob.read "in/[*" = .ok glob := by
    rintro ⟨glob, h⟩
    cases h
  obtain ⟨hexact, -⟩ := deletes_exactly_iff harbour hd harbourFaults "in/*"
  obtain ⟨-, hrefused⟩ := deletes_exactly_iff harbour hd harbourFaults "in/[*"
  obtain ⟨-, hlawful⟩ := hexact _ hread rfl
  rw [htargets] at hlawful
  exact ⟨hd, hlaw, hlawful hlaw (by decide), hrefused (.inl hrefuse)⟩

/-- An area with one file, which has a backslash in its name. -/
def backslashed : StagingArea :=
  ⟨{ Disk.fresh with
      entries := [([], .folder), (["in\\a.csv"], .file [1] default)] }, 0⟩

/-- It is listed under a path that the pattern matches, and not
removed. -/
theorem backslash_stays :
    backslashed.disk.Distinct ∧ backslashed.disk.Lawful
      ∧ Glob.read "*" = .ok ⟨"*", [.start, .many .any, .stop]⟩
      ∧ (backslashed.targets .none ⟨"*", [.start, .many .any, .stop]⟩).map
          (fun x => (x.1, x.2.path.text)) = [(["in\\a.csv"], "in/a.csv")]
      ∧ delete .none backslashed "*" = (.ok 0, backslashed) := by
  have hread : Glob.read "*" = .ok ⟨"*", [.start, .many .any, .stop]⟩ := by
    decide
  refine ⟨⟨by decide, by decide⟩, ⟨by decide, ?_⟩, hread, by decide, ?_⟩
  · unfold Disk.Passable Disk.Nameable Disk.Plain
    decide +kernel
  · obtain ⟨left, hleft, heq⟩ := delete_eq backslashed hread
      (show StoreFaults.none.fails .list = false from rfl)
    have htargets : (backslashed.targets .none
          ⟨"*", [.start, .many .any, .stop]⟩).map (·.2)
        = [⟨⟨["in".toList, "a.csv".toList], by decide, by decide⟩,
            default, 1⟩] := by
      decide
    rw [htargets, List.perm_singleton] at hleft
    rw [heq, hleft, removeAll_of_no_lead (by decide +kernel)]
    rfl

end Desk

end BatchAdmin
