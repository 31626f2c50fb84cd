/-
What a listing tells.

An area that clients have made has more to it than being without links: no
location has two entries, and every file that is no draft is at the names of
a path that may be looked up (`Orderly`). Then a listing tells all that can
be seen and nothing else: it has exactly the files that looking at their
paths finds (`mem_files_iff_stat`), in the strict order of their paths
(`rising_files`), and no draft among them.

Every call keeps an area orderly. That is read off the lists of what calls
can come to, since all they do is to make folders, to put a file at a path
or at the location of a draft, and to take one away.
-/
import BatchAdmin.Proofs.Staging.Calls
import BatchAdmin.Proofs.Staging.Names
import BatchAdmin.Proofs.Text.Numerals
import Mathlib.Data.List.Nodup

namespace BatchAdmin

open Text

-- ================================================================ the disks

namespace Disk

variable {d : Disk} {loc : Location} {e : DiskEntry}

/-- No location has two entries, and those of the area are in it. -/
structure Distinct (d : Disk) : Prop where
  nodup : (d.entries.map (·.1)).Nodup
  inside : ∀ entry ∈ d.entries, Location.outside entry.1 = false

theorem distinct_fresh (root : StagingRoot) : (fresh root).Distinct :=
  ⟨List.nodup_singleton _, List.forall_mem_singleton.2 rfl⟩

theorem Distinct.erase (h : d.Distinct) (loc : Location) :
    (d.erase loc).Distinct :=
  ⟨h.nodup.sublist (List.filter_sublist.map _),
    fun entry hmem => h.inside entry (List.mem_of_mem_filter hmem)⟩

theorem Distinct.unset (h : d.Distinct) (loc : Location) :
    (d.unset loc).Distinct := by
  unfold Disk.unset
  split
  · exact ⟨h.nodup, h.inside⟩
  · exact h.erase loc

theorem Distinct.put (h : d.Distinct) (hloc : Location.outside loc = false)
    (e : DiskEntry) : (d.put loc e).Distinct := by
  have hrest := h.erase loc
  refine ⟨?_, ?_⟩
  · unfold Disk.put
    rw [List.map_append, List.map_singleton]
    refine List.nodup_append.2 ⟨hrest.nodup, List.nodup_singleton _, ?_⟩
    intro x hx y hy
    obtain ⟨entry, hentry, rfl⟩ := List.mem_map.1 hx
    obtain ⟨-, hne⟩ := List.mem_filter.1 hentry
    rw [List.mem_singleton.1 hy]
    simpa using hne
  · unfold Disk.put
    rw [List.forall_mem_append, List.forall_mem_singleton]
    exact ⟨hrest.inside, hloc⟩

theorem Distinct.set (h : d.Distinct) (loc : Location) (e : DiskEntry) :
    (d.set loc e).Distinct := by
  unfold Disk.set
  split
  · exact ⟨h.nodup, h.inside⟩
  · rename_i hloc
    exact h.put (Bool.not_eq_true _ ▸ hloc) e

theorem Distinct.makeFoldersFrom (h : d.Distinct) (loc : Location)
    (names : List String) : (d.makeFoldersFrom loc names).2.Distinct := by
  induction names generalizing d loc with
  | nil => exact h
  | cons name more ih =>
      rw [Disk.makeFoldersFrom]
      split
      · exact h
      · dsimp only
        split
        · exact h
        · split
          · exact ih (h.set _ _) _
          · exact ih h _
          · exact h
          · split
            · exact ih h _
            · exact h
            · exact h

theorem Distinct.makeFolders (h : d.Distinct) (names : List String) :
    (d.makeFolders names).2.Distinct := by
  unfold Disk.makeFolders
  split
  · exact h
  · split
    · exact h
    · split
      · exact h.makeFoldersFrom _ _
      · exact h
      · exact (h.put rfl _).makeFoldersFrom _ _

/-- The entries are those that are found at their locations. -/
theorem Distinct.mem_entries (h : d.Distinct) :
    (loc, e) ∈ d.entries ↔ d.get? loc = some e := by
  unfold get?
  rw [Option.map_eq_some_iff]
  constructor
  · intro hmem
    cases hf : d.entries.find? fun entry => entry.1 == loc with
    | none =>
        rw [List.find?_eq_none] at hf
        exact absurd (beq_self_eq_true loc) (hf _ hmem)
    | some entry =>
        refine ⟨entry, rfl, ?_⟩
        have hloc : entry.1 = loc := by simpa using List.find?_some hf
        have heq := List.inj_on_of_nodup_map h.nodup
          (List.mem_of_find?_eq_some hf) hmem hloc
        rw [heq]
  · rintro ⟨⟨x, e'⟩, hf, rfl⟩
    have hloc : x = loc := by simpa using List.find?_some hf
    subst hloc
    exact List.mem_of_find?_eq_some hf

end Disk

-- ================================================================ the areas

namespace StagingArea

variable {area area' : StagingArea} {path : StagePath} {faults : StoreFaults}
  {now : Instant} {content : List Octet} {draft : Draft} {loc : Location}

/-- A location where a file may be: that of a draft, or the names of a path
that may be looked up. -/
def Address (root : StagingRoot) (loc : Location) : Prop :=
  Hidden loc ∨ ∃ path : StagePath, loc = path.names ∧ Disk.Passable root loc

theorem Address.inside {root : StagingRoot} (h : Address root loc) :
    Location.outside loc = false := by
  rcases h with hl | ⟨path, rfl, -⟩
  · exact hl.inside
  · exact path.dotless_names.outside

/-- An area as clients make it, entry by entry. -/
structure Orderly (area : StagingArea) : Prop where
  tidy : area.Tidy
  distinct : area.disk.Distinct
  addressed : ∀ {loc content time},
    area.disk.get? loc = some (.file content time) →
      Address area.disk.root loc

theorem orderly_fresh (root : StagingRoot) : (fresh root).Orderly := by
  refine ⟨tidy_fresh root, Disk.distinct_fresh root,
    fun {loc content time} he => ?_⟩
  rw [show (fresh root).disk.get? loc = _ from Disk.get?_fresh root loc] at he
  split at he
  · cases he
  · cases he

-- ============================================================== the listing

theorem files_fresh (root : StagingRoot) : (fresh root).files = [] :=
  List.mergeSort_nil

/-- A listing that succeeds is of all files. -/
theorem files_of_list {files : List StoredFile}
    (h : area.list faults = .ok files) : files = area.files := by
  unfold list at h
  cases hg : guard faults .list with
  | error fault =>
      rw [hg] at h
      cases h
  | ok _ =>
      rw [hg] at h
      cases h
      rfl

/-- A file at the names of its path is listed. -/
theorem stagedAt_names (path : StagePath) (content : List Octet)
    (time : Instant) :
    stagedAt (path.names, .file content time)
      = some ⟨path, time, content.length⟩ := by
  unfold stagedAt
  have hread := path.readChars_spelt_names
  unfold StagePath.spelt at hread
  simp only [hread]

theorem any_isSeparator_draftName (n : Nat) :
    (draftName n).toList.any StagePath.isSeparator = false := by
  unfold draftName writePadded
  rw [String.toList_ofList, List.any_append, List.any_append,
    show StagePath.reserved.any StagePath.isSeparator = false by decide,
    show ".part".toList.any StagePath.isSeparator = false by decide,
    Bool.false_or, Bool.or_false, List.any_eq_false]
  intro c hc
  rcases List.mem_append.1 hc with hzero | hdigit
  · rw [List.eq_of_mem_replicate hzero]
    decide
  · have hd := isDigit_of_mem_writeNat hdigit
    intro hsep
    unfold StagePath.isSeparator at hsep
    rcases Bool.or_eq_true_iff.1 hsep with h | h
    · rw [eq_of_beq h] at hd
      cases hd
    · rw [eq_of_beq h] at hd
      cases hd

/-- A draft is not listed. -/
theorem stagedAt_hidden (h : Hidden loc) (e : DiskEntry) :
    stagedAt (loc, e) = none := by
  obtain ⟨folder, n, -, rfl⟩ := h
  cases e with
  | folder => rfl
  | link target => rfl
  | file content time =>
      unfold stagedAt
      dsimp only
      split
      · rename_i path hread
        exact absurd hread (StagePath.readChars_spelt_reserved
          (any_isSeparator_draftName n) (isReserved_draftName n))
      · rfl

/-- What is listed is a file at the names of its path. -/
theorem Orderly.stagedAt_eq_some (h : area.Orderly) {e : DiskEntry}
    {f : StoredFile} (he : area.disk.get? loc = some e) :
    stagedAt (loc, e) = some f
      ↔ ∃ content, e = .file content f.modified ∧ loc = f.path.names
          ∧ f.size = content.length := by
  constructor
  · intro hs
    cases e with
    | folder => cases hs
    | link target => cases hs
    | file content time =>
        rcases h.addressed he with hl | ⟨path, rfl, -⟩
        · rw [stagedAt_hidden hl] at hs
          cases hs
        · rw [stagedAt_names] at hs
          cases hs
          exact ⟨content, rfl, rfl, rfl⟩
  · rintro ⟨content, rfl, rfl, hsize⟩
    rw [stagedAt_names, ← hsize]

theorem Orderly.mem_files (h : area.Orderly) {f : StoredFile} :
    f ∈ area.files
      ↔ ∃ content,
          area.disk.get? f.path.names = some (.file content f.modified)
            ∧ f.size = content.length := by
  unfold files
  rw [List.mem_mergeSort, List.mem_filterMap]
  constructor
  · rintro ⟨⟨loc, e⟩, hmem, hs⟩
    have he := h.distinct.mem_entries.1 hmem
    obtain ⟨content, rfl, rfl, hsize⟩ := (h.stagedAt_eq_some he).1 hs
    exact ⟨content, he, hsize⟩
  · rintro ⟨content, he, hsize⟩
    exact ⟨_, h.distinct.mem_entries.2 he,
      (h.stagedAt_eq_some he).2 ⟨content, rfl, rfl, hsize⟩⟩

/-- A file at the names of a path may be looked up there. -/
theorem Orderly.passable (h : area.Orderly) {content : List Octet}
    {time : Instant}
    (he : area.disk.get? path.names = some (.file content time)) :
    Disk.Passable area.disk.root path.names := by
  rcases h.addressed he with hl | ⟨-, -, hp⟩
  · exact absurd rfl (hl.ne_names path)
  · exact hp

/-- What can be seen at a path is the file at its names. -/
theorem Orderly.contentAt?_eq_some (h : area.Orderly) :
    area.contentAt? path = some content
      ↔ ∃ time, area.disk.get? path.names = some (.file content time) := by
  rw [h.tidy.contentAt?_eq_some]
  exact ⟨fun hc => hc.2, fun ⟨time, he⟩ => ⟨h.passable he, time, he⟩⟩

/-- The files listed are those that can be seen, with their sizes. -/
theorem Orderly.listed_iff (h : area.Orderly) {size : Nat} :
    (∃ f ∈ area.files, f.path = path ∧ f.size = size)
      ↔ ∃ content, area.contentAt? path = some content
          ∧ content.length = size := by
  constructor
  · rintro ⟨f, hf, rfl, rfl⟩
    obtain ⟨content, he, hsize⟩ := h.mem_files.1 hf
    exact ⟨content, h.contentAt?_eq_some.2 ⟨_, he⟩, hsize.symm⟩
  · rintro ⟨content, hc, rfl⟩
    obtain ⟨time, he⟩ := h.contentAt?_eq_some.1 hc
    exact ⟨⟨path, time, content.length⟩, h.mem_files.2 ⟨content, he, rfl⟩,
      rfl, rfl⟩

/-- The files listed are those that are found at their paths. -/
theorem Orderly.mem_files_iff_stat (h : area.Orderly) {f : StoredFile} :
    f ∈ area.files ↔ area.stat .none f.path = .ok (some f) := by
  rw [h.mem_files]
  unfold stat
  rw [show guard .none .stat = .ok () from rfl]
  constructor
  · rintro ⟨content, he, hsize⟩
    have hfind : area.disk.find true f.path.names
        = .ok (.found f.path.names (.file content f.modified)) :=
      h.tidy.tree.find_of_get? f.path.dotless_names (h.passable he) he
    rw [hfind]
    dsimp only
    rw [← hsize]
    rfl
  · intro hs
    cases hfind : area.disk.find true f.path.names with
    | error fault =>
        rw [hfind] at hs
        cases fault <;> cases hs
    | ok place =>
        obtain ⟨-, hleads⟩ :=
          h.tidy.tree.find_leads f.path.dotless_names hfind
        rw [hfind] at hs
        cases hleads with
        | free => cases hs
        | @found e he =>
            cases e with
            | folder => cases hs
            | link target => cases hs
            | file content time =>
                injection hs with hs
                injection hs with hs
                rw [← hs]
                exact ⟨content, he, rfl⟩

-- ================================================================ the order

/-- Files are listed by path. -/
theorem sorted_files (area : StagingArea) :
    area.files.Pairwise fun a b => a.path.text ≤ b.path.text := by
  refine (List.pairwise_mergeSort ?_ ?_ _).imp fun h => of_decide_eq_true h
  · intro a b c hab hbc
    exact decide_eq_true
      (String.le_trans (of_decide_eq_true hab) (of_decide_eq_true hbc))
  · intro a b
    rcases String.le_total a.path.text b.path.text with h | h
    · simp [h]
    · simp [h]

/-- Where files stand in that order they are listed as they stand. -/
theorem files_of_sorted (h : (area.disk.entries.filterMap stagedAt).Pairwise
    fun a b => a.path.text ≤ b.path.text) :
    area.files = area.disk.entries.filterMap stagedAt :=
  List.mergeSort_of_pairwise (h.imp decide_eq_true)

/-- No path is listed twice. -/
theorem Orderly.nodup_files (h : area.Orderly) :
    area.files.Pairwise fun a b => a.path ≠ b.path := by
  have hstaged : (area.disk.entries.filterMap stagedAt).Pairwise
      fun a b => a.path ≠ b.path := by
    have hpairs := List.Pairwise.and_mem.1
      (List.pairwise_map.1 h.distinct.nodup)
    refine hpairs.filterMap stagedAt ?_
    rintro ⟨loc, e⟩ ⟨loc', e'⟩ ⟨hmem, hmem', hne⟩ f hf f' hf' heq
    have he := h.distinct.mem_entries.1 hmem
    have he' := h.distinct.mem_entries.1 hmem'
    obtain ⟨-, -, rfl, -⟩ := (h.stagedAt_eq_some he).1 hf
    obtain ⟨-, -, rfl, -⟩ := (h.stagedAt_eq_some he').1 hf'
    exact hne (congrArg StagePath.names heq)
  exact (List.mergeSort_perm _ _).symm.pairwise hstaged Ne.symm

/-- Files are listed in the strict order of their paths. -/
theorem Orderly.rising_files (h : area.Orderly) :
    area.files.Pairwise fun a b => a.path.text < b.path.text := by
  refine (area.sorted_files.and h.nodup_files).imp fun {a b} hab => ?_
  refine Std.lt_of_le_of_ne hab.1 fun heq => hab.2 ?_
  exact StagePath.text_injective heq

-- ================================================================ the calls

theorem Orderly.paved (h : area.Orderly) (path : StagePath) :
    (area.paved path).Orderly := by
  refine ⟨(h.tidy.paved path).tidy, h.distinct.makeFolders _,
    fun {loc content time} he => ?_⟩
  have hgrown := (h.tidy.tree.makeFolders path.dotless_names.dropLast).1
  rcases hgrown.new he with he | hnew
  · exact hgrown.root.symm ▸ h.addressed he
  · cases hnew.1

/-- A file may be put where files may be. -/
theorem Orderly.put (h : area.Orderly) (hloc : Address area.disk.root loc)
    {time : Instant} {drafts : Nat}
    (htidy : Tidy ⟨area.disk.put loc (.file content time), drafts⟩) :
    Orderly ⟨area.disk.put loc (.file content time), drafts⟩ := by
  refine ⟨htidy, h.distinct.put hloc.inside _, fun {x content' time'} he => ?_⟩
  rw [Disk.get?_put] at he
  split at he
  · rename_i hx
    exact hx ▸ hloc
  · exact h.addressed he

/-- An entry may be taken away. -/
theorem Orderly.without (h : area.Orderly)
    (htidy : (area.without loc).Tidy) : (area.without loc).Orderly := by
  refine ⟨htidy, h.distinct.erase _, fun {x content time} he => ?_⟩
  unfold StagingArea.without at he
  rw [Disk.get?_erase] at he
  split at he
  · cases he
  · exact h.addressed he

theorem Orderly.create (h : area.Orderly) (faults : StoreFaults)
    (path : StagePath) (now : Instant) :
    (area.create faults path now).2.Orderly := by
  have hc := h.tidy.creates faults path now
  generalize area.create faults path now = outcome at hc ⊢
  cases hc with
  | failed => exact h
  | paved => exact h.paved path
  | created ht =>
      exact (h.paved path).put (.inr ⟨path, rfl, ht.passable⟩)
        ((h.tidy.paved path).put ht now).tidy

theorem Orderly.stage (h : area.Orderly) (faults : StoreFaults)
    (path : StagePath) (now : Instant) :
    (area.stage faults path now).2.Orderly := by
  have hs := h.tidy.stages faults path now
  rcases hstage : area.stage faults path now with ⟨answer, area'⟩
  rw [hstage] at hs
  cases hs with
  | failed => exact h
  | paved => exact h.paved path
  | opened =>
      obtain ⟨hl, -, hb⟩ := (h.tidy.stage hstage).2 _ rfl
      exact (h.paved path).put (.inl hl) hb.tidy

theorem Orderly.discard (h : area.Orderly) (hl : Hidden draft.hidden)
    (hfile : area.disk.get? draft.hidden ≠ some .folder) :
    (area.discard draft).Orderly := by
  have htidy := (h.tidy.discard hl hfile).tidy
  rw [discard_eq hl] at htidy ⊢
  exact h.without htidy

theorem Orderly.write (h : area.Orderly) {earlier : Nat}
    {more : List Octet} (hl : Hidden draft.hidden)
    (hw : area.write faults draft earlier more now = .ok area') :
    area'.Orderly := by
  obtain ⟨_, _, -, hb⟩ := h.tidy.write hl hw
  have hwrites := area.writes faults hl earlier more now
  rw [hw] at hwrites
  cases hwrites with
  | written => exact h.put (.inl hl) hb.tidy

theorem Orderly.commit (h : area.Orderly) (hl : Hidden draft.hidden)
    (faults : StoreFaults) : (area.commit faults draft).2.Orderly := by
  have hc := h.tidy.commits faults hl
  generalize area.commit faults draft = outcome at hc ⊢
  cases hc with
  | failed => exact h
  | committed he ht =>
      -- First the draft goes, then its content is put.
      have hgone := h.tidy.discard hl (by rw [he]; nofun)
      rw [discard_eq hl] at hgone
      exact (h.without hgone.tidy).put (.inr ⟨_, rfl, ht.passable⟩)
        (hgone.put ht _).tidy

theorem Orderly.remove (h : area.Orderly) {gone : Bool}
    (hr : area.remove faults path = .ok (gone, area')) : area'.Orderly := by
  have hremoves := h.tidy.removes faults path
  rw [hr] at hremoves
  cases hremoves with
  | missed => exact h
  | removed hp he => exact h.without (h.tidy.same.erase he).tidy

end StagingArea

end BatchAdmin
