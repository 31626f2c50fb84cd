/-
Folders on a way.

Where folders are made along names, they are made down to the first file
that is in the way, or the first name that is too long
(`Tree.mem_folders_makeFolders`). Nothing else than that is in the way of
folders (`Tree.makeFolders_of_unfiled`).

A file takes the place that its names lead to if there is no file on the
way there and no folder at the place (`Tree.takes_paved_iff`): a folder is
in the way of a file as a file is in the way of a folder.
-/
import BatchAdmin.Proofs.Staging.Tree
import Mathlib.Algebra.GroupWithZero.Nat
import Mathlib.Data.Set.Basic

namespace BatchAdmin

open Text

-- ================================================================ the lengths

namespace StagingRoot

theorem wayLength_eq_sum (names : List String) : wayLength names
    = (names.map fun name => 1 + (octetsOf name).length).sum := by
  have hfrom (n : Nat) :
      names.foldl (fun n name => n + 1 + (octetsOf name).length) n
        = n + (names.map fun name => 1 + (octetsOf name).length).sum := by
    induction names generalizing n with
    | nil => rfl
    | cons name rest ih =>
        rw [List.foldl_cons, ih, List.map_cons, List.sum_cons]
        omega
  unfold wayLength
  rw [hfrom, Nat.zero_add]

/-- A way is longer with more names. -/
theorem wayLength_append (names more : List String) :
    wayLength names ≤ wayLength (names ++ more) := by
  rw [wayLength_eq_sum, wayLength_eq_sum, List.map_append, List.sum_append]
  exact Nat.le_add_right _ _

end StagingRoot

namespace Disk

variable {d : Disk} {loc x : Location} {name : String} {names : List String}

-- ================================================================= the files

/-- No file is at a location or on the way from there along names. -/
def Unfiled (d : Disk) (loc : Location) (names : List String) : Prop :=
  ∀ more, more <+: names → ∀ content time,
    d.get? (loc ++ more) ≠ some (.file content time)

/-- Below a folder it is the next name that matters. -/
theorem unfiled_cons (hloc : d.get? loc = some .folder) :
    d.Unfiled loc (name :: names) ↔ d.Unfiled (loc ++ [name]) names := by
  constructor
  · intro h more hmore
    rw [List.append_assoc, List.singleton_append]
    exact h _ (List.cons_prefix_cons.2 ⟨rfl, hmore⟩)
  · intro h more hmore content time
    cases more with
    | nil =>
        rw [List.append_nil, hloc]
        nofun
    | cons first more =>
        obtain ⟨rfl, hrest⟩ := List.cons_prefix_cons.1 hmore
        have hfree := h more hrest content time
        rwa [List.append_assoc, List.singleton_append] at hfree

/-- A new folder is no file. -/
theorem unfiled_put (hfree : d.get? x = none) :
    (d.put x .folder).Unfiled loc names ↔ d.Unfiled loc names := by
  refine forall₂_congr fun more _ => forall₂_congr fun content time => ?_
  rw [get?_put]
  split
  · rename_i heq
    rw [heq, hfree]
    exact iff_of_true nofun nofun
  · rfl

-- ================================================================ the folders

/-- Where the folders are. -/
def folders (d : Disk) : Set Location := {loc | d.get? loc = some .folder}

theorem mem_folders : loc ∈ d.folders ↔ d.get? loc = some .folder := Iff.rfl

/-- Files that come or change leave the folders as they are. -/
theorem folders_put (hplace : loc ∉ d.folders) (content : List Octet)
    (time : Instant) :
    (d.put loc (.file content time)).folders = d.folders := by
  ext x
  rw [mem_folders, mem_folders, get?_put]
  split
  · rename_i hx
    exact iff_of_false nofun (hx ▸ hplace)
  · rfl

/-- So do files that go. -/
theorem folders_erase (hplace : loc ∉ d.folders) :
    (d.erase loc).folders = d.folders := by
  ext x
  rw [mem_folders, mem_folders, get?_erase]
  split
  · rename_i hx
    exact iff_of_false nofun (hx ▸ hplace)
  · rfl

/-- Two disks with the same folders, and the same root. -/
structure SameFolders (d d' : Disk) : Prop where
  root : d'.root = d.root
  folders : d'.folders = d.folders

theorem SameFolders.refl (d : Disk) : d.SameFolders d := ⟨rfl, rfl⟩

theorem SameFolders.trans {d' d'' : Disk} (h : d.SameFolders d')
    (h' : d'.SameFolders d'') : d.SameFolders d'' :=
  ⟨h'.root.trans h.root, h'.folders.trans h.folders⟩

theorem sameFolders_put (hplace : loc ∉ d.folders) (content : List Octet)
    (time : Instant) : d.SameFolders (d.put loc (.file content time)) :=
  ⟨rfl, folders_put hplace content time⟩

theorem sameFolders_erase (hplace : loc ∉ d.folders) :
    d.SameFolders (d.erase loc) := ⟨rfl, folders_erase hplace⟩

/-- The next name on the way of folders: what is there is a folder after it,
or the way ends in front of it. -/
inductive Paces (d : Disk) (loc : Location) (name : String)
    (more : List String) : Except DiskFault Location × Disk → Prop
  | long {fault : DiskFault} (h : tooLong name = true) :
      Paces d loc name more (.error fault, d)
  | made (h : tooLong name = false) (hfree : d.get? (loc ++ [name]) = none) :
      Paces d loc name more
        ((d.put (loc ++ [name]) .folder).makeFoldersFrom (loc ++ [name]) more)
  | there (h : tooLong name = false)
      (hfolder : d.get? (loc ++ [name]) = some .folder) :
      Paces d loc name more (d.makeFoldersFrom (loc ++ [name]) more)
  | barred {fault : DiskFault} {content : List Octet} {time : Instant}
      (h : tooLong name = false)
      (hfile : d.get? (loc ++ [name]) = some (.file content time)) :
      Paces d loc name more (.error fault, d)

theorem Tree.paces (h : d.Tree) (hin : Location.outside loc = false)
    (hn : Plain name) (more : List String) :
    d.Paces loc name more (d.makeFoldersFrom loc (name :: more)) := by
  rw [makeFoldersFrom_plain hin hn]
  split
  · exact .long ‹_›
  · rename_i hlong
    rw [Bool.not_eq_true] at hlong
    split
    · exact .made hlong ‹_›
    · exact .there hlong ‹_›
    · exact .barred hlong ‹_›
    · exact absurd ‹_› (h.unlinked _ _)

/-- Folders can be made if no file is on the way. -/
theorem Tree.makeFoldersFrom_of_unfiled (h : d.Tree) (hdots : Dotless names)
    (hin : Location.outside loc = false) (hloc : d.get? loc = some .folder)
    (hshort : ∀ name ∈ names, tooLong name = false)
    (hway : d.Unfiled loc names) :
    (d.makeFoldersFrom loc names).1 = .ok (loc ++ names) := by
  induction names generalizing d loc with
  | nil => rw [Disk.makeFoldersFrom, List.append_nil]
  | cons name more ih =>
      obtain ⟨hn, hrest⟩ := List.forall_mem_cons.1 hdots
      obtain ⟨hname, hshort⟩ := List.forall_mem_cons.1 hshort
      rw [unfiled_cons hloc] at hway
      have hspelt : loc ++ name :: more = loc ++ [name] ++ more := by simp
      have hin' := outside_concat hin hn
      have hpaces := h.paces hin hn more
      rw [hspelt]
      generalize d.makeFoldersFrom loc (name :: more) = outcome at hpaces ⊢
      cases hpaces with
      | long hlong =>
          rw [hname] at hlong
          cases hlong
      | made _ hfree =>
          exact ih (h.put_free hloc hfree) hrest hin'
            (get?_put_self _ _ _) hshort ((unfiled_put hfree).2 hway)
      | there _ hfolder => exact ih h hrest hin' hfolder hshort hway
      | barred _ hfile =>
          have hfree := hway [] List.nil_prefix
          rw [List.append_nil] at hfree
          exact absurd hfile (hfree _ _)

/-- The folder is one that is made on a way from `loc` along names. -/
def OnWay (d : Disk) (loc : Location) (names : List String) (x : Location) :
    Prop :=
  ∃ more, more <+: names ∧ x = loc ++ more
    ∧ (∀ name ∈ more, tooLong name = false) ∧ d.Unfiled loc more

/-- Beyond a folder the way goes on as it does from the next name. -/
theorem folder_or_onWay_cons (hloc : d.get? loc = some .folder)
    (hname : tooLong name = false) :
    d.get? x = some .folder ∨ d.OnWay loc (name :: names) x
      ↔ d.get? x = some .folder ∨ d.OnWay (loc ++ [name]) names x := by
  constructor
  · rintro (hx | ⟨more, hmore, rfl, hshort, hway⟩)
    · exact .inl hx
    · cases more with
      | nil => exact .inl (by rwa [List.append_nil])
      | cons first more =>
          obtain ⟨rfl, hrest⟩ := List.cons_prefix_cons.1 hmore
          exact .inr ⟨more, hrest, by simp, (List.forall_mem_cons.1 hshort).2,
            (unfiled_cons hloc).1 hway⟩
  · rintro (hx | ⟨more, hmore, rfl, hshort, hway⟩)
    · exact .inl hx
    · exact .inr ⟨name :: more, List.cons_prefix_cons.2 ⟨rfl, hmore⟩, by simp,
        List.forall_mem_cons.2 ⟨hname, hshort⟩, (unfiled_cons hloc).2 hway⟩

theorem onWay_put {y : Location} (hfree : d.get? y = none) :
    (d.put y .folder).OnWay loc names x ↔ d.OnWay loc names x := by
  unfold OnWay
  simp only [unfiled_put hfree]

/-- Where the next name is too long or a file, the way ends. -/
theorem onWay_barred
    (hbar : tooLong name = true
      ∨ ∃ content time, d.get? (loc ++ [name]) = some (.file content time)) :
    d.OnWay loc (name :: names) x → x = loc := by
  rintro ⟨more, hmore, rfl, hshort, hway⟩
  cases more with
  | nil => exact List.append_nil _
  | cons first more =>
      obtain ⟨rfl, -⟩ := List.cons_prefix_cons.1 hmore
      rcases hbar with hlong | ⟨content, time, hfile⟩
      · rw [(List.forall_mem_cons.1 hshort).1] at hlong
        cases hlong
      · exact absurd hfile (hway [first]
          (List.cons_prefix_cons.2 ⟨rfl, List.nil_prefix⟩) content time)

/-- The folders after folders have been made are those of before and those
on the way, as far as it goes. -/
theorem Tree.mem_folders_makeFoldersFrom (h : d.Tree)
    (hdots : Dotless names) (hin : Location.outside loc = false)
    (hloc : d.get? loc = some .folder) :
    x ∈ (d.makeFoldersFrom loc names).2.folders
      ↔ x ∈ d.folders ∨ d.OnWay loc names x := by
  simp only [mem_folders]
  induction names generalizing d loc with
  | nil =>
      rw [Disk.makeFoldersFrom]
      refine ⟨.inl, ?_⟩
      rintro (hx | ⟨more, hmore, rfl, -⟩)
      · exact hx
      · rwa [List.prefix_nil.1 hmore, List.append_nil]
  | cons name more ih =>
      obtain ⟨hn, hrest⟩ := List.forall_mem_cons.1 hdots
      have hin' := outside_concat hin hn
      have hpaces := h.paces hin hn more
      generalize d.makeFoldersFrom loc (name :: more) = outcome at hpaces ⊢
      cases hpaces with
      | long hlong =>
          refine ⟨.inl, fun hx => hx.elim id fun hx => ?_⟩
          rwa [onWay_barred (.inl hlong) hx]
      | barred _ hfile =>
          refine ⟨.inl, fun hx => hx.elim id fun hx => ?_⟩
          rwa [onWay_barred (.inr ⟨_, _, hfile⟩) hx]
      | there hname hfolder =>
          rw [ih h hrest hin' hfolder, folder_or_onWay_cons hloc hname]
      | made hname hfree =>
          rw [ih (h.put_free hloc hfree) hrest hin' (get?_put_self _ _ _),
            onWay_put hfree, folder_or_onWay_cons hloc hname, get?_put]
          split
          · -- The new folder is where the way goes on.
            rename_i hx
            refine iff_of_true (.inl rfl) (.inr ?_)
            rw [hx]
            refine ⟨[], List.nil_prefix, (List.append_nil _).symm,
              List.forall_mem_nil _, ?_⟩
            intro more hmore content time
            rw [List.prefix_nil.1 hmore, List.append_nil, hfree]
            exact (Option.some_ne_none _).symm
          · rfl

/-- The names of a way may be looked up, as far as their number and their
characters go. -/
def Askable (root : StagingRoot) (names : List String) : Prop :=
  names.any hasZero = false ∧ root.tooFar names = false

theorem Tree.mem_folders_makeFolders (h : d.Tree) (hdots : Dotless names)
    (hroot : d.get? [] = some .folder) :
    x ∈ (d.makeFolders names).2.folders
      ↔ x ∈ d.folders ∨ Askable d.root names ∧ d.OnWay [] names x := by
  unfold Disk.makeFolders Askable
  cases hzero : names.any hasZero with
  | true => simp
  | false =>
      cases hfar : d.root.tooFar names with
      | true => simp
      | false =>
          rw [if_neg (by simp), if_neg (by simp), hroot]
          dsimp only
          rw [h.mem_folders_makeFoldersFrom hdots rfl hroot]
          simp

theorem Tree.makeFolders_of_unfiled (h : d.Tree) (hdots : Dotless names)
    (hroot : d.get? [] = some .folder) (hp : Passable d.root names)
    (hway : d.Unfiled [] names) : (d.makeFolders names).1 = .ok names := by
  obtain ⟨hzero, hfar, hshort⟩ := hp
  unfold Disk.makeFolders
  rw [if_neg (by simp [hzero]), if_neg (by simp [hfar]), hroot]
  exact h.makeFoldersFrom_of_unfiled hdots rfl hroot hshort hway

-- ================================================================== the places

/-- What leads to a name that may be looked up may be looked up itself. -/
theorem Passable.dropLast {root : StagingRoot} (h : Passable root names) :
    Passable root names.dropLast := by
  obtain ⟨hzero, hfar, hshort⟩ := h
  have hpre := List.dropLast_prefix names
  refine ⟨?_, ?_, fun name hname => hshort name (hpre.subset hname)⟩
  · rw [List.any_eq_false] at hzero ⊢
    exact fun name hname => hzero name (hpre.subset hname)
  · obtain ⟨more, hmore⟩ := hpre
    unfold StagingRoot.tooFar at hfar ⊢
    rw [← hmore] at hfar
    have hlonger := StagingRoot.wayLength_append names.dropLast more
    simp only [decide_eq_false_iff_not] at hfar ⊢
    omega

/-- A free name in a folder is found free. -/
theorem Tree.descend_of_free (h : d.Tree) {through : Bool}
    {follow : Location → String → List String → Except DiskFault Place}
    (hdots : Dotless names) (hshort : ∀ name ∈ names, tooLong name = false)
    (hin : Location.outside loc = false) (hnames : names ≠ [])
    (hfolder : d.get? (loc ++ names.dropLast) = some .folder)
    (hfree : d.get? (loc ++ names) = none) :
    d.descend through follow loc names = .ok (.free (loc ++ names)) := by
  induction names generalizing loc with
  | nil => exact absurd rfl hnames
  | cons name more ih =>
      obtain ⟨hn, hrest⟩ := List.forall_mem_cons.1 hdots
      obtain ⟨hlong, hshort⟩ := List.forall_mem_cons.1 hshort
      have hspelt : loc ++ name :: more = loc ++ [name] ++ more := by simp
      rw [hspelt] at hfree ⊢
      rw [descend_plain hin hn, if_neg (by simp [hlong])]
      by_cases hmore : more = []
      · subst hmore
        rw [List.append_nil] at hfree ⊢
        rw [hfree]
        rfl
      · rw [List.dropLast_cons_of_ne_nil hmore, ← List.singleton_append,
          ← List.append_assoc] at hfolder
        have hhere : d.get? (loc ++ [name]) = some .folder := by
          by_cases hlast : more.dropLast = []
          · rwa [hlast, List.append_nil] at hfolder
          · exact h.folder_of_below hlast hfolder
        rw [hhere]
        exact ih hrest hshort (outside_concat hin hn) hmore hfolder hfree

/-- Where a file may be put, the names lead to a free name or to a file. -/
theorem Tree.find_of_takes (h : d.Tree) (through : Bool)
    (hdots : Dotless names) (hnames : names ≠ []) (ht : d.Takes names) :
    d.find through names = .ok (.free names)
      ∨ ∃ content time,
          d.find through names = .ok (.found names (.file content time)) := by
  obtain ⟨hp, hfolder, hplace⟩ := ht
  cases he : d.get? names with
  | some e =>
      refine .inr ?_
      have hfound : d.find through names = .ok (.found names e) :=
        h.find_of_get? hdots hp he
      cases e with
      | folder => exact absurd he hplace
      | link target => exact absurd he (h.unlinked _ _)
      | file content time => exact ⟨content, time, hfound⟩
  | none =>
      refine .inl ?_
      obtain ⟨hzero, hfar, hshort⟩ := hp
      have hroot : d.get? [] = some .folder := by
        by_cases hd : names.dropLast = []
        · rwa [hd] at hfolder
        · exact h.folder_of_below hd
            (show d.get? ([] ++ names.dropLast) = some .folder from hfolder)
      unfold find
      rw [if_neg (by simp [hzero]), if_neg (by simp [hfar]), hroot]
      obtain ⟨follow, hwalk⟩ := walk_eq_descend (d := d) through mostLinks
      dsimp only
      rw [hwalk]
      exact h.descend_of_free hdots hshort rfl hnames
        (show d.get? ([] ++ names.dropLast) = some .folder from hfolder)
        (show d.get? ([] ++ names) = none from he)

/-- With the way to it paved, a file can be put at a place if no file is on
the way and no folder is at the place. -/
theorem Tree.takes_paved_iff (h : d.Tree) (hroot : d.get? [] = some .folder)
    (hdots : Dotless names) (hp : Passable d.root names)
    (hnames : names ≠ []) :
    (d.makeFolders names.dropLast).2.Takes names
      ↔ d.Unfiled [] names.dropLast ∧ names ∉ d.folders := by
  obtain ⟨hgrown, hmade⟩ := h.makeFolders hdots.dropLast
  constructor
  · rintro ⟨-, hfolder, hplace⟩
    refine ⟨?_, fun hn => hplace (hgrown.kept hn)⟩
    generalize (d.makeFolders names.dropLast).2 = made at hgrown hfolder
    rintro more ⟨rest, hrest⟩ content time hfile
    -- A file stays where it is, and the way leads through folders only.
    have hkept := hgrown.kept hfile
    rw [← hrest] at hfolder
    by_cases hnone : rest = []
    · rw [hnone, List.append_nil] at hfolder
      cases hfolder.symm.trans hkept
    · cases (hgrown.tree.folder_of_below hnone hfolder).symm.trans hkept
  · rintro ⟨hway, hplace⟩
    obtain ⟨-, hfolder⟩ :=
      hmade _ (h.makeFolders_of_unfiled hdots.dropLast hroot hp.dropLast hway)
    refine ⟨hgrown.root.symm ▸ hp, hfolder, fun hn => ?_⟩
    rcases hgrown.new hn with hn | ⟨-, hpre⟩
    · exact hplace hn
    · have hlonger := hpre.length_le
      have hpos := List.length_pos_iff.2 hnames
      rw [List.length_dropLast] at hlonger
      omega

end Disk

end BatchAdmin
