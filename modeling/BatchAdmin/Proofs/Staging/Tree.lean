/-
Disks without links.

What clients ask for makes folders and files, and never a link. On a disk
without links on which every entry lies in a folder (`Tree`), names lead
where they spell, or nowhere: looking names up is looking at the one
entry at that location (`Tree.find_leads`, `Tree.find_of_get?`).

Making folders keeps a disk so, and keeps all that is on it; what is new
are folders on the way that was asked for (`Grown`).
-/
import BatchAdmin.Staging.Disk
import Mathlib.Data.List.Induction

namespace BatchAdmin.Disk

open Text

variable {d d' : Disk} {loc there : Location} {names : List String}
  {name : String} {e : DiskEntry} {place : Place}

-- ============================================================= the entries

/-- An entry that is taken away is gone; the others are as they were. -/
theorem get?_erase (d : Disk) (loc x : Location) :
    (d.erase loc).get? x = if x = loc then none else d.get? x := by
  obtain ⟨entries, abroad, root⟩ := d
  unfold get? erase
  dsimp only
  induction entries with
  | nil => simp
  | cons entry rest ih =>
      by_cases hl : entry.1 = loc
      · rw [List.filter_cons_of_neg (by simpa using hl), ih]
        split
        · rfl
        · rename_i hx
          rw [List.find?_cons_of_neg (by simpa [hl] using Ne.symm hx)]
      · rw [List.filter_cons_of_pos (by simpa using hl)]
        by_cases hx : entry.1 = x
        · simp [List.find?_cons_of_pos, hx, show x ≠ loc from hx ▸ hl]
        · rw [List.find?_cons_of_neg (by simpa using hx),
            List.find?_cons_of_neg (by simpa using hx), ih]

/-- What is put at a location is there; the others are as they were. -/
theorem get?_put (d : Disk) (loc : Location) (e : DiskEntry) (x : Location) :
    (d.put loc e).get? x = if x = loc then some e else d.get? x := by
  have hrest := get?_erase d loc x
  unfold put get? at *
  dsimp only at *
  rw [List.find?_append, Option.map_or, hrest]
  by_cases hx : x = loc
  · simp [hx]
  · have hx' : (loc == x) = false := by simpa using Ne.symm hx
    simp [hx, hx']

theorem get?_put_self (d : Disk) (loc : Location) (e : DiskEntry) :
    (d.put loc e).get? loc = some e := by
  rw [get?_put, if_pos rfl]

theorem look_inside (hloc : Location.outside loc = false) :
    d.look loc = d.get? loc := by
  unfold look
  rw [if_neg (by simp [hloc])]

theorem set_inside (hloc : Location.outside loc = false) :
    d.set loc e = d.put loc e := by
  unfold set
  rw [if_neg (by simp [hloc])]

theorem unset_inside (hloc : Location.outside loc = false) :
    d.unset loc = d.erase loc := by
  unfold unset
  rw [if_neg (by simp [hloc])]

-- ============================================================= the folders

/-- Every entry is in a folder. -/
def Housed (d : Disk) : Prop :=
  ∀ loc name e, d.get? (loc ++ [name]) = some e → d.get? loc = some .folder

/-- On the way to an entry there are folders. -/
theorem Housed.folder_of_below (h : d.Housed) {more : List String}
    (hmore : more ≠ []) (he : d.get? (loc ++ more) = some e) :
    d.get? loc = some .folder := by
  induction more using List.reverseRecOn generalizing e with
  | nil => exact absurd rfl hmore
  | append_singleton more name ih =>
      rw [← List.append_assoc] at he
      have hfolder := h _ _ _ he
      by_cases hm : more = []
      · rwa [hm, List.append_nil] at hfolder
      · exact ih hm hfolder

-- =============================================================== the trees

/-- A disk without links, where every entry is in a folder and the root is
one. -/
structure Tree (d : Disk) : Prop where
  root : ∀ {e}, d.get? [] = some e → e = .folder
  unlinked : ∀ loc target, d.get? loc ≠ some (.link target)
  housed : ∀ {loc name e}, d.get? (loc ++ [name]) = some e →
    d.get? loc = some .folder

/-- On the way to an entry there are folders. -/
theorem Tree.folder_of_below (h : d.Tree) {more : List String}
    (hmore : more ≠ []) (he : d.get? (loc ++ more) = some e) :
    d.get? loc = some .folder :=
  Housed.folder_of_below (fun _ _ _ => h.housed) hmore he

/-- Another entry than a folder has nothing below it, so a new entry that
is no link may take its place, or a free one, in a folder. -/
theorem Tree.put (h : d.Tree) {folder : Location} {name : String}
    (hfolder : d.get? folder = some .folder)
    (hplace : d.get? (folder ++ [name]) ≠ some .folder)
    (he : ∀ target, e ≠ .link target) :
    (d.put (folder ++ [name]) e).Tree := by
  refine ⟨?_, ?_, ?_⟩
  · intro e' he'
    rw [get?_put, if_neg (by simp)] at he'
    exact h.root he'
  · intro x target hx
    rw [get?_put] at hx
    split at hx
    · injection hx with hx
      exact he target hx
    · exact h.unlinked x target hx
  · intro x n e' hx
    have hne : d.get? x = some .folder → x ≠ folder ++ [name] := by
      rintro hf rfl
      exact hplace hf
    rw [get?_put] at hx ⊢
    split at hx
    · rename_i heq
      obtain ⟨rfl, -⟩ := List.append_inj' heq rfl
      rw [if_neg (by simp), hfolder]
    · have hf := h.housed hx
      rw [if_neg (hne hf), hf]

/-- A folder may take a free name in a folder. -/
theorem Tree.put_free (h : d.Tree) {folder : Location} {name : String}
    (hfolder : d.get? folder = some .folder)
    (hfree : d.get? (folder ++ [name]) = none) :
    (d.put (folder ++ [name]) .folder).Tree :=
  h.put hfolder (by rw [hfree]; exact (Option.some_ne_none _).symm) nofun

/-- A file may be written anew. -/
theorem Tree.put_file (h : d.Tree) {content : List Octet} {time : Instant}
    (he : d.get? loc = some (.file content time)) (content' : List Octet)
    (time' : Instant) : (d.put loc (.file content' time')).Tree := by
  have hloc : loc ≠ [] := by
    rintro rfl
    cases h.root he
  rw [← List.dropLast_concat_getLast hloc] at he ⊢
  exact h.put (h.housed he) (by rw [he]; nofun) nofun

/-- A root may be put. -/
theorem Tree.put_root (h : d.Tree) :
    (d.put [] .folder).Tree := by
  refine ⟨?_, ?_, ?_⟩
  · intro e he
    rw [get?_put_self] at he
    injection he with he
    exact he.symm
  · intro x target hx
    rw [get?_put] at hx
    split at hx
    · cases hx
    · exact h.unlinked x target hx
  · intro x n e hx
    rw [get?_put, if_neg (by simp)] at hx
    rw [get?_put]
    split
    · rfl
    · exact h.housed hx

/-- Another entry than a folder can be taken away. -/
theorem Tree.erase (h : d.Tree) (hloc : d.get? loc ≠ some .folder) :
    (d.erase loc).Tree := by
  refine ⟨?_, ?_, ?_⟩
  · intro e' he'
    rw [get?_erase] at he'
    split at he'
    · cases he'
    · exact h.root he'
  · intro x target hx
    rw [get?_erase] at hx
    split at hx
    · cases hx
    · exact h.unlinked x target hx
  · intro x n e' hx
    rw [get?_erase] at hx ⊢
    split at hx
    · cases hx
    · have hf := h.housed hx
      rw [if_neg, hf]
      rintro rfl
      exact hloc hf

/-- On a fresh disk there is the root and nothing in it. -/
theorem get?_fresh (root : StagingRoot) (loc : Location) :
    (fresh root).get? loc = if loc = [] then some .folder else none :=
  get?_put (gone root) [] .folder loc

theorem tree_fresh (root : StagingRoot) : (fresh root).Tree := by
  refine ⟨?_, ?_, ?_⟩
  · intro e he
    rw [get?_fresh, if_pos rfl] at he
    injection he with he
    exact he.symm
  · intro loc target
    rw [get?_fresh]
    split <;> simp
  · intro loc name e he
    rw [get?_fresh, if_neg (by simp)] at he
    cases he

-- ============================================================= the look-up

/-- The names have the right length, alone and together below the root, and
no zero octets. -/
def Passable (root : StagingRoot) (names : List String) : Prop :=
  names.any hasZero = false ∧ root.tooFar names = false
    ∧ ∀ name ∈ names, tooLong name = false

/-- A name that stands for itself: neither for the folder it is in, nor for
the one above, nor for the top of the file system. -/
def Plain (name : String) : Prop :=
  name ≠ "." ∧ name ≠ ".." ∧ name ≠ "/"

/-- All the names stand for themselves. -/
def Dotless (names : List String) : Prop := ∀ name ∈ names, Plain name

/-- Such names do not lead out of the area. -/
theorem outside_append (hloc : Location.outside loc = false)
    (hdots : Dotless names) : Location.outside (loc ++ names) = false := by
  unfold Location.outside at *
  rw [List.head?_append]
  cases loc with
  | cons first rest => exact hloc
  | nil =>
      cases names with
      | nil => rfl
      | cons name more => simpa using (hdots name List.mem_cons_self).2.2

theorem outside_concat (hloc : Location.outside loc = false)
    (hn : Plain name) : Location.outside (loc ++ [name]) = false :=
  outside_append hloc (List.forall_mem_singleton.2 hn)

theorem Dotless.dropLast (hdots : Dotless names) : Dotless names.dropLast :=
  fun name hname => hdots name ((List.dropLast_prefix _).subset hname)

theorem Dotless.outside (hdots : Dotless names) :
    Location.outside names = false :=
  outside_append (show Location.outside [] = false from rfl) hdots

theorem below_plain (root : StagingRoot)
    (hloc : Location.outside loc = false) (hn : Plain name) :
    root.below loc name = loc ++ [name] := by
  have hin := outside_concat hloc hn
  unfold StagingRoot.below
  rw [if_neg]
  intro heq
  rw [heq] at hin
  cases hin

theorem ne_nullDevice (hloc : Location.outside loc = false)
    (hn : Plain name) : loc ++ [name] ≠ Location.nullDevice := by
  intro heq
  have hin := outside_concat hloc hn
  rw [heq] at hin
  cases hin

/-- One step of a way that stays in the area. -/
theorem descend_plain {through : Bool}
    {follow : Location → String → List String → Except DiskFault Place}
    {more : List String} (hloc : Location.outside loc = false)
    (hn : Plain name) :
    d.descend through follow loc (name :: more)
      = if tooLong name then .error .nameTooLong
        else
          match d.get? (loc ++ [name]) with
          | none =>
              if more = [] then .ok (.free (loc ++ [name]))
              else .error .notFound
          | some .folder => d.descend through follow (loc ++ [name]) more
          | some (.file content modified) =>
              if more = [] then
                .ok (.found (loc ++ [name]) (.file content modified))
              else .error .notAFolder
          | some (.link target) =>
              if more = [] ∧ through = false then
                .ok (.found (loc ++ [name]) (.link target))
              else follow loc target more := by
  have hin := outside_concat hloc hn
  rw [descend, if_neg hn.1, if_neg hn.2.1, if_neg hn.2.2,
    below_plain _ hloc hn]
  dsimp only
  rw [look_inside hin]
  exact if_congr Iff.rfl rfl (if_neg (ne_nullDevice hloc hn))

/-- The place is the location itself. -/
inductive Leads (d : Disk) (loc : Location) : Place → Prop
  | found {e : DiskEntry} : d.get? loc = some e → Leads d loc (.found loc e)
  | free : d.get? loc = none → d.get? loc.dropLast = some .folder →
      Leads d loc (.free loc)

/-- No link stands at a location or on the way from there along names. -/
def Unlinked (d : Disk) (loc : Location) (names : List String) : Prop :=
  ∀ more, more <+: names → ∀ target, d.get? (loc ++ more) ≠ some (.link target)

theorem Unlinked.tail {name : String} (h : d.Unlinked loc (name :: names)) :
    d.Unlinked (loc ++ [name]) names := by
  intro more hmore target
  rw [List.append_assoc, List.singleton_append]
  exact h _ (List.cons_prefix_cons.2 ⟨rfl, hmore⟩) target

theorem Tree.unlinked_way (h : d.Tree) (loc : Location) (names : List String) :
    d.Unlinked loc names := fun _ _ => h.unlinked _

/-- Going down from a folder leads to where the names spell, unless a link
is on the way. -/
theorem descend_leads {through : Bool}
    {follow : Location → String → List String → Except DiskFault Place}
    (hunlinked : d.Unlinked loc names) (hdots : Dotless names)
    (hin : Location.outside loc = false) (hloc : d.get? loc = some .folder)
    (hw : d.descend through follow loc names = .ok place) :
    (∀ name ∈ names, tooLong name = false)
      ∧ d.Leads (loc ++ names) place := by
  -- All names but the last lead to folders; what is at the last decides.
  induction names generalizing loc with
  | nil =>
      rw [descend, look_inside hin] at hw
      split at hw
      · rename_i e he
        cases hw
        rw [List.append_nil]
        exact ⟨by simp, .found he⟩
      · cases hw
  | cons name more ih =>
      obtain ⟨hn, hrest⟩ := List.forall_mem_cons.1 hdots
      rw [descend_plain hin hn] at hw
      split at hw
      · cases hw
      · rename_i hlong
        rw [Bool.not_eq_true] at hlong
        rw [List.forall_mem_cons]
        have hspelt : loc ++ name :: more = loc ++ [name] ++ more := by simp
        rw [hspelt]
        split at hw
        · rename_i hnone
          split at hw
          · rename_i hmore
            cases hw
            subst hmore
            rw [List.append_nil]
            exact ⟨⟨hlong, by simp⟩, .free hnone (by simpa using hloc)⟩
          · cases hw
        · rename_i hf
          obtain ⟨hshort, hleads⟩ :=
            ih hunlinked.tail hrest (outside_concat hin hn) hf hw
          exact ⟨⟨hlong, hshort⟩, hleads⟩
        · rename_i content modified hf
          split at hw
          · rename_i hmore
            cases hw
            subst hmore
            rw [List.append_nil]
            exact ⟨⟨hlong, by simp⟩, .found hf⟩
          · cases hw
        · -- There is no link to follow.
          rename_i target hf
          have hfree := hunlinked.tail [] List.nil_prefix target
          rw [List.append_nil] at hfree
          exact absurd hf hfree

/-- An entry is found by its names. -/
theorem Tree.descend_of_get? (h : d.Tree) {through : Bool}
    {follow : Location → String → List String → Except DiskFault Place}
    (hdots : Dotless names) (hshort : ∀ name ∈ names, tooLong name = false)
    (hin : Location.outside loc = false)
    (he : d.get? (loc ++ names) = some e) :
    d.descend through follow loc names = .ok (.found (loc ++ names) e) := by
  induction names generalizing loc with
  | nil =>
      rw [List.append_nil] at he ⊢
      rw [descend, look_inside hin, he]
  | cons name more ih =>
      obtain ⟨hn, hrest⟩ := List.forall_mem_cons.1 hdots
      have hin' := outside_concat hin hn
      obtain ⟨hlong, hshort⟩ := List.forall_mem_cons.1 hshort
      have hspelt : loc ++ name :: more = loc ++ [name] ++ more := by simp
      rw [hspelt] at he ⊢
      rw [descend_plain hin hn, if_neg (by simp [hlong])]
      by_cases hmore : more = []
      · subst hmore
        rw [List.append_nil] at he ⊢
        rw [he]
        cases e with
        | folder => simp only [descend, look_inside hin', he]
        | file content modified => rfl
        | link target => exact absurd he (h.unlinked _ _)
      · rw [h.folder_of_below hmore he]
        exact ih hrest hshort hin' he

/-- Whatever links may be followed, there are none. -/
theorem walk_eq_descend (through : Bool) (links : Nat) :
    ∃ follow, d.walk through links = d.descend through follow := by
  cases links with
  | zero => exact ⟨_, rfl⟩
  | succ links => exact ⟨_, rfl⟩

/-- Looking names up leads to where they spell, unless a link is on the
way. -/
theorem find_leads {through : Bool} (hunlinked : d.Unlinked [] names)
    (hdots : Dotless names) (hf : d.find through names = .ok place) :
    Passable d.root names ∧ d.Leads names place := by
  unfold find at hf
  split at hf
  · cases hf
  · rename_i hzero
    split at hf
    · cases hf
    · rename_i hfar
      split at hf
      · rename_i hroot
        obtain ⟨follow, hwalk⟩ := walk_eq_descend (d := d) through mostLinks
        rw [hwalk] at hf
        obtain ⟨hshort, hleads⟩ := descend_leads hunlinked hdots rfl hroot hf
        rw [Bool.not_eq_true] at hzero hfar
        exact ⟨⟨hzero, hfar, hshort⟩, hleads⟩
      · cases hf
      · cases hf

theorem Tree.find_leads (h : d.Tree) {through : Bool} (hdots : Dotless names)
    (hf : d.find through names = .ok place) :
    Passable d.root names ∧ d.Leads names place :=
  Disk.find_leads (h.unlinked_way _ _) hdots hf

/-- An entry is found by its names. -/
theorem Tree.find_of_get? (h : d.Tree) {through : Bool} (hdots : Dotless names)
    (hp : Passable d.root names) (he : d.get? names = some e) :
    d.find through names = .ok (.found names e) := by
  obtain ⟨hzero, hfar, hshort⟩ := hp
  have hroot : d.get? [] = some .folder := by
    by_cases hn : names = []
    · subst hn
      rw [he, h.root he]
    · exact h.folder_of_below hn (show d.get? ([] ++ names) = some e from he)
  unfold find
  rw [if_neg (by simp [hzero]), if_neg (by simp [hfar]), hroot]
  obtain ⟨follow, hwalk⟩ := walk_eq_descend (d := d) through mostLinks
  dsimp only
  rw [hwalk]
  exact h.descend_of_get? hdots hshort rfl
    (show d.get? ([] ++ names) = some e from he)

-- ======================================================== the folders made

/-- One folder on a way that stays in the area. -/
theorem makeFoldersFrom_plain {more : List String}
    (hin : Location.outside loc = false) (hn : Plain name) :
    d.makeFoldersFrom loc (name :: more)
      = if tooLong name then (.error .nameTooLong, d)
        else
          match d.get? (loc ++ [name]) with
          | none =>
              (d.put (loc ++ [name]) .folder).makeFoldersFrom (loc ++ [name])
                more
          | some .folder => d.makeFoldersFrom (loc ++ [name]) more
          | some (.file _ _) => (.error .notAFolder, d)
          | some (.link _) =>
              match d.walk true mostLinks loc [name] with
              | .ok (.found there .folder) => d.makeFoldersFrom there more
              | .ok _ => (.error .notAFolder, d)
              | .error fault => (.error fault, d) := by
  rw [makeFoldersFrom, below_plain _ hin hn]
  dsimp only
  rw [look_inside (outside_concat hin hn),
    set_inside (outside_concat hin hn)]
  exact if_congr Iff.rfl rfl (if_neg (ne_nullDevice hin hn))

/-- The disk has grown by folders at locations above this one, or at it. -/
structure Grown (d d' : Disk) (loc : Location) : Prop where
  tree : d'.Tree
  root : d'.root = d.root
  kept : ∀ {x e}, d.get? x = some e → d'.get? x = some e
  new : ∀ {x e}, d'.get? x = some e →
    d.get? x = some e ∨ (e = .folder ∧ x <+: loc)

theorem Grown.refl (h : d.Tree) : d.Grown d loc :=
  ⟨h, rfl, id, .inl⟩

/-- A folder put at a free name is all that is new. -/
theorem Grown.put (ht : (d.put loc .folder).Tree) (hfree : d.get? loc = none)
    (hpre : loc <+: there) : d.Grown (d.put loc .folder) there := by
  refine ⟨ht, rfl, ?_, ?_⟩
  · intro x e hx
    rw [get?_put, if_neg, hx]
    rintro rfl
    rw [hfree] at hx
    cases hx
  · intro x e hx
    rw [get?_put] at hx
    split at hx
    · rename_i heq
      injection hx with hx
      exact .inr ⟨hx.symm, heq ▸ hpre⟩
    · exact .inl hx

theorem Grown.trans {d'' : Disk} (h : d.Grown d' loc) (h' : d'.Grown d'' loc) :
    d.Grown d'' loc := by
  refine ⟨h'.tree, h'.root.trans h.root, fun hx => h'.kept (h.kept hx),
    fun hx => ?_⟩
  rcases h'.new hx with hx | hnew
  · exact h.new hx
  · exact .inr hnew

/-- Making folders below a folder makes folders on the way and nothing
else; if it succeeds they lead all the way. -/
theorem Tree.makeFoldersFrom (h : d.Tree) (hdots : Dotless names)
    (hin : Location.outside loc = false) (hloc : d.get? loc = some .folder) :
    d.Grown (d.makeFoldersFrom loc names).2 (loc ++ names)
      ∧ ∀ there, (d.makeFoldersFrom loc names).1 = .ok there →
          there = loc ++ names
            ∧ (d.makeFoldersFrom loc names).2.get? there = some .folder := by
  induction names generalizing d loc with
  | nil =>
      refine ⟨.refl h, ?_⟩
      rintro there ⟨⟩
      exact ⟨(List.append_nil _).symm, hloc⟩
  | cons name more ih =>
      obtain ⟨hn, hrest⟩ := List.forall_mem_cons.1 hdots
      have hin' := outside_concat hin hn
      have hspelt : loc ++ name :: more = loc ++ [name] ++ more := by simp
      rw [hspelt, makeFoldersFrom_plain hin hn]
      split
      · exact ⟨.refl h, nofun⟩
      · split
        · -- A folder is made here, and the rest below it.
          rename_i hfree
          have ht : (d.put (loc ++ [name]) .folder).Tree :=
            h.put_free hloc hfree
          have hnew := ih ht hrest hin' (get?_put_self _ _ _)
          exact ⟨(Grown.put ht hfree (List.prefix_append _ _)).trans hnew.1,
            hnew.2⟩
        · rename_i hf
          exact ih h hrest hin' hf
        · exact ⟨.refl h, nofun⟩
        · rename_i target hf
          exact absurd hf (h.unlinked _ _)

/-- Making folders makes folders on the way and nothing else; if it
succeeds they lead all the way. -/
theorem Tree.makeFolders (h : d.Tree) (hdots : Dotless names) :
    d.Grown (d.makeFolders names).2 names
      ∧ ∀ there, (d.makeFolders names).1 = .ok there →
          there = names
            ∧ (d.makeFolders names).2.get? there = some .folder := by
  unfold Disk.makeFolders
  split
  · exact ⟨.refl h, nofun⟩
  · split
    · exact ⟨.refl h, nofun⟩
    · split
      · rename_i hroot
        exact h.makeFoldersFrom hdots rfl hroot
      · exact ⟨.refl h, nofun⟩
      · rename_i hfree
        have ht := h.put_root
        have hnew :=
          ht.makeFoldersFrom hdots rfl (get?_put_self d [] .folder)
        exact ⟨(Grown.put ht hfree (List.nil_prefix)).trans hnew.1, hnew.2⟩

-- ================================================================ the files

/-- A file may be put at the location that the names spell: it is in a
folder, and is no folder itself. -/
structure Takes (d : Disk) (names : List String) : Prop where
  passable : Passable d.root names
  folder : d.get? names.dropLast = some .folder
  place : d.get? names ≠ some .folder

/-- A file put where one may be put is in a folder. -/
theorem Tree.put_takes (h : d.Tree) (ht : d.Takes names) (hnames : names ≠ [])
    (content : List Octet) (time : Instant) :
    (d.put names (.file content time)).Tree := by
  have hspelt := List.dropLast_concat_getLast hnames
  have hput : (d.put (names.dropLast ++ [names.getLast hnames])
      (.file content time)).Tree :=
    h.put ht.folder (by rw [hspelt]; exact ht.place) nofun
  rwa [hspelt] at hput

/-- A look-up that ends with anything but a folder ends where a file may
be put. -/
theorem Tree.takes_of_find (h : d.Tree) {through : Bool}
    (hdots : Dotless names) (hf : d.find through names = .ok place)
    (hplace : ∀ loc, place ≠ .found loc .folder) :
    d.Takes names
      ∧ (place = .free names ∨ ∃ e, place = .found names e) := by
  obtain ⟨hp, hleads⟩ := h.find_leads hdots hf
  cases hleads with
  | free hfree hfolder =>
      exact ⟨⟨hp, hfolder, by rw [hfree]; nofun⟩, .inl rfl⟩
  | @found e he =>
      have hne : e ≠ .folder := by
        rintro rfl
        exact hplace names rfl
      have hnames : names ≠ [] := by
        rintro rfl
        exact hne (h.root he)
      rw [← List.dropLast_concat_getLast hnames] at he
      refine ⟨⟨hp, h.housed he, ?_⟩, .inr ⟨e, rfl⟩⟩
      rw [← List.dropLast_concat_getLast hnames, he]
      exact fun heq => hne (Option.some.inj heq)

/-- An empty file is put where its names spell, or nothing is changed. -/
theorem Tree.truncate_cases (h : d.Tree) {now : Instant}
    (hdots : Dotless names) {answer : Except DiskFault (Option Location)}
    (ht : d.truncate names now = (answer, d')) :
    (∃ fault, answer = .error fault ∧ d' = d)
      ∨ (answer = .ok (some names) ∧ d.Takes names
          ∧ d' = d.put names (.file [] now)) := by
  unfold truncate at ht
  cases hf : d.find true names with
  | error fault =>
      rw [hf] at ht
      cases ht
      exact .inl ⟨fault, rfl, rfl⟩
  | ok place =>
      rw [hf] at ht
      by_cases hplace : ∀ loc, place ≠ .found loc .folder
      · obtain ⟨htakes, rfl | ⟨e, rfl⟩⟩ :=
          h.takes_of_find hdots hf hplace
        · cases ht
          exact .inr ⟨rfl, htakes, set_inside hdots.outside⟩
        · cases e with
          | folder => exact absurd rfl (hplace names)
          | file content modified =>
              cases ht
              exact .inr ⟨rfl, htakes, set_inside hdots.outside⟩
          | link target =>
              obtain ⟨-, hleads⟩ := h.find_leads hdots hf
              cases hleads with
              | found he => exact absurd he (h.unlinked _ _)
      · rw [not_forall_not] at hplace
        obtain ⟨loc, rfl⟩ := hplace
        cases ht
        exact .inl ⟨_, rfl, rfl⟩

/-- What is moved is put where the names spell. -/
theorem Tree.rename_cases (h : d.Tree) {source : Location}
    (hdots : Dotless names) (hsource : Location.outside source = false)
    (hr : d.rename source names = .ok d') :
    ∃ e, d.get? source = some e ∧ d.Takes names
      ∧ d' = (d.erase source).put names e := by
  unfold rename at hr
  rw [look_inside hsource, unset_inside hsource] at hr
  cases he : d.get? source with
  | none =>
      rw [he] at hr
      have hnone (e' : DiskEntry) : none ≠ some e' := nofun
      split at hr
      · exact absurd ‹_› (hnone _)
      · cases hr
      · exact absurd ‹_› (hnone _)
      all_goals cases hr
  | some e =>
      rw [he] at hr
      cases hf : d.find false names with
      | error fault =>
          rw [hf] at hr
          cases hr
      | ok place =>
          rw [hf] at hr
          by_cases hplace : ∀ loc, place ≠ .found loc .folder
          · obtain ⟨htakes, rfl | ⟨e', rfl⟩⟩ :=
              h.takes_of_find hdots hf hplace
            · cases hr
              exact ⟨e, rfl, htakes, set_inside hdots.outside⟩
            · cases e' with
              | folder => exact absurd rfl (hplace names)
              | _ =>
                  cases hr
                  exact ⟨e, rfl, htakes, set_inside hdots.outside⟩
          · rw [not_forall_not] at hplace
            obtain ⟨loc, rfl⟩ := hplace
            cases hr

end BatchAdmin.Disk
