/-
Drafts and files on disks with links.

What is told here of a disk is which regular files it holds, at whatever
location (`Disk.file?`). Making folders adds folders and changes nothing
else, whether it succeeds or not (`furnished_makeFolders`).

Then what becomes of a draft that is moved to the end of names: it cannot
be moved there; or it can, and is found by these names afterwards; or it
can, in place of a link that the names go through, and is not found
(`moves`). Which of the three it is does not depend on its content.
-/
import BatchAdmin.Proofs.Staging.Ways

namespace BatchAdmin.Disk

open Text

variable {d d' : Disk} {loc hidden source : Location}
  {names : List String} {last : String} {now : Instant}

-- =============================================================== the files

/-- The content of the regular file at a location, and its time. -/
def file? (d : Disk) (loc : Location) : Option (List Octet × Instant) :=
  match d.look loc with
  | some (.file content time) => some (content, time)
  | _ => none

theorem file?_congr (h : d'.look loc = d.look loc) :
    d'.file? loc = d.file? loc := by
  unfold file?
  rw [h]

theorem file?_of_link {target : String}
    (h : d.look loc = some (.link target)) : d.file? loc = none := by
  unfold file?
  rw [h]

/-- Only the last entry put at a location counts. -/
theorem erase_put (d : Disk) (loc : Location) (e : DiskEntry) :
    (d.put loc e).erase loc = d.erase loc := by
  simp [put, erase, List.filter_append, List.filter_filter]

theorem put_put (d : Disk) (loc : Location) (e e' : DiskEntry) :
    (d.put loc e).put loc e' = d.put loc e' := by
  have herase := congrArg entries (erase_put d loc e)
  unfold put at *
  rw [herase]

theorem unset_set (d : Disk) (loc : Location) (e : DiskEntry) :
    (d.set loc e).unset loc = d.unset loc := by
  unfold set unset
  split
  · exact congrArg turned (erase_put d.turned loc e)
  · exact erase_put d loc e

theorem set_set (d : Disk) (loc : Location) (e e' : DiskEntry) :
    (d.set loc e).set loc e' = d.set loc e' := by
  unfold set
  split
  · exact congrArg turned (put_put d.turned loc e e')
  · exact put_put d loc e e'

-- ============================================================= the folders

/-- All that is new on the disk are folders: the root, or one with one of
these names. -/
structure Furnished (d d' : Disk) (names : List String) : Prop where
  root : d'.root = d.root
  look : ∀ loc, d'.look loc = d.look loc
    ∨ d.look loc = none ∧ d'.look loc = some .folder
      ∧ ∀ name ∈ loc.getLast?, name ∈ names

theorem Furnished.refl : d.Furnished d names := ⟨rfl, fun _ => .inl rfl⟩

theorem Furnished.trans {d'' : Disk} (h : d.Furnished d' names)
    (h' : d'.Furnished d'' names) : d.Furnished d'' names := by
  refine ⟨h'.root.trans h.root, fun loc => ?_⟩
  rcases h'.look loc with hsame | ⟨hfree, hnew, hname⟩
  · rw [hsame]
    exact h.look loc
  · rcases h.look loc with hsame | ⟨-, hfolder, -⟩
    · exact .inr ⟨hsame ▸ hfree, hnew, hname⟩
    · rw [hfolder] at hfree
      cases hfree

theorem Furnished.mono {names' : List String} (h : d.Furnished d' names)
    (hsub : ∀ name ∈ names, name ∈ names') : d.Furnished d' names' := by
  refine ⟨h.root, fun loc => ?_⟩
  rcases h.look loc with hsame | ⟨hfree, hnew, hname⟩
  · exact .inl hsame
  · exact .inr ⟨hfree, hnew, fun name hn => hsub name (hname name hn)⟩

theorem Furnished.set (hfree : d.look loc = none)
    (hname : ∀ name ∈ loc.getLast?, name ∈ names) :
    d.Furnished (d.set loc .folder) names := by
  refine ⟨root_set _ _ _, fun x => ?_⟩
  rw [look_set]
  split
  · rename_i hx
    subst hx
    exact .inr ⟨hfree, rfl, hname⟩
  · exact .inl rfl

theorem furnished_makeFoldersFrom (d : Disk) (loc : Location)
    (names : List String) :
    d.Furnished (d.makeFoldersFrom loc names).2 names := by
  induction names generalizing d loc with
  | nil => exact .refl
  | cons name more ih =>
      have hsub (n : String) (hn : n ∈ more) : n ∈ name :: more :=
        List.mem_cons_of_mem _ hn
      rw [makeFoldersFrom]
      split
      · exact .refl
      · dsimp only
        split
        · exact .refl
        · split
          · rename_i hfree
            refine (Furnished.set hfree ?_).trans ((ih _ _).mono hsub)
            rcases below_cases d.root loc name with hnil | hconcat
            · rw [hnil]
              intro n hn
              cases hn
            · rw [hconcat]
              simp
          · exact (ih _ _).mono hsub
          · exact .refl
          · split
            · exact (ih _ _).mono hsub
            · exact .refl
            · exact .refl

/-- Making folders adds folders with the given names, and perhaps the root;
also if it fails. -/
theorem furnished_makeFolders (d : Disk) (names : List String) :
    d.Furnished (d.makeFolders names).2 names := by
  unfold makeFolders
  split
  · exact .refl
  · split
    · exact .refl
    · split
      · exact furnished_makeFoldersFrom _ _ _
      · exact .refl
      · rename_i hfree
        have hroot : d.Furnished (d.put [] .folder) names :=
          Furnished.set (show d.look [] = none from hfree) nofun
        exact hroot.trans (furnished_makeFoldersFrom _ _ _)

/-- New folders are no files. -/
theorem Furnished.file? (h : d.Furnished d' names) (loc : Location) :
    d'.file? loc = d.file? loc := by
  rcases h.look loc with hsame | ⟨hfree, hnew, -⟩
  · exact file?_congr hsame
  · unfold Disk.file?
    rw [hfree, hnew]

-- =============================================================== the moves

/-- What is moved goes to where its names lead, and only not to a folder or
the null device. -/
theorem rename_eq_ok {e : DiskEntry} (hl : Plain last)
    (hends : Ends names last) (he : d.look source = some e) :
    d.rename source names = .ok d'
      ↔ ∃ loc, d.find false names = .ok (d.placeAt loc)
          ∧ loc ≠ Location.nullDevice ∧ d.look loc ≠ some .folder
          ∧ d' = (d.unset source).set loc e := by
  unfold rename
  rw [he]
  cases hf : d.find false names with
  | error fault => simp
  | ok place =>
      constructor
      · intro hr
        obtain ⟨folder, rfl⟩ := (way_of_find hl hends hf).ends
        refine ⟨_, rfl, ?_⟩
        by_cases hdevice : d.root.below folder last = Location.nullDevice
        · unfold placeAt at hr
          rw [if_pos hdevice] at hr
          cases hr
        · rw [placeAt_of_ne hdevice] at hr
          cases hx : d.look (d.root.below folder last) with
          | none =>
              rw [hx] at hr
              cases hr
              exact ⟨hdevice, nofun, rfl⟩
          | some e' =>
              rw [hx] at hr
              cases e' with
              | folder => cases hr
              | file content time =>
                  cases hr
                  exact ⟨hdevice, nofun, rfl⟩
              | link target =>
                  cases hr
                  exact ⟨hdevice, nofun, rfl⟩
      · rintro ⟨loc, hplace, hdevice, hfolder, rfl⟩
        injection hplace with hplace
        rw [hplace, placeAt_of_ne hdevice]
        cases hx : d.look loc with
        | none => rfl
        | some e' =>
            cases e' with
            | folder => exact absurd hx hfolder
            | file content time => rfl
            | link target => rfl

/-- The disk with a draft at a hidden location. -/
def drafted (d : Disk) (hidden : Location) (content : List Octet)
    (now : Instant) : Disk :=
  d.set hidden (.file content now)

/-- The disk where the draft has gone and its content is at a location. -/
def moved (d : Disk) (hidden loc : Location) (content : List Octet)
    (now : Instant) : Disk :=
  (d.unset hidden).set loc (.file content now)

theorem look_drafted_of_ne (content : List Octet) (hloc : loc ≠ hidden) :
    (d.drafted hidden content now).look loc = d.look loc := by
  unfold drafted
  rw [look_set, if_neg hloc]

theorem root_drafted (d : Disk) (hidden : Location) (content : List Octet) :
    (d.drafted hidden content now).root = d.root := root_set _ _ _

/-- A draft is neither a folder nor a link. -/
theorem inert_drafted (hidden : Location) (content : List Octet) :
    (d.drafted hidden content now).Inert hidden := by
  unfold Inert drafted
  rw [look_set_self]
  exact ⟨nofun, nofun⟩

/-- Names lead to a location that has the last of them. -/
theorem getLast?_of_find (hl : Plain last) (hends : Ends names last)
    (hf : d.find false names = .ok (d.placeAt loc))
    (hloc : d.look loc ≠ some .folder) : loc.getLast? = some last := by
  obtain ⟨folder, hplace⟩ := (way_of_find hl hends hf).ends
  obtain rfl := placeAt_injective hplace
  rcases below_cases d.root folder last with hnil | hconcat
  · -- Names that lead back to the root lead to a folder.
    rw [hnil] at hloc
    exact absurd (asked_of_find hf).folder hloc
  · rw [hconcat, List.getLast?_concat]

/-- Where a draft can be moved, a draft with another content can be. -/
theorem rename_drafted (hl : Plain last) (hends : Ends names last)
    (hlast : hidden.getLast? ≠ some last) {content : List Octet}
    (hr : (d.drafted hidden content now).rename hidden names = .ok d') :
    ∃ loc, loc.getLast? = some last ∧ loc ≠ Location.nullDevice
      ∧ (d.drafted hidden content now).find false names
        = .ok ((d.drafted hidden content now).placeAt loc)
      ∧ d.look loc ≠ some .folder
      ∧ ∀ content', (d.drafted hidden content' now).rename hidden names
        = .ok (d.moved hidden loc content' now) := by
  have hlook (content : List Octet) :
      (d.drafted hidden content now).look hidden
        = some (.file content now) := look_set_self _ _ _
  obtain ⟨loc, hf, hdevice, hfree, -⟩ :=
    (rename_eq_ok hl hends (hlook content)).1 hr
  have hname := getLast?_of_find hl hends hf hfree
  have hne : hidden ≠ [] := by
    rintro rfl
    cases (asked_of_find hf).folder.symm.trans (hlook content)
  have hloc : loc ≠ hidden := by
    rintro rfl
    exact hlast hname
  rw [look_drafted_of_ne _ hloc] at hfree
  refine ⟨loc, hname, hdevice, hf, hfree, fun content' => ?_⟩
  have hsame (x : Location) (hx : x ≠ hidden) :
      (d.drafted hidden content' now).look x
        = (d.drafted hidden content now).look x := by
    rw [look_drafted_of_ne _ hx, look_drafted_of_ne _ hx]
  have hroot : (d.drafted hidden content' now).root
      = (d.drafted hidden content now).root := by
    rw [root_drafted, root_drafted]
  refine (rename_eq_ok hl hends (hlook content')).2
    ⟨loc, ?_, hdevice, ?_, ?_⟩
  · rw [placeAt_congr (hsame _ hloc)]
    exact find_apart hl hends hne (inert_drafted _ _) hlast hroot hsame hf
  · rwa [look_drafted_of_ne _ hloc]
  · unfold Disk.moved drafted
    rw [unset_set]

/-- What becomes of a draft that is moved to the end of names, whatever its
content is. -/
inductive Moves (d : Disk) (hidden : Location) (names : List String)
    (last : String) (now : Instant) : Prop
  /-- It cannot be moved there. -/
  | barred (h : ∀ content, ∃ fault,
      (d.drafted hidden content now).rename hidden names = .error fault)
  /-- It is found there. -/
  | stored (loc : Location) (hname : loc.getLast? = some last)
      (h : ∀ content, (d.drafted hidden content now).rename hidden names
            = .ok (d.moved hidden loc content now)
          ∧ (d.moved hidden loc content now).find true names
            = .ok (.found loc (.file content now)))
  /-- It takes the place of a link that the names go through. -/
  | severed (loc : Location) (target : String)
      (hname : loc.getLast? = some last)
      (hlink : d.look loc = some (.link target))
      (h : ∀ content, (d.drafted hidden content now).rename hidden names
            = .ok (d.moved hidden loc content now)
          ∧ (d.moved hidden loc content now).find true names
            = .error .notAFolder)

/-- Where a draft goes depends on its disk and the names alone. -/
theorem moves (hl : Plain last) (hends : Ends names last)
    (hlast : hidden.getLast? ≠ some last) :
    d.Moves hidden names last now := by
  -- The empty draft decides for all.
  cases hr : (d.drafted hidden [] now).rename hidden names with
  | error fault =>
      refine .barred fun content => ?_
      cases hr' : (d.drafted hidden content now).rename hidden names with
      | error fault' => exact ⟨fault', rfl⟩
      | ok moved =>
          obtain ⟨loc, -, -, -, -, hmove⟩ :=
            rename_drafted hl hends hlast hr'
          cases hr.symm.trans (hmove [])
  | ok moved =>
      obtain ⟨loc, hname, hdevice, hf, hfree, hmove⟩ :=
        rename_drafted hl hends hlast hr
      have hloc : loc ≠ hidden := by
        rintro rfl
        exact hlast hname
      have hne : hidden ≠ [] := by
        rintro rfl
        cases (asked_of_find hf).folder.symm.trans (look_set_self _ _ _)
      rw [← look_drafted_of_ne [] hloc] at hfree
      have hreplaced (content : List Octet) :
          (d.drafted hidden [] now).Replaced
            (d.moved hidden loc content now) hidden loc content now := by
        refine ⟨?_, look_set_self _ _ _, fun hx hx' => ?_⟩
        · unfold Disk.moved
          rw [root_set, root_unset, root_drafted]
        · unfold Disk.moved
          rw [look_set, if_neg hx, look_unset, if_neg hx',
            look_drafted_of_ne _ hx']
      rcases find_replaced hl hends hne (inert_drafted _ _) hf hdevice
        hfree with hfound | ⟨⟨target, hlink⟩, hlost⟩
      · exact .stored loc hname fun content =>
          ⟨hmove content, hfound (hreplaced content)⟩
      · refine .severed loc target hname ?_ fun content =>
          ⟨hmove content, hlost (hreplaced content)⟩
        rwa [look_drafted_of_ne _ hloc] at hlink

end BatchAdmin.Disk
