/-
Ways on disks with links.

A staging area may hold links that others have put there, and names may
lead through them, out of the area and back. `Way` is how names lead
somewhere, one constructor for each kind of step; it is for names whose
last one stands for itself, as those of a staged path do, and follows no
link at the end (`way_of_walk`).

Two things are shown of it. Where a way leads does not depend on what is
at a location that is neither a folder nor a link and not its end, since no
way goes on from one (`find_elsewhere`); the location of a draft is one of
those, and no way ends at one (`find_apart`). And a file put
where a way leads is found there again, with one exception: where it takes
the place of a link that the way goes through itself, the same names lead
nowhere any more (`find_replaced`). Which of the two it is depends on the
way alone and not on the file.
-/
import BatchAdmin.Proofs.Staging.Tree

namespace BatchAdmin.Disk

open Text

variable {d d' : Disk} {loc hidden start : Location}
  {names more : List String} {last name target : String} {place : Place}
  {links : Nat} {through : Bool}

-- ============================================================= the entries

/-- What is on the one side of the root is not on the other. -/
private theorem ne_of_outside (hx : Location.outside loc = true)
    (hl : Location.outside start = false) : loc ≠ start := by
  rintro rfl
  cases hx.symm.trans hl

/-- An entry that is taken away is gone, wherever it was; the others are as
they were. -/
theorem look_unset (d : Disk) (loc x : Location) :
    (d.unset loc).look x = if x = loc then none else d.look x := by
  unfold look unset
  cases hx : Location.outside x with
  | true =>
      cases hl : Location.outside loc with
      | true => exact get?_erase d.turned loc x
      | false =>
          rw [if_neg (ne_of_outside hx hl)]
          rfl
  | false =>
      cases hl : Location.outside loc with
      | true =>
          rw [if_neg (ne_of_outside hl hx).symm]
          rfl
      | false => exact get?_erase d loc x

/-- What is put at a location is there, wherever it is; the others are as
they were. -/
theorem look_set (d : Disk) (loc : Location) (e : DiskEntry) (x : Location) :
    (d.set loc e).look x = if x = loc then some e else d.look x := by
  unfold look set
  cases hx : Location.outside x with
  | true =>
      cases hl : Location.outside loc with
      | true => exact get?_put d.turned loc e x
      | false =>
          rw [if_neg (ne_of_outside hx hl)]
          rfl
  | false =>
      cases hl : Location.outside loc with
      | true =>
          rw [if_neg (ne_of_outside hl hx).symm]
          rfl
      | false => exact get?_put d loc e x

theorem look_set_self (d : Disk) (loc : Location) (e : DiskEntry) :
    (d.set loc e).look loc = some e := by
  rw [look_set, if_pos rfl]

/-- What is there is among the entries. -/
theorem mem_of_look {e : DiskEntry} (h : d.look loc = some e) :
    (loc, e) ∈ d.entries ++ d.abroad := by
  have hmem {d : Disk} (he : d.get? loc = some e) : (loc, e) ∈ d.entries := by
    obtain ⟨⟨x, _⟩, hfind, rfl⟩ := Option.map_eq_some_iff.1 he
    obtain rfl : x = loc := by simpa using List.find?_some hfind
    exact List.mem_of_find?_eq_some hfind
  unfold look at h
  split at h
  · exact List.mem_append_right _ (hmem h)
  · exact List.mem_append_left _ (hmem h)

theorem root_unset (d : Disk) (loc : Location) :
    (d.unset loc).root = d.root := by
  unfold unset
  split <;> rfl

theorem root_set (d : Disk) (loc : Location) (e : DiskEntry) :
    (d.set loc e).root = d.root := by
  unfold set
  split <;> rfl

-- =============================================================== the names

/-- The names end in this one. -/
def Ends (names : List String) (last : String) : Prop :=
  names.getLast? = some last

theorem Ends.behind {front : List String} (h : Ends names last) :
    Ends (front ++ names) last := by
  unfold Ends at *
  rw [List.getLast?_append, h]
  rfl

theorem Ends.tail (h : Ends (name :: more) last) (hm : more ≠ []) :
    Ends more last := by
  obtain ⟨next, rest, rfl⟩ := List.exists_cons_of_ne_nil hm
  unfold Ends at *
  rw [← h, List.getLast?_cons_cons]

theorem Ends.eq (h : Ends [name] last) : name = last := by
  simpa [Ends] using h

/-- Only a name that stands for itself is the last. -/
theorem Ends.more_ne_nil (h : Ends (name :: more) last) (hl : Plain last)
    (hn : ¬Plain name) : more ≠ [] := by
  rintro rfl
  obtain rfl := h.eq
  exact hn hl

/-- A name in a folder is the last of its location, or the root has been
come back to. -/
theorem below_cases (root : StagingRoot) (folder : Location) (name : String) :
    root.below folder name = [] ∨ root.below folder name = folder ++ [name] := by
  unfold StagingRoot.below
  split
  · exact .inl rfl
  · exact .inr rfl

-- ======================================================= one step of a walk

theorem walk_here : d.walk through links start ("." :: more)
    = d.walk through links start more := by
  obtain ⟨follow, hwalk⟩ := walk_eq_descend (d := d) through links
  rw [hwalk, descend, if_pos rfl]

theorem walk_up : d.walk through links start (".." :: more)
    = d.walk through links (d.root.above start) more := by
  obtain ⟨follow, hwalk⟩ := walk_eq_descend (d := d) through links
  rw [hwalk, descend, if_neg (by decide), if_pos rfl]

theorem walk_top : d.walk through links start ("/" :: more)
    = d.walk through links Location.top more := by
  obtain ⟨follow, hwalk⟩ := walk_eq_descend (d := d) through links
  rw [hwalk, descend, if_neg (by decide), if_neg (by decide), if_pos rfl]

/-- Down to a name that stands for itself. -/
theorem descend_name
    {follow : Location → String → List String → Except DiskFault Place}
    (hn : Plain name) (hshort : tooLong name = false)
    (hdevice : d.root.below start name ≠ Location.nullDevice) :
    d.descend through follow start (name :: more)
      = match d.look (d.root.below start name) with
        | none =>
            if more = [] then .ok (.free (d.root.below start name))
            else .error .notFound
        | some .folder =>
            d.descend through follow (d.root.below start name) more
        | some (.file content time) =>
            if more = [] then
              .ok (.found (d.root.below start name) (.file content time))
            else .error .notAFolder
        | some (.link target) =>
            if more = [] ∧ through = false then
              .ok (.found (d.root.below start name) (.link target))
            else follow start target more := by
  have hlong : ¬tooLong name = true := by simp [hshort]
  rw [descend, if_neg hn.1, if_neg hn.2.1, if_neg hn.2.2, if_neg hlong]
  exact if_neg hdevice

theorem walk_down (hn : Plain name) (hshort : tooLong name = false)
    (hdevice : d.root.below start name ≠ Location.nullDevice)
    (he : d.look (d.root.below start name) = some .folder) :
    d.walk through links start (name :: more)
      = d.walk through links (d.root.below start name) more := by
  obtain ⟨follow, hwalk⟩ := walk_eq_descend (d := d) through links
  rw [hwalk, descend_name hn hshort hdevice, he]

theorem walk_follow (hn : Plain name) (hshort : tooLong name = false)
    (hdevice : d.root.below start name ≠ Location.nullDevice)
    (he : d.look (d.root.below start name) = some (.link target))
    (hm : more ≠ []) :
    d.walk through (links + 1) start (name :: more)
      = d.walk through links start (targetNames target ++ more) := by
  rw [walk, descend_name hn hshort hdevice, he]
  exact if_neg fun h => hm h.1

/-- A file on the way is its end, or there is none. -/
theorem walk_file {content : List Octet} {time : Instant} (hn : Plain name)
    (hshort : tooLong name = false)
    (hdevice : d.root.below start name ≠ Location.nullDevice)
    (he : d.look (d.root.below start name) = some (.file content time)) :
    d.walk through links start (name :: more)
      = if more = [] then
          .ok (.found (d.root.below start name) (.file content time))
        else .error .notAFolder := by
  obtain ⟨follow, hwalk⟩ := walk_eq_descend (d := d) through links
  rw [hwalk, descend_name hn hshort hdevice, he]

/-- What there is at a location, as the end of a way. -/
def placeAt (d : Disk) (loc : Location) : Place :=
  if loc = Location.nullDevice then .null
  else
    match d.look loc with
    | none => .free loc
    | some e => .found loc e

theorem placeAt_of_ne (hdevice : loc ≠ Location.nullDevice) :
    d.placeAt loc = match d.look loc with
      | none => .free loc
      | some e => .found loc e := by
  unfold placeAt
  rw [if_neg hdevice]

/-- A link at the end is not followed if it is not to be. -/
theorem walk_stop (hn : Plain name) (hshort : tooLong name = false) :
    d.walk false links start [name]
      = .ok (d.placeAt (d.root.below start name)) := by
  obtain ⟨follow, hwalk⟩ := walk_eq_descend (d := d) false links
  rw [hwalk]
  by_cases hdevice : d.root.below start name = Location.nullDevice
  · have hlong : ¬tooLong name = true := by simp [hshort]
    rw [descend, if_neg hn.1, if_neg hn.2.1, if_neg hn.2.2, if_neg hlong]
    dsimp only
    unfold placeAt
    rw [if_pos hdevice, if_pos hdevice, if_pos rfl]
  · rw [descend_name hn hshort hdevice, placeAt_of_ne hdevice]
    cases he : d.look (d.root.below start name) with
    | none => rfl
    | some e =>
        cases e with
        | folder => simp only [descend, he]
        | file content time => rfl
        | link target => rfl

-- ================================================================ the ways

/-- How names lead from a folder to a place, with this many links followed
at most and none at the end. -/
inductive Way (d : Disk) (last : String) :
    Nat → Location → List String → Place → Prop
  | stop {links : Nat} {start : Location} (hshort : tooLong last = false) :
      Way d last links start [last] (d.placeAt (d.root.below start last))
  | here {links : Nat} {start : Location} {more : List String}
      {place : Place} (h : Way d last links start more place) :
      Way d last links start ("." :: more) place
  | up {links : Nat} {start : Location} {more : List String}
      {place : Place} (h : Way d last links (d.root.above start) more place) :
      Way d last links start (".." :: more) place
  | top {links : Nat} {start : Location} {more : List String}
      {place : Place} (h : Way d last links Location.top more place) :
      Way d last links start ("/" :: more) place
  | down {links : Nat} {start : Location} {name : String}
      {more : List String} {place : Place} (hn : Plain name)
      (hshort : tooLong name = false)
      (hdevice : d.root.below start name ≠ Location.nullDevice)
      (he : d.look (d.root.below start name) = some .folder)
      (h : Way d last links (d.root.below start name) more place) :
      Way d last links start (name :: more) place
  | follow {links : Nat} {start : Location} {name target : String}
      {more : List String} {place : Place} (hn : Plain name)
      (hshort : tooLong name = false)
      (hdevice : d.root.below start name ≠ Location.nullDevice)
      (he : d.look (d.root.below start name) = some (.link target))
      (hm : more ≠ [])
      (h : Way d last links start (targetNames target ++ more) place) :
      Way d last (links + 1) start (name :: more) place

/-- A way is walked to its end. -/
theorem Way.walk (hl : Plain last) (h : d.Way last links start names place) :
    d.walk false links start names = .ok place := by
  induction h with
  | stop hshort => exact walk_stop hl hshort
  | here _ ih => rw [walk_here, ih]
  | up _ ih => rw [walk_up, ih]
  | top _ ih => rw [walk_top, ih]
  | down hn hshort hdevice he _ ih => rw [walk_down hn hshort hdevice he, ih]
  | follow hn hshort hdevice he hm _ ih =>
      rw [walk_follow hn hshort hdevice he hm, ih]

/-- One level of links: what is walked to the end is a way. -/
private theorem descend_way
    {follow : Location → String → List String → Except DiskFault Place}
    (hfollow : ∀ {start name target more place}, Plain name →
      tooLong name = false →
      d.root.below start name ≠ Location.nullDevice →
      d.look (d.root.below start name) = some (.link target) → more ≠ [] →
      Ends more last → follow start target more = .ok place →
      d.Way last links start (name :: more) place)
    (hl : Plain last) (hends : Ends names last)
    (hw : d.descend false follow start names = .ok place) :
    d.Way last links start names place := by
  induction names generalizing start with
  | nil => cases hends
  | cons name more ih =>
      rw [descend] at hw
      by_cases hdot : name = "."
      · subst hdot
        have hm := hends.more_ne_nil hl fun h => h.1 rfl
        rw [if_pos rfl] at hw
        exact .here (ih (hends.tail hm) hw)
      by_cases hdots : name = ".."
      · subst hdots
        have hm := hends.more_ne_nil hl fun h => h.2.1 rfl
        rw [if_neg hdot, if_pos rfl] at hw
        exact .up (ih (hends.tail hm) hw)
      by_cases htop : name = "/"
      · subst htop
        have hm := hends.more_ne_nil hl fun h => h.2.2 rfl
        rw [if_neg hdot, if_neg hdots, if_pos rfl] at hw
        exact .top (ih (hends.tail hm) hw)
      have hn : Plain name := ⟨hdot, hdots, htop⟩
      rw [if_neg hdot, if_neg hdots, if_neg htop] at hw
      split at hw
      · cases hw
      rename_i hlong
      have hshort : tooLong name = false := Bool.not_eq_true _ ▸ hlong
      dsimp only at hw
      by_cases hm : more = []
      · -- the last name: whatever is there is where the way ends
        subst hm
        obtain rfl := hends.eq
        have hplace : place = d.placeAt (d.root.below start name) := by
          split at hw
          · rename_i hdevice
            unfold placeAt
            rw [if_pos hdevice]
            cases hw
            rfl
          · rename_i hdevice
            rw [placeAt_of_ne hdevice]
            split at hw
            · rename_i he
              cases hw
              rw [he]
            · rename_i he
              rw [descend, he] at hw
              cases hw
              rw [he]
            · rename_i he
              cases hw
              rw [he]
            · rename_i he
              cases hw
              rw [he]
        rw [hplace]
        exact .stop hshort
      · have hrest := hends.tail hm
        simp only [hm, false_and, if_false] at hw
        split at hw
        · cases hw
        · rename_i hdevice
          split at hw
          · cases hw
          · rename_i he
            exact .down hn hshort hdevice he (ih hrest hw)
          · cases hw
          · rename_i target he
            exact hfollow hn hshort hdevice he hm hrest hw

/-- What is walked to the end, with no link followed there, is a way. -/
theorem way_of_walk (hl : Plain last) (hends : Ends names last)
    (hw : d.walk false links start names = .ok place) :
    d.Way last links start names place := by
  induction links generalizing start names place with
  | zero =>
      refine descend_way ?_ hl hends hw
      intro start name target more place hn hshort hdevice he hm hrest hfollow
      cases hfollow
  | succ links ih =>
      refine descend_way ?_ hl hends hw
      intro start name target more place hn hshort hdevice he hm hrest hfollow
      exact .follow hn hshort hdevice he hm (ih hrest.behind hfollow)

/-- The location of a place. -/
def Place.location : Place → Location
  | .found loc _ => loc
  | .free loc => loc
  | .null => Location.nullDevice

theorem location_placeAt (d : Disk) (loc : Location) :
    (d.placeAt loc).location = loc := by
  unfold placeAt
  split
  · rename_i hdevice
    exact hdevice.symm
  · split
    · rfl
    · rfl

theorem placeAt_injective : Function.Injective d.placeAt :=
  Function.LeftInverse.injective d.location_placeAt

theorem placeAt_congr (h : d'.look loc = d.look loc) :
    d'.placeAt loc = d.placeAt loc := by
  unfold placeAt
  rw [h]

/-- A way ends at a location that its last name has in a folder. -/
theorem Way.ends (h : d.Way last links start names place) :
    ∃ folder, place = d.placeAt (d.root.below folder last) := by
  induction h with
  | stop hshort => exact ⟨_, rfl⟩
  | here _ ih => exact ih
  | up _ ih => exact ih
  | top _ ih => exact ih
  | down _ _ _ _ _ ih => exact ih
  | follow _ _ _ _ _ _ ih => exact ih

-- ================================================================== drafts

/-- There is neither a folder nor a link at the location, so that no way
goes on from it. -/
def Inert (d : Disk) (loc : Location) : Prop :=
  d.look loc ≠ some .folder ∧ ∀ target, d.look loc ≠ some (.link target)

/-- A way that does not end at an inert location is the same on a disk that
differs there. -/
theorem Way.elsewhere (h : d.Way last links start names place)
    (hinert : d.Inert hidden) (hplace : place ≠ d.placeAt hidden)
    (hroot : d'.root = d.root)
    (hsame : ∀ x, x ≠ hidden → d'.look x = d.look x) :
    d'.Way last links start names place := by
  have hlook {x : Location} {e : DiskEntry} (he : d.look x = some e)
      (hx : d.Inert hidden → x ≠ hidden) : d'.look x = some e := by
    rw [hsame x (hx hinert), he]
  induction h with
  | @stop links start hshort =>
      have hne : d.root.below start last ≠ hidden := by
        intro heq
        exact hplace (congrArg d.placeAt heq)
      rw [← placeAt_congr (hsame _ hne), ← hroot]
      exact .stop hshort
  | here _ ih => exact .here (ih hplace)
  | up _ ih => exact .up (hroot.symm ▸ ih hplace)
  | top _ ih => exact .top (ih hplace)
  | down hn hshort hdevice he _ ih =>
      rw [← hroot] at hdevice he ih
      refine .down hn hshort hdevice (hlook he ?_) (ih hplace)
      intro hi heq
      exact hi.1 (heq ▸ he)
  | follow hn hshort hdevice he hm _ ih =>
      rw [← hroot] at hdevice he
      refine .follow hn hshort hdevice (hlook he ?_) hm (ih hplace)
      intro hi heq
      exact hi.2 _ (heq ▸ he)

/-- No way ends at a location with another last name. -/
theorem Way.ne_placeAt (h : d.Way last links start names place)
    (hroot : hidden ≠ []) (hlast : hidden.getLast? ≠ some last) :
    place ≠ d.placeAt hidden := by
  obtain ⟨folder, rfl⟩ := h.ends
  intro heq
  obtain rfl := placeAt_injective heq
  rcases below_cases d.root folder last with hnil | hconcat
  · exact hroot hnil
  · rw [hconcat] at hlast
    exact hlast List.getLast?_concat

-- ========================================================= files put on ways

/-- There is a file at the location now, and there may be no draft any
more; all else is as it was. -/
structure Replaced (d d' : Disk) (hidden loc : Location)
    (content : List Octet) (time : Instant) : Prop where
  root : d'.root = d.root
  file : d'.look loc = some (.file content time)
  same : ∀ {x}, x ≠ loc → x ≠ hidden → d'.look x = d.look x

/-- A file put where a way leads is found there, unless it takes the place
of a link that the way goes through. -/
theorem Way.replaced (h : d.Way last links start names (d.placeAt loc))
    (hl : Plain last) (hinert : d.Inert hidden)
    (hdevice : loc ≠ Location.nullDevice) (hloc : d.look loc ≠ some .folder) :
    (∀ {d' content time}, d.Replaced d' hidden loc content time →
        d'.walk true links start names
          = .ok (.found loc (.file content time)))
      ∨ (∃ target, d.look loc = some (.link target))
        ∧ ∀ {d' content time}, d.Replaced d' hidden loc content time →
            d'.walk true links start names = .error .notAFolder := by
  generalize hplace : d.placeAt loc = place at h
  -- Whatever the way meets that is not where the file is put is as before.
  have hlook {d' : Disk} {content : List Octet} {time : Instant}
      (hr : d.Replaced d' hidden loc content time) {x : Location}
      {e : DiskEntry} (he : d.look x = some e) (hx : x ≠ loc)
      (hx' : d.Inert hidden → x ≠ hidden) : d'.look x = some e := by
    rw [hr.same hx (hx' hinert), he]
  induction h with
  | stop hshort =>
      obtain rfl := placeAt_injective hplace
      refine .inl fun hr => ?_
      have hfile := hr.file
      rw [← hr.root] at hfile hdevice ⊢
      rw [walk_file hl hshort hdevice hfile, if_pos rfl]
  | here _ ih =>
      simp only [walk_here]
      exact ih hplace
  | up _ ih =>
      rcases ih hplace with hfound | ⟨hlink, hlost⟩
      · refine .inl fun hr => ?_
        rw [walk_up, hr.root]
        exact hfound hr
      · refine .inr ⟨hlink, fun hr => ?_⟩
        rw [walk_up, hr.root]
        exact hlost hr
  | top _ ih =>
      simp only [walk_top]
      exact ih hplace
  | @down links start name more place hn hshort hdev he _ ih =>
      have hstep {d' : Disk} {content : List Octet} {time : Instant}
          (hr : d.Replaced d' hidden loc content time) :
          d'.walk true links start (name :: more)
            = d'.walk true links (d.root.below start name) more := by
        have he' : d'.look (d.root.below start name) = some .folder := by
          refine hlook hr he (fun heq => hloc (heq ▸ he)) fun hi heq => ?_
          exact hi.1 (heq ▸ he)
        rw [← hr.root] at hdev he' ⊢
        exact walk_down hn hshort hdev he'
      rcases ih hplace with hfound | ⟨hlink, hlost⟩
      · exact .inl fun hr => (hstep hr).trans (hfound hr)
      · exact .inr ⟨hlink, fun hr => (hstep hr).trans (hlost hr)⟩
  | @follow links start name target more place hn hshort hdev he hm _ ih =>
      by_cases hx : d.root.below start name = loc
      · -- The link itself is replaced: what was behind it is lost.
        subst hx
        refine .inr ⟨⟨target, he⟩, fun hr => ?_⟩
        have hfile := hr.file
        rw [← hr.root] at hfile hdev
        rw [walk_file hn hshort hdev hfile, if_neg hm]
      · have hstep {d' : Disk} {content : List Octet} {time : Instant}
            (hr : d.Replaced d' hidden loc content time) :
            d'.walk true (links + 1) start (name :: more)
              = d'.walk true links start (targetNames target ++ more) := by
          have he' : d'.look (d.root.below start name)
              = some (.link target) := by
            refine hlook hr he hx fun hi heq => ?_
            exact hi.2 _ (heq ▸ he)
          rw [← hr.root] at hdev he'
          exact walk_follow hn hshort hdev he' hm
        rcases ih hplace with hfound | ⟨hlink, hlost⟩
        · exact .inl fun hr => (hstep hr).trans (hfound hr)
        · exact .inr ⟨hlink, fun hr => (hstep hr).trans (hlost hr)⟩

-- ============================================================ from the root

/-- The names are looked up, and not refused before. -/
structure Asked (d : Disk) (names : List String) : Prop where
  zeroless : names.any hasZero = false
  near : d.root.tooFar names = false
  folder : d.look [] = some .folder

theorem Asked.find (h : d.Asked names) :
    d.find through names = d.walk through mostLinks [] names := by
  have hfolder : d.get? [] = some .folder := h.folder
  unfold Disk.find
  rw [if_neg (by simp [h.zeroless]), if_neg (by simp [h.near]), hfolder]

theorem asked_of_find (h : d.find through names = .ok place) :
    d.Asked names := by
  unfold Disk.find at h
  split at h
  · cases h
  · rename_i hzero
    split at h
    · cases h
    · rename_i hfar
      split at h
      · rename_i hfolder
        exact ⟨Bool.not_eq_true _ ▸ hzero, Bool.not_eq_true _ ▸ hfar, hfolder⟩
      · cases h
      · cases h

section Names

variable (hl : Plain last) (hends : Ends names last)

include hl hends

theorem way_of_find (hf : d.find false names = .ok place) :
    d.Way last mostLinks [] names place := by
  rw [(asked_of_find hf).find] at hf
  exact way_of_walk hl hends hf

variable (hne : hidden ≠ []) (hinert : d.Inert hidden)

include hne hinert

/-- Where names lead does not depend on an inert location that they do not
lead to. -/
theorem find_elsewhere (hplace : place ≠ d.placeAt hidden)
    (hroot : d'.root = d.root)
    (hsame : ∀ x, x ≠ hidden → d'.look x = d.look x)
    (hf : d.find false names = .ok place) :
    d'.find false names = .ok place := by
  have hasked := asked_of_find hf
  have hasked' : d'.Asked names := by
    refine ⟨hasked.zeroless, hroot.symm ▸ hasked.near, ?_⟩
    rw [hsame [] hne.symm]
    exact hasked.folder
  have hway := way_of_find hl hends hf
  rw [hasked'.find]
  exact (hway.elsewhere hinert hplace hroot hsame).walk hl

/-- Where names lead does not depend on a draft of another name. -/
theorem find_apart (hlast : hidden.getLast? ≠ some last)
    (hroot : d'.root = d.root)
    (hsame : ∀ x, x ≠ hidden → d'.look x = d.look x)
    (hf : d.find false names = .ok place) :
    d'.find false names = .ok place :=
  find_elsewhere hl hends hne hinert
    ((way_of_find hl hends hf).ne_placeAt hne hlast) hroot hsame hf

/-- A file put where names lead is found there, unless it takes the place
of a link that the names lead through. -/
theorem find_replaced (hf : d.find false names = .ok (d.placeAt loc))
    (hdevice : loc ≠ Location.nullDevice) (hloc : d.look loc ≠ some .folder) :
    (∀ {d' content time}, d.Replaced d' hidden loc content time →
        d'.find true names = .ok (.found loc (.file content time)))
      ∨ (∃ target, d.look loc = some (.link target))
        ∧ ∀ {d' content time}, d.Replaced d' hidden loc content time →
            d'.find true names = .error .notAFolder := by
  have hasked := asked_of_find hf
  have hasked' {d' : Disk} {content : List Octet} {time : Instant}
      (hr : d.Replaced d' hidden loc content time) : d'.Asked names := by
    refine ⟨hasked.zeroless, hr.root.symm ▸ hasked.near, ?_⟩
    rw [hr.same _ hne.symm]
    · exact hasked.folder
    · rintro rfl
      exact hloc hasked.folder
  rcases (way_of_find hl hends hf).replaced hl hinert hdevice hloc with
    hfound | ⟨hlink, hlost⟩
  · exact .inl fun hr => (hasked' hr).find.trans (hfound hr)
  · exact .inr ⟨hlink, fun hr => (hasked' hr).find.trans (hlost hr)⟩

end Names

end BatchAdmin.Disk
