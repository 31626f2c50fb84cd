/-
What removals by path take away.

A staged file is listed for where it is and removed by its path, and what is
removed is what the path leads to (`Disk.lead?`). On the way of several
removals these leads do not change: a file that is taken away is on no way
to anything else (`lead?_unset`). So where as many entries go as there are
paths, all of them files, they are the ones that the paths led to before the
first of them went (`exists_took`), and conversely paths that lead to
different files take all of these (`took_of_leads`). A path may lead out of
the area, where others have put a link; then a file elsewhere is removed.

On a disk as file systems have them (`Lawful`) the names of an entry lead
straight down to it (`Housed.lead?`), whatever links there are beside.
-/
import BatchAdmin.Staging.Desk
import BatchAdmin.Proofs.Staging.Drafts
import BatchAdmin.Proofs.Staging.Listing

namespace BatchAdmin

open Text

-- ================================================================ the disks

namespace Disk

variable {d d' : Disk} {loc hidden : Location} {locs : List Location}
  {names : List String} {last : String}

/-- The file or link that a removal at the end of names takes away. -/
def lead? (d : Disk) (names : List String) : Option Location :=
  match d.find false names with
  | .ok (.found _ .folder) => none
  | .ok (.found loc _) => some loc
  | _ => none

theorem lead?_eq_some : d.lead? names = some loc
    ↔ ∃ e, e ≠ .folder ∧ d.find false names = .ok (.found loc e) := by
  unfold lead?
  constructor
  · intro h
    split at h
    · cases h
    · rename_i x e hfolder hf
      cases h
      exact ⟨e, hfolder, hf⟩
    · cases h
  · rintro ⟨e, he, hf⟩
    rw [hf]
    cases e with
    | folder => exact absurd rfl he
    | file content time => rfl
    | link target => rfl

theorem remove_of_lead (h : d.lead? names = some loc) :
    d.remove names = .ok (true, d.unset loc) := by
  obtain ⟨e, he, hf⟩ := lead?_eq_some.1 h
  unfold remove
  rw [hf]
  cases e with
  | folder => exact absurd rfl he
  | file content time => rfl
  | link target => rfl

theorem remove_of_no_lead (h : d.lead? names = none) :
    d.remove names = .ok (false, d)
      ∨ ∃ fault, d.remove names = .error fault := by
  unfold lead? at h
  unfold remove
  cases hf : d.find false names with
  | error fault =>
      cases fault with
      | notFound => exact .inl rfl
      | _ => exact .inr ⟨_, rfl⟩
  | ok place =>
      cases place with
      | free loc => exact .inl rfl
      | null => exact .inr ⟨_, rfl⟩
      | found loc e =>
          rw [hf] at h
          cases e with
          | folder => exact .inr ⟨_, rfl⟩
          | _ => cases h

section Names

variable (hl : Plain last) (hends : Ends names last)

include hl hends

/-- Names lead to something that is there, and is where their way ends. -/
theorem lead?_ends (h : d.lead? names = some loc) :
    loc ≠ [] ∧ d.look loc ≠ none
      ∧ d.find false names = .ok (d.placeAt loc) := by
  obtain ⟨e, hfolder, hf⟩ := lead?_eq_some.1 h
  obtain ⟨folder, hplace⟩ := (way_of_find hl hends hf).ends
  have hloc : loc = d.root.below folder last := by
    rw [← d.location_placeAt (d.root.below folder last), ← hplace]
    rfl
  rw [← hloc] at hplace
  have he : d.look loc = some e := by
    unfold placeAt at hplace
    split at hplace
    · cases hplace
    · split at hplace
      · cases hplace
      · rename_i he
        cases hplace
        exact he
  refine ⟨?_, by simp [he], hplace ▸ hf⟩
  rintro rfl
  exact hfolder (Option.some.inj (he.symm.trans (asked_of_find hf).folder))

/-- Leads do not change with what is at another location, if this is
inert. -/
theorem lead?_elsewhere (hne : hidden ≠ []) (hinert : d.Inert hidden)
    (hroot : d'.root = d.root)
    (hsame : ∀ x, x ≠ hidden → d'.look x = d.look x) (hloc : loc ≠ hidden)
    (h : d.lead? names = some loc) : d'.lead? names = some loc := by
  obtain ⟨-, -, hplace⟩ := lead?_ends hl hends h
  obtain ⟨e, he, hf⟩ := lead?_eq_some.1 h
  have hfind := find_elsewhere hl hends hne hinert
    (fun heq => hloc (placeAt_injective heq)) hroot hsame hplace
  rw [← hplace, hf] at hfind
  exact lead?_eq_some.2 ⟨e, he, hfind⟩

/-- Whether something inert has been taken away does not matter to a lead
to something else. -/
theorem lead?_unset (hne : hidden ≠ []) (hinert : d.Inert hidden)
    (hloc : loc ≠ hidden) :
    (d.unset hidden).lead? names = some loc ↔ d.lead? names = some loc := by
  have hgone : (d.unset hidden).Inert hidden := by
    unfold Inert
    rw [look_unset, if_pos rfl]
    exact ⟨nofun, nofun⟩
  have hsame (x : Location) (hx : x ≠ hidden) :
      (d.unset hidden).look x = d.look x := by
    rw [look_unset, if_neg hx]
  have hroot := root_unset d hidden
  exact ⟨lead?_elsewhere hl hends hne hgone hroot.symm
      (fun x hx => (hsame x hx).symm) hloc,
    lead?_elsewhere hl hends hne hinert hroot hsame hloc⟩

end Names

/-- The disk without the entries at some locations. -/
def clear (d : Disk) (locs : List Location) : Disk := locs.foldl unset d

theorem root_clear (d : Disk) (locs : List Location) :
    (d.clear locs).root = d.root := by
  unfold clear
  induction locs generalizing d with
  | nil => rfl
  | cons loc locs ih => rw [List.foldl_cons, ih, root_unset]

theorem look_clear (d : Disk) (locs : List Location) (x : Location) :
    (d.clear locs).look x = if x ∈ locs then none else d.look x := by
  unfold clear
  induction locs generalizing d with
  | nil => rw [if_neg List.not_mem_nil]; rfl
  | cons loc locs ih =>
      rw [List.foldl_cons, ih, look_unset]
      by_cases hx : x = loc
      · simp [hx]
      · simp [hx]

end Disk

-- ============================================================ lawful disks

namespace Disk

variable {d : Disk} {loc start : Location} {names : List String}
  {last : String} {links : Nat} {e : DiskEntry}

/-- A name that file systems give to an entry: any but those that have a
slash in them, are empty, or stand for a folder at hand. -/
def Nameable (name : String) : Prop :=
  name ≠ "" ∧ Plain name ∧ '/' ∉ name.toList

/-- A disk as file systems have them: every entry below the root is in a
folder, and its names are such as can be given and looked up. -/
structure Lawful (d : Disk) : Prop where
  housed : ∀ entry ∈ d.entries, entry.1 ≠ [] →
    (entry.1.dropLast, .folder) ∈ d.entries
  named : ∀ entry ∈ d.entries, Passable d.root entry.1
    ∧ ∀ name ∈ entry.1, Nameable name

theorem Lawful.toHoused (h : d.Lawful) (hd : d.Distinct) : d.Housed := by
  intro loc name e he
  have hfolder := h.housed _ (hd.mem_entries.2 he) (by simp)
  rw [List.dropLast_concat] at hfolder
  exact hd.mem_entries.1 hfolder

/-- The names of an entry lead straight down to it. -/
theorem Housed.way (h : d.Housed) (hin : Location.outside start = false)
    (hnames : ∀ name ∈ names, Plain name ∧ tooLong name = false)
    (hends : Ends names last) (he : d.get? (start ++ names) = some e) :
    d.Way last links start names (d.placeAt (start ++ names)) := by
  induction names generalizing start with
  | nil => cases hends
  | cons name more ih =>
      obtain ⟨⟨hn, hshort⟩, hrest⟩ := List.forall_mem_cons.1 hnames
      have hbelow := below_plain d.root hin hn
      by_cases hm : more = []
      · subst hm
        obtain rfl := hends.eq
        exact hbelow ▸ .stop hshort
      · have hspelt : start ++ name :: more = start ++ [name] ++ more := by
          simp
        have hin' := outside_concat hin hn
        rw [hspelt] at he ⊢
        have hfolder := h.folder_of_below hm he
        refine .down hn hshort ?_ ?_ ?_
        · rw [hbelow]
          exact ne_nullDevice hin hn
        · rw [hbelow, look_inside hin', hfolder]
        · rw [hbelow]
          exact ih hin' hrest (hends.tail hm) he

/-- An entry that is no folder is what its names lead to. -/
theorem Housed.lead? (h : d.Housed) (hp : Passable d.root names)
    (hplain : Dotless names) (hne : names ≠ [])
    (he : d.get? names = some e) (hfolder : e ≠ .folder) :
    d.lead? names = some names := by
  obtain ⟨hzero, hfar, hshort⟩ := hp
  have hlast := List.getLast_mem hne
  have hends : Ends names (names.getLast hne) :=
    List.getLast?_eq_some_getLast hne
  have hroot : d.get? [] = some .folder :=
    h.folder_of_below hne (show d.get? ([] ++ names) = some e from he)
  have hasked : d.Asked names := ⟨hzero, hfar, hroot⟩
  have hway : d.Way (names.getLast hne) mostLinks [] names
      (d.placeAt ([] ++ names)) :=
    h.way rfl (fun name hmem => ⟨hplain name hmem, hshort name hmem⟩) hends
      he
  have hdevice : names ≠ Location.nullDevice := by
    rintro rfl
    cases hplain.outside
  refine lead?_eq_some.2 ⟨e, hfolder, ?_⟩
  rw [hasked.find, hway.walk (hplain _ hlast), List.nil_append,
    placeAt_of_ne hdevice, look_inside hplain.outside, he]

end Disk

-- ============================================================= the removals

namespace StagingArea

variable {area : StagingArea} {path : StagePath} {faults : StoreFaults}
  {loc : Location}

/-- What a removal at the path takes away. -/
def lead? (area : StagingArea) (path : StagePath) : Option Location :=
  area.disk.lead? path.names

/-- The area without the entries at some locations. -/
def cleared (area : StagingArea) (locs : List Location) : StagingArea :=
  { area with disk := area.disk.clear locs }

/-- A path leads to something that is there, and not to the root. -/
theorem there_of_lead (h : area.lead? path = some loc) :
    loc ≠ [] ∧ area.disk.look loc ≠ none := by
  obtain ⟨hne, hthere, -⟩ :=
    Disk.lead?_ends path.plain_fileName path.ends_names h
  exact ⟨hne, hthere⟩

/-- The area without what is at a location, wherever it is. -/
def rid (area : StagingArea) (loc : Location) : StagingArea :=
  { area with disk := area.disk.unset loc }

theorem remove_of_lead (hfree : faults.stuck path.text = false)
    (h : area.lead? path = some loc) :
    area.remove faults path = .ok (true, area.rid loc) := by
  unfold remove
  rw [hfree, show area.disk.remove path.names = _
    from Disk.remove_of_lead h]
  rfl

theorem remove_of_no_lead (h : area.lead? path = none) :
    area.remove faults path = .ok (false, area)
      ∨ ∃ fault, area.remove faults path = .error fault := by
  unfold remove
  split
  · exact .inr ⟨_, rfl⟩
  · rcases Disk.remove_of_no_lead h with hr | ⟨fault, hr⟩
    · rw [hr]
      exact .inl rfl
    · rw [hr]
      exact .inr ⟨fault, rfl⟩

theorem inert_rid {x : Location} (hne : x ≠ loc) :
    (area.rid loc).disk.Inert x ↔ area.disk.Inert x := by
  unfold Disk.Inert rid
  rw [Disk.look_unset, if_neg hne]

end StagingArea

namespace Desk

variable {area : StagingArea} {faults : StoreFaults} {f : StoredFile}
  {loc : Location} {left : List StoredFile} {gone : List Location}

/-- Files whose removal fails might as well not be tried. -/
theorem removeAll_unstuck (faults : StoreFaults) (area : StagingArea)
    (left : List StoredFile) :
    removeAll faults area left
      = removeAll faults area
          (left.filter fun f => !faults.stuck f.path.text) := by
  induction left generalizing area with
  | nil => rfl
  | cons f rest ih =>
      cases hstuck : faults.stuck f.path.text with
      | true =>
          rw [List.filter_cons_of_neg (by simp [hstuck]), ← ih, removeAll]
          unfold StagingArea.remove
          rw [hstuck]
          rfl
      | false =>
          rw [List.filter_cons_of_pos (by simp [hstuck]), removeAll, removeAll]
          simp only [ih]

theorem removeAll_of_lead (hfree : faults.stuck f.path.text = false)
    (h : area.lead? f.path = some loc) :
    removeAll faults area (f :: left)
      = ((removeAll faults (area.rid loc) left).1 + 1,
          (removeAll faults (area.rid loc) left).2) := by
  rw [removeAll, area.remove_of_lead hfree h]

theorem removeAll_of_no_lead (h : area.lead? f.path = none) :
    removeAll faults area (f :: left) = removeAll faults area left := by
  rw [removeAll]
  rcases StagingArea.remove_of_no_lead h with hr | ⟨fault, hr⟩
  · rw [hr]
  · rw [hr]

/-- Trying some files takes away what is at these locations. -/
structure Took (faults : StoreFaults) (area : StagingArea)
    (left : List StoredFile) (gone : List Location) : Prop where
  answer : removeAll faults area left = (gone.length, area.cleared gone)
  nodup : gone.Nodup
  there : ∀ loc ∈ gone, area.disk.look loc ≠ none
  few : gone.length ≤ left.length

theorem Took.nil : Took faults area [] [] :=
  ⟨rfl, List.nodup_nil, nofun, Nat.le_refl _⟩

theorem Took.of_lead (hfree : faults.stuck f.path.text = false)
    (hlead : area.lead? f.path = some loc)
    (h : Took faults (area.rid loc) left gone) :
    Took faults area (f :: left) (loc :: gone) := by
  have hthere (x : Location) (hx : x ∈ gone) :
      x ≠ loc ∧ area.disk.look x ≠ none := by
    have hx := h.there x hx
    unfold StagingArea.rid at hx
    rw [Disk.look_unset] at hx
    split at hx
    · exact absurd rfl hx
    · exact ⟨by assumption, hx⟩
  refine ⟨?_, ?_, ?_, Nat.succ_le_succ h.few⟩
  · rw [removeAll_of_lead hfree hlead, h.answer]
    rfl
  · exact List.nodup_cons.2 ⟨fun hx => (hthere loc hx).1 rfl, h.nodup⟩
  · refine List.forall_mem_cons.2 ⟨?_, fun x hx => (hthere x hx).2⟩
    exact (StagingArea.there_of_lead hlead).2

theorem Took.of_no_lead (hlead : area.lead? f.path = none)
    (h : Took faults area left gone) : Took faults area (f :: left) gone :=
  ⟨by rw [removeAll_of_no_lead hlead, h.answer], h.nodup, h.there,
    Nat.le_succ_of_le h.few⟩

/-- The paths of these files lead to these locations. -/
def LeadTo (area : StagingArea) (left : List StoredFile)
    (locs : List Location) : Prop :=
  left.map (area.lead? ·.path) = locs.map some

/-- Taking something inert away does not change what the paths lead to,
apart from it. -/
theorem leadTo_rid {locs : List Location}
    (hlead : area.lead? f.path = some loc) (hinert : area.disk.Inert loc)
    (hne : loc ∉ locs) :
    LeadTo (area.rid loc) left locs ↔ LeadTo area left locs := by
  have hroot := (StagingArea.there_of_lead hlead).1
  unfold LeadTo
  induction left generalizing locs with
  | nil => rfl
  | cons g left ih =>
      cases locs with
      | nil => simp
      | cons x locs =>
          rw [List.mem_cons, not_or] at hne
          simp only [List.map_cons, List.cons.injEq, ih hne.2]
          refine and_congr_left' ?_
          exact Disk.lead?_unset g.path.plain_fileName g.path.ends_names hroot
            hinert (Ne.symm hne.1)

/-- Paths that lead to different inert locations take them all. -/
theorem took_of_leads (hfree : ∀ f ∈ left, faults.stuck f.path.text = false)
    (hleads : LeadTo area left gone) (hnodup : gone.Nodup)
    (hinert : ∀ loc ∈ gone, area.disk.Inert loc) :
    Took faults area left gone := by
  induction left generalizing area gone with
  | nil =>
      cases gone with
      | nil => exact .nil
      | cons loc gone => cases hleads
  | cons f left ih =>
      cases gone with
      | nil => cases hleads
      | cons loc gone =>
          obtain ⟨hlead, hrest⟩ := List.cons_eq_cons.1 hleads
          obtain ⟨hf, hfree⟩ := List.forall_mem_cons.1 hfree
          obtain ⟨hmem, hnodup⟩ := List.nodup_cons.1 hnodup
          obtain ⟨hloc, hinert⟩ := List.forall_mem_cons.1 hinert
          refine .of_lead hf hlead (ih hfree ?_ hnodup fun x hx => ?_)
          · exact (leadTo_rid hlead hloc hmem).2 hrest
          · exact (StagingArea.inert_rid (ne_of_mem_of_not_mem hx hmem)).2
              (hinert x hx)

/-- Something is taken; and where it is as much as there are paths, and
all of it inert, it is what the paths lead to. -/
theorem exists_took (area : StagingArea)
    (hfree : ∀ f ∈ left, faults.stuck f.path.text = false) :
    ∃ gone, Took faults area left gone
      ∧ (gone.length = left.length →
          (∀ loc ∈ gone, area.disk.Inert loc) → LeadTo area left gone) := by
  induction left generalizing area with
  | nil => exact ⟨[], .nil, fun _ _ => rfl⟩
  | cons f left ih =>
      obtain ⟨hf, hfree⟩ := List.forall_mem_cons.1 hfree
      cases hlead : area.lead? f.path with
      | none =>
          obtain ⟨gone, htook, -⟩ := ih area hfree
          refine ⟨gone, htook.of_no_lead hlead, fun hlength _ => ?_⟩
          have hfew := htook.few
          rw [List.length_cons] at hlength
          omega
      | some loc =>
          obtain ⟨gone, htook, hleads⟩ := ih (area.rid loc) hfree
          have hall := Took.of_lead hf hlead htook
          refine ⟨loc :: gone, hall, fun hlength hinert => ?_⟩
          obtain ⟨hmem, -⟩ := List.nodup_cons.1 hall.nodup
          obtain ⟨hloc, hinert⟩ := List.forall_mem_cons.1 hinert
          have hrest : LeadTo (area.rid loc) left gone := by
            refine hleads (by simpa using hlength) fun x hx => ?_
            exact (StagingArea.inert_rid (ne_of_mem_of_not_mem hx hmem)).2
              (hinert x hx)
          exact List.cons_eq_cons.2
            ⟨hlead, (leadTo_rid hlead hloc hmem).1 hrest⟩

end Desk

end BatchAdmin
