/-
Refusing to overwrite, and requests that race.

Where overwriting is refused, a request that finds a file at its path
fails. But it looks before it stores, and what it finds is not held on
to: until it stores, others may store at the same path, and then it
stores in place of their file (`succeed_twice`).

That is the only way for a file to be lost. `intact_iff_unraced`: in an
area without links, however requests are mixed and whatever the store
makes fail, at every moment all files are intact that were there before
or that a request has stored, and no two requests have succeeded at one
path, exactly if no request stores at a path at which another has stored
since it looked.
-/
import BatchAdmin.Proofs.Staging.Soundness

namespace BatchAdmin.Intake

open Text

variable {rules : DeskRules} {turn : Turn} {area area' : StagingArea}
  {s : Intake} {e : Errand} {phase : Errand.Phase} {mark : Option Mark}

-- ============================================================== the contents

/-- Nothing has been lost: the files of before are as they were, each
request that has succeeded has its file at its path with all of its
content, and no two have succeeded at one path. -/
structure Intact (before : StagingArea) (s : Intake) : Prop where
  kept : ∀ path content, before.contentAt? path = some content →
    s.area.contentAt? path = some content
  whole : ∀ {n : Nat} {e : Errand} {info : FileInfo},
    s.errands[n]? = some e → e.phase = .answered (.ok info) →
    ∃ path, e.order.target = .ok path
      ∧ s.area.contentAt? path = some e.order.octets
  sole : ∀ {n m : Nat} {e e' : Errand} {info info' : FileInfo},
    s.errands[n]? = some e → s.errands[m]? = some e' →
    e.phase = .answered (.ok info) → e'.phase = .answered (.ok info') →
    e.order.target = e'.order.target → n = m

/-- If the turn stores at a path, nobody has stored there since its errand
looked. -/
def Unraced (rules : DeskRules) (s : Intake) (turn : Turn) : Prop :=
  ∀ path ∈ s.storesAt? rules turn, path ∉ s.storedSince turn.errand

instance (rules : DeskRules) (s : Intake) (turn : Turn) :
    Decidable (s.Unraced rules turn) :=
  inferInstanceAs (Decidable (∀ path ∈ s.storesAt? rules turn, _))

theorem intact_opened (area : StagingArea) (orders : List Order) :
    (opened area orders).Intact area := by
  have hasked {n : Nat} {e : Errand} {info : FileInfo}
      (he : (opened area orders).errands[n]? = some e)
      (hphase : e.phase = .answered (.ok info)) : False := by
    rw [asked_of_opened he] at hphase
    cases hphase
  exact ⟨fun _ _ h => h, fun he hp => (hasked he hp).elim,
    fun he _ hp => (hasked he hp).elim⟩

-- ================================================================= the steps

section Step

variable {before : StagingArea} (hi : s.Intact before) {number : Nat}
  (he : s.errands[number]? = some e)

include hi he

/-- A step that stores nothing leaves all intact. -/
theorem Intact.unstored (hphase : ∀ info, phase = .answered (.ok info) →
      e.phase = .answered (.ok info))
    (hcontents : ∀ p, area'.contentAt? p = s.area.contentAt? p)
    (history : List (Nat × Mark)) :
    Intact before ⟨area', s.errands.set number { e with phase }, history⟩ := by
  -- Whoever has succeeded had so before.
  have hwas {n : Nat} {x : Errand} {info : FileInfo}
      (hx : (s.errands.set number { e with phase })[n]? = some x)
      (hp : x.phase = .answered (.ok info)) :
      ∃ y, s.errands[n]? = some y ∧ y.phase = .answered (.ok info)
        ∧ y.order = x.order := by
    rcases (Turns.getElem?_set_iff he).1 hx with ⟨rfl, rfl⟩ | ⟨-, hx⟩
    · exact ⟨e, he, hphase info hp, rfl⟩
    · exact ⟨x, hx, hp, rfl⟩
  refine ⟨fun path content hb => ?_, fun hx hp => ?_,
    fun hx hy hpx hpy htarget => ?_⟩
  · rw [hcontents]
    exact hi.kept path content hb
  · obtain ⟨y, hy, hpy, horder⟩ := hwas hx hp
    obtain ⟨path, htarget, hpath⟩ := hi.whole hy hpy
    exact ⟨path, horder ▸ htarget, by rw [hcontents, hpath, horder]⟩
  · obtain ⟨x', hx', hpx', hox⟩ := hwas hx hpx
    obtain ⟨y', hy', hpy', hoy⟩ := hwas hy hpy
    exact hi.sole hx' hy' hpx' hpy' (by rw [hox, hoy, htarget])

/-- A step that stores leaves all intact exactly if nobody has stored at
the path since its errand looked: only then there is no file yet. -/
theorem Intact.stored_iff (h : s.Sound) {path : StagePath} {info : FileInfo}
    (hpath : e.phase.path? = some path) (hphase : phase = .answered (.ok info))
    (hcontents : ∀ p, area'.contentAt? p
      = Function.update s.area.contentAt? path (some e.order.octets) p)
    (history : List (Nat × Mark)) :
    Intact before ⟨area', s.errands.set number { e with phase }, history⟩
      ↔ path ∉ s.storedSince number := by
  have htarget := (h.looked he hpath).1
  constructor
  · intro hafter hmem
    obtain ⟨m, hstored⟩ := exists_of_mem_storedSince hmem
    obtain ⟨x, info', hx, hpx, htx⟩ := h.stored hstored
    have hm : m ≠ number := by
      rintro rfl
      rw [he] at hx
      injection hx with hx
      rw [hx, hpx] at hpath
      cases hpath
    exact hm (hafter.sole ((Turns.getElem?_set_iff he).2 (.inr ⟨hm, hx⟩))
      ((Turns.getElem?_set_iff he).2 (.inl ⟨rfl, rfl⟩)) hpx hphase
      (htx.trans htarget.symm))
  · intro hmem
    have hfree : s.area.contentAt? path = none := by
      by_contra hfile
      exact hmem (h.since he hpath hfile)
    have hother {other : StagePath} {content : List Octet}
        (hc : s.area.contentAt? other = some content) :
        area'.contentAt? other = some content := by
      rw [hcontents, Function.update_of_ne, hc]
      rintro rfl
      rw [hfree] at hc
      cases hc
    -- Whoever else has succeeded has a file, and so another path.
    have hapart {n : Nat} {x : Errand} {info' : FileInfo}
        (hx : s.errands[n]? = some x) (hpx : x.phase = .answered (.ok info')) :
        x.order.target ≠ e.order.target := by
      intro heq
      obtain ⟨other, hto, hco⟩ := hi.whole hx hpx
      cases hto.symm.trans (heq.trans htarget)
      rw [hfree] at hco
      cases hco
    refine ⟨fun other content hb => hother (hi.kept other content hb),
      fun hx hpx => ?_, fun hx hy hpx hpy heq => ?_⟩
    · rcases (Turns.getElem?_set_iff he).1 hx with ⟨-, rfl⟩ | ⟨-, hx⟩
      · exact ⟨path, htarget, by rw [hcontents, Function.update_self]⟩
      · obtain ⟨other, hto, hco⟩ := hi.whole hx hpx
        exact ⟨other, hto, hother hco⟩
    · rcases (Turns.getElem?_set_iff he).1 hx with ⟨hn, rfl⟩ | ⟨hn, hx⟩
      · rcases (Turns.getElem?_set_iff he).1 hy with ⟨hm, -⟩ | ⟨-, hy⟩
        · rw [hn, hm]
        · exact absurd heq.symm (hapart hy hpy)
      · rcases (Turns.getElem?_set_iff he).1 hy with ⟨-, rfl⟩ | ⟨-, hy⟩
        · exact absurd heq (hapart hx hpx)
        · exact hi.sole hx hy hpx hpy heq

end Step

/-- A turn leaves all intact exactly if it does not store where another has
stored since its errand looked. -/
theorem Intact.take_iff {before : StagingArea}
    (hrules : rules.allowOverwrite = false) (h : s.Sound)
    (hi : s.Intact before) (turn : Turn) :
    (s.take rules turn).Intact before ↔ s.Unraced rules turn := by
  unfold Unraced storesAt?
  cases he : s.errands[turn.errand]? with
  | none =>
      rw [take_of_none he]
      exact iff_of_true hi nofun
  | some e =>
      rw [take_of_getElem? he]
      have hs := e.steps hrules h.tidy (h.drafted he) turn
      rcases hs.contents with ⟨path, info, hmark, hpath, hphase, hcontents⟩
        | ⟨hmark, hphase, hcontents⟩
      · rw [hi.stored_iff he h hpath hphase hcontents]
        simp [hmark, Mark.path?]
      · refine iff_of_true (hi.unstored he hphase hcontents _) ?_
        intro path hstored
        simp only [Option.bind_eq_bind, Option.bind_some, Option.mem_def,
          Option.bind_eq_some_iff] at hstored
        obtain ⟨told, htold, hpath⟩ := hstored
        rw [Mark.path?_eq_some.1 hpath] at htold
        exact absurd htold (hmark path)

-- ================================================================= the races

/-- Where overwriting is refused, in an area without links: however any
number of requests to create files and to upload are mixed, and whatever
fails, at every moment all files are as they were stored and no two
requests have succeeded at one path, exactly if no request stores at a path
at which another has stored since it looked for a file there. -/
theorem intact_iff_unraced (hrules : rules.allowOverwrite = false)
    (harea : area.Tidy) (orders : List Order) (turns : List Turn) :
    (∀ cut, cut <+: turns →
        ((opened area orders).play rules cut).Intact area)
      ↔ Turns.Heeds (take rules) (Unraced rules) (opened area orders)
          turns :=
  Turns.throughout_iff_heeds (fun _ turn h => h.take hrules turn)
    (fun _ turn h hi => hi.take_iff hrules h turn) (sound_opened harea orders)
    (intact_opened area orders)

/-- Two creations of one file, one after the other: the second is refused,
and all is intact throughout. -/
theorem createdAgain_refused :
    let rules : DeskRules := { allowOverwrite := false, shortPathRoot := "" }
    let orders : List Order := [.create "a.txt", .create "a.txt"]
    let turns : List Turn := [0, 0, 1, 1].map (⟨·, .none, ⟨0, 0⟩⟩)
    (∀ cut, cut <+: turns →
        ((opened .fresh orders).play rules cut).Intact .fresh)
      ∧ ((opened .fresh orders).play rules turns).errands.map
          (·.phase.succeeded) = [true, false] :=
  ⟨(intact_iff_unraced rfl (StagingArea.tidy_fresh _) _ _).2 (by decide),
    by decide⟩

/-- Requests of which two succeed at one path, though overwriting is
refused. Two uploads that both look before either stores: the second takes
the place of the first. And two creations, one after the other, through a
link to the null device, which a look never finds to be a file. -/
theorem succeed_twice :
    let rules : DeskRules := { allowOverwrite := false, shortPathRoot := "" }
    let path : StagePath := ⟨["a.txt".toList], by decide, by decide⟩
    let uploads (turns : List Nat) : Intake :=
      (opened .fresh [.upload "a.txt" (.whole (octetsOf "one")),
          .upload "a.txt" (.whole (octetsOf "two"))]).play rules
        (turns.map (⟨·, .none, ⟨0, 0⟩⟩))
    let creations : Intake :=
      (opened { disk := Disk.fresh.put ["sink"] (.link "/dev/null")
                drafts := 0 }
          [.create "sink", .create "sink"]).play rules
        ([0, 0, 1, 1].map (⟨·, .none, ⟨0, 0⟩⟩))
    (uploads [0, 1, 0, 0, 0]).area.contentAt? path = some (octetsOf "one")
      ∧ (uploads [0, 1, 0, 0, 0, 1, 1, 1]).area.contentAt? path
          = some (octetsOf "two")
      ∧ (uploads [0, 1, 0, 0, 0, 1, 1, 1]).errands.map (·.phase.succeeded)
          = [true, true]
      ∧ creations.errands.map (·.phase.succeeded) = [true, true] := by
  decide

end BatchAdmin.Intake
