/-
What steps change, whatever the rules are.

A step of an errand stores what its order says at the path of the errand,
or changes no content; it leaves the drafts of others alone; and the draft
that it fills holds what has come (`Errand.Effect`). That is so whether
overwriting is refused or not: the rules decide which errands are cleared to
store, and nothing else. Content that breaks off is never stored
(`Errand.step_whole`), and an area that is orderly stays so
(`Errand.orderly_step`).

So however requests are mixed, each draft holds what has come of its
content, at a location of its own (`Intake.Kept`).
-/
import BatchAdmin.Proofs.Staging.Listing
import BatchAdmin.Proofs.Staging.Steps

namespace BatchAdmin

open Text StagingArea

variable {rules : DeskRules} {turn : Turn} {area area' : StagingArea}
  {e : Errand} {phase : Errand.Phase} {mark : Option Mark}

-- ========================================================== what steps change

theorem Errand.Phase.hidden?_eq_some {loc : Location} :
    phase.hidden? = some loc ↔ ∃ draft writes left,
      phase = .filling draft writes left ∧ loc = draft.hidden := by
  constructor
  · intro h
    cases phase with
    | filling draft writes left =>
        cases h
        exact ⟨draft, writes, left, rfl, rfl⟩
    | asked => cases h
    | cleared path => cases h
    | answered answer => cases h
  · rintro ⟨draft, writes, left, rfl, rfl⟩
    rfl

namespace Errand.Steps

theorem tidy (hs : Steps area e area' phase mark) (h : area.Tidy) :
    area'.Tidy := by
  cases hs with
  | clear => exact h
  | rest => exact h
  | refuse _ hb => exact hb.tidy
  | enter _ _ _ _ hb => exact hb.tidy
  | write _ _ hb => exact hb.tidy
  | giveUp _ hb => exact hb.tidy
  | create _ hb => exact hb.tidy
  | commit _ hb => exact hb.tidy

/-- A step stores what its order says at the path of its errand, or leaves
all contents as they are. -/
theorem contents (hs : Steps area e area' phase mark) :
    (∃ path info, mark = some (.stored path) ∧ e.phase.path? = some path
        ∧ phase = .answered (.ok info)
        ∧ ∀ p, area'.contentAt? p
            = Function.update area.contentAt? path (some e.order.octets) p)
      ∨ ((∀ path, mark ≠ some (.stored path))
        ∧ (∀ info, phase = .answered (.ok info) →
            e.phase = .answered (.ok info))
        ∧ ∀ p, area'.contentAt? p = area.contentAt? p) := by
  cases hs with
  | create hphase hb =>
      exact .inl ⟨_, _, rfl, by rw [hphase]; rfl, rfl, hb.contents⟩
  | commit hphase hb =>
      exact .inl ⟨_, _, rfl, by rw [hphase]; rfl, rfl, hb.contents⟩
  | clear => exact .inr ⟨nofun, nofun, fun _ => rfl⟩
  | refuse _ hb => exact .inr ⟨nofun, nofun, hb.contents⟩
  | enter _ _ _ _ hb => exact .inr ⟨nofun, nofun, hb.contents⟩
  | write _ _ hb => exact .inr ⟨nofun, nofun, hb.contents⟩
  | giveUp _ hb => exact .inr ⟨nofun, nofun, hb.contents⟩
  | rest hphase =>
      exact .inr ⟨nofun, fun _ h => hphase.trans h, fun _ => rfl⟩

/-- An errand that may store could do so before, or has just looked and
found no file. -/
theorem path (hs : Steps area e area' phase mark) {path : StagePath}
    (hp : phase.path? = some path) :
    e.phase.path? = some path
      ∨ (mark = some .cleared ∧ e.order.target = .ok path
        ∧ area'.contentAt? path = none) := by
  cases hs with
  | clear _ htarget hfree =>
      cases hp
      exact .inr ⟨rfl, htarget, hfree⟩
  | enter hphase =>
      cases hp
      exact .inl (by rw [hphase]; rfl)
  | write hphase =>
      exact .inl (by rw [hphase]; exact hp)
  | rest => cases hp
  | refuse => cases hp
  | giveUp => cases hp
  | create => cases hp
  | commit => cases hp

/-- An answer stands. -/
theorem answered (hs : Steps area e area' phase mark)
    {answer : Answer FileInfo} (hphase : e.phase = .answered answer) :
    phase = .answered answer := by
  cases hs with
  | rest h => exact h.symm.trans hphase
  | refuse hwas =>
      rcases hwas with hwas | ⟨path, hwas⟩
      · cases hphase.symm.trans hwas
      · cases hphase.symm.trans hwas
  | clear hwas => cases hphase.symm.trans hwas
  | enter hwas => cases hphase.symm.trans hwas
  | write hwas => cases hphase.symm.trans hwas
  | giveUp hwas => cases hphase.symm.trans hwas
  | create hwas => cases hphase.symm.trans hwas
  | commit hwas => cases hphase.symm.trans hwas

/-- A step leaves the drafts of others alone. -/
theorem others (hs : Steps area e area' phase mark) {loc : Location}
    (hl : Hidden loc) (hown : e.phase.hidden? ≠ some loc)
    (hused : area.disk.get? loc ≠ none) :
    area'.disk.get? loc = area.disk.get? loc := by
  have hne {draft : Draft} {writes : Nat} {left : Content}
      (hphase : e.phase = .filling draft writes left) :
      loc ≠ draft.hidden := by
    rintro rfl
    exact hown (by rw [hphase]; rfl)
  cases hs with
  | clear => rfl
  | rest => rfl
  | refuse _ hb => exact hb.hidden loc hl
  | create _ hb => exact hb.hidden loc hl
  | enter _ _ hfree _ hb =>
      rw [hb.hidden loc hl, Function.update_of_ne]
      rintro rfl
      exact hused hfree
  | write hphase _ hb =>
      rw [hb.hidden loc hl, Function.update_of_ne (hne hphase)]
  | giveUp hphase hb =>
      rw [hb.hidden loc hl, Function.update_of_ne (hne hphase)]
  | commit hphase hb =>
      rw [hb.hidden loc hl, Function.update_of_ne (hne hphase)]

/-- A draft that is being filled after a step is the draft of before, or
was put where nothing was; and it holds what has come. -/
theorem drafted (hs : Steps area e area' phase mark)
    (hd : ∀ draft writes left, e.phase = .filling draft writes left →
      Hidden draft.hidden)
    {draft : Draft} {writes : Nat} {left : Content}
    (hphase : phase = .filling draft writes left) :
    (e.phase.hidden? = some draft.hidden
        ∨ area.disk.get? draft.hidden = none)
      ∧ Hidden draft.hidden
      ∧ Drafted e.order left (area'.disk.get? draft.hidden) := by
  cases hs with
  | enter _ hl hfree hdrafted hb =>
      cases hphase
      refine ⟨.inr hfree, hl, ?_⟩
      rw [hb.hidden _ hl, Function.update_self]
      exact hdrafted
  | write hwas hdrafted hb =>
      cases hphase
      have hl := hd _ _ _ hwas
      refine ⟨.inl (by rw [hwas]; rfl), hl, ?_⟩
      rw [hb.hidden _ hl, Function.update_self]
      exact hdrafted
  | clear => cases hphase
  | rest => cases hphase
  | refuse => cases hphase
  | giveUp => cases hphase
  | create => cases hphase
  | commit => cases hphase

end Errand.Steps

-- ============================================================== the effects

/-- What a step of an errand changes, under whatever rules. -/
structure Errand.Effect (area : StagingArea) (e : Errand)
    (area' : StagingArea) (phase : Phase) (mark : Option Mark) : Prop where
  tidy : area'.Tidy
  /-- It stores what its order says, and has succeeded then; or all contents
  stay as they are. -/
  contents :
    (∃ path info, mark = some (.stored path) ∧ e.phase.path? = some path
        ∧ phase = .answered (.ok info)
        ∧ ∀ p, area'.contentAt? p
            = Function.update area.contentAt? path (some e.order.octets) p)
      ∨ ((∀ path, mark ≠ some (.stored path))
        ∧ (∀ info, phase = .answered (.ok info) →
            e.phase = .answered (.ok info))
        ∧ ∀ p, area'.contentAt? p = area.contentAt? p)
  /-- It may yet store at the path of its order only. -/
  target : ∀ {path}, phase.path? = some path →
    e.phase.path? = some path ∨ e.order.target = .ok path
  /-- An answer stands. -/
  answered : ∀ {answer}, e.phase = .answered answer →
    phase = .answered answer
  /-- The drafts of others stay. -/
  others : ∀ {loc}, Hidden loc → e.phase.hidden? ≠ some loc →
    area.disk.get? loc ≠ none → area'.disk.get? loc = area.disk.get? loc
  /-- Its own draft is the one it had, or is where nothing was; and holds
  what has come. -/
  drafted : ∀ {draft writes left}, phase = .filling draft writes left →
    (e.phase.hidden? = some draft.hidden
        ∨ area.disk.get? draft.hidden = none)
      ∧ Hidden draft.hidden
      ∧ Drafted e.order left (area'.disk.get? draft.hidden)

namespace Errand

theorem Steps.effect (hs : Steps area e area' phase mark) (h : area.Tidy)
    (hd : ∀ draft writes left, e.phase = .filling draft writes left →
      Hidden draft.hidden) :
    Effect area e area' phase mark where
  tidy := hs.tidy h
  contents := hs.contents
  target hp := by
    rcases hs.path hp with hwas | ⟨-, htarget, -⟩
    · exact .inl hwas
    · exact .inr htarget
  answered := hs.answered
  others := hs.others
  drafted := hs.drafted hd

/-- To be cleared for the path of the order changes nothing. -/
theorem effect_clear {path : StagePath} (h : area.Tidy)
    (hphase : e.phase = .asked) (htarget : e.order.target = .ok path) :
    Effect area e area (.cleared path) (some .cleared) where
  tidy := h
  contents := .inr ⟨nofun, nofun, fun _ => rfl⟩
  target hp := by
    cases hp
    exact .inr htarget
  answered hans := by
    rw [hphase] at hans
    cases hans
  others _ _ _ := rfl
  drafted hfill := by cases hfill

/-- A step has such an effect. Only a clearing goes by the rules. -/
theorem effect (h : area.Tidy)
    (hd : ∀ draft writes left, e.phase = .filling draft writes left →
      Hidden draft.hidden
        ∧ Drafted e.order left (area.disk.get? draft.hidden))
    (rules : DeskRules) (turn : Turn) :
    Effect area e (e.step rules turn area).1 (e.step rules turn area).2.1
      (e.step rules turn area).2.2 := by
  have hhidden (draft : Draft) (writes : Nat) (left : Content)
      (hphase : e.phase = .filling draft writes left) :
      Hidden draft.hidden := (hd draft writes left hphase).1
  unfold step
  split
  · rename_i hphase
    unfold ask
    cases htarget : e.order.target with
    | error failure =>
        exact (Steps.refuse (.inl hphase) h.same).effect h hhidden
    | ok path =>
        cases hcheck : Desk.checkOverwrite rules turn.faults area path with
        | error failure =>
            simp only [hcheck]
            exact (Steps.refuse (.inl hphase) h.same).effect h hhidden
        | ok _ =>
            simp only [hcheck]
            exact effect_clear h hphase htarget
  · exact (steps_enter h ‹_›).effect h hhidden
  · rename_i hphase
    obtain ⟨hl, hdrafted⟩ := hd _ _ _ hphase
    exact (steps_fill h hphase hl hdrafted).effect h hhidden
  · exact (Steps.rest ‹_›).effect h hhidden

end Errand

-- =============================================================== the contents

/-- The content of the order breaks off before its end. -/
def Order.broken (order : Order) : Bool :=
  match order.content? with
  | none => false
  | some content => content.broken

namespace Errand

/-- The content that is left to come breaks off if the content does. -/
def Whole (order : Order) (phase : Phase) : Prop :=
  ∀ draft writes left, phase = .filling draft writes left →
    left.broken = order.broken

/-- Content that breaks off is never stored. -/
theorem step_whole (h : Whole e.order e.phase) (turn : Turn) :
    Whole e.order (e.step rules turn area).2.1
      ∧ ∀ path, (e.step rules turn area).2.2 = some (.stored path) →
          e.order.broken = false := by
  unfold step
  split
  · unfold ask
    split
    · exact ⟨nofun, nofun⟩
    · split
      · exact ⟨nofun, nofun⟩
      · exact ⟨nofun, nofun⟩
  · unfold enter
    split
    · rename_i hcontent
      have hwhole : e.order.broken = false := by
        unfold Order.broken
        rw [hcontent]
      split
      · exact ⟨nofun, nofun⟩
      · exact ⟨nofun, fun _ _ => hwhole⟩
    · rename_i content hcontent
      split
      · exact ⟨nofun, nofun⟩
      · split
        · exact ⟨nofun, nofun⟩
        · refine ⟨?_, nofun⟩
          rintro _ _ _ ⟨⟩
          unfold Order.broken
          rw [hcontent]
  · rename_i draft writes left hphase
    have hleft := h _ _ _ hphase
    unfold fill
    split
    · split
      · exact ⟨nofun, nofun⟩
      · refine ⟨?_, nofun⟩
        rintro _ _ _ ⟨⟩
        exact hleft
    · split
      · exact ⟨nofun, nofun⟩
      · rename_i hunbroken
        split
        · exact ⟨nofun, nofun⟩
        · exact ⟨nofun, fun _ _ =>
            hleft.symm.trans (Bool.not_eq_true _ ▸ hunbroken)⟩
  · exact ⟨nofun, nofun⟩

/-- A step keeps an area orderly. -/
theorem orderly_step (h : area.Orderly)
    (hd : ∀ draft writes left, e.phase = .filling draft writes left →
      Hidden draft.hidden
        ∧ Drafted e.order left (area.disk.get? draft.hidden))
    (turn : Turn) : (e.step rules turn area).1.Orderly := by
  unfold step
  split
  · exact h
  · rename_i path hphase
    unfold enter
    split
    · have hcreate := h.create turn.faults path turn.now
      rcases hc : area.create turn.faults path turn.now with ⟨_ | _, area'⟩
      · rwa [hc] at hcreate
      · rwa [hc] at hcreate
    · split
      · exact h
      · have hstage := h.stage turn.faults path turn.now
        rcases hs : area.stage turn.faults path turn.now with ⟨_ | _, area'⟩
        · rwa [hs] at hstage
        · rwa [hs] at hstage
  · rename_i draft writes left hphase
    obtain ⟨hl, content, time, hfile, -⟩ := hd _ _ _ hphase
    have hgone := h.discard hl (by rw [hfile]; nofun)
    unfold fill
    split
    · rename_i chunk rest hrest
      cases hw : area.write turn.faults draft writes chunk turn.now with
      | error fault => exact hgone
      | ok area' => exact h.write hl hw
    · split
      · exact hgone
      · have hcommit := h.commit hl turn.faults
        rcases hc : area.commit turn.faults draft with ⟨fault | stored, area'⟩
        · -- A commit that fails has changed nothing.
          obtain rfl := (h.tidy.commit hl hc).1 fault rfl
          exact hgone
        · rwa [hc] at hcommit
  · exact h

end Errand

-- ============================================================== the drafts

namespace Intake

variable {s : Intake}

/-- The drafts of an intake at every moment. -/
structure Kept (s : Intake) : Prop where
  tidy : s.area.Tidy
  /-- A draft holds what has come of its content. -/
  drafted : ∀ {n : Nat} {e : Errand}, s.errands[n]? = some e →
    ∀ draft writes left, e.phase = .filling draft writes left →
      Hidden draft.hidden
        ∧ Drafted e.order left (s.area.disk.get? draft.hidden)
  /-- Two drafts are not at one location. -/
  apart : ∀ {n m : Nat} {e e' : Errand} {loc : Location},
    s.errands[n]? = some e → s.errands[m]? = some e' →
    e.phase.hidden? = some loc → e'.phase.hidden? = some loc → n = m

theorem asked_of_opened {orders : List Order} {n : Nat}
    (he : (opened area orders).errands[n]? = some e) :
    e.phase = .asked := by
  unfold opened at he
  rw [List.getElem?_map, Option.map_eq_some_iff] at he
  obtain ⟨order, -, rfl⟩ := he
  rfl

theorem kept_opened (h : area.Tidy) (orders : List Order) :
    (opened area orders).Kept := by
  refine ⟨h, ?_, ?_⟩
  · intro n e he draft writes left hphase
    rw [asked_of_opened he] at hphase
    cases hphase
  · intro n m e e' loc he _ hloc _
    rw [asked_of_opened he] at hloc
    cases hloc

/-- What leaves the drafts alone keeps them. -/
theorem Kept.became (h : s.Kept)
    {contents : StagePath → Option (List Octet)}
    (hb : area'.Became contents s.area.disk.get?) :
    Kept { s with area := area' } where
  tidy := hb.tidy
  drafted he draft writes left hphase := by
    obtain ⟨hl, hd⟩ := h.drafted he draft writes left hphase
    exact ⟨hl, (hb.hidden _ hl).symm ▸ hd⟩
  apart := h.apart

section Step

variable (h : s.Kept) {number : Nat} (he : s.errands[number]? = some e)

include h he

/-- The draft of another errand stays as it is. -/
theorem Kept.other (hf : e.Effect s.area area' phase mark) {n : Nat}
    {x : Errand} (hn : n ≠ number) (hx : s.errands[n]? = some x)
    {draft : Draft} {writes : Nat} {left : Content}
    (hphase : x.phase = .filling draft writes left) :
    area'.disk.get? draft.hidden = s.area.disk.get? draft.hidden := by
  obtain ⟨hl, content, time, hfile, -⟩ := h.drafted hx draft writes left hphase
  refine hf.others hl ?_ (by rw [hfile]; nofun)
  intro hown
  exact hn (h.apart hx he (by rw [hphase]; rfl) hown)

/-- A step keeps the drafts. -/
theorem Kept.step (hf : e.Effect s.area area' phase mark)
    (history : List (Nat × Mark)) :
    Kept ⟨area', s.errands.set number { e with phase }, history⟩ where
  tidy := hf.tidy
  drafted {n x} hx draft writes left hphase := by
    rcases (Turns.getElem?_set_iff he).1 hx with ⟨-, rfl⟩ | ⟨hn, hx⟩
    · exact (hf.drafted hphase).2
    · obtain ⟨hl, hd⟩ := h.drafted hx draft writes left hphase
      exact ⟨hl, (h.other he hf hn hx hphase).symm ▸ hd⟩
  apart {n m x y loc} hx hy hxl hyl := by
    -- A draft of another is not where this errand has its draft.
    have hnot {k : Nat} {z : Errand} (hk : k ≠ number)
        (hz : s.errands[k]? = some z) (hzl : z.phase.hidden? = some loc)
        (hown : phase.hidden? = some loc) : False := by
      obtain ⟨draft, writes, left, hphase, rfl⟩ :=
        Errand.Phase.hidden?_eq_some.1 hown
      obtain ⟨draft', writes', left', hphase', hloc⟩ :=
        Errand.Phase.hidden?_eq_some.1 hzl
      obtain ⟨-, content, time, hfile, -⟩ := h.drafted hz _ _ _ hphase'
      rcases (hf.drafted hphase).1 with hwas | hfree
      · exact hk (h.apart hz he hzl hwas)
      · rw [hloc, hfile] at hfree
        cases hfree
    rcases (Turns.getElem?_set_iff he).1 hx with ⟨hn, rfl⟩ | ⟨hn, hx⟩
    · rcases (Turns.getElem?_set_iff he).1 hy with ⟨hm, -⟩ | ⟨hm, hy⟩
      · rw [hn, hm]
      · exact (hnot hm hy hyl hxl).elim
    · rcases (Turns.getElem?_set_iff he).1 hy with ⟨hm, rfl⟩ | ⟨hm, hy⟩
      · exact (hnot hn hx hxl hyl).elim
      · exact h.apart hx hy hxl hyl

end Step

/-- Every turn keeps the drafts. -/
theorem Kept.take (h : s.Kept) (turn : Turn) : (s.take rules turn).Kept := by
  cases he : s.errands[turn.errand]? with
  | none =>
      rw [take_of_none he]
      exact h
  | some e =>
      rw [take_of_getElem? he]
      exact h.step he (Errand.effect h.tidy (h.drafted he) rules turn) _

end Intake

end BatchAdmin
