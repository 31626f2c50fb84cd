/-
What a step of an errand can be.

Each step is one of eight (`Errand.Steps`), told by what it makes of the
contents and of the drafts. Two of them store: the creation of an empty
file and the commit of a draft, which by then holds all of its content.
All that is shown of mixed requests is shown from this list.
-/
import BatchAdmin.Proofs.Staging.Intake

namespace BatchAdmin

open Text StagingArea

variable {rules : DeskRules} {turn : Turn} {area : StagingArea} {e : Errand}
  {path : StagePath} {draft : Draft} {left : Content}

-- ============================================================= the overwrite

/-- Where overwriting is refused, a path that passes has no file. -/
theorem Desk.contentAt?_of_check {faults : StoreFaults}
    (hrules : rules.allowOverwrite = false)
    (h : checkOverwrite rules faults area path = .ok ()) :
    area.contentAt? path = none := by
  unfold checkOverwrite StagingArea.stat at h
  rw [if_neg (by simp [hrules])] at h
  unfold contentAt?
  split
  · rename_i loc content time hfind
    cases hg : guard faults .stat with
    | error fault =>
        rw [hg] at h
        cases h
    | ok _ =>
        rw [hg, hfind] at h
        cases h
  · rfl

-- ================================================================ the steps

/-- A draft holds what the order is to have but for what is left. -/
def Drafted (order : Order) (left : Content) (entry : Option DiskEntry) :
    Prop :=
  ∃ content time, entry = some (.file content time)
    ∧ content ++ left.chunks.flatten = order.octets

/-- Empty chunks bring nothing. -/
theorem flatten_dropWhile_isEmpty (chunks : List (List Octet)) :
    (chunks.dropWhile (·.isEmpty)).flatten = chunks.flatten := by
  induction chunks with
  | nil => rfl
  | cons chunk rest ih =>
      cases chunk with
      | nil => exact ih
      | cons octet more => rfl

/-- What a step of an errand can be, with all that it changes. -/
inductive Errand.Steps (area : StagingArea) (e : Errand) :
    StagingArea → Phase → Option Mark → Prop
  | clear {path : StagePath} : e.phase = .asked →
      e.order.target = .ok path → area.contentAt? path = none →
      Steps area e area (.cleared path) (some .cleared)
  | refuse {area' : StagingArea} {failure : Failure} :
      (e.phase = .asked ∨ ∃ path, e.phase = .cleared path) →
      area'.Became area.contentAt? area.disk.get? →
      Steps area e area' (.answered (.error failure)) none
  | enter {area' : StagingArea} {draft : Draft} {content : Content}
      {entry : Option DiskEntry} :
      e.phase = .cleared draft.path → Hidden draft.hidden →
      area.disk.get? draft.hidden = none → Drafted e.order content entry →
      area'.Became area.contentAt?
        (Function.update area.disk.get? draft.hidden entry) →
      Steps area e area' (.filling draft 0 content) none
  | write {area' : StagingArea} {draft : Draft} {writes : Nat}
      {left left' : Content} {entry : Option DiskEntry} :
      e.phase = .filling draft writes left → Drafted e.order left' entry →
      area'.Became area.contentAt?
        (Function.update area.disk.get? draft.hidden entry) →
      Steps area e area' (.filling draft (writes + 1) left') none
  | giveUp {area' : StagingArea} {draft : Draft} {writes : Nat}
      {left : Content} {failure : Failure} :
      e.phase = .filling draft writes left →
      area'.Became area.contentAt?
        (Function.update area.disk.get? draft.hidden none) →
      Steps area e area' (.answered (.error failure)) none
  | create {area' : StagingArea} {path : StagePath} {info : FileInfo} :
      e.phase = .cleared path →
      area'.Became
        (Function.update area.contentAt? path (some e.order.octets))
        area.disk.get? →
      Steps area e area' (.answered (.ok info)) (some (.stored path))
  | commit {area' : StagingArea} {draft : Draft} {writes : Nat}
      {left : Content} {info : FileInfo} :
      e.phase = .filling draft writes left →
      area'.Became
        (Function.update area.contentAt? draft.path (some e.order.octets))
        (Function.update area.disk.get? draft.hidden none) →
      Steps area e area' (.answered (.ok info)) (some (.stored draft.path))
  | rest {answer : Answer FileInfo} : e.phase = .answered answer →
      Steps area e area (.answered answer) none

namespace Errand

/-- The first step clears the errand for a path without a file, or
refuses. -/
theorem steps_ask (hrules : rules.allowOverwrite = false) (h : area.Tidy)
    (hphase : e.phase = .asked) :
    Steps area e area (ask rules turn area e.order).1
      (ask rules turn area e.order).2 := by
  unfold ask
  cases htarget : e.order.target with
  | error failure => exact .refuse (.inl hphase) h.same
  | ok path =>
      cases hcheck : Desk.checkOverwrite rules turn.faults area path with
      | error failure =>
          simp only [hcheck]
          exact .refuse (.inl hphase) h.same
      | ok _ =>
          simp only [hcheck]
          exact .clear hphase htarget
            (Desk.contentAt?_of_check hrules hcheck)

/-- The second step creates the file or opens a draft, or refuses. -/
theorem steps_enter (h : area.Tidy) (hphase : e.phase = .cleared path) :
    Steps area e (enter rules turn area path e.order.content?).1
      (enter rules turn area path e.order.content?).2.1
      (enter rules turn area path e.order.content?).2.2 := by
  have hnot : e.phase = .asked ∨ ∃ path, e.phase = .cleared path :=
    .inr ⟨path, hphase⟩
  cases hcontent : e.order.content? with
  | none =>
      have hoctets : e.order.octets = [] := by
        unfold Order.octets
        rw [hcontent]
      unfold enter
      rcases hc : area.create turn.faults path turn.now with
        ⟨outcome, area'⟩
      obtain ⟨hfailed, hdone⟩ := h.create hc
      cases outcome with
      | error fault => exact .refuse hnot (hfailed fault rfl)
      | ok stored =>
          refine .create hphase ?_
          rw [hoctets]
          exact hdone stored rfl
  | some content =>
      have hoctets : e.order.octets = content.chunks.flatten := by
        unfold Order.octets
        rw [hcontent]
      unfold enter
      dsimp only
      split
      · exact .refuse hnot h.same
      · rcases hs : area.stage turn.faults path turn.now with
          ⟨outcome, area'⟩
        obtain ⟨hfailed, hdone⟩ := h.stage hs
        cases outcome with
        | error fault => exact .refuse hnot (hfailed fault rfl)
        | ok draft =>
            obtain ⟨hl, hfree, hbecame⟩ := hdone draft rfl
            exact .enter (by rw [hphase, path_of_stage hs]) hl hfree
              ⟨[], turn.now, rfl, hoctets.symm⟩ hbecame

/-- A further step writes the next chunk or commits the draft, or gives
up. -/
theorem steps_fill (h : area.Tidy) {writes : Nat}
    (hphase : e.phase = .filling draft writes left)
    (hl : Hidden draft.hidden)
    (hd : Drafted e.order left (area.disk.get? draft.hidden)) :
    Steps area e (fill rules turn area draft writes left).1
      (fill rules turn area draft writes left).2.1
      (fill rules turn area draft writes left).2.2 := by
  obtain ⟨content, time, hfile, hcontent⟩ := hd
  have hgone := h.discard hl (by rw [hfile]; nofun)
  -- Empty chunks are passed over, which leaves the same content to come.
  rw [← flatten_dropWhile_isEmpty] at hcontent
  unfold fill
  split
  · rename_i chunk rest hrest
    rw [hrest, List.flatten_cons, ← List.append_assoc] at hcontent
    cases hw : area.write turn.faults draft writes chunk turn.now with
    | error fault => exact .giveUp hphase hgone
    | ok area' =>
        obtain ⟨content', time', hfile', hbecame⟩ := h.write hl hw
        cases hfile.symm.trans hfile'
        exact .write hphase ⟨content ++ chunk, turn.now, rfl, hcontent⟩
          hbecame
  · rename_i hrest
    rw [hrest, List.flatten_nil, List.append_nil] at hcontent
    split
    · exact .giveUp hphase hgone
    · rcases hc : area.commit turn.faults draft with ⟨outcome, area'⟩
      obtain ⟨hfailed, hdone⟩ := h.commit hl hc
      cases outcome with
      | error fault =>
          obtain rfl := hfailed fault rfl
          exact .giveUp hphase hgone
      | ok stored =>
          obtain ⟨content', time', hfile', hbecame⟩ := hdone stored rfl
          cases hfile.symm.trans hfile'
          rw [hcontent] at hbecame
          exact .commit hphase hbecame

/-- The next step of an errand is one of these. -/
theorem steps (hrules : rules.allowOverwrite = false) (h : area.Tidy)
    (hd : ∀ draft writes left, e.phase = .filling draft writes left →
      Hidden draft.hidden
        ∧ Drafted e.order left (area.disk.get? draft.hidden))
    (turn : Turn) :
    Steps area e (e.step rules turn area).1 (e.step rules turn area).2.1
      (e.step rules turn area).2.2 := by
  unfold step
  split
  · exact steps_ask hrules h ‹_›
  · exact steps_enter h ‹_›
  · rename_i hphase
    obtain ⟨hl, hd⟩ := hd _ _ _ hphase
    exact steps_fill h hphase hl hd
  · exact .rest ‹_›

end Errand

end BatchAdmin
