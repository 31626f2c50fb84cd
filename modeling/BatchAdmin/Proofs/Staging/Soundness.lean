/-
What holds of requests however they are mixed.

In an area without links, where overwriting is refused, each draft holds
what has come of its content, at a location of its own; and a request
that has looked into overwriting, and has yet to store, finds a file at
its path only if there has been stored at that path since it looked
(`Sound`). Every step keeps this so, since a step is of one of few kinds
and changes one content and one draft at most.
-/
import BatchAdmin.Proofs.Staging.Effects
import Mathlib.Data.List.TakeWhile

namespace BatchAdmin

open Text StagingArea

variable {rules : DeskRules} {turn : Turn} {area area' : StagingArea}
  {e : Errand} {phase : Errand.Phase} {mark : Option Mark}

-- =============================================================== the intake

namespace Intake

variable {s : Intake}

/-- What holds of an intake at every moment. -/
structure Sound (s : Intake) : Prop where
  tidy : s.area.Tidy
  /-- A draft holds what has come of its content. -/
  drafted : ∀ {n : Nat} {e : Errand}, s.errands[n]? = some e →
    ∀ draft writes left, e.phase = .filling draft writes left →
      Hidden draft.hidden
        ∧ Drafted e.order left (s.area.disk.get? draft.hidden)
  /-- Two drafts are not at one location. -/
  apart : ∀ {n m : Nat} {e e' : Errand} {loc : Location},
    s.errands[n]? = some e → s.errands[m]? = some e' →
    e.phase.hidden? = some loc → e'.phase.hidden? = some loc → n = m
  /-- Who may store has looked at the path. -/
  looked : ∀ {n : Nat} {e : Errand} {path : StagePath},
    s.errands[n]? = some e → e.phase.path? = some path →
    e.order.target = .ok path ∧ (n, .cleared) ∈ s.history
  /-- Where it finds a file, another has stored since it looked. -/
  since : ∀ {n : Nat} {e : Errand} {path : StagePath},
    s.errands[n]? = some e → e.phase.path? = some path →
    s.area.contentAt? path ≠ none → path ∈ s.storedSince n
  /-- Who has stored has succeeded. -/
  stored : ∀ {n : Nat} {path : StagePath},
    (n, .stored path) ∈ s.history →
    ∃ e info, s.errands[n]? = some e ∧ e.phase = .answered (.ok info)
      ∧ e.order.target = .ok path

theorem Sound.kept (h : s.Sound) : s.Kept := ⟨h.tidy, h.drafted, h.apart⟩

theorem sound_opened (h : area.Tidy) (orders : List Order) :
    (opened area orders).Sound := by
  obtain ⟨htidy, hdrafted, hapart⟩ := kept_opened h orders
  refine ⟨htidy, hdrafted, hapart, ?_, ?_, nofun⟩
  · intro n e path he hpath
    rw [asked_of_opened he] at hpath
    cases hpath
  · intro n e path he hpath
    rw [asked_of_opened he] at hpath
    cases hpath

theorem mem_storedIn {history : List (Nat × Mark)} {path : StagePath} :
    path ∈ storedIn history ↔ ∃ n, (n, .stored path) ∈ history := by
  unfold storedIn
  rw [List.mem_filterMap]
  constructor
  · rintro ⟨⟨n, told⟩, hmem, htold⟩
    cases Mark.path?_eq_some.1 htold
    exact ⟨n, hmem⟩
  · rintro ⟨n, hmem⟩
    exact ⟨(n, .stored path), hmem, rfl⟩

/-- Who has been told of by then is told of in the whole history. -/
theorem exists_of_mem_storedSince {n : Nat} {path : StagePath}
    (h : path ∈ s.storedSince n) : ∃ m, (m, .stored path) ∈ s.history := by
  obtain ⟨m, hmem⟩ := mem_storedIn.1 h
  exact ⟨m, (List.dropWhile_sublist _).subset hmem⟩

/-- What is told next is told since everybody looked who has looked. -/
theorem storedSince_append {n : Nat} (hlooked : (n, .cleared) ∈ s.history)
    (errands : List Errand) (more : List (Nat × Mark)) :
    storedSince ⟨area', errands, s.history ++ more⟩ n
      = s.storedSince n ++ storedIn more := by
  have hrest :
      (s.history.dropWhile (· ≠ (n, .cleared))).isEmpty = false := by
    rw [← Bool.not_eq_true, List.isEmpty_iff, List.dropWhile_eq_nil_iff]
    intro hall
    exact absurd rfl (of_decide_eq_true (hall _ hlooked))
  unfold storedSince storedIn
  rw [List.dropWhile_append, hrest]
  exact List.filterMap_append

section Step

variable (h : s.Sound) {number : Nat} (he : s.errands[number]? = some e)
  (hs : e.Steps s.area area' phase mark)

include h he hs

theorem Sound.looked_step {n : Nat} {x : Errand} {path : StagePath}
    (hx : (s.errands.set number { e with phase })[n]? = some x)
    (hp : x.phase.path? = some path) :
    x.order.target = .ok path ∧ (n, .cleared)
      ∈ s.history ++ (mark.map (number, ·)).toList := by
  rcases (Turns.getElem?_set_iff he).1 hx with ⟨rfl, rfl⟩ | ⟨-, hx⟩
  · rcases hs.path hp with hwas | ⟨rfl, htarget, -⟩
    · obtain ⟨htarget, hmem⟩ := h.looked he hwas
      exact ⟨htarget, List.mem_append_left _ hmem⟩
    · exact ⟨htarget, List.mem_append_right _ (List.mem_singleton_self _)⟩
  · obtain ⟨htarget, hmem⟩ := h.looked hx hp
    exact ⟨htarget, List.mem_append_left _ hmem⟩

theorem Sound.since_step {n : Nat} {x : Errand} {path : StagePath}
    (hx : (s.errands.set number { e with phase })[n]? = some x)
    (hp : x.phase.path? = some path)
    (hfile : area'.contentAt? path ≠ none) :
    path ∈ storedSince ⟨area', s.errands.set number { e with phase },
      s.history ++ (mark.map (number, ·)).toList⟩ n := by
  -- Who finds a file had looked before this step.
  obtain ⟨y, hy, hyp⟩ : ∃ y, s.errands[n]? = some y
      ∧ y.phase.path? = some path := by
    rcases (Turns.getElem?_set_iff he).1 hx with ⟨rfl, rfl⟩ | ⟨-, hx⟩
    · rcases hs.path hp with hwas | ⟨-, -, hfree⟩
      · exact ⟨e, he, hwas⟩
      · exact absurd hfree hfile
    · exact ⟨x, hx, hp⟩
  rw [storedSince_append (h.looked hy hyp).2, List.mem_append]
  rcases hs.contents with ⟨path', _, rfl, -, -, hcontents⟩
    | ⟨-, -, hcontents⟩
  · by_cases hpath : path = path'
    · subst hpath
      exact .inr (mem_storedIn.2 ⟨number, List.mem_singleton_self _⟩)
    · rw [hcontents, Function.update_of_ne hpath] at hfile
      exact .inl (h.since hy hyp hfile)
  · rw [hcontents] at hfile
    exact .inl (h.since hy hyp hfile)

theorem Sound.stored_step {n : Nat} {path : StagePath}
    (hmem : (n, .stored path)
      ∈ s.history ++ (mark.map (number, ·)).toList) :
    ∃ x info, (s.errands.set number { e with phase })[n]? = some x
      ∧ x.phase = .answered (.ok info) ∧ x.order.target = .ok path := by
  rcases List.mem_append.1 hmem with hmem | hmem
  · obtain ⟨x, info, hx, hphase, htarget⟩ := h.stored hmem
    by_cases hn : n = number
    · rw [hn, he] at hx
      injection hx with hx
      subst hx
      refine ⟨_, info, (Turns.getElem?_set_iff he).2 (.inl ⟨hn, rfl⟩), ?_,
        htarget⟩
      exact hs.answered hphase
    · exact ⟨x, info, (Turns.getElem?_set_iff he).2 (.inr ⟨hn, hx⟩), hphase,
        htarget⟩
  · rcases hs.contents with ⟨path', info, rfl, hp, hphase, -⟩ | ⟨hnone, -, -⟩
    · cases List.mem_singleton.1 hmem
      exact ⟨_, info, (Turns.getElem?_set_iff he).2 (.inl ⟨rfl, rfl⟩),
        hphase, (h.looked he hp).1⟩
    · cases mark with
      | none => cases hmem
      | some told =>
          cases List.mem_singleton.1 hmem
          exact absurd rfl (hnone path)

end Step

/-- A step keeps an intake sound. -/
theorem Sound.step (h : s.Sound) {number : Nat}
    (he : s.errands[number]? = some e)
    (hs : e.Steps s.area area' phase mark) :
    Sound ⟨area', s.errands.set number { e with phase },
      s.history ++ (mark.map (number, ·)).toList⟩ := by
  have heffect := hs.effect h.tidy fun d w l hd => (h.drafted he d w l hd).1
  obtain ⟨htidy, hdrafted, hapart⟩ := h.kept.step he heffect _
  exact ⟨htidy, hdrafted, hapart, h.looked_step he hs, h.since_step he hs,
    h.stored_step he hs⟩

/-- Every turn keeps an intake sound. -/
theorem Sound.take (hrules : rules.allowOverwrite = false) (h : s.Sound)
    (turn : Turn) : (s.take rules turn).Sound := by
  cases he : s.errands[turn.errand]? with
  | none =>
      rw [take_of_none he]
      exact h
  | some e =>
      rw [take_of_getElem? he]
      exact h.step he (e.steps hrules h.tidy (h.drafted he) turn)

end Intake

end BatchAdmin
