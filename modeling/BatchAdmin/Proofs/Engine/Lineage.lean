/-
Where the executions after a turn come from, and what becomes of those
before it.

An execution in the engine after a turn was there before as it is
(`kept`), or was there and the turn changed it (`changed`), or was begun
by the turn (`begun`). One that was there before is there afterwards, as
it was or changed: executions are never lost. `Makes` says when a turn
changes an execution, whoever takes the turn.
-/
import BatchAdmin.Proofs.Engine.Numbering

namespace BatchAdmin.Engine

variable {engine next : Engine} {turn : Turn}

/-- A turn makes a change to an execution: as a call, or as a move of the
execution's runner. -/
inductive Makes (engine : Engine) (turn : Turn) (e : Execution) :
    Change → Prop
  | call {change : Change} (hc : Calls engine e turn.act change) :
      Makes engine turn e change
  | move {r : Runner} {change : Change} {left : Option Runner}
      (ha : turn.act = .run e.id)
      (hr : engine.runner? e.id = some r)
      (hm : Moves engine turn.now e r (some change) left) :
      Makes engine turn e change

/-- A change that is made fits its execution. -/
theorem Makes.fits {e : Execution} {change : Change}
    (hm : Makes engine turn e change) : change.Fits engine e := by
  cases hm with
  | call hc => exact hc.fits
  | move _ _ hm => exact hm.fits

/-- Where an execution after a turn comes from. -/
inductive Origin (engine : Engine) (turn : Turn) (x : Execution) : Prop
  | kept (hx : x ∈ engine.executions)
  | changed {e : Execution} {change : Change}
      (he : e ∈ engine.executions) (hm : Makes engine turn e change)
      (hx : x = change.on e turn.now)
  | begun {engine₀ : Engine} {job : String} {i : Int}
      {parameters : Dict} {steps : List String}
      (ho : Opens engine turn.act engine₀ job i parameters steps)
      (hx : x = newRecord (engine.lastExecution + 1) job i parameters
        turn.now)

/-- An instance is added without a word about the executions. -/
theorem Opens.same {act : Act} {engine₀ : Engine} {job : String} {i : Int}
    {parameters : Dict} {steps : List String}
    (ho : Opens engine act engine₀ job i parameters steps) :
    engine₀.executions = engine.executions
      ∧ engine₀.lastExecution = engine.lastExecution
      ∧ engine₀.pace = engine.pace
      ∧ engine₀.attached = engine.attached
      ∧ engine₀.runners = engine.runners
      ∧ engine₀.definitions = engine.definitions := by
  cases ho <;> exact ⟨rfl, rfl, rfl, rfl, rfl, rfl⟩

/-- Every execution after a turn has an origin. -/
theorem Effect.origin (heff : Effect engine turn next) {x : Execution}
    (hx : x ∈ next.executions) : Origin engine turn x := by
  cases heff with
  | quiet => exact .kept hx
  | wasted => exact .kept hx
  | called he hc =>
      rcases (mem_revise he).1 hx with ⟨hx, -⟩ | hx
      · exact .kept hx
      · exact .changed (mem_of_execution? he).1 (.call hc) hx
  | @moved e r change left ha he hr hm =>
      cases change with
      | none => exact .kept hx
      | some change =>
          rcases (mem_revise he).1 hx with ⟨hx, -⟩ | hx
          · exact .kept hx
          · exact .changed (mem_of_execution? he).1 (.move ha hr hm) hx
  | begun ho =>
      obtain ⟨hsame, hlast, -⟩ := ho.same
      rcases mem_begin.1 hx with hx | hx
      · exact .kept (hsame ▸ hx)
      · exact .begun ho (hlast ▸ hx)

/-- No execution after a turn has an id above the next one. -/
theorem Origin.id_le {x : Execution} (ho : Origin engine turn x)
    (hn : engine.Numbered) : x.id ≤ engine.lastExecution + 1 := by
  cases ho with
  | kept hx =>
      have hle := hn.executions_le x hx
      omega
  | @changed e change he _ hx =>
      have hle := hn.executions_le e he
      rw [hx, Change.on_id]
      omega
  | begun _ hx =>
      rw [hx]
      exact Int.le_refl _

/-- No execution is lost: each is there after a turn, as it was or
changed by the turn. -/
theorem Effect.fate (heff : Effect engine turn next)
    (hn : engine.Numbered) {x : Execution} (hx : x ∈ engine.executions) :
    x ∈ next.executions ∨ ∃ change, Makes engine turn x change
      ∧ change.on x turn.now ∈ next.executions := by
  cases heff with
  | quiet => exact .inl hx
  | wasted => exact .inl hx
  | @called e change he hc =>
      by_cases hid : x.id = e.id
      · have hxe := hn.eq_of_id_eq hx (mem_of_execution? he).1 hid
        subst hxe
        exact .inr ⟨change, .call hc, (mem_revise he).2 (.inr rfl)⟩
      · exact .inl ((mem_revise he).2 (.inl ⟨hx, hid⟩))
  | @moved e r change left ha he hr hm =>
      cases change with
      | none => exact .inl hx
      | some change =>
          by_cases hid : x.id = e.id
          · have hxe := hn.eq_of_id_eq hx (mem_of_execution? he).1 hid
            subst hxe
            exact .inr ⟨change, .move ha hr hm,
              (mem_revise he).2 (.inr rfl)⟩
          · exact .inl ((mem_revise he).2 (.inl ⟨hx, hid⟩))
  | begun ho =>
      rw [← ho.same.1] at hx
      exact .inl (mem_begin.2 (.inl hx))

/-- The jobs and the pace are settled when the engine is made. -/
theorem Effect.setup (heff : Effect engine turn next) :
    next.definitions = engine.definitions ∧ next.pace = engine.pace := by
  cases heff with
  | quiet => exact ⟨rfl, rfl⟩
  | wasted => exact ⟨rfl, rfl⟩
  | called he hc => exact ⟨rfl, rfl⟩
  | @moved e r change left ha he hr hm =>
      cases change with
      | none => exact ⟨rfl, rfl⟩
      | some change => exact ⟨rfl, rfl⟩
  | begun ho =>
      obtain ⟨-, -, hpace, -, -, hdefs⟩ := ho.same
      rw [begin_eq]
      exact ⟨hdefs, hpace⟩

/-- So they are at the end of a play. -/
theorem definitions_play (definitions : List JobDefinition)
    (pace : Option Nat) (turns : List Turn) :
    ((fresh definitions pace).play turns).definitions = definitions := by
  refine (play_keeps (P := fun engine =>
      engine.Numbered ∧ engine.definitions = definitions)
    (fun engine turn h _ => ⟨h.1.take turn, ?_⟩)
    ⟨numbered_fresh definitions pace, rfl⟩ (follows_anything turns)).2
  exact (h.1.effect turn).setup.1.trans h.2

end BatchAdmin.Engine
