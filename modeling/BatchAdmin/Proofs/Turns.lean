/-
Turns: what happens when several parties act on one state.

Parties that act at the same time act one after another on what they
share, in an order nobody controls. A course of events is then a list of
turns, each taken by `step` in the state that the turns before it left,
and the state after it is a left fold.

A rule is a condition on each turn in the state in which it is taken
(`Heeds`). Where a rule says of every turn exactly whether the turn keeps
something true of the state, it says of every course whether that stays
true all along (`throughout_iff_heeds`).
-/
import Mathlib.Data.List.Infix

namespace BatchAdmin.Turns

variable {σ τ : Type} {step : σ → τ → σ} {P Q : σ → Prop} {s : σ}
  {rule : σ → τ → Prop} {turns : List τ}

/-- Every turn keeps to the rule in the state in which it is taken. -/
def Heeds (step : σ → τ → σ) (rule : σ → τ → Prop) : σ → List τ → Prop
  | _, [] => True
  | s, turn :: rest => rule s turn ∧ Heeds step rule (step s turn) rest

instance (step : σ → τ → σ) (rule : σ → τ → Prop)
    [hd : ∀ s turn, Decidable (rule s turn)] :
    ∀ s turns, Decidable (Heeds step rule s turns)
  | _, [] => inferInstanceAs (Decidable True)
  | s, turn :: rest =>
      have := instDecidableHeeds step rule (step s turn) rest
      inferInstanceAs (Decidable (_ ∧ _))

/-- Where one party of a list has taken a step, it is another; those at the
other places are as they were. -/
theorem getElem?_set_iff {α : Type} {parties : List α} {n m : Nat}
    {a b x : α} (h : parties[n]? = some a) :
    (parties.set n b)[m]? = some x
      ↔ (m = n ∧ x = b) ∨ (m ≠ n ∧ parties[m]? = some x) := by
  obtain ⟨hlt, -⟩ := List.getElem?_eq_some_iff.1 h
  by_cases hm : m = n
  · subst hm
    rw [List.getElem?_set_self hlt]
    simp [eq_comm]
  · rw [List.getElem?_set_ne (Ne.symm hm)]
    simp [hm]

/-- What every turn keeps holds at the end. -/
theorem keeps (hstep : ∀ s turn, P s → P (step s turn)) (hs : P s)
    (turns : List τ) : P (turns.foldl step s) := by
  induction turns generalizing s with
  | nil => exact hs
  | cons turn rest ih => exact ih (hstep s turn hs)

/-- If the rule says of every turn, wherever `P` holds and `Q` still does,
whether `Q` will hold after it, then `Q` holds all along a course exactly
if the course keeps to the rule. -/
theorem throughout_iff_heeds (hP : ∀ s turn, P s → P (step s turn))
    (hQ : ∀ s turn, P s → Q s → (Q (step s turn) ↔ rule s turn))
    (hps : P s) (hqs : Q s) :
    (∀ cut, cut <+: turns → Q (cut.foldl step s))
      ↔ Heeds step rule s turns := by
  induction turns generalizing s with
  | nil =>
      refine ⟨fun _ => trivial, fun _ cut hcut => ?_⟩
      rw [List.prefix_nil.1 hcut]
      exact hqs
  | cons turn rest ih =>
      constructor
      · intro hall
        have hq : Q (step s turn) := hall [turn] (List.prefix_append _ _)
        refine ⟨(hQ s turn hps hqs).1 hq, (ih (hP s turn hps) hq).1 ?_⟩
        intro cut hcut
        exact hall (turn :: cut) (List.cons_prefix_cons.2 ⟨rfl, hcut⟩)
      · rintro ⟨hrule, hrest⟩ cut hcut
        have hq := (hQ s turn hps hqs).2 hrule
        cases cut with
        | nil => exact hqs
        | cons turn' cut =>
            obtain ⟨rfl, hcut'⟩ := List.cons_prefix_cons.1 hcut
            exact (ih (hP s _ hps) hq).2 hrest cut hcut'

end BatchAdmin.Turns
