/-
Trimming takes blanks away at both ends, and nothing else.

Blanks put around a text make no difference to it once it is trimmed
(`trim_padded`), and no blank behind a character that is none is taken
from the front, nor one before it from the back (`trim_stop`): a text is
trimmed on either side of such a character by itself.
-/
import BatchAdmin.Text.Blank
import Mathlib.Data.List.TakeWhile

namespace BatchAdmin.Text

variable {s t a b : List Char} {c : Char}

/-- A text of nothing but blanks. -/
def Blank (s : List Char) : Prop := ∀ c ∈ s, isBlank c = true

instance (s : List Char) : Decidable (Blank s) :=
  List.decidableBAll _ s

theorem Blank.reverse (h : Blank s) : Blank s.reverse :=
  fun c hc => h c (List.mem_reverse.1 hc)

theorem blank_append : Blank (s ++ t) ↔ Blank s ∧ Blank t :=
  List.forall_mem_append

-- ============================================================ from the front

theorem trimFront_eq_nil : trimFront s = [] ↔ Blank s :=
  List.dropWhile_eq_nil_iff

theorem trimFront_append (ha : Blank a) : trimFront (a ++ s) = trimFront s :=
  List.dropWhile_append_of_pos ha

/-- Only blanks are taken away. -/
theorem exists_trimFront (s : List Char) :
    ∃ a, Blank a ∧ a ++ trimFront s = s :=
  ⟨s.takeWhile isBlank, fun _ => List.mem_takeWhile_imp,
    List.takeWhile_append_dropWhile⟩

/-- Trimming stops at a character that is no blank. -/
theorem trimFront_stop (hc : isBlank c = false) :
    trimFront (s ++ c :: t) = trimFront s ++ c :: t := by
  unfold trimFront
  rw [List.dropWhile_append]
  split
  · rename_i hnil
    rw [List.isEmpty_iff.1 hnil, List.dropWhile_cons_of_neg (by simp [hc]),
      List.nil_append]
  · rfl

-- ============================================================= from the back

theorem trimBack_eq (s : List Char) :
    trimBack s = (trimFront s.reverse).reverse := rfl

theorem trimBack_append (hb : Blank b) : trimBack (s ++ b) = trimBack s := by
  rw [trimBack_eq, trimBack_eq, List.reverse_append,
    trimFront_append hb.reverse]

theorem exists_trimBack (s : List Char) :
    ∃ b, Blank b ∧ trimBack s ++ b = s := by
  obtain ⟨a, ha, hs⟩ := exists_trimFront s.reverse
  refine ⟨a.reverse, ha.reverse, ?_⟩
  rw [trimBack_eq, ← List.reverse_append, hs, List.reverse_reverse]

theorem trimBack_stop (hc : isBlank c = false) :
    trimBack (s ++ c :: t) = s ++ c :: trimBack t := by
  rw [trimBack_eq, trimBack_eq, List.reverse_append, List.reverse_cons,
    List.append_assoc, List.singleton_append, trimFront_stop hc,
    List.reverse_append, List.reverse_cons, List.reverse_reverse,
    List.append_assoc, List.singleton_append]

-- ================================================================= both ends

theorem trim_append_left (ha : Blank a) : trim (a ++ s) = trim s := by
  unfold trim
  rw [trimFront_append ha]

theorem trim_append_right (hb : Blank b) : trim (s ++ b) = trim s := by
  -- Blanks behind a text are reached from the front if it is blank itself.
  unfold trim
  by_cases hs : Blank s
  · rw [trimFront_eq_nil.2 hs, trimFront_eq_nil.2 (blank_append.2 ⟨hs, hb⟩)]
  · have hne : trimFront s ≠ [] := fun hnil => hs (trimFront_eq_nil.1 hnil)
    have hfront : trimFront (s ++ b) = trimFront s ++ b := by
      unfold trimFront at hne ⊢
      rw [List.dropWhile_append, if_neg (by simpa using hne)]
    rw [hfront, trimBack_append hb]

/-- Blanks around a text make no difference. -/
theorem trim_padded (ha : Blank a) (hb : Blank b) :
    trim (a ++ s ++ b) = trim s := by
  rw [trim_append_right hb, trim_append_left ha]

theorem trim_trimFront (s : List Char) : trim (trimFront s) = trim s := by
  obtain ⟨a, ha, hs⟩ := exists_trimFront s
  rw [← trim_append_left ha, hs]

theorem trim_trimBack (s : List Char) : trim (trimBack s) = trim s := by
  obtain ⟨b, hb, hs⟩ := exists_trimBack s
  rw [← trim_append_right hb, hs]

/-- Around a character that is no blank, each side is trimmed at its own
end. -/
theorem trim_stop (hc : isBlank c = false) :
    trim (s ++ c :: t) = trimFront s ++ c :: trimBack t := by
  unfold trim
  rw [trimFront_stop hc, trimBack_stop hc]

theorem trim_eq_nil : trim s = [] ↔ Blank s := by
  constructor
  · intro h
    obtain ⟨b, hb, hs⟩ := exists_trimBack (trimFront s)
    obtain ⟨a, ha, hs'⟩ := exists_trimFront s
    have hnil : trimBack (trimFront s) = [] := h
    rw [hnil, List.nil_append] at hs
    rw [← hs', ← hs]
    exact blank_append.2 ⟨ha, hb⟩
  · intro h
    unfold trim
    rw [trimFront_eq_nil.2 h]
    rfl

theorem mem_of_mem_trim (h : c ∈ trim s) : c ∈ s := by
  obtain ⟨b, -, hs⟩ := exists_trimBack (trimFront s)
  obtain ⟨a, -, hs'⟩ := exists_trimFront s
  rw [← hs', ← hs]
  exact List.mem_append_right _ (List.mem_append_left _ h)

end BatchAdmin.Text
