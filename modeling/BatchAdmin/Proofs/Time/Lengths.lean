/-
The length of time between instants of a clock.

A clock shows a second and perhaps one leap second behind it (`OnClock`). So
do all times that are read from texts (`onClock_of_read?`), and no time is
reached that it does not show (`onClock_later`).

Lengths are taken from the calendar, which does not know of leap seconds that
no end of the time lies in. Outside of them a length never falls as its end
moves on (`millisBetween_mono`). From an instant back to one before it no time
passes, but for one case: once a day is over, a leap second at its end is no
longer known of, and an instant in it can come out as later than one at the
front of the next day (`millisBetween_eq_zero_iff`).
-/
import BatchAdmin.Time.Written
import BatchAdmin.Proofs.Text.Numerals
import Mathlib.Data.List.TakeWhile

namespace BatchAdmin.Instant

open Text

variable {start stop t a b : Instant} {s rest : List Char}

/-- An instant that a clock shows: in a second, or in one leap second behind
it. -/
def OnClock (t : Instant) : Prop := t.fraction < 2 * second

instance (t : Instant) : Decidable t.OnClock :=
  inferInstanceAs (Decidable (t.fraction < 2 * second))

-- ================================================================= the times

/-- Nine digits of a fraction are less than a second. -/
theorem readFraction_lt {n : Nat} (h : readFraction s = some (n, rest)) :
    n < second := by
  unfold readFraction at h
  split at h
  · rename_i more
    dsimp only at h
    split at h
    · cases h
    · cases h
      have hdigits : ∀ c ∈ (more.takeWhile Char.isDigit
          ++ List.replicate 9 '0').take 9, c.isDigit = true := by
        intro c hc
        rcases List.mem_append.1 (List.mem_of_mem_take hc) with hc | hc
        · exact List.mem_takeWhile_imp hc
        · rw [(List.mem_replicate.1 hc).2]
          rfl
      have hlt := digitsValue_lt hdigits
      rwa [List.length_take, List.length_append, List.length_replicate,
        Nat.min_eq_left (by omega)] at hlt
  · cases h
    decide

/-- What is read from a text is an instant that a clock shows. -/
theorem onClock_of_read? {text : String} (h : read? text = some t) :
    t.OnClock := by
  unfold read? at h
  -- Date, time of day and the signs between them are read in eleven parts.
  iterate 11 obtain ⟨_, -, h⟩ := Option.bind_eq_some_iff.1 h
  obtain ⟨⟨fraction, s⟩, hfraction, h⟩ := Option.bind_eq_some_iff.1 h
  obtain ⟨⟨away, s⟩, -, h⟩ := Option.bind_eq_some_iff.1 h
  have hlt := readFraction_lt hfraction
  dsimp only at h
  split at h
  · next hall =>
    cases h
    simp only [Bool.and_eq_true, decide_eq_true_eq] at hall
    show fraction + (_ - 59) * second < 2 * second
    unfold second at *
    omega
  · cases h

theorem onClock_carried (t : Instant) : t.carried.OnClock := by
  have hlt : t.carried.fraction < second := Nat.mod_lt _ (by decide)
  unfold OnClock
  omega

/-- As time passes a clock shows nothing else. -/
theorem onClock_later (t : Instant) (ms : Nat) : (t.later ms).OnClock := by
  unfold later
  dsimp only
  split
  · split
    · next hwithin => exact hwithin
    · exact onClock_carried _
  · exact onClock_carried _

-- =============================================================== the lengths

/-- Outside of leap seconds nothing is made up for them. -/
theorem leapsBetween_eq_zero (hstart : start.inLeap = false)
    (hstop : stop.inLeap = false) : leapsBetween start stop = 0 := by
  unfold leapsBetween
  simp [hstart, hstop]

/-- Outside of leap seconds the time from a start on never falls. -/
theorem millisBetween_mono (hstart : start.inLeap = false)
    (ha : a.inLeap = false) (hb : b.inLeap = false) (hab : a ≤ b) :
    start.millisBetween a ≤ start.millisBetween b := by
  have hfraction : a.fraction < second := by
    unfold inLeap at ha
    simpa using ha
  have hnanos : start.nanosBetween a ≤ start.nanosBetween b := by
    unfold nanosBetween
    rw [leapsBetween_eq_zero hstart ha, leapsBetween_eq_zero hstart hb]
    rw [le_iff] at hab
    unfold second at *
    omega
  unfold millisBetween
  exact Nat.div_le_div_right (Int.toNat_le_toNat hnanos)

/-- The start is in the first second of a day and the end in a leap second at
the end of the day before, further on in it by a millisecond or more. -/
def FoldsBack (start stop : Instant) : Prop :=
  start.clock = 0 ∧ start.seconds = stop.seconds + 1
    ∧ start.subsecond + second + 1000000 ≤ stop.fraction

/-- From an instant of a clock back to one before it no time passes, but for
this case. -/
theorem millisBetween_eq_zero_iff (hstart : start.OnClock)
    (hstop : stop.OnClock) (hback : ¬start ≤ stop) :
    start.millisBetween stop = 0 ↔ ¬FoldsBack start stop := by
  have hnanos : start.nanosBetween stop < 1000000 ↔ ¬FoldsBack start stop := by
    rw [le_iff] at hback
    unfold OnClock at hstart hstop
    unfold nanosBetween leapsBetween FoldsBack subsecond
    unfold clock inLeap at *
    simp only [decide_eq_true_eq] at *
    unfold second at *
    -- The times of day tell a leap second of the start, one of the end, or
    -- none.
    split
    · omega
    split
    · omega
    · omega
  rw [← hnanos]
  unfold millisBetween
  rw [Nat.div_eq_zero_iff]
  omega

end BatchAdmin.Instant
