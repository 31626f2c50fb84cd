/-
Instants and the length of time between them.

An instant is a second in UTC, counted from the start of 1970, and the
nanoseconds since its start; an offset in a written time is gone once it
has been read. Leap seconds are not counted: an instant in one belongs
to the second in front, with a thousand million nanoseconds or more.

The length between two instants is measured in whole milliseconds, and
is zero when it comes out negative: a step that ended before it began
took no time. Of the leap seconds passed only one at the ends can be
known, and it is counted where the times of day are told apart by it.
-/
namespace BatchAdmin

/-- A moment in UTC. -/
structure Instant where
  /-- Whole seconds since the start of 1970, leap seconds left out. -/
  seconds : Int
  /-- Nanoseconds since the start of the second. -/
  fraction : Nat
  deriving DecidableEq, Repr, Inhabited

namespace Instant

-- ================================================================= seconds

/-- Nanoseconds in a second. -/
def second : Nat := 1000000000

/-- The instant so many nanoseconds after the start of 1970. -/
def ofNanos (n : Int) : Instant :=
  ⟨n.fdiv second, (n.fmod second).toNat⟩

/-- The instant is in a leap second. -/
def inLeap (t : Instant) : Bool := second ≤ t.fraction

/-- Seconds since the start of the day. -/
def clock (t : Instant) : Nat := (t.seconds % 86400).toNat

/-- The instant on a clock without leap seconds, which is already in the
second behind a leap second. -/
def carried (t : Instant) : Instant :=
  ⟨t.seconds + (t.fraction / second : Nat), t.fraction % second⟩

-- =================================================================== order

instance : LE Instant where
  le a b := a.seconds < b.seconds
    ∨ (a.seconds = b.seconds ∧ a.fraction ≤ b.fraction)

instance (a b : Instant) : Decidable (a ≤ b) :=
  inferInstanceAs (Decidable (a.seconds < b.seconds
    ∨ (a.seconds = b.seconds ∧ a.fraction ≤ b.fraction)))

theorem le_iff {a b : Instant} :
    a ≤ b ↔ a.seconds < b.seconds
      ∨ (a.seconds = b.seconds ∧ a.fraction ≤ b.fraction) := .rfl

@[simp] theorem le_refl (a : Instant) : a ≤ a :=
  .inr ⟨rfl, Nat.le_refl _⟩

theorem le_trans {a b c : Instant} (hab : a ≤ b) (hbc : b ≤ c) :
    a ≤ c := by
  rw [le_iff] at *
  omega

theorem le_antisymm {a b : Instant} (hab : a ≤ b) (hba : b ≤ a) :
    a = b := by
  obtain ⟨s, f⟩ := a
  obtain ⟨s', f'⟩ := b
  rw [le_iff] at hab hba
  obtain rfl : s = s' := by
    dsimp only at hab hba
    omega
  obtain rfl : f = f' := by
    dsimp only at hab hba
    omega
  rfl

-- ================================================================= lengths

/-- The instant `ms` milliseconds later. Who leaves a leap second leaves
it as if it had not been counted. -/
def later (t : Instant) (ms : Nat) : Instant :=
  let more := t.fraction + 1000000 * ms
  if t.inLeap then
    if more < 2 * second then ⟨t.seconds, more⟩
    else carried ⟨t.seconds, more - second⟩
  else carried ⟨t.seconds, more⟩

/-- Leap seconds that the times of day of two instants tell apart. -/
def leapsBetween (start stop : Instant) : Int :=
  if start.clock < stop.clock ∧ start.inLeap then 1
  else if stop.clock < start.clock ∧ stop.inLeap then -1
  else 0

/-- Nanoseconds from one instant to another. -/
def nanosBetween (start stop : Instant) : Int :=
  (stop.seconds - start.seconds + leapsBetween start stop) * second
    + (stop.fraction - start.fraction)

/-- Whole milliseconds from one instant to another, zero when they are
the wrong way round. -/
def millisBetween (start stop : Instant) : Nat :=
  (nanosBetween start stop).toNat / 1000000

end Instant

end BatchAdmin
