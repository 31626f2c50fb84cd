/-
Written numbers are read back.

Digits are digits, so nothing that is written for a number can be taken
for a sign, an escape or a separator, and a number of a signed word comes
back from its text (`readInt64_writeInt`) and from a path with that text
as a segment (`readSegment_writeInt`).
-/
import BatchAdmin.Proofs.Text.Escapes
import Mathlib.Algebra.Group.Nat.Defs

namespace BatchAdmin.Text

variable {c : Char}

-- =============================================================== the digits

theorem isDigit_of_mem_writeNat {n : Nat} (h : c ∈ writeNat n) :
    c.isDigit = true :=
  Nat.isDigit_of_mem_toDigits (by decide) (by decide) h

/-- A digit is kept where texts are escaped. -/
theorem kept_of_isDigit (h : c.isDigit = true) :
    c.toNat < 128 ∧ isKept (UInt8.ofNat c.toNat) = true := by
  have hall : ∀ n : Fin 10, isKept (UInt8.ofNat (48 + n.val)) = true := by
    decide
  have hrange : 48 ≤ c.toNat ∧ c.toNat ≤ 57 := Char.isDigit_iff_toNat.1 h
  obtain ⟨hlow, hhigh⟩ := hrange
  have hkept := hall ⟨c.toNat - 48, by omega⟩
  rw [Nat.add_sub_cancel' hlow] at hkept
  exact ⟨by omega, hkept⟩

/-- A number is written with digits, and perhaps a minus sign. -/
theorem mem_writeInt {n : Int} (h : c ∈ writeInt n) :
    c = '-' ∨ c.isDigit = true := by
  unfold writeInt at h
  split at h
  · rcases List.mem_cons.1 h with h | h
    · exact .inl h
    · exact .inr (isDigit_of_mem_writeNat h)
  · exact .inr (isDigit_of_mem_writeNat h)

-- ================================================================== reading

theorem readDigits_writeNat (n : Nat) : readDigits (writeNat n) = some n := by
  have hempty : (writeNat n).isEmpty = false := by
    rw [List.isEmpty_eq_false_iff]
    exact Nat.toDigits_ne_nil
  have hdigits : (writeNat n).all Char.isDigit = true :=
    List.all_eq_true.2 fun c hc => isDigit_of_mem_writeNat hc
  unfold readDigits
  rw [hempty, hdigits]
  exact congrArg some (Nat.ofDigitChars_toDigits (by decide) (by decide))

/-- A number is below the power of ten for its digits. -/
theorem digitsValue_lt {ds : List Char} (h : ∀ c ∈ ds, c.isDigit = true) :
    digitsValue ds < 10 ^ ds.length := by
  have hfold : ∀ (ds : List Char) (n : Nat), (∀ c ∈ ds, c.isDigit = true) →
      ds.foldl (fun n c => 10 * n + (c.toNat - '0'.toNat)) n
        < (n + 1) * 10 ^ ds.length := by
    intro ds
    induction ds with
    | nil => simp
    | cons c rest ih =>
        intro n h
        obtain ⟨hc, hrest⟩ := List.forall_mem_cons.1 h
        have hdigit : c.toNat ≤ 57 := (Char.isDigit_iff_toNat.1 hc).2
        have hnext : 10 * n + (c.toNat - '0'.toNat) + 1 ≤ (n + 1) * 10 := by
          have hzero : '0'.toNat = 48 := rfl
          omega
        refine Nat.lt_of_lt_of_le (ih _ hrest) ?_
        rw [List.length_cons, Nat.pow_succ', ← Nat.mul_assoc]
        exact Nat.mul_le_mul_right _ hnext
  have hlt := hfold ds 0 h
  rwa [Nat.zero_add, Nat.one_mul] at hlt

theorem writeNat_inj {m n : Nat} : writeNat m = writeNat n ↔ m = n :=
  (injective_of_read readDigits_writeNat fun _ _ h => h).eq_iff

/-- A number comes back; its first digit is no sign. -/
theorem readSigned_writeInt (n : Int) : readSigned (writeInt n) = some n := by
  unfold writeInt
  split
  · rename_i hneg
    rw [readSigned, readDigits_writeNat, Option.map_some]
    exact congrArg some (by rw [Int.ofNat_eq_natCast]; omega)
  · rename_i hpos
    have hread := readDigits_writeNat n.natAbs
    have hvalue : (n.natAbs : Int) = n := by omega
    unfold readSigned
    split
    · rename_i rest heq
      have hdigit := isDigit_of_mem_writeNat
        (show '+' ∈ writeNat n.natAbs from heq ▸ List.mem_cons_self)
      cases hdigit
    · rename_i rest heq
      have hdigit := isDigit_of_mem_writeNat
        (show '-' ∈ writeNat n.natAbs from heq ▸ List.mem_cons_self)
      cases hdigit
    · rw [hread, Option.map_some]
      exact congrArg some hvalue

/-- A number of a signed word comes back from its text. -/
theorem readInt64_writeInt {n : Int} (hlow : minSigned ≤ n)
    (hhigh : n ≤ maxSigned) : readInt64 (writeInt n) = some n := by
  unfold readInt64
  rw [readSigned_writeInt]
  exact if_pos ⟨hlow, hhigh⟩

/-- A count is written without a sign. -/
theorem writeInt_natCast (n : Nat) : writeInt (n : Int) = writeNat n := by
  unfold writeInt
  rw [if_neg (by omega), Int.natAbs_natCast]

/-- A count within the range comes back, too. -/
theorem readInt64_writeNat {n : Nat} (h : (n : Int) ≤ maxSigned) :
    readInt64 (writeNat n) = some (n : Int) := by
  rw [← writeInt_natCast]
  exact readInt64_writeInt (by unfold minSigned; omega) h

/-- A number stands in a path as it is. -/
theorem readSegment_writeInt (n : Int) :
    readSegment (writeInt n) = some (writeInt n) := by
  have hself : pathSegment (writeInt n) = writeInt n := by
    refine pathSegment_eq_self fun c hc => ?_
    rcases mem_writeInt hc with rfl | hdigit
    · decide
    · exact kept_of_isDigit hdigit
  have hread := readSegment_pathSegment (writeInt n)
  rwa [hself] at hread

end BatchAdmin.Text
