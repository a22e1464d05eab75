/-!
# Double precision

A number in double precision has 53 significant bits.

## Main definitions

- `roundSignificant` — a natural number in double precision

## Main statements

- `roundSignificant_of_log2_lt` — numbers of at most 53 bits are kept
-/

namespace PhotoArchive

/-- A number rounded to 53 significant bits; a half goes to the even neighbour. -/
def roundSignificant (n : Nat) : Nat :=
  let unit := 1 <<< (n.log2 - 52)
  let quotient := n / unit
  let remainder := n % unit
  let up := unit < 2 * remainder ∨ (unit = 2 * remainder ∧ quotient % 2 = 1)
  (if up then quotient + 1 else quotient) * unit

/-- A number of at most 53 bits is kept. -/
theorem roundSignificant_of_log2_lt {n : Nat} (h : n.log2 < 53) : roundSignificant n = n := by
  have hunit : n.log2 - 52 = 0 := by omega
  simp [roundSignificant, hunit, Nat.mod_one]

/-- Rounding up at most doubles a number. -/
theorem roundSignificant_le (n : Nat) : roundSignificant n ≤ 2 * n := by
  by_cases hn : n = 0
  · simp [hn, roundSignificant]
  · have hunit : 2 ^ (n.log2 - 52) ≤ n :=
      Nat.le_trans (Nat.pow_le_pow_right (by decide) (Nat.sub_le _ _)) (Nat.log2_self_le hn)
    have hquotient : n / 2 ^ (n.log2 - 52) * 2 ^ (n.log2 - 52) ≤ n := Nat.div_mul_le_self _ _
    simp only [roundSignificant, Nat.one_shiftLeft]
    split
    · rw [Nat.succ_mul]
      omega
    · omega

example : roundSignificant (2 ^ 53 + 1) = 2 ^ 53 := by decide +kernel
example : roundSignificant (2 ^ 53 + 3) = 2 ^ 53 + 4 := by decide +kernel

end PhotoArchive
