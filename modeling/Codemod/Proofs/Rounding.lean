import Codemod.Number.Binary64
import Mathlib.Algebra.Group.Nat.Defs

/-!
# Whole numbers as doubles

A whole number below `2 ^ 53` is a double: it is its leading 53 bits, and nothing is rounded off. From
there on a double is a multiple of a higher power of two, and rounding never leads back below.

A decimal that is too large or too small for any double is told by the number of its digits, which bounds
it by powers of two from both sides; it is infinite or zero without its power of ten being worked out. All
other decimals are rounded as the fractions that they are.
-/
namespace Codemod.Binary64

/-- Rounding goes no further down than the whole part. -/
theorem le_round_half_even (num den : Nat) : num / den ≤ roundHalfEven num den := by
  rw [roundHalfEven]
  split
  · exact Nat.le_succ _
  · exact Nat.le_refl _

/-- Whole numbers are not rounded. -/
theorem round_half_even_one (num : Nat) : roundHalfEven num 1 = num := by
  simp [roundHalfEven, Nat.mod_one]

/-- A whole number is divided by a power of two by raising its denominator. -/
theorem scale_down_coarse (n shift : Nat) : scaleDown n 1 (shift : Int) = (n, 2 ^ shift) := by
  rw [scaleDown, if_pos (Int.natCast_nonneg shift), Int.toNat_natCast, Nat.one_mul]
  rfl

/-- A fraction is multiplied by a power of two by raising its numerator. -/
theorem scale_down_below (num den : Nat) {missing : Nat} (some : missing ≠ 0) :
    scaleDown num den (-(missing : Int)) = (num * 2 ^ missing, den) := by
  rw [scaleDown, if_neg (by omega), Int.neg_neg, Int.toNat_natCast]
  rfl

/-- A whole number that is multiplied by a power of two stays whole. -/
theorem scale_down_fine (n missing : Nat) : scaleDown n 1 (-(missing : Int)) = (n * 2 ^ missing, 1) := by
  cases missing with
  | zero => simpa using scale_down_coarse n 0
  | succ missing => exact scale_down_below n 1 (Nat.succ_ne_zero missing)

/-- A whole number is either as long as 53 bits at least, or falls short of them. -/
theorem length_cases (n : Nat) :
    (∃ shift, n.log2 = 53 + shift) ∨ ∃ missing, n.log2 + missing = 52 := by
  by_cases long : 53 ≤ n.log2
  · exact .inl ⟨n.log2 - 53, by omega⟩
  · exact .inr ⟨52 - n.log2, by omega⟩

/-- Scaled so that 54 bits stand before its point, a whole number is `2 ^ 53` at least. It is shifted up
or down until its first bit stands there. -/
theorem full_of_scaled {n : Nat} (positive : n ≠ 0) :
    Nat.pow 2 53 * (scaleDown n 1 ((n.log2 : Int) - 53)).2 ≤ (scaleDown n 1 ((n.log2 : Int) - 53)).1 := by
  have least : 2 ^ n.log2 ≤ n := Nat.log2_self_le positive
  rcases length_cases n with ⟨shift, long⟩ | ⟨missing, short⟩
  · have scale : (n.log2 : Int) - 53 = (shift : Int) := by omega
    rw [scale, scale_down_coarse]
    rw [long, Nat.pow_add] at least
    exact least
  · have scale : (n.log2 : Int) - 53 = -((missing + 1 : Nat) : Int) := by omega
    rw [scale, scale_down_fine, Nat.mul_one]
    calc Nat.pow 2 53 = 2 ^ n.log2 * 2 ^ (missing + 1) := by
          rw [← Nat.pow_add, show n.log2 + (missing + 1) = 53 by omega, Nat.pow_eq]
      _ ≤ n * 2 ^ (missing + 1) := Nat.mul_le_mul_right _ least

/-- A whole number is scaled by a power of two so that 53 bits stand before its point. The first guess of
the scale leaves a bit too many, and the next one fits. -/
theorem of_ratio_whole (negative : Bool) {n : Nat} (positive : n ≠ 0) :
    ofRatio negative n 1 =
      let q : Int := (n.log2 : Int) - 52
      let scaled := scaleDown n 1 q
      let m := roundHalfEven scaled.1 scaled.2
      let fitted := if m = Nat.pow 2 53 then (Nat.pow 2 52, q + 1) else (m, q)
      if fitted.2 > 971 then .infinite negative else .finite negative fitted.1 fitted.2 := by
  have full := full_of_scaled positive
  have low : (n.log2 : Int) - (Nat.log2 1 : Int) - 53 = (n.log2 : Int) - 53 := Int.sub_zero _ ▸ rfl
  have next : (n.log2 : Int) - 53 + 1 = (n.log2 : Int) - 52 := by omega
  have above : ¬ (n.log2 : Int) - 52 < -1074 := by omega
  unfold ofRatio
  simp only [positive, Nat.one_ne_zero, decide_false, Bool.or_false, Bool.false_eq_true, if_false, low,
    ge_iff_le, full, if_true, next, above]

/-- A whole number of 53 bits at most is a double as it is: its mantissa is the number, moved up to 53
bits. -/
theorem of_ratio_exact (negative : Bool) {n missing : Nat} (positive : n ≠ 0)
    (short : n.log2 + missing = 52) :
    ofRatio negative n 1 = .finite negative (n * 2 ^ missing) (-(missing : Int)) := by
  have scale : (n.log2 : Int) - 52 = -(missing : Int) := by omega
  have fits : n * 2 ^ missing ≠ Nat.pow 2 53 := by
    have bits : n < 2 ^ (n.log2 + 1) := Nat.lt_log2_self
    have less : n * 2 ^ missing < 2 ^ (n.log2 + 1) * 2 ^ missing :=
      Nat.mul_lt_mul_of_pos_right bits (Nat.two_pow_pos _)
    rw [← Nat.pow_add, show n.log2 + 1 + missing = 53 by omega] at less
    exact Nat.ne_of_lt less
  have finite : ¬ -(missing : Int) > 971 := by omega
  rw [of_ratio_whole negative positive]
  simp only [scale, scale_down_fine, round_half_even_one, fits, if_false, finite]

/-- A longer whole number becomes infinite or a multiple of a power of two that is `2 ^ 53` at least. It
has at least 54 bits, of which the last are rounded off, and what is left is not smaller than the least
number of 53 bits. -/
theorem of_ratio_coarse (negative : Bool) {n shift : Nat} (long : n.log2 = 53 + shift) :
    ofRatio negative n 1 = .infinite negative ∨
      ∃ m scale : Nat, 2 ^ 52 ≤ m ∧ 1 ≤ scale ∧ ofRatio negative n 1 = .finite negative m scale := by
  have positive : n ≠ 0 := by
    rintro rfl
    simp at long
    omega
  have scale : (n.log2 : Int) - 52 = ((shift + 1 : Nat) : Int) := by omega
  have least : 2 ^ 52 ≤ roundHalfEven n (2 ^ (shift + 1)) := by
    refine Nat.le_trans ((Nat.le_div_iff_mul_le (Nat.two_pow_pos _)).mpr ?_) (le_round_half_even _ _)
    rw [← Nat.pow_add, show 52 + (shift + 1) = n.log2 by omega]
    exact Nat.log2_self_le positive
  have either {m q : Nat} (mantissa : 2 ^ 52 ≤ m) (exponent : 1 ≤ q) {number : Binary64}
      (fitted : number = if (q : Int) > 971 then .infinite negative else .finite negative m q) :
      number = .infinite negative ∨
        ∃ m scale : Nat, 2 ^ 52 ≤ m ∧ 1 ≤ scale ∧ number = .finite negative m scale := by
    split at fitted
    · exact .inl fitted
    · exact .inr ⟨m, q, mantissa, exponent, fitted⟩
  rw [of_ratio_whole negative positive]
  simp only [scale, scale_down_coarse]
  -- Rounding up may lead to a mantissa of 54 bits, which is moved down by one.
  by_cases carried : roundHalfEven n (2 ^ (shift + 1)) = Nat.pow 2 53
  · rw [if_pos carried]
    exact either (Nat.le_refl _) (Nat.le_add_left 1 (shift + 1)) rfl
  · rw [if_neg carried]
    exact either least (Nat.le_add_left 1 shift) rfl

/-- A mantissa with a power of two that is whole is their product. -/
theorem to_int_coarse (m scale : Nat) :
    (Binary64.finite false m (scale : Int)).toInt? = some ((m * 2 ^ scale : Nat) : Int) := by
  have whole : (scale : Int) ≥ 0 := Int.natCast_nonneg scale
  simp [toInt?, whole]

/-- A mantissa that was moved up by as many bits as its exponent moves down is the number itself. -/
theorem to_int_fine (n missing : Nat) :
    (Binary64.finite false (n * 2 ^ missing) (-(missing : Int))).toInt? = some (n : Int) := by
  cases missing with
  | zero => simpa using to_int_coarse n 0
  | succ missing =>
    have below : ¬ -((missing + 1 : Nat) : Int) ≥ 0 := by omega
    rw [toInt?, if_neg below, Int.neg_neg, Int.toNat_natCast, Nat.pow_eq, Nat.mul_mod_left, if_pos rfl,
      Nat.mul_div_cancel _ (Nat.two_pow_pos _)]
    rfl

/-- A mantissa of zero is zero, whatever the exponent is. -/
theorem to_int_zero (q : Int) : (Binary64.finite false 0 q).toInt? = some ((0 : Nat) : Int) := by
  simp [toInt?]

/-- A double that is a whole number is safe up to the greatest safe number. -/
theorem safe_of_to_int {number : Binary64} {n : Nat} (stands : number.toInt? = some (n : Int)) :
    number.safe? = if n ≤ maxSafe then some (n : Int) else none := by
  rw [safe?, stands, Option.filter_some, Int.natAbs_natCast]
  simp

/-- As a double, a whole number stands for an integer that is told apart from all others exactly if it
is below `2 ^ 53`, and then it stands for itself. -/
theorem safe_of_ratio {n : Nat} (positive : n ≠ 0) :
    (ofRatio false n 1).safe? = if n ≤ maxSafe then some (n : Int) else none := by
  have bits : 2 ^ n.log2 ≤ n := Nat.log2_self_le positive
  rcases length_cases n with ⟨shift, long⟩ | ⟨missing, short⟩
  · have least : 2 ^ 53 ≤ n := by
      rw [long] at bits
      exact Nat.le_trans (Nat.pow_le_pow_right (by decide) (Nat.le_add_right 53 shift)) bits
    have beyond {size : Nat} (large : 2 ^ 53 ≤ size) : ¬ size ≤ maxSafe :=
      Nat.not_le_of_lt (Nat.lt_of_lt_of_le (by decide) large)
    rw [if_neg (beyond least)]
    rcases of_ratio_coarse false long with infinite | ⟨m, scale, mantissa, exponent, finite⟩
    · rw [infinite]
      rfl
    · have large : 2 ^ 53 ≤ m * 2 ^ scale :=
        calc 2 ^ 53 = 2 ^ 52 * 2 ^ 1 := rfl
          _ ≤ m * 2 ^ scale := Nat.mul_le_mul mantissa (Nat.pow_le_pow_right (by decide) exponent)
      rw [finite, safe_of_to_int (to_int_coarse m scale), if_neg (beyond large)]
  · rw [of_ratio_exact false positive short]
    exact safe_of_to_int (to_int_fine n missing)

/-- Ten binary digits are worth more than three decimal ones. -/
theorem ten_pow_le_two_pow {decimal binary : Nat} (fewer : 10 * decimal ≤ 3 * binary) :
    10 ^ decimal ≤ 2 ^ binary := by
  have powers : (10 ^ decimal) ^ 10 ≤ (2 ^ binary) ^ 10 :=
    calc (10 ^ decimal) ^ 10 = 10 ^ (10 * decimal) := by rw [← Nat.pow_mul, Nat.mul_comm]
      _ ≤ 10 ^ (3 * binary) := Nat.pow_le_pow_right (by decide) fewer
      _ = (10 ^ 3) ^ binary := Nat.pow_mul ..
      _ ≤ (2 ^ 10) ^ binary := Nat.pow_le_pow_left (by decide) binary
      _ = (2 ^ binary) ^ 10 := by rw [← Nat.pow_mul, ← Nat.pow_mul, Nat.mul_comm]
  exact (Nat.pow_le_pow_iff_left (by decide)).mp powers

/-- And three binary digits are worth less than one decimal digit. -/
theorem two_pow_le_ten_pow {binary decimal : Nat} (more : binary ≤ 3 * decimal) :
    2 ^ binary ≤ 10 ^ decimal :=
  calc 2 ^ binary ≤ 2 ^ (3 * decimal) := Nat.pow_le_pow_right (by decide) more
    _ = (2 ^ 3) ^ decimal := Nat.pow_mul ..
    _ ≤ 10 ^ decimal := Nat.pow_le_pow_left (by decide) decimal

/-- A ratio far above the greatest double is infinite: its exponent is too large however its mantissa is
rounded. -/
theorem of_ratio_infinite (negative : Bool) {num den places : Nat} (positive : den ≠ 0)
    (far : 400 ≤ places) (huge : 10 ^ places * den ≤ num) :
    ofRatio negative num den = .infinite negative := by
  have some : num ≠ 0 := by
    have least := Nat.mul_pos (Nat.pow_pos (by decide) : 0 < 10 ^ places) (Nat.pos_of_ne_zero positive)
    omega
  have longer : Nat.log2 den + 3 * places ≤ Nat.log2 num := by
    rw [Nat.le_log2 some, Nat.pow_add, Nat.mul_comm]
    calc 2 ^ (3 * places) * 2 ^ Nat.log2 den ≤ 10 ^ places * den :=
          Nat.mul_le_mul (two_pow_le_ten_pow (Nat.le_refl _)) (Nat.log2_self_le positive)
      _ ≤ num := huge
  unfold ofRatio
  simp only [some, positive, decide_false, Bool.or_self, Bool.false_eq_true, if_false]
  rw [if_pos]
  split <;> split <;> split <;> omega

/-- Less than half is rounded to nothing. -/
theorem round_half_even_zero {num den : Nat} (small : 2 * num < den) : roundHalfEven num den = 0 := by
  have less : num < den := by omega
  rw [roundHalfEven, Nat.div_eq_of_lt less, Nat.mod_eq_of_lt less, if_neg]
  simp [Nat.le_of_lt small]

/-- So is what is far less than half after a shift. -/
theorem round_half_even_shifted {num den shift missing : Nat} (far : missing + 2 ≤ shift)
    (some : num ≠ 0) (tiny : 2 ^ shift * num ≤ den) : roundHalfEven (num * 2 ^ missing) den = 0 := by
  refine round_half_even_zero (Nat.lt_of_lt_of_le ?_ tiny)
  have powers : 2 ^ missing * 2 < 2 ^ shift := by
    rw [← Nat.pow_succ]
    exact Nat.pow_lt_pow_right (by decide) (by omega)
  calc 2 * (num * 2 ^ missing) = 2 ^ missing * 2 * num := by ac_rfl
    _ < 2 ^ shift * num := Nat.mul_lt_mul_of_pos_right powers (Nat.pos_of_ne_zero some)

/-- A ratio far below the least double is rounded to zero: its exponent is the least one, and by that its
mantissa is less than half. -/
theorem of_ratio_zero (negative : Bool) {num den places : Nat} (far : 400 ≤ places)
    (tiny : 10 ^ places * num ≤ den) : ofRatio negative num den = .finite negative 0 (-1074) := by
  by_cases nothing : num = 0 ∨ den = 0
  · unfold ofRatio
    rw [if_pos (by simpa using nothing)]
  rw [not_or] at nothing
  obtain ⟨some, positive⟩ := nothing
  have bits : 2 ^ (3 * places) * num ≤ den :=
    Nat.le_trans (Nat.mul_le_mul_right num (two_pow_le_ten_pow (Nat.le_refl _))) tiny
  have shorter : Nat.log2 num + 3 * places ≤ Nat.log2 den := by
    rw [Nat.le_log2 positive, Nat.pow_add, Nat.mul_comm]
    exact Nat.le_trans (Nat.mul_le_mul_left _ (Nat.log2_self_le some)) bits
  have depth : (-1074 : Int) = -((1074 : Nat) : Int) := rfl
  have least {q : Int} (low : q < -1074) : (if q < -1074 then -1074 else q) = -1074 := if_pos low
  unfold ofRatio
  simp only [some, positive, decide_false, Bool.or_self, Bool.false_eq_true, if_false]
  rw [least (by split <;> omega), depth, scale_down_below num den (by decide)]
  dsimp only
  rw [round_half_even_shifted (by omega) some bits, if_neg (by decide)]
  rfl

/-- What is not computed of a decimal is what computing it would give: every decimal is the double nearest
to the ratio that it stands for. -/
theorem of_decimal_eq (negative : Bool) (digits : Nat) (exponent : Int) :
    ofDecimal negative digits exponent =
      if exponent ≥ 0 then ofRatio negative (digits * 10 ^ exponent.toNat) 1
      else ofRatio negative digits (10 ^ (-exponent).toNat) := by
  by_cases nothing : digits = 0
  · subst nothing
    rw [ofDecimal, if_pos rfl]
    split <;> simp [ofRatio]
  have above : 10 ^ (digits.log2 * 3 / 10) ≤ digits :=
    Nat.le_trans (ten_pow_le_two_pow (by omega)) (Nat.log2_self_le nothing)
  have below : digits ≤ 10 ^ (digits.log2 / 3 + 1) :=
    Nat.le_trans (Nat.le_of_lt Nat.lt_log2_self) (two_pow_le_ten_pow (by omega))
  have unit : 10 ^ (-exponent).toNat ≠ 0 := Nat.ne_of_gt (Nat.pow_pos (by decide))
  rw [ofDecimal, if_neg nothing]
  split
  · split
    · have reached : 10 ^ (digits.log2 * 3 / 10 + exponent.toNat) * 1 ≤ digits * 10 ^ exponent.toNat := by
        rw [Nat.mul_one, Nat.pow_add]
        exact Nat.mul_le_mul_right _ above
      exact (of_ratio_infinite negative Nat.one_ne_zero (by omega) reached).symm
    · have reached : 10 ^ (digits.log2 * 3 / 10 - (-exponent).toNat) * 10 ^ (-exponent).toNat ≤ digits := by
        rw [← Nat.pow_add, Nat.sub_add_cancel (by omega)]
        exact above
      exact (of_ratio_infinite negative unit (by omega) reached).symm
  · split
    · have short : 10 ^ ((-exponent).toNat - (digits.log2 / 3 + 1)) * digits ≤ 10 ^ (-exponent).toNat :=
        calc _ ≤ 10 ^ ((-exponent).toNat - (digits.log2 / 3 + 1)) * 10 ^ (digits.log2 / 3 + 1) :=
              Nat.mul_le_mul_left _ below
          _ = 10 ^ (-exponent).toNat := by rw [← Nat.pow_add, Nat.sub_add_cancel (by omega)]
      rw [if_neg (by omega)]
      exact (of_ratio_zero negative (by omega) short).symm
    · rfl

/-- The same for a decimal without a fraction and an exponent. -/
theorem safe_of_decimal (n : Nat) :
    (ofDecimal false n 0).safe? = if n ≤ maxSafe then some (n : Int) else none := by
  by_cases nothing : n = 0
  · subst nothing
    rw [ofDecimal, if_pos rfl]
    exact safe_of_to_int (to_int_zero _)
  · rw [of_decimal_eq, if_pos (Int.le_refl 0), Int.toNat_zero, Nat.pow_zero, Nat.mul_one]
    exact safe_of_ratio nothing

end Codemod.Binary64
