/-
Rounding to the nearest double.

What rounds to a positive double is an interval: on either side it reaches halfway to the next
double, and it has its ends exactly if the significand is even.  A quotient in that interval is
rounded to the double, whichever of the exponents the logarithms leave is tried first.
-/
import Mathlib.Algebra.Order.Field.Power
import Mathlib.Data.Rat.Cast.Order
import Mathlib.Tactic.FieldSimp
import Mathlib.Tactic.Linarith
import Mathlib.Tactic.NormNum
import Mathlib.Tactic.Positivity
import Mathlib.Tactic.Ring
import ScopeChain.Binary64.Basic

namespace ScopeChain

theorem Digits.length_ofNat {n : Nat} (pos : 0 < n) :
    10 ^ ((ofNat n).length - 1) ≤ n ∧ n < 10 ^ (ofNat n).length := by
  have hlength : 0 < (ofNat n).length := Nat.length_toDigits_pos
  constructor
  · rcases Nat.eq_or_lt_of_le hlength with h | h
    · rw [← h]
      exact pos
    · have hless : 0 < (ofNat n).length - 1 := by omega
      by_contra hlt
      have := (Nat.length_toDigits_le_iff (by decide) hless).mpr (Nat.not_le.mp hlt)
      rw [ofNat] at *
      omega
  · exact (Nat.length_toDigits_le_iff (by decide) hlength).mp le_rfl

namespace Binary64

/-! ## Intervals -/

def Within (closed : Bool) (low high x : ℚ) : Prop :=
  if closed then low ≤ x ∧ x ≤ high else low < x ∧ x < high

section Within
variable {closed : Bool} {low high x c : ℚ}

theorem Within.le (within : Within closed low high x) : low ≤ x ∧ x ≤ high := by
  cases closed
  · exact ⟨within.1.le, within.2.le⟩
  · exact within

theorem within_of_lt (above : low < x) (below : x < high) : Within closed low high x := by
  cases closed
  · exact ⟨above, below⟩
  · exact ⟨above.le, below.le⟩

theorem Within.mono {low' high' : ℚ} (within : Within closed low high x) (below : low' ≤ low)
    (above : high ≤ high') : Within closed low' high' x := by
  cases closed
  · exact ⟨below.trans_lt within.1, within.2.trans_le above⟩
  · exact ⟨below.trans within.1, within.2.trans above⟩

theorem within_mul (pos : 0 < c) :
    Within closed (low * c) (high * c) (x * c) ↔ Within closed low high x := by
  simp only [Within, mul_le_mul_iff_left₀ pos, mul_lt_mul_iff_left₀ pos]

end Within

/-! ## Rounding a quotient to a natural number -/

/-- Whether a natural number is the nearest to a number, and the even one from halfway. -/
def Nearest (n : Nat) (x : ℚ) : Prop := Within (n % 2 = 0) (n - 1 / 2) (n + 1 / 2) x

theorem roundQuotient_of_nearest {num den n : Nat} (pos : 0 < den)
    (nearest : Nearest n (num / den)) : roundQuotient num den = n := by
  have hden : (0 : ℚ) < den := by exact_mod_cast pos
  -- Multiplied by twice the denominator, the bounds are between natural numbers.
  have hscaled : Within (n % 2 = 0) ((2 * n - 1 : ℚ) * den) ((2 * n + 1 : ℚ) * den)
      (2 * num : ℚ) := by
    have h := (within_mul (c := 2 * den) (by positivity)).mpr nearest
    convert h using 1 <;> field_simp
  have hlow : 2 * n * den ≤ 2 * num + den := by
    have h := hscaled.le.1
    exact_mod_cast (by linarith : (2 * n * den : ℚ) ≤ 2 * num + den)
  have hhigh : 2 * num ≤ (2 * n + 1) * den := by exact_mod_cast hscaled.le.2
  have hodd : n % 2 = 1 → 2 * n * den < 2 * num + den ∧ 2 * num < (2 * n + 1) * den := by
    intro odd
    rw [Within, decide_eq_false (by omega)] at hscaled
    have h := hscaled.1
    exact ⟨by exact_mod_cast (by linarith : (2 * n * den : ℚ) < 2 * num + den),
      by exact_mod_cast hscaled.2⟩
  have hdiv : den * (num / den) + num % den = num := Nat.div_add_mod num den
  have hmod : num % den < den := Nat.mod_lt num pos
  rw [roundQuotient]
  generalize num / den = q at hdiv ⊢
  generalize num % den = r at hdiv hmod ⊢
  have hle : q ≤ n := by
    by_contra hlt
    have h : den * (n + 1) ≤ den * q := Nat.mul_le_mul_left den (by omega)
    linarith
  have hge : n ≤ q + 1 := by
    by_contra hlt
    have h : den * (q + 2) ≤ den * n := Nat.mul_le_mul_left den (by omega)
    linarith
  obtain rfl | rfl : n = q ∨ n = q + 1 := by omega
  · rw [if_neg]
    rintro (h | ⟨h, odd⟩)
    · linarith
    · have := (hodd odd).2
      linarith
  · rw [if_pos]
    by_cases h : den < 2 * r
    · exact Or.inl h
    · have heq : 2 * r = den := by linarith
      refine Or.inr ⟨heq, ?_⟩
      by_contra even
      have := (hodd (by omega)).1
      linarith

/-! ## Doubles -/

/-- What rounds to a number is not below this many quarters of its unit: below a power of two the
next number is half as far away. -/
def lowQuarters (m : Nat) (e : Int) : Nat :=
  if m = 2 ^ 52 ∧ leastExponent < e then 4 * m - 1 else 4 * m - 2

def Rounds (m : Nat) (e : Int) (x : ℚ) : Prop :=
  Within (m % 2 = 0) (lowQuarters m e / 4 * 2 ^ e) ((4 * m + 2) / 4 * 2 ^ e) x

section Rounds
variable {s : Bool} {m : Nat} {e : Int} {x : ℚ}

theorem lowQuarters_cast (pos : 0 < m) :
    (4 * m - 2 : ℚ) ≤ lowQuarters m e ∧ (lowQuarters m e : ℚ) ≤ 4 * m - 1 := by
  rw [lowQuarters]
  split
  · rw [Nat.cast_sub (by omega)]
    push_cast
    exact ⟨by linarith, le_rfl⟩
  · rw [Nat.cast_sub (by omega)]
    push_cast
    exact ⟨le_rfl, by linarith⟩

/-- Half a unit below and above is what rounds to a number at most. -/
theorem Rounds.le (rounds : Rounds m e x) (pos : 0 < m) :
    (m - 1 / 2) * 2 ^ e ≤ x ∧ x ≤ (m + 1 / 2) * 2 ^ e := by
  obtain ⟨hlow, hhigh⟩ := Within.le rounds
  have hunit : (0 : ℚ) < 2 ^ e := by positivity
  have h := mul_le_mul_of_nonneg_right (lowQuarters_cast (e := e) pos).1 hunit.le
  exact ⟨by linarith, by linarith⟩

theorem Rounds.pos (rounds : Rounds m e x) (pos : 0 < m) : 0 < x := by
  have hm : (1 : ℚ) ≤ m := by exact_mod_cast pos
  have h : (0 : ℚ) < (m - 1 / 2) * 2 ^ e := mul_pos (by linarith) (by positivity)
  exact h.trans_le (rounds.le pos).1

end Rounds

/-! ## Rounding a quotient to a double -/

theorem scale_spec (num : Nat) {den : Nat} (pos : 0 < den) (e : Int) :
    0 < (scale num den e).2 ∧
      ((scale num den e).1 : ℚ) / (scale num den e).2 = num / den / 2 ^ e := by
  rw [scale]
  split
  next nonneg =>
    obtain ⟨k, rfl⟩ := Int.eq_ofNat_of_zero_le nonneg
    simp only [Int.toNat_natCast, Nat.shiftLeft_eq, zpow_natCast]
    refine ⟨by positivity, ?_⟩
    push_cast
    rw [div_div]
  next neg =>
    obtain ⟨k, rfl⟩ := Int.exists_eq_neg_ofNat (Int.le_of_lt (Int.not_le.mp neg))
    simp only [neg_neg, Int.toNat_natCast, Nat.shiftLeft_eq, zpow_neg, zpow_natCast]
    refine ⟨pos, ?_⟩
    push_cast
    field_simp

/-- Whether an exponent is that of a number: the number has 53 binary places before the point in
units of it, or less if the exponent is least. -/
structure Binade (x : ℚ) (e : Int) : Prop where
  least : leastExponent ≤ e
  below : x < 2 ^ (e + 53)
  above : e = leastExponent ∨ 2 ^ (e + 52) ≤ x

theorem quotient_bounds {num den : Nat} (hnum : num ≠ 0) (hden : den ≠ 0) :
    (2 : ℚ) ^ ((num.log2 : Int) - den.log2 - 1) ≤ num / den ∧
      (num / den : ℚ) < 2 ^ ((num.log2 : Int) - den.log2 + 1) := by
  have hpos : (0 : ℚ) < den := by exact_mod_cast Nat.pos_of_ne_zero hden
  have hn : (2 : ℚ) ^ num.log2 ≤ num := by exact_mod_cast Nat.log2_self_le hnum
  have hn' : (num : ℚ) < 2 ^ (num.log2 + 1) := by exact_mod_cast Nat.lt_log2_self
  have hd : (2 : ℚ) ^ den.log2 ≤ den := by exact_mod_cast Nat.log2_self_le hden
  have hd' : (den : ℚ) < 2 ^ (den.log2 + 1) := by exact_mod_cast Nat.lt_log2_self
  constructor
  · rw [le_div_iff₀ hpos]
    calc (2 : ℚ) ^ ((num.log2 : Int) - den.log2 - 1) * den
        ≤ 2 ^ ((num.log2 : Int) - den.log2 - 1) * 2 ^ (den.log2 + 1) := by gcongr
      _ = 2 ^ num.log2 := by
        rw [← zpow_natCast, ← zpow_natCast, ← zpow_add₀ two_ne_zero]
        push_cast
        ring_nf
      _ ≤ num := hn
  · rw [div_lt_iff₀ hpos]
    calc (num : ℚ) < 2 ^ (num.log2 + 1) := hn'
      _ = 2 ^ ((num.log2 : Int) - den.log2 + 1) * 2 ^ den.log2 := by
        rw [← zpow_natCast, ← zpow_natCast, ← zpow_add₀ two_ne_zero]
        push_cast
        ring_nf
      _ ≤ 2 ^ ((num.log2 : Int) - den.log2 + 1) * den := by gcongr

/-- A positive quotient is rounded in units of its exponent. -/
theorem ofRatio_eq (s : Bool) {num den : Nat} (hnum : num ≠ 0) (hden : 0 < den) :
    ∃ e, Binade (num / den) e ∧
      ofRatio s num den =
        pack s (roundQuotient (scale num den e).1 (scale num den e).2) e := by
  obtain ⟨hlow, hhigh⟩ := quotient_bounds hnum hden.ne'
  set first := max ((num.log2 : Int) - den.log2 - 53) leastExponent with hfirst
  obtain ⟨hpos, hscaled⟩ := scale_spec num hden first
  have hunit : (0 : ℚ) < 2 ^ first := by positivity
  have hbig : twoTo 53 ≤ (scale num den first).1 / (scale num den first).2 ↔
      (2 : ℚ) ^ (first + 53) ≤ num / den := by
    rw [Nat.le_div_iff_mul_le hpos, zpow_add₀ two_ne_zero, mul_comm (2 ^ first : ℚ),
      ← le_div_iff₀ hunit, ← hscaled, le_div_iff₀ (by exact_mod_cast hpos)]
    norm_cast
  have hleast : leastExponent ≤ first := le_max_right _ _
  rw [ofRatio, if_neg hnum]
  simp only [← hfirst]
  split
  next big =>
    refine ⟨first + 1, ⟨by omega, hhigh.trans_le ?_, Or.inr ?_⟩, rfl⟩
    · refine zpow_le_zpow_right₀ one_le_two ?_
      omega
    · rw [show first + 1 + 52 = first + 53 by ring]
      exact hbig.mp big
  next small =>
    refine ⟨first, ⟨hleast, lt_of_not_ge (mt hbig.mpr small), ?_⟩, rfl⟩
    rcases max_choice ((num.log2 : Int) - den.log2 - 53) leastExponent with h | h
    · refine Or.inr (le_trans ?_ hlow)
      refine zpow_le_zpow_right₀ one_le_two ?_
      omega
    · exact Or.inl (hfirst.trans h)

/-- What rounds to a number has its exponent, or the one below if the number is the least of that
exponent. -/
theorem Rounds.binade {m : Nat} {e k : Int} {x : ℚ} (rounds : Rounds m e x)
    (form : Form m e) (pos : 0 < m) (binade : Binade x k) :
    k = e ∨ m = 2 ^ 52 ∧ leastExponent < e ∧ k = e - 1 := by
  obtain ⟨hbelow, hleast, -, hnormal⟩ : m < 2 ^ 53 ∧ leastExponent ≤ e ∧ e ≤ greatestExponent ∧
    (2 ^ 52 ≤ m ∨ e = leastExponent) := ⟨form.below, form.least, form.greatest, form.normal⟩
  obtain ⟨hlow, hhigh⟩ := rounds.le pos
  have hunit : (0 : ℚ) < 2 ^ e := by positivity
  have hsplit : ∀ n : Int, (2 : ℚ) ^ (e + n) = 2 ^ n * 2 ^ e := fun n => by
    rw [zpow_add₀ two_ne_zero, mul_comm]
  have hnot : ¬ e < k := by
    intro hlt
    have habove : (2 : ℚ) ^ (k + 52) ≤ x := binade.above.resolve_left (by omega)
    have hpower : (2 : ℚ) ^ (e + 53) ≤ 2 ^ (k + 52) :=
      zpow_le_zpow_right₀ one_le_two (by omega)
    have hm : (m + 1 / 2 : ℚ) < 2 ^ (53 : Int) := by
      have h : (m + 1 : ℚ) ≤ 2 ^ 53 := by exact_mod_cast hbelow
      norm_num at h ⊢
      linarith
    rw [hsplit] at hpower
    have h := mul_lt_mul_of_pos_right hm hunit
    linarith
  by_cases heq : k = e
  · exact Or.inl heq
  · have hlt : leastExponent < e := by
      have := binade.least
      omega
    have hm : 2 ^ 52 ≤ m := hnormal.resolve_right (by omega)
    have hpower : ∀ n : Int, k + 53 ≤ e + n → x < 2 ^ n * 2 ^ e := fun n hn => by
      rw [← hsplit]
      exact binade.below.trans_le (zpow_le_zpow_right₀ one_le_two hn)
    have hnear : ∀ n : Int, x < 2 ^ n * 2 ^ e → (m - 1 / 2 : ℚ) < 2 ^ n := fun n h =>
      lt_of_mul_lt_mul_right (hlow.trans_lt h) hunit.le
    have hm52 : m = 2 ^ 52 := by
      by_contra hne
      have h := hnear 52 (hpower 52 (by omega))
      have habove : (2 ^ 52 + 1 : ℚ) ≤ m := by exact_mod_cast Nat.lt_of_le_of_ne hm (Ne.symm hne)
      norm_num at h
      linarith
    refine Or.inr ⟨hm52, hlt, ?_⟩
    by_contra hne
    have h := hnear 51 (hpower 51 (by omega))
    rw [hm52] at h
    norm_num at h

theorem ofRatio_of_rounds {s : Bool} {m : Nat} {e : Int} {num den : Nat} (hden : 0 < den)
    (form : Form m e) (pos : 0 < m) (rounds : Rounds m e (num / den)) :
    ofRatio s num den = .finite s m e form := by
  have hnum : num ≠ 0 := by
    rintro rfl
    have h := rounds.pos pos
    rw [Nat.cast_zero, zero_div] at h
    exact lt_irrefl _ h
  obtain ⟨k, hbinade, heq⟩ := ofRatio_eq s hnum hden
  obtain ⟨hpos, hscaled⟩ := scale_spec num hden k
  have hunit : (0 : ℚ) < 2 ^ k := by positivity
  have hx : (num / den : ℚ) = num / den / 2 ^ k * 2 ^ k := (div_mul_cancel₀ _ hunit.ne').symm
  rw [heq]
  rcases rounds.binade form pos hbinade with rfl | ⟨rfl, hlt, rfl⟩
  · have hnearest : Nearest m ((scale num den k).1 / (scale num den k).2) := by
      rw [hscaled]
      rw [Rounds, hx, within_mul hunit] at rounds
      have h := (lowQuarters_cast (e := k) pos).1
      exact rounds.mono (by linarith) (by linarith)
    rw [roundQuotient_of_nearest hpos hnearest, pack]
    simp only [if_neg form.below.ne, dif_pos form]
  · have hnearest : Nearest (2 ^ 53) ((scale num den (e - 1)).1 / (scale num den (e - 1)).2) := by
      have hbelow := hbinade.below
      rw [hscaled]
      rw [Rounds, show (2 : ℚ) ^ e = 2 * 2 ^ (e - 1) by rw [← zpow_one_add₀ two_ne_zero]; ring_nf,
        hx, ← mul_assoc, ← mul_assoc, within_mul hunit] at rounds
      rw [zpow_add₀ two_ne_zero, mul_comm, hx] at hbelow
      have hupper := lt_of_mul_lt_mul_right hbelow hunit.le
      have hlower := rounds.le.1
      rw [lowQuarters, if_pos ⟨rfl, hlt⟩] at hlower
      norm_num at hlower hupper
      rw [Nearest, Within, if_pos (by decide)]
      push_cast
      exact ⟨by linarith, by linarith⟩
    rw [roundQuotient_of_nearest hpos hnearest, pack]
    have htwo : 2 ^ 53 = twoTo 53 := rfl
    have hexp : e - 1 + 1 = e := by ring
    have hform : Form (twoTo 52) e := form
    simp only [if_pos htwo, hexp, dif_pos hform]
    rfl

/-! ## Rounding a decimal number to a double -/

/-- What rounds to a number is neither so large nor so small that it is taken for infinite or
zero. -/
theorem Rounds.bounds {m : Nat} {e : Int} {x : ℚ} (rounds : Rounds m e x)
    (form : Form m e) (pos : 0 < m) :
    10 ^ (-331 : Int) < x ∧ x < 10 ^ (310 : Int) := by
  obtain ⟨hbelow, hleast, hgreatest, -⟩ := form
  obtain ⟨hlow, hhigh⟩ := rounds.le pos
  have hm : (1 : ℚ) ≤ m := by exact_mod_cast pos
  have hm' : (m + 1 / 2 : ℚ) ≤ 2 ^ 53 := by
    have h : (m + 1 : ℚ) ≤ 2 ^ 53 := by exact_mod_cast hbelow
    linarith
  constructor
  · calc (10 : ℚ) ^ (-331 : Int) < 2 ^ (-1075 : Int) := by
          rw [zpow_neg, zpow_neg]
          refine inv_strictAnti₀ (by positivity) ?_
          exact_mod_cast (by decide +kernel : 2 ^ 1075 < 10 ^ 331)
      _ = 1 / 2 * 2 ^ (-1074 : Int) := by
          rw [show (-1075 : Int) = -1 + -1074 by ring, zpow_add₀ two_ne_zero, zpow_neg_one, one_div]
      _ ≤ (m - 1 / 2) * 2 ^ e := by
          refine mul_le_mul (by linarith) (zpow_le_zpow_right₀ one_le_two hleast) ?_ ?_
          · positivity
          · linarith
      _ ≤ x := hlow
  · calc x ≤ (m + 1 / 2) * 2 ^ e := hhigh
      _ ≤ 2 ^ 53 * 2 ^ (971 : Int) :=
          mul_le_mul hm' (zpow_le_zpow_right₀ one_le_two hgreatest) (by positivity) (by positivity)
      _ < 10 ^ (310 : Int) := by exact_mod_cast (by decide +kernel : 2 ^ 53 * 2 ^ 971 < 10 ^ 310)

/-- What rounds to a number is rounded to it. -/
theorem ofDecimal_of_rounds {s : Bool} {m : Nat} {e : Int} {digits : Nat} {exponent : Int}
    (form : Form m e) (pos : 0 < m)
    (rounds : Rounds m e (digits * 10 ^ exponent)) :
    ofDecimal s digits exponent = .finite s m e form := by
  obtain ⟨hsmall, hlarge⟩ := rounds.bounds form pos
  have hdigits : 0 < digits := by
    have h := pos_of_mul_pos_left (rounds.pos pos) (by positivity)
    exact_mod_cast h
  obtain ⟨hleast, hmost⟩ := Digits.length_ofNat hdigits
  have hunit : (0 : ℚ) < 10 ^ exponent := by positivity
  have hten : (10 : ℚ) ≠ 0 := by norm_num
  have hlength : 0 < (Digits.ofNat digits).length := Nat.length_toDigits_pos
  have hfirst :
      (10 : ℚ) ^ ((Digits.ofNat digits).length + exponent - 1) ≤ digits * 10 ^ exponent := by
    rw [show ((Digits.ofNat digits).length + exponent - 1 : Int) =
      ((Digits.ofNat digits).length - 1 : Nat) + exponent by omega, zpow_add₀ hten, zpow_natCast]
    gcongr
    exact_mod_cast hleast
  have hlast : (digits * 10 ^ exponent : ℚ) < 10 ^ ((Digits.ofNat digits).length + exponent) := by
    rw [zpow_add₀ hten, zpow_natCast]
    gcongr
    exact_mod_cast hmost
  rw [ofDecimal, if_neg hdigits.ne', if_neg, if_neg]
  · split
    next nonneg =>
      obtain ⟨k, rfl⟩ := Int.eq_ofNat_of_zero_le nonneg
      refine ofRatio_of_rounds Nat.one_pos form pos ?_
      simpa [tenTo] using rounds
    next neg =>
      obtain ⟨k, rfl⟩ := Int.exists_eq_neg_ofNat (Int.le_of_lt (Int.not_le.mp neg))
      refine ofRatio_of_rounds (Nat.pow_pos (by decide)) form pos ?_
      simpa [tenTo, div_eq_mul_inv] using rounds
  · intro h
    have := (zpow_lt_zpow_iff_right₀ (by norm_num : (1 : ℚ) < 10)).mp (hsmall.trans hlast)
    omega
  · intro h
    have := (zpow_lt_zpow_iff_right₀ (by norm_num : (1 : ℚ) < 10)).mp (hfirst.trans_lt hlarge)
    omega

end Binary64
end ScopeChain
