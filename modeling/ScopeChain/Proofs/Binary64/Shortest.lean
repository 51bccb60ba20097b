/-
Decimal numbers that round to a double.

The digits that are written of a double are a point of the first decimal grid that has one in the
interval of what rounds to it.  The grid of seventeen digits has: half a step of it is less than
the interval reaches on either side.
-/
import Mathlib.Data.Nat.Cast.Order.Field
import ScopeChain.Binary64.Shortest
import ScopeChain.Proofs.Binary64.Rounding

namespace ScopeChain
namespace Binary64

/-! ## Intervals over a denominator -/

structure Reach.Spans (r : Reach) (low middle high : ℚ) : Prop where
  pos : 0 < r.den
  low : (r.low : ℚ) / r.den = low
  middle : (r.middle : ℚ) / r.den = middle
  high : (r.high : ℚ) / r.den = high

section Spans
variable {r : Reach} {low middle high : ℚ}

theorem Reach.Spans.holds_iff (spans : r.Spans low middle high) (x : Nat) :
    r.holds x = true ↔ Within r.closed low high x := by
  have hpos : (0 : ℚ) < r.den := by exact_mod_cast spans.pos
  rw [← spans.low, ← spans.high, Reach.holds]
  cases r.closed
  · simp only [Within, Bool.false_eq_true, if_false, decide_eq_true_eq, div_lt_iff₀ hpos,
      lt_div_iff₀ hpos]
    norm_cast
  · simp only [Within, if_true, decide_eq_true_eq, div_le_iff₀ hpos, le_div_iff₀ hpos]
    norm_cast

theorem Reach.Spans.onGrid (spans : r.Spans low middle high) (s : Int) :
    (r.onGrid s).Spans (low / 10 ^ s) (middle / 10 ^ s) (high / 10 ^ s) := by
  have hscale : ∀ n : Nat, ((n * tenTo (-s).toNat : Nat) : ℚ) /
      ((r.den * tenTo s.toNat : Nat) : ℚ) = n / r.den / 10 ^ s := by
    intro n
    rcases Int.le_total 0 s with nonneg | neg
    · obtain ⟨k, rfl⟩ := Int.eq_ofNat_of_zero_le nonneg
      simp [tenTo, div_div]
    · obtain ⟨k, rfl⟩ := Int.exists_eq_neg_ofNat neg
      simp [tenTo, div_mul_eq_mul_div]
  refine ⟨Nat.mul_pos spans.pos (Nat.pow_pos (by decide)), ?_, ?_, ?_⟩
  · rw [← spans.low]
    exact hscale r.low
  · rw [← spans.middle]
    exact hscale r.middle
  · rw [← spans.high]
    exact hscale r.high

theorem Reach.holds_of_point? {x : Nat} (point : r.point? = some x) : r.holds x = true := by
  simp only [Reach.point?] at point
  split at point
  next left right =>
    cases point
    split
    · exact left
    · exact right
  next left _ =>
    cases point
    exact left
  next _ right =>
    cases point
    exact right
  next => cases point

/-- A grid offers a point, if the interval reaches farther than half a step on either side. -/
theorem Reach.Spans.exists_point (spans : r.Spans low middle high) (below : low + 1 / 2 < middle)
    (above : middle + 1 / 2 < high) : ∃ x, r.point? = some x := by
  have hpos : (0 : ℚ) < r.den := by exact_mod_cast spans.pos
  have hfloor : ((r.middle / r.den : Nat) : ℚ) ≤ middle := by
    rw [← spans.middle]
    exact Nat.cast_div_le
  have hceil : middle < (r.middle / r.den : Nat) + 1 := by
    rw [← spans.middle, div_lt_iff₀ hpos]
    rw [mul_comm]
    exact_mod_cast Nat.lt_mul_div_succ r.middle spans.pos
  have hneighbour : r.holds (r.middle / r.den) = true ∨ r.holds (r.middle / r.den + 1) = true := by
    rw [spans.holds_iff, spans.holds_iff]
    by_cases near : middle ≤ (r.middle / r.den : Nat) + 1 / 2
    · exact Or.inl (within_of_lt (by linarith) (by linarith))
    · refine Or.inr (within_of_lt ?_ ?_)
      · push_cast
        linarith
      · push_cast
        linarith
  rw [Reach.point?]
  rcases hneighbour with h | h
  · rw [h]
    cases r.holds (r.middle / r.den + 1) <;> exact ⟨_, rfl⟩
  · rw [h]
    cases r.holds (r.middle / r.den) <;> exact ⟨_, rfl⟩

/-- A number is not below the power of ten of its first place. -/
theorem Reach.Spans.places (spans : r.Spans low middle high) (small : 10 ^ (-400 : Int) ≤ middle) :
    10 ^ (r.places - 1) ≤ middle := by
  have hpos : (0 : ℚ) < r.den := by exact_mod_cast spans.pos
  have hbehind : ∀ j : Nat, r.den ≤ r.middle * tenTo (j + 1) ↔ 10 ^ (-(j + 1 : Int)) ≤ middle := by
    intro j
    have hunit : (0 : ℚ) < 10 ^ (j + 1) := by positivity
    rw [zpow_neg, inv_le_iff_one_le_mul₀ (by positivity), ← spans.middle, div_mul_eq_mul_div,
      one_le_div₀ hpos]
    norm_cast
  rw [Reach.places]
  split
  next large =>
    have hquotient : 0 < r.middle / r.den := Nat.div_pos large spans.pos
    have hlength : 0 < (Digits.ofNat (r.middle / r.den)).length := Nat.length_toDigits_pos
    rw [show ((Digits.ofNat (r.middle / r.den)).length - 1 : Int) =
      ((Digits.ofNat (r.middle / r.den)).length - 1 : Nat) by omega, zpow_natCast]
    calc (10 : ℚ) ^ ((Digits.ofNat (r.middle / r.den)).length - 1)
        ≤ (r.middle / r.den : Nat) := by exact_mod_cast (Digits.length_ofNat hquotient).1
      _ ≤ middle := by
        rw [← spans.middle]
        exact Nat.cast_div_le
  next =>
    split
    next j hj =>
      have hfound := List.find?_some hj
      rw [show -(j : Int) - 1 = -(j + 1 : Int) by ring]
      exact (hbehind j).mp (of_decide_eq_true hfound)
    next hnone =>
      have hlast := List.find?_eq_none.mp hnone 399 (by decide)
      exact absurd (decide_eq_true ((hbehind 399).mpr small)) hlast

end Spans

/-! ## The digits of a double -/

theorem spans_reach {m : Nat} (e : Int) :
    (reach m e).Spans (lowQuarters m e / 4 * 2 ^ e) (m * 2 ^ e) ((4 * m + 2) / 4 * 2 ^ e) := by
  have hscale : ∀ n : Nat,
      ((n <<< (e - 2).toNat : Nat) : ℚ) / ((1 <<< (2 - e).toNat : Nat) : ℚ) = n / 4 * 2 ^ e := by
    intro n
    rcases Int.le_total 0 (e - 2) with nonneg | neg
    · obtain ⟨k, hk⟩ := Int.eq_ofNat_of_zero_le nonneg
      obtain rfl : e = k + 2 := by omega
      rw [show ((k : Int) + 2 - 2).toNat = k by omega,
        show (2 - ((k : Int) + 2)).toNat = 0 by omega, zpow_add₀ two_ne_zero]
      simp only [Nat.shiftLeft_eq, pow_zero, zpow_natCast]
      push_cast
      ring
    · obtain ⟨k, hk⟩ := Int.exists_eq_neg_ofNat neg
      obtain rfl : e = -k + 2 := by omega
      rw [show (-(k : Int) + 2 - 2).toNat = 0 by omega,
        show (2 - (-(k : Int) + 2)).toNat = k by omega, zpow_add₀ two_ne_zero, zpow_neg]
      simp only [Nat.shiftLeft_eq, pow_zero, zpow_natCast]
      push_cast
      ring
  refine ⟨by simp [reach, Nat.shiftLeft_eq], ?_, ?_, ?_⟩
  · exact hscale _
  · rw [show (m * 2 ^ e : ℚ) = (4 * m : Nat) / 4 * 2 ^ e by push_cast; ring]
    exact hscale (4 * m)
  · rw [show ((4 * m + 2) / 4 * 2 ^ e : ℚ) = (4 * m + 2 : Nat) / 4 * 2 ^ e by push_cast; ring]
    exact hscale (4 * m + 2)

/-- Half a step of the grid of seventeen digits is less than a double reaches on either side. -/
theorem half_step_lt {m : Nat} {e p : Int} (form : Form m e)
    (pos : 0 < m) (first : (10 : ℚ) ^ (p - 1) ≤ m * 2 ^ e) :
    (lowQuarters m e / 4 * 2 ^ e + 1 / 2 * 10 ^ (p - 17) : ℚ) < m * 2 ^ e ∧
      m * 2 ^ e + 1 / 2 * 10 ^ (p - 17) < (4 * m + 2) / 4 * (2 : ℚ) ^ e := by
  have hunit : (0 : ℚ) < 2 ^ e := by positivity
  have hm : (m : ℚ) < 2 ^ 53 := by exact_mod_cast (form.below : m < 2 ^ 53)
  have hstep : (10 : ℚ) ^ (p - 17) ≤ m / 10 ^ 16 * 2 ^ e := by
    rw [show p - 17 = p - 1 - (16 : Nat) by push_cast; ring, zpow_sub₀ (by norm_num), zpow_natCast,
      div_mul_eq_mul_div]
    gcongr
  have hless : ∀ k : ℚ, m / 10 ^ 16 < k → (10 : ℚ) ^ (p - 17) < k * 2 ^ e := fun k hk =>
    hstep.trans_lt (mul_lt_mul_of_pos_right hk hunit)
  have hunits : (10 : ℚ) ^ (p - 17) < 1 * 2 ^ e := by
    refine hless 1 ?_
    rw [div_lt_one (by positivity)]
    exact hm.trans (by norm_num)
  constructor
  · by_cases hpower : m = 2 ^ 52
    · -- The interval reaches a quarter of a unit below, and the step is less than half of one.
      have hlow := mul_le_mul_of_nonneg_right (lowQuarters_cast (e := e) pos).2 hunit.le
      have hhalf := hless (1 / 2) (by rw [hpower]; norm_num)
      linarith
    · rw [lowQuarters, if_neg (fun h => hpower h.1), Nat.cast_sub (by omega)]
      push_cast
      linarith
  · linarith

/-- The shortest decimal number of a number rounds to it. -/
theorem rounds_shortest {m : Nat} {e : Int} (form : Form m e) (pos : 0 < m) :
    Rounds m e ((shortest m e).1 * 10 ^ (shortest m e).2) := by
  have hspans := spans_reach (m := m) e
  have hten : ∀ k : Int, (0 : ℚ) < 10 ^ k := fun k => by positivity
  have hsmall : (10 : ℚ) ^ (-400 : Int) ≤ m * 2 ^ e := by
    have hm : (1 : ℚ) ≤ m := by exact_mod_cast pos
    calc (10 : ℚ) ^ (-400 : Int) ≤ 2 ^ (-1074 : Int) := by
          rw [zpow_neg, zpow_neg]
          refine inv_anti₀ (by positivity) ?_
          exact_mod_cast (by decide +kernel : 2 ^ 1074 ≤ 10 ^ 400)
      _ ≤ 2 ^ e := zpow_le_zpow_right₀ one_le_two form.least
      _ ≤ m * 2 ^ e := le_mul_of_one_le_left (by positivity) hm
  obtain ⟨hbelow, habove⟩ := half_step_lt form pos (hspans.places hsmall)
  obtain ⟨x, hx⟩ : ∃ x, ((reach m e).onGrid ((reach m e).places - 17)).point? = some x := by
    refine (hspans.onGrid _).exists_point ?_ ?_
    · rw [lt_div_iff₀ (hten _), add_mul, div_mul_cancel₀ _ (hten _).ne']
      exact hbelow
    · rw [lt_div_iff₀ (hten _), add_mul, div_mul_cancel₀ _ (hten _).ne']
      exact habove
  rw [shortest]
  generalize hf : List.findSome? _ (List.range 17) = found
  obtain ⟨y, rfl⟩ : ∃ y, found = some y := by
    rw [← Option.isSome_iff_exists, ← hf, List.findSome?_isSome_iff]
    refine ⟨16, by decide, ?_⟩
    rw [Option.isSome_map]
    exact Option.isSome_iff_exists.mpr ⟨x, hx⟩
  obtain ⟨k, -, hk⟩ := List.exists_of_findSome?_eq_some hf
  obtain ⟨z, hz, rfl⟩ := Option.map_eq_some_iff.mp hk
  have hwithin := ((hspans.onGrid _).holds_iff z).mp (Reach.holds_of_point? hz)
  rw [← within_mul (hten _), div_mul_cancel₀ _ (hten _).ne', div_mul_cancel₀ _ (hten _).ne']
    at hwithin
  exact hwithin

end Binary64
end ScopeChain
