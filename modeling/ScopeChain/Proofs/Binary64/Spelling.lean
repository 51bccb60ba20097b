/-
The text of a double.

The shortest digits of a double are written with a point, or with a point and a power of ten.
Either way they are spelled as a number of the same value, so what is read is what rounds to the
double.
-/
import Mathlib.Data.List.TakeWhile
import ScopeChain.Proofs.Binary64.Literal
import ScopeChain.Proofs.Binary64.Shortest

namespace ScopeChain

/-! ## Values of digits -/

namespace Digits

theorem toNat_append (ds es : List Char) :
    toNat (ds ++ es) = toNat ds * 10 ^ es.length + toNat es := by
  rw [toNat, Nat.ofDigitChars_append, Nat.ofDigitChars_eq_ofDigitChars_zero, mul_comm]
  rfl

theorem toNat_zeros (n : Nat) : toNat (List.replicate n '0') = 0 := by
  rw [toNat, Nat.ofDigitChars_replicate_zero, mul_zero]

end Digits

namespace Decimal

def Literal.exponent (l : Literal) : Int :=
  match l.power with
  | none => 0
  | some (true, ds) => -(Digits.toNat ds : Int)
  | some (false, ds) => Digits.toNat ds

def Literal.value (l : Literal) : ℚ :=
  Digits.toNat (l.whole ++ l.fraction) * 10 ^ (l.exponent - l.fraction.length)

theorem Literal.toBinary64_of_rounds {l : Literal} {m : Nat} {e : Int}
    (form : Binary64.Form m e) (pos : 0 < m)
    (rounds : Binary64.Rounds m e l.value) : l.toBinary64 = .finite l.negative m e form :=
  Binary64.ofDecimal_of_rounds form pos rounds

end Decimal

namespace Binary64

open Decimal (Literal Whole)

/-- Whether a text is that of a number, no integer, of this magnitude, with or without a minus
sign. -/
def Shows (cs : List Char) (x : ℚ) : Prop :=
  ∀ negative, ∃ l : Literal, l.Spelled ∧ l.isInteger = false ∧ l.negative = negative ∧
    l.spell = (if negative then ['-'] else []) ++ cs ∧ l.value = x

structure Leading (ds : List Char) : Prop where
  some : ds ≠ []
  lead : ∀ rest, ds ≠ '0' :: rest
  digits : ∀ c ∈ ds, c.isDigit = true

section Layout
variable {ds : List Char}

theorem Leading.whole (leading : Leading ds) : Whole ds :=
  ⟨leading.some, fun rest h => absurd h (leading.lead rest), leading.digits⟩

theorem Leading.append (leading : Leading ds) {es : List Char}
    (digits : ∀ c ∈ es, c.isDigit = true) : Leading (ds ++ es) := by
  obtain ⟨d, rest, rfl⟩ := List.exists_cons_of_ne_nil leading.some
  refine ⟨List.cons_ne_nil _ _, fun r h => ?_, fun c hc => ?_⟩
  · exact leading.lead rest (by rw [(List.cons.inj h).1])
  · exact (List.mem_append.mp hc).elim (leading.digits c) (digits c)

theorem Leading.take (leading : Leading ds) {n : Nat} (pos : 0 < n) : Leading (ds.take n) := by
  obtain ⟨d, rest, rfl⟩ := List.exists_cons_of_ne_nil leading.some
  obtain ⟨n, rfl⟩ := Nat.exists_eq_add_of_lt pos
  simp only [Nat.zero_add, List.take_succ_cons]
  refine ⟨List.cons_ne_nil _ _, fun r h => ?_, fun c hc => ?_⟩
  · exact leading.lead rest (by rw [(List.cons.inj h).1])
  · exact leading.digits c (List.mem_of_mem_take (i := n + 1) hc)

theorem isDigit_of_mem_zeros {n : Nat} {c : Char} (h : c ∈ List.replicate n '0') :
    c.isDigit = true := by
  rw [List.eq_of_mem_replicate h]
  rfl

theorem shows_point {whole fraction : List Char} {x : ℚ} (hwhole : Whole whole)
    (hdigits : ∀ c ∈ fraction, c.isDigit = true) (some : fraction ≠ [])
    (value : Digits.toNat (whole ++ fraction) * (10 : ℚ) ^ (-(fraction.length : Int)) = x) :
    Shows (whole ++ '.' :: fraction) x := by
  intro negative
  refine ⟨⟨negative, whole, fraction, none⟩, ⟨hwhole, hdigits, fun _ h => nomatch h⟩, ?_, rfl, ?_,
    ?_⟩
  · simp [Literal.isInteger, some]
  · obtain ⟨d, rest, rfl⟩ := List.exists_cons_of_ne_nil some
    simp [Literal.spell, Decimal.fractionText, Decimal.powerText]
  · simpa [Literal.value, Literal.exponent] using value

theorem shows_positional (leading : Leading ds) (p : Int) :
    Shows (positional ds p) (Digits.toNat ds * 10 ^ (p - ds.length)) := by
  rw [positional]
  split
  next small =>
    obtain ⟨k, rfl⟩ := Int.exists_eq_neg_ofNat small
    have hzeros : Digits.toNat (['0'] ++ (List.replicate k '0' ++ ds)) = Digits.toNat ds := by
      rw [← List.append_assoc, Digits.toNat_append,
        show ['0'] ++ List.replicate k '0' = List.replicate (k + 1) '0' from rfl,
        Digits.toNat_zeros, zero_mul, zero_add]
    rw [show (-(-(k : Int))).toNat = k by omega]
    show Shows (['0'] ++ '.' :: (List.replicate k '0' ++ ds)) _
    refine shows_point (Decimal.whole_ofNat 0) ?_ ?_ ?_
    · intro c hc
      exact (List.mem_append.mp hc).elim isDigit_of_mem_zeros (leading.digits c)
    · exact fun h => leading.some (List.append_eq_nil_iff.mp h).2
    · rw [hzeros, List.length_append, List.length_replicate]
      push_cast
      rw [neg_add, sub_eq_add_neg]
  next large =>
    obtain ⟨n, rfl⟩ := Int.eq_ofNat_of_zero_le (Int.le_of_lt (Int.not_le.mp large))
    simp only [Int.toNat_natCast]
    split
    next short =>
      obtain ⟨k, rfl⟩ := Nat.exists_eq_add_of_le short
      rw [Nat.add_sub_cancel_left]
      refine shows_point (leading.append fun _ => isDigit_of_mem_zeros).whole
        (Decimal.whole_ofNat 0).digits (List.cons_ne_nil _ _) ?_
      rw [Digits.toNat_append, Digits.toNat_append, Digits.toNat_zeros,
        show Digits.toNat ['0'] = 0 from rfl, List.length_replicate]
      push_cast
      rw [add_sub_cancel_left, zpow_natCast, List.length_singleton, pow_one, Nat.cast_one,
        zpow_neg_one]
      ring
    next long =>
      refine shows_point (leading.take (by omega)).whole ?_ ?_ ?_
      · exact fun c hc => leading.digits c (List.mem_of_mem_drop hc)
      · exact fun h => long (List.drop_eq_nil_iff.mp h)
      · rw [List.take_append_drop, List.length_drop, Nat.cast_sub (by omega), neg_sub]

theorem shows_scientific (leading : Leading ds) (power : Int) :
    Shows (scientific ds power) (Digits.toNat ds * 10 ^ (power + 1 - ds.length)) := by
  intro negative
  set size := Digits.ofNat power.natAbs with hsize
  set zeros := List.replicate (2 - size.length) '0' with hzeros
  have hpower : Digits.toNat (zeros ++ size) = power.natAbs := by
    rw [Digits.toNat_append, Digits.toNat_zeros, Digits.toNat_ofNat, zero_mul, zero_add]
  refine ⟨⟨negative, ds.take 1, ds.drop 1, some (decide (power < 0), zeros ++ size)⟩,
    ⟨(leading.take Nat.one_pos).whole, ?_, ?_⟩, ?_, rfl, ?_, ?_⟩
  · exact fun c hc => leading.digits c (List.mem_of_mem_drop hc)
  · rintro p hp
    cases hp
    refine ⟨fun h => ?_, fun c hc => ?_⟩
    · exact Digits.ofNat_ne_nil power.natAbs (List.append_eq_nil_iff.mp h).2
    · exact (List.mem_append.mp hc).elim isDigit_of_mem_zeros Digits.isDigit_of_mem_ofNat
  · simp [Literal.isInteger]
  · simp only [scientific, Literal.spell, Decimal.powerText, ← hsize, ← hzeros,
      decide_eq_true_eq, List.append_assoc, List.cons_append]
    cases ds.drop 1 <;> rfl
  · have hexponent : ∀ n : Bool, n = decide (power < 0) →
        Literal.exponent ⟨negative, ds.take 1, ds.drop 1, some (n, zeros ++ size)⟩ = power := by
      intro n hn
      cases n
      · have := of_decide_eq_false hn.symm
        simp only [Literal.exponent, hpower]
        omega
      · have := of_decide_eq_true hn.symm
        simp only [Literal.exponent, hpower]
        omega
    have hlength : 0 < ds.length := List.length_pos_of_ne_nil leading.some
    rw [Literal.value, hexponent _ rfl, List.take_append_drop, List.length_drop,
      Nat.cast_sub hlength]
    ring_nf

end Layout

/-! ## The text of a double -/

theorem leading_dropZeros {x : Nat} (pos : 0 < x) :
    ∃ k, Leading (dropZeros (Digits.ofNat x)) ∧
      (Digits.ofNat x).length = (dropZeros (Digits.ofNat x)).length + k ∧
      x = Digits.toNat (dropZeros (Digits.ofNat x)) * 10 ^ k := by
  obtain ⟨k, hk⟩ : ∃ k, (Digits.ofNat x).reverse.takeWhile (· = '0') = List.replicate k '0' := by
    refine ⟨_, List.eq_replicate_iff.mpr ⟨rfl, fun c hc => ?_⟩⟩
    exact of_decide_eq_true (List.mem_takeWhile_imp (p := (· = '0')) hc)
  have hsplit : Digits.ofNat x = dropZeros (Digits.ofNat x) ++ List.replicate k '0' := by
    have h := congrArg List.reverse
      (List.takeWhile_append_dropWhile (p := (· = '0')) (l := (Digits.ofNat x).reverse))
    rw [hk, List.reverse_append, List.reverse_replicate, List.reverse_reverse] at h
    exact h.symm
  have hhead : ∀ rest, Digits.ofNat x ≠ '0' :: rest := fun _ => Digits.ofNat_head_ne_zero pos
  have hvalue := Digits.toNat_ofNat x
  generalize dropZeros (Digits.ofNat x) = ds at hsplit
  refine ⟨k, ⟨?_, fun rest h => ?_, fun c hc => ?_⟩, ?_, ?_⟩
  · rintro rfl
    cases k with
    | zero => exact Digits.ofNat_ne_nil x hsplit
    | succ k => exact hhead _ hsplit
  · rw [h] at hsplit
    exact hhead _ hsplit
  · refine Digits.isDigit_of_mem_ofNat (n := x) ?_
    rw [hsplit]
    exact List.mem_append_left _ hc
  · rw [hsplit, List.length_append, List.length_replicate]
  · rw [hsplit, Digits.toNat_append, Digits.toNat_zeros, List.length_replicate] at hvalue
    exact hvalue.symm

/-- The text of the magnitude of a double shows its shortest digits. -/
theorem shows_magnitudeText {m : Nat} {e : Int} (some : m ≠ 0) (pos : 0 < (shortest m e).1) :
    Shows (magnitudeText m e) ((shortest m e).1 * 10 ^ (shortest m e).2) := by
  rw [magnitudeText, if_neg some]
  generalize shortest m e = found at pos ⊢
  obtain ⟨x, s⟩ := found
  obtain ⟨k, hleading, hlength, hvalue⟩ := leading_dropZeros pos
  simp only at hvalue hlength ⊢
  set ds := dropZeros (Digits.ofNat x)
  have hx : (x * 10 ^ s : ℚ) =
      Digits.toNat ds * 10 ^ (((Digits.ofNat x).length : Int) + s - ds.length) := by
    rw [hlength, show (((ds.length + k : Nat) : Int) + s - ds.length) = k + s by push_cast; ring,
      zpow_add₀ (by norm_num), zpow_natCast, ← mul_assoc]
    exact congrArg (· * _) (by exact_mod_cast hvalue)
  rw [hx]
  split
  · exact shows_positional hleading _
  · have h := shows_scientific hleading (((Digits.ofNat x).length : Int) + s - 1)
    rwa [sub_add_cancel] at h

/-- The text of a finite number is read as that number. -/
theorem exists_spelling {x : Binary64} (finite : x.isFinite = true) :
    ∃ l : Literal, l.Spelled ∧ l.isInteger = false ∧ x.chars = l.spell ∧ l.toBinary64 = x := by
  cases x with
  | nan | infinite => cases finite
  | finite s m e form =>
    by_cases zero : m = 0
    · subst zero
      obtain rfl : e = leastExponent := form.normal.resolve_left (by decide)
      refine ⟨⟨s, ['0'], ['0'], none⟩, ⟨Decimal.whole_ofNat 0,
        (Decimal.whole_ofNat 0).digits, fun _ h => nomatch h⟩, rfl, rfl, rfl⟩
    · have hm : 0 < m := Nat.pos_of_ne_zero zero
      have hrounds := rounds_shortest form hm
      have hpos : 0 < (shortest m e).1 := by
        have h := pos_of_mul_pos_left (hrounds.pos hm) (by positivity)
        exact_mod_cast h
      obtain ⟨l, hspelled, hinteger, rfl, hspell, hvalue⟩ := shows_magnitudeText zero hpos s
      exact ⟨l, hspelled, hinteger, hspell.symm,
        Literal.toBinary64_of_rounds form hm (hvalue ▸ hrounds)⟩

theorem opens_chars {x : Binary64} (finite : x.isFinite = true) :
    Decimal.Opens x.chars := by
  obtain ⟨l, hspelled, -, htext, -⟩ := exists_spelling finite
  rw [htext]
  exact hspelled.opens

end Binary64
end ScopeChain
