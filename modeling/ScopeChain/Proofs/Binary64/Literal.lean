/-
Decimal texts and what is read of them.

The reader takes the longest number at the front of a text.  A number that is spelled by its rules
is read as it was spelled, if what follows it can not belong to a number.
-/
import Mathlib.Data.List.TakeDrop
import ScopeChain.Binary64.Reader

namespace ScopeChain

namespace Digits

theorem ofNat_head_ne_zero {n : Nat} (h : 0 < n) {ds : List Char} : ofNat n ≠ '0' :: ds := by
  induction n using Nat.strongRecOn generalizing ds with
  | _ n ih =>
    intro e
    rw [ofNat, Nat.toDigits_eq_if (by decide)] at e
    split at e
    next lt =>
      have hd : n.digitChar = '0' := (List.cons.inj e).1
      have : ∀ n < 10, 0 < n → n.digitChar ≠ '0' := by decide
      exact this n lt h hd
    next ge =>
      have hpos : 0 < n / 10 := by omega
      cases hq : ofNat (n / 10) with
      | nil => exact ofNat_ne_nil _ hq
      | cons c cs =>
        rw [show Nat.toDigits 10 (n / 10) = c :: cs from hq, List.cons_append] at e
        obtain ⟨rfl, -⟩ := List.cons.inj e
        exact ih (n / 10) (by omega) hpos hq

end Digits

theorem isDigit_ne {c d : Char} (hc : c.isDigit = true) (hd : d.isDigit = false) : c ≠ d := by
  rintro rfl
  rw [hc] at hd
  cases hd

namespace Decimal

/-! ## What ends a number -/

def Stops (cs : List Char) : Prop := ∀ c rest, cs = c :: rest → c.isDigit = false

def Ended (cs : List Char) : Prop :=
  ∀ c rest, cs = c :: rest → c.isDigit = false ∧ c ≠ '.' ∧ c ≠ 'e' ∧ c ≠ 'E'

theorem stops_cons {c : Char} (cs : List Char) (h : c.isDigit = false) : Stops (c :: cs) := by
  intro d rest e
  rw [← (List.cons.inj e).1]
  exact h

theorem Ended.stops {cs : List Char} (ended : Ended cs) : Stops cs :=
  fun c rest e => (ended c rest e).1

theorem span_isDigit {ds rest : List Char} (all : ∀ c ∈ ds, c.isDigit = true)
    (stops : Stops rest) : (ds ++ rest).span Char.isDigit = (ds, rest) := by
  have hrest : rest.takeWhile Char.isDigit = [] ∧ rest.dropWhile Char.isDigit = rest := by
    cases rest with
    | nil => exact ⟨rfl, rfl⟩
    | cons c cs =>
      have hc := stops c cs rfl
      simp [hc]
  rw [List.span_eq_takeWhile_dropWhile, List.takeWhile_append_of_pos all,
    List.dropWhile_append_of_pos all, hrest.1, hrest.2, List.append_nil]

/-! ## The parts of a number -/

structure Whole (ds : List Char) : Prop where
  some : ds ≠ []
  alone : ∀ rest, ds = '0' :: rest → rest = []
  digits : ∀ c ∈ ds, c.isDigit = true

theorem whole_ofNat (n : Nat) : Whole (Digits.ofNat n) where
  some := Digits.ofNat_ne_nil n
  alone := by
    intro rest h
    rcases Nat.eq_zero_or_pos n with rfl | pos
    · exact (List.cons.inj h).2.symm
    · exact absurd h (Digits.ofNat_head_ne_zero pos)
  digits := fun _ => Digits.isDigit_of_mem_ofNat

theorem whole?_append {ds rest : List Char} (whole : Whole ds) (stops : Stops rest) :
    whole? (ds ++ rest) = some (ds, rest) := by
  obtain ⟨c, cs, rfl⟩ := List.exists_cons_of_ne_nil whole.some
  by_cases hc : c = '0'
  · subst hc
    rw [whole.alone cs rfl]
    rfl
  · have hspan := span_isDigit whole.digits stops
    rw [List.cons_append] at hspan ⊢
    rw [whole?]
    · rw [hspan]
    · intro r e
      exact hc (List.cons.inj e).1

def fractionText : List Char → List Char
  | [] => []
  | ds => '.' :: ds

def powerText : Option (Bool × List Char) → List Char
  | none => []
  | some (negative, ds) => 'e' :: (if negative then '-' else '+') :: ds

theorem power_append {p : Option (Bool × List Char)} {rest : List Char}
    (digits : ∀ q ∈ p, q.2 ≠ [] ∧ ∀ c ∈ q.2, c.isDigit = true) (ended : Ended rest) :
    power (powerText p ++ rest) = (p, rest) := by
  match p with
  | none =>
    cases rest with
    | nil => rfl
    | cons c cs =>
      obtain ⟨-, -, he, hE⟩ := ended c cs rfl
      simp [powerText, power, he, hE]
  | some (negative, ds) =>
    obtain ⟨hsome, hdigits⟩ := digits _ rfl
    have hspan := span_isDigit hdigits ended.stops
    have hsign : sign ((if negative then '-' else '+') :: ds ++ rest) = (negative, ds ++ rest) := by
      cases negative <;> rfl
    obtain ⟨c, cs, rfl⟩ := List.exists_cons_of_ne_nil hsome
    rw [powerText, List.cons_append, power, if_pos (Or.inl rfl), hsign]
    simp only [hspan]

theorem powerText_append {p : Option (Bool × List Char)} {rest : List Char} (ended : Ended rest) :
    Stops (powerText p ++ rest) ∧ ∀ cs, powerText p ++ rest ≠ '.' :: cs := by
  match p with
  | none => exact ⟨ended.stops, fun cs e => (ended _ _ e).2.1 rfl⟩
  | some (negative, ds) =>
    refine ⟨stops_cons _ rfl, fun cs e => ?_⟩
    exact absurd (List.cons.inj e).1 (by decide)

theorem fraction_append {ds rest : List Char} (digits : ∀ c ∈ ds, c.isDigit = true)
    (stops : Stops rest) (point : ∀ cs, rest ≠ '.' :: cs) :
    fraction (fractionText ds ++ rest) = (ds, rest) := by
  match ds with
  | [] =>
    rw [fractionText, List.nil_append, fraction]
    exact fun cs e => point cs e
  | d :: ds =>
    have hspan := span_isDigit digits stops
    rw [fractionText, List.cons_append, fraction]
    · simp only [hspan]
    · exact List.cons_ne_nil d ds

theorem stops_fractionText (ds : List Char) {rest : List Char} (stops : Stops rest) :
    Stops (fractionText ds ++ rest) := by
  match ds with
  | [] => exact stops
  | d :: ds => exact stops_cons _ rfl

/-! ## Numbers -/

def Literal.spell (l : Literal) : List Char :=
  (if l.negative then ['-'] else []) ++
    (l.whole ++ (fractionText l.fraction ++ powerText l.power))

structure Literal.Spelled (l : Literal) : Prop where
  whole : Whole l.whole
  fraction : ∀ c ∈ l.fraction, c.isDigit = true
  power : ∀ p ∈ l.power, p.2 ≠ [] ∧ ∀ c ∈ p.2, c.isDigit = true

def Opens (cs : List Char) : Prop :=
  ∃ d ds, d.isDigit = true ∧ (cs = d :: ds ∨ cs = '-' :: d :: ds)

theorem Literal.Spelled.opens {l : Literal} (spelled : l.Spelled) : Opens l.spell := by
  obtain ⟨d, ds, hwhole⟩ := List.exists_cons_of_ne_nil spelled.whole.some
  have hd : d.isDigit = true := spelled.whole.digits d (by rw [hwhole]; exact List.mem_cons_self)
  rw [spell, hwhole]
  cases l.negative
  · exact ⟨d, _, hd, Or.inl rfl⟩
  · exact ⟨d, _, hd, Or.inr rfl⟩

/-- A number is read as it was spelled. -/
theorem read?_spell {l : Literal} (spelled : l.Spelled) {rest : List Char} (ended : Ended rest) :
    read? (l.spell ++ rest) = some (l, rest) := by
  obtain ⟨hstops, hpoint⟩ := powerText_append (p := l.power) ended
  have hwhole := whole?_append spelled.whole (stops_fractionText l.fraction hstops)
  have hfraction := fraction_append spelled.fraction hstops hpoint
  have hpower := power_append spelled.power ended
  obtain ⟨negative, whole, fraction, power⟩ := l
  cases negative
  · have hbody : ∀ r, whole ++ (fractionText fraction ++ (powerText power ++ rest)) ≠ '-' :: r := by
      intro r e
      obtain ⟨d, ds, rfl⟩ := List.exists_cons_of_ne_nil spelled.whole.some
      have hd : d.isDigit = true := spelled.whole.digits d List.mem_cons_self
      exact isDigit_ne hd rfl (List.cons.inj e).1
    simp only [Literal.spell, Bool.false_eq_true, if_false, List.nil_append, List.append_assoc]
    rw [read?]
    · simp only [hwhole, hfraction, hpower]
    · exact hbody
  · simp only [Literal.spell, if_true, List.append_assoc, List.cons_append, List.nil_append]
    rw [read?]
    simp only [hwhole, hfraction, hpower]

/-! ## Integers -/

def Literal.ofInt (i : Int) : Literal := ⟨decide (i < 0), Digits.ofNat i.natAbs, [], none⟩

theorem Literal.spelled_ofInt (i : Int) : (Literal.ofInt i).Spelled :=
  ⟨whole_ofNat _, fun _ h => (List.not_mem_nil h).elim, fun _ h => nomatch h⟩

theorem Literal.spell_ofInt (i : Int) : (Literal.ofInt i).spell = Digits.ofInt i := by
  cases i with
  | ofNat n => simp [ofInt, spell, Digits.ofInt, fractionText, powerText]
  | negSucc n => simp [ofInt, spell, Digits.ofInt, fractionText, powerText]

theorem opens_ofInt (i : Int) : Opens (Digits.ofInt i) := by
  rw [← Literal.spell_ofInt]
  exact (Literal.spelled_ofInt i).opens

theorem Literal.toInt_ofInt (i : Int) : (Literal.ofInt i).toInt = i := by
  simp only [ofInt, toInt, Digits.toNat_ofNat, decide_eq_true_eq]
  split <;> omega

end Decimal
end ScopeChain
