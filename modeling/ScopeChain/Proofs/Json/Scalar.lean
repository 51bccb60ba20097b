/-
Reading back what was written: numbers, strings and words.

A reader stops at the first character that can not belong to what it reads.  The texts of
trees are followed by a comma, a line feed or nothing, which ends a number, and a string is
ended by its quote.
-/
import ScopeChain.Json.Reader
import ScopeChain.Json.Writer
import ScopeChain.Proofs.Binary64.Spelling

namespace ScopeChain
namespace Json

/-! ## Strings -/

theorem hex_of_control : ∀ n < 0x20, Digits.hex 4 n =
    ['0', '0', Nat.digitChar (n / 16), Nat.digitChar (n % 16)] := by
  decide

theorem hexValue?_digitChar : ∀ d < 16, Digits.hexValue? (Nat.digitChar d) = some d := by
  decide

/-- An escaped character is read as its code point, if the string goes on behind it. -/
theorem readUnits_escape (start : List Char) (c : Char) (done : List Nat) {rest : List Char}
    (more : rest ≠ []) :
    readUnits start .plain done (escape c ++ rest) =
      readUnits start .plain (c.toNat :: done) rest := by
  unfold escape
  split_ifs with hquote hslash hlf hcr htab hff hbs hctl
  · subst hquote; rfl
  · subst hslash; rfl
  · subst hlf; rfl
  · subst hcr; rfl
  · subst htab; rfl
  · subst hff; rfl
  · subst hbs; rfl
  · have hhigh := hexValue?_digitChar (c.toNat / 16) (by omega)
    have hlow := hexValue?_digitChar (c.toNat % 16) (by omega)
    have hzero : Digits.hexValue? '0' = some 0 := rfl
    have hrest : rest.isEmpty = false := by simpa using more
    have hval : c.toNat / 16 * 16 + c.toNat % 16 = c.toNat := by omega
    rw [hex_of_control c.toNat hctl]
    simp [readUnits, hzero, hhigh, hlow, hrest, hval]
  · simp [readUnits, hquote, hslash, hctl]

theorem readUnits_escapes (start : List Char) (cs : List Char) (done : List Nat)
    (rest : List Char) :
    readUnits start .plain done (cs.flatMap escape ++ '\x22' :: rest) =
      .ok (done.reverse ++ cs.map Char.toNat, rest) := by
  induction cs generalizing done with
  | nil => simp [readUnits]
  | cons c cs ih =>
    rw [List.flatMap_cons, List.append_assoc, readUnits_escape start c done (by simp), ih]
    simp

theorem not_surrogate (c : Char) : isHigh c.toNat = false ∧ isLow c.toNat = false := by
  have hv : c.toNat < 0xD800 ∨ 0xDFFF < c.toNat ∧ c.toNat < 0x110000 := c.valid
  simp only [isHigh, isLow, Bool.and_eq_false_iff, decide_eq_false_iff_not]
  omega

/-- The code point of a character makes up that character, whatever follows. -/
theorem assemble_toNat_cons (c : Char) (us : List Nat) :
    assemble? (c.toNat :: us) = (assemble? us).map (c :: ·) := by
  obtain ⟨hhigh, hlow⟩ := not_surrogate c
  cases us <;> simp [assemble?, hhigh, hlow]

theorem assemble_toNat (cs : List Char) : assemble? (cs.map Char.toNat) = some cs := by
  induction cs with
  | nil => rfl
  | cons c cs ih => rw [List.map_cons, assemble_toNat_cons, ih, Option.map_some]

theorem readText_writeText (s : String) (start rest : List Char) :
    readText start (s.toList.flatMap escape ++ '\x22' :: rest) = .ok (s, rest) := by
  rw [readText, readUnits_escapes]
  simp [assemble_toNat]

/-! ## Numbers and words -/

/-- No word begins with a digit, or goes on with a digit behind a minus sign. -/
theorem readScalar_of_opens {cs : List Char} (opens : Decimal.Opens cs) (rest : List Char) :
    readScalar (cs ++ rest) = readNumber (cs ++ rest) := by
  obtain ⟨d, ds, hd, rfl | rfl⟩ := opens
  · have hn := isDigit_ne hd (d := 'n') rfl
    have ht := isDigit_ne hd (d := 't') rfl
    have hf := isDigit_ne hd (d := 'f') rfl
    have hN := isDigit_ne hd (d := 'N') rfl
    have hI := isDigit_ne hd (d := 'I') rfl
    have hm := isDigit_ne hd (d := '-') rfl
    rw [List.cons_append, readScalar]
    · simp [words, after?, hn.symm, ht.symm, hf.symm, hN.symm, hI.symm, hm.symm]
    · intro r e
      exact isDigit_ne hd (d := '\x22') rfl (List.cons.inj e).1
  · have hI := isDigit_ne hd (d := 'I') rfl
    rw [List.cons_append, List.cons_append, readScalar]
    · simp [words, after?, hI.symm]
    · intro r e
      exact absurd (List.cons.inj e).1 (by decide)

theorem readScalar_ofInt {i : Int} (short : (Digits.ofNat i.natAbs).length ≤ digitLimit)
    {rest : List Char} (ended : Decimal.Ended rest) :
    readScalar (Digits.ofInt i ++ rest) = .ok (.int i, rest) := by
  have hspelled := Decimal.Literal.spelled_ofInt i
  rw [← Decimal.Literal.spell_ofInt, readScalar_of_opens hspelled.opens, readNumber,
    Decimal.read?_spell hspelled ended]
  simp only [Decimal.Literal.toInt_ofInt]
  exact (if_pos rfl).trans (if_neg (Nat.not_lt.mpr short))

theorem writeFloat_of_finite {x : Binary64} (finite : x.isFinite = true) :
    writeFloat x = x.chars := by
  cases x with
  | finite s m e => rfl
  | nan | infinite => cases finite

/-- A finite double is read back from its text. -/
theorem readScalar_chars {x : Binary64} (finite : x.isFinite = true)
    {rest : List Char} (ended : Decimal.Ended rest) :
    readScalar (x.chars ++ rest) = .ok (.float x, rest) := by
  obtain ⟨l, hspelled, hinteger, htext, hdouble⟩ := Binary64.exists_spelling finite
  rw [htext, readScalar_of_opens hspelled.opens, readNumber, Decimal.read?_spell hspelled ended]
  simp only [hinteger, hdouble]
  rfl

theorem readScalar_writeText (s : String) (rest : List Char) :
    readScalar (writeText s ++ rest) = .ok (.text s, rest) := by
  simp only [writeText, List.cons_append, List.append_assoc, List.nil_append]
  rw [readScalar, readText_writeText]

theorem readScalar_null (rest : List Char) :
    readScalar ("null".toList ++ rest) = .ok (.null, rest) := by
  simp [readScalar, words, after?]

theorem readScalar_bool (b : Bool) (rest : List Char) :
    readScalar ((if b then "true".toList else "false".toList) ++ rest) =
      .ok (.bool b, rest) := by
  cases b <;> simp [readScalar, words, after?]

end Json
end ScopeChain
