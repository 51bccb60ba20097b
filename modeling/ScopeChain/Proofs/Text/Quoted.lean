/-
What quoted text tells.

The escapes of characters are self-delimiting, and the quote in use begins none of them.  So
texts in quotes are self-delimiting, and lists of such texts, whatever quotes, commas and
brackets the texts hold.  All characters of quoted text are printable.
-/
import Mathlib.Tactic.SplitIfs
import ScopeChain.Proofs.Json.Scalar
import ScopeChain.Proofs.Text.Delimited
import ScopeChain.Text.Quoted

namespace ScopeChain

/-! ## Hexadecimal digits -/

namespace Digits

variable {width n : Nat}

theorem hex_succ (pos : 0 < width) (n : Nat) :
    hex (width + 1) n = hex width (n / 16) ++ [Nat.digitChar (n % 16)] := by
  obtain ⟨w, rfl⟩ : ∃ w, width = w + 1 := ⟨width - 1, by omega⟩
  rw [hex, hex, Nat.toDigits_eq_if (n := n) (by decide)]
  split
  next lt =>
    rw [Nat.div_eq_of_lt lt, Nat.mod_eq_of_lt lt, Nat.toDigits_zero]
    simp [List.replicate_succ']
  next => simp

theorem length_hex (pos : 0 < width) (lt : n < 16 ^ width) : (hex width n).length = width := by
  have hle := (Nat.length_toDigits_le_iff (b := 16) (by decide) pos).mpr lt
  rw [hex, List.length_append, List.length_replicate]
  omega

def ofHex? (cs : List Char) : Option Nat :=
  cs.foldlM (fun n c => (hexValue? c).map (n * 16 + ·)) 0

theorem ofHex?_hex (pos : 0 < width) (lt : n < 16 ^ width) : ofHex? (hex width n) = some n := by
  induction width generalizing n with
  | zero => cases pos
  | succ w ih =>
    have hdigit := Json.hexValue?_digitChar (n % 16) (Nat.mod_lt n (by decide))
    cases w with
    | zero =>
      have hsmall : n < 16 := by simpa using lt
      rw [hex, Nat.toDigits_of_lt_base hsmall]
      rw [Nat.mod_eq_of_lt hsmall] at hdigit
      simp [ofHex?, hdigit]
    | succ w =>
      have hpart := ih (Nat.succ_pos w) (n := n / 16) (by
        rw [Nat.pow_succ] at lt
        omega)
      rw [hex_succ (Nat.succ_pos w), ofHex?, List.foldlM_append]
      rw [ofHex?] at hpart
      rw [hpart]
      simp [hdigit]
      omega

end Digits

namespace Quoted

variable {q c : Char}

/-! ## Characters -/

def IsQuote (q : Char) : Prop := q = '\x27' ∨ q = '\x22'

theorem isQuote_quote (cs : List Char) : IsQuote (quote cs) := by
  rw [quote, quoteFor]
  split
  next => exact Or.inr rfl
  next => exact Or.inl rfl

def unescapePoint (width : Nat) (cs : List Char) : Option (Char × List Char) :=
  (Digits.ofHex? (cs.take width)).map fun n => (Char.ofNat n, cs.drop width)

def unescapeMark : Char → List Char → Option (Char × List Char)
  | 'n', cs => some ('\n', cs)
  | 'r', cs => some ('\r', cs)
  | 't', cs => some ('\t', cs)
  | 'x', cs => unescapePoint 2 cs
  | 'u', cs => unescapePoint 4 cs
  | 'U', cs => unescapePoint 8 cs
  | c, cs => some (c, cs)

/-- The first character of a text between quotes, and what stands behind it. -/
def unescape : List Char → Option (Char × List Char)
  | '\x5c' :: mark :: cs => unescapeMark mark cs
  | c :: cs => some (c, cs)
  | [] => none

theorem unescape_plain (plain : c ≠ '\x5c') (cs : List Char) :
    unescape (c :: cs) = some (c, cs) := by
  simp [unescape, plain]

theorem unescapePoint_hex {width : Nat} (pos : 0 < width) (lt : c.toNat < 16 ^ width)
    (rest : List Char) :
    unescapePoint width (Digits.hex width c.toNat ++ rest) = some (c, rest) := by
  have hlength := Digits.length_hex pos lt
  rw [unescapePoint, List.take_left' hlength, List.drop_left' hlength, Digits.ofHex?_hex pos lt,
    Option.map_some, Char.ofNat_toNat]

theorem unescape_escapePoint (c : Char) (rest : List Char) :
    unescape (escapePoint c.toNat ++ rest) = some (c, rest) := by
  unfold escapePoint
  split_ifs with hbyte hshort
  · exact unescapePoint_hex (by decide) hbyte rest
  · exact unescapePoint_hex (by decide) hshort rest
  · -- No code point has more than six digits.
    have hv : c.toNat < 0xD800 ∨ 0xDFFF < c.toNat ∧ c.toNat < 0x110000 := c.valid
    exact unescapePoint_hex (by decide) (by omega) rest

/-- A character between quotes is read back, whatever stands behind it. -/
theorem unescape_escape (isQuote : IsQuote q) (c : Char) (rest : List Char) :
    unescape (escape q c ++ rest) = some (c, rest) := by
  unfold escape
  split_ifs with hmarked hlf hcr htab hplain
  · -- Neither a quote nor the backslash is a letter that stands for something else.
    rcases hmarked with rfl | rfl
    · rcases isQuote with rfl | rfl <;> rfl
    · rfl
  · subst hlf; rfl
  · subst hcr; rfl
  · subst htab; rfl
  · exact unescape_plain (fun h => hmarked (Or.inr h)) rest
  · exact unescape_escapePoint c rest

theorem selfDelimiting_escape (isQuote : IsQuote q) : SelfDelimiting (escape q) :=
  .of_read (unescape_escape isQuote)

theorem neverOpens_escape (isQuote : IsQuote q) : NeverOpens (escape q) q := by
  intro c
  have hslash : '\x5c' ≠ q := by rcases isQuote with rfl | rfl <;> decide
  unfold escape
  split_ifs with hmarked hlf hcr htab hplain
  · exact ⟨_, _, rfl, hslash⟩
  · exact ⟨_, _, rfl, hslash⟩
  · exact ⟨_, _, rfl, hslash⟩
  · exact ⟨_, _, rfl, hslash⟩
  · exact ⟨_, _, rfl, fun h => hmarked (Or.inl h)⟩
  · unfold escapePoint
    split_ifs
    · exact ⟨_, _, rfl, hslash⟩
    · exact ⟨_, _, rfl, hslash⟩
    · exact ⟨_, _, rfl, hslash⟩

/-! ## Texts and lists of them -/

/-- A quoted text tells its characters and where it ends.  Its first character tells which quote
ends it, and no other character of it is read as that quote. -/
theorem selfDelimiting_encode : SelfDelimiting encode := by
  intro cs ds left right h
  obtain ⟨hquote, hrest⟩ := List.cons.inj h
  have hquoted := (selfDelimiting_escape (isQuote_quote cs)).closed
    (neverOpens_escape (isQuote_quote cs))
  rw [← hquote] at hrest
  exact hquoted hrest

def spellName (name : String) : List Char := encode name.toList

theorem toList_text (name : String) : (text name).toList = spellName name :=
  String.toList_ofList

theorem selfDelimiting_spellName : SelfDelimiting spellName :=
  selfDelimiting_encode.comp fun _ _ => String.toList_injective

theorem neverOpens_spellName : NeverOpens spellName ']' := by
  intro name
  refine ⟨_, _, rfl, ?_⟩
  rcases isQuote_quote name.toList with hq | hq <;> rw [hq] <;> decide

theorem toList_list (names : List String) :
    (list names).toList = '[' :: separated spellName ", ".toList ']' names := by
  have hmap : (names.map text).map String.toList = names.map spellName := by
    rw [List.map_map]
    exact List.map_congr_left fun n _ => toList_text n
  rw [list, String.toList_append, String.toList_append, String.toList_intercalate, hmap,
    List.append_assoc, ← intercalate_append_close]
  rfl

/-- A list of quoted texts tells the texts, whatever quotes, commas and brackets they hold. -/
theorem selfDelimiting_list : SelfDelimiting fun names => (list names).toList := by
  have hnames := selfDelimiting_spellName.listed neverOpens_spellName
    (c := ',') (by decide) [' ']
  simp only [toList_list]
  exact hnames.behind ['[']

end Quoted

/-! ## Printable characters -/

namespace Printable

variable {c : Char}

theorem isPrintable_of_ascii (low : 0x20 ≤ c.toNat) (high : c.toNat < 0x7F) :
    isPrintable c = true := by
  have hascii : c.toNat < 0x80 := by omega
  simp [isPrintable, hascii, low, high]

theorem ne_of_isPrintable (printable : isPrintable c = true) {d : Char}
    (unprintable : isPrintable d = false) : c.toNat ≠ d.toNat := by
  intro h
  obtain rfl : c = d := by rw [← Char.ofNat_toNat c, h, Char.ofNat_toNat]
  rw [printable] at unprintable
  cases unprintable

theorem low_of_isPrintable (printable : isPrintable c = true) : 0x20 ≤ c.toNat := by
  rcases Nat.lt_or_ge c.toNat 0x20 with hlow | hlow
  · rw [isPrintable_of_control hlow] at printable
    cases printable
  · exact hlow

theorem isPrintable_of_isDigit (digit : c.isDigit = true) : isPrintable c = true := by
  have hbounds : 48 ≤ c.toNat ∧ c.toNat ≤ 57 := by
    simpa [Char.isDigit, UInt32.le_iff_toNat_le] using digit
  exact isPrintable_of_ascii (by omega) (by omega)

theorem isPrintable_digitChar : ∀ d < 16, isPrintable (Nat.digitChar d) = true := by
  decide

theorem isPrintable_of_isQuote (isQuote : Quoted.IsQuote c) : isPrintable c = true := by
  rcases isQuote with rfl | rfl <;> decide

end Printable

def Printed (cs : List Char) : Prop := ∀ c ∈ cs, Printable.isPrintable c = true

instance (cs : List Char) : Decidable (Printed cs) :=
  List.decidableBAll (fun c => Printable.isPrintable c = true) cs

namespace Printed

variable {cs ds : List Char} {c : Char}

theorem append (left : Printed cs) (right : Printed ds) : Printed (cs ++ ds) :=
  List.forall_mem_append.mpr ⟨left, right⟩

theorem cons (first : Printable.isPrintable c = true) (rest : Printed cs) : Printed (c :: cs) :=
  List.forall_mem_cons.mpr ⟨first, rest⟩

theorem nil : Printed [] := fun _ h => absurd h List.not_mem_nil

theorem flatMap {α : Type} {spell : α → List Char} (each : ∀ x, Printed (spell x))
    (xs : List α) : Printed (xs.flatMap spell) := fun c hc => by
  obtain ⟨x, -, hx⟩ := List.mem_flatMap.mp hc
  exact each x c hx

theorem separated {α : Type} {spell : α → List Char} {between : List Char}
    (each : ∀ x, Printed (spell x)) (apart : Printed between)
    (close : Printable.isPrintable c = true) :
    ∀ xs, Printed (separated spell between c xs)
  | [] => .cons close .nil
  | x :: xs => (each x).append ((flatMap (fun y => apart.append (each y)) xs).append
      (.cons close .nil))

theorem ofNat (n : Nat) : Printed (Digits.ofNat n) := fun _ hc =>
  Printable.isPrintable_of_isDigit (Digits.isDigit_of_mem_ofNat hc)

theorem toDigits (n : Nat) : Printed (Nat.toDigits 16 n) := by
  induction n using Nat.strongRecOn with
  | _ n ih =>
    have hlast := Printable.isPrintable_digitChar (n % 16) (Nat.mod_lt n (by decide))
    rw [Nat.toDigits_eq_if (by decide)]
    split
    next lt =>
      rw [Nat.mod_eq_of_lt lt] at hlast
      exact .cons hlast .nil
    next ge => exact (ih (n / 16) (by omega)).append (.cons hlast .nil)

theorem hex (width n : Nat) : Printed (Digits.hex width n) :=
  append (fun _ hc => by rw [List.eq_of_mem_replicate hc]; decide) (toDigits n)

theorem escapePoint (n : Nat) : Printed (Quoted.escapePoint n) := by
  unfold Quoted.escapePoint
  split_ifs
  · exact .cons (by decide) (.cons (by decide) (hex 2 n))
  · exact .cons (by decide) (.cons (by decide) (hex 4 n))
  · exact .cons (by decide) (.cons (by decide) (hex 8 n))

theorem escape {q : Char} (isQuote : Quoted.IsQuote q) (c : Char) :
    Printed (Quoted.escape q c) := by
  unfold Quoted.escape
  split_ifs with hmarked hlf hcr htab hplain
  · rcases hmarked with rfl | rfl
    · exact .cons (by decide) (.cons (Printable.isPrintable_of_isQuote isQuote) .nil)
    · decide
  · decide
  · decide
  · decide
  · exact .cons hplain .nil
  · exact escapePoint c.toNat

theorem encode (cs : List Char) : Printed (Quoted.encode cs) := by
  have hquote := Printable.isPrintable_of_isQuote (Quoted.isQuote_quote cs)
  exact .cons hquote ((flatMap (escape (Quoted.isQuote_quote cs)) cs).append (.cons hquote .nil))

theorem list (names : List String) : Printed (Quoted.list names).toList := by
  rw [Quoted.toList_list]
  have hname : ∀ name, Printed (Quoted.spellName name) := fun name => encode name.toList
  exact .cons (by decide) (separated hname (by decide) (by decide) names)

end Printed

end ScopeChain
