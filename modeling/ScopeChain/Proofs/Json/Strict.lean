/-
The grammar derives what is written.

A tree is written as a text that the grammar derives, if its doubles are finite and no two members
of an object have one name.  The induction follows the tree, with the items behind the first of an
array and the members behind the first of an object as lists of their own.
-/
import ScopeChain.Proofs.Json.Grammar
import ScopeChain.Proofs.Json.Scalar
import ScopeChain.Proofs.Json.Tree

namespace ScopeChain
namespace Json

open Grammar

/-! ## White space and structural characters -/

theorem blank_nil : Blank [] := fun _ h => absurd h List.not_mem_nil

theorem blank_newLine (level : Nat) : Blank (newLine level) := by
  intro c hc
  rcases List.mem_cons.mp hc with rfl | hc
  · exact Or.inr (Or.inr (Or.inl rfl))
  · exact Or.inl (List.eq_of_mem_replicate hc)

theorem token_bare (t : Char) : Token t [t] := @Token.mk t [] [] blank_nil blank_nil

theorem token_before (t : Char) (level : Nat) : Token t (t :: newLine level) :=
  @Token.mk t [] (newLine level) blank_nil (blank_newLine level)

theorem token_behind (t : Char) (level : Nat) : Token t (newLine level ++ [t]) :=
  .mk (blank_newLine level) blank_nil

theorem token_colon : Token ':' [':', ' '] :=
  @Token.mk ':' [] [' '] blank_nil fun _ hc => Or.inl (List.mem_singleton.mp hc)

/-! ## Numbers -/

theorem digitRun_of_whole {ds : List Char} (whole : Decimal.Whole ds) : DigitRun ds :=
  ⟨whole.some, whole.digits⟩

theorem derives_whole {ds : List Char} (whole : Decimal.Whole ds) : Whole ds := by
  obtain ⟨d, rest, rfl⟩ := List.exists_cons_of_ne_nil whole.some
  by_cases zero : d = '0'
  · subst zero
    rw [whole.alone rest rfl]
    exact .zero
  · exact .positive (digitRun_of_whole whole) zero

theorem derives_fractionText {ds : List Char} (digits : ∀ c ∈ ds, c.isDigit = true) :
    Fraction (Decimal.fractionText ds) := by
  cases ds with
  | nil => exact .none
  | cons d ds => exact .digits ⟨List.cons_ne_nil d ds, digits⟩

theorem derives_powerText {p : Option (Bool × List Char)}
    (digits : ∀ q ∈ p, q.2 ≠ [] ∧ ∀ c ∈ q.2, c.isDigit = true) :
    Power (Decimal.powerText p) := by
  match p with
  | none => exact .none
  | some (negative, ds) =>
    refine @Power.digits 'e' [if negative then '-' else '+'] ds (Or.inl rfl) (Or.inr ?_)
      (digits _ rfl)
    cases negative
    · exact Or.inl rfl
    · exact Or.inr rfl

/-- A number that is spelled by the rules of the reader is one by the grammar. -/
theorem derives_spell {l : Decimal.Literal} (spelled : l.Spelled) : Number l.spell := by
  refine .mk ?_ (derives_whole spelled.whole) (derives_fractionText spelled.fraction)
    (derives_powerText spelled.power)
  cases l.negative
  · exact Or.inl rfl
  · exact Or.inr rfl

theorem derives_ofInt (i : Int) : Number (Digits.ofInt i) := by
  rw [← Decimal.Literal.spell_ofInt]
  exact derives_spell (Decimal.Literal.spelled_ofInt i)

theorem derives_writeFloat {x : Binary64} (finite : x.isFinite = true) :
    Number (writeFloat x) := by
  obtain ⟨l, hspelled, -, htext, -⟩ := Binary64.exists_spelling finite
  rw [writeFloat_of_finite finite, htext]
  exact derives_spell hspelled

/-! ## Strings -/

theorem hexDigit_digitChar {v : Nat} (lt : v < 16) : HexDigit (Nat.digitChar v) v :=
  ⟨lt, Or.inl rfl⟩

theorem spells_escape (c : Char) {cs : List Char} {us : List Nat} (rest : Spells cs us) :
    Spells (escape c ++ cs) (units c ++ us) := by
  unfold escape
  split_ifs with hquote hslash hlf hcr htab hff hbs hctl
  · subst hquote; exact .short (by decide) rest
  · subst hslash; exact .short (by decide) rest
  · subst hlf; exact .short (by decide) rest
  · subst hcr; exact .short (by decide) rest
  · subst htab; exact .short (by decide) rest
  · subst hff; exact .short (by decide) rest
  · subst hbs; exact .short (by decide) rest
  · have hunits : units c = [((0 * 16 + 0) * 16 + c.toNat / 16) * 16 + c.toNat % 16] := by
      rw [units, if_pos (by omega)]
      congr 1
      omega
    rw [hex_of_control c.toNat hctl, hunits]
    exact .hex (hexDigit_digitChar (v := 0) (by decide)) (hexDigit_digitChar (v := 0) (by decide))
      (hexDigit_digitChar (by omega)) (hexDigit_digitChar (by omega)) rest
  · exact .plain (by omega) hquote hslash rest

def textUnits (s : String) : List Nat := s.toList.flatMap units

theorem derives_writeText (s : String) : Text (writeText s) (textUnits s) := by
  refine .mk ?_
  rw [textUnits]
  induction s.toList with
  | nil => exact .nil
  | cons c cs ih => exact spells_escape c ih

theorem assemble_units (cs : List Char) : assemble? (cs.flatMap units) = some cs := by
  induction cs with
  | nil => rfl
  | cons c cs ih =>
    have hv : c.toNat < 0xD800 ∨ 0xDFFF < c.toNat ∧ c.toNat < 0x110000 := c.valid
    rw [List.flatMap_cons, units]
    split
    next => rw [List.singleton_append, assemble_toNat_cons, ih, Option.map_some]
    next =>
      -- A high surrogate and a low one.
      have hhigh : isHigh (0xD800 + (c.toNat - 0x10000) / 0x400) = true := by
        simp only [isHigh, Bool.and_eq_true, decide_eq_true_eq]
        omega
      have hlow : isLow (0xDC00 + (c.toNat - 0x10000) % 0x400) = true := by
        simp only [isLow, Bool.and_eq_true, decide_eq_true_eq]
        omega
      have hvalue : 0x10000 + (0xD800 + (c.toNat - 0x10000) / 0x400 - 0xD800) * 0x400 +
          (0xDC00 + (c.toNat - 0x10000) % 0x400 - 0xDC00) = c.toNat := by
        omega
      simp only [List.cons_append, List.nil_append, assemble?, hhigh, hlow, Bool.and_true, if_true,
        hvalue, Char.ofNat_toNat, ih, Option.map_some]

theorem textUnits_injective : Function.Injective textUnits := by
  intro s t h
  have hlist := congrArg assemble? h
  rw [textUnits, textUnits, assemble_units, assemble_units] at hlist
  exact String.toList_inj.mp (Option.some.inj hlist)

/-! ## Values -/

theorem nodup_textUnits {members : List (String × Json)} (names : (members.map Prod.fst).Nodup) :
    (members.map fun m => textUnits m.1).Nodup := by
  have hmap := names.map textUnits_injective
  rwa [List.map_map] at hmap

theorem derives_member (name : String) {cs : List Char} (value : Value cs) :
    Member (writeText name ++ (':' :: ' ' :: cs)) (textUnits name) :=
  .mk (derives_writeText name) token_colon value

mutual
theorem derives_write (level : Nat) : ∀ {j : Json}, Every NamesDistinct j → Every FiniteDouble j →
    Value (write level j)
  | .null, _, _ => .null
  | .bool true, _, _ => .true
  | .bool false, _, _ => .false
  | .int i, _, _ => .number (derives_ofInt i)
  | .float _, _, finite => .number (derives_writeFloat finite)
  | .text s, _, _ => .text (derives_writeText s)
  | .array [], _, _ => .emptyArray (token_bare '[') (token_bare ']')
  | .array (x :: rest), distinct, finite =>
    .array (token_before '[' (level + 1)) (derives_write (level + 1) distinct.2.1 finite.2.1)
      (derives_writeItems (level + 1) distinct.2.2 finite.2.2) (token_behind ']' level)
  | .object [], _, _ => .emptyObject (token_bare '\x7b') (token_bare '\x7d')
  | .object ((name, x) :: rest), distinct, finite => by
    have hobject := Value.object (token_before '\x7b' (level + 1))
      (derives_member name (derives_write (level + 1) distinct.2.1 finite.2.1))
      (derives_writeMembers (level + 1) distinct.2.2 finite.2.2) (nodup_textUnits distinct.1)
      (token_behind '\x7d' level)
    simpa only [write, List.append_assoc, List.cons_append] using hobject

theorem derives_writeItems (level : Nat) : ∀ {items : List Json},
    EveryItem NamesDistinct items → EveryItem FiniteDouble items → Items (writeItems level items)
  | [], _, _ => .nil
  | _ :: _, distinct, finite =>
    .cons (token_before ',' level) (derives_write level distinct.1 finite.1)
      (derives_writeItems level distinct.2 finite.2)

theorem derives_writeMembers (level : Nat) : ∀ {members : List (String × Json)},
    EveryMember NamesDistinct members → EveryMember FiniteDouble members →
    Members (writeMembers level members) (members.map fun m => textUnits m.1)
  | [], _, _ => .nil
  | (name, _) :: _, distinct, finite => by
    have hmembers := Members.cons (token_before ',' level)
      (derives_member name (derives_write level distinct.1 finite.1))
      (derives_writeMembers level distinct.2 finite.2)
    simpa only [writeMembers, List.map_cons, List.append_assoc, List.cons_append] using hmembers
end

/-- The text of a tree without double names and with finite doubles is derived. -/
theorem derives_render {j : Json} (distinct : Every NamesDistinct j) (finite : Every FiniteDouble j) :
    Derives j.render.toList := by
  have hwhole := Derives.mk blank_nil (derives_write 0 distinct finite) blank_nil
  rwa [List.nil_append, List.append_nil, ← String.toList_ofList (l := write 0 j)] at hwhole

end Json
end ScopeChain
