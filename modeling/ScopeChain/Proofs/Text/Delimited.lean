/-
Spellings that end by themselves.

A spelling is self-delimiting if every text that begins with it tells what is spelled there and
what stands behind it.  Sequences of what is spelled so are self-delimiting too, if they are
closed by a character that begins none of their items.
-/
import ScopeChain.Proofs.Binary64.Literal

namespace ScopeChain

/-- Whether a text that begins with a spelling tells what is spelled and what stands behind. -/
def SelfDelimiting {α : Type} (spell : α → List Char) : Prop :=
  ∀ ⦃x y : α⦄ ⦃left right : List Char⦄,
    spell x ++ left = spell y ++ right → x = y ∧ left = right

def NeverOpens {α : Type} (spell : α → List Char) (close : Char) : Prop :=
  ∀ x, ∃ c cs, spell x = c :: cs ∧ c ≠ close

/-- Items with a text between them, up to a character that closes them. -/
def separated {α : Type} (spell : α → List Char) (between : List Char) (close : Char) :
    List α → List Char
  | [] => [close]
  | x :: xs => spell x ++ (xs.flatMap (fun y => between ++ spell y) ++ [close])

section

variable {α β : Type} {spell : α → List Char} {close : Char}

theorem NeverOpens.append_ne (never : NeverOpens spell close) (x : α) (left right : List Char) :
    spell x ++ left ≠ close :: right := by
  intro h
  obtain ⟨c, cs, hspell, hne⟩ := never x
  rw [hspell] at h
  exact hne (List.cons.inj h).1

namespace SelfDelimiting

/-- What a reader finds at the front of every text is told. -/
theorem of_read {read : List Char → Option (α × List Char)}
    (reads : ∀ x rest, read (spell x ++ rest) = some (x, rest)) : SelfDelimiting spell := by
  intro x y left right h
  have hread : some (x, left) = some (y, right) := by rw [← reads, ← reads, h]
  cases hread
  exact ⟨rfl, rfl⟩

theorem comp (told : SelfDelimiting spell) {f : β → α} (injective : Function.Injective f) :
    SelfDelimiting fun y => spell (f y) := fun _ _ _ _ h =>
  ⟨injective (told h).1, (told h).2⟩

theorem behind (told : SelfDelimiting spell) (front : List Char) :
    SelfDelimiting fun x => front ++ spell x := by
  intro x y left right h
  rw [List.append_assoc, List.append_assoc] at h
  exact told (List.append_cancel_left h)

/-- Items are told one by one up to a character that begins none of them. -/
theorem closed (told : SelfDelimiting spell) (never : NeverOpens spell close) :
    SelfDelimiting fun xs : List α => xs.flatMap spell ++ [close] := by
  intro xs ys left right h
  -- If one sequence ends before the other, an item begins where the closing character stands.
  induction xs generalizing ys with
  | nil =>
    cases ys with
    | nil => exact ⟨rfl, (List.cons.inj h).2⟩
    | cons y ys =>
      simp only [List.flatMap_cons, List.append_assoc] at h
      exact absurd h.symm (never.append_ne y _ _)
  | cons x xs ih =>
    cases ys with
    | nil =>
      simp only [List.flatMap_cons, List.append_assoc] at h
      exact absurd h (never.append_ne x _ _)
    | cons y ys =>
      simp only [List.flatMap_cons, List.append_assoc] at h
      obtain ⟨rfl, hrest⟩ := told h
      simp only [← List.append_assoc] at hrest
      obtain ⟨rfl, hleft⟩ := ih hrest
      exact ⟨rfl, hleft⟩

theorem listed (told : SelfDelimiting spell) (never : NeverOpens spell close) {c : Char}
    (ne : c ≠ close) (cs : List Char) :
    SelfDelimiting (separated spell (c :: cs) close) := by
  intro xs ys left right h
  cases xs with
  | nil =>
    cases ys with
    | nil => exact ⟨rfl, (List.cons.inj h).2⟩
    | cons y ys =>
      rw [separated, separated, List.append_assoc] at h
      exact absurd h.symm (never.append_ne y _ _)
  | cons x xs =>
    cases ys with
    | nil =>
      rw [separated, separated, List.append_assoc] at h
      exact absurd h (never.append_ne x _ _)
    | cons y ys =>
      rw [separated, separated, List.append_assoc, List.append_assoc (spell y)] at h
      obtain ⟨rfl, hrest⟩ := told h
      obtain ⟨rfl, hleft⟩ := (told.behind (c :: cs)).closed (fun z => ⟨c, _, rfl, ne⟩) hrest
      exact ⟨rfl, hleft⟩

end SelfDelimiting

theorem intercalate_cons (between x : List α) (xs : List (List α)) :
    between.intercalate (x :: xs) = x ++ xs.flatMap (between ++ ·) := by
  induction xs generalizing x with
  | nil => simp
  | cons y ys ih => simp [ih]

theorem intercalate_append_close (spell : α → List Char) (between : List Char) (close : Char)
    (xs : List α) :
    between.intercalate (xs.map spell) ++ [close] = separated spell between close xs := by
  cases xs with
  | nil => simp [separated]
  | cons x xs => simp [separated, intercalate_cons, List.flatMap_map]

end

/-! ## Numbers -/

theorem Digits.ofNat_injective : Function.Injective Digits.ofNat := fun n m h => by
  rw [← Digits.toNat_ofNat n, h, Digits.toNat_ofNat]

theorem Digits.toList_natText (n : Nat) : (Digits.natText n).toList = Digits.ofNat n :=
  String.toList_ofList

theorem selfDelimiting_ofNat {c : Char} (stops : c.isDigit = false) (cs : List Char) :
    SelfDelimiting fun n => Digits.ofNat n ++ c :: cs := by
  intro n m left right h
  have hspan := congrArg (List.span Char.isDigit) h
  simp only [List.append_assoc, List.cons_append] at hspan
  rw [Decimal.span_isDigit (fun _ => Digits.isDigit_of_mem_ofNat) (Decimal.stops_cons _ stops),
    Decimal.span_isDigit (fun _ => Digits.isDigit_of_mem_ofNat) (Decimal.stops_cons _ stops)]
    at hspan
  obtain ⟨hdigits, hrest⟩ := Prod.mk.inj hspan
  exact ⟨Digits.ofNat_injective hdigits, List.append_cancel_left (List.cons.inj hrest).2⟩

end ScopeChain
