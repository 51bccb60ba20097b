/-
The names in a tree that was read.

A member takes the place of an earlier one of its name, so no two members of an object that
was read have one name.
-/
import ScopeChain.Proofs.Json.Tree
import ScopeChain.Json.Reader

namespace ScopeChain
namespace Json

variable {item : List Char → Except Stop (Json × List Char)}

theorem distinct_of_readItems
    (inside : ∀ {cs x rest}, item cs = .ok (x, rest) → Every NamesDistinct x) {room : Nat}
    {done : List Json} (earlier : ∀ x ∈ done, Every NamesDistinct x) {cs rest : List Char}
    {j : Json} (h : readItems item room done cs = .ok (j, rest)) : Every NamesDistinct j := by
  induction room generalizing done cs with
  | zero => cases h
  | succ room ih =>
    rw [readItems] at h
    split at h
    next => cases h
    next x left hx =>
      have hmore : ∀ y ∈ x :: done, Every NamesDistinct y := fun y hy => by
        rcases List.mem_cons.mp hy with rfl | hy
        · exact inside hx
        · exact earlier y hy
      split at h
      next =>
        cases h
        exact every_array.mpr ⟨trivial, fun y hy => hmore y (List.mem_reverse.mp hy)⟩
      next => exact ih hmore h
      next => cases h

theorem distinct_of_readMembers
    (inside : ∀ {cs x rest}, item cs = .ok (x, rest) → Every NamesDistinct x) {room : Nat}
    {done : List (String × Json)} (names : (done.map Prod.fst).Nodup)
    (earlier : ∀ m ∈ done, Every NamesDistinct m.2) {cs rest : List Char} {j : Json}
    (h : readMembers item room done cs = .ok (j, rest)) : Every NamesDistinct j := by
  induction room generalizing done cs with
  | zero => cases h
  | succ room ih =>
    unfold readMembers at h
    split at h
    next =>
      split at h
      next => cases h
      next name _ _ =>
        split at h
        next =>
          split at h
          next => cases h
          next x _ hx =>
            have hnames := nodup_putMember names name x
            have hmore : ∀ m ∈ putMember name x done, Every NamesDistinct m.2 := fun m hm => by
              rcases mem_putMember hm with rfl | hm
              · exact inside hx
              · exact earlier m hm
            simp only at h
            split at h
            next =>
              cases h
              exact every_object.mpr ⟨hnames, hmore⟩
            next => exact ih hnames hmore h
            next => cases h
        next => cases h
    next => cases h

theorem distinct_of_readScalar {cs rest : List Char} {j : Json}
    (h : readScalar cs = .ok (j, rest)) : Every NamesDistinct j := by
  have hwords : ∀ p ∈ words, Every NamesDistinct p.2 := by
    simp [words, Every, NamesDistinct]
  unfold readScalar at h
  split at h
  next =>
    split at h
    next =>
      cases h
      trivial
    next => cases h
  next =>
    split at h
    next found hfound =>
      cases h
      obtain ⟨p, hp, hafter⟩ := List.exists_of_findSome?_eq_some hfound
      obtain ⟨left, -, heq⟩ := Option.map_eq_some_iff.mp hafter
      cases heq
      exact hwords p hp
    next =>
      unfold readNumber at h
      split at h
      next => cases h
      next =>
        split at h
        next =>
          split at h
          next => cases h
          next =>
            cases h
            trivial
        next =>
          cases h
          trivial

theorem distinct_of_readValue {room depth : Nat} {cs rest : List Char} {j : Json}
    (h : readValue room depth cs = .ok (j, rest)) : Every NamesDistinct j := by
  induction depth generalizing cs rest j with
  | zero =>
    unfold readValue at h
    split at h
    next => cases h
    next => cases h
    next => exact distinct_of_readScalar h
  | succ depth ih =>
    unfold readValue at h
    split at h
    next =>
      simp only at h
      split at h
      next =>
        cases h
        exact every_array.mpr ⟨trivial, fun x hx => absurd hx List.not_mem_nil⟩
      next => exact distinct_of_readItems ih (fun x hx => absurd hx List.not_mem_nil) h
    next =>
      simp only at h
      split at h
      next =>
        cases h
        exact every_object.mpr ⟨List.nodup_nil, fun m hm => absurd hm List.not_mem_nil⟩
      next =>
        have hnames : (List.map Prod.fst ([] : List (String × Json))).Nodup := List.nodup_nil
        exact distinct_of_readMembers ih hnames (fun m hm => absurd hm List.not_mem_nil) h
    next => exact distinct_of_readScalar h

theorem distinct_of_read {cs : List Char} {j : Json} (h : read cs = .ok j) :
    Every NamesDistinct j := by
  rw [read] at h
  split at h
  next => cases h
  next =>
    split at h
    next => cases h
    next hvalue =>
      split at h
      next =>
        cases h
        exact distinct_of_readValue hvalue
      next => cases h

end Json
end ScopeChain
