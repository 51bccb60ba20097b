/-
Two chains of one forest, paired place by place.

If two chains are of one length and scopes at the same place have the same variables, then the
forest is paired with itself by the map that takes each scope of the one chain to the scope at
its place in the other, and every scope that is still to be made to itself.
-/
import Mathlib.Data.List.Forall2
import ScopeChain.Proofs.Scope.Paired

namespace ScopeChain

/-- The partner of a scope: the one at its place in another list, or itself if it is not in
the list. -/
def partner : List ScopeId → List ScopeId → ScopeId → ScopeId
  | x :: xs, y :: ys, c => if c = x then y else partner xs ys c
  | _, _, c => c

theorem partner_of_mem {r : ScopeId → ScopeId → Prop} {xs ys : List ScopeId}
    (all : List.Forall₂ r xs ys) {c : ScopeId} (hc : c ∈ xs) : r c (partner xs ys c) := by
  induction all with
  | nil => cases hc
  | @cons x y xs ys hr _ ih =>
    rw [partner]
    by_cases h : c = x
    · subst h
      rw [if_pos rfl]
      exact hr
    · rw [if_neg h]
      exact ih ((List.mem_cons.mp hc).resolve_left h)

theorem partner_mem {xs ys : List ScopeId} (length : xs.length = ys.length) {c : ScopeId}
    (hc : c ∈ xs) : partner xs ys c ∈ ys := by
  have hall : List.Forall₂ (fun _ y => y ∈ ys) xs ys := by
    refine List.forall₂_iff_zip.mpr ⟨length, fun hmem => (List.of_mem_zip hmem).2⟩
  exact partner_of_mem hall hc

theorem partner_of_not_mem {xs ys : List ScopeId} {c : ScopeId} (h : c ∉ xs) :
    partner xs ys c = c := by
  induction xs generalizing ys with
  | nil => rw [partner]; simp
  | cons x xs ih =>
    cases ys with
    | nil => rw [partner]; simp
    | cons y ys =>
      obtain ⟨hne, hnot⟩ := not_or.mp (mt List.mem_cons.mpr h)
      rw [partner, if_neg hne, ih hnot]

theorem partner_injective {xs ys : List ScopeId} (length : xs.length = ys.length)
    (nodup : ys.Nodup) {c d : ScopeId} (hc : c ∈ xs) (hd : d ∈ xs)
    (h : partner xs ys c = partner xs ys d) : c = d := by
  induction xs generalizing ys with
  | nil => cases hc
  | cons x xs ih =>
    cases ys with
    | nil => cases length
    | cons y ys =>
      obtain ⟨hy, hnodup⟩ := List.nodup_cons.mp nodup
      have hlength : xs.length = ys.length := Nat.succ.inj length
      rw [partner, partner] at h
      by_cases hcx : c = x
      · by_cases hdx : d = x
        · exact hcx.trans hdx.symm
        · rw [if_pos hcx, if_neg hdx] at h
          exact absurd (h ▸ partner_mem hlength ((List.mem_cons.mp hd).resolve_left hdx)) hy
      · by_cases hdx : d = x
        · rw [if_neg hcx, if_pos hdx] at h
          exact absurd (h ▸ partner_mem hlength ((List.mem_cons.mp hc).resolve_left hcx)) hy
        · rw [if_neg hcx, if_neg hdx] at h
          exact ih hlength hnodup ((List.mem_cons.mp hc).resolve_left hcx)
            ((List.mem_cons.mp hd).resolve_left hdx) h

namespace Forest

variable {f : Forest} {b b' : ScopeId}

theorem nodup_chain (f : Forest) (b : ScopeId) : (f.chain b).Nodup := by
  induction b using Nat.strongRecOn with
  | _ b ih =>
    cases hp : f.parent? b with
    | none =>
      rw [chain_of_global hp]
      exact List.pairwise_singleton _ b
    | some p =>
      have hlt := lt_of_parent? hp
      rw [chain_of_parent hp]
      refine List.nodup_cons.mpr ⟨fun h => ?_, ih p hlt⟩
      exact absurd (le_of_mem_chain h) (Nat.not_le_of_lt hlt)

theorem mem_chain_of_parent {c p : ScopeId} (hc : c ∈ f.chain b) (hp : f.parent? c = some p) :
    p ∈ f.chain b := by
  induction b using Nat.strongRecOn with
  | _ b ih =>
    cases hb : f.parent? b with
    | none =>
      rw [chain_of_global hb] at hc
      rw [List.mem_singleton.mp hc, hb] at hp
      cases hp
    | some q =>
      rw [chain_of_parent hb] at hc ⊢
      rcases List.mem_cons.mp hc with rfl | hc
      · rw [hb] at hp
        cases hp
        exact List.mem_cons_of_mem _ (by rw [chain_eq]; exact List.mem_cons_self)
      · exact List.mem_cons_of_mem _ (ih q (lt_of_parent? hb) hc)

theorem parent?_partner (length : (f.chain b).length = (f.chain b').length) {c : ScopeId}
    (hc : c ∈ f.chain b) :
    f.parent? (partner (f.chain b) (f.chain b') c) =
      (f.parent? c).map (partner (f.chain b) (f.chain b')) := by
  induction b using Nat.strongRecOn generalizing b' c with
  | _ b ih =>
    cases hb : f.parent? b with
    | none =>
      cases hb' : f.parent? b' with
      | none =>
        rw [chain_of_global hb] at hc
        rw [chain_of_global hb, chain_of_global hb', List.mem_singleton.mp hc, partner,
          if_pos rfl, hb, hb']
        rfl
      | some p' =>
        rw [chain_of_global hb, chain_of_parent hb', chain_eq f p'] at length
        cases length
    | some p =>
      cases hb' : f.parent? b' with
      | none =>
        rw [chain_of_parent hb, chain_of_global hb', chain_eq f p] at length
        cases length
      | some p' =>
        rw [chain_of_parent hb] at hc
        rw [chain_of_parent hb, chain_of_parent hb'] at length ⊢
        have hlt := lt_of_parent? hb
        have hlength : (f.chain p).length = (f.chain p').length := Nat.succ.inj length
        -- A scope of the rest is older than the first, so its partner is in the rest.
        have hrest : ∀ d ∈ f.chain p, partner (b :: f.chain p) (b' :: f.chain p') d =
            partner (f.chain p) (f.chain p') d := by
          intro d hd
          have hne : d ≠ b := Nat.ne_of_lt (Nat.lt_of_le_of_lt (le_of_mem_chain hd) hlt)
          rw [partner, if_neg hne]
        have hself : p ∈ f.chain p := by rw [chain_eq]; exact List.mem_cons_self
        rcases List.mem_cons.mp hc with rfl | hc
        · have hfirst : partner (f.chain p) (f.chain p') p = p' := by
            rw [chain_eq f p, chain_eq f p', partner, if_pos rfl]
          rw [partner, if_pos rfl, hb, hb', Option.map_some, hrest p hself, hfirst]
        · rw [hrest c hc, ih p hlt hlength hc]
          cases hq : f.parent? c with
          | none => rfl
          | some q =>
            rw [Option.map_some, Option.map_some, hrest q (mem_chain_of_parent hc hq)]

/-- Two chains of the same variables pair their forest with itself. -/
theorem paired_chains (present : b < f.size) (present' : b' < f.size)
    (all : List.Forall₂ (fun c c' => f.locals c' = f.locals c) (f.chain b) (f.chain b')) :
    f.Paired (partner (f.chain b) (f.chain b')) (fun c => c ∈ f.chain b ∨ f.size ≤ c) f := by
  have hold : ∀ c ∈ f.chain b, c < f.size := fun c hc =>
    Nat.lt_of_le_of_lt (le_of_mem_chain hc) present
  have hold' : ∀ c ∈ f.chain b, partner (f.chain b) (f.chain b') c < f.size := fun c hc =>
    Nat.lt_of_le_of_lt (le_of_mem_chain (partner_mem all.length_eq hc)) present'
  have hfresh : ∀ c, f.size ≤ c → partner (f.chain b) (f.chain b') c = c := fun c le =>
    partner_of_not_mem fun hc => Nat.not_le_of_lt (hold c hc) le
  refine ⟨rfl, fun c hc => ?_, fun c hc => ?_, fun c hc p hp => ?_, fun c hc => ?_,
    fun c le => ⟨Or.inr le, hfresh c le⟩, fun c d hc hd h => ?_⟩
  · rcases hc with hc | le
    · exact iff_of_true (hold' c hc) (hold c hc)
    · rw [hfresh c le]
  · rcases hc with hc | le
    · exact parent?_partner all.length_eq hc
    · rw [hfresh c le, parent?_of_le le]
      rfl
  · rcases hc with hc | le
    · exact Or.inl (mem_chain_of_parent hc hp)
    · rw [parent?_of_le le] at hp
      cases hp
  · rcases hc with hc | le
    · exact partner_of_mem all hc
    · rw [hfresh c le]
  · rcases hc with hc | le
    · rcases hd with hd | le'
      · exact partner_injective all.length_eq (nodup_chain f b') hc hd h
      · rw [hfresh d le'] at h
        exact absurd (h ▸ hold' c hc) (Nat.not_lt_of_le le')
    · rcases hd with hd | le'
      · rw [hfresh c le] at h
        exact absurd (h ▸ hold' d hd) (Nat.not_lt_of_le le)
      · rw [hfresh c le, hfresh d le'] at h
        exact h

end Forest
end ScopeChain
