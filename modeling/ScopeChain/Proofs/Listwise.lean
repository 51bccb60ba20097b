/-
Lists that correspond item by item.
-/
import Mathlib.Data.List.Forall2

namespace ScopeChain
namespace Listwise

variable {α β γ : Type} {r : α → β → Prop} {xs : List α} {ys : List β}

theorem exists_left (all : List.Forall₂ r xs ys) {y : β} (hy : y ∈ ys) : ∃ x ∈ xs, r x y := by
  induction all with
  | nil => cases hy
  | cons hr _ ih =>
    rcases List.mem_cons.mp hy with rfl | hy
    · exact ⟨_, List.mem_cons_self, hr⟩
    · obtain ⟨x, hx, hxy⟩ := ih hy
      exact ⟨x, List.mem_cons_of_mem _ hx, hxy⟩

theorem exists_right (all : List.Forall₂ r xs ys) {x : α} (hx : x ∈ xs) : ∃ y ∈ ys, r x y :=
  exists_left (r := fun y x => r x y) all.flip hx

/-- The items of the lists need only be related where they are items. -/
theorem imp {s : α → β → Prop} (all : List.Forall₂ r xs ys)
    (h : ∀ x ∈ xs, ∀ y ∈ ys, r x y → s x y) : List.Forall₂ s xs ys := by
  induction all with
  | nil => exact .nil
  | cons hr _ ih =>
    exact .cons (h _ List.mem_cons_self _ List.mem_cons_self hr)
      (ih fun x hx y hy => h x (List.mem_cons_of_mem _ hx) y (List.mem_cons_of_mem _ hy))

theorem eq_of_both {s : α → γ → Prop} {f : γ → β} {zs : List γ} (all : List.Forall₂ r xs ys)
    (all' : List.Forall₂ s xs zs) (h : ∀ x ∈ xs, ∀ y ∈ ys, ∀ z ∈ zs, r x y → s x z → y = f z) :
    ys = zs.map f := by
  induction all generalizing zs with
  | nil =>
    cases all'
    rfl
  | cons hr _ ih =>
    cases all' with
    | cons hs hrest =>
      rw [List.map_cons, h _ List.mem_cons_self _ List.mem_cons_self _ List.mem_cons_self hr hs,
        ih hrest fun x hx y hy z hz => h x (List.mem_cons_of_mem _ hx) y
          (List.mem_cons_of_mem _ hy) z (List.mem_cons_of_mem _ hz)]

/-- A list of items that have partners has a list of partners. -/
theorem exists_partners (h : ∀ x ∈ xs, ∃ y, r x y) : ∃ ys, List.Forall₂ r xs ys := by
  induction xs with
  | nil => exact ⟨[], .nil⟩
  | cons x xs ih =>
    obtain ⟨y, hy⟩ := h x List.mem_cons_self
    obtain ⟨ys, hys⟩ := ih fun z hz => h z (List.mem_cons_of_mem _ hz)
    exact ⟨y :: ys, .cons hy hys⟩

/-- Lists that correspond to one in between correspond to each other. -/
theorem comp {s : β → γ → Prop} {t : α → γ → Prop} {zs : List γ} (all : List.Forall₂ r xs ys)
    (all' : List.Forall₂ s ys zs) (h : ∀ x ∈ xs, ∀ y ∈ ys, ∀ z ∈ zs, r x y → s y z → t x z) :
    List.Forall₂ t xs zs := by
  induction all generalizing zs with
  | nil =>
    cases all'
    exact .nil
  | cons hr _ ih =>
    cases all' with
    | cons hs hrest =>
      exact .cons (h _ List.mem_cons_self _ List.mem_cons_self _ List.mem_cons_self hr hs)
        (ih hrest fun x hx y hy z hz => h x (List.mem_cons_of_mem _ hx) y
          (List.mem_cons_of_mem _ hy) z (List.mem_cons_of_mem _ hz))

theorem map_eq {f : α → γ} {g : β → γ} (all : List.Forall₂ r xs ys)
    (h : ∀ x ∈ xs, ∀ y ∈ ys, r x y → f x = g y) : xs.map f = ys.map g := by
  induction all with
  | nil => rfl
  | cons hr _ ih =>
    rw [List.map_cons, List.map_cons, h _ List.mem_cons_self _ List.mem_cons_self hr,
      ih fun x hx y hy => h x (List.mem_cons_of_mem _ hx) y (List.mem_cons_of_mem _ hy)]

theorem findSome?_congr {f g : α → Option β} (h : ∀ x ∈ xs, f x = g x) :
    xs.findSome? f = xs.findSome? g := by
  induction xs with
  | nil => rfl
  | cons x xs ih =>
    rw [List.findSome?_cons, List.findSome?_cons, h x List.mem_cons_self,
      ih fun y hy => h y (List.mem_cons_of_mem _ hy)]

theorem mapM_congr {m : Type → Type} [Monad m] [LawfulMonad m] {f g : α → m β}
    (h : ∀ x ∈ xs, f x = g x) : xs.mapM f = xs.mapM g := by
  induction xs with
  | nil => rfl
  | cons x xs ih =>
    rw [List.mapM_cons, List.mapM_cons, h x List.mem_cons_self,
      ih fun y hy => h y (List.mem_cons_of_mem _ hy)]

theorem isEmpty_congr {xs : List α} {ys : List β} (h : xs.length = ys.length) :
    xs.isEmpty = ys.isEmpty := by
  cases xs <;> cases ys <;> simp_all

theorem forall₂_iff {p : α → Prop} (all : List.Forall₂ (fun x y => r x y ↔ p x) xs ys) :
    List.Forall₂ r xs ys ↔ ∀ x ∈ xs, p x := by
  induction all with
  | nil => simp
  | cons hr _ ih => rw [List.forall₂_cons, hr, ih, List.forall_mem_cons]

theorem rel_imp {s : α → β → Prop} {a : Option α} {b : Option β} (rel : Option.Rel r a b)
    (h : ∀ x ∈ a, ∀ y ∈ b, r x y → s x y) : Option.Rel s a b := by
  cases rel with
  | none => exact .none
  | some hr => exact .some (h _ rfl _ rfl hr)

end Listwise
end ScopeChain
