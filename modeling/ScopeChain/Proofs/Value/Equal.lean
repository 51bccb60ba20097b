/-
Equal values.

Values, each of a heap of its own, are equal as a host compares them: data by what it is and
numbers by their value across their kinds, lists by their items, where a tuple counts as the list
of its items, and dicts by the values under equal keys, in whatever order.  A value is lossless if
all that it holds is what JSON has.
-/
import Mathlib.Tactic.Choose
import ScopeChain.Proofs.Value.Nesting

namespace ScopeChain

/-! ## Keys -/

def Value.key? : Value → Option Key
  | .null => some .null
  | .bool b => some (.bool b)
  | .int i => some (.int i)
  | .float x => some (.float x)
  | .text s => some (.text s)
  | .bytes bs => some (.bytes bs)
  | _ => none

/-- Only a text is the key that a text is. -/
theorem Key.same_text_iff {k : Key} {s : String} : k.same (.text s) = true ↔ k = .text s := by
  cases k <;> simp [Key.same, Key.number?]

theorem Key.same_float_self {x : Binary64} (finite : x.isFinite = true) :
    Key.same (.float x) (.float x) = true := by
  cases x with
  | finite s m e form =>
    cases hint : (Binary64.finite s m e form).toInt? <;>
      simp [Key.same, Key.number?, hint, Number.same, Binary64.numEq]
  | nan | infinite => cases finite

theorem KeysDistinct.eq_of_text {es : Metadata} (distinct : KeysDistinct es) {e f : Key × Value}
    (he : e ∈ es) (hf : f ∈ es) {s : String} (left : e.1 = .text s) (right : f.1 = .text s) :
    e = f := by
  induction es with
  | nil => cases he
  | cons d rest ih =>
    obtain ⟨hd, hrest⟩ := List.pairwise_cons.mp distinct
    have hsame : Key.same (.text s) (.text s) = true := Key.same_text_iff.mpr rfl
    rcases List.mem_cons.mp he with rfl | he'
    · rcases List.mem_cons.mp hf with rfl | hf'
      · rfl
      · have hother := hd f hf'
        rw [left, right, hsame] at hother
        cases hother
    · rcases List.mem_cons.mp hf with rfl | hf'
      · have hother := hd e he'
        rw [left, right, hsame] at hother
        cases hother
      · exact ih hrest he' hf'

namespace Heap

variable {h h' : Heap} {v w : Value} {items items' : List Value} {es fs : Metadata}

/-! ## Equality -/

/-- Whether a value of one heap equals one of another. -/
inductive Equal (h h' : Heap) : Value → Value → Prop where
  | data {v w : Value} {k l : Key} (left : v.key? = some k) (right : w.key? = some l)
    (same : k.same l = true) : Equal h h' v w
  /-- Scopes, scripts, snapshots and host objects equal themselves. -/
  | handle {v : Value} (other : v.key? = none) (single : ∀ id, v ≠ .container id) : Equal h h' v v
  | items {v w : Value} {items items' : List Value} (left : h.items? v = some items)
    (right : h'.items? w = some items') (length : items.length = items'.length)
    (all : ∀ {a b}, (a, b) ∈ items.zip items' → Equal h h' a b) : Equal h h' v w
  | dict {v w : Value} {es fs : Metadata} (left : h.dict? v = some es)
    (right : h'.dict? w = some fs) (length : es.length = fs.length)
    (partner : Key × Value → Key × Value) (found : ∀ e ∈ es, partner e ∈ fs)
    (same : ∀ e ∈ es, e.1.same (partner e).1 = true)
    (all : ∀ e ∈ es, Equal h h' e.2 (partner e).2) : Equal h h' v w

def EqualEntries (h h' : Heap) (es fs : Metadata) : Prop :=
  es.length = fs.length ∧ ∀ e ∈ es, ∃ f ∈ fs, e.1.same f.1 = true ∧ h.Equal h' e.2 f.2

theorem items?_eq_none_of_dict? (found : h.dict? v = some es) : h.items? v = none := by
  obtain ⟨id, rfl, hget⟩ := dict?_eq_some.mp found
  simp [items?, hget]

theorem dict?_eq_none_of_items? (found : h.items? v = some items) : h.dict? v = none := by
  obtain ⟨id, rfl, hget | hget⟩ := items?_eq_some.mp found <;> simp [dict?, hget]

theorem not_container_of_key? {k : Key} (key : v.key? = some k) :
    h.items? v = none ∧ h.dict? v = none := by
  cases v <;> cases key <;> exact ⟨rfl, rfl⟩

theorem equal_data_iff {k l : Key} (left : v.key? = some k) (right : w.key? = some l) :
    h.Equal h' v w ↔ k.same l = true := by
  refine ⟨fun equal => ?_, .data left right⟩
  cases equal with
  | data left' right' same =>
    cases left.symm.trans left'
    cases right.symm.trans right'
    exact same
  | handle other _ => cases left.symm.trans other
  | items found _ _ _ => cases (not_container_of_key? left).1.symm.trans found
  | dict found _ _ _ _ _ _ => cases (not_container_of_key? left).2.symm.trans found

theorem equal_items_iff (left : h.items? v = some items) (right : h'.items? w = some items') :
    h.Equal h' v w ↔ List.Forall₂ (h.Equal h') items items' := by
  refine ⟨fun equal => ?_, fun all => ?_⟩
  · cases equal with
    | data left' _ _ => cases (not_container_of_key? left').1.symm.trans left
    | handle _ single =>
      obtain ⟨id, heq, -⟩ := items?_eq_some.mp left
      exact absurd heq (single id)
    | items left' right' length all =>
      cases left.symm.trans left'
      cases right.symm.trans right'
      exact List.forall₂_iff_zip.mpr ⟨length, all⟩
    | dict left' _ _ _ _ _ _ => cases (items?_eq_none_of_dict? left').symm.trans left
  · obtain ⟨length, all⟩ := List.forall₂_iff_zip.mp all
    exact .items left right length all

theorem equal_dict_iff (left : h.dict? v = some es) (right : h'.dict? w = some fs) :
    h.Equal h' v w ↔ h.EqualEntries h' es fs := by
  refine ⟨fun equal => ?_, fun ⟨length, all⟩ => ?_⟩
  · cases equal with
    | data left' _ _ => cases (not_container_of_key? left').2.symm.trans left
    | handle _ single =>
      obtain ⟨id, heq, -⟩ := dict?_eq_some.mp left
      exact absurd heq (single id)
    | items left' _ _ _ => cases (dict?_eq_none_of_items? left').symm.trans left
    | dict left' right' length partner found same all =>
      cases left.symm.trans left'
      cases right.symm.trans right'
      exact ⟨length, fun e he => ⟨partner e, found e he, same e he, all e he⟩⟩
  · have hpartner : ∀ e, ∃ f, e ∈ es → f ∈ fs ∧ e.1.same f.1 = true ∧ h.Equal h' e.2 f.2 := by
      intro e
      by_cases he : e ∈ es
      · obtain ⟨f, hf⟩ := all e he
        exact ⟨f, fun _ => hf⟩
      · exact ⟨e, fun h => absurd h he⟩
    choose partner hpartner using hpartner
    exact .dict left right length partner (fun e he => (hpartner e he).1)
      (fun e he => (hpartner e he).2.1) fun e he => (hpartner e he).2.2

/-! ## Lossless values -/

/-- Whether JSON has a value: it is no bytes, no NaN or infinity, nothing of the host, and no dict
with other keys than texts. -/
def Native (h : Heap) : Value → Prop
  | .null | .bool _ | .int _ | .text _ => True
  | .float x => x.isFinite = true
  | .container id => ∃ c, h.get? id = some c ∧ ∀ entries, c = .dict entries → KeysText entries
  | _ => False

def Lossless (h : Heap) (v : Value) : Prop := ∀ w, h.Holds v w → h.Native w

theorem lossless_data (single : ∀ id, v ≠ .container id) : h.Lossless v ↔ h.Native v := by
  refine ⟨fun lossless => lossless v (.self v), fun native w held => ?_⟩
  rcases holds_cases held with rfl | ⟨id, heq, -⟩
  · exact native
  · exact absurd heq (single id)

theorem lossless_items (found : h.items? v = some items) :
    h.Lossless v ↔ ∀ u ∈ items, h.Lossless u := by
  refine ⟨fun lossless u hu w held => lossless w (.item found hu held), fun all w held => ?_⟩
  obtain ⟨id, rfl, hget⟩ := items?_eq_some.mp found
  rcases holds_cases held with rfl | ⟨id', heq, c, u, hc, hu, held⟩
  · rcases hget with hget | hget
    · exact ⟨_, hget, fun _ h => nomatch h⟩
    · exact ⟨_, hget, fun _ h => nomatch h⟩
  · cases heq
    rcases hget with hget | hget
    · cases hc.symm.trans hget
      exact all u hu w held
    · cases hc.symm.trans hget
      exact all u hu w held

theorem lossless_dict (found : h.dict? v = some es) :
    h.Lossless v ↔ KeysText es ∧ ∀ e ∈ es, h.Lossless e.2 := by
  obtain ⟨id, rfl, hget⟩ := dict?_eq_some.mp found
  refine ⟨fun lossless => ⟨?_, fun e he w held => lossless w (.entry found he held)⟩,
    fun ⟨texts, all⟩ w held => ?_⟩
  · obtain ⟨c, hc, htexts⟩ := lossless _ (.self _)
    exact htexts es (Option.some.inj (hc.symm.trans hget))
  · rcases holds_cases held with rfl | ⟨id', heq, c, u, hc, hu, held⟩
    · exact ⟨_, hget, fun _ h => Container.dict.inj h ▸ texts⟩
    · cases heq
      cases hc.symm.trans hget
      obtain ⟨e, he, rfl⟩ := List.mem_map.mp hu
      exact all e he w held

/-! ## What equals dicts with texts for keys -/

/-- A dict with texts for keys equals another exactly if its own keys are texts and the values
are equal that stand under one text. -/
theorem equalEntries_iff {p : Value → Prop} (distinct : KeysDistinct es) (texts : KeysText fs)
    (pairs : KeysText es →
      List.Forall₂ (fun e f => e.1 = f.1 ∧ (h.Equal h' e.2 f.2 ↔ p e.2)) es fs) :
    h.EqualEntries h' es fs ↔ KeysText es ∧ ∀ e ∈ es, p e.2 := by
  constructor
  · rintro ⟨-, all⟩
    have hkeys : ∀ e ∈ es, ∀ f ∈ fs, e.1.same f.1 = true → e.1 = f.1 := by
      intro e _ f hf same
      obtain ⟨s, hs⟩ := texts f hf
      rw [hs] at same ⊢
      exact Key.same_text_iff.mp same
    have htexts : KeysText es := by
      intro e he
      obtain ⟨f, hf, same, -⟩ := all e he
      obtain ⟨s, hs⟩ := texts f hf
      exact ⟨s, (hkeys e he f hf same).trans hs⟩
    refine ⟨htexts, fun e he => ?_⟩
    obtain ⟨f, hf, same, equal⟩ := all e he
    obtain ⟨d, hd, hkey, hiff⟩ := Listwise.exists_left (pairs htexts) hf
    obtain ⟨s, hs⟩ := htexts e he
    -- The entry that stands in the place of `f` has the key of `e`, so it is `e`.
    have heq : d = e := distinct.eq_of_text hd he
      (hkey.trans ((hkeys e he f hf same).symm.trans hs)) hs
    exact heq ▸ hiff.mp (heq ▸ equal)
  · rintro ⟨htexts, all⟩
    refine ⟨(pairs htexts).length_eq, fun e he => ?_⟩
    obtain ⟨f, hf, hkey, hiff⟩ := Listwise.exists_right (pairs htexts) he
    obtain ⟨s, hs⟩ := htexts e he
    exact ⟨f, hf, by rw [← hkey, hs]; exact Key.same_text_iff.mpr rfl, hiff.mpr (all e he)⟩

end Heap
end ScopeChain
