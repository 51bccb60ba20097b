/-
What is written of scopes that nest.

If the values of variables nest within the levels that there are, and hold only what JSON has, the
variables spell out what can be written and read back: it is as deep as the values, has no double
names and no integer that is too long.
-/
import Mathlib.Data.Nat.Digits.Defs
import ScopeChain.Proofs.Value.Copies

namespace ScopeChain

open Snapshot (levelLimit)

/-- Whether scopes with these variables, each inside the next, nest within so many levels.  A scope
takes one, a variable in it one more, and then each container in a value. -/
def Heap.NestsChain (h : Heap) : Nat → List (List Entry) → Prop
  | _, [] => True
  | 0, _ :: _ => False
  | room + 1, es :: outer =>
    (∀ e ∈ es, ∀ v ∈ e.values, ∃ n < room, h.Nests n v) ∧ h.NestsChain room outer

variable {h : Heap} {room : Nat}

theorem Heap.NestsChain.nests {ess : List (List Entry)} (nests : h.NestsChain room ess)
    {es : List Entry} (hes : es ∈ ess) {e : Entry} (he : e ∈ es) {v : Value} (hv : v ∈ e.values) :
    ∃ n, h.Nests n v := by
  induction ess generalizing room with
  | nil => cases hes
  | cons fs outer ih =>
    cases room with
    | zero => exact nests.elim
    | succ room =>
      rcases List.mem_cons.mp hes with rfl | hes
      · obtain ⟨n, -, hn⟩ := nests.1 e he v hv
        exact ⟨n, hn⟩
      · exact ih nests.2 hes

theorem Entry.exists_written {e : Entry} (proper : h.Proper) (plain : e.Plain)
    (nests : ∀ v ∈ e.values, ∃ n < room, h.Nests n v)
    (writable : ∀ v ∈ e.values, ∀ w, h.Holds v w → h.Writable w) :
    ∃ w, e.Spells h.listed w ∧ w.Sound ∧ w.Fits room ∧ w.tree.hasLongInteger = false := by
  have hall : ∀ v ∈ e.values, ∃ j, h.listed.Spells v j ∧ Json.Moderate room j := by
    intro v hv
    obtain ⟨n, hn, hnests⟩ := nests v hv
    obtain ⟨j, hspelled, hlevels, hshort⟩ := Heap.exists_spells hnests (writable v hv)
    exact ⟨j, hspelled, by omega, hshort⟩
  have hexact : ∀ {v j}, h.listed.Spells v j → Written.Exact j := fun hspelled =>
    ⟨Heap.distinct_of_spells proper.listed hspelled, Heap.noDouble_of_spells hspelled⟩
  obtain ⟨name, value, metadata⟩ := e
  obtain ⟨j, hspelled, hlevels, hshort⟩ := hall value List.mem_cons_self
  cases metadata with
  | none =>
    refine ⟨⟨name, j, none⟩, ⟨rfl, hspelled, .none⟩, ⟨hexact hspelled, fun _ h => nomatch h⟩,
      ⟨hlevels, fun _ h => nomatch h⟩, ?_⟩
    simp [Written.tree, Json.hasLongInteger, Json.memberLongInteger, hshort]
  | some m =>
    obtain ⟨htexts, hdistinct⟩ := plain m rfl
    obtain ⟨members, hmembers, hmoderate⟩ := Heap.exists_spellsMembers htexts
      fun v hv => hall v (List.mem_cons_of_mem _ hv)
    have hobject : Written.Exact (.object members) := by
      refine Written.exact_object (Heap.nodup_of_spellsMembers hdistinct hmembers) fun p hp => ?_
      obtain ⟨q, -, -, hq⟩ := Listwise.exists_left (Heap.spellsMembers_iff.mp hmembers) hp
      exact hexact hq
    have hlong : Json.memberLongInteger members = false :=
      Json.memberLongInteger_eq_false.mpr fun p hp => (hmoderate p hp).2
    refine ⟨⟨name, j, some members⟩, ⟨rfl, hspelled, .some hmembers⟩, ⟨hexact hspelled, ?_⟩,
      ⟨hlevels, ?_⟩, ?_⟩
    · rintro ms ⟨⟩
      exact hobject
    · rintro ms ⟨⟩ p hp
      exact (hmoderate p hp).1
    · simp [Written.tree, Json.hasLongInteger, Json.memberLongInteger, hshort, hlong]

/-- What is written of scopes that nest. -/
theorem exists_written_chain {ess : List (List Entry)} (proper : h.Proper)
    (plain : ∀ es ∈ ess, ∀ e ∈ es, e.Plain) (nests : h.NestsChain room ess)
    (writable : ∀ es ∈ ess, ∀ e ∈ es, ∀ v ∈ e.values, ∀ w, h.Holds v w → h.Writable w) :
    ∃ wss, List.Forall₂ (List.Forall₂ (Entry.Spells h.listed)) ess wss ∧
      (∀ ws ∈ wss, ∀ w ∈ ws, w.Sound ∧ w.tree.hasLongInteger = false) ∧
      Written.FitsChain room wss := by
  induction ess generalizing room with
  | nil => exact ⟨[], .nil, fun _ hws => absurd hws List.not_mem_nil, by simp [Written.FitsChain]⟩
  | cons es outer ih =>
    cases room with
    | zero => exact nests.elim
    | succ room =>
      obtain ⟨hnests, houter⟩ := nests
      obtain ⟨ws, hws⟩ := Listwise.exists_partners fun e he => Entry.exists_written proper
        (plain es List.mem_cons_self e he) (hnests e he) (writable es List.mem_cons_self e he)
      obtain ⟨wss, hwss, hsound, hfits⟩ := ih (fun fs hfs => plain fs (List.mem_cons_of_mem _ hfs))
        houter fun fs hfs => writable fs (List.mem_cons_of_mem _ hfs)
      refine ⟨ws :: wss, .cons (hws.imp fun _ _ h => h.1) hwss, fun us hus w hw => ?_,
        fun w hw => ?_, hfits⟩
      · rcases List.mem_cons.mp hus with rfl | hus
        · obtain ⟨e, -, -, hw, -, hshort⟩ := Listwise.exists_left hws hw
          exact ⟨hw, hshort⟩
        · exact hsound us hus w hw
      · obtain ⟨e, -, -, -, hfit, -⟩ := Listwise.exists_left hws hw
        exact hfit

theorem Written.short_chainTree {wss : List (List Written)}
    (short : ∀ ws ∈ wss, ∀ w ∈ ws, w.tree.hasLongInteger = false)
    (few : wss.length ≤ levelLimit) : (chainTree wss).hasLongInteger = false := by
  induction wss with
  | nil => rfl
  | cons ws outer ih =>
    have hlength : outer.length + 1 ≤ levelLimit := few
    have hlimit : levelLimit < 10 ^ 3 := by decide
    have hdigits : (Digits.ofNat outer.length).length ≤ 3 :=
      Nat.toDigits_length 10 outer.length 3 (by decide) (by omega)
    have hmany : 3 ≤ Json.digitLimit := by decide
    have hdepth : Json.hasLongInteger (.int outer.length) = false := by
      have hnat : (outer.length : Int).natAbs = outer.length := Int.natAbs_natCast _
      simp only [Json.hasLongInteger, hnat, decide_eq_false_iff_not]
      omega
    have hvariables : Json.hasLongInteger (.array (ws.map tree)) = false := by
      refine Json.anyLongInteger_eq_false.mpr fun j hj => ?_
      obtain ⟨w, hw, rfl⟩ := List.mem_map.mp hj
      exact short ws List.mem_cons_self w hw
    have houter := ih (fun us hus => short us (List.mem_cons_of_mem _ hus)) (by omega)
    refine Json.memberLongInteger_eq_false.mpr fun m hm => ?_
    simp only [List.mem_cons, List.not_mem_nil, or_false] at hm
    rcases hm with rfl | rfl | rfl | rfl
    · exact hdepth
    · rfl
    · exact hvariables
    · exact houter

theorem Written.short_of_chainTree {wss : List (List Written)}
    (short : (chainTree wss).hasLongInteger = false) :
    ∀ ws ∈ wss, ∀ w ∈ ws, w.tree.hasLongInteger = false := by
  induction wss with
  | nil => exact fun _ hws => absurd hws List.not_mem_nil
  | cons ws outer ih =>
    have hmembers := Json.memberLongInteger_eq_false.mp short
    have hvariables : Json.hasLongInteger (.array (ws.map tree)) = false :=
      hmembers ("variables", .array (ws.map tree)) (by simp)
    intro us hus w hw
    rcases List.mem_cons.mp hus with rfl | hus
    · exact Json.anyLongInteger_eq_false.mp hvariables _ (List.mem_map_of_mem hw)
    · exact ih (hmembers ("parent", chainTree outer) (by simp)) us hus w hw

end ScopeChain
