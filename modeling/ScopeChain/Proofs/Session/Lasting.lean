/-
What lasts in a session.

Scopes stay, and each keeps the parent that it was made with, which is older.  So whatever is
done later, the chain of a scope is the same list, and its depth and its root are the same.
-/
import ScopeChain.Proofs.Scope.Chain
import ScopeChain.Proofs.Session.Reach

namespace ScopeChain

theorem Locals.mem_entries_of_metadata? {l : Locals} {name : String} {m : Metadata}
    (h : l.metadata? name = some m) : ∃ value, ⟨name, value, some m⟩ ∈ l.entries := by
  obtain ⟨e, hfound, hm⟩ := Option.bind_eq_some_iff.mp h
  have hname : e.name = name := by simpa using List.find?_some hfound
  obtain ⟨_, value, metadata⟩ := e
  subst hname hm
  exact ⟨value, List.mem_of_find?_eq_some hfound⟩

theorem Locals.defines_of_metadata? {l : Locals} {name : String} {m : Metadata}
    (h : l.metadata? name = some m) : l.defines name = true := by
  obtain ⟨e, hfound, -⟩ := Option.bind_eq_some_iff.mp h
  rw [defines, hfound]
  rfl

theorem Forest.resolves_of_metadata {f : Forest} {b : ScopeId} {name : String} {m : Metadata}
    (h : f.metadata b name = some m) : f.resolves b name = true := by
  obtain ⟨c, hc, hm⟩ := List.exists_of_findSome?_eq_some h
  exact List.any_eq_true.mpr ⟨c, hc, Locals.defines_of_metadata? hm⟩

namespace Session

variable {s : Session} {b : ScopeId}

theorem Reachable.afterAll (reachable : s.Reachable) (events : List Event) :
    (s.afterAll events).Reachable := by
  obtain ⟨sources, before, rfl⟩ := reachable
  exact ⟨sources, before ++ events, (List.foldl_append ..).symm⟩

/-! ## Scopes -/

theorem Proper.extends_after (proper : s.Proper) (event : Event) :
    s.forest.Extends (s.after event).forest := by
  cases event with
  | make c => exact .refl s.forest
  | op op => exact (effect_step proper.sited op).forest

theorem Proper.extends_afterAll (proper : s.Proper) (events : List Event) :
    s.forest.Extends (s.afterAll events).forest := by
  induction events generalizing s with
  | nil => exact .refl s.forest
  | cons event rest ih => exact (proper.extends_after event).trans (ih (proper.after event))

/-- In every session that can be reached, a scope has an older parent or none, and its chain,
without a scope twice, is the scope and the chain of the parent.  Its root ends the chain, is
the only global scope on it and the root of all of them, and its depth counts what is behind it.
Nothing that is done later changes parent or chain.  What has metadata is a variable. -/
theorem chain_lasts (reachable : s.Reachable) (present : b < s.forest.size)
    (later : List Event) :
    ((∀ p, s.forest.parent? b = some p → p < b) ∧
      b < (s.afterAll later).forest.size ∧
      (s.afterAll later).forest.parent? b = s.forest.parent? b) ∧
    (s.forest.chain b = b :: ((s.forest.parent? b).map s.forest.chain).getD [] ∧
      (s.forest.chain b).Nodup ∧
      (s.afterAll later).forest.chain b = s.forest.chain b) ∧
    ((s.forest.chain b).getLast? = some (s.forest.root b) ∧
      ∀ c ∈ s.forest.chain b, s.forest.root c = s.forest.root b ∧
        (s.forest.isGlobal c = true ↔ c = s.forest.root b)) ∧
    (s.forest.depth b + 1 = (s.forest.chain b).length ∧
      ∀ p, s.forest.parent? b = some p → s.forest.depth b = s.forest.depth p + 1) ∧
    ∀ name m,
      ((s.forest.locals b).metadata? name = some m →
        (s.forest.locals b).defines name = true ∧
          ∃ value, ⟨name, value, some m⟩ ∈ (s.forest.locals b).entries) ∧
      (s.forest.metadata b name = some m → s.forest.resolves b name = true) := by
  have hextends := reachable.proper.extends_afterAll later
  refine ⟨⟨fun p hp => Forest.lt_of_parent? hp, Nat.lt_of_lt_of_le present hextends.size,
      hextends.parent? b present⟩, ⟨?_, Forest.nodup_chain s.forest b, hextends.chain present⟩,
    ⟨Forest.getLast?_chain s.forest b, fun c hc =>
      ⟨Forest.root_of_mem_chain hc, Forest.isGlobal_iff_of_mem_chain hc⟩⟩,
    ⟨(Forest.length_chain s.forest b).symm, fun p hp => Forest.depth_of_parent hp⟩,
    fun name m => ⟨fun h => ⟨Locals.defines_of_metadata? h, Locals.mem_entries_of_metadata? h⟩,
      Forest.resolves_of_metadata⟩⟩
  cases hp : s.forest.parent? b with
  | none => exact Forest.chain_of_global hp
  | some p => exact Forest.chain_of_parent hp

def threefold : Session := (start ⟨[], none⟩).afterAll [
  .op (.scope (.create none)), .op (.scope (.child 0)),
  .op (.scope (.set 1 "x" (.int 1) (some [(.text "unit", .text "m")]))), .op (.scope (.child 1))]

/-- The chain stays while it is written, captured and rebuilt, and while operations fail. -/
theorem threefold_chain_lasts :
    (threefold.afterAll [.op (.scope (.setGlobal 2 "y" .null)), .op (.snapshot (.capture 2)),
        .op (.snapshot (.restore 0)), .op (.scope (.get 2 "z"))]).forest.chain 2 = [2, 1, 0] ∧
      threefold.forest.depth 2 = threefold.forest.depth 1 + 1 ∧
      (threefold.forest.isGlobal 1 = true ↔ 1 = threefold.forest.root 2) ∧
      threefold.forest.resolves 2 "x" = true := by
  have hreachable : threefold.Reachable := ⟨_, _, rfl⟩
  have hchain : threefold.forest.chain 2 = [2, 1, 0] := by decide +kernel
  have hfound : threefold.forest.metadata 2 "x" = some [(.text "unit", .text "m")] := by
    rw [Forest.metadata, hchain]
    rfl
  obtain ⟨-, ⟨-, -, hlater⟩, ⟨-, hroot⟩, ⟨-, hdepth⟩, hmetadata⟩ :=
    chain_lasts hreachable (b := 2) (by decide +kernel)
      [.op (.scope (.setGlobal 2 "y" .null)), .op (.snapshot (.capture 2)),
        .op (.snapshot (.restore 0)), .op (.scope (.get 2 "z"))]
  refine ⟨hlater.trans hchain, hdepth 1 (by decide +kernel), (hroot 1 ?_).2,
    (hmetadata "x" _).2 hfound⟩
  rw [hchain]
  decide

end Session
end ScopeChain
