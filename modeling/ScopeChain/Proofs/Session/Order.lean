/-
The order of writes.

Operations that bind names leave of each name in each scope the last value and the last metadata
that was supplied.  Where two runs of them agree on these, they end in one session, so that
nothing that is asked afterwards tells them apart.  In particular writes to different scopes and
writes of different names commute.
-/
import ScopeChain.Proofs.Session.History
import ScopeChain.Proofs.Session.Seen

namespace ScopeChain

theorem Forest.eq_of_scopes {f g : Forest} (size : f.size = g.size)
    (parent? : ∀ b, f.parent? b = g.parent? b) (locals : ∀ b, f.locals b = g.locals b) :
    f = g := by
  obtain ⟨scopes, older⟩ := f
  obtain ⟨scopes', older'⟩ := g
  have hscopes : scopes = scopes' := by
    refine Array.ext size fun b lt lt' => ?_
    have hparent := parent? b
    have hlocals := locals b
    simp only [Forest.parent?, Forest.locals, Array.getElem?_eq_getElem lt,
      Array.getElem?_eq_getElem lt', Option.bind_some] at hparent hlocals
    generalize scopes[b] = c, scopes'[b] = d at hparent hlocals
    cases c
    cases d
    exact congr (congrArg Scope.mk hparent) hlocals
  subst hscopes
  rfl

namespace Write

def Same (ws us : List Write) : Prop := ∀ b name, remaining b name ws = remaining b name us

variable {ws us : List Write} {w u : Write}

/-- Writes that leave the same have the same effect on variables, whatever these were. -/
theorem Same.replay_eq (same : Same ws us) (b : ScopeId) (l : Locals) :
    replay b ws l = replay b us l := by
  refine Locals.eq_of_find? fun name => ?_
  rw [find?_replay_left, find?_replay_left, left, left, same b name]

theorem same_swap (apart : w.scope ≠ u.scope ∨ w.name ≠ u.name) : Same [w, u] [u, w] := by
  intro b name
  by_cases hw : w.scope = b ∧ w.name = name
  · have hu : ¬ (u.scope = b ∧ u.name = name) := fun hu =>
      apart.elim (· (hw.1.trans hu.1.symm)) (· (hw.2.trans hu.2.symm))
    have honly : only b name [w, u] = only b name [u, w] := by simp [only, hw, hu]
    rw [remaining, remaining, honly]
  · have honly : only b name [w, u] = only b name [u, w] := by
      simp [only, List.filter_cons, hw]
    rw [remaining, remaining, honly]

end Write

namespace Session

variable {s : Session} {op other : Op} {xs ys : List Op} {b c : ScopeId} {u w : Write}
  {us ws : List Write}

/-! ## Many writes -/

def writtenAll (s : Session) (ws : List Write) : Session := ws.foldl written s

theorem writtenAll_eq (s : Session) (ws : List Write) :
    s.writtenAll ws = { s with forest := (s.writtenAll ws).forest } := by
  induction ws generalizing s with
  | nil => rfl
  | cons w ws ih => exact ih (s.written w)

theorem size_writtenAll (s : Session) (ws : List Write) :
    (s.writtenAll ws).forest.size = s.forest.size := by
  induction ws generalizing s with
  | nil => rfl
  | cons w ws ih => exact (ih (s.written w)).trans (Forest.size_write ..)

theorem parent?_writtenAll (s : Session) (ws : List Write) (b : ScopeId) :
    (s.writtenAll ws).forest.parent? b = s.forest.parent? b := by
  induction ws generalizing s with
  | nil => rfl
  | cons w ws ih => exact (ih (s.written w)).trans (Forest.parent?_write ..)

theorem locals_writtenAll (present : ∀ w ∈ ws, w.scope < s.forest.size) (b : ScopeId) :
    (s.writtenAll ws).forest.locals b = Write.replay b ws (s.forest.locals b) := by
  induction ws generalizing s with
  | nil => rfl
  | cons w ws ih =>
    have hwrite : s.forest.Becomes [w] (s.written w).forest :=
      .write (present w List.mem_cons_self) w.name w.value w.metadata
    have hrest : ∀ u ∈ ws, u.scope < (s.written w).forest.size := fun u hu =>
      Nat.lt_of_lt_of_eq (present u (List.mem_cons_of_mem w hu)) (Forest.size_write ..).symm
    show ((s.written w).writtenAll ws).forest.locals b = _
    rw [ih hrest, hwrite.locals b]
    rfl

theorem writtenAll_of_same (hws : ∀ w ∈ ws, w.scope < s.forest.size)
    (hus : ∀ u ∈ us, u.scope < s.forest.size) (same : Write.Same ws us) :
    s.writtenAll ws = s.writtenAll us := by
  have hforest : (s.writtenAll ws).forest = (s.writtenAll us).forest := by
    refine Forest.eq_of_scopes ?_ (fun b => ?_) fun b => ?_
    · rw [size_writtenAll, size_writtenAll]
    · rw [parent?_writtenAll, parent?_writtenAll]
    · rw [locals_writtenAll hws, locals_writtenAll hus, same.replay_eq]
  rw [writtenAll_eq s ws, writtenAll_eq s us, hforest]

/-! ## Runs that bind names -/

/-- An operation that binds a name makes the same write after another write: roots, scripts and
host dicts are where they were. -/
theorem Binds.written (binds : s.Binds op b w) (u : Write) : (s.written u).Binds op b w := by
  have hsize : (s.written u).forest.size = s.forest.size := Forest.size_write ..
  have hroot : ∀ c, (s.written u).forest.root c = s.forest.root c := fun c =>
    Forest.root_write ..
  cases binds with
  | set present => exact .set (hsize ▸ present)
  | setGlobal present => exact hroot b ▸ .setGlobal (hsize ▸ present)
  | scriptSet found => exact .scriptSet found
  | scriptSetGlobal found => exact hroot _ ▸ .scriptSetGlobal found

/-- Operations that bind one name each, and their writes.  What an operation writes is settled
before the first of them. -/
def BindAll (s : Session) (xs : List Op) (ws : List Write) : Prop :=
  List.Forall₂ (fun op w => ∃ b, s.Binds op b w) xs ws

namespace BindAll

theorem present (bind : s.BindAll xs ws) (sited : s.Sited) :
    ∀ w ∈ ws, w.scope < s.forest.size := by
  induction bind with
  | nil => exact fun w hw => absurd hw List.not_mem_nil
  | cons head _ ih =>
    obtain ⟨b, binds⟩ := head
    exact List.forall_mem_cons.mpr ⟨binds.target_present sited, ih⟩

theorem written (bind : s.BindAll xs ws) (u : Write) : (s.written u).BindAll xs ws :=
  bind.imp fun _ _ ⟨b, binds⟩ => ⟨b, binds.written u⟩

theorem run (bind : s.BindAll xs ws) : (s.run xs).1 = s.writtenAll ws := by
  induction xs generalizing s ws with
  | nil =>
    cases bind
    rfl
  | cons op xs ih =>
    cases bind with
    | cons head rest =>
      obtain ⟨b, binds⟩ := head
      show ((s.step op).1.run xs).1 = _
      rw [binds.step, ih (BindAll.written rest _)]
      rfl

/-- Runs whose writes leave the same end in one session. -/
theorem run_of_same (hxs : s.BindAll xs us) (hys : s.BindAll ys ws) (sited : s.Sited)
    (same : Write.Same us ws) : (s.run xs).1 = (s.run ys).1 := by
  rw [hxs.run, hys.run, writtenAll_of_same (hxs.present sited) (hys.present sited) same]

end BindAll

/-- Operations that bind names are told apart by what they leave, and not by their order.  Behind
two runs of them that leave the same last value and the same last metadata of each name in each
scope, a global write being one to the root, all further operations have the same outcomes: what
is found, listed and described in every scope, what its snapshots hold, and the text that it is
written as or the error.  So have they behind two writes to different scopes or of different
names in either order. -/
theorem outcomes_of_same_last (reachable : s.Reachable) :
    (∀ xs ys us ws, s.BindAll xs us → s.BindAll ys ws →
      (∀ b name, Write.remaining b name us = Write.remaining b name ws) →
      ∀ ops, (s.run xs).1.run ops = (s.run ys).1.run ops) ∧
    (∀ op other b c w u, s.Binds op b w → s.Binds other c u →
      w.scope ≠ u.scope ∨ w.name ≠ u.name →
      ∀ ops, (s.run [op, other]).1.run ops = (s.run [other, op]).1.run ops) := by
  have hsited := reachable.proper.sited
  refine ⟨fun xs ys us ws hxs hys same ops => ?_, fun op other b c w u hop hother apart ops => ?_⟩
  · rw [hxs.run_of_same hys hsited same]
  · have hswap : s.BindAll [op, other] [w, u] := .cons ⟨b, hop⟩ (.cons ⟨c, hother⟩ .nil)
    have hswapped : s.BindAll [other, op] [u, w] := .cons ⟨c, hother⟩ (.cons ⟨b, hop⟩ .nil)
    rw [hswap.run_of_same hswapped hsited (Write.same_swap apart)]

/-- A value that is written anew without metadata and a global write from another scope leave
what other writes in another order leave, and a global write commutes with one to a child. -/
theorem siblings_outcomes :
    let unit : Metadata := [(.text "unit", .text "m")]
    (siblings.run [.scope (.set 1 "x" (.int 1) (some unit)),
        .scope (.setGlobal 3 "z" (.int 2)), .scope (.set 1 "x" (.int 5) none),
        .scope (.set 0 "z" (.int 3) none)]).1.run [.snapshot (.serialize 3)] =
      (siblings.run [.scope (.setGlobal 2 "z" (.int 3)), .scope (.set 1 "x" (.int 4) none),
        .scope (.set 1 "x" (.int 5) (some unit))]).1.run [.snapshot (.serialize 3)] ∧
    (siblings.run [.scope (.setGlobal 3 "x" (.int 1)),
        .scope (.set 1 "x" (.int 2) none)]).1.run [.scope (.localItems 0)] =
      (siblings.run [.scope (.set 1 "x" (.int 2) none),
        .scope (.setGlobal 3 "x" (.int 1))]).1.run [.scope (.localItems 0)] := by
  intro unit
  have hreachable : siblings.Reachable := ⟨_, _, rfl⟩
  have hset : ∀ b < 4, ∀ name value metadata,
      siblings.Binds (.scope (.set b name value metadata)) b
        ⟨b, name, value, metadata.map dictOf⟩ :=
    fun b lt name value metadata => .set (Nat.lt_of_lt_of_eq lt (by decide +kernel))
  have hglobal : ∀ b < 4, ∀ name value,
      siblings.Binds (.scope (.setGlobal b name value)) b
        ⟨siblings.forest.root b, name, value, none⟩ :=
    fun b lt name value => .setGlobal (Nat.lt_of_lt_of_eq lt (by decide +kernel))
  have hroot : siblings.forest.root 2 = 0 ∧ siblings.forest.root 3 = 0 := by decide +kernel
  obtain ⟨hruns, hswap⟩ := outcomes_of_same_last hreachable
  refine ⟨?_, hswap _ _ 3 1 _ _ (hglobal 3 (by decide) "x" (.int 1))
    (hset 1 (by decide) "x" (.int 2) none) (Or.inl ?_) _⟩
  · refine hruns _ _ _ _
      (.cons ⟨_, hset 1 (by decide) "x" (.int 1) (some unit)⟩
        (.cons ⟨_, hglobal 3 (by decide) "z" (.int 2)⟩
          (.cons ⟨_, hset 1 (by decide) "x" (.int 5) none⟩
            (.cons ⟨_, hset 0 (by decide) "z" (.int 3) none⟩ .nil))))
      (.cons ⟨_, hglobal 2 (by decide) "z" (.int 3)⟩
        (.cons ⟨_, hset 1 (by decide) "x" (.int 4) none⟩
          (.cons ⟨_, hset 1 (by decide) "x" (.int 5) (some unit)⟩ .nil)))
      (fun b name => ?_) _
    rw [hroot.1, hroot.2]
    by_cases hx : 1 = b ∧ "x" = name
    · obtain ⟨rfl, rfl⟩ := hx
      rfl
    · by_cases hz : 0 = b ∧ "z" = name
      · obtain ⟨rfl, rfl⟩ := hz
        rfl
      · simp [Write.remaining, Write.only, hx, hz]
  · show siblings.forest.root 3 ≠ 1
    rw [hroot.2]
    decide

end Session
end ScopeChain
