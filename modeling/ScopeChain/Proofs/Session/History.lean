/-
The history of a session.

What a scope holds is exactly what was written to it from the beginning on: of each name
the last value, and of the metadata the last that was supplied.
-/
import Mathlib.Data.List.Induction
import ScopeChain.Proofs.Session.Reach

namespace ScopeChain

namespace Write

def only (b : ScopeId) (name : String) (ws : List Write) : List Write :=
  ws.filter fun w => w.scope = b ∧ w.name = name

/-- What writes leave of one name in one scope: the value of the last of them, and the
metadata of the last that has any. -/
def remaining (b : ScopeId) (name : String) (ws : List Write) : Option Entry :=
  (only b name ws).getLast?.map fun w =>
    ⟨name, w.value, ((only b name ws).filterMap (·.metadata)).getLast?⟩

theorem metadata_remaining (b : ScopeId) (name : String) (ws : List Write) :
    (remaining b name ws).bind (·.metadata) =
      ((only b name ws).filterMap (·.metadata)).getLast? := by
  rw [remaining]
  cases h : only b name ws with
  | nil => rfl
  | cons w rest => rw [List.getLast?_cons]; rfl

theorem remaining_append_same (b : ScopeId) (name : String) (ws : List Write) (value : Value)
    (metadata : Option Metadata) :
    remaining b name (ws ++ [⟨b, name, value, metadata⟩]) =
      some ⟨name, value, metadata.or ((remaining b name ws).bind (·.metadata))⟩ := by
  have honly : only b name (ws ++ [⟨b, name, value, metadata⟩]) =
      only b name ws ++ [⟨b, name, value, metadata⟩] := by
    simp [only]
  rw [remaining, honly, metadata_remaining, List.getLast?_concat, List.filterMap_append]
  cases metadata <;> simp

theorem remaining_append_other {b : ScopeId} {name : String} {w : Write}
    (h : ¬ (w.scope = b ∧ w.name = name)) (ws : List Write) :
    remaining b name (ws ++ [w]) = remaining b name ws := by
  have honly : only b name (ws ++ [w]) = only b name ws := by
    simp [only, h]
  rw [remaining, honly, remaining]

/-- What is found of one name in one scope behind writes: what they leave, with the metadata of
before if they supply none, and what was found before if none of them is of that name. -/
def left (b : ScopeId) (name : String) (ws : List Write) (before : Option Entry) : Option Entry :=
  match remaining b name ws with
  | some e => some { e with metadata := e.metadata.or (before.bind (·.metadata)) }
  | none => before

theorem metadata_left (b : ScopeId) (name : String) (ws : List Write) (before : Option Entry) :
    (left b name ws before).bind (·.metadata) =
      ((remaining b name ws).bind (·.metadata)).or (before.bind (·.metadata)) := by
  rw [left]
  cases remaining b name ws <;> rfl

/-- What is found in a scope behind writes is decided by what they leave of each name. -/
theorem find?_replay_left (b : ScopeId) (name : String) (ws : List Write) (l : Locals) :
    (replay b ws l).find? name = left b name ws (l.find? name) := by
  induction ws using List.reverseRecOn with
  | nil => rfl
  | append_singleton ws w ih =>
    rw [replay_append]
    show (apply b (replay b ws l) w).find? name = _
    obtain ⟨scope, other, value, metadata⟩ := w
    rw [apply]
    by_cases hscope : scope = b
    · rw [if_pos hscope]
      by_cases hname : name = other
      · subst hscope hname
        rw [Locals.find?_set_self, ih, metadata_left, left, remaining_append_same,
          ← Option.or_assoc]
      · rw [Locals.find?_set_of_ne _ _ _ hname, ih, left, left, remaining_append_other _ ws]
        exact fun h => hname h.2.symm
    · rw [if_neg hscope, ih, left, left, remaining_append_other _ ws]
      exact fun h => hscope h.1

/-- What is found in a scope that writes have filled is what they left. -/
theorem find?_replay (b : ScopeId) (name : String) (ws : List Write) :
    (replay b ws .empty).find? name = remaining b name ws := by
  rw [find?_replay_left, Locals.find?_empty, left]
  cases remaining b name ws with
  | none => rfl
  | some e => exact congrArg some (by rw [Option.bind_none, Option.or_none])

end Write

namespace Session

def eventWrites (s : Session) : Event → List Write
  | .make _ => []
  | .op op => s.writes op

def history (s : Session) : List Event → List Write
  | [] => []
  | event :: rest => s.eventWrites event ++ (s.after event).history rest

theorem Proper.locals_after {s : Session} (proper : s.Proper) (event : Event) (b : ScopeId) :
    (s.after event).forest.locals b =
      Write.replay b (s.eventWrites event) (s.forest.locals b) := by
  cases event with
  | make c => rfl
  | op op =>
    have heffect := effect_step proper.sited op
    show (s.step op).1.forest.locals b = Write.replay b (s.writes op) _
    rw [writes]
    cases ha : (s.step op).2.answer with
    | ok a => exact (heffect.done a ha).locals b
    | error e =>
      rw [heffect.failed e ha]
      rfl

theorem Proper.locals_afterAll {s : Session} (proper : s.Proper) (events : List Event)
    (b : ScopeId) :
    (s.afterAll events).forest.locals b =
      Write.replay b (s.history events) (s.forest.locals b) := by
  induction events generalizing s with
  | nil => rfl
  | cons event rest ih =>
    rw [history, Write.replay_append, ← proper.locals_after event b]
    exact ih (proper.after event)

/-- What a scope holds is what the history left: in the order of the names, of each name that
was written the last value, with the last metadata that was supplied. -/
theorem locals_eq_history (sources : Sources) (events : List Event) (b : ScopeId) :
    Entry.Sorted (((start sources).afterAll events).forest.locals b).entries ∧
      ∀ e, e ∈ (((start sources).afterAll events).forest.locals b).entries ↔
        Write.remaining b e.name ((start sources).history events) = some e := by
  refine ⟨Locals.sorted _, fun e => ?_⟩
  have hbegin : (start sources).forest.locals b = .empty := Forest.locals_of_le (Nat.zero_le b)
  rw [Locals.mem_entries_iff, (proper_start sources).locals_afterAll, hbegin,
    Write.find?_replay]

end Session
end ScopeChain
