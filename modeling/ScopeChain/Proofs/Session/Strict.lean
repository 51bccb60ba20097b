/-
What is serialized is JSON.

Whatever the values of a chain hold, the text that it is written as is derived by the grammar: NaN
and the infinities are written as null, characters that may not stand in a string are escaped, and
of keys that are written as one name only one stays.
-/
import ScopeChain.Proofs.Json.Strict
import ScopeChain.Proofs.Session.RoundTrip
import ScopeChain.Proofs.Session.Stored
import ScopeChain.Proofs.Snapshot.Regular

namespace ScopeChain

open Snapshot (levelLimit)

namespace Session

variable {s : Session} {b : ScopeId} {c : Config} {snapshot : Snapshot}
  {wss : List (List Written)}

/-- What is written of a chain has distinct names and finite doubles. -/
theorem Serializes.regular (serializes : s.Serializes b c snapshot wss) :
    (Written.chainTree wss).Regular (2 * levelLimit + 2) := by
  obtain ⟨-, hshaped, -⟩ := Snapshot.capture_eq_ok.mp serializes.captured
  exact (Snapshot.regular_trees s.heap s.snapshots levelLimit).2 _ _ _ _
    ((Snapshot.framesTree_eq_ok hshaped).mpr ⟨wss, serializes.written, rfl⟩)

/-- Every text that is answered for a chain is derived by the grammar of JSON, whatever values and
metadata the chain holds.  So it has numbers only as the grammar has them, no NaN and no infinity,
all characters in its strings are escaped that have to be, and no object in it has two members
whose names spell the same. -/
theorem serialize_derives {text : String}
    (answered : (s.step (.snapshot (.serialize b))).2.answer = .ok (.text text)) :
    Json.Grammar.Derives text.toList := by
  obtain ⟨c, snapshot, wss, hserializes, rfl⟩ := serialize_eq_ok.mp answered
  exact Json.derives_render hserializes.regular.distinct hserializes.regular.doubles

def awkward : Session := (start ⟨[], none⟩).afterAll [
  .make (.list [.float .nan, .float (.infinite true)]),
  .make (.dict [(.int 1, .container 0), (.text "1", .text "\x5c\x22")]),
  .op (.scope (.create none)), .op (.scope (.set 0 "x\x01" (.container 0) none)),
  .op (.scope (.set 0 "y" (.container 1) none))]

theorem awkward_derives : ∃ text,
    (awkward.step (.snapshot (.serialize 0))).2.answer = .ok (.text text) ∧
      Json.Grammar.Derives text.toList := by
  obtain ⟨text, htext⟩ : ∃ text,
      (awkward.step (.snapshot (.serialize 0))).2.answer = .ok (.text text) :=
    ⟨_, by with_unfolding_all rfl⟩
  exact ⟨text, htext, serialize_derives htext⟩

end Session
end ScopeChain
