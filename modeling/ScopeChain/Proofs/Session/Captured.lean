/-
What is captured of a chain.

A chain is captured unless it is deeper than the configuration allows or has a metadata key that
is no text.  The frames of the snapshot show the scopes of the chain, one after the other from the
captured one outward: what the scopes answer about their depth, whether they are global and which
variables they have is what the frames hold.
-/
import ScopeChain.Proofs.Session.Accepted
import ScopeChain.Proofs.Session.Isolated

namespace ScopeChain

def Frame.level (frame : Frame) : Level := ⟨frame.depth, frame.isGlobal⟩

theorem Snapshot.Shaped.counted {frames : List Frame} (shaped : Shaped frames) :
    Counted (frames.map Frame.level) := by
  induction frames with
  | nil => trivial
  | cons frame outer ih =>
    obtain ⟨hdepth, hglobal, houter⟩ := shaped
    refine ⟨?_, ?_, ih houter⟩
    · rw [List.length_map]
      exact congrArg Nat.cast hdepth
    · rw [List.isEmpty_map]
      exact hglobal

namespace Session

variable {s : Session} {c : Config} {b : ScopeId}

/-! ## Frames -/

/-- What a frame shows of a scope: all that the scope answers about its place and its
variables. -/
structure Shows (s : Session) (frame : Frame) (d : ScopeId) : Prop where
  depth : s.ask (.depth d) = .reply (.number frame.depth)
  isGlobal : s.ask (.isGlobal d) = .reply (.flag frame.isGlobal)
  items : s.ask (.localItems d) = .reply (.items frame.entries)

/-- Frames in the shape of a chain, with the variables of a chain of as many scopes, show it. -/
theorem shows_of_shaped {frames : List Frame} (present : b < s.forest.size)
    (shaped : Snapshot.Shaped frames)
    (entries : List.Forall₂ (fun d frame => frame.entries = (s.forest.locals d).entries)
      (s.forest.chain b) frames) :
    List.Forall₂ s.Shows frames (s.forest.chain b) := by
  have hlevels := Forest.levels_chain (f := s.forest) (b := b) shaped.counted
    (by rw [List.length_map, entries.length_eq])
  rw [List.forall₂_map_left_iff] at hlevels
  refine Listwise.imp (hlevels.mp (fun _ _ => And.intro) entries.flip)
    fun frame _ d hd ⟨⟨hdepth, hglobal⟩, hentries⟩ => ?_
  have hpresent : d < s.forest.size := Nat.lt_of_le_of_lt (Forest.le_of_mem_chain hd) present
  refine ⟨?_, ?_, ?_⟩
  · rw [ask_depth hpresent, ← Int.ofNat.inj hdepth]
  · rw [ask_isGlobal hpresent, ← hglobal]
    rfl
  · rw [ask_localItems hpresent, ← hentries]

/-- With a configuration that is kept, a chain whose metadata keys are texts is refused exactly if
it is deeper than the limit, and then for this reason.  Otherwise it is captured, whatever its
values are: the snapshot counts one scope more than the chain is deep, and its frames show the
scopes of the chain from the captured one outward. -/
theorem capture_exact (reachable : s.Reachable) (kept : s.config = some c)
    (present : b < s.forest.size)
    (texts : ∀ d ∈ s.forest.chain b, (s.forest.locals d).TextKeyed) :
    let r := s.step (.snapshot (.capture b))
    s.ask (.depth b) = .reply (.number (s.forest.depth b)) ∧
    ((∃ e, r.2.answer = .error e) ↔ c.maxSnapshotDepth < s.forest.depth b) ∧
    (c.maxSnapshotDepth < s.forest.depth b →
      r = (s, .fail (.snapshot (.tooDeep (s.forest.depth b) c.maxSnapshotDepth)))) ∧
    (s.forest.depth b ≤ c.maxSnapshotDepth → ∃ id frames ds,
      r.2.answer = .ok (.snapshot id) ∧
      (r.1.step (.snapshot (.frames id))).2 = .reply (.frames frames) ∧
      s.ask (.chain b) = .reply (.scopes ds) ∧ List.Forall₂ s.Shows frames ds ∧
      (r.1.step (.snapshot (.scopeCount id))).2 =
        .reply (.number (s.forest.depth b + 1))) := by
  have hknown := configuration_of_kept kept
  have hself : ({ s with config := some c } : Session) = s := by rw [← kept]
  obtain ⟨snapshot, hcapture, hentries⟩ := Snapshot.capture_of_plain fun d hd e he m hm =>
    ⟨texts d hd e he m hm, reachable.proper.scopes d e he m hm⟩
  intro r
  have hdeep : c.maxSnapshotDepth < s.forest.depth b →
      r = (s, .fail (.snapshot (.tooDeep (s.forest.depth b) c.maxSnapshotDepth))) := fun deep => by
    rw [← hself]
    exact capture_of_deep hknown present deep
  refine ⟨ask_depth present, ⟨fun ⟨e, he⟩ => ?_, fun deep => ⟨_, by rw [hdeep deep]; rfl⟩⟩, hdeep,
    fun shallow => ?_⟩
  · by_contra shallow
    rw [show r = _ from capture_of_ok hknown present (Nat.le_of_not_lt shallow) hcapture] at he
    cases he
  · obtain ⟨-, hshaped, -⟩ := Snapshot.capture_eq_ok.mp hcapture
    have hcount : snapshot.scopeCount = s.forest.depth b + 1 := by
      rw [Snapshot.scopeCount, ← hentries.length_eq, Forest.length_chain]
    rw [show r = _ from capture_of_ok hknown present shallow hcapture]
    refine ⟨_, snapshot.frames, s.forest.chain b, rfl, ?_, ask_chain present,
      shows_of_shaped present hshaped hentries, ?_⟩
    · rw [frames_of_found Array.getElem?_push_size]
    · rw [scopeCount_of_found Array.getElem?_push_size, hcount]

def limited : Session := (start ⟨[("SCRIPTENV_MAX_SNAPSHOT_DEPTH", "1")], none⟩).afterAll [
  .op (.settings .current), .make (.list []), .op (.host (.append 0 (.container 0))),
  .op (.scope (.create none)), .op (.scope (.set 0 "x" (.container 0) (some []))),
  .op (.scope (.set 0 "" (.object "o") none)), .op (.scope (.child 0)),
  .op (.scope (.set 1 "y" (.scope 1) none)), .op (.scope (.child 1))]

/-- Two of its scopes are captured as they are, and the chain of all three is too deep. -/
theorem limited_captured :
    (∃ id frames, (limited.step (.snapshot (.capture 1))).2.answer = .ok (.snapshot id) ∧
      ((limited.step (.snapshot (.capture 1))).1.step (.snapshot (.frames id))).2 =
        .reply (.frames frames) ∧
      List.Forall₂ limited.Shows frames [1, 0]) ∧
    limited.step (.snapshot (.capture 2)) = (limited, .fail (.snapshot (.tooDeep 2 1))) := by
  have hreachable : limited.Reachable := ⟨_, _, rfl⟩
  have hkept : limited.config = some ⟨"self", "context", true, 1⟩ := by rfl
  have hinner : limited.forest.chain 1 = [1, 0] := by decide +kernel
  have hall : limited.forest.chain 2 = [2, 1, 0] := by decide +kernel
  have htexts : ∀ d ∈ limited.forest.chain 2, (limited.forest.locals d).TextKeyed := by
    rw [hall]
    intro d hd e he m hm
    simp only [List.mem_cons, List.not_mem_nil, or_false] at hd
    rcases hd with rfl | rfl | rfl
    · cases he
    · obtain rfl : e = ⟨"y", .scope 1, none⟩ := List.mem_singleton.mp he
      cases hm
    · obtain rfl | he := List.mem_cons.mp (show e ∈ ⟨"", .object "o", none⟩ :: _ from he)
      · cases hm
      · obtain rfl : e = ⟨"x", .container 0, some []⟩ := List.mem_singleton.mp he
        cases hm
        exact fun p hp => absurd hp List.not_mem_nil
  have htexts' : ∀ d ∈ limited.forest.chain 1, (limited.forest.locals d).TextKeyed := by
    rw [hinner]
    exact fun d hd => htexts d (hall ▸ List.mem_cons_of_mem 2 hd)
  obtain ⟨-, -, -, hcaptured⟩ := capture_exact hreachable hkept (b := 1) (by decide) htexts'
  obtain ⟨-, -, hrefused, -⟩ := capture_exact hreachable hkept (b := 2) (by decide) htexts
  have hdepth : limited.forest.depth 1 = 1 := by rw [Forest.depth, Forest.enclosing, hinner]; rfl
  have hdepth' : limited.forest.depth 2 = 2 := by rw [Forest.depth, Forest.enclosing, hall]; rfl
  obtain ⟨id, frames, ds, hanswer, hframes, hchain, hshows, -⟩ := hcaptured (by rw [hdepth])
  rw [ask_chain (by decide), hinner] at hchain
  cases hchain
  rw [hdepth'] at hrefused
  exact ⟨⟨id, frames, hanswer, hframes, hshows⟩, hrefused (by decide)⟩

end Session
end ScopeChain
