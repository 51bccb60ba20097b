/-
The configuration in force does not move between reloads.

It is the one that was loaded by the first call for it that returned since the session began or
since the last reload.  A call that fails leaves nothing, so that the next one loads again, from
the sources as they are then.  Once there is a configuration, what is done about the sources is
heard by nothing but a reload.
-/
import Mathlib.Data.List.Induction
import ScopeChain.Proofs.Session.Asking
import ScopeChain.Proofs.Session.Kept

namespace ScopeChain

def Event.aboutSources : Event → Bool
  | .make _ => false
  | .op o => o.aboutSources

namespace Session

variable {s : Session} {op : Op} {event : Event} {events : List Event} {sources : Sources}
  {c : Config}

/-! ## What is kept after one event -/

theorem apart_of_asks (asks : s.Asks op) : op.aboutSources = false := by
  cases op with
  | settings op =>
    cases op with
    | current => rfl
    | reload => rfl
    | _ => exact asks.elim
  | _ => rfl

theorem step_reload (s : Session) :
    s.step (.settings .reload) = match s.loads with
      | .ok c => (s.under (some c) s.sources, .reply (.config c))
      | .error e => (s.under none s.sources, .fail (.settings e)) := by
  have hloads : configuration { s with config := none } = s.loads := configuration_of_none rfl
  show (withConfig { s with config := none } fun s c => s.answer (.config c)) = _
  cases h : s.loads with
  | ok c =>
    rw [withConfig_of_ok (hloads.trans h)]
    rfl
  | error e =>
    rw [withConfig_of_error (hloads.trans h)]
    rfl

theorem config_reload (s : Session) :
    (s.after (.op (.settings .reload))).config = s.loads.toOption := by
  show (s.step (.settings .reload)).1.config = _
  rw [step_reload]
  cases s.loads <;> rfl

theorem config_of_silent (silent : ¬ s.Calls event) : (s.after event).config = s.config := by
  cases event with
  | make c => rfl
  | op op =>
    have lasting : op ≠ .settings .reload := by
      rintro rfl
      exact silent trivial
    cases apart : op.aboutSources with
    | false => exact (course_step s s.config s.sources apart lasting).silent silent
    | true =>
      cases op with
      | settings op =>
        cases op with
        | make arguments => exact congrArg (·.1.config) (step_make s s.config arguments)
        | current => cases apart
        | reload => cases apart
        | _ => rfl
      | _ => cases apart

theorem config_of_call (calls : s.Calls event) (nothing : s.config = none) :
    (s.after event).config = s.loads.toOption := by
  cases event with
  | make c => exact calls.elim
  | op op =>
    by_cases lasting : op = .settings .reload
    · subst lasting
      exact config_reload s
    have hcourse := course_step s s.config s.sources (apart_of_asks calls) lasting
    have hloads : s.configuration = s.loads := configuration_of_none nothing
    cases h : s.loads with
    | ok c => exact hcourse.loaded calls c (hloads.trans h)
    | error e =>
      obtain ⟨f, -, hfail⟩ := hcourse.refused calls e (hloads.trans h)
      show (s.step op).1.config = _
      rw [hfail]
      exact nothing

/-! ## The first call that returned -/

/-- Whether no call loaded a configuration since the session began or since the last reload, which
is itself a call. -/
def NoLoad (sources : Sources) (events : List Event) : Prop :=
  ∀ before event after, events = before ++ event :: after → .op (.settings .reload) ∉ after →
    let s := (start sources).afterAll before
    s.Calls event → ∀ c, s.loads ≠ .ok c

/-- Whether `c` is what the first call that returned loaded, from the sources as they were, since
the session began or since the last reload. -/
def FirstLoad (sources : Sources) (events : List Event) (c : Config) : Prop :=
  ∃ before event after, events = before ++ event :: after ∧ .op (.settings .reload) ∉ after ∧
    let s := (start sources).afterAll before
    s.Calls event ∧ s.loads = .ok c ∧
      (event = .op (.settings .reload) ∨ NoLoad sources before)

theorem split_concat {α : Type} {items before after : List α} {last item : α}
    (h : items ++ [last] = before ++ item :: after) :
    (before = items ∧ item = last ∧ after = []) ∨
      ∃ rest, after = rest ++ [last] ∧ items = before ++ item :: rest := by
  rcases List.eq_nil_or_concat after with rfl | ⟨rest, x, rfl⟩
  · obtain ⟨rfl, hlast⟩ := List.append_inj' h rfl
    exact Or.inl ⟨rfl, (List.singleton_inj.mp hlast).symm, rfl⟩
  · have h' : items ++ [last] = (before ++ item :: rest) ++ [x] := by simpa using h
    obtain ⟨hitems, hlast⟩ := List.append_inj' h' rfl
    obtain rfl := List.singleton_inj.mp hlast
    exact Or.inr ⟨rest, by simp, hitems⟩

section Concat

variable (s_eq : s = (start sources).afterAll events)

include s_eq

theorem noLoad_concat (lasting : event ≠ .op (.settings .reload)) :
    NoLoad sources (events ++ [event]) ↔
      NoLoad sources events ∧ (s.Calls event → ∀ c, s.loads ≠ .ok c) := by
  subst s_eq
  constructor
  · intro h
    refine ⟨fun before e rest heq hrest => ?_, h events event [] rfl (by simp)⟩
    refine h before e (rest ++ [event]) (by rw [heq, List.append_assoc]; rfl) ?_
    simp [hrest, Ne.symm lasting]
  · rintro ⟨hearlier, hlast⟩ before e after heq hafter
    rcases split_concat heq with ⟨rfl, rfl, -⟩ | ⟨rest, rfl, hitems⟩
    · exact hlast
    · exact hearlier before e rest hitems fun h => hafter (List.mem_append_left _ h)

theorem noLoad_reload :
    NoLoad sources (events ++ [.op (.settings .reload)]) ↔ ∀ c, s.loads ≠ .ok c := by
  subst s_eq
  constructor
  · intro h
    exact h events _ [] rfl (by simp) trivial
  · intro hlast before e after heq hafter
    rcases split_concat heq with ⟨rfl, rfl, -⟩ | ⟨rest, rfl, -⟩
    · exact fun _ => hlast
    · exact absurd (List.mem_append_right _ (List.mem_singleton.mpr rfl)) hafter

theorem firstLoad_concat (lasting : event ≠ .op (.settings .reload)) :
    FirstLoad sources (events ++ [event]) c ↔
      FirstLoad sources events c ∨ (s.Calls event ∧ s.loads = .ok c ∧ NoLoad sources events) := by
  subst s_eq
  constructor
  · rintro ⟨before, e, after, heq, hafter, hcalls, hloads, hfirst⟩
    rcases split_concat heq with ⟨rfl, rfl, -⟩ | ⟨rest, rfl, hitems⟩
    · exact Or.inr ⟨hcalls, hloads, hfirst.resolve_left lasting⟩
    · exact Or.inl ⟨before, e, rest, hitems, fun h => hafter (List.mem_append_left _ h), hcalls,
        hloads, hfirst⟩
  · rintro (⟨before, e, rest, heq, hrest, hcalls, hloads, hfirst⟩ | ⟨hcalls, hloads, hfirst⟩)
    · refine ⟨before, e, rest ++ [event], by rw [heq, List.append_assoc]; rfl, ?_, hcalls, hloads,
        hfirst⟩
      simp [hrest, Ne.symm lasting]
    · exact ⟨events, event, [], rfl, by simp, hcalls, hloads, Or.inr hfirst⟩

theorem firstLoad_reload :
    FirstLoad sources (events ++ [.op (.settings .reload)]) c ↔ s.loads = .ok c := by
  subst s_eq
  constructor
  · rintro ⟨before, e, after, heq, hafter, -, hloads, -⟩
    rcases split_concat heq with ⟨rfl, rfl, -⟩ | ⟨rest, rfl, -⟩
    · exact hloads
    · exact absurd (List.mem_append_right _ (List.mem_singleton.mpr rfl)) hafter
  · intro hloads
    exact ⟨events, _, [], rfl, by simp, trivial, hloads, Or.inl rfl⟩

end Concat

theorem toOption_eq_some {e : Except Settings.Failure Config} :
    e.toOption = some c ↔ e = .ok c := by
  cases e <;> simp [Except.toOption]

theorem toOption_eq_none {e : Except Settings.Failure Config} :
    e.toOption = none ↔ ∀ c, e ≠ .ok c := by
  cases e <;> simp [Except.toOption]

/-- What is kept is what the first call that returned has loaded, and nothing is kept exactly if
none has. -/
theorem kept_iff (sources : Sources) (events : List Event) :
    (∀ c, ((start sources).afterAll events).config = some c ↔ FirstLoad sources events c) ∧
      (((start sources).afterAll events).config = none ↔ NoLoad sources events) := by
  induction events using List.reverseRecOn with
  | nil =>
    refine ⟨fun c => ⟨(fun h => nomatch h), ?_⟩, ⟨fun _ => ?_, fun _ => rfl⟩⟩
    · rintro ⟨before, e, after, heq, -⟩
      exact absurd heq (by simp)
    · intro before e after heq
      exact absurd heq (by simp)
  | append_singleton events event ih =>
    obtain ⟨hsome, hnone⟩ := ih
    have hafter : (start sources).afterAll (events ++ [event]) =
      ((start sources).afterAll events).after event := List.foldl_append ..
    rw [hafter]
    generalize hs : (start sources).afterAll events = s at hsome hnone ⊢
    have hs := hs.symm
    by_cases lasting : event = .op (.settings .reload)
    · subst lasting
      rw [config_reload, noLoad_reload hs]
      exact ⟨fun c => by rw [firstLoad_reload hs, toOption_eq_some], toOption_eq_none⟩
    rw [noLoad_concat hs lasting, ← hnone]
    by_cases calls : s.Calls event
    · cases kept : s.config with
      | some d =>
        rw [config_after lasting kept]
        refine ⟨fun c => ?_, by simp⟩
        rw [firstLoad_concat hs lasting, ← hsome, ← hnone, kept]
        simp
      | none =>
        rw [config_of_call calls kept]
        refine ⟨fun c => ?_, by simp [calls, toOption_eq_none]⟩
        rw [firstLoad_concat hs lasting, ← hsome, ← hnone, kept, toOption_eq_some]
        simp [calls]
    · rw [config_of_silent calls]
      refine ⟨fun c => ?_, by simp [calls]⟩
      rw [firstLoad_concat hs lasting, ← hsome]
      simp [calls]

/-! ## Calls -/

/-- Whether an operation goes on with `c`: it keeps `c`, tells it if it is asked to, and unless it
is a reload does what it does wherever `c` is kept, whatever the sources are there. -/
structure Uses (s : Session) (op : Op) (c : Config) : Prop where
  keeps : (s.step op).1.config = some c
  tells : op = .settings .current ∨ op = .settings .reload → (s.step op).2 = .reply (.config c)
  alike : op ≠ .settings .reload → ∀ others,
    (s.under (some c) others).step op = ((s.step op).1.under (some c) others, (s.step op).2)

theorem uses_of_configuration (asks : s.Asks op) (lasting : op ≠ .settings .reload)
    (known : s.configuration = .ok c) : s.Uses op c where
  keeps :=
    (course_step s s.config s.sources (apart_of_asks asks) lasting).loaded asks c known
  tells h := by
    obtain rfl := h.resolve_right lasting
    show (s.withConfig fun s c => s.answer (.config c)).2 = _
    rw [withConfig_of_ok known]
    rfl
  alike _ others := by
    have hcourse := course_step s (some c) others (apart_of_asks asks) lasting
    have hother :=
      course_step (s.under (some c) others) (some c) others (apart_of_asks asks) lasting
    have hknown : (s.under (some c) others).configuration = .ok c := configuration_of_kept rfl
    obtain ⟨houtcome, hsession⟩ := hcourse.same fun _ => hknown.trans known.symm
    have hkept := hother.loaded asks c hknown
    have hsources : ((s.under (some c) others).step op).1.sources = others := hother.stays
    rw [hkept, hsources] at hsession
    exact Prod.ext hsession houtcome

/-- A call goes on with what the first call that returned has loaded, which may be itself, or it
fails as the sources do and leaves nothing. -/
theorem call_cases (s_eq : s = (start sources).afterAll events) (asks : s.Asks op) :
    (∃ c, FirstLoad sources (events ++ [.op op]) c ∧ s.Uses op c) ∨
      ∃ e f, NoLoad sources (events ++ [.op op]) ∧ s.loads = .error e ∧ Unloaded e f ∧
        s.step op = (s.under none s.sources).fail f := by
  have hafter : (start sources).afterAll (events ++ [.op op]) = (s.step op).1 := by
    rw [s_eq]
    exact List.foldl_append ..
  obtain ⟨hsome, hnone⟩ := kept_iff sources (events ++ [.op op])
  rw [hafter] at hsome hnone
  by_cases lasting : op = .settings .reload
  · subst lasting
    have hstep := step_reload s
    cases h : s.loads with
    | ok c =>
      rw [h] at hstep
      have huses : s.Uses (.settings .reload) c :=
        ⟨by rw [hstep]; rfl, fun _ => by rw [hstep], fun lasting => absurd rfl lasting⟩
      exact Or.inl ⟨c, (hsome c).mp huses.keeps, huses⟩
    | error e =>
      rw [h] at hstep
      exact Or.inr ⟨e, _, hnone.mp (by rw [hstep]; rfl), rfl, .plain, hstep⟩
  · cases hc : s.configuration with
    | ok c =>
      have huses := uses_of_configuration asks lasting hc
      exact Or.inl ⟨c, (hsome c).mp huses.keeps, huses⟩
    | error e =>
      have nothing : s.config = none := by
        cases kept : s.config with
        | none => rfl
        | some d =>
          rw [configuration_of_kept kept] at hc
          cases hc
      have hself : s.under none s.sources = s := by
        rw [← nothing]
        rfl
      obtain ⟨f, hf, hfail⟩ := (course_step s s.config s.sources (apart_of_asks asks)
        lasting).refused asks e hc
      refine Or.inr ⟨e, f, hnone.mp ?_, (configuration_of_none nothing).symm.trans hc, hf, ?_⟩
      · rw [hfail]
        exact nothing
      · rw [hself]
        exact hfail

/-! ## What is heard of sources -/

def heard (s : Session) (run : List Event) : List (Op × Outcome) :=
  (s.transcript run).filter fun p => !p.1.aboutSources

theorem step_aboutSources (about : op.aboutSources = true) (s : Session) :
    ∃ others, (s.step op).1 = s.under s.config others := by
  cases op with
  | settings op =>
    cases op with
    | make arguments => exact ⟨s.sources, congrArg Prod.fst (step_make s s.config arguments)⟩
    | setVariable name value => exact ⟨_, rfl⟩
    | setFile file => exact ⟨_, rfl⟩
    | current => cases about
    | reload => cases about
  | _ => cases about

/-- Where a configuration is kept, a run is heard as if nothing in it were about sources. -/
theorem heard_eq {run : List Event} (kept : s.config = some c)
    (lasting : .op (.settings .reload) ∉ run) (others : Sources) :
    (s.under (some c) others).heard run =
      s.transcript (run.filter fun event => !event.aboutSources) := by
  induction run generalizing s others with
  | nil => rfl
  | cons event rest ih =>
    have hrest : .op (.settings .reload) ∉ rest := fun h => lasting (List.mem_cons_of_mem _ h)
    have hevent : event ≠ .op (.settings .reload) := fun h => lasting (h ▸ List.mem_cons_self)
    cases event with
    | make container => exact ih (s := s.after (.make container)) kept hrest others
    | op op =>
      cases about : op.aboutSources with
      | true =>
        have hskip : Event.aboutSources (.op op) = true := about
        obtain ⟨others', hstep⟩ := step_aboutSources about (s.under (some c) others)
        rw [heard, transcript, List.filter_cons_of_neg (by simp [about]),
          List.filter_cons_of_neg (by simp [hskip])]
        show ((s.under (some c) others).step op).1.heard rest = _
        rw [hstep]
        exact ih kept hrest others'
      | false =>
        have hkeep : Event.aboutSources (.op op) = false := about
        have hlasting : op ≠ .settings .reload := fun h => hevent (h ▸ rfl)
        have hcourse := course_step s (some c) others about hlasting
        have hother := course_step (s.under (some c) others) (some c) others about hlasting
        obtain ⟨houtcome, hsession⟩ := hcourse.same fun _ =>
          (configuration_of_kept rfl).trans (configuration_of_kept kept).symm
        have hsources : ((s.under (some c) others).step op).1.sources = others := hother.stays
        have hkept : ((s.under (some c) others).step op).1.config = some c :=
          config_after (s := s.under (some c) others) hevent rfl
        rw [hsources, hkept] at hsession
        rw [heard, transcript, List.filter_cons_of_pos (by simp [about]),
          List.filter_cons_of_pos (by simp [hkeep]), transcript, houtcome]
        refine congrArg _ ?_
        show ((s.under (some c) others).step op).1.heard rest = _
        rw [hsession]
        exact ih (config_after hevent kept) hrest others

/-- In every run, an operation that asks for the configuration goes on with the one that the first
call that returned has loaded, since the session began or since the last reload, or it fails as
the sources do that it loads from, and nothing is kept.  Once a configuration is kept, all runs
without a reload that differ only in what is about sources are heard alike. -/
theorem configuration_in_force (sources : Sources) (events : List Event) :
    let s := (start sources).afterAll events
    (∀ op, s.Asks op →
      (∃ c, FirstLoad sources (events ++ [.op op]) c ∧ s.Uses op c) ∨
      ∃ e f, NoLoad sources (events ++ [.op op]) ∧ s.loads = .error e ∧ Unloaded e f ∧
        s.step op = (s.under none s.sources).fail f) ∧
    ∀ c, s.config = some c → ∀ run run' : List Event,
      .op (.settings .reload) ∉ run → .op (.settings .reload) ∉ run' →
      run.filter (fun event => !event.aboutSources) =
        run'.filter (fun event => !event.aboutSources) →
      s.heard run = s.heard run' := by
  intro s
  refine ⟨fun op asks => call_cases rfl asks, fun c kept run run' lasting lasting' same => ?_⟩
  have hself : s.under (some c) s.sources = s := by
    rw [← kept]
    rfl
  have hrun := heard_eq kept lasting s.sources
  have hrun' := heard_eq kept lasting' s.sources
  rw [hself] at hrun hrun'
  rw [hrun, hrun', same]

def moved : List Event := [
  .op (.settings (.setFile (some [255]))), .op (.settings .current),
  .op (.settings (.setFile none)), .op (.scope (.create none)),
  .op (.settings (.setVariable "SCRIPTENV_SELF_NAME" (some "it")))]

/-- The name of the receiver is the one that the environment said first, and stays it while the
sources change between operations. -/
theorem moved_in_force :
    let sources : Sources := ⟨[("SCRIPTENV_SELF_NAME", "me")], none⟩
    let s := (start sources).afterAll moved
    let c : Config := ⟨"me", "context", true, 256⟩
    s.sources.environment.get? "SCRIPTENV_SELF_NAME" = some "it" ∧
      (s.step (.settings .current)).2 = .reply (.config c) ∧
      FirstLoad sources (moved ++ [.op (.settings .current)]) c ∧
      s.heard [.op (.scope (.top (.int 1))), .op (.settings (.setFile (some [255]))),
          .op (.scope (.self 1)), .op (.settings (.make [])), .op (.snapshot (.capture 1))] =
        s.heard [.op (.scope (.top (.int 1))), .op (.scope (.self 1)),
          .op (.snapshot (.capture 1))] := by
  intro sources s c
  obtain ⟨hcalls, hheard⟩ := configuration_in_force sources moved
  have htells : (s.step (.settings .current)).2 = .reply (.config c) := by rfl
  refine ⟨by rfl, htells, ?_, hheard c (by rfl) _ _ (by simp) (by simp) rfl⟩
  rcases hcalls (.settings .current) trivial with ⟨d, hfirst, huses⟩ | ⟨e, f, -, -, -, hfail⟩
  · have hsame := htells.symm.trans (huses.tells (Or.inl rfl))
    cases hsame
    exact hfirst
  · have hsame := htells.symm.trans (congrArg Prod.snd hfail)
    cases hsame

end Session
end ScopeChain
