/-
The configurations that a session answers.

Each setting is chosen on its own: it is that of its argument, or else of the environment, or else
of the settings file, or else its default.  A configuration is answered exactly if all values that
are chosen are accepted, since one that is not does not make way for another source.  Whatever
happens to a session, all configurations that it answers or keeps are within bounds.
-/
import ScopeChain.Proofs.Session.Endings
import ScopeChain.Proofs.Session.InForce
import ScopeChain.Proofs.Settings.Accepted

namespace ScopeChain

namespace Session

open Settings

variable {s : Session} {op : Op} {c : Config} {arguments : Arguments}
  {pairs : List (String × Option String)}

/-! ## What is answered to arguments -/

/-- Whether a configuration with chosen values is answered if all settings accept them, and else
one finding for each setting that does not, in the order of the settings. -/
structure Resolves (s : Session) (values : Setting → Option Value) (r : Session × Outcome) :
    Prop where
  made : (∃ c, r = s.answer (.config c)) ↔ ∀ setting : Setting, setting.Accepts (values setting)
  reads : ∀ c, r = s.answer (.config c) → ∀ setting, Reads c setting (values setting)
  refused : ¬ (∀ setting : Setting, setting.Accepts (values setting)) →
    ∃ (faults : List Fault) (invalid : List Setting),
      r = s.fail (.settings (.invalid faults)) ∧ invalid.Sublist Setting.all ∧
        (∀ setting, setting ∈ invalid ↔ ¬ setting.Accepts (values setting)) ∧
        faults.map Fault.place = invalid.map fun setting => [.field setting.name]

theorem step_make_plain (plain : Plain arguments.dict) (file : FilePairs s.sources pairs) :
    s.step (.settings (.make arguments)) =
      match check (raw arguments.dict s.sources.environment pairs) with
      | .ok c => s.answer (.config c)
      | .error faults => s.fail (.settings (.invalid faults)) := by
  show s.settingsStep (.make arguments) = _
  rw [settingsStep, Settings.make, ofArguments_of_plain s.heap plain]
  simp only [load_standard arguments.dict file]
  cases check (raw arguments.dict s.sources.environment pairs) <;> rfl

theorem resolves_make (plain : Plain arguments.dict) (file : FilePairs s.sources pairs) :
    s.Resolves (raw arguments.dict s.sources.environment pairs)
      (s.step (.settings (.make arguments))) := by
  rw [step_make_plain plain file]
  have haccepts := accepts_iff (raw arguments.dict s.sources.environment pairs)
  obtain ⟨invalid, hsublist, hmem, hplaces⟩ :=
    places_check (raw arguments.dict s.sources.environment pairs)
  cases hcheck : check (raw arguments.dict s.sources.environment pairs) with
  | ok c =>
    have hall := haccepts.mp ⟨c, hcheck⟩
    refine ⟨⟨fun _ => hall, fun _ => ⟨c, rfl⟩⟩, fun d hd => ?_,
      fun hrefuses => absurd hall hrefuses⟩
    cases hd
    exact reads_of_check hcheck
  | error faults =>
    have hrefuses : ¬ ∀ setting : Setting,
        setting.Accepts (raw arguments.dict s.sources.environment pairs setting) := fun hall => by
      obtain ⟨c, hc⟩ := haccepts.mpr hall
      cases hcheck.symm.trans hc
    rw [hcheck] at hplaces
    refine ⟨⟨?_, fun hall => absurd hall hrefuses⟩, ?_,
      fun _ => ⟨faults, invalid, rfl, hsublist, hmem, hplaces⟩⟩
    · rintro ⟨c, ⟨⟩⟩
    · rintro c ⟨⟩

/-! ## What is kept -/

/-- What is kept is within bounds, since it was loaded. -/
theorem valid_of_kept (reachable : s.Reachable) : ∀ c, s.config = some c → c.Valid := by
  refine reachable.induction (P := fun s => ∀ c, s.config = some c → c.Valid)
    (fun sources c kept => nomatch kept) fun s event ih c kept => ?_
  by_cases reloads : event = .op (.settings .reload)
  · subst reloads
    rw [config_reload, toOption_eq_some] at kept
    exact valid_of_load kept
  by_cases calls : s.Calls event
  · cases earlier : s.config with
    | none =>
      rw [config_of_call calls earlier, toOption_eq_some] at kept
      exact valid_of_load kept
    | some d =>
      rw [config_after reloads earlier] at kept
      exact ih c (earlier.trans kept)
  · rw [config_of_silent calls] at kept
    exact ih c kept

theorem valid_of_configuration (reachable : s.Reachable) (known : s.configuration = .ok c) :
    c.Valid := by
  cases kept : s.config with
  | none =>
    rw [configuration_of_none kept] at known
    exact valid_of_load known
  | some d =>
    rw [configuration_of_kept kept] at known
    cases known
    exact valid_of_kept reachable c kept

/-! ## What is answered -/

theorem valid_of_answered (reachable : s.Reachable)
    (answered : (s.step op).2.answer = .ok (.config c)) : c.Valid := by
  obtain ⟨op, rfl⟩ :=
    Op.config_mem_kinds ((ending_step reachable.proper.sited op).kind answered)
  cases op with
  | setVariable name value => cases answered
  | setFile file => cases answered
  | current =>
    have hstep : s.step (.settings .current) =
      s.withConfig fun s c => s.answer (.config c) := rfl
    rw [hstep] at answered
    rcases withConfig_cases s fun s c => s.answer (.config c) with ⟨d, known, heq⟩ | ⟨e, -, heq⟩
    · rw [heq] at answered
      cases answered
      exact valid_of_configuration reachable known
    · rw [heq] at answered
      cases answered
  | reload =>
    rw [step_reload] at answered
    cases loaded : s.loads with
    | ok d =>
      rw [loaded] at answered
      cases answered
      exact valid_of_load loaded
    | error e =>
      rw [loaded] at answered
      cases answered
  | make arguments =>
    have hstep : s.step (.settings (.make arguments)) = s.settingsStep (.make arguments) := rfl
    rw [hstep, settingsStep] at answered
    split at answered
    next made =>
      cases answered
      exact valid_of_make made
    next => cases answered

/-- In every session, arguments for settings are answered as what is chosen for the settings: for
each of them it is that of its argument, or else of the environment, or else the last of the file,
or else nothing.  All configurations that a session that can be reached keeps or answers are within
bounds. -/
theorem settings_resolved (s : Session) :
    (∀ (given : Arguments) (pairs : List (String × Option String)),
      let arguments := given.dict
      Plain arguments → FilePairs s.sources pairs → Spelled pairs →
        ∃ values : Setting → Option Value,
          (∀ setting v, Chooses arguments s.sources.environment pairs setting v ↔
            v = values setting) ∧
          s.Resolves values (s.step (.settings (.make given)))) ∧
    (s.Reachable → (∀ c, s.config = some c → c.Valid) ∧
      ∀ op c, (s.step op).2.answer = .ok (.config c) → c.Valid) := by
  refine ⟨?_, fun reachable => ?_⟩
  · intro given pairs arguments plain file spelled
    exact ⟨raw arguments s.sources.environment pairs,
      chooses_iff plain s.sources.environment spelled, resolves_make plain file⟩
  · exact ⟨valid_of_kept reachable, fun op c => valid_of_answered reachable⟩

def repeating : String := "SCRIPTENV_THREAD_SAFE=maybe\nSCRIPTENV_THREAD_SAFE=off"

def layered : Session :=
  start ⟨[("ScriptEnv_Context_Name", "ctx"), ("SCRIPTENV_MAX_SNAPSHOT_DEPTH", "9")],
    some (repeating.toList.map fun c => UInt8.ofNat c.toNat)⟩

/-- One configuration takes its settings from four places.  Another is refused for its argument,
although there is a limit in the environment. -/
theorem layered_resolved :
    let c : Config := ⟨"self", "ctx", false, 7⟩
    layered.step (.settings (.make [("max_snapshot_depth", .text "7")])) =
        layered.answer (.config c) ∧ c.Valid ∧
      ∃ faults, layered.step (.settings (.make [("max_snapshot_depth", .int 0)])) =
        layered.fail (.settings (.invalid faults)) := by
  intro c
  let pairs := [("SCRIPTENV_THREAD_SAFE", some "maybe"), ("SCRIPTENV_THREAD_SAFE", some "off")]
  have hreachable : layered.Reachable := ⟨_, [], rfl⟩
  have hpairs :
      resolvedPairs layered.sources.environment [] (File.read repeating.toList) = pairs := by
    decide +kernel
  have hfile : FilePairs layered.sources pairs := hpairs ▸ .file rfl (by rfl)
  have hspelled : Spelled pairs := by
    refine ⟨fun s => ?_, fun s => ?_⟩
    · cases s <;> decide +kernel
    · cases s <;> decide +kernel
  have hplain : ∀ v : Value, Plain [(.text "max_snapshot_depth", v)] := by
    intro v p hp
    rw [List.mem_singleton.mp hp]
    exact ⟨.maxSnapshotDepth, rfl⟩
  obtain ⟨hresolved, hvalid⟩ := settings_resolved layered
  obtain ⟨values, hvalues, hresolves⟩ :=
    hresolved [("max_snapshot_depth", .text "7")] pairs (hplain _) hfile hspelled
  have hself : none = values .selfName :=
    (hvalues _ _).mp (.default rfl (by decide +kernel) (by decide +kernel))
  have hcontext : some (.text "ctx") = values .contextName := by
    have hset : (layered.sources.environment.filter fun p =>
      Setting.contextName.Called p.1).getLast? = some ("ScriptEnv_Context_Name", "ctx") := by
        decide +kernel
    exact (hvalues _ _).mp (.environment rfl hset)
  have hsafe : some (.text "off") = values .threadSafe := by
    have hnamed : (pairs.filter fun p => Setting.threadSafe.Called p.1).getLast? =
        some ("SCRIPTENV_THREAD_SAFE", some "off") := by
      decide +kernel
    exact (hvalues _ _).mp (.file rfl (by decide +kernel) hnamed)
  have hlimit : some (.text "7") = values .maxSnapshotDepth := (hvalues _ _).mp (.argument rfl)
  have hoff : Coerce.boolean (.text "off") = .ok false := by decide +kernel
  have hseven : Coerce.integer (.text "7") = .ok 7 := by decide +kernel
  obtain ⟨d, hd⟩ := hresolves.made.mpr fun setting => by
    cases setting with
    | selfName => rw [← hself]; trivial
    | contextName => rw [← hcontext]; exact ⟨"ctx", rfl, by decide⟩
    | threadSafe => rw [← hsafe]; exact ⟨false, hoff⟩
    | maxSnapshotDepth => rw [← hlimit]; exact ⟨7, hseven, by decide⟩
  have hd' : d = c := by
    have hreads := hresolves.reads d hd
    have hname := hreads .selfName
    have hother := hreads .contextName
    have hflag := hreads .threadSafe
    have hdepth := hreads .maxSnapshotDepth
    rw [← hself] at hname
    rw [← hcontext] at hother
    rw [← hsafe] at hflag
    rw [← hlimit] at hdepth
    obtain ⟨selfName, contextName, threadSafe, limit⟩ := d
    obtain rfl : selfName = "self" := hname
    obtain rfl : "ctx" = contextName := Except.ok.inj hother
    obtain rfl : false = threadSafe := Except.ok.inj (hoff.symm.trans hflag)
    obtain rfl : 7 = limit := Int.ofNat_inj.mp (Except.ok.inj (hseven.symm.trans hdepth))
    rfl
  subst hd'
  refine ⟨hd, (hvalid hreachable).2 _ _ (congrArg (·.2.answer) hd), ?_⟩
  obtain ⟨values, hvalues, hresolves⟩ :=
    hresolved [("max_snapshot_depth", .int 0)] pairs (hplain _) hfile hspelled
  have hlimit : some (.int 0) = values .maxSnapshotDepth := (hvalues _ _).mp (.argument rfl)
  obtain ⟨faults, -, hfail, -⟩ := hresolves.refused fun haccepts => by
    have hzero := haccepts .maxSnapshotDepth
    rw [← hlimit] at hzero
    obtain ⟨i, hi, hpositive, -⟩ := hzero
    obtain rfl : 0 = i := Except.ok.inj hi
    exact absurd hpositive (by decide)
  exact ⟨faults, hfail⟩

end Session
end ScopeChain
