/-
The values that settings accept.

The value of each setting is checked on its own.  A configuration is what all settings accept, and
if some do not, there is one finding for each of them, in the order of the settings.  So the names
of a configuration are not empty and its depth limit is within bounds, whatever it was made from.
-/
import ScopeChain.Proofs.Settings.Chosen
import ScopeChain.Proofs.Snapshot.Findings

namespace ScopeChain

structure Config.Valid (c : Config) : Prop where
  selfName : c.selfName ≠ ""
  contextName : c.contextName ≠ ""
  positive : 1 ≤ c.maxSnapshotDepth
  bounded : c.maxSnapshotDepth ≤ 10000

namespace Settings

/-- Whether a configuration has for a setting what the value reads as, or the default if there is
no value. -/
def Reads (c : Config) : Setting → Option Value → Prop
  | .selfName, none => c.selfName = "self"
  | .contextName, none => c.contextName = "context"
  | .threadSafe, none => c.threadSafe = true
  | .maxSnapshotDepth, none => c.maxSnapshotDepth = 256
  | .selfName, some v => Coerce.text v = .ok c.selfName
  | .contextName, some v => Coerce.text v = .ok c.contextName
  | .threadSafe, some v => Coerce.boolean v = .ok c.threadSafe
  | .maxSnapshotDepth, some v => Coerce.integer v = .ok (c.maxSnapshotDepth : Int)

/-- Whether a setting accepts a value: names are texts that are not empty, and the depth limit is an
integer from 1 to 10000.  All settings accept no value. -/
def Setting.Accepts : Setting → Option Value → Prop
  | _, none => True
  | .selfName, some v | .contextName, some v => ∃ t, Coerce.text v = .ok t ∧ t ≠ ""
  | .threadSafe, some v => ∃ b, Coerce.boolean v = .ok b
  | .maxSnapshotDepth, some v => ∃ i, Coerce.integer v = .ok i ∧ 1 ≤ i ∧ i ≤ 10000

open Checked

variable {α : Type} {s : Setting} {chosen : Setting → Option Value} {c : Config}

/-! ## One setting -/

theorem filledText_eq_ok {v : Value} {t : String} :
    Coerce.filledText v = .ok t ↔ Coerce.text v = .ok t ∧ t ≠ "" := by
  rw [Coerce.filledText]
  cases Coerce.text v with
  | error e => simp
  | ok u =>
    simp only [String.isEmpty_iff]
    grind

theorem integerBetween_eq_ok {v : Value} {i : Int} :
    Coerce.integerBetween leastLimit greatestLimit v = .ok i ↔
      Coerce.integer v = .ok i ∧ 1 ≤ i ∧ i ≤ 10000 := by
  rw [Coerce.integerBetween, Coerce.integerFrom]
  cases Coerce.integer v with
  | error e => simp
  | ok j => grind [leastLimit, greatestLimit]

theorem faults_checkSetting {check : Value → Except Issue α} {default : α}
    (accepts : ∀ v, s.Accepts (some v) ↔ ∃ a, check v = .ok a) (value : Option Value) :
    (s.Accepts value ∧ (checkSetting s check default value).faults = []) ∨
      (¬ s.Accepts value ∧ ∃ issue,
        (checkSetting s check default value).faults = [⟨[.field s.name], issue⟩]) := by
  cases value with
  | none => exact Or.inl ⟨by cases s <;> trivial, rfl⟩
  | some v =>
    rw [accepts, checkSetting]
    cases check v with
    | ok a => exact Or.inl ⟨⟨a, rfl⟩, rfl⟩
    | error issue =>
      refine Or.inr ⟨?_, issue, rfl⟩
      rintro ⟨a, ⟨⟩⟩

theorem checkSetting_eq_ok {check : Value → Except Issue α} {default a : α} {value : Option Value} :
    checkSetting s check default value = .ok a ↔
      (value = none ∧ a = default) ∨ ∃ v, value = some v ∧ check v = .ok a := by
  cases value with
  | none => simp [checkSetting, eq_comm]
  | some v =>
    rw [checkSetting, Checked.inside_eq_ok]
    cases hv : check v <;> simp [Checked.ofCoercion, Checked.fail, hv]

theorem checkSetting_of_faults {check : Value → Except Issue α} {default : α} {value : Option Value}
    (none : (checkSetting s check default value).faults = []) :
    ∃ a, checkSetting s check default value = .ok a := by
  cases value with
  | none => exact ⟨default, rfl⟩
  | some v =>
    rw [checkSetting] at none ⊢
    cases hv : check v with
    | ok a => exact ⟨a, rfl⟩
    | error issue =>
      rw [hv] at none
      exact absurd none (List.cons_ne_nil _ _)

/-! ## All settings -/

def settingFaults (chosen : Setting → Option Value) : Setting → List Fault
  | .selfName => (checkSetting .selfName Coerce.filledText "self" (chosen .selfName)).faults
  | .contextName =>
    (checkSetting .contextName Coerce.filledText "context" (chosen .contextName)).faults
  | .threadSafe => (checkSetting .threadSafe Coerce.boolean true (chosen .threadSafe)).faults
  | .maxSnapshotDepth =>
    (checkSetting .maxSnapshotDepth (Coerce.integerBetween leastLimit greatestLimit) 256
      (chosen .maxSnapshotDepth)).faults

theorem settingFaults_cases (chosen : Setting → Option Value) (s : Setting) :
    (s.Accepts (chosen s) ∧ settingFaults chosen s = []) ∨
      (¬ s.Accepts (chosen s) ∧ ∃ issue, settingFaults chosen s = [⟨[.field s.name], issue⟩]) := by
  have htext : ∀ v, (∃ t, Coerce.text v = .ok t ∧ t ≠ "") ↔ ∃ t, Coerce.filledText v = .ok t :=
    fun v => exists_congr fun t => filledText_eq_ok.symm
  have hlimit : ∀ v, (∃ i, Coerce.integer v = .ok i ∧ 1 ≤ i ∧ i ≤ 10000) ↔
      ∃ i, Coerce.integerBetween leastLimit greatestLimit v = .ok i :=
    fun v => exists_congr fun i => integerBetween_eq_ok.symm
  cases s with
  | selfName => exact faults_checkSetting (s := .selfName) htext _
  | contextName => exact faults_checkSetting (s := .contextName) htext _
  | threadSafe => exact faults_checkSetting (s := .threadSafe) (fun v => Iff.rfl) _
  | maxSnapshotDepth => exact faults_checkSetting (s := .maxSnapshotDepth) hlimit _

theorem check_eq (chosen : Setting → Option Value) : check chosen =
    (both (both (both (checkSetting .selfName Coerce.filledText "self" (chosen .selfName))
        (checkSetting .contextName Coerce.filledText "context" (chosen .contextName)))
      (checkSetting .threadSafe Coerce.boolean true (chosen .threadSafe)))
      (checkSetting .maxSnapshotDepth (Coerce.integerBetween leastLimit greatestLimit) 256
        (chosen .maxSnapshotDepth))).map
      fun x => ⟨x.1.1.1, x.1.1.2, x.1.2, x.2.toNat⟩ := by
  unfold check
  cases checkSetting .selfName Coerce.filledText "self" (chosen .selfName) <;>
    cases checkSetting .contextName Coerce.filledText "context" (chosen .contextName) <;>
    cases checkSetting .threadSafe Coerce.boolean true (chosen .threadSafe) <;>
    cases checkSetting .maxSnapshotDepth (Coerce.integerBetween leastLimit greatestLimit) 256
      (chosen .maxSnapshotDepth) <;> rfl

/-- The findings about all settings are those about each of them, in their order. -/
theorem faults_check (chosen : Setting → Option Value) :
    (check chosen).faults = Setting.all.flatMap (settingFaults chosen) := by
  rw [check_eq, faults_map, faults_both, faults_both, faults_both]
  simp [Setting.all, settingFaults]

theorem bounds_of_checkSetting {value : Option Value} {i : Int}
    (ok : checkSetting s (Coerce.integerBetween leastLimit greatestLimit) 256 value = .ok i) :
    1 ≤ i ∧ i ≤ 10000 := by
  rcases checkSetting_eq_ok.mp ok with ⟨-, rfl⟩ | ⟨v, -, hchecked⟩
  · decide
  · exact (integerBetween_eq_ok.mp hchecked).2

theorem filled_of_checkSetting {default t : String} {value : Option Value} (filled : default ≠ "")
    (ok : checkSetting s Coerce.filledText default value = .ok t) : t ≠ "" := by
  rcases checkSetting_eq_ok.mp ok with ⟨-, rfl⟩ | ⟨v, -, hchecked⟩
  · exact filled
  · exact (filledText_eq_ok.mp hchecked).2

theorem parts_of_check (accepted : check chosen = .ok c) :
    checkSetting .selfName Coerce.filledText "self" (chosen .selfName) = .ok c.selfName ∧
      checkSetting .contextName Coerce.filledText "context" (chosen .contextName) =
        .ok c.contextName ∧
      checkSetting .threadSafe Coerce.boolean true (chosen .threadSafe) = .ok c.threadSafe ∧
      checkSetting .maxSnapshotDepth (Coerce.integerBetween leastLimit greatestLimit) 256
        (chosen .maxSnapshotDepth) = .ok (c.maxSnapshotDepth : Int) := by
  rw [check_eq, map_eq_ok] at accepted
  obtain ⟨⟨⟨⟨selfName, contextName⟩, threadSafe⟩, limit⟩, hboth, rfl⟩ := accepted
  simp only [both_eq_ok] at hboth
  obtain ⟨⟨⟨hself, hcontext⟩, hsafe⟩, hlimit⟩ := hboth
  have hnonneg : 0 ≤ limit := by
    have := (bounds_of_checkSetting hlimit).1
    omega
  refine ⟨hself, hcontext, hsafe, hlimit.trans ?_⟩
  exact congrArg Except.ok (Int.toNat_of_nonneg hnonneg).symm

/-- A configuration that is made is within bounds. -/
theorem valid_of_check (accepted : check chosen = .ok c) : c.Valid := by
  obtain ⟨hself, hcontext, -, hlimit⟩ := parts_of_check accepted
  obtain ⟨hpositive, hbounded⟩ := bounds_of_checkSetting hlimit
  exact ⟨filled_of_checkSetting (by decide) hself, filled_of_checkSetting (by decide) hcontext,
    Int.ofNat_le.mp hpositive, Int.ofNat_le.mp hbounded⟩

theorem reads_of_check (accepted : check chosen = .ok c) (s : Setting) : Reads c s (chosen s) := by
  obtain ⟨hself, hcontext, hsafe, hlimit⟩ := parts_of_check accepted
  cases s with
  | selfName =>
    rcases checkSetting_eq_ok.mp hself with ⟨hnone, hdefault⟩ | ⟨v, hsome, hchecked⟩
    · rw [hnone]; exact hdefault
    · rw [hsome]; exact (filledText_eq_ok.mp hchecked).1
  | contextName =>
    rcases checkSetting_eq_ok.mp hcontext with ⟨hnone, hdefault⟩ | ⟨v, hsome, hchecked⟩
    · rw [hnone]; exact hdefault
    · rw [hsome]; exact (filledText_eq_ok.mp hchecked).1
  | threadSafe =>
    rcases checkSetting_eq_ok.mp hsafe with ⟨hnone, hdefault⟩ | ⟨v, hsome, hchecked⟩
    · rw [hnone]; exact hdefault
    · rw [hsome]; exact hchecked
  | maxSnapshotDepth =>
    rcases checkSetting_eq_ok.mp hlimit with ⟨hnone, hdefault⟩ | ⟨v, hsome, hchecked⟩
    · rw [hnone]; exact Int.ofNat_inj.mp hdefault
    · rw [hsome]; exact (integerBetween_eq_ok.mp hchecked).1

/-- A configuration is made exactly if all settings accept their values. -/
theorem accepts_iff (chosen : Setting → Option Value) :
    (∃ c, check chosen = .ok c) ↔ ∀ s : Setting, s.Accepts (chosen s) := by
  have hfaults : (check chosen).faults = [] ↔ ∀ s, settingFaults chosen s = [] := by
    simp [faults_check, Setting.mem_all]
  constructor
  · rintro ⟨c, hc⟩ s
    rcases settingFaults_cases chosen s with ⟨haccepts, -⟩ | ⟨-, issue, hfault⟩
    · exact haccepts
    · have hnone := hfaults.mp (by rw [hc]; rfl) s
      exact absurd (hfault.symm.trans hnone) (List.cons_ne_nil _ _)
  · intro haccepts
    have hnone : ∀ s, settingFaults chosen s = [] := by
      intro s
      rcases settingFaults_cases chosen s with ⟨-, hnone⟩ | ⟨hrefuses, -⟩
      · exact hnone
      · exact absurd (haccepts s) hrefuses
    obtain ⟨selfName, hself⟩ := checkSetting_of_faults (hnone .selfName)
    obtain ⟨contextName, hcontext⟩ := checkSetting_of_faults (hnone .contextName)
    obtain ⟨threadSafe, hsafe⟩ := checkSetting_of_faults (hnone .threadSafe)
    obtain ⟨limit, hlimit⟩ := checkSetting_of_faults (hnone .maxSnapshotDepth)
    refine ⟨⟨selfName, contextName, threadSafe, limit.toNat⟩, ?_⟩
    rw [check_eq, hself, hcontext, hsafe, hlimit]
    rfl

/-- The findings are one for each setting that does not accept its value, in their order. -/
theorem places_check (chosen : Setting → Option Value) :
    ∃ invalid : List Setting, invalid.Sublist Setting.all ∧
      (∀ s, s ∈ invalid ↔ ¬ s.Accepts (chosen s)) ∧
      (check chosen).faults.map Fault.place = invalid.map fun s => [.field s.name] := by
  classical
  refine ⟨Setting.all.filter fun s => ¬ s.Accepts (chosen s), List.filter_sublist, fun s => ?_, ?_⟩
  · simp [Setting.mem_all]
  · rw [faults_check]
    induction Setting.all with
    | nil => rfl
    | cons s rest ih =>
      rw [List.flatMap_cons, List.map_append, ih]
      rcases settingFaults_cases chosen s with ⟨haccepts, hfaults⟩ | ⟨hrefuses, issue, hfaults⟩
      · rw [List.filter_cons_of_neg (by simpa using haccepts), hfaults]
        rfl
      · rw [List.filter_cons_of_pos (by simpa using hrefuses), hfaults]
        rfl

/-! ## Loads -/

variable {options : Options} {arguments : Metadata} {sources : Sources}
  {pairs : List (String × Option String)}

/-- Under the standard options, a load checks what arguments, the environment and the file give. -/
theorem load_standard (arguments : Metadata) (file : FilePairs sources pairs) :
    load {} arguments sources =
      match check (raw arguments sources.environment pairs) with
      | .ok config => .ok config
      | .error faults => .error (.invalid faults) := by
  have hsecrets : secretsMisuse? {} sources = none := by
    show (if sources.file.isSome && false then _ else none) = none
    rw [Bool.and_false]
    rfl
  have hwords : (Options.words {}).bind (ofCommandLine (Options.exactCase {})) = .ok [] := rfl
  have hmisuse : (Options.leadMisuse {}).or (secretsMisuse? {} sources) = none := hsecrets
  rw [load, file.assignmentsAt]
  simp only [hwords, hmisuse]
  rfl

/-- Whatever the options, a configuration that is loaded is within bounds. -/
theorem valid_of_load (loaded : load options arguments sources = .ok c) : c.Valid := by
  rw [load] at loaded
  split at loaded
  next => cases loaded
  next =>
    split at loaded
    next => cases loaded
    next =>
      split at loaded
      next => cases loaded
      next =>
        split at loaded
        next config accepted =>
          cases loaded
          exact valid_of_check accepted
        next => cases loaded

theorem valid_of_make {h : Heap} (made : make h arguments sources = .ok c) : c.Valid := by
  rw [make] at made
  split at made
  next => cases made
  next => exact valid_of_load made

end Settings
end ScopeChain
