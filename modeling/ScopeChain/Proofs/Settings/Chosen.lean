/-
The value that is chosen for a setting.

Under the standard options the arguments come first, then the environment and then the settings
file, and each of the latter gives a setting by the name that its lead and its own name make, in
any case.  Of several variables that are called so the last counts.  This holds of a file only if
it calls the setting in one spelling, since a name that comes again keeps its place.
-/
import Mathlib.Data.List.Find
import Mathlib.Data.List.Induction
import ScopeChain.Proofs.Value.Equal
import ScopeChain.Settings.Config

namespace ScopeChain

/-! ## Tables -/

namespace Table

variable {α : Type} {t : Table α} {name : String} {value : α}

theorem get?_foldl_put (f : String → String) (pairs : List (String × α)) (t : Table α)
    (name : String) : (pairs.foldl (fun t p => t.put (f p.1) p.2) t).get? name =
      ((pairs.filter fun p => f p.1 = name).getLast?.map Prod.snd).or (t.get? name) := by
  induction pairs using List.reverseRecOn with
  | nil => rfl
  | append_singleton rest p ih =>
    rw [List.foldl_append, List.foldl_cons, List.foldl_nil, List.filter_append]
    by_cases hp : f p.1 = name
    · rw [hp, get?_put_self]
      simp [hp]
    · rw [get?_put_of_ne (Ne.symm hp), ih]
      simp [hp]

theorem mem_names_put {other : String} :
    other ∈ (t.put name value).map Prod.fst ↔ other = name ∨ other ∈ t.map Prod.fst := by
  induction t with
  | nil => simp [put]
  | cons p rest ih =>
    obtain ⟨n, v⟩ := p
    rw [put]
    split
    next h => simp [h]
    next => simp only [List.map_cons, List.mem_cons, ih, or_left_comm]

theorem nodup_put (nodup : (t.map Prod.fst).Nodup) : ((t.put name value).map Prod.fst).Nodup := by
  induction t with
  | nil => exact List.nodup_cons.mpr ⟨List.not_mem_nil, List.nodup_nil⟩
  | cons p rest ih =>
    obtain ⟨n, v⟩ := p
    obtain ⟨hn, hrest⟩ := List.nodup_cons.mp nodup
    rw [put]
    split
    next => exact nodup
    next hne =>
      refine List.nodup_cons.mpr ⟨fun hmem => ?_, ih hrest⟩
      rcases mem_names_put.mp hmem with h | h
      · exact hne h
      · exact hn h

theorem names_foldl_put (pairs : List (String × α)) :
    let t : Table α := pairs.foldl (fun t p => t.put p.1 p.2) []
    (t.map Prod.fst).Nodup ∧ ∀ name ∈ t.map Prod.fst, name ∈ pairs.map Prod.fst := by
  induction pairs using List.reverseRecOn with
  | nil => exact ⟨List.nodup_nil, fun name h => h⟩
  | append_singleton rest p ih =>
    rw [List.foldl_append, List.foldl_cons, List.foldl_nil]
    refine ⟨nodup_put ih.1, fun name hname => ?_⟩
    rw [List.map_append, List.mem_append]
    rcases mem_names_put.mp hname with rfl | hname
    · exact Or.inr (by simp)
    · exact Or.inl (ih.2 name hname)

theorem getLast?_named (nodup : (t.map Prod.fst).Nodup) (name : String) :
    (t.filter fun p => p.1 = name).getLast?.map Prod.snd = t.get? name := by
  induction t with
  | nil => rfl
  | cons p rest ih =>
    obtain ⟨n, v⟩ := p
    obtain ⟨hn, hrest⟩ := List.nodup_cons.mp nodup
    by_cases hname : n = name
    · subst hname
      have hnone : rest.filter (fun p => p.1 = n) = [] := List.filter_eq_nil_iff.mpr
        fun p hp heq => hn (List.mem_map.mpr ⟨p, hp, of_decide_eq_true heq⟩)
      simp [hnone, get?]
    · rw [List.filter_cons_of_neg (by simpa using hname), ih hrest]
      simp [get?, hname]

end Table

namespace Settings

/-! ## Names -/

/-- Whether a name outside the arguments is that of a setting, in any case. -/
def Setting.Called (s : Setting) (name : String) : Prop :=
  Lower.text name = "scriptenv_" ++ s.name

instance (s : Setting) (name : String) : Decidable (s.Called name) :=
  inferInstanceAs (Decidable (Lower.text name = "scriptenv_" ++ s.name))

theorem outerName_standard (s : Setting) : Options.outerName {} s = "scriptenv_" ++ s.name := by
  cases s <;> decide +kernel

def Plain (arguments : Metadata) : Prop := ∀ p ∈ arguments, ∃ s : Setting, p.1 = .text s.name

/-! ## Arguments -/

theorem given?_of_plain {arguments : Metadata} (plain : Plain arguments) {name : String}
    (option : name.toList.head? = some '_') : fieldOf arguments name = none := by
  rw [fieldOf, List.find?_eq_none.mpr fun p hp hsame => ?_]
  · rfl
  · obtain ⟨s, hs⟩ := plain p hp
    rw [hs] at hsame
    rw [← Key.text.inj (Key.same_text_iff.mp hsame)] at option
    cases s <;> exact absurd option (by decide)

theorem ofArguments_of_plain (h : Heap) {arguments : Metadata} (plain : Plain arguments) :
    Options.ofArguments h arguments = .ok {} := by
  have hfield : ∀ name : String, name.toList.head? = some '_' → fieldOf arguments name = none :=
    fun _ => given?_of_plain plain
  have hgiven : ∀ name : String, name.toList.head? = some '_' →
      Options.given? arguments name = none := by
    intro name option
    rw [Options.given?, hfield name option]
  have hkinds : (arguments.any fun entry => decide (entry.1.kind ≠ "str")) = false := by
    refine List.any_eq_false.mpr fun p hp => ?_
    obtain ⟨s, hs⟩ := plain p hp
    simp [hs, Key.kind]
  have hmisuse : Options.misuse? h arguments = none := by
    rw [Options.misuse?, hkinds, hgiven _ (by decide)]
    rfl
  rw [Options.ofArguments, hmisuse]
  simp only [Options.flag, hgiven "_env_prefix" (by decide), hfield "_env_file" (by decide),
    hgiven "_env_prefix_target" (by decide), hgiven "_env_file_encoding" (by decide),
    hgiven "_case_sensitive" (by decide), hgiven "_env_ignore_empty" (by decide),
    hgiven "_env_parse_none_str" (by decide), hgiven "_secrets_dir" (by decide),
    hgiven "_cli_parse_args" (by decide)]
  rfl

theorem argument_of_plain {arguments : Metadata} (plain : Plain arguments) (s : Setting) :
    s.argument? arguments = fieldOf arguments s.name := by
  have hlower : ∀ r : Setting, Lower.text r.name = r.name := by
    intro r
    cases r <;> decide +kernel
  rw [Setting.argument?, fieldOf]
  refine congrArg _ (List.find?_congr fun p hp => ?_)
  obtain ⟨r, hr⟩ := plain p hp
  simp [hr, hlower, Key.same_text]

/-! ## Variables -/

/-- What variables give under the standard options by a name in lower case. -/
theorem variablesOf_get? (vars : Table (Option String)) (name : String) :
    (Options.variablesOf {} vars).get? name =
      (vars.filter fun p => Lower.text p.1 = name).getLast?.map Prod.snd := by
  have hall : (vars.filter fun pair => !(Options.skipsEmpty {} && pair.2 == some "")) = vars :=
    List.filter_eq_self.mpr fun _ _ => rfl
  rw [Options.variablesOf, hall, Table.get?_foldl_put (Options.fold {}) vars [] name]
  exact Option.or_none

theorem Setting.eq_of_name {s r : Setting} (same : s.name = r.name) : s = r := by
  cases s <;> cases r <;> first | rfl | exact absurd same (by decide)

theorem get?_filterMap (value? : Setting → Option Value) (settings : List Setting)
    (nodup : settings.Nodup) (s : Setting) :
    Table.get? s.name (settings.filterMap fun r => (value? r).map fun v => (r.name, v)) =
      if s ∈ settings then value? s else none := by
  induction settings with
  | nil => rfl
  | cons r rest ih =>
    obtain ⟨hr, hrest⟩ := List.nodup_cons.mp nodup
    by_cases hsame : r = s
    · subst hsame
      have hlater := ih hrest
      rw [if_neg hr] at hlater
      cases hvalue : value? r with
      | none => rw [List.filterMap_cons_none (by rw [hvalue]; rfl), hlater]; simp
      | some v => rw [List.filterMap_cons_some (by rw [hvalue]; rfl)]; simp [Table.get?]
    · have hname : r.name ≠ s.name := fun h => hsame (Setting.eq_of_name h)
      have hmem : s ∈ r :: rest ↔ s ∈ rest := by simp [Ne.symm hsame]
      rw [if_congr hmem rfl rfl, ← ih hrest]
      cases hvalue : value? r with
      | none => rw [List.filterMap_cons_none (by rw [hvalue]; rfl)]
      | some v => rw [List.filterMap_cons_some (by rw [hvalue]; rfl)]; simp [Table.get?, hname]

theorem settingsOf_get? (vars : Table (Option String)) (s : Setting) :
    (Options.settingsOf {} (Options.variablesOf {} vars)).get? s.name =
      ((vars.filter fun p => s.Called p.1).getLast?.map Prod.snd).join.map Value.text := by
  have hreading : Options.reading {} = Value.text := rfl
  have hsettings := get?_filterMap
    (fun r => ((Options.variablesOf {} vars).get? (Options.outerName {} r)).join.map Value.text)
    Setting.all (by decide) s
  simp only [Option.map_map, Function.comp_def] at hsettings
  rw [Options.settingsOf, hreading]
  refine hsettings.trans ?_
  rw [if_pos (Setting.mem_all s), variablesOf_get?, outerName_standard]
  rfl

/-- What the environment gives a setting: the last variable that is called so. -/
theorem ofEnvironment_get? (environment : Table String) (s : Setting) :
    (Options.ofEnvironment {} environment).get? s.name =
      (environment.filter fun p => s.Called p.1).getLast?.map fun p => Value.text p.2 := by
  rw [Options.ofEnvironment, settingsOf_get?, List.filter_map, List.getLast?_map]
  show (Option.map Prod.snd (Option.map _
    (environment.filter fun p => decide (s.Called p.1)).getLast?)).join.map _ = _
  cases (environment.filter fun p => decide (s.Called p.1)).getLast? <;> rfl

/-! ## Files -/

theorem plainName_ne {found : Table Value} {name value : String}
    (free : Options.isFree {} found name value = true) (s : Setting) :
    Options.plainName {} name ≠ s.name := by
  have hlead : Options.fold {} (Options.lead {}) = "scriptenv_" := by decide +kernel
  simp only [Options.isFree, Bool.and_eq_true, Bool.or_eq_true, List.all_eq_true,
    decide_eq_true_eq] at free
  obtain ⟨⟨-, hnames⟩, houter⟩ := free
  intro hplain
  rw [Options.plainName, hlead] at hplain
  split at hplain
  next hprefix =>
    obtain ⟨rest, hrest⟩ := List.isPrefixOf_iff_prefix.mp hprefix
    refine houter s (Setting.mem_all s) ?_
    have hdrop : name.toList.drop (Options.lead {}).length = rest := by
      rw [← hrest]
      rfl
    rw [hdrop] at hplain
    rw [outerName_standard, ← hplain, ← String.toList_inj, String.toList_append, ← hrest]
    exact congrArg _ String.toList_ofList
  next =>
    rcases hnames with hempty | hnames
    · exact absurd hempty (by decide)
    · exact hnames s (Setting.mem_all s) hplain.symm

/-- What names that are no setting's give changes no setting. -/
theorem addFree_get? (found : Table Value) (pairs : Table (Option String)) (s : Setting) :
    (pairs.foldl (Options.addFree {}) found).get? s.name = found.get? s.name := by
  induction pairs generalizing found with
  | nil => rfl
  | cons p rest ih =>
    rw [List.foldl_cons, ih]
    obtain ⟨name, _ | value⟩ := p
    · rfl
    · rw [Options.addFree]
      split
      next free => exact Table.get?_put_of_ne (Ne.symm (plainName_ne free s)) ..
      next => rfl

theorem ofFile_get? (vars : Table (Option String)) (s : Setting) :
    (Options.ofFile {} vars).get? s.name =
      ((vars.filter fun p => s.Called p.1).getLast?.map Prod.snd).join.map Value.text := by
  rw [Options.ofFile, addFree_get?, settingsOf_get?]

/-- The pairs that assignments make behind the assignments `above`, in their order and with
references replaced. -/
def resolvedPairs (environment : Table String) (above : Table (Option String)) :
    List Assignment → List (String × Option String)
  | [] => []
  | a :: rest =>
    let value := a.value.map fun v =>
      String.ofList (expand (lookUp environment above) v.length v.toList)
    (a.name, value) :: resolvedPairs environment (above.put a.name value) rest

/-- The table of a file has the pairs that its assignments make, one after the other. -/
theorem expandAll_eq (environment : Table String) (above : Table (Option String))
    (assignments : List Assignment) : expandAll environment above assignments =
      (resolvedPairs environment above assignments).foldl (fun t p => t.put p.1 p.2) above := by
  induction assignments generalizing above with
  | nil => rfl
  | cons a rest ih => exact ih _

inductive FilePairs (sources : Sources) : List (String × Option String) → Prop where
  | missing (absent : sources.file = none) : FilePairs sources []
  | file {bytes : List UInt8} {cs : List Char} (found : sources.file = some bytes)
    (decodes : Encoding.utf8.decode bytes = .ok cs) :
    FilePairs sources (resolvedPairs sources.environment [] (File.read cs))

theorem FilePairs.assignmentsAt {sources : Sources} {pairs : List (String × Option String)}
    (file : FilePairs sources pairs) : assignmentsAt {} sources (Options.files {}) =
      .ok (pairs.foldl (fun t p => t.put p.1 p.2) []) := by
  have hassignments : assignments {} sources = .ok (pairs.foldl (fun t p => t.put p.1 p.2) []) := by
    cases file with
    | missing absent =>
      rw [assignments, absent]
      rfl
    | @file bytes cs found decodes =>
      have hdecode : (Options.encoding {}).bind (·.decode bytes) = .ok cs := decodes
      rw [assignments, found]
      simp only [hdecode]
      exact congrArg Except.ok (expandAll_eq ..)
  have hfiles : Options.files {} = [.ok true] := rfl
  rw [hfiles, Settings.assignmentsAt, hassignments]
  rfl

/-- Whether pairs call each setting in one spelling, and always with a value. -/
structure Spelled (pairs : List (String × Option String)) : Prop where
  once : ∀ s : Setting, ∀ p ∈ pairs, ∀ q ∈ pairs, s.Called p.1 → s.Called q.1 → p.1 = q.1
  valued : ∀ s : Setting, ∀ p ∈ pairs, s.Called p.1 → p.2.isSome

/-- In the table of a file that calls a setting in one spelling, the last variable that is called so
has the value of the last pair. -/
theorem Spelled.getLast? {pairs : List (String × Option String)} (spelled : Spelled pairs)
    (s : Setting) :
    ((pairs.foldl (fun (t : Table (Option String)) p => t.put p.1 p.2) []).filter
        fun p => s.Called p.1).getLast?.map Prod.snd =
      (pairs.filter fun p => s.Called p.1).getLast?.map Prod.snd := by
  obtain ⟨hnodup, hnames⟩ := Table.names_foldl_put pairs
  have hget := Table.get?_foldl_put id pairs []
  simp only [id] at hget
  generalize pairs.foldl (fun (t : Table (Option String)) p => t.put p.1 p.2) [] = table at *
  by_cases hcalled : ∃ p ∈ pairs, s.Called p.1
  · obtain ⟨q, hq, hcalled⟩ := hcalled
    have hpairs : (pairs.filter fun p => s.Called p.1) = pairs.filter fun p => p.1 = q.1 := by
      refine List.filter_congr fun p hp => decide_eq_decide.mpr ⟨fun h => ?_, fun h => h ▸ hcalled⟩
      exact spelled.once s p hp q hq h hcalled
    have htable : (table.filter fun p => s.Called p.1) = table.filter fun p => p.1 = q.1 := by
      refine List.filter_congr fun p hp => decide_eq_decide.mpr ⟨fun h => ?_, fun h => h ▸ hcalled⟩
      obtain ⟨r, hr, hname⟩ := List.mem_map.mp (hnames p.1 (List.mem_map_of_mem hp))
      exact hname ▸ spelled.once s r hr q hq (hname ▸ h) hcalled
    rw [hpairs, htable, Table.getLast?_named hnodup, hget]
    exact Option.or_none
  · have hpairs : (pairs.filter fun p => s.Called p.1) = [] :=
      List.filter_eq_nil_iff.mpr fun p hp h => hcalled ⟨p, hp, of_decide_eq_true h⟩
    have htable : (table.filter fun p => s.Called p.1) = [] := by
      refine List.filter_eq_nil_iff.mpr fun p hp h => ?_
      obtain ⟨r, hr, hname⟩ := List.mem_map.mp (hnames p.1 (List.mem_map_of_mem hp))
      exact hcalled ⟨r, hr, hname ▸ of_decide_eq_true h⟩
    rw [hpairs, htable]

/-! ## The first source -/

/-- The value that is chosen for a setting: that of its argument, or else of the last variable of
the environment that is called so, or else of the last pair of the file that is. -/
inductive Chooses (arguments : Metadata) (environment : Table String)
    (pairs : List (String × Option String)) (s : Setting) : Option Value → Prop where
  | argument {v : Value} (given : fieldOf arguments s.name = some v) :
    Chooses arguments environment pairs s (some v)
  | environment {name value : String} (missing : fieldOf arguments s.name = none)
    (last : (environment.filter fun p => s.Called p.1).getLast? = some (name, value)) :
    Chooses arguments environment pairs s (some (.text value))
  | file {name value : String} (missing : fieldOf arguments s.name = none)
    (unset : ∀ p ∈ environment, ¬ s.Called p.1)
    (last : (pairs.filter fun p => s.Called p.1).getLast? = some (name, some value)) :
    Chooses arguments environment pairs s (some (.text value))
  | default (missing : fieldOf arguments s.name = none)
    (unset : ∀ p ∈ environment, ¬ s.Called p.1) (unnamed : ∀ p ∈ pairs, ¬ s.Called p.1) :
    Chooses arguments environment pairs s none

def raw (arguments : Metadata) (environment : Table String)
    (pairs : List (String × Option String)) (s : Setting) : Option Value :=
  chosen? [] arguments (Options.ofEnvironment {} environment)
    (Options.ofFile {} (pairs.foldl (fun t p => t.put p.1 p.2) [])) s

theorem not_called_of_getLast? {α : Type} {pairs : List (String × α)} {s : Setting}
    (none : (pairs.filter fun p => s.Called p.1).getLast? = none) :
    ∀ p ∈ pairs, ¬ s.Called p.1 := by
  intro p hp hcalled
  have hmem := List.filter_eq_nil_iff.mp (List.getLast?_eq_none_iff.mp none) p hp
  exact hmem (decide_eq_true hcalled)

theorem called_of_getLast? {α : Type} {pairs : List (String × α)} {s : Setting} {p : String × α}
    (last : (pairs.filter fun p => s.Called p.1).getLast? = some p) : p ∈ pairs ∧ s.Called p.1 := by
  obtain ⟨hmem, hcalled⟩ := List.mem_filter.mp (List.mem_of_getLast? last)
  exact ⟨hmem, of_decide_eq_true hcalled⟩

theorem Chooses.unique {arguments : Metadata} {environment : Table String}
    {pairs : List (String × Option String)} {s : Setting} {v w : Option Value}
    (first : Chooses arguments environment pairs s v)
    (second : Chooses arguments environment pairs s w) : v = w := by
  cases first with
  | argument given =>
    cases second with
    | argument given' => exact given.symm.trans given'
    | environment missing => cases given.symm.trans missing
    | file missing => cases given.symm.trans missing
    | default missing => cases given.symm.trans missing
  | environment missing last =>
    obtain ⟨hmem, hcalled⟩ := called_of_getLast? last
    cases second with
    | argument given => cases given.symm.trans missing
    | environment _ last' =>
      cases last.symm.trans last'
      rfl
    | file _ unset => exact absurd hcalled (unset _ hmem)
    | default _ unset => exact absurd hcalled (unset _ hmem)
  | file missing unset last =>
    obtain ⟨hmem, hcalled⟩ := called_of_getLast? last
    cases second with
    | argument given => cases given.symm.trans missing
    | environment _ last' =>
      obtain ⟨hset, hsame⟩ := called_of_getLast? last'
      exact absurd hsame (unset _ hset)
    | file _ _ last' =>
      cases last.symm.trans last'
      rfl
    | default _ _ unnamed => exact absurd hcalled (unnamed _ hmem)
  | default missing unset unnamed =>
    cases second with
    | argument given => cases given.symm.trans missing
    | environment _ last =>
      obtain ⟨hset, hcalled⟩ := called_of_getLast? last
      exact absurd hcalled (unset _ hset)
    | file _ _ last =>
      obtain ⟨hmem, hcalled⟩ := called_of_getLast? last
      exact absurd hcalled (unnamed _ hmem)
    | default => rfl

/-- A setting is taken from the first source that has it. -/
theorem chooses_raw {arguments : Metadata} (plain : Plain arguments)
    (environment : Table String) {pairs : List (String × Option String)}
    (spelled : Spelled pairs) (s : Setting) :
    Chooses arguments environment pairs s (raw arguments environment pairs s) := by
  rw [raw, chosen?, argument_of_plain plain, ofEnvironment_get?, ofFile_get?, spelled.getLast?]
  show Chooses _ _ _ _ (Option.or none _)
  rw [Option.none_or]
  cases hargument : fieldOf arguments s.name with
  | some v => exact .argument hargument
  | none =>
    rw [Option.none_or]
    cases hset : (environment.filter fun p => s.Called p.1).getLast? with
    | some p => exact .environment hargument hset
    | none =>
      have hunset := not_called_of_getLast? hset
      simp only [Option.map_none, Option.none_or]
      cases hnamed : (pairs.filter fun p => s.Called p.1).getLast? with
      | none => exact .default hargument hunset (not_called_of_getLast? hnamed)
      | some p =>
        obtain ⟨hmem, hcalled⟩ := called_of_getLast? hnamed
        obtain ⟨name, value⟩ := p
        obtain ⟨value, rfl⟩ := Option.isSome_iff_exists.mp (spelled.valued s _ hmem hcalled)
        exact .file hargument hunset hnamed

theorem chooses_iff {arguments : Metadata} (plain : Plain arguments)
    (environment : Table String) {pairs : List (String × Option String)}
    (spelled : Spelled pairs) (s : Setting) (v : Option Value) :
    Chooses arguments environment pairs s v ↔ v = raw arguments environment pairs s := by
  have hraw := chooses_raw plain environment spelled s
  exact ⟨fun chooses => chooses.unique hraw, fun heq => heq ▸ hraw⟩

end Settings
end ScopeChain
