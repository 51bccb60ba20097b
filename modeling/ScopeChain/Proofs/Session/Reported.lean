/-
What the log and the descriptions of scopes show of names.

Names are quoted wherever they are shown, so no name breaks a line or passes for another.  A line
of the log tells the record that it was made from, with its name and its depth, and the
description of a scope tells the depth of the scope and its local names.
-/
import ScopeChain.Proofs.Session.Logged
import ScopeChain.Proofs.Text.Quoted

namespace ScopeChain

def Unbroken (text : String) : Prop :=
  ∀ c ∈ text.toList, 0x20 ≤ c.toNat ∧ c.toNat ≠ 0x7F ∧ c.toNat ≠ 0x2028

theorem Printed.unbroken {text : String} (printed : Printed text.toList) : Unbroken text :=
  fun c hc => ⟨Printable.low_of_isPrintable (printed c hc),
    Printable.ne_of_isPrintable (d := '\x7f') (printed c hc) (by decide),
    Printable.ne_of_isPrintable (d := '\u2028') (printed c hc) (by decide +kernel)⟩

/-! ## The lines of the log -/

namespace Record

def opening : Record → List Char
  | .lookupFailed .. => "Lookup failed for ".toList
  | .globalWrite .. => "Global write of ".toList
  | .captured _ => "Captured snapshot of ".toList
  | .restored _ => "Restored chain of ".toList

def particulars : Record → List Char
  | .lookupFailed name depth =>
    Quoted.spellName name ++ (" at depth ".toList ++ Digits.ofNat depth)
  | .globalWrite name depth =>
    Quoted.spellName name ++ (" from depth ".toList ++ Digits.ofNat depth)
  | .captured scopes | .restored scopes => Digits.ofNat scopes ++ " scopes".toList

theorem toList_named (front middle name : String) (n : Nat) :
    (front ++ Quoted.text name ++ middle ++ Digits.natText n).toList =
      front.toList ++ (Quoted.spellName name ++ (middle.toList ++ Digits.ofNat n)) := by
  simp only [String.toList_append, Quoted.toList_text, Digits.toList_natText, List.append_assoc]

theorem toList_counted (front last : String) (n : Nat) :
    (front ++ Digits.natText n ++ last).toList =
      front.toList ++ (Digits.ofNat n ++ last.toList) := by
  simp only [String.toList_append, Digits.toList_natText, List.append_assoc]

theorem toList_message (record : Record) :
    record.message.toList = record.opening ++ record.particulars := by
  cases record with
  | lookupFailed name depth => exact toList_named "Lookup failed for " " at depth " name depth
  | globalWrite name depth => exact toList_named "Global write of " " from depth " name depth
  | captured scopes => exact toList_counted "Captured snapshot of " " scopes" scopes
  | restored scopes => exact toList_counted "Restored chain of " " scopes" scopes

/-- A quoted name is told whatever follows it, and a number at the end of a text is. -/
theorem named_eq {name other : String} {n m : Nat} {words : List Char}
    (h : Quoted.spellName name ++ (words ++ Digits.ofNat n) =
      Quoted.spellName other ++ (words ++ Digits.ofNat m)) : name = other ∧ n = m := by
  obtain ⟨hname, hrest⟩ := Quoted.selfDelimiting_spellName h
  exact ⟨hname, Digits.ofNat_injective (List.append_cancel_left hrest)⟩

/-- A message tells its record. -/
theorem message_injective : Function.Injective message := by
  intro record other h
  -- The first letter tells what the record is about.  Behind the name, which ends by itself, stand
  -- words that are the same for all records of a kind, and then the number up to the end.
  have hchars : record.opening ++ record.particulars = other.opening ++ other.particulars := by
    rw [← toList_message, ← toList_message, h]
  cases record with
  | lookupFailed name depth =>
    cases other with
    | lookupFailed name' depth' =>
      obtain ⟨rfl, rfl⟩ := named_eq (List.append_cancel_left hchars)
      rfl
    | _ => exact absurd (List.cons.inj hchars).1 (by decide)
  | globalWrite name depth =>
    cases other with
    | globalWrite name' depth' =>
      obtain ⟨rfl, rfl⟩ := named_eq (List.append_cancel_left hchars)
      rfl
    | _ => exact absurd (List.cons.inj hchars).1 (by decide)
  | captured scopes =>
    cases other with
    | captured scopes' =>
      rw [Digits.ofNat_injective (List.append_cancel_right (List.append_cancel_left hchars))]
    | _ => exact absurd (List.cons.inj hchars).1 (by decide)
  | restored scopes =>
    cases other with
    | restored scopes' =>
      rw [Digits.ofNat_injective (List.append_cancel_right (List.append_cancel_left hchars))]
    | _ => exact absurd (List.cons.inj hchars).1 (by decide)

theorem toList_line (record : Record) :
    record.line.toList = record.source.toList ++ (" DEBUG ".toList ++ record.message.toList) := by
  rw [line, String.toList_append, String.toList_append, List.append_assoc]

theorem source_cases (record : Record) :
    record.source = "scriptenv." ++ "binding" ∨
      record.source = "scriptenv." ++ "core.serializer" := by
  have hscopes : "scriptenv.binding" = "scriptenv." ++ "binding" := by decide
  have hsnapshots : "scriptenv.core.serializer" = "scriptenv." ++ "core.serializer" := by decide
  cases record with
  | lookupFailed => exact Or.inl hscopes
  | globalWrite => exact Or.inl hscopes
  | captured => exact Or.inr hsnapshots
  | restored => exact Or.inr hsnapshots

theorem sources_differ (left right : List Char) :
    ("scriptenv." ++ "binding").toList ++ left ≠
      ("scriptenv." ++ "core.serializer").toList ++ right := by
  intro h
  rw [String.toList_append, String.toList_append, List.append_assoc, List.append_assoc] at h
  exact absurd (List.cons.inj (List.append_cancel_left h)).1 (by decide)

theorem source_eq {record other : Record} {left right : List Char}
    (h : record.source.toList ++ left = other.source.toList ++ right) :
    record.source = other.source := by
  rcases source_cases record with hr | hr <;> rcases source_cases other with ho | ho
  · rw [hr, ho]
  · rw [hr, ho] at h
    exact absurd h (sources_differ left right)
  · rw [hr, ho] at h
    exact absurd h.symm (sources_differ right left)
  · rw [hr, ho]

theorem line_injective : Function.Injective line := by
  intro record other h
  have hchars := congrArg String.toList h
  rw [toList_line, toList_line] at hchars
  have hsource := source_eq hchars
  rw [hsource] at hchars
  exact message_injective
    (String.toList_injective (List.append_cancel_left (List.append_cancel_left hchars)))

theorem printed_opening (record : Record) : Printed record.opening := by
  cases record with
  | lookupFailed => show Printed "Lookup failed for ".toList; decide +kernel
  | globalWrite => show Printed "Global write of ".toList; decide +kernel
  | captured => show Printed "Captured snapshot of ".toList; decide +kernel
  | restored => show Printed "Restored chain of ".toList; decide +kernel

theorem printed_message (record : Record) : Printed record.message.toList := by
  rw [toList_message]
  refine (printed_opening record).append ?_
  cases record with
  | lookupFailed name depth =>
    exact (Printed.encode name.toList).append (.append (by decide) (.ofNat depth))
  | globalWrite name depth =>
    exact (Printed.encode name.toList).append (.append (by decide) (.ofNat depth))
  | captured scopes => exact (Printed.ofNat scopes).append (by decide)
  | restored scopes => exact (Printed.ofNat scopes).append (by decide)

theorem printed_line (record : Record) : Printed record.line.toList := by
  have hsource : Printed record.source.toList := by
    rcases source_cases record with h | h <;> rw [h] <;> decide +kernel
  rw [toList_line]
  exact hsource.append (.append (by decide) (printed_message record))

end Record

/-! ## Descriptions of scopes -/

namespace Session

variable {s t : Session} {b d : ScopeId}

theorem toList_describe (s : Session) (b : ScopeId) :
    (s.describe b).toList = "Binding(depth=".toList ++
      (Digits.ofNat (s.forest.depth b) ++ (", names=".toList ++
        ((Quoted.list (s.forest.locals b).names).toList ++ ")".toList))) := by
  show ("Binding(depth=" ++ Digits.natText (s.forest.depth b) ++ ", names=" ++
    Quoted.list (s.forest.locals b).names ++ ")").toList = _
  simp only [String.toList_append, Digits.toList_natText, List.append_assoc]

/-- A description tells the depth of its scope and all local names. -/
theorem describe_eq (h : s.describe b = t.describe d) :
    s.forest.depth b = t.forest.depth d ∧
      (s.forest.locals b).names = (t.forest.locals d).names := by
  have hchars := congrArg String.toList h
  rw [toList_describe, toList_describe] at hchars
  have hnumbers := List.append_cancel_left hchars
  rw [← List.append_assoc, ← List.append_assoc (Digits.ofNat (t.forest.depth d))] at hnumbers
  obtain ⟨hdepth, hrest⟩ := selfDelimiting_ofNat (c := ',') (by decide) _ hnumbers
  exact ⟨hdepth, (Quoted.selfDelimiting_list hrest).1⟩

theorem printed_describe (s : Session) (b : ScopeId) : Printed (s.describe b).toList := by
  rw [toList_describe]
  exact .append (by decide) (.append (.ofNat _) (.append (by decide)
    (.append (.list _) (by decide))))

theorem ask_describe_eq {line : String} (h : s.ask (.describe b) = .reply (.text line)) :
    b < s.forest.size ∧ s.describe b = line := by
  by_cases present : b < s.forest.size
  · have hdescribe : s.ask (.describe b) = .reply (.text (s.describe b)) :=
      ask_answer present rfl
    rw [hdescribe] at h
    cases h
    exact ⟨present, rfl⟩
  · have habsent : s.ask (.describe b) = .fail .absent := congrArg Prod.snd (if_neg present)
    rw [habsent] at h
    cases h

/-- Neither the lines of the log nor the descriptions of scopes have control characters or line
separators, whatever names they show, and they tell these names.  The message of a record tells
the record.  Operations of any two sessions that leave the same lines in the log give rise to one
record, so they are about one name and one depth.  Scopes of any two sessions that are described
alike answer the same depth and the same local names. -/
theorem reports_tell_names (s t : Session) :
    (∀ record : Record, Unbroken record.line ∧
      ∀ other : Record, record.message = other.message → record = other) ∧
    (∀ {op op' : Op} {record other : Record}, s.Emits op record → t.Emits op' other →
      (s.step op).2.log.map Record.line = (t.step op').2.log.map Record.line →
        record = other) ∧
    ∀ {b d : ScopeId} {line : String}, s.ask (.describe b) = .reply (.text line) →
      Unbroken line ∧ (t.ask (.describe d) = .reply (.text line) →
        s.ask (.depth b) = t.ask (.depth d) ∧
          s.ask (.localNames b) = t.ask (.localNames d)) := by
  refine ⟨fun record => ⟨record.printed_line.unbroken, fun _ h => Record.message_injective h⟩,
    fun emits emits' hlines => ?_, fun {b d line} described => ?_⟩
  · rw [emits.log, emits'.log] at hlines
    exact Record.line_injective (List.singleton_inj.mp hlines)
  · obtain ⟨hb, rfl⟩ := ask_describe_eq described
    refine ⟨(printed_describe s b).unbroken, fun described' => ?_⟩
    obtain ⟨hd, hsame⟩ := ask_describe_eq described'
    obtain ⟨hdepth, hnames⟩ := describe_eq hsame
    have hleft : s.ask (.localNames b) = .reply (.names (s.forest.locals b).names) :=
      ask_answer hb rfl
    have hright : t.ask (.localNames d) = .reply (.names (t.forest.locals d).names) :=
      ask_answer hd rfl
    rw [ask_depth hb, ask_depth hd, hleft, hright, hdepth, hnames]
    exact ⟨rfl, rfl⟩

/-- A session with two global scopes.  The one name in the first of them is spelled as if it were
the two in the other. -/
def deceptive : Session := (start ⟨[], none⟩).afterAll [
  .op (.scope (.create none)), .op (.scope (.create none)),
  .op (.scope (.set 0 "a', 'b" .null none)),
  .op (.scope (.set 1 "a" .null none)), .op (.scope (.set 1 "b" .null none))]

/-- A name that would begin a line of its own is shown on one line, and not as the name that is
spelled like what is shown.  One name is not described as two. -/
theorem deceptive_told :
    deceptive.Emits (.scope (.get 0 "x\n' at depth 0")) (.lookupFailed "x\n' at depth 0" 0) ∧
      Unbroken (Record.lookupFailed "x\n' at depth 0" 0).line ∧
      deceptive.Emits (.scope (.get 1 "x\\n' at depth 0")) (.lookupFailed "x\\n' at depth 0" 0) ∧
      (deceptive.step (.scope (.get 0 "x\n' at depth 0"))).2.log.map Record.line ≠
        (deceptive.step (.scope (.get 1 "x\\n' at depth 0"))).2.log.map Record.line ∧
      deceptive.ask (.describe 0) = .reply (.text "Binding(depth=0, names=[\"a', 'b\"])") ∧
      Unbroken "Binding(depth=0, names=[\"a', 'b\"])" ∧
      deceptive.ask (.describe 1) ≠ .reply (.text "Binding(depth=0, names=[\"a', 'b\"])") := by
  have hreachable : deceptive.Reachable := ⟨_, _, rfl⟩
  have hleft : ∀ {op : Op} {record : Record}, (deceptive.step op).2.log = [record] →
      deceptive.Emits op record := fun {op record} hlog => by
    rcases logs_step hreachable.proper.sited op with hsilent | ⟨left, emits, hrecord⟩
    · rw [show (deceptive.step op).2.log = [] from hsilent] at hlog
      cases hlog
    · rw [hrecord] at hlog
      rwa [← List.singleton_inj.mp hlog]
  have hbroken : deceptive.Emits (.scope (.get 0 "x\n' at depth 0"))
      (.lookupFailed "x\n' at depth 0" 0) := hleft (by decide +kernel)
  have hspelled : deceptive.Emits (.scope (.get 1 "x\\n' at depth 0"))
      (.lookupFailed "x\\n' at depth 0" 0) := hleft (by decide +kernel)
  have hdescribed : deceptive.ask (.describe 0) =
      .reply (.text "Binding(depth=0, names=[\"a', 'b\"])") := by
    rw [ask_answer (r := .text (deceptive.describe 0)) (by decide +kernel) rfl]
    exact congrArg (fun text => Outcome.reply (.text text)) (by decide +kernel)
  obtain ⟨hrecords, hlogs, hdescriptions⟩ := reports_tell_names deceptive deceptive
  refine ⟨hbroken, (hrecords _).1, hspelled, fun h => ?_, hdescribed,
    (hdescriptions (d := 0) hdescribed).1, fun h => ?_⟩
  · exact absurd (hlogs hbroken hspelled h) (by decide)
  · have hnames := ((hdescriptions hdescribed).2 h).2
    rw [ask_answer (r := .names (deceptive.forest.locals 0).names) (by decide +kernel) rfl,
      ask_answer (r := .names (deceptive.forest.locals 1).names) (by decide +kernel) rfl] at hnames
    have hsame := Reply.names.inj (Except.ok.inj (congrArg Outcome.answer hnames))
    exact absurd hsame (by decide +kernel)

end Session
end ScopeChain
