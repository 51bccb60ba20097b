/-
A legible tree is read back from its text.

A tree is legible if nothing in it is lost by writing it down and reading it back: its doubles
are finite, no two members of an object have one name, and no integer has more digits than are
read.  The reader has a bound on open containers and a bound on the items of one container, and a
text is read as a whole if its tree stays within both.  The induction is on the first bound,
which is what the reader recurses on.  What stands between items is skipped as white space,
which no tree begins with.
-/
import ScopeChain.Proofs.Json.Scalar
import ScopeChain.Proofs.Json.Tree

namespace ScopeChain

namespace Json

/-! ## Legible trees -/

structure Legible (j : Json) : Prop where
  distinct : Every NamesDistinct j
  doubles : Every FiniteDouble j
  short : j.hasLongInteger = false

namespace Legible

theorem item {items : List Json} (h : Legible (.array items)) {x : Json} (hx : x ∈ items) :
    Legible x where
  distinct := (every_array.mp h.distinct).2 x hx
  doubles := (every_array.mp h.doubles).2 x hx
  short := anyLongInteger_eq_false.mp (by simpa [hasLongInteger] using h.short) x hx

theorem member {members : List (String × Json)} (h : Legible (.object members))
    {m : String × Json} (hm : m ∈ members) : Legible m.2 where
  distinct := (every_object.mp h.distinct).2 m hm
  doubles := (every_object.mp h.doubles).2 m hm
  short := memberLongInteger_eq_false.mp (by simpa [hasLongInteger] using h.short) m hm

theorem names {members : List (String × Json)} (h : Legible (.object members)) :
    (members.map Prod.fst).Nodup :=
  (every_object.mp h.distinct).1

theorem digits {i : Int} (h : Legible (.int i)) :
    (Digits.ofNat i.natAbs).length ≤ digitLimit := by
  simpa [hasLongInteger] using h.short

end Legible

/-! ## White space -/

theorem skip_newLine (level : Nat) (cs : List Char) : skip (newLine level ++ cs) = skip cs := by
  have hall : ∀ c ∈ newLine level, isSpace c = true := by
    intro c hc
    rcases List.mem_cons.mp hc with rfl | hc
    · rfl
    · rw [List.eq_of_mem_replicate hc]
      rfl
  rw [skip, skip, List.dropWhile_append_of_pos hall]

theorem skip_of_not_space {c : Char} (h : isSpace c = false) (cs : List Char) :
    skip (c :: cs) = c :: cs := by
  rw [skip, List.dropWhile_cons_of_neg (by simp [h])]

def Begins (c : Char) : Prop := isSpace c = false ∧ c ≠ ']' ∧ c ≠ '\uFEFF'

theorem begins_of_digit {c : Char} (h : c.isDigit = true) : Begins c := by
  refine ⟨?_, isDigit_ne h rfl, isDigit_ne h rfl⟩
  have hs := isDigit_ne h (d := ' ') rfl
  have ht := isDigit_ne h (d := '\t') rfl
  have hl := isDigit_ne h (d := '\n') rfl
  have hr := isDigit_ne h (d := '\r') rfl
  simp [isSpace, hs, ht, hl, hr]

theorem begins_of_opens {cs : List Char} (opens : Decimal.Opens cs) :
    ∃ c rest, cs = c :: rest ∧ Begins c := by
  obtain ⟨d, ds, hd, rfl | rfl⟩ := opens
  · exact ⟨d, ds, rfl, begins_of_digit hd⟩
  · exact ⟨'-', d :: ds, rfl, by decide, by decide, by decide⟩

/-- The text of a legible tree begins with a character that is no white space and closes
nothing. -/
theorem write_eq_cons {j : Json} (h : Legible j) (level : Nat) :
    ∃ c cs, write level j = c :: cs ∧ Begins c := by
  cases j with
  | null => exact ⟨'n', _, rfl, by decide, by decide, by decide⟩
  | bool b =>
    cases b
    · exact ⟨'f', _, rfl, by decide, by decide, by decide⟩
    · exact ⟨'t', _, rfl, by decide, by decide, by decide⟩
  | int i => exact begins_of_opens (Decimal.opens_ofInt i)
  | float x =>
    have hfinite : x.isFinite = true := h.doubles
    rw [write, writeFloat_of_finite hfinite]
    exact begins_of_opens (Binary64.opens_chars hfinite)
  | text s => exact ⟨'\x22', _, rfl, by decide, by decide, by decide⟩
  | array items =>
    cases items
    · exact ⟨'[', _, rfl, by decide, by decide, by decide⟩
    · exact ⟨'[', _, rfl, by decide, by decide, by decide⟩
  | object members =>
    cases members
    · exact ⟨'\x7b', _, rfl, by decide, by decide, by decide⟩
    · exact ⟨'\x7b', _, rfl, by decide, by decide, by decide⟩

theorem skip_write {j : Json} (h : Legible j) (level : Nat) (rest : List Char) :
    skip (write level j ++ rest) = write level j ++ rest := by
  obtain ⟨c, cs, hc, hb⟩ := write_eq_cons h level
  rw [hc, List.cons_append, skip_of_not_space hb.1]

/-! ## What follows a tree -/

theorem ended_nil : Decimal.Ended [] := by
  intro c rest e
  cases e

theorem ended_newLine (level : Nat) (cs : List Char) : Decimal.Ended (newLine level ++ cs) := by
  intro c rest e
  rw [newLine, List.cons_append] at e
  obtain ⟨rfl, -⟩ := List.cons.inj e
  decide

theorem ended_comma (cs : List Char) : Decimal.Ended (',' :: cs) := by
  intro c rest e
  obtain ⟨rfl, -⟩ := List.cons.inj e
  decide

theorem ended_items (level outer : Nat) (items : List Json) (cs : List Char) :
    Decimal.Ended (writeItems level items ++ (newLine outer ++ cs)) := by
  cases items with
  | nil => exact ended_newLine outer cs
  | cons x rest => exact ended_comma _

theorem ended_members (level outer : Nat) (members : List (String × Json)) (cs : List Char) :
    Decimal.Ended (writeMembers level members ++ (newLine outer ++ cs)) := by
  cases members with
  | nil => exact ended_newLine outer cs
  | cons m rest => exact ended_comma _

/-! ## Items and members -/

theorem readItems_write {item : List Char → Except Stop (Json × List Char)} (level outer : Nat)
    {items : List Json} (legible : ∀ y ∈ items, Legible y)
    (reads : ∀ y ∈ items, ∀ r, Decimal.Ended r → item (write level y ++ r) = .ok (y, r))
    {x : Json}
    (first : ∀ r, Decimal.Ended r → item (write level x ++ r) = .ok (x, r))
    (room : Nat) (enough : items.length < room) (done : List Json) (rest : List Char) :
    readItems item room done
        (write level x ++ (writeItems level items ++ (newLine outer ++ ']' :: rest))) =
      .ok (.array (done.reverse ++ x :: items), rest) := by
  induction items generalizing x room done with
  | nil =>
    obtain ⟨room, rfl⟩ : ∃ n, room = n + 1 := ⟨room - 1, by simp at enough; omega⟩
    have hskip : skip (newLine outer ++ ']' :: rest) = ']' :: rest := by
      rw [skip_newLine, skip_of_not_space (by decide)]
    rw [readItems, first _ (ended_items level outer [] _)]
    simp [writeItems, hskip]
  | cons y items ih =>
    obtain ⟨room, rfl⟩ : ∃ n, room = n + 1 := ⟨room - 1, by simp at enough; omega⟩
    have hy : Legible y := legible y List.mem_cons_self
    have hnext := ih (fun z hz => legible z (List.mem_cons_of_mem _ hz))
      (fun z hz => reads z (List.mem_cons_of_mem _ hz)) (reads y List.mem_cons_self)
      room (by simp at enough; omega) (x :: done)
    rw [readItems, first _ (ended_items level outer (y :: items) _)]
    simp only [writeItems, List.cons_append, List.append_assoc]
    rw [skip_of_not_space (by decide)]
    simp only [skip_newLine, skip_write hy]
    rw [hnext]
    simp

/-- Members are read to the end of their object, if the values are read back and the names
are distinct. -/
theorem readMembers_write {item : List Char → Except Stop (Json × List Char)}
    (level outer : Nat) {members : List (String × Json)}
    (reads : ∀ m ∈ members, ∀ r, Decimal.Ended r →
      skip (write level m.2 ++ r) = write level m.2 ++ r ∧
        item (write level m.2 ++ r) = .ok (m.2, r))
    {name : String} {x : Json}
    (first : ∀ r, Decimal.Ended r →
      skip (write level x ++ r) = write level x ++ r ∧
        item (write level x ++ r) = .ok (x, r))
    (room : Nat) (enough : members.length < room) (done : List (String × Json))
    (names : ((done ++ (name, x) :: members).map Prod.fst).Nodup) (rest : List Char) :
    readMembers item room done
        (writeText name ++ (':' :: ' ' :: (write level x ++ (writeMembers level members ++
          (newLine outer ++ '\x7d' :: rest))))) =
      .ok (.object (done ++ (name, x) :: members), rest) := by
  have hput : putMember name x done = done ++ [(name, x)] := by
    refine putMember_of_not_mem (fun hmem => ?_) x
    rw [List.map_append, List.map_cons] at names
    exact (List.nodup_append.mp names).2.2 name hmem name List.mem_cons_self rfl
  have hquoted : ∀ r, writeText name ++ r =
      '\x22' :: (name.toList.flatMap escape ++ '\x22' :: r) := by
    intro r
    simp [writeText]
  have hblank : ∀ r, skip (' ' :: r) = skip r := fun _ => rfl
  induction members generalizing name x room done with
  | nil =>
    obtain ⟨room, rfl⟩ : ∃ n, room = n + 1 := ⟨room - 1, by simp at enough; omega⟩
    obtain ⟨hskip, hitem⟩ := first _ (ended_members level outer [] ('\x7d' :: rest))
    have hclose : skip (newLine outer ++ '\x7d' :: rest) = '\x7d' :: rest := by
      rw [skip_newLine, skip_of_not_space (by decide)]
    rw [hquoted, readMembers, readText_writeText]
    simp only [skip_of_not_space (show isSpace ':' = false by decide), hblank, hskip, hitem,
      hput]
    simp [writeMembers, hclose]
  | cons m members ih =>
    obtain ⟨room, rfl⟩ : ∃ n, room = n + 1 := ⟨room - 1, by simp at enough; omega⟩
    obtain ⟨n, y⟩ := m
    obtain ⟨hskip, hitem⟩ :=
      first _ (ended_members level outer ((n, y) :: members) ('\x7d' :: rest))
    have hnames : (((done ++ [(name, x)]) ++ (n, y) :: members).map Prod.fst).Nodup := by
      simpa using names
    have hnotin : n ∉ (done ++ [(name, x)]).map Prod.fst := by
      intro hmem
      rw [List.map_append, List.map_cons] at hnames
      exact (List.nodup_append.mp hnames).2.2 n hmem n List.mem_cons_self rfl
    have hnext := ih (fun z hz => reads z (List.mem_cons_of_mem _ hz))
      (reads (n, y) List.mem_cons_self) room (by simp at enough; omega) _ hnames
      (putMember_of_not_mem hnotin y) (fun r => by simp [writeText])
    have hname : ∀ r, skip (writeText n ++ r) = writeText n ++ r := by
      intro r
      rw [writeText, List.cons_append, List.cons_append, skip_of_not_space (by decide)]
    rw [hquoted, readMembers, readText_writeText]
    simp only [skip_of_not_space (show isSpace ':' = false by decide), hblank, hskip, hitem,
      hput]
    simp only [writeMembers, List.cons_append, List.append_assoc]
    rw [skip_of_not_space (by decide)]
    simp only [skip_newLine, hname]
    rw [hnext]
    simp

/-! ## Room

The reader allows as many items in one container as the whole text has characters. -/

theorem length_le_writeItems (level : Nat) (items : List Json) :
    items.length ≤ (writeItems level items).length := by
  induction items with
  | nil => simp
  | cons x rest ih =>
    simp only [writeItems, List.length_cons, List.length_append]
    omega

theorem length_write_le_writeItems (level : Nat) {items : List Json} {x : Json}
    (h : x ∈ items) : (write level x).length ≤ (writeItems level items).length := by
  induction items with
  | nil => cases h
  | cons y rest ih =>
    simp only [writeItems, List.length_cons, List.length_append]
    rcases List.mem_cons.mp h with rfl | h
    · omega
    · have := ih h
      omega

theorem length_le_writeMembers (level : Nat) (members : List (String × Json)) :
    members.length ≤ (writeMembers level members).length := by
  induction members with
  | nil => simp
  | cons m rest ih =>
    simp only [writeMembers, List.length_cons, List.length_append]
    omega

theorem length_write_le_writeMembers (level : Nat) {members : List (String × Json)}
    {m : String × Json} (h : m ∈ members) :
    (write level m.2).length ≤ (writeMembers level members).length := by
  induction members with
  | nil => cases h
  | cons d rest ih =>
    simp only [writeMembers, List.length_cons, List.length_append]
    rcases List.mem_cons.mp h with rfl | h
    · omega
    · have := ih h
      omega

/-! ## Trees -/

theorem readValue_scalar {room depth : Nat} {c : Char} {cs : List Char} (hb : c ≠ '[')
    (ho : c ≠ '\x7b') : readValue room depth (c :: cs) = readScalar (c :: cs) := by
  rw [readValue]
  · rintro r e
    exact hb (List.cons.inj e).1
  · rintro r e
    exact ho (List.cons.inj e).1

theorem readValue_of_opens {cs : List Char} (opens : Decimal.Opens cs) (room depth : Nat)
    (rest : List Char) : readValue room depth (cs ++ rest) = readScalar (cs ++ rest) := by
  obtain ⟨d, ds, hd, rfl | rfl⟩ := opens
  · exact readValue_scalar (isDigit_ne hd (by decide)) (isDigit_ne hd (by decide))
  · exact readValue_scalar (by decide) (by decide)

/-- A legible tree is read back from the front of a text. -/
theorem readValue_write {room depth : Nat} {j : Json} (legible : Legible j)
    (shallow : j.levels ≤ depth) {level : Nat} (roomy : (write level j).length ≤ room)
    {rest : List Char} (ended : Decimal.Ended rest) :
    readValue room depth (write level j ++ rest) = .ok (j, rest) := by
  induction depth generalizing j level rest with
  | zero => exact absurd shallow (Nat.not_le.mpr (levels_pos j))
  | succ depth ih =>
    cases j with
    | null => exact readScalar_null rest
    | bool b =>
      cases b
      · exact readScalar_bool false rest
      · exact readScalar_bool true rest
    | int i =>
      rw [write, readValue_of_opens (Decimal.opens_ofInt i)]
      exact readScalar_ofInt legible.digits ended
    | float x =>
      have hfinite : x.isFinite = true := legible.doubles
      rw [write, writeFloat_of_finite hfinite,
        readValue_of_opens (Binary64.opens_chars hfinite)]
      exact readScalar_chars hfinite ended
    | text s => exact readScalar_writeText s rest
    | array items =>
      cases items with
      | nil => rfl
      | cons x items =>
        have hx : Legible x := legible.item List.mem_cons_self
        have hlevels := levels_array_le.mp shallow
        simp only [write, List.length_cons, List.length_append] at roomy
        have hreads : ∀ y ∈ x :: items, ∀ r, Decimal.Ended r →
            readValue room depth (write (level + 1) y ++ r) = .ok (y, r) := by
          intro y hy r hr
          refine ih (legible.item hy) (hlevels y hy) ?_ hr
          rcases List.mem_cons.mp hy with rfl | hy
          · omega
          · have := length_write_le_writeItems (level + 1) hy
            omega
        have hitems := readItems_write (level + 1) level
          (fun y hy => legible.item (List.mem_cons_of_mem _ hy))
          (fun y hy => hreads y (List.mem_cons_of_mem _ hy)) (hreads x List.mem_cons_self)
          room (by have := length_le_writeItems (level + 1) items; omega) [] rest
        obtain ⟨c, cs, hc, hb⟩ := write_eq_cons hx (level + 1)
        simp only [write, List.cons_append, List.append_assoc, List.nil_append, readValue,
          skip_newLine, skip_write hx]
        rw [hc, List.cons_append] at hitems ⊢
        split
        next r e => exact absurd (List.cons.inj e).1 hb.2.1
        next => simpa using hitems
    | object members =>
      cases members with
      | nil => rfl
      | cons m members =>
        obtain ⟨name, x⟩ := m
        have hlevels := levels_object_le.mp shallow
        simp only [write, List.length_cons, List.length_append] at roomy
        have hreads : ∀ m ∈ (name, x) :: members, ∀ r, Decimal.Ended r →
            skip (write (level + 1) m.2 ++ r) = write (level + 1) m.2 ++ r ∧
              readValue room depth (write (level + 1) m.2 ++ r) = .ok (m.2, r) := by
          intro m hm r hr
          refine ⟨skip_write (legible.member hm) _ _,
            ih (legible.member hm) (hlevels m hm) ?_ hr⟩
          rcases List.mem_cons.mp hm with rfl | hm
          · show (write (level + 1) x).length ≤ room
            omega
          · have := length_write_le_writeMembers (level + 1) hm
            omega
        have hmembers := readMembers_write (level + 1) level
          (fun m hm => hreads m (List.mem_cons_of_mem _ hm)) (hreads (name, x) List.mem_cons_self)
          room (by have := length_le_writeMembers (level + 1) members; omega) []
          legible.names rest
        simp only [write, List.cons_append, List.append_assoc, List.nil_append, readValue,
          skip_newLine]
        rw [writeText, List.cons_append, List.cons_append] at hmembers ⊢
        rw [skip_of_not_space (by decide)]
        exact hmembers

/-- A legible tree is read back from its text. -/
theorem read_render {j : Json} (legible : Legible j) (shallow : j.levels ≤ nestingLimit) :
    read j.render.toList = .ok j := by
  rw [render, String.toList_ofList]
  have hread := readValue_write legible shallow (Nat.le_refl (write 0 j).length) ended_nil
  have hskip := skip_write legible 0 []
  obtain ⟨c, cs, hc, hb⟩ := write_eq_cons legible 0
  rw [List.append_nil] at hread hskip
  have hmark : (write 0 j).head? ≠ some '\uFEFF' := by
    rw [hc, List.head?_cons]
    exact fun e => hb.2.2 (Option.some.inj e)
  rw [read, if_neg hmark, hskip, hread]
  rfl

end Json
end ScopeChain
