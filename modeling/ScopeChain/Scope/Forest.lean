/-
The forest of scopes.

A scope has a parent or is global.  Its parent is older than it and never changes, so the
chain from a scope outward ends at a global scope.  A lookup takes the nearest scope on the
chain that has the name, and a write changes one scope.
-/
import ScopeChain.Scope.Entry

namespace ScopeChain

structure Scope where
  parent : Option ScopeId
  locals : Locals

/-- All scopes in the order of their making. -/
structure Forest where
  scopes : Array Scope
  older : ∀ (i : Nat) (h : i < scopes.size), ∀ p ∈ (scopes[i]).parent, p < i

namespace Forest

def empty : Forest := ⟨#[], fun _ h => absurd h (Nat.not_lt_zero _)⟩

def size (f : Forest) : Nat := f.scopes.size

def parent? (f : Forest) (b : ScopeId) : Option ScopeId := (f.scopes[b]?).bind (·.parent)

def isGlobal (f : Forest) (b : ScopeId) : Bool := (f.parent? b).isNone

/-- The variables of a scope.  There are none where no scope is. -/
def locals (f : Forest) (b : ScopeId) : Locals :=
  match f.scopes[b]? with
  | some s => s.locals
  | none => .empty

theorem lt_of_parent? {f : Forest} {b p : ScopeId} (h : f.parent? b = some p) : p < b := by
  simp only [parent?, Option.bind_eq_some_iff] at h
  obtain ⟨s, hs, hp⟩ := h
  obtain ⟨hb, rfl⟩ := Array.getElem?_eq_some_iff.mp hs
  exact f.older b hb p hp

/-- The scopes from `b` outward, `b` first. -/
def chain (f : Forest) (b : ScopeId) : List ScopeId :=
  match _h : f.parent? b with
  | some p => b :: chain f p
  | none => [b]
termination_by b
decreasing_by exact lt_of_parent? _h

/-- The scopes that enclose `b`, the nearest first. -/
def enclosing (f : Forest) (b : ScopeId) : List ScopeId := (f.chain b).tail

def depth (f : Forest) (b : ScopeId) : Nat := (f.enclosing b).length

def root (f : Forest) (b : ScopeId) : ScopeId := (f.chain b).getLastD b

/-- The value of a name, nearest scope first. -/
def get (f : Forest) (b : ScopeId) (name : String) : Option Value :=
  (f.chain b).findSome? fun c => (f.locals c).value? name

/-- The metadata of a name, nearest scope first.  A scope that has the name without
metadata is passed over. -/
def metadata (f : Forest) (b : ScopeId) (name : String) : Option Metadata :=
  (f.chain b).findSome? fun c => (f.locals c).metadata? name

def resolves (f : Forest) (b : ScopeId) (name : String) : Bool :=
  (f.chain b).any fun c => (f.locals c).defines name

/-- Adds a name to names in strictly increasing order. -/
def insertName (name : String) : List String → List String
  | [] => [name]
  | n :: rest =>
    if name < n then name :: n :: rest
    else if name = n then n :: rest
    else n :: insertName name rest

/-- All names that resolve in `b`, in increasing order. -/
def visibleNames (f : Forest) (b : ScopeId) : List String :=
  (f.chain b).foldl (fun names c => (f.locals c).names.foldl (fun ns n => insertName n ns) names)
    []

/-- A new scope without variables.  A parent that does not exist is none. -/
def add (f : Forest) (parent : Option ScopeId) : ScopeId × Forest :=
  (f.size,
    { scopes := f.scopes.push ⟨parent.filter (· < f.size), .empty⟩
      older := by
        intro i h p hp
        rw [Array.getElem_push] at hp
        split at hp
        next hi => exact f.older i hi p hp
        next hi =>
          have hlt : p < f.size := by
            have := Option.mem_def.mp hp
            simp only [Option.filter_eq_some_iff, decide_eq_true_eq] at this
            exact this.2
          exact Nat.lt_of_lt_of_le hlt (Nat.le_of_not_lt hi) })

def write (f : Forest) (b : ScopeId) (name : String) (value : Value)
    (metadata : Option Metadata) : Forest where
  scopes := f.scopes.modify b fun s => { s with locals := s.locals.set name value metadata }
  older := by
    intro i h p hp
    rw [Array.getElem_modify] at hp
    simp only [Array.size_modify] at h
    refine f.older i h p ?_
    split at hp <;> exact hp

def writeAll (f : Forest) (b : ScopeId) (entries : List Entry) : Forest :=
  entries.foldl (fun f e => f.write b e.name e.value e.metadata) f

theorem chain_of_parent {f : Forest} {b p : ScopeId} (h : f.parent? b = some p) :
    f.chain b = b :: f.chain p := by
  rw [chain]
  split
  next q hq =>
    rw [h] at hq
    cases hq
    rfl
  next hn => rw [h] at hn; cases hn

theorem chain_of_global {f : Forest} {b : ScopeId} (h : f.parent? b = none) :
    f.chain b = [b] := by
  rw [chain]
  split
  next q hq => rw [h] at hq; cases hq
  next => rfl

/-- A chain begins with its scope. -/
theorem chain_eq (f : Forest) (b : ScopeId) : f.chain b = b :: f.enclosing b := by
  cases h : f.parent? b with
  | none => simp [enclosing, chain_of_global h]
  | some p => simp [enclosing, chain_of_parent h]

theorem enclosing_of_parent {f : Forest} {b p : ScopeId} (h : f.parent? b = some p) :
    f.enclosing b = f.chain p := by
  simp [enclosing, chain_of_parent h]

theorem enclosing_of_global {f : Forest} {b : ScopeId} (h : f.parent? b = none) :
    f.enclosing b = [] := by
  simp [enclosing, chain_of_global h]

/-- Forests that agree on the parents agree on the chains. -/
theorem chain_congr {f g : Forest} (h : ∀ b, g.parent? b = f.parent? b) (b : ScopeId) :
    g.chain b = f.chain b := by
  induction b using Nat.strongRecOn with
  | _ b ih =>
    cases hp : f.parent? b with
    | none => rw [chain_of_global hp, chain_of_global ((h b).trans hp)]
    | some p =>
      rw [chain_of_parent hp, chain_of_parent ((h b).trans hp), ih p (lt_of_parent? hp)]

@[simp]
theorem size_write (f : Forest) (b : ScopeId) (name : String) (value : Value)
    (metadata : Option Metadata) : (f.write b name value metadata).size = f.size := by
  simp [size, write]

/-- A write moves no scope. -/
@[simp]
theorem parent?_write (f : Forest) (b c : ScopeId) (name : String) (value : Value)
    (metadata : Option Metadata) :
    (f.write b name value metadata).parent? c = f.parent? c := by
  simp only [parent?, write, Array.getElem?_modify]
  split
  · cases f.scopes[c]? <;> rfl
  · rfl

@[simp]
theorem chain_write (f : Forest) (b c : ScopeId) (name : String) (value : Value)
    (metadata : Option Metadata) :
    (f.write b name value metadata).chain c = f.chain c :=
  chain_congr (fun _ => parent?_write ..) c

theorem locals_write_self {f : Forest} {b : ScopeId} (lt : b < f.size) (name : String)
    (value : Value) (metadata : Option Metadata) :
    (f.write b name value metadata).locals b = (f.locals b).set name value metadata := by
  have lt : b < f.scopes.size := lt
  simp [locals, write, lt, Array.getElem_modify]

/-- A write changes one scope. -/
theorem locals_write_of_ne (f : Forest) {b c : ScopeId} (h : c ≠ b) (name : String)
    (value : Value) (metadata : Option Metadata) :
    (f.write b name value metadata).locals c = f.locals c := by
  simp [locals, write, Array.getElem?_modify, Ne.symm h]

@[simp]
theorem size_add (f : Forest) (parent : Option ScopeId) : (f.add parent).2.size = f.size + 1 := by
  simp [size, add]

/-- A new scope is inside the one it was asked for. -/
theorem parent?_add_self (f : Forest) (parent : Option ScopeId) :
    (f.add parent).2.parent? (f.add parent).1 = parent.filter (· < f.size) := by
  simp [parent?, add, size]

/-- A new scope leaves the others where they are. -/
theorem parent?_add_of_lt {f : Forest} {b : ScopeId} (lt : b < f.size)
    (parent : Option ScopeId) : (f.add parent).2.parent? b = f.parent? b := by
  have lt : b < f.scopes.size := lt
  simp [parent?, add, Array.getElem?_push, Nat.ne_of_lt lt]

theorem locals_add_self (f : Forest) (parent : Option ScopeId) :
    (f.add parent).2.locals (f.add parent).1 = .empty := by
  simp [locals, add, size]

theorem locals_add_of_lt {f : Forest} {b : ScopeId} (lt : b < f.size)
    (parent : Option ScopeId) : (f.add parent).2.locals b = f.locals b := by
  have lt : b < f.scopes.size := lt
  simp [locals, add, Array.getElem?_push, Nat.ne_of_lt lt]

end Forest
end ScopeChain
