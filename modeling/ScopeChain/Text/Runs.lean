/-
Runs of characters: the longest stretches of a text whose characters are all of one class.
-/
namespace ScopeChain

/-- The longest runs of characters of a class, in their order.  What separates them is
dropped. -/
def runs (inside : Char → Bool) (cs : List Char) : List (List Char) :=
  (cs.splitBy fun c d => inside c == inside d).filter fun run => run.all inside

theorem inside_of_mem_runs {inside : Char → Bool} {cs run : List Char}
    (h : run ∈ runs inside cs) {c : Char} (hc : c ∈ run) : inside c = true :=
  List.all_eq_true.mp (List.mem_filter.mp h).2 c hc

end ScopeChain
