/-
The description of a key in one line, as a report names it.
-/
import ScopeChain.Binary64.Shortest
import ScopeChain.Text.Quoted
import ScopeChain.Value.Key

namespace ScopeChain
namespace Key

/- Texts and bytes are quoted.  A tuple of one item keeps a comma behind it. -/
mutual
def describe : Key → String
  | .null => "None"
  | .bool b => if b then "True" else "False"
  | .int i => Digits.intText i
  | .float x => x.text
  | .text s => Quoted.text s
  | .bytes bs => Quoted.bytes bs
  | .tuple [] => "()"
  | .tuple [x] => "(" ++ describe x ++ ",)"
  | .tuple (x :: y :: rest) =>
    "(" ++ describe x ++ ", " ++ describe y ++ describeRest rest ++ ")"

def describeRest : List Key → String
  | [] => ""
  | x :: rest => ", " ++ describe x ++ describeRest rest
end

end Key
end ScopeChain
