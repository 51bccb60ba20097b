/-
The order of the bytes of a number.
-/
namespace ScopeChain

/-- Whether the least or the greatest byte comes first. -/
inductive ByteOrder where
  | little
  | big
  deriving DecidableEq, Repr

def ByteOrder.number : ByteOrder → List UInt8 → Nat
  | .little, bytes => bytes.foldr (fun byte n => n * 256 + byte.toNat) 0
  | .big, bytes => bytes.foldl (fun n byte => n * 256 + byte.toNat) 0

end ScopeChain
