/-
The settings and their names.
-/
namespace ScopeChain
namespace Settings

inductive Setting where
  | selfName
  | contextName
  | threadSafe
  | maxSnapshotDepth
  deriving DecidableEq, Repr

namespace Setting

def name : Setting → String
  | .selfName => "self_name"
  | .contextName => "context_name"
  | .threadSafe => "thread_safe"
  | .maxSnapshotDepth => "max_snapshot_depth"

def all : List Setting := [.selfName, .contextName, .threadSafe, .maxSnapshotDepth]

theorem mem_all (s : Setting) : s ∈ all := by
  cases s <;> simp [all]

end Setting
end Settings
end ScopeChain
