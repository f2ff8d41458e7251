import Mathlib.Order.Nat
import Mathlib.Tactic.Common
import Mathlib.Tactic.SplitIfs
import SampleData.Proofs.Steps
import SampleData.Store.Disk

/-! # Walks on a disk

A walk over a path goes on from wherever its first names lead to, so what it finds below a directory is decided there: by
what stands at each further name, and by nothing else on the disk.
-/
namespace SampleData

namespace Disk

inductive Place where
  | nothing
  | directory
  | file
  deriving DecidableEq

end Disk

end SampleData
