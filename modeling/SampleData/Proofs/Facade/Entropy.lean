import SampleData.Facade
import SampleData.Proofs.Facade.Runs

/-! # Facades with a seed

With a seed a facade takes every stream from it. Two facades with one seed that differ only in the streams they would use
without it give the same answers to the same calls, and go on to differ in nothing else.
-/
namespace SampleData

namespace Builtin

variable {σ : Type} [SeededSource σ]

end Builtin

namespace Facade

variable {σ ι : Type} {α : Type}

namespace SameSeeded

variable {f f' : Facade σ ι}

end SameSeeded

variable [SeededSource σ]

end Facade

end SampleData
