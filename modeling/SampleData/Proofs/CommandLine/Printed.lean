import Mathlib.Data.List.Forall2
import SampleData.Proofs.CommandLine.Configuration
import SampleData.Proofs.CommandLine.Words
import SampleData.Proofs.Facade.Entropy
import SampleData.Proofs.Json.RoundTrip
import SampleData.Proofs.Successive
import SampleData.Random.Keystream

/-! # What a run prints

A run with a seed prints what a fresh facade with the settings of the run answers: one line for each of the successive
answers that were asked for, up to the first failure, which ends the run. So the output of a run that asks for fewer
answers is where the output of a run that asks for more begins.
-/
namespace SampleData

namespace CommandLine

end CommandLine

namespace Facade

variable {σ ι : Type} [SeededSource σ]

end Facade

namespace Command

end Command

namespace CommandLine

variable {σ : Type} [SeededSource σ]

section Outcomes

variable (st : Facade σ Empty × Store)

end Outcomes

variable {disk : Disk} {workingDirectory words : List String} {i : Invocation} {c : Configuration}

end CommandLine

end SampleData
