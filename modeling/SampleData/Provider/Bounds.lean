import SampleData.Gen

/-! # Bounds

Every generator with bounds checks them before it draws, so a rejected call leaves no trace.
-/
namespace SampleData

namespace Bounds

/-- Whole bounds have to be in order. -/
def whole (what : String) (lower upper : Int) : Except InputFault Unit :=
  if upper < lower then .error (.reversedBounds what (.whole lower) (.whole upper)) else .ok ()

/-- Real bounds and their distance have to be finite, and the bounds in order. -/
def real (what : String) (lower upper : Float) : Except InputFault Unit :=
  if !lower.isFinite || !upper.isFinite || !(upper - lower).isFinite then
    .error (.unboundedReals what lower upper)
  else if upper < lower then .error (.reversedBounds what (.real lower) (.real upper))
  else .ok ()

end Bounds

def Gen.accept {s α : Type} : Except InputFault α → Gen s α
  | .ok a => pure a
  | .error fault => throw (.invalidInput fault)

end SampleData
