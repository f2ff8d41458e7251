import SampleData.Bundle

/-! # Providers with a bundle

Most providers of locale data are a bundle and a random source: the bundle stays, the source moves on with
every call.
-/
namespace SampleData

structure Stocked (σ : Type) where
  bundle : Bundle
  words : σ

def Stocked.onWords {σ α : Type} (step : Bundle → Gen σ α) : Gen (Stocked σ) α := fun p =>
  Gen.focus words (fun p w => { p with words := w }) (step p.bundle) p

def Gen.text {s : Type} (step : Gen s String) : Gen s Json := Json.str <$> step

def Gen.texts {s : Type} (step : Gen s (List String)) : Gen s Json := Json.ofStrings <$> step

def Gen.number {s : Type} (step : Gen s UInt32) : Gen s Json :=
  (fun n => Json.int n.toNat) <$> step

def Gen.double {s : Type} (step : Gen s Float) : Gen s Json := Json.real <$> step

end SampleData
