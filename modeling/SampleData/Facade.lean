import SampleData.Facade.Registry
import SampleData.Facade.Slots
import SampleData.Assets.Shipped
import SampleData.Text.Quoted

/-! # Facades

A facade offers every provider for one locale and one seed. A provider is built at the first call to it and
kept; where that fails, nothing is kept and the next call tries again. Facades may share a store, so calls run
on a facade and a store.
-/
namespace SampleData

structure Facade (σ ι : Type) where
  context : Context σ
  slots : Slots σ
  markup : σ
  registered : Registry ι

namespace Facade

variable {σ ι : Type}

def markupKey : String := "structured"

def new [SeededSource σ] (context : Context σ) : Facade σ ι :=
  ⟨context, .empty, context.stream markupKey, .empty⟩

def locale (f : Facade σ ι) : String := f.context.locale

abbrev Step (σ ι α : Type) := Gen (Facade σ ι × Store) α

/-- The provider `p`, built if it is not there yet. -/
def ensure [SeededSource σ] (p : Builtin) : Step σ ι (p.State σ) := fun (f, store) =>
  match f.slots.get p with
  | some x => .ok x (f, store)
  | none =>
    match p.build f.context store with
    | .ok x store => .ok x ({ f with slots := f.slots.set p x }, store)
    | .error e store => .error e (f, store)

def onProvider [SeededSource σ] {α : Type} (p : Builtin) (step : Gen (p.State σ × Store) α) :
    Step σ ι α := do
  let x ← ensure p
  fun (f, store) =>
    match step (x, store) with
    | .ok a (x, store) => .ok a ({ f with slots := f.slots.set p x }, store)
    | .error e (x, store) => .error e ({ f with slots := f.slots.set p x }, store)

def call [SeededSource σ] (p : Builtin) (c : p.Call) : Step σ ι Json := onProvider p (p.perform c)

def onRegistered {α : Type} (step : Gen (Registry ι) α) : Step σ ι α :=
  Gen.onFirst (Gen.focus registered (fun f r => { f with registered := r }) step)

def fields [SeededSource σ] [Registrable ι] (provider : String) : Step σ ι (List String) :=
  match Builtin.ofName? provider with
  | some p => do
    let _ ← ensure p
    return p.fieldNames
  | none => onRegistered (Registry.onInstance provider (Registrable.fieldNames <$> get))

def generate [SeededSource σ] [Registrable ι] (provider field : String) : Step σ ι Json :=
  match Builtin.ofName? provider with
  | some p => onProvider p (p.performField field)
  | none => onRegistered (Registry.onInstance provider (Registrable.generate field))

def register [Registrable ι] (fresh : ι) : Step σ ι String := onRegistered (Registry.register fresh)

def registeredNames (f : Facade σ ι) : List String := f.registered.keys

/-- The providers whose records can be listed, with the key they are listed under. -/
def documentKeys : List (Builtin × String) :=
  [(.personal, "users"), (.address, "addresses"), (.business, "companies"),
   (.hardware, "computers")]

def documentKey? (provider : String) : Option String :=
  (documentKeys.find? fun e => e.1.name == provider).map (·.2)

def json [SeededSource σ] (provider : String) (items : Nat) : Step σ ι Json :=
  match documentKeys.find? fun e => e.1.name == provider with
  | none => throw (.unsupportedOption "provider" provider)
  | some (p, key) => do
    let records ← onProvider p (Random.times items p.record)
    return Json.ofFields [(key, .list records)]

def describe (f : Facade σ ι) : String := Locale.describe "Generic" f.locale

def summary (f : Facade σ ι) : String :=
  let seed := match f.context.seed with
    | some n => "Some(" ++ toString n.toNat ++ ")"
    | none => "None"
  "Generic \x7b locale: " ++ Text.quoted f.locale ++ ", seed: " ++ seed ++ ", registered: ["
    ++ ", ".intercalate (f.registeredNames.map Text.quoted) ++ "], .. \x7d"

end Facade

end SampleData
