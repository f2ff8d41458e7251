import SampleData.Provider.Address
import SampleData.Provider.Business
import SampleData.Provider.ClothingSizes
import SampleData.Provider.Code
import SampleData.Provider.Datetime
import SampleData.Provider.Development
import SampleData.Provider.Files
import SampleData.Provider.Food
import SampleData.Provider.Hardware
import SampleData.Provider.Internet
import SampleData.Provider.Network
import SampleData.Provider.Numbers
import SampleData.Provider.Personal
import SampleData.Provider.Prose
import SampleData.Provider.Science
import SampleData.Provider.Transport
import SampleData.Random.Seed

/-! # The built-in providers

The sixteen providers as one family: each has a name, a state, calls, a table of fields and a way to be built
from a context. A provider draws from the stream that its name has under the seed of the context, so no provider
disturbs another one. Only the providers of locale data need a bundle, and only their construction can fail.
-/
namespace SampleData

inductive Builtin where
  | address
  | business
  | clothingSizes
  | code
  | datetime
  | development
  | file
  | food
  | hardware
  | internet
  | network
  | numbers
  | personal
  | science
  | text
  | transport
  deriving DecidableEq, Repr

/-- What a provider is built from: a locale, a seed or none, and the streams to use where there is no
seed. -/
structure Context (σ : Type) where
  locale : String
  seed : Option UInt64
  unseeded : String → σ

namespace Context

variable {σ : Type} [SeededSource σ]

def stream (c : Context σ) (key : String) : σ :=
  match c.seed with
  | some seed => Random.seeded seed key
  | none => c.unseeded key

def load (c : Context σ) (domain : String) : Gen Store Bundle := Store.load domain c.locale

end Context

namespace Builtin

def all : List Builtin :=
  [.address, .business, .clothingSizes, .code, .datetime, .development, .file, .food, .hardware,
   .internet, .network, .numbers, .personal, .science, .text, .transport]

def name : Builtin → String
  | .address => "address"
  | .business => "business"
  | .clothingSizes => "clothing_sizes"
  | .code => "code"
  | .datetime => "datetime"
  | .development => "development"
  | .file => "file"
  | .food => "food"
  | .hardware => "hardware"
  | .internet => "internet"
  | .network => "network"
  | .numbers => "numbers"
  | .personal => "personal"
  | .science => "science"
  | .text => "text"
  | .transport => "transport"

/-- The names that are taken. -/
def names : List String := all.map name

def ofName? (name : String) : Option Builtin := all.find? fun p => p.name == name

abbrev State (σ : Type) : Builtin → Type
  | .personal => Personal σ
  | .address | .business | .datetime | .text | .food | .science | .internet => Stocked σ
  | .code => Coder σ
  | .clothingSizes | .development | .file | .hardware | .network | .numbers | .transport => σ

abbrev Call : Builtin → Type
  | .address => Address.Call
  | .business => Business.Call
  | .clothingSizes => ClothingSizes.Call
  | .code => Coder.Call
  | .datetime => Datetime.Call
  | .development => Development.Call
  | .file => Files.Call
  | .food => Food.Call
  | .hardware => Hardware.Call
  | .internet => Internet.Call
  | .network => Network.Call
  | .numbers => Numbers.Call
  | .personal => Personal.Call
  | .science => Science.Call
  | .text => Prose.Call
  | .transport => Transport.Call

def fields : (p : Builtin) → List (String × p.Call)
  | .address => Address.fields
  | .business => Business.fields
  | .clothingSizes => ClothingSizes.fields
  | .code => Coder.fields
  | .datetime => Datetime.fields
  | .development => Development.fields
  | .file => Files.fields
  | .food => Food.fields
  | .hardware => Hardware.fields
  | .internet => Internet.fields
  | .network => Network.fields
  | .numbers => Numbers.fields
  | .personal => Personal.fields
  | .science => Science.fields
  | .text => Prose.fields
  | .transport => Transport.fields

def fieldNames (p : Builtin) : List String := p.fields.map (·.1)

variable {σ : Type}

def stocked [SeededSource σ] (c : Context σ) (domain : String) : Gen Store (Stocked σ) := do
  let bundle ← c.load domain
  return ⟨bundle, c.stream domain⟩

def build [SeededSource σ] (c : Context σ) : (p : Builtin) → Gen Store (p.State σ)
  | .personal => do
    let bundle ← c.load Personal.domain
    return ⟨bundle, c.stream Personal.domain, .unset⟩
  | .address => stocked c Address.domain
  | .business => stocked c Business.domain
  | .datetime => stocked c Datetime.domain
  | .text => stocked c Prose.domain
  | .food => stocked c Food.domain
  | .science => stocked c Science.domain
  | .internet => do
    let names ← Store.load Personal.domain Locale.standard
    return ⟨names, c.stream "internet"⟩
  | .code => pure ⟨c.locale, c.stream Coder.domain⟩
  | .clothingSizes => pure (c.stream "clothing_sizes")
  | .development => pure (c.stream "development")
  | .file => pure (c.stream "file")
  | .hardware => pure (c.stream "hardware")
  | .network => pure (c.stream "network")
  | .numbers => pure (c.stream "numbers")
  | .transport => pure (c.stream "transport")

/-- Answers a call. The store is used by those calls that load a bundle when they are made. -/
def perform [WordSource σ] : (p : Builtin) → p.Call → Gen (p.State σ × Store) Json
  | .personal, call => Personal.perform call
  | .address, call => Gen.onFirst (Stocked.onWords (Address.perform · call))
  | .business, call => Gen.onFirst (Stocked.onWords (Business.perform · call))
  | .datetime, call => Gen.onFirst (Stocked.onWords (Datetime.perform · call))
  | .text, call => Gen.onFirst (Stocked.onWords (Prose.perform · call))
  | .food, call => Gen.onFirst (Stocked.onWords (Food.perform · call))
  | .science, call => Gen.onFirst (Stocked.onWords (Science.perform · call))
  | .internet, call => Gen.onFirst (Stocked.onWords (Internet.perform · call))
  | .code, call => Gen.onFirst (Coder.onWords (Coder.perform · call))
  | .clothingSizes, call => Gen.onFirst (ClothingSizes.perform call)
  | .development, call => Gen.onFirst (Development.perform call)
  | .file, call => Gen.onFirst (Files.perform call)
  | .hardware, call => Gen.onFirst (Hardware.perform call)
  | .network, call => Gen.onFirst (Network.perform call)
  | .numbers, call => Gen.onFirst (Numbers.perform call)
  | .transport, call => Gen.onFirst (Transport.perform call)

def performField [WordSource σ] (p : Builtin) (field : String) : Gen (p.State σ × Store) Json :=
  match p.fields.lookup field with
  | some call => p.perform call
  | none => throw (.unsupportedOption "field" field)

/-- A record: every field of the provider, made in the order of the table. -/
def record [WordSource σ] (p : Builtin) : Gen (p.State σ × Store) Json := do
  let values ← p.fieldNames.mapM fun field => do
    return (field, ← p.performField field)
  return Json.ofFields values

end Builtin

end SampleData
