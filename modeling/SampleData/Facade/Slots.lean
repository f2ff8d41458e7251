import SampleData.Provider.Builtin

/-! # Slots for the built-in providers

A facade keeps each provider from the first call on. `get` and `set` address the slot of a provider; setting
one slot leaves the others as they are.
-/
namespace SampleData

structure Slots (σ : Type) where
  address : Option (Stocked σ) := none
  business : Option (Stocked σ) := none
  clothingSizes : Option σ := none
  code : Option (Coder σ) := none
  datetime : Option (Stocked σ) := none
  development : Option σ := none
  file : Option σ := none
  food : Option (Stocked σ) := none
  hardware : Option σ := none
  internet : Option (Stocked σ) := none
  network : Option σ := none
  numbers : Option σ := none
  personal : Option (Personal σ) := none
  science : Option (Stocked σ) := none
  text : Option (Stocked σ) := none
  transport : Option σ := none

namespace Slots

variable {σ : Type}

def empty : Slots σ := {}

def get (s : Slots σ) : (p : Builtin) → Option (p.State σ)
  | .address => s.address
  | .business => s.business
  | .clothingSizes => s.clothingSizes
  | .code => s.code
  | .datetime => s.datetime
  | .development => s.development
  | .file => s.file
  | .food => s.food
  | .hardware => s.hardware
  | .internet => s.internet
  | .network => s.network
  | .numbers => s.numbers
  | .personal => s.personal
  | .science => s.science
  | .text => s.text
  | .transport => s.transport

def set (s : Slots σ) : (p : Builtin) → p.State σ → Slots σ
  | .address, x => { s with address := some x }
  | .business, x => { s with business := some x }
  | .clothingSizes, x => { s with clothingSizes := some x }
  | .code, x => { s with code := some x }
  | .datetime, x => { s with datetime := some x }
  | .development, x => { s with development := some x }
  | .file, x => { s with file := some x }
  | .food, x => { s with food := some x }
  | .hardware, x => { s with hardware := some x }
  | .internet, x => { s with internet := some x }
  | .network, x => { s with network := some x }
  | .numbers, x => { s with numbers := some x }
  | .personal, x => { s with personal := some x }
  | .science, x => { s with science := some x }
  | .text, x => { s with text := some x }
  | .transport, x => { s with transport := some x }

@[simp] theorem get_set_self (s : Slots σ) (p : Builtin) (x : p.State σ) :
    (s.set p x).get p = some x := by
  cases p <;> rfl

theorem get_set_of_ne (s : Slots σ) {p q : Builtin} (h : q ≠ p) (x : p.State σ) :
    (s.set p x).get q = s.get q := by
  revert h
  cases p <;> cases q <;> simp [get, set]

@[simp] theorem get_empty (p : Builtin) : (empty : Slots σ).get p = none := by
  cases p <;> rfl

end Slots

end SampleData
