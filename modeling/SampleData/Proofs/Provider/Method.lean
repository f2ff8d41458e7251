import SampleData.Provider.Builtin
import SampleData.Proofs.Steps

/-! # Methods of a provider

A provider is asked by a call with arguments of one's own, or by the name of a field, which stands for the call
of the table. A name that the table does not have is refused and changes nothing.
-/
namespace SampleData.Builtin

inductive Method (p : Builtin) where
  | typed (call : p.Call)
  | named (field : String)

namespace Method

variable {σ : Type} [WordSource σ] {p : Builtin}

def call? : p.Method → Option p.Call
  | .typed call => some call
  | .named field => p.fields.lookup field

def perform : p.Method → Gen (p.State σ × Store) Json
  | .typed call => p.perform call
  | .named field => p.performField field

theorem perform_of_call {m : p.Method} {call : p.Call} (h : m.call? = some call) :
    (m.perform : Gen (p.State σ × Store) Json) = p.perform call := by
  cases m with
  | typed c =>
    cases h
    rfl
  | named field =>
    have hf : p.fields.lookup field = some call := h
    simp only [perform, performField, hf]

theorem perform_of_none {m : p.Method} (h : m.call? = none) (st : p.State σ × Store) :
    ∃ field, m.perform st = .error (.unsupportedOption "field" field) st := by
  cases m with
  | typed c => cases h
  | named field =>
    have hf : p.fields.lookup field = none := h
    refine ⟨field, ?_⟩
    simp only [perform, performField, hf]
    rfl

end Method

end SampleData.Builtin
