/-
Module: RpcTools.Violation
Purpose: Conditions whose violation is a fault.
Main exports: violation
-/
namespace RpcTools

/-- The fault, if the condition is violated. -/
def violation {Fault : Type} (violated : Bool) (fault : Fault) : List Fault :=
  if violated then [fault] else []

@[simp] theorem violation_eq_nil_iff {Fault : Type} (violated : Bool) (fault : Fault) :
    violation violated fault = [] ↔ violated = false := by
  cases violated <;> simp [violation]

end RpcTools
