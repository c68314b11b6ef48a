import Laminar.Diagnostic

/-!
# Instructions

An instruction applies an operator to operands and names the register that receives the result.  As
a value it is a tuple: the operator, the operands, the result.

* `Instruction.toValue` and `Value.instruction?` are inverse to each other.
* `Instruction.checked` is an instruction whose registers must all be texts.
-/

namespace Laminar

/-- An operator, its operands and the register of its result. -/
structure Instruction where
  op : Op
  operands : List Value
  result : Value

/-- A compiled program. -/
abbrev Program := List Instruction

/-- An instruction as a tuple. -/
def Instruction.toValue (i : Instruction) : Value :=
  .tuple (.op i.op :: i.operands ++ [i.result])

/-- The instruction that a tuple stands for: an operator and at least a result. -/
def Value.instruction? : Value → Option Instruction
  | .tuple (.op o :: rest) =>
    match rest.getLast? with
    | some result => some { op := o, operands := rest.dropLast, result }
    | none => none
  | _ => none

/-- Reading back what was written. -/
@[simp]
theorem Value.instruction?_toValue (i : Instruction) : Value.instruction? i.toValue = some i := by
  simp [Instruction.toValue, Value.instruction?]

/-- Only written instructions are read. -/
theorem Value.eq_toValue_of_instruction? {v : Value} {i : Instruction}
    (h : v.instruction? = some i) : v = i.toValue := by
  unfold Value.instruction? at h
  split at h
  · rename_i op rest
    cases hr : rest.getLast? with
    | none => simp [hr] at h
    | some result =>
      simp only [hr, Option.some.injEq] at h
      subst h
      have hne : rest ≠ [] := by rintro rfl; simp at hr
      have hlast : rest.getLast hne = result := by
        simpa [List.getLast?_eq_some_getLast hne] using hr
      have hsplit := List.dropLast_concat_getLast hne
      rw [hlast] at hsplit
      simp [Instruction.toValue, hsplit]
  · simp at h

/-- A register must be named by a text. -/
def checkSymbol (label : String) (v : Value) : Except Problem String :=
  match v.bare with
  | .str s => pure s
  | _ => throw (.notSymbol label v)

/-- Check the operands of an operator, numbered from `index`. -/
def checkOperands (operator : String) (index : Nat) : List Value → Except Problem Unit
  | [] => pure ()
  | v :: vs => do
    let _ ← checkSymbol ("input " ++ toString index ++ " of " ++ operator) v
    checkOperands operator (index + 1) vs

/-- An instruction all of whose registers are texts; operands are checked before the result. -/
def Instruction.checked (op : Op) (operands : List Value) (result : Value) :
    Except Problem Instruction := do
  checkOperands op.cls.name 1 operands
  let _ ← checkSymbol ("output of " ++ op.cls.name) result
  return { op, operands, result }

end Laminar
