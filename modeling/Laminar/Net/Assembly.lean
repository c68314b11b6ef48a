import Laminar.Instruction
import Laminar.Value.Sequence

/-!
# Register numbering

Assembly replaces the symbols of a program by register numbers.  Symbols are numbered in order of
first appearance: first the declared inputs, then, instruction by instruction, the operands and the
result.  An input is an operator without operands.  Every instruction writes a register of its own,
so a result must be a symbol that has not appeared before.

* `Assembly` is the numbered program.  Its `symbols` are listed by register, so the number of a
  symbol is its position.
* `assemble` numbers a program, `assembleItems` one that any value holds.
-/

namespace Laminar

/-- A program with numbered registers. -/
structure Assembly where
  /-- The operators, inputs first. -/
  ops : List Op := []
  /-- The registers that each operator reads. -/
  operands : List (List Nat) := []
  /-- The symbol of each register. -/
  symbols : List Value := []

/-- The register of a symbol. -/
def registerOf? (symbols : List Value) (s : Value) : Option Nat :=
  symbols.findIdx? (s.sameKey ·)

/-- The register of a symbol, which gets the next number if it is new. -/
def intern (symbols : List Value) (s : Value) : Nat × List Value :=
  match registerOf? symbols s with
  | some i => (i, symbols)
  | none => (symbols.length, symbols ++ [s])

/-- The registers of several symbols in order. -/
def internAll : List Value → List Value → Except Fault (List Nat × List Value)
  | symbols, [] => pure ([], symbols)
  | symbols, s :: rest => do
    s.checkHashable
    let (i, symbols) := intern symbols s
    let (is, symbols) ← internAll symbols rest
    return (i :: is, symbols)

/-- Declare the inputs in order. -/
def assembleInputs : Assembly → List Value → Except Fault Assembly
  | a, [] => pure a
  | a, s :: rest => do
    s.checkHashable
    if (registerOf? a.symbols s).isSome then throw (.repeatedInput s)
    assembleInputs
      { ops := a.ops ++ [.input], operands := a.operands ++ [[]], symbols := a.symbols ++ [s] } rest

/-- Add one instruction; `entry` is its written form. -/
def Assembly.add (a : Assembly) (i : Instruction) (entry : Value) : Except Failure Assembly := do
  let (registers, symbols) ← liftFault (internAll a.symbols i.operands)
  liftFault i.result.checkHashable
  if (registerOf? symbols i.result).isSome then
    throw (Problem.writtenTwice i.result entry).failure
  return {
    ops := a.ops ++ [i.op]
    operands := a.operands ++ [registers]
    symbols := symbols ++ [i.result] }

/-- Add the entries of a program in order; each must be an instruction. -/
def assembleEntries : Assembly → List Value → Except Failure Assembly
  | a, [] => pure a
  | a, entry :: rest =>
    match entry.instruction? with
    | none => throw (Problem.notInstruction entry).failure
    | some i => do assembleEntries (← a.add i entry) rest

/-- Number the registers of a program with declared inputs. -/
def assemble (entries inputs : List Value) : Except Failure Assembly := do
  assembleEntries (← liftFault (assembleInputs {} inputs)) entries

/-- Number the registers of the program and the inputs that two values hold. -/
def assembleItems (entries inputs : Value) : Except Failure Assembly := do
  let declared ← liftFault (do assembleInputs {} (← inputs.iterate))
  assembleEntries declared (← liftFault entries.iterate)

/-- The registers that trainable arrays write. -/
def Assembly.parameters (a : Assembly) : List Nat :=
  (List.range a.ops.length).filter fun i => (a.ops[i]?.map Op.cls) == some .par

/-- A known symbol keeps its number and adds none. -/
theorem intern_of_some {symbols : List Value} {s : Value} {i : Nat}
    (h : registerOf? symbols s = some i) : intern symbols s = (i, symbols) := by
  simp [intern, h]

/-- A new symbol gets the next number. -/
theorem intern_of_none {symbols : List Value} {s : Value} (h : registerOf? symbols s = none) :
    intern symbols s = (symbols.length, symbols ++ [s]) := by
  simp [intern, h]

end Laminar
