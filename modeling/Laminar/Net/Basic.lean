import Laminar.Expansion.Compile
import Laminar.Net.Listing

/-!
# Nets

A net is a compiled and assembled call of a layer: its name, the symbols of its inputs and its
output, its parameters, its program, and the program with numbered registers.

* `Net.build` compiles and assembles.  Without inputs it takes as many as the layer has, named `x`,
  `x2`, `x3` and so on.
* `Net.output` is the register of the output.
* `Net.dump` is the report of a net, or as much of it as could be written with the fault that ended
  it.
-/

namespace Laminar

/-- A compiled and assembled net. -/
structure Net where
  name : String
  inputs : List Value
  output : Value
  params : List (String × Value)
  program : Program
  assembly : Assembly

/-- The names of inputs that nobody named. -/
def defaultInputNames : Nat → List String
  | 0 => []
  | n + 1 => "x" :: (List.range n).map fun i => "x" ++ toString (i + 2)

/-- The inputs of a net of a generator, if nobody names them.  A name that is not registered counts
as one with a single input. -/
def defaultInputs (g : Option Generator) : List Value :=
  (defaultInputNames (g.elim 1 (·.defaultInputs))).map .str

/-- Compile and assemble a call of a layer. -/
def Net.build (lib : Library) (depth : Nat) (name : String) (inputs : Option Value)
    (output : Value) (params : List (String × Value)) : Compile Net := do
  let inputs ← match inputs with
    | none => pure (defaultInputs (lib.registry.get? name))
    | some v => MonadExcept.ofExcept (liftFault v.iterate)
  let program ← compileCall lib depth (.str name) inputs output params
  let assembly ← MonadExcept.ofExcept (assemble (program.map Instruction.toValue) inputs)
  return { name, inputs, output, params, program, assembly }

/-- The register of a symbol, which must be in the net. -/
def Assembly.register (a : Assembly) (s : Value) : Except Fault Nat := do
  s.checkHashable
  match registerOf? a.symbols s with
  | some i => return i
  | none => throw (.missingKey s)

/-- The register of the output. -/
def Net.outputRegister (n : Net) : Except Fault Nat := n.assembly.register n.output

/-- The number of registers. -/
def Net.registers (n : Net) : Nat := n.assembly.symbols.length

/-- The report of a net in parts: a part that cannot be written ends it. -/
def Net.dumpParts (n : Net) : List (Except Fault String) :=
  [ pure ("\n==== NET " ++ n.name ++ " ====\n\n"),
    n.assembly.listing.map fun lines => String.join (lines.map (· ++ "\n")),
    (joinValues ", " n.inputs).map fun names => "\nInputs: " ++ names ++ "\n",
    n.outputRegister.map fun i =>
      "Output: " ++ n.output.display ++ " (register " ++ toString i ++ ")\n",
    pure ("Registers: " ++ toString n.registers ++ "\n\n") ]

/-- Texts up to the first fault. -/
def writtenUntilFault : List (Except Fault String) → String × Option Fault
  | [] => ("", none)
  | .error f :: _ => ("", some f)
  | .ok s :: rest =>
    let (text, fault) := writtenUntilFault rest
    (s ++ text, fault)

/-- The report of a net, and the fault that ended it early. -/
def Net.dump (n : Net) : String × Option Fault := writtenUntilFault n.dumpParts

end Laminar
