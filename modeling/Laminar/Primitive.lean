import Laminar.Call.Construct
import Laminar.Instruction

/-!
# Primitive operators as callees

A primitive is called with the registers of its operands, then the register of its result, and
keywords; it yields one instruction.

* `Primitive.formals` are the formals of its constructor.  The weights constructor `par` takes its
  dimensions as positional values before the result and collects keywords as options.
* `Primitive.instruction` builds the instruction of a call.
-/

namespace Laminar

/-- The primitives. -/
inductive Primitive where
  | par | arr | dot | add | mul | relu | sigm | tanh | soft | drop
  deriving DecidableEq, Repr

namespace Primitive

/-- All primitives, in the order a registry lists them. -/
def all : List Primitive := [.par, .arr, .dot, .add, .mul, .relu, .sigm, .tanh, .soft, .drop]

/-- The name of a primitive. -/
def name : Primitive → String
  | .par => "par"
  | .arr => "arr"
  | .dot => "dot"
  | .add => "add"
  | .mul => "mul"
  | .relu => "relu"
  | .sigm => "sigm"
  | .tanh => "tanh"
  | .soft => "soft"
  | .drop => "drop"

/-- The primitive with a name. -/
def ofName? (name : String) : Option Primitive := all.find? (·.name == name)

/-- The class of the operator that a primitive builds. -/
def opClass : Primitive → OpClass
  | .par => .par
  | .arr => .arr
  | .dot => .dot
  | .add => .add
  | .mul => .mul
  | .relu => .relu
  | .sigm => .sigm
  | .tanh => .tanh
  | .soft => .soft
  | .drop => .drop

/-- The formals that are given by position, the result last among the required ones. -/
def formals : Primitive → List Formal
  | .par => []
  | .arr => [{ name := "y" }, { name := "init", default := some .null }]
  | .dot | .add | .mul => [{ name := "x1" }, { name := "x2" }, { name := "y" }]
  | .relu | .sigm | .tanh | .soft => [{ name := "x" }, { name := "y" }]
  | .drop => [{ name := "x" }, { name := "y" }, { name := "pdrop", default := some (.float 0.5) }]

/-- How many operands a call has if it is given nothing but what is required. -/
def defaultInputs (p : Primitive) : Nat := (p.formals.filter (·.default.isNone)).length - 1

/-- A dimension of a trainable array: a whole number that is not negative. -/
def dimension (v : Value) : Except Problem Value :=
  match v.index? with
  | some n => if n < 0 then throw (.badDimension v) else pure (.int n)
  | none => throw (.badDimension v)

/-- The weights constructor. -/
def parameter (args : List Value) (keywords : List (String × Value)) :
    Except Failure Instruction := do
  match args.getLast? with
  | none => throw Problem.missingOutput.failure
  | some result =>
    let dims ← (args.dropLast.mapM dimension).mapError Problem.failure
    let init := (keywords.lookup "init").getD .null
    let opts := keywords.filter (·.1 != "init")
    let bound ← liftFault (bindParameter [.tuple dims, init] opts)
    (Instruction.checked (Op.parameter dims init bound.options) [] result).mapError Problem.failure

/-- The instruction of an operator without settings, given its operands and its result. -/
def plainInstruction (op : Op) (registers : List Value) : Except Failure Instruction :=
  (Instruction.checked op registers.dropLast (registers.getLast?.getD .null)).mapError
    Problem.failure

/-- The instruction of a call: positional values, of which the last is the result unless it is given
by name, and keywords. -/
def instruction (p : Primitive) (args : List Value) (keywords : List (String × Value)) :
    Except Failure Instruction := do
  match p with
  | .par => parameter args keywords
  | p =>
    let bound ← liftFault (Constructor.bind { name := p.name, formals := p.formals } args keywords)
    match p, bound.values with
    | .arr, [_, .null] => throw Problem.missingArray.failure
    | .arr, [y, init] =>
      let tensor ← liftFault (Tensor.ofValue init)
      plainInstruction (.arr tensor) [y]
    | .drop, [x, y, rate] =>
      let op ← liftFault (Op.dropout rate)
      plainInstruction op [x, y]
    | p, registers => plainInstruction (p.opClass.plain?.getD .generic) registers

end Primitive

end Laminar
