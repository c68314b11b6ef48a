import Laminar.Source.Reader
import Laminar.Text.Blank
import Laminar.Value.Arithmetic
import Laminar.Value.SetItems

/-!
# Parameters on the command line

A parameter is given as `NAME=VALUE`.  The value is read as a literal: a number with at most one
sign, a sum or difference of a real and an imaginary number, a text or byte text, a constant such as
`None` or `True`, or a tuple, list, set or dictionary of literals.  What is no literal is taken as
the text itself.

* `readLiteral` reads a literal from an expression.
* `parseParam` reads a parameter.
-/

namespace Laminar.CommandLine

open Source (Expr)

/-- A literal number. -/
def numberLiteral? : Expr → Option Number
  | .literal (.int n) => some (.int n)
  | .literal (.float x) => some (.float x)
  | .literal (.imaginary x) => some (.complex ⟨0.0, x⟩)
  | _ => none

/-- A literal number with at most one sign. -/
def signedLiteral? : Expr → Option Number
  | .unary .neg e => (numberLiteral? e).map Number.negated
  | .unary .pos e => numberLiteral? e
  | e => numberLiteral? e

/-- The sum or difference of a real number and an imaginary one. -/
def complexLiteral (op : Source.BinaryOp) (left right : Expr) : Except Fault (Option Value) := do
  match signedLiteral? left, numberLiteral? right with
  | some (.complex _), _ => return none
  | some n, some (.complex z) =>
    match op, Number.binary op n (.complex z) with
    | .add, some r | .sub, some r => return some (← r).toValue
    | _, _ => return none
  | _, _ => return none

mutual

/-- The value of a literal; `none` if the expression is none. -/
def readLiteral : Expr → Except Fault (Option Value)
  | .literal value => pure (some (.ofLiteral value))
  | .list items => do return (← readLiterals items).map .list
  | .tuple items => do return (← readLiterals items).map .tuple
  | .set items => do
    match ← readItems items [] with
    | none => return none
    | some items => return some (.set (← setItems false items))
  | .dict items => do return (← readEntries items []).map .dict
  | .call _ (.name "set") [] [] => pure (some (.set []))
  | .binary op left right => complexLiteral op left right
  | e => pure ((signedLiteral? e).map Number.toValue)
termination_by structural e => e

/-- The values of literals. -/
def readLiterals : List Expr → Except Fault (Option (List Value))
  | [] => pure (some [])
  | e :: rest => do
    match ← readLiteral e with
    | none => return none
    | some v => return (← readLiterals rest).map (v :: ·)
termination_by structural es => es

/-- The items of a set of literals, after those known already. -/
def readItems : List Expr → List Value → Except Fault (Option (List Value))
  | [], known => pure (some known)
  | e :: rest, known => do
    match ← readLiteral e with
    | none => return none
    | some v =>
      v.checkHashable
      readItems rest (known ++ [v])
termination_by structural es => es

/-- The entries of a dictionary of literals, after those known already. -/
def readEntries : List Source.DictItem → List (Value × Value) →
    Except Fault (Option (List (Value × Value)))
  | [], known => pure (some known)
  | .forward _ :: _, _ => pure none
  | .entry k v :: rest, known => do
    match ← readLiteral k with
    | none => return none
    | some key =>
      match ← readLiteral v with
      | none => return none
      | some value =>
        key.checkHashable
        readEntries rest (insertKey key value known)
termination_by structural es => es

end

/-- The value of a parameter. -/
def readParamValue (text : String) : Except Fault Value := do
  match Source.readExpression text with
  | none => return .str text
  | some e => return (← readLiteral e).getD (.str text)

/-- The part of a text before the first equals sign, and the part behind it. -/
def splitAtEquals : List Char → Option (List Char × List Char)
  | [] => none
  | '=' :: rest => some ([], rest)
  | c :: rest => (splitAtEquals rest).map fun (before, after) => (c :: before, after)

/-- Read a parameter: its name without blanks around it, and its value. -/
def parseParam (text : String) : Except Fault (String × Value) :=
  match splitAtEquals text.toList with
  | none => throw (.noAssignmentSign text)
  | some (name, value) => do
    return (String.ofList (Text.trimChars name), ← readParamValue (String.ofList value))

end Laminar.CommandLine
