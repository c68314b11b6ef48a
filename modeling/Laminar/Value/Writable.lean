import Laminar.Decimal.Reader
import Laminar.Value.Basic

/-!
# Values that can be written

A whole number of more than `Decimal.maxDigits` digits has no text in base ten, and neither has a
value that holds one.  What needs the text of a value asks here first.

* `Value.writable`, `Op.writable` and `Node.writable` say whether there is a text.
-/

namespace Laminar

/-- Can a whole number be written? -/
def intWritable (n : Int) : Bool := n.natAbs < Decimal.digitBound

mutual

/-- Can a value be written? -/
def Value.writable : Value → Bool
  | .int n => intWritable n
  | .list items => writableList items
  | .tuple items => writableList items
  | .set items => writableList items
  | .array _ _ items => writableList items
  | .dict entries => writableEntries entries
  | .range start stop step => intWritable start && intWritable stop && intWritable step
  | .initializer i => i.writable
  | .op o => o.writable
  | .node n => n.writable
  | .kept _ v => v.writable
  | _ => true
termination_by structural v => v

/-- Can all items be written? -/
def writableList : List Value → Bool
  | [] => true
  | v :: vs => v.writable && writableList vs
termination_by structural vs => vs

/-- Can all keys and values be written? -/
def writableEntries : List (Value × Value) → Bool
  | [] => true
  | (k, v) :: es => k.writable && v.writable && writableEntries es
termination_by structural es => es

/-- Can all named values be written? -/
def writableNamed : List (String × Value) → Bool
  | [] => true
  | (_, v) :: es => v.writable && writableNamed es
termination_by structural es => es

/-- Can an initializer be written? -/
def Initializer.writable : Initializer → Bool
  | .gaussian mean std => mean.writable && std.writable
  | .uniform low high => low.writable && high.writable
  | .constant value => value.writable
  | .base => true
  | .xavier => true
termination_by structural i => i

/-- Can an operator be written? -/
def Op.writable : Op → Bool
  | .par dims init opts => writableList dims && init.writable && writableNamed opts
  | .drop rate => rate.writable
  | _ => true
termination_by structural o => o

/-- Can a node be written? -/
def Node.writable : Node → Bool
  | .symbol name => name.writable
  | .const value => value.writable
  | .placeholder _ => true
  | .splat _ => true
  | .deferred _ _ _ names _ => writableNamed names
  | .parameters entries => writableParameters entries
  | .call callee args => callee.writable && writableNodes args
  | .assign target value => target.writable && value.writable
  | .line number _ => intWritable number
  | .block statements => writableNodes statements
  | .raw value => value.writable
termination_by structural n => n

/-- Can all nodes be written? -/
def writableNodes : List Node → Bool
  | [] => true
  | n :: ns => n.writable && writableNodes ns
termination_by structural ns => ns

/-- Can an entry be written? -/
def Entry.writable : Entry → Bool
  | .keyword name value => name.writable && value.writable
  | .other node => node.writable
termination_by structural e => e

/-- Can all entries be written? -/
def writableParameters : List Entry → Bool
  | [] => true
  | e :: es => e.writable && writableParameters es
termination_by structural es => es

end

/-- A value of few digits can be written. -/
theorem intWritable_of_lt {n : Int} (h : n.natAbs < Decimal.digitBound) : intWritable n = true := by
  simp [intWritable, h]

end Laminar
