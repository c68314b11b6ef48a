import Laminar.Decimal.Reader
import Laminar.Source.Statement

/-!
# Source that can be written

A whole number in base 16, 8 or 2 may have more digits than can be written in base ten.  A statement
or an expression that holds one has no text.

* `Expr.writable` and `Statement.writable` say whether there is a text.
-/

namespace Laminar.Source

mutual

/-- Can an expression be written? -/
def Expr.writable : Expr → Bool
  | .name _ => true
  | .literal (.int n) => n < Decimal.digitBound
  | .literal _ => true
  | .list items => writableList items
  | .tuple items => writableList items
  | .set items => writableList items
  | .dict items => writableItems items
  | .call _ callee args keywords =>
    callee.writable && writableArguments args && writableKeywords keywords
  | .attribute base _ => base.writable
  | .subscript base index => base.writable && index.writable
  | .slice lower upper step => writableOption lower && writableOption upper && writableOption step
  | .unary _ operand => operand.writable
  | .binary _ left right => left.writable && right.writable
  | .compare first rest => first.writable && writableComparisons rest
  | .logical _ operands => writableList operands
  | .conditional body test orelse => body.writable && test.writable && orelse.writable
  | .starred value => value.writable
  | .lambda params body => writableParameters params && body.writable
termination_by structural e => e

/-- Can all expressions be written? -/
def writableList : List Expr → Bool
  | [] => true
  | e :: es => e.writable && writableList es
termination_by structural es => es

/-- Can the items of a dictionary display be written? -/
def writableItems : List DictItem → Bool
  | [] => true
  | .entry k v :: es => k.writable && v.writable && writableItems es
  | .forward v :: es => v.writable && writableItems es
termination_by structural es => es

/-- Can positional arguments be written? -/
def writableArguments : List Argument → Bool
  | [] => true
  | .mk _ e :: es => e.writable && writableArguments es
termination_by structural es => es

/-- Can named and forwarded arguments be written? -/
def writableKeywords : List Keyword → Bool
  | [] => true
  | .named _ _ e :: es => e.writable && writableKeywords es
  | .forward e :: es => e.writable && writableKeywords es
termination_by structural es => es

/-- Can the right sides of a comparison chain be written? -/
def writableComparisons : List (CompareOp × Expr) → Bool
  | [] => true
  | (_, e) :: es => e.writable && writableComparisons es
termination_by structural es => es

/-- Can an optional expression be written? -/
def writableOption : Option Expr → Bool
  | none => true
  | some e => e.writable
termination_by structural e => e

/-- Can the defaults of formal parameters be written? -/
def writableParameters : List Parameter → Bool
  | [] => true
  | .mk _ _ default :: ps => writableOption default && writableParameters ps
termination_by structural ps => ps

end

mutual

/-- Can a statement be written? -/
def Statement.writable : Statement → Bool
  | .assign _ targets value => writableList targets && value.writable
  | .augment _ target _ value => target.writable && value.writable
  | .annotate _ _ target annotation value =>
    target.writable && annotation.writable && writableOption value
  | .expression _ value => value.writable
  | .returns _ value => writableOption value
  | .deletes _ targets => writableList targets
  | .asserts _ test message => test.writable && writableOption message
  | .raises _ value cause => writableOption value && writableOption cause
  | .branch _ test body orelse => test.writable && writableBody body && writableBody orelse
  | .forLoop _ target iterable body orelse =>
    target.writable && iterable.writable && writableBody body && writableBody orelse
  | .whileLoop _ test body orelse => test.writable && writableBody body && writableBody orelse
  | .function _ _ decorators _ params body =>
    writableList decorators && writableParameters params && writableBody body
  | _ => true
termination_by structural s => s

/-- Can all statements be written? -/
def writableBody : List Statement → Bool
  | [] => true
  | s :: ss => s.writable && writableBody ss
termination_by structural ss => ss

end

end Laminar.Source
