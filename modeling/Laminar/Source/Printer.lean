import Laminar.Decimal.Layout
import Laminar.Source.Statement
import Laminar.Text.Quoted

/-!
# Printing layer source

The one written form of an expression or a statement: single blanks around operators, a comma and a
blank between items, no blanks around the `=` of a named argument, parentheses only where the tree
needs them.

**Levels.** Each kind of expression binds at a level, and each place asks for a level; an expression
stands in parentheses exactly when the place asks for more than it has.  The levels are data
(`Level`), and what a place asks of its operands is one line per operator below.  Two conventions
are worth noting: a power asks more of its base than of its exponent, since it groups to the right,
and the operands of `and` and `or` are asked for one level more than the one before, so a nested
operator of the same kind shows its parentheses.

* `Expr.print` writes an expression at a required level; `Expr.text` at the level of an argument.
* `Statement.text` writes a statement, its blocks indented by four.
-/

namespace Laminar.Source

/-- How tightly an expression binds; more is tighter. -/
abbrev Level := Nat

namespace Level

/-- Items with commas and no brackets. -/
def tuple : Level := 0

/-- What stands as a statement of its own. -/
def statement : Level := 1

/-- A conditional. -/
def test : Level := 2

/-- An alternative. -/
def or : Level := 3

/-- A conjunction. -/
def and : Level := 4

/-- A negation. -/
def not : Level := 5

/-- A comparison. -/
def compare : Level := 6

/-- An alternative of bits, or the operand of a spread. -/
def bits : Level := 7

/-- An exclusive alternative of bits. -/
def bitXor : Level := 8

/-- A conjunction of bits. -/
def bitAnd : Level := 9

/-- A shift. -/
def shift : Level := 10

/-- A sum. -/
def sum : Level := 11

/-- A product. -/
def product : Level := 12

/-- A sign in front. -/
def sign : Level := 13

/-- A power. -/
def power : Level := 14

/-- What needs no brackets anywhere. -/
def atom : Level := 16

/-- One level tighter; nothing is tighter than an atom. -/
def next (l : Level) : Level := min (l + 1) atom

end Level

/-- The sign and level of an operator before one operand. -/
def UnaryOp.symbol : UnaryOp → String × Level
  | .neg => ("-", Level.sign)
  | .pos => ("+", Level.sign)
  | .not => ("not ", Level.not)
  | .invert => ("~", Level.sign)

/-- The sign and level of an arithmetic operator. -/
def BinaryOp.symbol : BinaryOp → String × Level
  | .add => ("+", Level.sum)
  | .sub => ("-", Level.sum)
  | .mul => ("*", Level.product)
  | .div => ("/", Level.product)
  | .floorDiv => ("//", Level.product)
  | .mod => ("%", Level.product)
  | .pow => ("**", Level.power)
  | .matMul => ("@", Level.product)
  | .shiftLeft => ("<<", Level.shift)
  | .shiftRight => (">>", Level.shift)
  | .bitOr => ("|", Level.bits)
  | .bitXor => ("^", Level.bitXor)
  | .bitAnd => ("&", Level.bitAnd)

/-- The sign of a comparison. -/
def CompareOp.symbol : CompareOp → String
  | .lt => "<"
  | .le => "<="
  | .gt => ">"
  | .ge => ">="
  | .eq => "=="
  | .ne => "!="
  | .isIn => "in"
  | .notIn => "not in"
  | .is => "is"
  | .isNot => "is not"

/-- The word and level of a short-circuit operator. -/
def LogicalOp.symbol : LogicalOp → String × Level
  | .or => ("or", Level.or)
  | .and => ("and", Level.and)

/-- Numbers as written in source.  An infinite float has no digits of its own, so a literal that is
out of range stands for it. -/
def numberLayout : Decimal.Layout := { Decimal.Layout.standard with infinite := "1e309" }

/-- A constant as written in source. -/
def Literal.text : Literal → String
  | .null => "None"
  | .ellipsis => "..."
  | .bool true => "True"
  | .bool false => "False"
  | .int n => toString n
  | .float x => numberLayout.write .double x
  | .imaginary x => { numberLayout with wholeEnd := "" }.write .double x ++ "j"
  | .str s marked => (if marked then "u" else "") ++ Text.quote s
  | .bytes b => Text.quoteBytes b

/-- Is a constant a whole number or a truth value? Its attribute is then written after a blank. -/
def Literal.isWhole : Literal → Bool
  | .int _ | .bool _ => true
  | _ => false

/-- Items with a comma and a blank between them. -/
def commaSep (items : List String) : String := ", ".intercalate items

/-- A single item of a tuple keeps its comma. -/
def tupleItems (items : List String) : String :=
  match items with
  | [item] => item ++ ","
  | items => commaSep items

/-- Put in parentheses when more is asked for than the expression has. -/
def parenthesize (required own : Level) (text : String) : String :=
  if own < required then "(" ++ text ++ ")" else text

mutual

/-- Write an expression where the level `required` is asked for. -/
def Expr.print (required : Level) : Expr → String
  | .name id => id
  | .literal value => value.text
  | .list items => "[" ++ commaSep (printList Level.test items) ++ "]"
  | .tuple items =>
    let text := tupleItems (printList Level.test items)
    if items.isEmpty || Level.tuple < required then "(" ++ text ++ ")" else text
  | .set items => "\x7b" ++ commaSep (printList Level.test items) ++ "\x7d"
  | .dict items => "\x7b" ++ commaSep (printItems items) ++ "\x7d"
  | .call _ callee args keywords =>
    callee.print Level.atom ++ "(" ++
      commaSep (printArguments args ++ printKeywords keywords) ++ ")"
  | .attribute base field =>
    let gap := match base with
      | .literal value => if value.isWhole then " " else ""
      | _ => ""
    base.print Level.atom ++ gap ++ "." ++ field
  | .subscript base index =>
    let inner := match index with
      | .tuple (i :: is) => tupleItems (i.print Level.test :: printList Level.test is)
      | other => other.print Level.test
    base.print Level.atom ++ "[" ++ inner ++ "]"
  | .slice lower upper step =>
    printOption lower ++ ":" ++ printOption upper ++
      (if step.isSome then ":" ++ printOption step else "")
  | .unary op operand =>
    let (sign, own) := op.symbol
    parenthesize required own (sign ++ operand.print own)
  | .binary op left right =>
    let (sign, own) := op.symbol
    let (l, r) := if op = .pow then (own.next, own) else (own, own.next)
    parenthesize required own (left.print l ++ " " ++ sign ++ " " ++ right.print r)
  | .compare first rest =>
    parenthesize required Level.compare
      (first.print Level.compare.next ++ printComparisons rest)
  | .logical op operands =>
    let (word, own) := op.symbol
    parenthesize required own
      ((" " ++ word ++ " ").intercalate (printRising own operands))
  | .conditional body test orelse =>
    parenthesize required Level.test
      (body.print Level.test.next ++ " if " ++ test.print Level.test.next ++ " else " ++
        orelse.print Level.test)
  | .starred value => "*" ++ value.print Level.bits
  | .lambda params body =>
    let formals := commaSep (printParameters none params)
    parenthesize required Level.test
      ("lambda" ++ (if params.isEmpty then "" else " " ++ formals) ++ ": " ++ body.print Level.test)
termination_by structural e => e

/-- Write expressions, all at one level. -/
def printList (required : Level) : List Expr → List String
  | [] => []
  | e :: es => e.print required :: printList required es
termination_by structural es => es

/-- Write operands, each one level above the one before. -/
def printRising (before : Level) : List Expr → List String
  | [] => []
  | e :: es => e.print before.next :: printRising before.next es
termination_by structural es => es

/-- Write the items of a dictionary display. -/
def printItems : List DictItem → List String
  | [] => []
  | .entry k v :: es => (k.print Level.test ++ ": " ++ v.print Level.test) :: printItems es
  | .forward v :: es => ("**" ++ v.print Level.bits) :: printItems es
termination_by structural es => es

/-- Write positional arguments. -/
def printArguments : List Argument → List String
  | [] => []
  | .mk _ e :: es => e.print Level.test :: printArguments es
termination_by structural es => es

/-- Write named and forwarded arguments. -/
def printKeywords : List Keyword → List String
  | [] => []
  | .named name _ e :: es => (name ++ "=" ++ e.print Level.test) :: printKeywords es
  | .forward e :: es => ("**" ++ e.print Level.test) :: printKeywords es
termination_by structural es => es

/-- Write the right sides of a comparison chain, each after its sign. -/
def printComparisons : List (CompareOp × Expr) → String
  | [] => ""
  | (op, e) :: es =>
    " " ++ op.symbol ++ " " ++ e.print Level.compare.next ++ printComparisons es
termination_by structural es => es

/-- Write an expression that may be missing. -/
def printOption : Option Expr → String
  | none => ""
  | some e => e.print Level.test
termination_by structural e => e

/-- Write formal parameters with the marks that separate their kinds.  `before` is the kind of the
parameter before. -/
def printParameters (before : Option ParameterKind) : List Parameter → List String
  | [] => if before = some .positional then ["/"] else []
  | .mk name kind default :: ps =>
    let slash := if before = some .positional && kind != .positional then ["/"] else []
    let star :=
      if kind = .named && before != some .named && before != some .rest then ["*"] else []
    let mark := match kind with
      | .rest => "*"
      | .keywords => "**"
      | _ => ""
    let value := if default.isSome then "=" ++ printOption default else ""
    slash ++ star ++ (mark ++ name ++ value) :: printParameters (some kind) ps
termination_by structural ps => ps

end

/-- The written form of an expression as an argument. -/
def Expr.text (e : Expr) : String := e.print Level.test

/-- The written form of an expression as the target of an assignment. -/
def Expr.targetText (e : Expr) : String := e.print Level.tuple

/-! ### Statements -/

/-- An imported name with the name it gets. -/
def importText : String × Option String → String
  | (name, none) => name
  | (name, some other) => name ++ " as " ++ other

/-- An optional expression after a word. -/
def afterWord (word : String) : Option Expr → String
  | none => ""
  | some e => word ++ e.text

/-- Four blanks per level of nesting. -/
def indentation (depth : Nat) : String := String.ofList (List.replicate (4 * depth) ' ')

mutual

/-- The lines of a statement at a depth of nesting. -/
def Statement.lines (depth : Nat) : Statement → List String
  | .assign _ targets value =>
    [indentation depth ++ " = ".intercalate (targets.map Expr.targetText ++ [value.text])]
  | .augment _ target op value =>
    [indentation depth ++ target.text ++ " " ++ op.symbol.1 ++ "= " ++ value.text]
  | .annotate _ bare target annotation value =>
    let shown := match target, bare with
      | .name id, false => "(" ++ id ++ ")"
      | target, _ => target.text
    [indentation depth ++ shown ++ ": " ++ annotation.text ++ afterWord " = " value]
  | .expression _ value => [indentation depth ++ value.print Level.statement]
  | .pass _ => [indentation depth ++ "pass"]
  | .returns _ value => [indentation depth ++ "return" ++ afterWord " " value]
  | .deletes _ targets => [indentation depth ++ "del " ++ commaSep (targets.map Expr.text)]
  | .asserts _ test message =>
    [indentation depth ++ "assert " ++ test.text ++ afterWord ", " message]
  | .raises _ value cause =>
    [indentation depth ++ "raise" ++ afterWord " " value ++ afterWord " from " cause]
  | .globals _ names => [indentation depth ++ "global " ++ commaSep names]
  | .importModules _ names => [indentation depth ++ "import " ++ commaSep (names.map importText)]
  | .importNames _ source names =>
    [indentation depth ++ "from " ++ source ++ " import " ++ commaSep (names.map importText)]
  | .branch _ test body orelse =>
    (indentation depth ++ "if " ++ test.text ++ ":") ::
      (blockLines (depth + 1) body ++ elseLines depth true orelse)
  | .forLoop _ target iterable body orelse =>
    (indentation depth ++ "for " ++ target.targetText ++ " in " ++ iterable.text ++ ":") ::
      (blockLines (depth + 1) body ++ elseLines depth false orelse)
  | .whileLoop _ test body orelse =>
    (indentation depth ++ "while " ++ test.text ++ ":") ::
      (blockLines (depth + 1) body ++ elseLines depth false orelse)
  | .breaks _ => [indentation depth ++ "break"]
  | .continues _ => [indentation depth ++ "continue"]
  | .function _ isAsync decorators name params body =>
    decorators.map (fun d => indentation depth ++ "@" ++ d.text) ++
      (indentation depth ++ (if isAsync then "async " else "") ++ "def " ++ name ++ "(" ++
        commaSep (printParameters none params) ++ "):") :: blockLines (depth + 1) body
termination_by structural s => s

/-- The lines of a block. -/
def blockLines (depth : Nat) : List Statement → List String
  | [] => []
  | s :: ss => s.lines depth ++ blockLines depth ss
termination_by structural ss => ss

/-- The lines of what stands after a block: nothing, a further test joined to the word before it
(if `joins`), or the other case. -/
def elseLines (depth : Nat) (joins : Bool) : List Statement → List String
  | [] => []
  | .branch _ test body orelse :: rest =>
    if joins && rest.isEmpty then
      (indentation depth ++ "elif " ++ test.text ++ ":") ::
        (blockLines (depth + 1) body ++ elseLines depth true orelse)
    else
      (indentation depth ++ "else:") ::
        ((indentation (depth + 1) ++ "if " ++ test.text ++ ":") ::
          (blockLines (depth + 2) body ++ elseLines (depth + 1) true orelse) ++
          blockLines (depth + 1) rest)
  | s :: ss => (indentation depth ++ "else:") :: (s.lines (depth + 1) ++ blockLines (depth + 1) ss)
termination_by structural ss => ss

end

/-- The written form of a statement. -/
def Statement.text (s : Statement) : String := "\n".intercalate (s.lines 0)

end Laminar.Source
