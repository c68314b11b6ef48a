import Laminar.Source.Statement
import Laminar.Source.Token

/-!
# Reading layer source

Tokens to trees, by recursive descent: one function per level of the expression grammar, one per
kind of statement.  A reader takes the tokens that are left and returns a tree and the tokens after
it; `none` means that the text is not of the language.

**Lines.** An expression is returned with the line where it starts.  Parentheses around an
expression are not part of it, except as the first operand of a larger one: there the larger
expression starts at the parenthesis.  The lines of a function under a decorator are counted as if
its first decorator stood where the expression of that decorator starts, which may be below the
sign.

**Termination.** The functions call each other on smaller fuel.  Between two tokens they call each
other at most a fixed number of times, so the fuel of `readStatements` and `readExpression`, a
multiple of the number of tokens, never runs out before the tokens do.

* `readStatements` reads a whole text, `readExpression` a single expression.
-/

namespace Laminar.Source

/-- A reader of tokens. -/
abbrev Reader := StateT (List Lexeme) Option

/-- An expression with the line where it starts. -/
abbrev Located := Nat × Expr

/-! ### Single tokens -/

/-- The next token, left in place. -/
def peek : Reader (Option Token) := do return (← get).head?.map Lexeme.token

/-- The token after the next, left in place. -/
def peekSecond : Reader (Option Token) := do return (← get).tail.head?.map Lexeme.token

/-- The line of the next token. -/
def nextLine : Reader Nat := do return ((← get).head?.map Lexeme.line).getD 0

/-- Take the next token if it is `t`. -/
def accept (t : Token) : Reader Bool := do
  if (← peek) = some t then
    modify List.tail
    return true
  else return false

/-- Take the next token, which has to be `t`. -/
def expect (t : Token) : Reader Unit := do
  if !(← accept t) then failure

/-- Take a sign if it is next. -/
def acceptMark (s : String) : Reader Bool := accept (.mark s)

/-- Take a reserved word if it is next. -/
def acceptWord (s : String) : Reader Bool := accept (.word s)

/-- Is one of these tokens next? -/
def nextIsIn (ts : List Token) : Reader Bool := do
  match ← peek with
  | none => return ts.isEmpty
  | some t => return ts.contains t

/-- Take a name. -/
def takeName : Reader String := do
  match ← peek with
  | some (.name id) =>
    modify List.tail
    return id
  | _ => failure

/-- The comparison that is next, taken. -/
def acceptComparison : Reader (Option CompareOp) := do
  let signs : List (String × CompareOp) :=
    [("<", .lt), ("<=", .le), (">", .gt), (">=", .ge), ("==", .eq), ("!=", .ne)]
  match ← peek with
  | some (.mark s) =>
    match signs.lookup s with
    | some op =>
      modify List.tail
      return some op
    | none => return none
  | some (.word "in") =>
    modify List.tail
    return some .isIn
  | some (.word "not") =>
    if (← peekSecond) = some (.word "in") then
      modify (List.drop 2)
      return some .notIn
    else return none
  | some (.word "is") =>
    modify List.tail
    if ← acceptWord "not" then return some .isNot else return some .is
  | _ => return none

/-- The operator of a table that is next, taken. -/
def acceptBinary (table : List (String × BinaryOp)) : Reader (Option BinaryOp) := do
  match ← peek with
  | some (.mark s) =>
    match table.lookup s with
    | some op =>
      modify List.tail
      return some op
    | none => return none
  | _ => return none

/-- The operators of sums. -/
def sumSigns : List (String × BinaryOp) := [("+", .add), ("-", .sub)]

/-- The operators of products. -/
def productSigns : List (String × BinaryOp) :=
  [("*", .mul), ("/", .div), ("//", .floorDiv), ("%", .mod), ("@", .matMul)]

/-- The operators on bits, by level from the loosest. -/
def bitSigns : List (List (String × BinaryOp)) :=
  [[("|", .bitOr)], [("^", .bitXor)], [("&", .bitAnd)], [("<<", .shiftLeft), (">>", .shiftRight)]]

/-- The operators joined to an assignment. -/
def augmentSigns : List (String × BinaryOp) :=
  [("+=", .add), ("-=", .sub), ("*=", .mul), ("/=", .div), ("//=", .floorDiv), ("%=", .mod),
    ("**=", .pow), ("@=", .matMul), ("<<=", .shiftLeft), (">>=", .shiftRight), ("|=", .bitOr),
    ("^=", .bitXor), ("&=", .bitAnd)]

/-- The text literals that follow directly; they are one text. -/
def takeTexts : List Lexeme → String × List Lexeme
  | [] => ("", [])
  | x :: xs =>
    match x.token with
    | .str s _ =>
      let (more, rest) := takeTexts xs
      (s ++ more, rest)
    | _ => ("", x :: xs)

/-- The byte literals that follow directly; they are one text of bytes. -/
def takeBytes : List Lexeme → List UInt8 × List Lexeme
  | [] => ([], [])
  | x :: xs =>
    match x.token with
    | .bytes b =>
      let (more, rest) := takeBytes xs
      (b ++ more, rest)
    | _ => ([], x :: xs)

/-- A literal for a number of source. -/
def Literal.ofNumber : Decimal.Number → Literal
  | .int n => .int n
  | .float x => .float x
  | .imaginary x => .imaginary x

/-- The literals that are words or signs. -/
def constantTokens : List (Token × Literal) :=
  [(.word "None", .null), (.word "True", .bool true), (.word "False", .bool false),
    (.mark "...", .ellipsis)]

/-! ### Expressions -/

mutual

/-- A conditional or anything tighter. -/
def readTest : Nat → Reader Located
  | 0 => failure
  | n + 1 => do
    let start ← nextLine
    if ← acceptWord "lambda" then
      let params ← readParameters n false true (.mark ":")
      let (_, body) ← readTest n
      return (start, .lambda params body)
    let (line, body) ← readOr n
    if ← acceptWord "if" then
      let (_, test) ← readOr n
      expect (.word "else")
      let (_, orelse) ← readTest n
      return (start, .conditional body test orelse)
    return (line, body)
termination_by structural n => n

/-- Operands of `or`. -/
def readOr : Nat → Reader Located
  | 0 => failure
  | n + 1 => do
    let start ← nextLine
    let (line, first) ← readAnd n
    let rest ← readOrRest n
    if rest.isEmpty then return (line, first) else return (start, .logical .or (first :: rest))
termination_by structural n => n

/-- Further operands of `or`. -/
def readOrRest : Nat → Reader (List Expr)
  | 0 => failure
  | n + 1 => do
    if ← acceptWord "or" then
      let (_, e) ← readAnd n
      return e :: (← readOrRest n)
    else return []
termination_by structural n => n

/-- Operands of `and`. -/
def readAnd : Nat → Reader Located
  | 0 => failure
  | n + 1 => do
    let start ← nextLine
    let (line, first) ← readNot n
    let rest ← readAndRest n
    if rest.isEmpty then return (line, first) else return (start, .logical .and (first :: rest))
termination_by structural n => n

/-- Further operands of `and`. -/
def readAndRest : Nat → Reader (List Expr)
  | 0 => failure
  | n + 1 => do
    if ← acceptWord "and" then
      let (_, e) ← readNot n
      return e :: (← readAndRest n)
    else return []
termination_by structural n => n

/-- A negation or a comparison. -/
def readNot : Nat → Reader Located
  | 0 => failure
  | n + 1 => do
    let start ← nextLine
    if ← acceptWord "not" then
      let (_, e) ← readNot n
      return (start, .unary .not e)
    let (line, first) ← readBits n bitSigns
    let rest ← readComparisons n
    if rest.isEmpty then return (line, first) else return (start, .compare first rest)
termination_by structural n => n

/-- Further operands of a chain of comparisons, each with its sign. -/
def readComparisons : Nat → Reader (List (CompareOp × Expr))
  | 0 => failure
  | n + 1 => do
    match ← acceptComparison with
    | none => return []
    | some op =>
      let (_, e) ← readBits n bitSigns
      return (op, e) :: (← readComparisons n)
termination_by structural n => n

/-- Operators on bits, level by level, or a sum. -/
def readBits : Nat → List (List (String × BinaryOp)) → Reader Located
  | 0, _ => failure
  | n + 1, [] => readSum n
  | n + 1, signs :: tighter => do
    let start ← nextLine
    readBitsRest n signs tighter start (← readBits n tighter)
termination_by structural n => n

/-- The rest of a chain of operators on bits whose first part is read. -/
def readBitsRest :
    Nat → List (String × BinaryOp) → List (List (String × BinaryOp)) → Nat → Located →
      Reader Located
  | 0, _, _, _, _ => failure
  | n + 1, signs, tighter, start, left => do
    match ← acceptBinary signs with
    | none => return left
    | some op =>
      let (_, right) ← readBits n tighter
      readBitsRest n signs tighter start (start, .binary op left.2 right)
termination_by structural n => n

/-- A sum, grouped to the left. -/
def readSum : Nat → Reader Located
  | 0 => failure
  | n + 1 => do
    let start ← nextLine
    readSumRest n start (← readProduct n)
termination_by structural n => n

/-- The rest of a sum whose first part is read. -/
def readSumRest : Nat → Nat → Located → Reader Located
  | 0, _, _ => failure
  | n + 1, start, left => do
    match ← acceptBinary sumSigns with
    | none => return left
    | some op =>
      let (_, right) ← readProduct n
      readSumRest n start (start, .binary op left.2 right)
termination_by structural n => n

/-- A product, grouped to the left. -/
def readProduct : Nat → Reader Located
  | 0 => failure
  | n + 1 => do
    let start ← nextLine
    readProductRest n start (← readSigned n)
termination_by structural n => n

/-- The rest of a product whose first part is read. -/
def readProductRest : Nat → Nat → Located → Reader Located
  | 0, _, _ => failure
  | n + 1, start, left => do
    match ← acceptBinary productSigns with
    | none => return left
    | some op =>
      let (_, right) ← readSigned n
      readProductRest n start (start, .binary op left.2 right)
termination_by structural n => n

/-- A signed expression or a power. -/
def readSigned : Nat → Reader Located
  | 0 => failure
  | n + 1 => do
    let start ← nextLine
    if ← acceptMark "-" then
      let (_, e) ← readSigned n
      return (start, .unary .neg e)
    if ← acceptMark "+" then
      let (_, e) ← readSigned n
      return (start, .unary .pos e)
    if ← acceptMark "~" then
      let (_, e) ← readSigned n
      return (start, .unary .invert e)
    let (line, base) ← readPrimary n
    if ← acceptMark "**" then
      let (_, exponent) ← readSigned n
      return (start, .binary .pow base exponent)
    return (line, base)
termination_by structural n => n

/-- An atom with calls, attributes and subscripts after it. -/
def readPrimary : Nat → Reader Located
  | 0 => failure
  | n + 1 => do
    let start ← nextLine
    readTrailers n start (← readAtom n)
termination_by structural n => n

/-- The calls, attributes and subscripts behind what is read. -/
def readTrailers : Nat → Nat → Located → Reader Located
  | 0, _, _ => failure
  | n + 1, start, base => do
    if ← acceptMark "(" then
      let (args, keywords) ← readCallArguments n
      readTrailers n start (start, .call start base.2 args keywords)
    else if ← acceptMark "." then
      readTrailers n start (start, .attribute base.2 (← takeName))
    else if ← acceptMark "[" then
      let index ← readSubscript n
      readTrailers n start (start, .subscript base.2 index)
    else return base
termination_by structural n => n

/-- A name, a literal, or a bracketed expression. -/
def readAtom : Nat → Reader Located
  | 0 => failure
  | n + 1 => do
    let line ← nextLine
    match ← peek with
    | some (.number v) =>
      modify List.tail
      return (line, .literal (.ofNumber v))
    | some (.str _ marked) =>
      let (s, rest) := takeTexts (← get)
      set rest
      if rest.head?.any (fun x => x.token matches .bytes _) then failure
      return (line, .literal (.str s marked))
    | some (.bytes _) =>
      let (b, rest) := takeBytes (← get)
      set rest
      if rest.head?.any (fun x => x.token matches .str _ _) then failure
      return (line, .literal (.bytes b))
    | some (.mark "(") =>
      modify List.tail
      if ← acceptMark ")" then return (line, .tuple [])
      let inner ← readItems n
      expect (.mark ")")
      match inner with
      | ([item], false) => return item
      | (items, _) => return (line, .tuple (items.map Prod.snd))
    | some (.mark "[") =>
      modify List.tail
      if ← acceptMark "]" then return (line, .list [])
      let (items, _) ← readItems n
      expect (.mark "]")
      return (line, .list (items.map Prod.snd))
    | some (.mark "\x7b") =>
      modify List.tail
      return (line, ← readBraces n)
    | some t =>
      match constantTokens.lookup t with
      | some l =>
        modify List.tail
        return (line, .literal l)
      | none => return (line, .name (← takeName))
    | none => failure
termination_by structural n => n

/-- A starred expression or a plain one. -/
def readItem : Nat → Reader Located
  | 0 => failure
  | n + 1 => do
    let start ← nextLine
    if ← acceptMark "*" then
      let (_, e) ← readBits n bitSigns
      return (start, .starred e)
    readTest n
termination_by structural n => n

/-- Items with commas between them, and whether there was a comma. -/
def readItems : Nat → Reader (List Located × Bool)
  | 0 => failure
  | n + 1 => do
    let first ← readItem n
    if ← acceptMark "," then
      let closing : List Token :=
        [.mark ")", .mark "]", .mark "\x7d", .mark "=", .mark ":", .mark ";", .newline]
      if (← nextIsIn closing) || (← peek).isNone then return ([first], true)
      let (rest, _) ← readItems n
      return (first :: rest, true)
    return ([first], false)
termination_by structural n => n

/-- A dictionary or a set, after the opening brace.  What follows the first item tells which. -/
def readBraces : Nat → Reader Expr
  | 0 => failure
  | n + 1 => do
    if ← nextIsIn [.mark "\x7d", .mark "**"] then return .dict (← readDictItems n)
    let starred ← nextIsIn [.mark "*"]
    let (_, first) ← readItem n
    if !starred then
      if ← acceptMark ":" then
        let (_, value) ← readTest n
        return .dict (.entry first value :: (← readDictRest n))
    if ← acceptMark "\x7d" then return .set [first]
    expect (.mark ",")
    if ← acceptMark "\x7d" then return .set [first]
    let (items, _) ← readItems n
    expect (.mark "\x7d")
    return .set (first :: items.map Prod.snd)
termination_by structural n => n

/-- Keys with their values, and forwarded mappings, up to the closing brace. -/
def readDictItems : Nat → Reader (List DictItem)
  | 0 => failure
  | n + 1 => do
    if ← acceptMark "\x7d" then return []
    let item ← do
      if ← acceptMark "**" then
        let (_, e) ← readBits n bitSigns
        pure (.forward e)
      else
        let (_, k) ← readTest n
        expect (.mark ":")
        let (_, v) ← readTest n
        pure (.entry k v)
    return item :: (← readDictRest n)
termination_by structural n => n

/-- What follows an item of a dictionary: the closing brace, or a comma and further items. -/
def readDictRest : Nat → Reader (List DictItem)
  | 0 => failure
  | n + 1 => do
    if ← acceptMark "," then readDictItems n
    else
      expect (.mark "\x7d")
      return []
termination_by structural n => n

/-- The arguments of a call up to the closing parenthesis. -/
def readCallArguments : Nat → Reader (List Argument × List Keyword)
  | 0 => failure
  | n + 1 => do
    if ← acceptMark ")" then return ([], [])
    let start ← nextLine
    let this : List Argument × List Keyword ← do
      if ← acceptMark "**" then
        let (_, e) ← readTest n
        pure ([], [.forward e])
      else if ← acceptMark "*" then
        let (_, e) ← readTest n
        pure ([.mk start (.starred e)], [])
      else if (← peekSecond) = some (.mark "=") then
        let name ← takeName
        expect (.mark "=")
        let (line, e) ← readTest n
        pure ([], [.named name line e])
      else
        let (line, e) ← readTest n
        pure ([.mk line e], [])
    if ← acceptMark "," then
      let (args, keywords) ← readCallArguments n
      return (this.1 ++ args, this.2 ++ keywords)
    expect (.mark ")")
    return this
termination_by structural n => n

/-- An index, a slice, or several of them, up to the closing bracket. -/
def readSubscript : Nat → Reader Expr
  | 0 => failure
  | n + 1 => do
    let first ← readSlice n
    if ← acceptMark "]" then return first
    expect (.mark ",")
    let rest ← readSubscriptRest n
    return .tuple (first :: rest)
termination_by structural n => n

/-- Further items between the brackets of a subscript. -/
def readSubscriptRest : Nat → Reader (List Expr)
  | 0 => failure
  | n + 1 => do
    if ← acceptMark "]" then return []
    let e ← readSlice n
    if ← acceptMark "]" then return [e]
    expect (.mark ",")
    return e :: (← readSubscriptRest n)
termination_by structural n => n

/-- One item between the brackets of a subscript: an index or a slice. -/
def readSlice : Nat → Reader Expr
  | 0 => failure
  | n + 1 => do
    let lower ← readBound n
    if ← acceptMark ":" then
      let upper ← readBound n
      let step ← if ← acceptMark ":" then readBound n else pure none
      return .slice lower upper step
    match lower with
    | some e => return e
    | none => failure
termination_by structural n => n

/-- A bound of a slice, which may be missing. -/
def readBound : Nat → Reader (Option Expr)
  | 0 => failure
  | n + 1 => do
    if ← nextIsIn [.mark ":", .mark "]", .mark ","] then return none
    let (_, e) ← readTest n
    return some e
termination_by structural n => n

/-- Formal parameters up to `closing`, which is taken.  `named` says that only named ones may
follow; `bare` parameters have no annotations, so a colon after one belongs to what follows. -/
def readParameters : Nat → Bool → Bool → Token → Reader (List Parameter)
  | 0, _, _, _ => failure
  | n + 1, named, bare, closing => do
    if ← accept closing then return []
    if ← acceptMark "/" then
      let _ ← acceptMark ","
      readParameters n named bare closing
    else if ← acceptMark "**" then
      let name ← takeName
      readAnnotation n bare
      let _ ← acceptMark ","
      return .mk name .keywords none :: (← readParameters n true bare closing)
    else if ← acceptMark "*" then
      if ← acceptMark "," then readParameters n true bare closing
      else
        let name ← takeName
        readAnnotation n bare
        let _ ← acceptMark ","
        return .mk name .rest none :: (← readParameters n true bare closing)
    else
      let name ← takeName
      readAnnotation n bare
      let default ← if ← acceptMark "=" then
          let (_, e) ← readTest n
          pure (some e)
        else pure none
      let more ← acceptMark ","
      if !more && (← peek) ≠ some closing then failure
      let slash := more && (← peek) = some (.mark "/")
      let rest ← readParameters n named bare closing
      -- a slash makes every parameter before it positional
      let positional := slash || match rest with
        | .mk _ .positional _ :: _ => true
        | _ => false
      let kind := if named then .named else if positional then .positional else .standard
      return .mk name kind default :: rest
termination_by structural n => n

/-- Skip the annotation of a parameter. -/
def readAnnotation : Nat → Bool → Reader Unit
  | 0, _ => failure
  | n + 1, bare => do
    if !bare then
      if ← acceptMark ":" then
        let _ ← readTest n
        return ()
termination_by structural n => n

end

/-- Several items are a tuple. -/
def ofItems (start : Nat) : List Located × Bool → Located
  | ([item], false) => item
  | (items, _) => (start, .tuple (items.map Prod.snd))

/-- Items with commas between them, as one expression. -/
def readExpressionList (n : Nat) : Reader Located := do
  let start ← nextLine
  return ofItems start (← readItems n)

/-! ### Statements -/

/-- An expression that may be missing before the end of a statement. -/
def readOptionalList (n : Nat) : Reader (Option Expr) := do
  if ← nextIsIn [.newline, .mark ";"] then return none
  return some (← readExpressionList n).2

/-- A name with dots. -/
def readDotted : Nat → Reader String
  | 0 => failure
  | n + 1 => do
    let first ← takeName
    if ← acceptMark "." then return first ++ "." ++ (← readDotted n)
    return first

/-- Imported names. -/
def readImports : Nat → Reader (List (String × Option String))
  | 0 => failure
  | n + 1 => do
    let name ← if ← acceptMark "*" then pure "*" else readDotted n
    let other ← if ← acceptWord "as" then pure (some (← takeName)) else pure none
    if ← acceptMark "," then
      if ← nextIsIn [.mark ")"] then return [(name, other)]
      return (name, other) :: (← readImports n)
    return [(name, other)]

/-- Names with commas between them. -/
def readNames : Nat → Reader (List String)
  | 0 => failure
  | n + 1 => do
    let name ← takeName
    if ← acceptMark "," then return name :: (← readNames n)
    return [name]

/-- The points before the name of a module. -/
def readPoints : Nat → Reader String
  | 0 => failure
  | n + 1 => do
    if ← acceptMark "." then return "." ++ (← readPoints n)
    if ← acceptMark "..." then return "..." ++ (← readPoints n)
    return ""

/-- The name of a module to import from; after points it may be missing. -/
def readSource (n : Nat) : Reader String := do
  let points ← readPoints n
  if points != "" && (← nextIsIn [.word "import"]) then return points
  return points ++ (← readDotted n)

/-- The targets after the first, and the value, of an assignment. -/
def readAssigned : Nat → List Expr → Reader (List Expr × Expr)
  | 0, _ => failure
  | n + 1, targets => do
    let (_, e) ← readExpressionList n
    if ← acceptMark "=" then readAssigned n (targets ++ [e])
    else return (targets, e)

/-- A statement that fits on a line. -/
def readSimple (n : Nat) : Reader Statement := do
  let line ← nextLine
  if ← acceptWord "pass" then return .pass line
  if ← acceptWord "break" then return .breaks line
  if ← acceptWord "continue" then return .continues line
  if ← acceptWord "return" then return .returns line (← readOptionalList n)
  if ← acceptWord "del" then
    let (items, _) ← readItems n
    return .deletes line (items.map Prod.snd)
  if ← acceptWord "assert" then
    let (_, test) ← readTest n
    let message ← if ← acceptMark "," then
        let (_, e) ← readTest n
        pure (some e)
      else pure none
    return .asserts line test message
  if ← acceptWord "raise" then
    if ← nextIsIn [.newline, .mark ";"] then return .raises line none none
    let (_, e) ← readTest n
    let cause ← if ← acceptWord "from" then
        let (_, c) ← readTest n
        pure (some c)
      else pure none
    return .raises line (some e) cause
  if ← acceptWord "global" then return .globals line (← readNames n)
  if ← acceptWord "import" then return .importModules line (← readImports n)
  if ← acceptWord "from" then
    let source ← readSource n
    expect (.word "import")
    let bracketed ← acceptMark "("
    let names ← readImports n
    if bracketed then expect (.mark ")")
    return .importNames line source names
  let bare := (← peek) != some (.mark "(")
  let (_, first) ← readExpressionList n
  if ← acceptMark "=" then
    let (targets, value) ← readAssigned n [first]
    return .assign line targets value
  if ← acceptMark ":" then
    let (_, annotation) ← readTest n
    let value ← if ← acceptMark "=" then
        let (_, e) ← readExpressionList n
        pure (some e)
      else pure none
    return .annotate line bare first annotation value
  match ← acceptBinary augmentSigns with
  | some op =>
    let (_, value) ← readExpressionList n
    return .augment line first op value
  | none => return .expression line first

/-- The statements of one line. -/
def readLine (n : Nat) : Nat → Reader (List Statement)
  | 0 => failure
  | k + 1 => do
    let s ← readSimple n
    if ← acceptMark ";" then
      if ← accept .newline then return [s]
      return s :: (← readLine n k)
    expect .newline
    return [s]

/-- Decorators above a function. -/
def readDecorators (n : Nat) : Nat → Reader (List Expr)
  | 0 => failure
  | k + 1 => do
    if ← acceptMark "@" then
      let (_, e) ← readTest n
      expect .newline
      return e :: (← readDecorators n k)
    else return []

/-- The lines between the sign of the first decorator and its expression; nothing is taken. -/
def decoratorGap (n : Nat) : Reader Nat := do
  let before ← get
  let line ← nextLine
  if ← acceptMark "@" then
    let (start, _) ← readTest n
    set before
    return start - line
  return 0

/-- Change the lines of the tokens that are left. -/
def moveLines (f : Nat → Nat) : Reader Unit :=
  modify (·.map fun x => { x with line := f x.line })

/-- Targets of a loop. -/
def readTargets : Nat → Reader (List Located × Bool)
  | 0 => failure
  | n + 1 => do
    let first ← readBits n bitSigns
    if ← acceptMark "," then
      if ← nextIsIn [.word "in"] then return ([first], true)
      let (rest, _) ← readTargets n
      return (first :: rest, true)
    return ([first], false)

mutual

/-- A statement, or the statements of one line. -/
def readStatement (depth : Nat) : Nat → Reader (List Statement)
  | 0 => failure
  | n + 1 => do
    let gap ← decoratorGap depth
    let decorators ← readDecorators depth depth
    if gap != 0 then moveLines (· + gap)
    let line ← nextLine
    let isAsync ← acceptWord "async"
    if ← acceptWord "def" then
      let name ← takeName
      expect (.mark "(")
      let params ← readParameters depth false false (.mark ")")
      if ← acceptMark "->" then
        let _ ← readTest depth
      let body ← readBlock depth n
      if gap != 0 then moveLines (· - gap)
      return [.function line isAsync decorators name params body]
    if isAsync || !decorators.isEmpty then failure
    if ← acceptWord "if" then
      let (_, test) ← readTest depth
      let body ← readBlock depth n
      return [.branch line test body (← readElse depth true n)]
    if ← acceptWord "while" then
      let (_, test) ← readTest depth
      let body ← readBlock depth n
      return [.whileLoop line test body (← readElse depth false n)]
    if ← acceptWord "for" then
      let start ← nextLine
      let target ← readTargets depth
      expect (.word "in")
      let (_, iterable) ← readExpressionList depth
      let body ← readBlock depth n
      return [.forLoop line (ofItems start target).2 iterable body (← readElse depth false n)]
    readLine depth depth
termination_by structural n => n

/-- The block after a colon: indented lines, or the rest of the line. -/
def readBlock (depth : Nat) : Nat → Reader (List Statement)
  | 0 => failure
  | n + 1 => do
    expect (.mark ":")
    if ← accept .newline then
      expect .indent
      readBlockRest depth n
    else readLine depth depth
termination_by structural n => n

/-- The statements of an indented block up to its end. -/
def readBlockRest (depth : Nat) : Nat → Reader (List Statement)
  | 0 => failure
  | n + 1 => do
    let s ← readStatement depth n
    if ← accept .dedent then return s
    return s ++ (← readBlockRest depth n)
termination_by structural n => n

/-- What follows a block: nothing, another test, or the other case. -/
def readElse (depth : Nat) (joins : Bool) : Nat → Reader (List Statement)
  | 0 => failure
  | n + 1 => do
    let line ← nextLine
    if joins then
      if ← acceptWord "elif" then
        let (_, test) ← readTest depth
        let body ← readBlock depth n
        return [.branch line test body (← readElse depth true n)]
    if ← acceptWord "else" then return ← readBlock depth n
    return []
termination_by structural n => n

end

/-- All statements up to the end of the text. -/
def readAll (depth : Nat) : Nat → Reader (List Statement)
  | 0 => failure
  | n + 1 => do
    if (← get).isEmpty then return []
    let s ← readStatement depth depth
    return s ++ (← readAll depth n)

/-- Fuel that outlasts `tokens`: between two tokens the readers call each other fewer than thirty
times. -/
def fuelFor (tokens : List Lexeme) : Nat := 30 * (tokens.length + 2)

/-- Read a whole source text.  Its last line need not have an end. -/
def readStatements (text : String) : Option (List Statement) := do
  let lines := plainLines text.toList
  let tokens ← tokenize (if lines.getLast? = some '\n' then lines else lines ++ ['\n'])
  let (statements, rest) ← (readAll (fuelFor tokens) (fuelFor tokens)).run tokens
  if rest.isEmpty then some statements else none

/-- Read a text that is one expression; several items are a tuple. -/
def readExpression (text : String) : Option Expr := do
  let tokens ← tokenize (plainLines (text.toList.dropWhile (fun c => c == ' ' || c == '\t')))
  let ((_, e), rest) ← (readExpressionList (fuelFor tokens)).run tokens
  if rest.all (fun x => x.token = .newline) then some e else none

/-- A source text without the blanks of lines that hold nothing else, also inside text literals. -/
def withoutBlankLines (text : String) : String :=
  let isBlank (line : String) : Bool := line.toList.all fun c => c == ' ' || c == '\t'
  let lines := (String.ofList (plainLines text.toList)).splitOn "\n"
  "\n".intercalate (lines.map fun line => if isBlank line then "" else line)

end Laminar.Source
