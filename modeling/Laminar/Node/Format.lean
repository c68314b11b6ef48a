import Laminar.Diagnostic
import Laminar.Value.Sequence

/-!
# Expression trees as text

`Node.format` writes a tree roughly the way it would stand in the body of a layer: assignments one
per line, calls with their positional arguments first and their keywords behind, line marks left
out.  A symbol is written by its name alone.  A name need not be a text, so the result is a value;
where a text is put together from parts, a part that is no text is a fault.
-/

namespace Laminar

/-- Texts with a separator between them; every part must be a text. -/
def joinValues (separator : String) (parts : List Value) : Except Fault String :=
  let rec go (index : Nat) : List Value → Except Fault (List String)
    | [] => pure []
    | v :: rest =>
      match v.bare with
      | .str s => do return s :: (← go (index + 1) rest)
      | v => throw (.joinItem index v.operandType)
  do return separator.intercalate (← go 0 parts)

/-- Blanks in front of a line. -/
def indentText (indent : Nat) : String := String.ofList (List.replicate (4 * indent) ' ')

mutual

/-- A node as text, or the name of a symbol as it is. -/
def Node.format (indent : Nat) : Node → Except Fault Value
  | .symbol name => pure name
  | .const value => pure (.str value.repr)
  | .placeholder name => pure (.str name)
  | .splat name => pure (.str ("**" ++ name))
  | .deferred text .. => pure (.str text)
  | .parameters entries => pure (.str (Node.parameters entries).repr)
  | .call callee args => do
    let (positional, keywords) ← formatArguments args
    let callee ← callee.formatCallee
    let inside ← joinValues ", " (positional ++ keywords.map .str)
    return .str (callee.display ++ "(" ++ inside ++ ")")
  | .assign target value => do
    let left ← target.format 0
    let right ← value.format 0
    return .str (indentText indent ++ left.display ++ " = " ++ right.display)
  | .line number file => pure (.str (Node.line number file).repr)
  | .block statements => do return .str (← joinValues "\n" (← formatStatements indent statements))
  | .raw value => pure (.str value.repr)
termination_by structural n => n

/-- The statements of a block as texts, without the line marks. -/
def formatStatements (indent : Nat) : List Node → Except Fault (List Value)
  | [] => pure []
  | .line .. :: rest => formatStatements indent rest
  | n :: rest => do
    let text ← n.format indent
    return text :: (← formatStatements indent rest)
termination_by structural ns => ns

/-- The arguments of a call as texts: the positional ones and the keywords. -/
def formatArguments : List Node → Except Fault (List Value × List String)
  | [] => pure ([], [])
  | .parameters entries :: rest => do
    let here ← formatEntries entries
    let (positional, keywords) ← formatArguments rest
    return (positional, here ++ keywords)
  | n :: rest => do
    let text ← n.format 0
    let (positional, keywords) ← formatArguments rest
    return (text :: positional, keywords)
termination_by structural ns => ns

/-- The entries of a parameter block as texts. -/
def formatEntries : List Entry → Except Fault (List String)
  | [] => pure []
  | e :: rest => do
    let text ← e.format
    return text :: (← formatEntries rest)
termination_by structural es => es

/-- An entry of a parameter block as text. -/
def Entry.format : Entry → Except Fault String
  | .keyword name value => do return name.display ++ "=" ++ (← value.format 0).display
  | .other (.splat name) => pure ("**" ++ name)
  | .other (.raw v) => v.formatPair
  | .other n => throw (.notSubscriptable n.typeName)
termination_by structural e => e

/-- A value in the place of an entry: its first two items. -/
def Value.formatPair : Value → Except Fault String
  | .list (name :: value :: _) => do
    return name.display ++ "=" ++ (← value.formatRaw).display
  | .tuple (name :: value :: _) => do
    return name.display ++ "=" ++ (← value.formatRaw).display
  | .dict entries => do
    let name ← (Value.dict entries).item (.value (.int 0))
    return name.display ++ "=" ++ (← formatEntry (.int 1) entries).display
  | .kept _ v => v.formatPair
  | v => do
    let name ← v.item (.value (.int 0))
    let value ← v.item (.value (.int 1))
    return name.display ++ "=" ++ value.repr
termination_by structural v => v

/-- The value under a key in the place of a node. -/
def formatEntry (key : Value) : List (Value × Value) → Except Fault Value
  | [] => throw (.missingKey key)
  | (k, v) :: rest => if key.sameKey k then v.formatRaw else formatEntry key rest
termination_by structural es => es

/-- A value in the place of a node. -/
def Value.formatRaw : Value → Except Fault Value
  | .node n => n.format 0
  | .kept _ v => v.formatRaw
  | v => pure (.str v.repr)
termination_by structural v => v

/-- A value in the place of a callee: a text stands as it is. -/
def Value.formatCallee : Value → Except Fault Value
  | .str s => pure (.str s)
  | .node n => n.format 0
  | .kept _ v => v.formatCallee
  | v => pure (.str v.repr)
termination_by structural v => v

end

end Laminar
