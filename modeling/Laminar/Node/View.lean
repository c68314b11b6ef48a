import Laminar.Value.Sequence

/-!
# Views of nodes

What can be read off a node without compiling it: the parameter block of a call, the names in a
parameter block, the assignments of a block.

A parameter block may hold entries that are no pair of name and value; the name of such an entry is
its first item.
-/

namespace Laminar

/-- The parameter block of a call, which is the first argument or missing. -/
def parameterBlock? : List Node → Option Node
  | .parameters entries :: _ => some (.parameters entries)
  | _ => none

/-- The name of an entry; a forwarded block has none. -/
def Entry.name? : Entry → Except Fault (Option Value)
  | .keyword name _ => pure (some name)
  | .other (.splat _) => pure none
  | .other n => return some (← (Value.ofNode n).item (.value (.int 0)))

/-- The names in a parameter block. -/
def entryNames : List Entry → Except Fault (List Value)
  | [] => pure []
  | e :: rest => do
    let name ← e.name?
    return name.toList ++ (← entryNames rest)

/-- Is a node an assignment? -/
def Node.isAssignment : Node → Bool
  | .assign .. => true
  | _ => false

/-- The assignments among the statements of a block. -/
def assignments (statements : List Node) : List Node := statements.filter (·.isAssignment)

end Laminar
