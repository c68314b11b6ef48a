import Laminar.Net.Assembly
import Laminar.Node.Format

/-!
# Listings

A listing shows an assembled program line by line: the number of the operator right-aligned in four
columns, the symbol of the register with that number left-aligned in sixteen, the operator, and the
registers it reads.

* `paddedName` is a symbol in sixteen columns.  Texts and numbers can be padded, other values
  cannot.
* `Assembly.listing` is the whole listing.
-/

namespace Laminar

/-- Blanks that fill a text up to a width. -/
def fillTo (width : Nat) (s : String) : String :=
  String.ofList (List.replicate (width - s.length) ' ')

/-- A number right-aligned in four columns. -/
def indexText (i : Nat) : String := fillTo 4 (toString i) ++ toString i

/-- A text left-aligned in sixteen columns. -/
def padded (s : String) : String := s ++ fillTo 16 s

/-- A symbol left-aligned in sixteen columns; a truth value is padded as a number. -/
def paddedName (v : Value) : Except Fault String :=
  match v.bare with
  | .str s => pure (padded s)
  | .bool b => pure (padded (if b then "1" else "0"))
  | .fixed (.bool b) => pure (padded (if b then "1" else "0"))
  | v => match v.number? with
    | some _ => do return padded (← v.displayed)
    | none => throw (.noFormat v.operandType)

/-- Lines for operators with their operands, numbered from `i`. -/
def listingFrom (symbols : List Value) (i : Nat) :
    List (Op × List Nat) → Except Fault (List String)
  | [] => pure []
  | (op, registers) :: rest => do
    let name ← paddedName (symbols.getD i (.str "?"))
    let _ ← Value.written (.op op)
    let line := indexText i ++ "  " ++ name ++ " " ++ op.repr ++ "  [" ++
      commaJoin (registers.map toString) ++ "]"
    return line :: (← listingFrom symbols (i + 1) rest)

/-- The listing of an assembled program. -/
def Assembly.listing (a : Assembly) : Except Fault (List String) :=
  listingFrom a.symbols 0 (a.ops.zip a.operands)

end Laminar
