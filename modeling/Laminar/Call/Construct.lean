import Laminar.Call.Arguments
import Laminar.Tensor.Convert
import Laminar.Value.Operators
import Laminar.Value.Order

/-!
# Building initializers and operators

The constructors of initializers and operators.  A constructor counts the object it builds as its
first positional value, under the name `self`.  Kinds without settings take no values at all.

* `Initializer.construct` and `Op.construct` build from positional and named values.
-/

namespace Laminar

/-- The constructor of a class with formals; the object under construction comes first. -/
def classConstructor (cls : String) (formals : List Formal) (collects : Bool) : Constructor :=
  { name := cls ++ ".__init__", formals := { name := "self" } :: formals, collects }

/-- Bind the values for a class; the object under construction is left out of the result. -/
def bindClass (cls : String) (formals : List Formal) (collects : Bool) (args : List Value)
    (keywords : List (String × Value)) : Except Fault Bound := do
  let bound ← (classConstructor cls formals collects).bind (.null :: args) keywords
  return { bound with values := bound.values.tail }

/-- A class without settings takes no values. -/
def checkNoArguments (cls : String) (args : List Value) (keywords : List (String × Value)) :
    Except Fault Unit :=
  if args.isEmpty && keywords.isEmpty then pure () else throw (.takesNoArguments cls)

/-- The value of a setting that is not given, which is one object for all initializers. -/
def settingDefault (x : Float) : Option Value := some (.kept (.constant true 0) (.float x))

/-- Build an initializer. -/
def Initializer.construct (c : InitClass) (args : List Value) (keywords : List (String × Value)) :
    Except Fault Initializer := do
  let bind (formals : List Formal) : Except Fault (List Value) := do
    return (← bindClass c.name formals false args keywords).values
  match c with
  | .base => do checkNoArguments c.name args keywords; return .base
  | .xavier => do checkNoArguments c.name args keywords; return .xavier
  | .gaussian =>
    let values ← bind [⟨"mean", settingDefault 0.0⟩, ⟨"std", settingDefault 0.01⟩]
    return .gaussian (values.getD 0 .null) (values.getD 1 .null)
  | .uniform =>
    let values ← bind [⟨"low", settingDefault (-0.05)⟩, ⟨"high", settingDefault 0.05⟩]
    return .uniform (values.getD 0 .null) (values.getD 1 .null)
  | .constant =>
    let values ← bind [⟨"value", settingDefault 0.0⟩]
    return .constant (values.getD 0 .null)

/-- The initializer of weights that name none. -/
def defaultInitializer : Initializer := .gaussian (.int 0) (.float 0.01)

/-- A trainable array; nothing as initializer means the default one. -/
def Op.parameter (dims : List Value) (init : Value) (opts : List (String × Value)) : Op :=
  match init.bare with
  | .null => .par dims (.initializer defaultInitializer) opts
  | _ => .par dims init opts

/-- Dropout with a probability from zero up to, but not, one. -/
def Op.dropout (rate : Value) : Except Fault Op := do
  if ← Value.precedes .le (.float 0.0) rate then
    if ← Value.precedes .lt rate (.float 1.0) then return .drop rate
  throw (.dropRate rate)

/-- The keyword formals of a trainable array. -/
def bindParameter (args : List Value) (keywords : List (String × Value)) : Except Fault Bound :=
  bindClass "Par" [⟨"dims", none⟩, ⟨"init", some .null⟩] true args keywords

/-- Build an operator. -/
def Op.construct (c : OpClass) (args : List Value) (keywords : List (String × Value)) :
    Except Fault Op := do
  match c with
  | .par =>
    let bound ← bindParameter args keywords
    let dims ← (bound.values.getD 0 .null).iterate
    return Op.parameter dims (bound.values.getD 1 .null) bound.options
  | .arr =>
    let bound ← bindClass c.name [⟨"value", none⟩] false args keywords
    return .arr (← Tensor.ofValue (bound.values.getD 0 .null))
  | .drop =>
    let bound ← bindClass c.name [⟨"pdrop", some (.float 0.5)⟩] false args keywords
    Op.dropout (bound.values.getD 0 .null)
  | c =>
    checkNoArguments c.name args keywords
    return c.plain?.getD .generic

end Laminar
