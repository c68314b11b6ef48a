import Laminar.Layer.Instance
import Laminar.Primitive
import Laminar.Table

/-!
# Registries

A registry maps callee names to generators.  A generator makes of a call either one instruction (a
primitive) or a block that is expanded further (a composite, that is, a layer).  Besides the
standard primitives there may be constructors of the user's own, which yield any value, and
generators that do nothing but refuse.

* `Generator` is what a name resolves to.
* `Registry` is a table of generators; `Registry.primitives` holds the standard primitives.
-/

namespace Laminar

/-- A constructor of the user's own: from positional and named values to a value. -/
abbrev CustomConstructor := List Value → List (String × Value) → Except Failure Value

/-- What a generator does. -/
inductive GeneratorBody where
  | primitive (p : Primitive)
  | custom (f : CustomConstructor)
  | composite (d : Definition)
  /-- Refuses every call. -/
  | abstract

/-- A generator with the name it was registered under. -/
structure Generator where
  name : String
  body : GeneratorBody

/-- The kind of a generator. -/
def Generator.kind? (g : Generator) : Option String :=
  match g.body with
  | .primitive _ | .custom _ => some "primitive"
  | .composite _ => some "composite"
  | .abstract => none

/-- A one-line description. -/
def Generator.summary (g : Generator) : String :=
  "<" ++ g.kind?.getD "None" ++ " " ++ g.name ++ ">"

/-- How many inputs a net of the generator has if nobody says. -/
def Generator.defaultInputs (g : Generator) : Nat :=
  match g.body with
  | .primitive p => p.defaultInputs
  | .custom _ => 0
  | .composite d => d.signature.inputs.length
  | .abstract => 1

/-- A table of generators by name. -/
abbrev Registry := Table Generator

namespace Registry

/-- Register a generator under its name, in the place of an earlier one. -/
def register (r : Registry) (g : Generator) : Registry := r.insert g.name g

/-- Register a layer under its name. -/
def registerLayer (r : Registry) (d : Definition) : Registry :=
  r.register { name := d.name, body := .composite d }

/-- The registry that holds the standard primitives. -/
def primitives : Registry :=
  Primitive.all.foldl (fun r p => r.register { name := p.name, body := .primitive p }) Table.empty

/-- The generator that a value names.  Only a text names one; a value without a hash cannot be
looked up at all. -/
def lookup (r : Registry) (v : Value) : Except Fault (Option Generator) :=
  match v.bare with
  | .str name => pure (r.get? name)
  | v => do
    v.checkHashable
    return none

/-- The generator that a value names, which must be registered. -/
def fetch (r : Registry) (name : Value) : Except Fault Generator := do
  match ← r.lookup name with
  | some g => return g
  | none => throw (.missingKey name)

@[simp]
theorem lookup_str (r : Registry) (name : String) : r.lookup (.str name) = .ok (r.get? name) := rfl

/-- A registered generator is found under its name and changes no other name. -/
theorem get?_register (r : Registry) (g : Generator) (name : String) :
    (r.register g).get? name = if g.name = name then some g else r.get? name :=
  Table.get?_insert r g.name name g

end Registry

end Laminar
