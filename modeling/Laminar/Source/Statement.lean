import Laminar.Source.Expr

/-!
# Statements of layer source

The statements of a source text.  Most of them are read only to be refused with their own text in
the message: a layer body consists of assignments of calls, and `pass`.  At the top of a text stand
imports, assignments of globals and function definitions.

* `Statement` is the tree; every statement knows the line of its first token.
-/

namespace Laminar.Source

/-- A statement. -/
inductive Statement where
  | assign (line : Nat) (targets : List Expr) (value : Expr)
  | augment (line : Nat) (target : Expr) (op : BinaryOp) (value : Expr)
  /-- An annotation; `bare` says that the target stands without parentheses. -/
  | annotate (line : Nat) (bare : Bool) (target annotation : Expr) (value : Option Expr)
  | expression (line : Nat) (value : Expr)
  | pass (line : Nat)
  | returns (line : Nat) (value : Option Expr)
  | deletes (line : Nat) (targets : List Expr)
  | asserts (line : Nat) (test : Expr) (message : Option Expr)
  | raises (line : Nat) (value cause : Option Expr)
  | globals (line : Nat) (names : List String)
  | importModules (line : Nat) (names : List (String × Option String))
  /-- Names of a module, whose own name may begin with points. -/
  | importNames (line : Nat) (source : String) (names : List (String × Option String))
  | branch (line : Nat) (test : Expr) (body orelse : List Statement)
  | forLoop (line : Nat) (target iterable : Expr) (body orelse : List Statement)
  | whileLoop (line : Nat) (test : Expr) (body orelse : List Statement)
  | breaks (line : Nat)
  | continues (line : Nat)
  /-- A function definition.  `line` is the line of `def`; the decorators stand above it. -/
  | function (line : Nat) (isAsync : Bool) (decorators : List Expr) (name : String)
      (params : List Parameter) (body : List Statement)

/-- The line of a statement. -/
def Statement.line : Statement → Nat
  | .assign line .. | .augment line .. | .annotate line .. | .expression line _ | .pass line
  | .returns line _ | .deletes line _ | .asserts line .. | .raises line .. | .globals line _
  | .importModules line _ | .importNames line .. | .branch line .. | .forLoop line ..
  | .whileLoop line .. | .breaks line | .continues line | .function line .. => line

end Laminar.Source
