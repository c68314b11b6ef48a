import Laminar.Call.Construct
import Laminar.Registry

/-!
# The standard layers

The layers that every default registry holds besides the primitives: `wdot` multiplies by a weight
matrix, `bias` adds a bias, `wb` does both, `wf` adds an activation that is given by name, `drop_wf`
drops inputs before that, and `mlp2` is a perceptron with one hidden layer and a softmax output.
Keywords that a layer does not know are handed on, so that all of them reach the weights in the end.

* `Registry.default` holds the primitives and the standard layers.
-/

namespace Laminar.Standard

/-- Layers that collect keywords collect them here. -/
def collector : String := "o"

/-- The signature of a layer with one input, parameters, and collected keywords. -/
def signature (params : List (String × Value)) : Signature :=
  { formals := ⟨"x", .standard, none⟩ :: params.map fun p => ⟨p.1, .standard, some p.2⟩
    collector := some collector }

/-- The table of names that expressions in source given as data see: the initializer classes. -/
def bareScope : ScopeId := 0

/-- A statement that binds a call of a fixed callee. -/
def statement (line : Nat) (target callee : String) (keywords : List KeywordTerm)
    (args : List Term) : BodyStatement :=
  { line, target, call := { callee := .fixed callee, keywords, args } }

/-- A layer of two statements, in one of the two sources of standard layers. -/
def layer (source : Nat) (name : String) (params : List (String × Value))
    (first second : BodyStatement) : Definition :=
  { name
    signature := signature params
    inner := [first]
    last := second
    surroundings := { globals := bareScope }
    file := .layers source }

/-- Multiplication by a weight matrix. -/
def wdot : Definition :=
  layer 0 "wdot" [("out", .int 0), ("winit", .initializer (.gaussian (.int 0) (.float 0.01)))]
    (statement 23 "w" "par" [.named "init" (.parameter "winit"), .forward]
      [.parameter "out", .literal (.int 0)])
    (statement 24 "y" "dot" [] [.symbol "w", .symbol "x"])

/-- Addition of a bias. -/
def bias : Definition :=
  layer 0 "bias" [("binit", .initializer (.constant (.int 0)))]
    (statement 30 "b" "par" [.named "init" (.parameter "binit"), .forward] [.literal (.int 0)])
    (statement 31 "y" "add" [] [.symbol "b", .symbol "x"])

/-- An affine layer. -/
def wb : Definition :=
  layer 0 "wb" []
    (statement 37 "y" "wdot" [.forward] [.symbol "x"])
    (statement 38 "z" "bias" [.forward] [.symbol "y"])

/-- An affine layer followed by an activation. -/
def wf : Definition :=
  layer 1 "wf" [("f", .str "relu")]
    (statement 15 "y" "wb" [.forward] [.symbol "x"])
    { line := 16, target := "z",
      call := { callee := .parameter "f", keywords := [], args := [.symbol "y"] } }

/-- Dropout on the input, then an affine layer with an activation. -/
def dropWf : Definition :=
  layer 1 "drop_wf" [("pdrop", .float 0.5)]
    (statement 22 "d" "drop" [.named "pdrop" (.parameter "pdrop")] [.symbol "x"])
    (statement 23 "y" "wf" [.forward] [.symbol "d"])

/-- A perceptron with one hidden layer. -/
def mlp2 : Definition :=
  layer 1 "mlp2" [("hidden", .int 64), ("out", .int 10), ("f", .str "relu")]
    (statement 33 "h" "wf"
      [.named "out" (.parameter "hidden"), .named "f" (.parameter "f"), .forward] [.symbol "x"])
    (statement 34 "y" "wf"
      [.named "out" (.parameter "out"), .named "f" (.literal (.str "soft")), .forward]
      [.symbol "h"])

/-- All standard layers, in the order a registry lists them. -/
def all : List Definition := [wdot, bias, wb, wf, dropWf, mlp2]

end Laminar.Standard

namespace Laminar

/-- The registry of the primitives and the standard layers. -/
def Registry.default : Registry := Standard.all.foldl Registry.registerLayer Registry.primitives

/-- A default registry lists the primitives, then the standard layers. -/
theorem Registry.names_default : Registry.default.names =
    ["par", "arr", "dot", "add", "mul", "relu", "sigm", "tanh", "soft", "drop",
      "wdot", "bias", "wb", "wf", "drop_wf", "mlp2"] := by decide

end Laminar
