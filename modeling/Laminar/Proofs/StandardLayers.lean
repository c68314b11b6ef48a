import Mathlib
import Laminar.Proofs.ClosedForm

/-!
# Closed forms of the standard layers

What the standard layers compile to, for all keywords.  A keyword that is given to `mlp2` goes down
through four levels of layers.  Each level takes the keywords that are its parameters and hands the
others on, in their order, and what is left in the end becomes the options of the weights.  So the
same keyword is used up on one branch and an option on the other.

* `given` is the value of a parameter, `without` are the keywords that are handed on.
* `Standard.bindCall_layer` binds a call of a standard layer, for any parameters.
* `leaves_wdot`, `leaves_bias`, `leaves_wb` and `leaves_wf` are the closed forms, each from the ones
  before it.
* `compileCall_mlp2` is the closed form of the perceptron: ten instructions and nine numbers.
-/

namespace Laminar

/-! ### Keywords -/

/-- The value of a parameter: the keyword of its name, or else its default. -/
def given (named : List (String × Value)) (p : String × Value) : Value :=
  (named.lookup p.1).getD p.2

/-- The keywords that have other names. -/
def without (names : List String) (named : List (String × Value)) : List (String × Value) :=
  named.filter (·.1 ∉ names)

section Keywords

variable {names : List String} {named : List (String × Value)} {p q : String × Value}

theorem given_cons_of_ne (h : p.1 ≠ q.1) : given (q :: named) p = given named p := by
  rw [given, List.lookup_cons, beq_false_of_ne h]
  rfl

theorem given_without (h : p.1 ∉ names) : given (without names named) p = given named p := by
  induction named with
  | nil => rfl
  | cons q named ih =>
    by_cases hq : q.1 ∈ names
    · have hne : p.1 ≠ q.1 := fun heq => h (heq ▸ hq)
      rw [without, List.filter_cons_of_neg (by simpa using hq), given_cons_of_ne hne]
      exact ih
    · rw [without, List.filter_cons_of_pos (by simpa using hq), given, given, List.lookup_cons,
        List.lookup_cons]
      cases p.1 == q.1
      · exact ih
      · rfl

theorem mem_keys_without {k : String} :
    k ∈ (without names named).map Prod.fst ↔ k ∈ named.map Prod.fst ∧ k ∉ names := by
  simp only [without, List.mem_map, List.mem_filter, decide_eq_true_iff]
  constructor
  · rintro ⟨p, ⟨hp, hnames⟩, rfl⟩
    exact ⟨⟨p, hp, rfl⟩, hnames⟩
  · rintro ⟨⟨p, hp, rfl⟩, hnames⟩
    exact ⟨p, ⟨hp, hnames⟩, rfl⟩

theorem without_eq_self (h : ∀ k ∈ names, k ∉ named.map Prod.fst) :
    without names named = named := by
  rw [without, List.filter_eq_self]
  intro p hp
  rw [decide_eq_true_iff]
  exact fun hmem => h p.1 hmem (List.mem_map_of_mem hp)

theorem without_cons_of_mem (h : q.1 ∈ names) : without names (q :: named) = without names named :=
  List.filter_cons_of_neg (by simpa using h)

theorem without_cons_of_notMem (h : q.1 ∉ names) :
    without names (q :: named) = q :: without names named :=
  List.filter_cons_of_pos (by simpa using h)

/-- Leaving out a keyword that is not given changes nothing. -/
theorem without_cons_names {k : String} (h : k ∉ named.map Prod.fst) :
    without (k :: names) named = without names named := by
  refine List.filter_congr fun p hp => ?_
  have hne : p.1 ≠ k := fun heq => h (heq ▸ List.mem_map_of_mem hp)
  simp [hne]

end Keywords

/-- Keywords that can be handed on to the weights: none of them is repeated, and none is named like
the input of a layer or like something that the weights are built from. -/
structure Forwardable (named : List (String × Value)) : Prop where
  nodup : (named.map Prod.fst).Nodup
  avoids : ∀ k ∈ ["x", "init", "dims", "self"], k ∉ named.map Prod.fst

namespace Forwardable

variable {named : List (String × Value)}

theorem without (h : Forwardable named) (names : List String) :
    Forwardable (without names named) where
  nodup := h.nodup.sublist (List.filter_sublist.map Prod.fst)
  avoids k hk hmem := h.avoids k hk (mem_keys_without.1 hmem).1

theorem cons (h : Forwardable named) {p : String × Value}
    (hp : p.1 ∉ ["x", "init", "dims", "self"]) (hnew : p.1 ∉ named.map Prod.fst) :
    Forwardable (p :: named) where
  nodup := List.nodup_cons.2 ⟨hnew, h.nodup⟩
  avoids k hk := by
    rw [List.map_cons, List.mem_cons, not_or]
    exact ⟨fun heq => hp (heq ▸ hk), h.avoids k hk⟩

end Forwardable

/-! ### Binding -/

namespace Standard

variable {params named : List (String × Value)}

theorem bindByName_params (params : List (String × Value)) :
    bindByName named (params.map fun p => ⟨p.1, .standard, some p.2⟩) =
      .ok (params.map fun p => (p.1, given named p)) := by
  induction params with
  | nil => rfl
  | cons p params ih =>
    rw [List.map_cons, bindByName, ih]
    cases h : named.lookup p.1 with
    | none => simp [given, h]
    | some v => simp [given, h]

/-- **Binding a standard layer.** The one positional value is the input, and every keyword is a
parameter or collected. -/
theorem bind_signature (hx : "x" ∉ named.map Prod.fst) (v : Value) :
    (signature params).bind [v] named =
      .ok { values := ("x", v) :: params.map fun p => (p.1, given named p)
            collected := without (params.map Prod.fst) named } := by
  have hfree : hasKeyword named "x" = false := by
    rw [hasKeyword, List.any_eq_false]
    intro k hk
    rw [beq_iff_eq]
    exact fun heq => hx (heq ▸ List.mem_map_of_mem hk)
  have hleft : bindFromLeft named (signature params).formals [v] =
      .ok ([("x", v)], params.map fun p => ⟨p.1, .standard, some p.2⟩) := by
    simp [signature, bindFromLeft, hfree]
  rw [Signature.bind_iff]
  refine ⟨_, _, _, hleft, bindByName_params params, rfl, ?_, fun h => by cases h⟩
  refine List.filter_congr fun k _ => ?_
  have hparam : (params.map fun p => (⟨p.1, .standard, some p.2⟩ : LayerFormal)).any
      (·.name == k.1) = decide (k.1 ∈ params.map Prod.fst) := by
    rw [Bool.eq_iff_iff, List.any_map, List.any_eq_true, decide_eq_true_iff, List.mem_map]
    simp only [Function.comp_apply, beq_iff_eq]
  rw [hparam, decide_not]

variable {source : Nat} {name : String} {first second : BodyStatement}

/-- **Calling a standard layer** on an input and an output that are texts. -/
theorem bindCall_layer (hx : "x" ∉ named.map Prod.fst) (x y : String) :
    (layer source name params first second).bindCall [.str x] (.str y) named =
      .ok ({ values := ("x", .str x) :: params.map fun p => (p.1, given named p)
             collected := without (params.map Prod.fst) named }, y) := by
  have hinputs : (signature params).inputs = ["x"] := by
    have hrest : (params.map fun p => (⟨p.1, .standard, some p.2⟩ : LayerFormal)).filter
        (·.isInput) = [] := by
      rw [List.filter_eq_nil_iff, List.forall_mem_map]
      exact fun p _ => Bool.false_ne_true
    rw [Signature.inputs, signature, List.filter_cons_of_pos rfl, hrest]
    rfl
  refine bind_eq_ok.2 ⟨_, liftFault_eq_ok.2 (bind_signature hx (.str x)), ?_⟩
  refine bind_eq_ok.2 ⟨(), ?_, rfl⟩
  change Definition.checkInputs name _ (signature params).inputs = _
  rw [hinputs]
  exact Definition.checkInputs_of_texts (List.forall_mem_singleton.2 ⟨.str x, x, rfl, rfl⟩)

end Standard

/-! ### Primitives -/

theorem Registry.names_default_primitive (p : Primitive) :
    Registry.default.Names (.str p.name) (.primitive p) := by
  cases p <;> exact ⟨_, _, rfl, rfl, rfl⟩

theorem Registry.names_default_layer {d : Definition} (hd : d ∈ Standard.all) :
    Registry.default.Names (.str d.name) (.composite d) := by
  simp only [Standard.all, List.mem_cons, List.not_mem_nil, or_false] at hd
  rcases hd with rfl | rfl | rfl | rfl | rfl | rfl <;> exact ⟨_, _, rfl, rfl, rfl⟩

section Primitives

variable {lib : Library} {depth : Nat}

theorem fillSlot_of_notMem {function name : String} {v : Value} {slots : List Slot}
    (h : name ∉ slots.map (·.1.name)) : fillSlot function name v slots = .ok none := by
  induction slots with
  | nil => rfl
  | cons s slots ih =>
    obtain ⟨formal, value⟩ := s
    rw [List.map_cons, List.mem_cons, not_or] at h
    unfold fillSlot
    rw [if_neg (Ne.symm h.1), ih h.2]
    rfl

/-- Keywords that name no formal are collected. -/
theorem bindKeywords_of_notMem {c : Constructor} (hcollects : c.collects = true)
    {slots : List Slot} {keywords : List (String × Value)}
    (h : ∀ k ∈ keywords, k.1 ∉ slots.map (·.1.name)) (options : List (String × Value)) :
    c.bindKeywords keywords slots options = .ok (slots, options ++ keywords) := by
  induction keywords generalizing options with
  | nil => rw [List.append_nil]; rfl
  | cons k keywords ih =>
    obtain ⟨hk, hrest⟩ := List.forall_mem_cons.1 h
    rw [Constructor.bindKeywords, fillSlot_of_notMem hk, ok_bind]
    simp only [hcollects, if_true]
    rw [ih hrest, List.append_assoc, List.singleton_append]

/-- Keywords that can be handed on become options. -/
theorem bindParameter_options {dims init : Value} {opts : List (String × Value)}
    (h : Forwardable opts) :
    bindParameter [dims, init] opts = .ok { values := [dims, init], options := opts } := by
  have hfree : ∀ k ∈ opts, k.1 ∉ ["self", "dims", "init"] := by
    intro k hk hmem
    refine h.avoids k.1 ?_ (List.mem_map_of_mem hk)
    revert hmem
    simp +contextual [or_imp]
  have hkeywords := @bindKeywords_of_notMem
    (classConstructor "Par" [⟨"dims", none⟩, ⟨"init", some .null⟩] true) rfl
    [(⟨"self", none⟩, some .null), (⟨"dims", none⟩, some dims), (⟨"init", some .null⟩, some init)]
    opts hfree []
  refine bind_eq_ok.2 ⟨⟨[.null, dims, init], opts⟩, ?_, rfl⟩
  exact bind_eq_ok.2 ⟨_, hkeywords, rfl⟩

/-- A value that is the size of a dimension. -/
def Value.IsSize (v : Value) (n : Int) : Prop := v.unlabelled.index? = some n ∧ 0 ≤ n

theorem mapM_dimension {dims : List Value} {sizes : List Int}
    (h : List.Forall₂ Value.IsSize dims sizes) :
    (dims.map Value.unlabelled).mapM Primitive.dimension = .ok (sizes.map .int) := by
  induction h with
  | nil => rfl
  | @cons v size dims sizes hv _ ih =>
    have hsize : Primitive.dimension v.unlabelled = .ok (.int size) := by
      unfold Primitive.dimension
      rw [hv.1]
      exact if_neg (not_lt.2 hv.2)
    rw [List.map_cons, List.mapM_cons, hsize, ok_bind, ih, ok_bind]
    rfl

theorem Forwardable.unlabelled {opts : List (String × Value)} (h : Forwardable opts) :
    Forwardable (unlabelledNamed opts) := by
  have hkeys : (unlabelledNamed opts).map Prod.fst = opts.map Prod.fst := by
    rw [unlabelledNamed_eq_map, List.map_map]
    rfl
  exact ⟨hkeys ▸ h.nodup, hkeys ▸ h.avoids⟩

/-- The instruction of a trainable array with an initializer. -/
theorem Primitive.parameter_of_sizes {dims : List Value} {sizes : List Int}
    (hdims : (dims.mapM Primitive.dimension) = .ok (sizes.map .int)) {init : Value}
    (hinit : init.bare ≠ .null) {opts : List (String × Value)} (hopts : Forwardable opts)
    (w : String) :
    Primitive.parameter (dims ++ [.str w]) (("init", init) :: opts) =
      .ok ⟨.par (sizes.map .int) init opts, [], .str w⟩ := by
  have hother : (("init", init) :: opts).filter (·.1 != "init") = opts := by
    rw [List.filter_cons_of_neg (by simp), List.filter_eq_self]
    intro k hk
    rw [bne_iff_ne]
    exact fun heq => hopts.avoids "init" (by simp) (heq ▸ List.mem_map_of_mem hk)
  have hop : Op.parameter (sizes.map .int) init opts = .par (sizes.map .int) init opts := by
    unfold Op.parameter
    split
    · rename_i h
      exact absurd h hinit
    · rfl
  unfold Primitive.parameter
  rw [List.getLast?_concat]
  simp only [List.dropLast_concat, hdims, hother]
  refine bind_eq_ok.2 ⟨_, rfl, ?_⟩
  refine bind_eq_ok.2 ⟨_, liftFault_eq_ok.2 (bindParameter_options hopts), ?_⟩
  exact mapError_eq_ok.2 (by rw [List.lookup_cons_self, Option.getD_some, hop]; rfl)

/-- **The weights.** -/
theorem leaves_par (hlib : lib.registry = Registry.default) {dims : List Value} {sizes : List Int}
    (hdims : List.Forall₂ Value.IsSize dims sizes) {init : Value}
    (hinit : init.unlabelled ≠ .null) {opts : List (String × Value)} (hopts : Forwardable opts)
    (w : String) (n : Int) :
    Leaves lib (depth + 1) ⟨"par", dims, ("init", init) :: opts, w⟩ n n
      [⟨.par (sizes.map .int) init.unlabelled (unlabelledNamed opts), [], .str w⟩] := by
  refine leaves_primitive (hlib ▸ Registry.names_default_primitive .par) ?_ n
  have hnull : init.unlabelled.bare ≠ .null := by rwa [Value.bare_unlabelled]
  have hweights := Primitive.parameter_of_sizes (mapM_dimension hdims) hnull hopts.unlabelled w
  rw [unlabelledList_eq_map, List.map_append]
  exact hweights

/-- Operators with two operands. -/
theorem leaves_dot (hlib : lib.registry = Registry.default) (a b y : String) (n : Int) :
    Leaves lib (depth + 1) ⟨"dot", [.str a, .str b], [], y⟩ n n
      [⟨.dot, [.str a, .str b], .str y⟩] :=
  leaves_primitive (hlib ▸ Registry.names_default_primitive .dot) rfl n

theorem leaves_add (hlib : lib.registry = Registry.default) (a b y : String) (n : Int) :
    Leaves lib (depth + 1) ⟨"add", [.str a, .str b], [], y⟩ n n
      [⟨.add, [.str a, .str b], .str y⟩] :=
  leaves_primitive (hlib ▸ Registry.names_default_primitive .add) rfl n

/-- The activations by name. -/
def activations : List (String × Op) :=
  [("relu", .relu), ("sigm", .sigm), ("tanh", .tanh), ("soft", .soft)]

theorem leaves_activation (hlib : lib.registry = Registry.default) {f : String × Op}
    (hf : f ∈ activations) (a y : String) (n : Int) :
    Leaves lib (depth + 1) ⟨f.1, [.str a], [], y⟩ n n [⟨f.2, [.str a], .str y⟩] := by
  simp only [activations, List.mem_cons, List.not_mem_nil, or_false] at hf
  rcases hf with rfl | rfl | rfl | rfl
  · exact leaves_primitive (hlib ▸ Registry.names_default_primitive .relu) rfl n
  · exact leaves_primitive (hlib ▸ Registry.names_default_primitive .sigm) rfl n
  · exact leaves_primitive (hlib ▸ Registry.names_default_primitive .tanh) rfl n
  · exact leaves_primitive (hlib ▸ Registry.names_default_primitive .soft) rfl n

end Primitives

/-! ### Layers -/

section Layers

open Standard

variable {lib : Library} {depth : Nat} {named : List (String × Value)}

/-- The default initializers of weights and of biases. -/
def weightDefault : Value := .initializer (.gaussian (.int 0) (.float 0.01))

def biasDefault : Value := .initializer (.constant (.int 0))

theorem names_standard (hlib : lib.registry = Registry.default) {d : Definition}
    (hd : d ∈ Standard.all) : lib.registry.Names (.str d.name) (.composite d) :=
  hlib ▸ Registry.names_default_layer hd

/-- **Multiplication by weights.** -/
theorem leaves_wdot (hlib : lib.registry = Registry.default) (h : Forwardable named) {size : Int}
    (hsize : (given named ("out", .int 0)).IsSize size)
    (hinit : (given named ("winit", weightDefault)).unlabelled ≠ .null) (x y : String) (n : Int) :
    Leaves lib (depth + 2) ⟨"wdot", [.str x], named, y⟩ n (n + 1)
      [⟨.par [.int size, .int 0] (given named ("winit", weightDefault)).unlabelled
          (unlabelledNamed (without ["out", "winit"] named)), [], .str (mint "w" n)⟩,
        ⟨.dot, [.str (mint "w" n), .str x], .str y⟩] := by
  have hopts := h.without ["out", "winit"]
  have hsizes : List.Forall₂ Value.IsSize [given named ("out", .int 0), .int 0] [size, 0] :=
    .cons hsize (.cons ⟨rfl, le_rfl⟩ .nil)
  refine leaves_layer (names_standard hlib (d := wdot) (by simp [Standard.all]))
    (bindCall_layer (h.avoids "x" (by simp)) x y) (.cons ?_ (.cons ?_ .nil))
    (.cons (leaves_par hlib hsizes hinit hopts (mint "w" n) (n + 1))
      (.cons (leaves_dot hlib (mint "w" n) x y (n + 1)) (.nil (n + 1))))
  · refine becomes_block rfl rfl rfl (fillKeywords_named rfl (fillKeywords_forward rfl)) ?_ rfl
      (.cons (.inr rfl) (.cons (.inr rfl) .nil))
    exact List.nodup_cons.2 ⟨hopts.avoids "init" (by simp), hopts.nodup⟩
  · exact becomes_plain rfl rfl rfl rfl rfl (.cons (.inl rfl) (.cons (.inl rfl) .nil))

/-- **Addition of a bias.** -/
theorem leaves_bias (hlib : lib.registry = Registry.default) (h : Forwardable named)
    (hinit : (given named ("binit", biasDefault)).unlabelled ≠ .null) (x y : String) (n : Int) :
    Leaves lib (depth + 2) ⟨"bias", [.str x], named, y⟩ n (n + 1)
      [⟨.par [.int 0] (given named ("binit", biasDefault)).unlabelled
          (unlabelledNamed (without ["binit"] named)), [], .str (mint "b" n)⟩,
        ⟨.add, [.str (mint "b" n), .str x], .str y⟩] := by
  have hopts := h.without ["binit"]
  have hsizes : List.Forall₂ Value.IsSize [.int 0] [0] := .cons ⟨rfl, le_rfl⟩ .nil
  refine leaves_layer (names_standard hlib (d := bias) (by simp [Standard.all]))
    (bindCall_layer (h.avoids "x" (by simp)) x y) (.cons ?_ (.cons ?_ .nil))
    (.cons (leaves_par hlib hsizes hinit hopts (mint "b" n) (n + 1))
      (.cons (leaves_add hlib (mint "b" n) x y (n + 1)) (.nil (n + 1))))
  · refine becomes_block rfl rfl rfl (fillKeywords_named rfl (fillKeywords_forward rfl)) ?_ rfl
      (.cons (.inr rfl) .nil)
    exact List.nodup_cons.2 ⟨hopts.avoids "init" (by simp), hopts.nodup⟩
  · exact becomes_plain rfl rfl rfl rfl rfl (.cons (.inl rfl) (.cons (.inl rfl) .nil))

/-- Keywords with which an affine layer of a size can be built. -/
structure AffineKeywords (named : List (String × Value)) (size : Int) : Prop where
  forwardable : Forwardable named
  size : (given named ("out", .int 0)).IsSize size
  winit : (given named ("winit", weightDefault)).unlabelled ≠ .null
  binit : (given named ("binit", biasDefault)).unlabelled ≠ .null

/-- What an affine layer leaves: the weights, the product, the bias, the sum. -/
def affineProgram (named : List (String × Value)) (size : Int) (x y : String) (n : Int) : Program :=
  [⟨.par [.int size, .int 0] (given named ("winit", weightDefault)).unlabelled
      (unlabelledNamed (without ["out", "winit"] named)), [], .str (mint "w" (n + 1))⟩,
    ⟨.dot, [.str (mint "w" (n + 1)), .str x], .str (mint "y" n)⟩,
    ⟨.par [.int 0] (given named ("binit", biasDefault)).unlabelled
      (unlabelledNamed (without ["binit"] named)), [], .str (mint "b" (n + 2))⟩,
    ⟨.add, [.str (mint "b" (n + 2)), .str (mint "y" n)], .str y⟩]

/-- **An affine layer.** -/
theorem leaves_wb (hlib : lib.registry = Registry.default) {size : Int}
    (h : AffineKeywords named size) (x y : String) (n : Int) :
    Leaves lib (depth + 3) ⟨"wb", [.str x], named, y⟩ n (n + 3)
      (affineProgram named size x y n) := by
  have hcollected : without [] named = named := without_eq_self (by simp)
  have hwdot := @leaves_wdot lib depth _ hlib h.forwardable _ h.size h.winit x (mint "y" n) (n + 1)
  have hbias := @leaves_bias lib depth _ hlib h.forwardable h.binit (mint "y" n) y (n + 2)
  rw [show n + 1 + 1 = n + 2 by omega] at hwdot
  rw [show n + 2 + 1 = n + 3 by omega] at hbias
  refine leaves_layer (names_standard hlib (d := wb) (by simp [Standard.all]))
    (bindCall_layer (h.forwardable.avoids "x" (by simp)) x y) (.cons ?_ (.cons ?_ .nil))
    (.cons hwdot (.cons hbias (.nil (n + 3))))
  · exact becomes_block rfl rfl rfl (fillKeywords_forward hcollected) h.forwardable.nodup rfl
      (.cons (.inl rfl) .nil)
  · exact becomes_block rfl rfl rfl (fillKeywords_forward hcollected) h.forwardable.nodup rfl
      (.cons (.inl rfl) .nil)

/-- **An affine layer with an activation** that is given by name. -/
theorem leaves_wf (hlib : lib.registry = Registry.default) (hx : "x" ∉ named.map Prod.fst)
    {size : Int} (h : AffineKeywords (without ["f"] named) size) {f : String × Op}
    (hf : f ∈ activations) (hname : (given named ("f", .str "relu")).bare = .str f.1)
    (x y : String) (n : Int) :
    Leaves lib (depth + 4) ⟨"wf", [.str x], named, y⟩ n (n + 4)
      (affineProgram (without ["f"] named) size x (mint "y" n) (n + 1) ++
        [⟨f.2, [.str (mint "y" n)], .str y⟩]) := by
  have hwb := @leaves_wb lib depth _ hlib _ h x (mint "y" n) (n + 1)
  have hactivation := @leaves_activation lib (depth + 2) hlib f hf (mint "y" n) y (n + 4)
  rw [show n + 1 + 3 = n + 4 by omega] at hwb
  refine leaves_layer (names_standard hlib (d := wf) (by simp [Standard.all]))
    (bindCall_layer hx x y) (.cons ?_ (.cons ?_ .nil))
    (.cons hwb (.cons hactivation (.nil (n + 4))))
  · exact becomes_block rfl rfl rfl (fillKeywords_forward rfl) h.forwardable.nodup rfl
      (.cons (.inl rfl) .nil)
  · refine becomes_plain rfl (bind_eq_ok.2 ⟨_, rfl, ?_⟩) rfl rfl rfl (.cons (.inl rfl) .nil)
    rw [hname]
    rfl

/-! ### The perceptron -/

/-- **The program of the perceptron**, with the counter at `n`.  The keywords other than `hidden`,
`out` and `f` are handed on: `winit` is used up by the weights and an option of the biases, `binit`
the other way round. -/
def perceptronProgram (params : List (String × Value)) (hidden out : Int) (activation : Op)
    (x y : String) (n : Int) : Program :=
  let rest := without ["hidden", "out", "f"] params
  let weights (size : Int) : Op := .par [.int size, .int 0]
    (given params ("winit", weightDefault)).unlabelled (unlabelledNamed (without ["winit"] rest))
  let bias (size : Value) : Op := .par [.int 0] (given params ("binit", biasDefault)).unlabelled
    (unlabelledNamed (("out", size) :: without ["binit"] rest))
  [⟨weights hidden, [], .str (mint "w" (n + 3))⟩,
    ⟨.dot, [.str (mint "w" (n + 3)), .str x], .str (mint "y" (n + 2))⟩,
    ⟨bias (given params ("hidden", .int 64)), [], .str (mint "b" (n + 4))⟩,
    ⟨.add, [.str (mint "b" (n + 4)), .str (mint "y" (n + 2))], .str (mint "y" (n + 1))⟩,
    ⟨activation, [.str (mint "y" (n + 1))], .str (mint "h" n)⟩,
    ⟨weights out, [], .str (mint "w" (n + 7))⟩,
    ⟨.dot, [.str (mint "w" (n + 7)), .str (mint "h" n)], .str (mint "y" (n + 6))⟩,
    ⟨bias (given params ("out", .int 10)), [], .str (mint "b" (n + 8))⟩,
    ⟨.add, [.str (mint "b" (n + 8)), .str (mint "y" (n + 6))], .str (mint "y" (n + 5))⟩,
    ⟨.soft, [.str (mint "y" (n + 5))], .str y⟩]

/-- The affine layer of a perceptron, in terms of what the perceptron was given. -/
theorem affineProgram_perceptron (params : List (String × Value)) (size : Value) (m : Int)
    (x y : String) (n : Int) :
    affineProgram (("out", size) :: without ["hidden", "out", "f"] params) m x y n =
      [⟨.par [.int m, .int 0] (given params ("winit", weightDefault)).unlabelled
          (unlabelledNamed (without ["winit"] (without ["hidden", "out", "f"] params))), [],
          .str (mint "w" (n + 1))⟩,
        ⟨.dot, [.str (mint "w" (n + 1)), .str x], .str (mint "y" n)⟩,
        ⟨.par [.int 0] (given params ("binit", biasDefault)).unlabelled
          (unlabelledNamed (("out", size) ::
            without ["binit"] (without ["hidden", "out", "f"] params))), [],
          .str (mint "b" (n + 2))⟩,
        ⟨.add, [.str (mint "b" (n + 2)), .str (mint "y" n)], .str y⟩] := by
  have hout : "out" ∉ (without ["hidden", "out", "f"] params).map Prod.fst := fun hmem =>
    (mem_keys_without.1 hmem).2 (by simp)
  rw [affineProgram, given_cons_of_ne (by simp), given_without (by simp),
    given_cons_of_ne (by simp), given_without (by simp), without_cons_of_mem (by simp),
    without_cons_names hout, without_cons_of_notMem (by simp)]

/-- The program of the perceptron is that of two affine layers with activations. -/
theorem perceptronProgram_eq (params : List (String × Value)) (hidden out : Int) (activation : Op)
    (x y : String) (n : Int) :
    perceptronProgram params hidden out activation x y n =
      (affineProgram (("out", given params ("hidden", .int 64)) ::
          without ["hidden", "out", "f"] params) hidden x (mint "y" (n + 1)) (n + 1 + 1) ++
        [⟨activation, [.str (mint "y" (n + 1))], .str (mint "h" n)⟩]) ++
      ((affineProgram (("out", given params ("out", .int 10)) ::
          without ["hidden", "out", "f"] params) out (mint "h" n) (mint "y" (n + 5)) (n + 5 + 1) ++
        [⟨.soft, [.str (mint "y" (n + 5))], .str y⟩]) ++ []) := by
  rw [affineProgram_perceptron, affineProgram_perceptron]
  simp only [add_assoc]
  rfl

/-- Keywords with which a perceptron can be built. -/
structure PerceptronKeywords (params : List (String × Value)) (hidden out : Int)
    (activation : String × Op) : Prop where
  forwardable : Forwardable params
  hidden : (given params ("hidden", .int 64)).IsSize hidden
  out : (given params ("out", .int 10)).IsSize out
  name : (given params ("f", .str "relu")).bare = .str activation.1
  known : activation ∈ activations
  winit : (given params ("winit", weightDefault)).unlabelled ≠ .null
  binit : (given params ("binit", biasDefault)).unlabelled ≠ .null

namespace PerceptronKeywords

variable {params : List (String × Value)} {hidden out : Int} {activation : String × Op}

/-- The keywords that the affine layers of a perceptron get: a size, and what is handed on. -/
theorem affine (h : PerceptronKeywords params hidden out activation) {size : Value} {m : Int}
    (hsize : size.IsSize m) :
    AffineKeywords (("out", size) :: without ["hidden", "out", "f"] params) m where
  forwardable := (h.forwardable.without _).cons (by simp) fun hmem =>
    (mem_keys_without.1 hmem).2 (by simp)
  size := hsize
  winit := by
    rw [given_cons_of_ne (by simp), given_without (by simp)]
    exact h.winit
  binit := by
    rw [given_cons_of_ne (by simp), given_without (by simp)]
    exact h.binit

/-- With an activation, these are the keywords that `wf` is called with. -/
theorem forwardable_wf (h : PerceptronKeywords params hidden out activation) (size name : Value) :
    Forwardable (("out", size) :: ("f", name) :: without ["hidden", "out", "f"] params) := by
  have hnew : ∀ k ∈ ["hidden", "out", "f"],
      k ∉ (Laminar.without ["hidden", "out", "f"] params).map Prod.fst :=
    fun k hk hmem => (mem_keys_without.1 hmem).2 hk
  refine ((h.forwardable.without _).cons (by simp) (hnew "f" (by simp))).cons (by simp) ?_
  rw [List.map_cons, List.mem_cons, not_or]
  exact ⟨by simp, hnew "out" (by simp)⟩

/-- One layer of a perceptron. -/
theorem leaves_wf (h : PerceptronKeywords params hidden out activation)
    (hlib : lib.registry = Registry.default) {size : Value} {m : Int} (hsize : size.IsSize m)
    {name : Value} {f : String × Op} (hf : f ∈ activations) (hname : name.bare = .str f.1)
    (x y : String) (n : Int) :
    Leaves lib (depth + 4) ⟨"wf", [.str x],
        ("out", size) :: ("f", name) :: without ["hidden", "out", "f"] params, y⟩ n (n + 4)
      (affineProgram (("out", size) :: without ["hidden", "out", "f"] params) m x (mint "y" n)
        (n + 1) ++ [⟨f.2, [.str (mint "y" n)], .str y⟩]) := by
  have hrest : Laminar.without ["f"]
      (("out", size) :: ("f", name) :: without ["hidden", "out", "f"] params) =
        ("out", size) :: without ["hidden", "out", "f"] params := by
    rw [without_cons_of_notMem (by simp), without_cons_of_mem (by simp), without_eq_self]
    exact List.forall_mem_singleton.2 fun hmem => (mem_keys_without.1 hmem).2 (by simp)
  have hkeywords := h.affine hsize
  rw [← hrest] at hkeywords ⊢
  exact Laminar.leaves_wf hlib ((h.forwardable_wf size name).avoids "x" (by simp)) hkeywords hf
    hname x y n

/-- **The perceptron.** -/
theorem leaves_mlp2 (h : PerceptronKeywords params hidden out activation)
    (hlib : lib.registry = Registry.default) (x y : String) (n : Int) :
    Leaves lib (depth + 5) ⟨"mlp2", [.str x], params, y⟩ n (n + 9)
      (perceptronProgram params hidden out activation.2 x y n) := by
  have hsoft : ("soft", Op.soft) ∈ activations := by simp [activations]
  have hfirst := @leaves_wf lib depth _ _ _ _ h hlib _ _ h.hidden _ _ h.known h.name x
    (mint "h" n) (n + 1)
  have hsecond := @leaves_wf lib depth _ _ _ _ h hlib _ _ h.out (.str "soft") _ hsoft rfl
    (mint "h" n) y (n + 5)
  rw [show n + 1 + 4 = n + 5 by omega] at hfirst
  rw [show n + 5 + 4 = n + 9 by omega] at hsecond
  rw [perceptronProgram_eq]
  refine leaves_layer (names_standard hlib (d := mlp2) (by simp [Standard.all]))
    (bindCall_layer (h.forwardable.avoids "x" (by simp)) x y) (.cons ?_ (.cons ?_ .nil))
    (.cons hfirst (.cons hsecond (.nil (n + 9))))
  · exact becomes_block rfl rfl rfl
      (fillKeywords_named rfl (fillKeywords_named rfl (fillKeywords_forward rfl)))
      (h.forwardable_wf _ _).nodup rfl (.cons (.inl rfl) .nil)
  · exact becomes_block rfl rfl rfl
      (fillKeywords_named rfl (fillKeywords_named rfl (fillKeywords_forward rfl)))
      (h.forwardable_wf _ _).nodup rfl (.cons (.inl rfl) .nil)

end PerceptronKeywords

/-- **Keywords go through the standard layers** as they are.  For all keywords that a perceptron can
be built with, and with the counter at any number `n`: a call compiles exactly if the nine numbers
from `n` on can be written, and then it leaves the ten instructions of the perceptron. -/
theorem compileCall_mlp2 (hlib : lib.registry = Registry.default) (hdepth : 5 ≤ depth)
    {params : List (String × Value)} {hidden out : Int} {activation : String × Op}
    (h : PerceptronKeywords params hidden out activation) (x y : String) {c c' : Compiler}
    {prog : Program} :
    (compileCall lib depth (.str "mlp2") [.str x] (.str y) params).run c = (.ok prog, c') ↔
      Mintable c.counters.current (c.counters.current + 9) ∧
      prog = perceptronProgram params hidden out activation.2 x y c.counters.current ∧
      c' = { counters := c.counters.setCurrent (c.counters.current + 9) } := by
  obtain ⟨depth, rfl⟩ := Nat.exists_eq_add_of_le' hdepth
  exact (h.leaves_mlp2 hlib x y c.counters.current).compileCall_iff h.forwardable.nodup rfl

/-- Keywords for a perceptron, two of which no layer knows. -/
def tunedKeywords : List (String × Value) :=
  [("winit", .initializer .xavier), ("rate", .int 2), ("hidden", .int 3), ("y", .null),
    ("f", .str "tanh")]

/-- With the counter at `7` the perceptron is compiled.  With the counter eight numbers before one
that cannot be written it is not, although only the last of the numbers is in the way. -/
theorem compileCall_mlp2_tuned :
    (compileCall .standard 5 (.str "mlp2") [.str "x"] (.str "y") tunedKeywords).run
        { counters := { shared := 7 } } =
      (.ok (perceptronProgram tunedKeywords 3 10 .tanh "x" "y" 7),
        { counters := { shared := 16 } }) ∧
    ((compileCall .standard 5 (.str "mlp2") [.str "x"] (.str "y") tunedKeywords).run
        { counters := { shared := Decimal.digitBound - 8 } }).1.isOk = false := by
  have hkeywords : PerceptronKeywords tunedKeywords 3 10 ("tanh", .tanh) :=
    { forwardable := ⟨by decide, by decide⟩
      hidden := ⟨rfl, by decide⟩
      out := ⟨rfl, by decide⟩
      name := rfl
      known := by simp [activations]
      winit := nofun
      binit := nofun }
  have hlarge : 16 ≤ Decimal.digitBound := by decide +kernel
  constructor
  · refine (compileCall_mlp2 rfl le_rfl hkeywords "x" "y").2 ⟨⟨by decide, ?_⟩, rfl, rfl⟩
    intro k hle hlt
    have hlt : k < 16 := hlt
    have hle : 7 ≤ k := hle
    exact intWritable_of_lt (by omega)
  · rw [Bool.eq_false_iff]
    intro hok
    obtain ⟨prog, c', hrun⟩ := exists_of_isOk hok
    obtain ⟨⟨-, hwritable⟩, -⟩ := (compileCall_mlp2 rfl le_rfl hkeywords "x" "y").1 hrun
    have hcurrent : ({ counters := { shared := Decimal.digitBound - 8 } } :
      Compiler).counters.current = Decimal.digitBound - 8 := rfl
    rw [hcurrent] at hwritable
    have hnumber := hwritable Decimal.digitBound (by omega) (by omega)
    rw [intWritable, Int.natAbs_natCast, decide_eq_true_iff] at hnumber
    exact lt_irrefl _ hnumber

end Layers

end Laminar
