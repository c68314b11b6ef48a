import Laminar.Value.Basic

/-!
# Values as objects

An object is a value that is wrapped by `Value.kept` with its identity.  A value gets its identity
where it comes into being, and keeps it wherever it goes: as an item of a list, under a name, as a
setting of an initializer.

**Shared values.** Of some values there is only one object each, wherever they come from: small
whole numbers, the truth values, texts of no or one simple character, the empty tuple, classes and
functions.  They need no wrapper.

**Numbers.** Objects are numbered one after the other.  Those that last have numbers of their own in
a workspace.  Those that are made on the way through a call are numbered from the least number that
no object in the call has, so that their numbers depend on nothing else.

* `Value.identical` decides whether two values are one object.
* `Value.labelled` and `Node.labelled` give a number to every object that has none.
* `Value.asConstant` is a constant of a source text as an object.
* `Value.passing` and `Node.passing` are the first number that is free in a value and a node.
* `Value.unlabelled` is a value whose objects do not matter any more.
-/

namespace Laminar

/-! ### Identity -/

/-- Is there only one object of a value, which needs no wrapper? -/
def Value.isShared : Value → Bool
  | .null | .ellipsis | .bool _ | .fixed (.bool _) | .builtin _ | .initClass _ | .layer ..
  | .tuple [] | .bytes [] | .bytes [_] => true
  | .int n => -5 ≤ n && n ≤ 256
  | .str s => s.length = 0 || (s.length = 1 && s.toList.all (·.toNat < 256))
  | _ => false

mutual

/-- Have two values the same type and content? Only shared values and constants are compared so. -/
def Value.sameContent : Value → Value → Bool
  | .kept _ v, w => v.sameContent w
  | .tuple a, w =>
    match w.bare with
    | .tuple b => sameContents a b
    | _ => false
  | v, w =>
    match v, w.bare with
    | .null, .null => true
    | .ellipsis, .ellipsis => true
    | .bool a, .bool b => a == b
    | .int a, .int b => a == b
    | .float x, .float y => x.toBits == y.toBits
    | .complex z, .complex w => z.re.toBits == w.re.toBits && z.im.toBits == w.im.toBits
    | .fixed (.bool a), .fixed (.bool b) => a == b
    | .str s, .str t => s == t
    | .bytes a, .bytes b => a == b
    | .builtin a, .builtin b => a == b
    | .initClass a, .initClass b => a == b
    | .layer _ a, .layer _ b => a == b
    | _, _ => false
termination_by structural v => v

/-- Have the items of two lists the same types and contents? -/
def sameContents : List Value → List Value → Bool
  | [], [] => true
  | v :: vs, w :: ws => v.sameContent w && sameContents vs ws
  | _, _ => false
termination_by structural vs => vs

end

/-- Are two values one and the same object? -/
def Value.identical (v w : Value) : Bool :=
  match v, w with
  | .kept a x, .kept b y =>
    a == b && match a with
      | .new => false
      | .object .. => true
      | .constant .. | .word => x.sameContent y
  | .kept .., _ | _, .kept .. => false
  | v, w => v.isShared && v.sameContent w

/-- A value as an object of its own, also if it is of a kind that is shared as a rule. -/
def Value.made (v : Value) : Value := .kept .new v.bare

/-! ### Constants -/

/-- May a constant text be part of a name? -/
def isNameText (s : String) : Bool := s.toList.all fun c => c.isAlphanum || c == '_'

mutual

/-- A constant as an object; `id` is the identity of constants.  Not-a-number is no object that
another constant could be. -/
def Value.asConstant (id : Identity) : Value → Value
  | .str s =>
    if s.length = 0 then .str s
    else if isNameText s then .kept .word (.str s)
    else if (Value.str s).isShared then .str s
    else .kept id (.str s)
  | .tuple [] => .tuple []
  | .tuple (v :: vs) => .kept id (.tuple (v.asConstant id :: asConstants id vs))
  | .float x => .kept (if x.isNaN then .new else id) (.float x)
  | .complex z => .kept (if z.re.isNaN || z.im.isNaN then .new else id) (.complex z)
  | .kept _ v => v.asConstant id
  | v => if v.isShared then v else .kept id v
termination_by structural v => v

/-- Constants as objects. -/
def asConstants (id : Identity) : List Value → List Value
  | [] => []
  | v :: vs => v.asConstant id :: asConstants id vs
termination_by structural vs => vs

end

/-! ### Numbering -/

mutual

/-- A value with every object in it numbered, from `n` on, and the number after the last.  The items
of an array of numbers are no objects. -/
def Value.labelled (lasting : Bool) (n : Nat) : Value → Value × Nat
  | .kept .new v =>
    let (w, m) := v.labelled lasting n
    (.kept (.object lasting m) w.bare, m + 1)
  | .kept id v => (.kept id v, n)
  | .list items =>
    let (items, m) := labelledList lasting (n + 1) [] items
    (.kept (.object lasting n) (.list items), m)
  | .tuple [] => (.tuple [], n)
  | .tuple (v :: vs) =>
    let (v, m) := v.labelled lasting (n + 1)
    let (items, m) := labelledList lasting m [v] vs
    (.kept (.object lasting n) (.tuple items), m)
  | .set items =>
    let (items, m) := labelledList lasting (n + 1) [] items
    (.kept (.object lasting n) (.set items), m)
  | .dict entries =>
    let (entries, m) := labelledEntries lasting (n + 1) [] entries
    (.kept (.object lasting n) (.dict entries), m)
  | .array none shape items =>
    let (items, m) := labelledList lasting (n + 1) [] items
    (.kept (.object lasting n) (.array none shape items), m)
  | .initializer i =>
    let (i, m) := i.labelled lasting (n + 1)
    (.kept (.object lasting n) (.initializer i), m)
  | .op o =>
    let (o, m) := o.labelled lasting (n + 1)
    (.kept (.object lasting n) (.op o), m)
  | .node node =>
    let (node, m) := node.labelled lasting (n + 1)
    (.kept (.object lasting n) (.node node), m)
  | .getter dict =>
    let (dict, m) := dict.labelled lasting (n + 1)
    (.kept (.object lasting n) (.getter dict), m)
  | v => if v.isShared then (v, n) else (.kept (.object lasting n) v, n + 1)
termination_by structural v => v

/-- Items with every object numbered, behind those that are done already, the last one first. -/
def labelledList (lasting : Bool) (n : Nat) (done : List Value) : List Value → List Value × Nat
  | [] => (done.reverse, n)
  | v :: vs =>
    let (v, m) := v.labelled lasting n
    labelledList lasting m (v :: done) vs
termination_by structural vs => vs

/-- Entries of a dictionary with every object numbered, behind those that are done already. -/
def labelledEntries (lasting : Bool) (n : Nat) (done : List (Value × Value)) :
    List (Value × Value) → List (Value × Value) × Nat
  | [] => (done.reverse, n)
  | (k, v) :: es =>
    let (k, m) := k.labelled lasting n
    let (v, m) := v.labelled lasting m
    labelledEntries lasting m ((k, v) :: done) es
termination_by structural es => es

/-- Named values with every object numbered. -/
def labelledNamed (lasting : Bool) (n : Nat) : List (String × Value) → List (String × Value) × Nat
  | [] => ([], n)
  | (k, v) :: es =>
    let (v, m) := v.labelled lasting n
    let (es, m) := labelledNamed lasting m es
    ((k, v) :: es, m)
termination_by structural es => es

/-- An initializer with every object numbered. -/
def Initializer.labelled (lasting : Bool) (n : Nat) : Initializer → Initializer × Nat
  | .base => (.base, n)
  | .gaussian mean std =>
    let (mean, m) := mean.labelled lasting n
    let (std, m) := std.labelled lasting m
    (.gaussian mean std, m)
  | .uniform low high =>
    let (low, m) := low.labelled lasting n
    let (high, m) := high.labelled lasting m
    (.uniform low high, m)
  | .constant value =>
    let (value, m) := value.labelled lasting n
    (.constant value, m)
  | .xavier => (.xavier, n)
termination_by structural i => i

/-- An operator with every object numbered. -/
def Op.labelled (lasting : Bool) (n : Nat) : Op → Op × Nat
  | .par dims init opts =>
    let (dims, m) := labelledList lasting n [] dims
    let (init, m) := init.labelled lasting m
    let (opts, m) := labelledNamed lasting m opts
    (.par dims init opts, m)
  | .drop rate =>
    let (rate, m) := rate.labelled lasting n
    (.drop rate, m)
  | .generic => (.generic, n)
  | .input => (.input, n)
  | .arr value => (.arr value, n)
  | .dot => (.dot, n)
  | .add => (.add, n)
  | .mul => (.mul, n)
  | .relu => (.relu, n)
  | .sigm => (.sigm, n)
  | .tanh => (.tanh, n)
  | .soft => (.soft, n)
termination_by structural o => o

/-- A node with every object numbered that a call hands on or that is compared: constants, deferred
expressions and the names they take along. -/
def Node.labelled (lasting : Bool) (n : Nat) : Node → Node × Nat
  | .const value =>
    let (value, m) := value.labelled lasting n
    (.const value, m)
  | .deferred text expr scope names .new =>
    let (names, m) := labelledNamed lasting (n + 1) names
    (.deferred text expr scope names (.object lasting n), m)
  | .deferred text expr scope names id =>
    let (names, m) := labelledNamed lasting n names
    (.deferred text expr scope names id, m)
  | .parameters entries =>
    let (entries, m) := labelledParameters lasting n entries
    (.parameters entries, m)
  | .call callee args =>
    let (args, m) := labelledNodes lasting n args
    (.call callee args, m)
  | .assign target value =>
    let (value, m) := value.labelled lasting n
    (.assign target value, m)
  | .block statements =>
    let (statements, m) := labelledNodes lasting n statements
    (.block statements, m)
  | .symbol name => (.symbol name, n)
  | .placeholder name => (.placeholder name, n)
  | .splat name => (.splat name, n)
  | .line number file => (.line number file, n)
  | .raw value => (.raw value, n)
termination_by structural n => n

/-- Nodes with every object numbered. -/
def labelledNodes (lasting : Bool) (n : Nat) : List Node → List Node × Nat
  | [] => ([], n)
  | node :: ns =>
    let (node, m) := node.labelled lasting n
    let (ns, m) := labelledNodes lasting m ns
    (node :: ns, m)
termination_by structural ns => ns

/-- An entry of a parameter block with every object numbered. -/
def Entry.labelled (lasting : Bool) (n : Nat) : Entry → Entry × Nat
  | .keyword name value =>
    let (value, m) := value.labelled lasting n
    (.keyword name value, m)
  | .other node =>
    let (node, m) := node.labelled lasting n
    (.other node, m)
termination_by structural e => e

/-- Entries of a parameter block with every object numbered. -/
def labelledParameters (lasting : Bool) (n : Nat) : List Entry → List Entry × Nat
  | [] => ([], n)
  | e :: es =>
    let (e, m) := e.labelled lasting n
    let (es, m) := labelledParameters lasting m es
    (e :: es, m)
termination_by structural es => es

end

/-! ### Numbers in use -/

/-- The least number above that of an object on its way through a call. -/
def Identity.passing : Identity → Nat
  | .object false n | .constant false n => n + 1
  | _ => 0

mutual

/-- The larger of a bound and the least number above all objects in a value that are on their way
through a call. -/
def Value.passing (bound : Nat) : Value → Nat
  | .kept id v => v.passing (max bound id.passing)
  | .list items => passingList bound items
  | .tuple items => passingList bound items
  | .set items => passingList bound items
  | .array _ _ items => passingList bound items
  | .dict entries => passingEntries bound entries
  | .initializer i => i.passing bound
  | .op o => o.passing bound
  | .node n => n.passing bound
  | .getter dict => dict.passing bound
  | _ => bound
termination_by structural v => v

/-- The same for items. -/
def passingList (bound : Nat) : List Value → Nat
  | [] => bound
  | v :: vs => passingList (v.passing bound) vs
termination_by structural vs => vs

/-- The same for entries of a dictionary. -/
def passingEntries (bound : Nat) : List (Value × Value) → Nat
  | [] => bound
  | (k, v) :: es => passingEntries (v.passing (k.passing bound)) es
termination_by structural es => es

/-- The same for named values. -/
def passingNamed (bound : Nat) : List (String × Value) → Nat
  | [] => bound
  | (_, v) :: es => passingNamed (v.passing bound) es
termination_by structural es => es

/-- The same for an initializer. -/
def Initializer.passing (bound : Nat) : Initializer → Nat
  | .gaussian mean std => std.passing (mean.passing bound)
  | .uniform low high => high.passing (low.passing bound)
  | .constant value => value.passing bound
  | .base => bound
  | .xavier => bound
termination_by structural i => i

/-- The same for an operator. -/
def Op.passing (bound : Nat) : Op → Nat
  | .par dims init opts => passingNamed (init.passing (passingList bound dims)) opts
  | .drop rate => rate.passing bound
  | _ => bound
termination_by structural o => o

/-- The same for a node. -/
def Node.passing (bound : Nat) : Node → Nat
  | .symbol name => name.passing bound
  | .const value => value.passing bound
  | .deferred _ _ _ names id => passingNamed (max bound id.passing) names
  | .parameters entries => passingParameters bound entries
  | .call callee args => passingNodes (callee.passing bound) args
  | .assign target value => value.passing (target.passing bound)
  | .block statements => passingNodes bound statements
  | .raw value => value.passing bound
  | .placeholder _ => bound
  | .splat _ => bound
  | .line .. => bound
termination_by structural n => n

/-- The same for nodes. -/
def passingNodes (bound : Nat) : List Node → Nat
  | [] => bound
  | n :: ns => passingNodes (n.passing bound) ns
termination_by structural ns => ns

/-- The same for an entry of a parameter block. -/
def Entry.passing (bound : Nat) : Entry → Nat
  | .keyword name value => value.passing (name.passing bound)
  | .other node => node.passing bound
termination_by structural e => e

/-- The same for entries of a parameter block. -/
def passingParameters (bound : Nat) : List Entry → Nat
  | [] => bound
  | e :: es => passingParameters (e.passing bound) es
termination_by structural es => es

end

/-! ### Values without objects -/

mutual

/-- A value with no object in it. -/
def Value.unlabelled : Value → Value
  | .kept _ v => v.unlabelled
  | .list items => .list (unlabelledList items)
  | .tuple items => .tuple (unlabelledList items)
  | .set items => .set (unlabelledList items)
  | .dict entries => .dict (unlabelledEntries entries)
  | .array level shape items => .array level shape (unlabelledList items)
  | .initializer i => .initializer i.unlabelled
  | .op o => .op o.unlabelled
  | v => v
termination_by structural v => v

/-- Items with no object in them. -/
def unlabelledList : List Value → List Value
  | [] => []
  | v :: vs => v.unlabelled :: unlabelledList vs
termination_by structural vs => vs

/-- Entries with no object in them. -/
def unlabelledEntries : List (Value × Value) → List (Value × Value)
  | [] => []
  | (k, v) :: es => (k.unlabelled, v.unlabelled) :: unlabelledEntries es
termination_by structural es => es

/-- An initializer with no object in it. -/
def Initializer.unlabelled : Initializer → Initializer
  | .base => .base
  | .gaussian mean std => .gaussian mean.unlabelled std.unlabelled
  | .uniform low high => .uniform low.unlabelled high.unlabelled
  | .constant value => .constant value.unlabelled
  | .xavier => .xavier
termination_by structural i => i

/-- An operator with no object in it. -/
def Op.unlabelled : Op → Op
  | .par dims init opts => .par (unlabelledList dims) init.unlabelled (unlabelledNamed opts)
  | .drop rate => .drop rate.unlabelled
  | o => o
termination_by structural o => o

/-- Named values with no object in them. -/
def unlabelledNamed : List (String × Value) → List (String × Value)
  | [] => []
  | (k, v) :: es => (k, v.unlabelled) :: unlabelledNamed es
termination_by structural es => es

end

/-- A text is shared or not, but it is no object by itself. -/
@[simp]
theorem Value.unlabelled_str (s : String) : (Value.str s).unlabelled = .str s := rfl

@[simp]
theorem Value.bare_str (s : String) : (Value.str s).bare = .str s := rfl

end Laminar
