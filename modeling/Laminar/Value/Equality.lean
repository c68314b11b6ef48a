import Laminar.Fault
import Laminar.Numeric.Binary
import Laminar.Numeric.Range
import Laminar.Numeric.Single
import Laminar.Value.Identity
import Laminar.Value.Writable

/-!
# Equality and hashing of values

**Equality.** Numbers are equal by value whatever their type: `1`, `1.0` and the truth value one are
equal, exactly, for integers of any size; only where a number of fixed width meets a float both are
taken as floats.  Lists and tuples are equal item by item and never to each other; dictionaries and
sets are equal when they have the same entries in any order, where a key is found by its hash and by
equality.  Ranges are equal when they hold the same numbers, initializers and operators when they
are of the same class and their settings are equal.

**Identity.** Inside a container, values also count as equal if they are the same object, whatever
equality says.  Deferred expressions are equal only if they are the same object, and so are the
look-up functions of dictionaries if the dictionaries are.

**Hashing.** A hash is modelled by the data it is computed from (`HashKey`): two values hash alike
when their keys are the same.  Lists and dictionaries have no hash.  An operator hashes by its class
and the text of its settings, if there is one, an initializer by its class and the keys of its
settings; so equal operators need not hash alike, while equal initializers do.

* `Value.hashKey` is the hash, `Value.sameHash` compares hashes.
* `Value.eq` is equality, `Value.same` equality or identity, `Value.sameKey` what a dictionary
  compares by.
-/

namespace Laminar

/-- A value as a number. -/
inductive Number where
  | int (n : Int)
  | float (x : Float)
  | complex (z : Complex)
  deriving DecidableEq

/-- A number of fixed width as a number. -/
def Fixed.number : Fixed → Number
  | .bool b => .int (if b then 1 else 0)
  | .int n => .int n
  | .single x | .float x => .float x
  | .complex z => .complex z

/-- The number a value is, if it is one. -/
def Value.number? (v : Value) : Option Number :=
  match v.bare with
  | .bool b => some (.int (if b then 1 else 0))
  | .int n => some (.int n)
  | .float x => some (.float x)
  | .complex z => some (.complex z)
  | .fixed n => some n.number
  | _ => none

/-- Is a value a number of fixed width? -/
def Value.isFixed (v : Value) : Bool :=
  match v.bare with
  | .fixed _ => true
  | _ => false

/-- Is a value a number of single precision? -/
def Value.isSingle (v : Value) : Bool :=
  match v.bare with
  | .fixed (.single _) => true
  | _ => false

/-- Is a value an array? -/
def Value.isArray (v : Value) : Bool :=
  match v.bare with
  | .array .. => true
  | _ => false

/-- The whole number that a float equals. -/
def wholeFloat? (x : Float) : Option Int :=
  match Binary.decode x with
  | .finite d => if d.isWhole then some d.truncate else none
  | _ => none

/-- The whole number that a number equals. -/
def Number.whole? : Number → Option Int
  | .int n => some n
  | .float x => wholeFloat? x
  | .complex z => if z.im == 0.0 then wholeFloat? z.re else none

/-- Equality of real numbers by value. -/
def Number.eqReal : Number → Number → Bool
  | .int a, .int b => a == b
  | .float x, .float y => x == y
  | .int a, .float y => Binary.compareInt a y == some .eq
  | .float x, .int b => Binary.compareInt b x == some .eq
  | _, _ => false

/-- Equality of numbers by value.  A complex number equals a real one if it has no imaginary part.
-/
def Number.eq : Number → Number → Bool
  | .complex z, .complex w => z.eq w
  | .complex z, m => z.im == 0.0 && (Number.float z.re).eqReal m
  | n, .complex w => w.im == 0.0 && n.eqReal (.float w.re)
  | n, m => n.eqReal m

/-- Two numbers as they meet when one of them has fixed width: a whole number meets a float as the
float nearest to it. -/
def Number.meet (n m : Number) : Number × Number :=
  let nearest (a : Int) : Number := (Binary.ofInt a).elim (.int a) .float
  match n, m with
  | .int a, .float y => (nearest a, .float y)
  | .float x, .int b => (.float x, nearest b)
  | n, m => (n, m)

/-- A number in single precision. -/
def Number.rounded : Number → Number
  | .int n => .float (Binary.singleOfInt n).toFloat
  | .float x => .float (Binary.roundSingle x)
  | n => n

/-- Two values as numbers that meet.  A plain number meets one of single precision in single
precision. -/
def Value.meet? (v w : Value) : Option (Number × Number) :=
  match v.number?, w.number? with
  | some n, some m =>
    some (if v.isSingle && !w.isFixed then (n, m.rounded)
      else if w.isSingle && !v.isFixed then (n.rounded, m)
      else if v.isFixed || w.isFixed then n.meet m
      else (n, m))
  | _, _ => none

/-! ### Hashing -/

/-- The data a hash is computed from. -/
inductive HashKey where
  | null
  | int (n : Int)
  | float (bits : UInt64)
  | text (s : String)
  | bytes (b : List UInt8)
  | object (name : String)
  /-- The hash of an object that is known by nothing but its identity. -/
  | identity (id : Identity)
  | tuple (items : List HashKey)
  /-- A hash that no other value has. -/
  | unique

mutual

/-- Do two keys give the same hash? -/
def HashKey.same : HashKey → HashKey → Bool
  | .null, .null => true
  | .int a, .int b => a == b
  | .float a, .float b => a == b
  | .text a, .text b => a == b
  | .bytes a, .bytes b => a == b
  | .object a, .object b => a == b
  | .identity a, .identity b => a == b
  | .tuple a, .tuple b => sameKeys a b
  | _, _ => false
termination_by structural k => k

/-- Do keys give the same hashes one by one? -/
def sameKeys : List HashKey → List HashKey → Bool
  | [], [] => true
  | k :: ks, l :: ls => k.same l && sameKeys ks ls
  | _, _ => false
termination_by structural ks => ks

end

/-- The hash of an object with an identity, if its content gives none. -/
def HashKey.settle (id : Identity) : HashKey → HashKey
  | .unique => if id = .new then .unique else .identity id
  | k => k

/-- The hash of a float: a whole one hashes like the integer. -/
def floatHashKey (x : Float) : HashKey :=
  match Binary.decode x with
  | .nan => .unique
  | .infinite _ => .float x.toBits
  | .finite d => if d.isWhole then .int d.truncate else .float x.toBits

/-- The hash of a number. -/
def Number.hashKey : Number → HashKey
  | .int n => .int n
  | .float x => floatHashKey x
  | .complex z =>
    if z.re.isNaN || z.im.isNaN then .unique
    else if z.im == 0.0 then floatHashKey z.re
    else .tuple [.object "complex", floatHashKey z.re, .float z.im.toBits]

mutual

/-- The hash of a value, or the type that has none. -/
def Value.hashKey : Value → Except Fault HashKey
  | .null => pure .null
  | .ellipsis => pure (.object "...")
  | .bool b => pure (.int (if b then 1 else 0))
  | .int n => pure (.int n)
  | .float x => pure (Number.hashKey (.float x))
  | .complex z => pure (Number.hashKey (.complex z))
  | .fixed n => pure n.number.hashKey
  | .str s => pure (.text s)
  | .bytes b => pure (.bytes b)
  | .list _ => throw (.unhashable "list")
  | .tuple items => do return .tuple (← hashList items)
  | .set _ => throw (.unhashable "set")
  | .dict _ => throw (.unhashable "dict")
  | .range a b c =>
    let (n, first, step) := rangeKey a b c
    pure (.tuple [.object "range", .int n, first.elim .null .int, step.elim .null .int])
  | .array .. => throw (.unhashable "numpy.ndarray")
  | .initializer i => i.hashKey
  | .op o =>
    if o.writable then pure (.tuple [.text o.cls.name, .text o.keyText]) else throw .digitLimit
  | .node n => n.hashKey
  | .initClass c => pure (.object c.name)
  | .builtin name => pure (.object name)
  | .layer _ id => pure (.tuple [.object "layer", .int id])
  | .getter (.kept id _) => pure (.tuple [.object "get", HashKey.settle id .unique])
  | .getter _ => pure .unique
  | .kept id v => do return (← v.hashKey).settle id
termination_by structural v => v

/-- The hashes of values, up to the first that has none. -/
def hashList : List Value → Except Fault (List HashKey)
  | [] => pure []
  | v :: vs => do
    let k ← v.hashKey
    return k :: (← hashList vs)
termination_by structural vs => vs

/-- The hash of an initializer: its class and the hashes of its settings, by name. -/
def Initializer.hashKey : Initializer → Except Fault HashKey
  | .base => pure (.tuple [.text "Initializer", .tuple []])
  | .gaussian mean std => do
    let m ← mean.hashKey
    let s ← std.hashKey
    return .tuple [.text "Gaussian", .tuple [.tuple [.text "mean", m], .tuple [.text "std", s]]]
  | .uniform low high => do
    let h ← high.hashKey
    let l ← low.hashKey
    return .tuple [.text "Uniform", .tuple [.tuple [.text "high", h], .tuple [.text "low", l]]]
  | .constant value => do
    let v ← value.hashKey
    return .tuple [.text "Constant", .tuple [.tuple [.text "value", v]]]
  | .xavier => pure (.tuple [.text "Xavier", .tuple []])
termination_by structural i => i

/-- The hash of a node: the hashes of its parts. -/
def Node.hashKey : Node → Except Fault HashKey
  | .symbol name => do return .tuple [← name.hashKey]
  | .const value => do return .tuple [← value.hashKey]
  | .placeholder name => pure (.tuple [.text name])
  | .splat name => pure (.tuple [.text name])
  | .deferred _ _ _ _ id => pure (HashKey.settle id .unique)
  | .parameters entries => do return .tuple [.tuple (← hashParameters entries)]
  | .call callee args => do
    let c ← callee.hashKey
    return .tuple [c, .tuple (← hashNodes args)]
  | .assign target value => do
    let t ← target.hashKey
    return .tuple [t, ← value.hashKey]
  | .line number file =>
    pure (.tuple [.int number, match file with
      | .given none => .null
      | .given (some f) => .text f
      | .layers source => .tuple [.object "layers", .int source]])
  | .block statements => do return .tuple [.tuple (← hashNodes statements)]
  | .raw value => value.hashKey
termination_by structural n => n

/-- The hashes of nodes. -/
def hashNodes : List Node → Except Fault (List HashKey)
  | [] => pure []
  | n :: ns => do
    let k ← n.hashKey
    return k :: (← hashNodes ns)
termination_by structural ns => ns

/-- The hash of an entry. -/
def Entry.hashKey : Entry → Except Fault HashKey
  | .keyword name value => do
    let n ← name.hashKey
    return .tuple [n, ← value.hashKey]
  | .other node => node.hashKey
termination_by structural e => e

/-- The hashes of entries. -/
def hashParameters : List Entry → Except Fault (List HashKey)
  | [] => pure []
  | e :: es => do
    let k ← e.hashKey
    return k :: (← hashParameters es)
termination_by structural es => es

end

/-- Have two values the same hash? -/
def Value.sameHash (v w : Value) : Bool :=
  match v.hashKey, w.hashKey with
  | .ok k, .ok l => k.same l
  | _, _ => false

/-! ### Equality -/

/-- Equality of two values as numbers. -/
def Value.numbersEqual (v w : Value) : Bool :=
  match v.meet? w with
  | some (n, m) => n.eq m
  | none => false

mutual

/-- Equality of values. -/
def Value.eq : Value → Value → Bool
  | .kept _ v, w => v.eq w
  | .bool a, w => (Value.bool a).numbersEqual w
  | .int a, w => (Value.int a).numbersEqual w
  | .float a, w => (Value.float a).numbersEqual w
  | .complex a, w => (Value.complex a).numbersEqual w
  | .fixed a, w => (Value.fixed a).numbersEqual w
  | .list a, w =>
    match w.bare with
    | .list b => eqList a b
    | _ => false
  | .tuple a, w =>
    match w.bare with
    | .tuple b => eqList a b
    | _ => false
  | .set a, w =>
    match w.bare with
    | .set b => a.length == b.length && eqItems a b
    | _ => false
  | .dict a, w =>
    match w.bare with
    | .dict b => a.length == b.length && eqEntries a b
    | _ => false
  | .initializer a, w =>
    match w.bare with
    | .initializer b => a.eq b
    | _ => false
  | .op a, w =>
    match w.bare with
    | .op b => a.eq b
    | _ => false
  | .node a, w =>
    match w.bare with
    | .node b => a.eq b
    | _ => false
  | v, w =>
    match v, w.bare with
    | .null, .null => true
    | .ellipsis, .ellipsis => true
    | .str a, .str b => a == b
    | .bytes a, .bytes b => a == b
    | .range a b c, .range a' b' c' => rangeKey a b c == rangeKey a' b' c'
    | .initClass a, .initClass b => a == b
    | .builtin a, .builtin b => a == b
    | .layer _ a, .layer _ b => a == b
    | .getter a, .getter b => a.identical b
    | _, _ => false
termination_by structural v => v

/-- Equality item by item. -/
def eqList : List Value → List Value → Bool
  | [], [] => true
  | v :: vs, w :: ws => (v.identical w || v.eq w) && eqList vs ws
  | _, _ => false
termination_by structural vs => vs

/-- Is every item of the first list in the second? -/
def eqItems : List Value → List Value → Bool
  | [], _ => true
  | v :: vs, ws =>
    ws.any (fun w => v.identical w || (v.eq w && v.sameHash w)) && eqItems vs ws
termination_by structural vs => vs

/-- Is every entry of the first dictionary an entry of the second? -/
def eqEntries : List (Value × Value) → List (Value × Value) → Bool
  | [], _ => true
  | (k, v) :: es, fs =>
    fs.any (fun f =>
        (k.identical f.1 || (k.eq f.1 && k.sameHash f.1)) && (v.identical f.2 || v.eq f.2)) &&
      eqEntries es fs
termination_by structural es => es

/-- Is every entry of the first dictionary with text keys an entry of the second? -/
def eqNamed : List (String × Value) → List (String × Value) → Bool
  | [], _ => true
  | (k, v) :: es, fs =>
    fs.any (fun f => k == f.1 && (v.identical f.2 || v.eq f.2)) && eqNamed es fs
termination_by structural es => es

/-- Equality of initializers: the same class, equal settings. -/
def Initializer.eq : Initializer → Initializer → Bool
  | .base, .base => true
  | .gaussian a b, .gaussian a' b' =>
    (a.identical a' || a.eq a') && (b.identical b' || b.eq b')
  | .uniform a b, .uniform a' b' =>
    (a.identical a' || a.eq a') && (b.identical b' || b.eq b')
  | .constant a, .constant a' => a.identical a' || a.eq a'
  | .xavier, .xavier => true
  | _, _ => false
termination_by structural i => i

/-- Equality of operators: the same class, equal settings. -/
def Op.eq : Op → Op → Bool
  | .par dims init opts, .par dims' init' opts' =>
    eqList dims dims' && (init.identical init' || init.eq init') &&
      opts.length == opts'.length && eqNamed opts opts'
  | .arr t, .arr t' => t.shape == t'.shape && t.bytes == t'.bytes
  | .drop rate, .drop rate' => rate.identical rate' || rate.eq rate'
  | .generic, .generic => true
  | .input, .input => true
  | .dot, .dot => true
  | .add, .add => true
  | .mul, .mul => true
  | .relu, .relu => true
  | .sigm, .sigm => true
  | .tanh, .tanh => true
  | .soft, .soft => true
  | _, _ => false
termination_by structural o => o

/-- Equality of nodes. -/
def Node.eq : Node → Node → Bool
  | .symbol a, .symbol b => a.identical b || a.eq b
  | .const a, .const b => a.identical b || a.eq b
  | .placeholder a, .placeholder b => a == b
  | .splat a, .splat b => a == b
  | .parameters a, .parameters b => eqParameters a b
  | .deferred _ _ _ _ a, .deferred _ _ _ _ b => a != .new && a == b
  | .call f a, .call g b => (f.identical g || f.eq g) && eqNodes a b
  | .assign a b, .assign a' b' => a.eq a' && b.eq b'
  | .line n f, .line m g => n == m && f == g
  | .block a, .block b => eqNodes a b
  | .raw a, .raw b => a.identical b || a.eq b
  | _, _ => false
termination_by structural n => n

/-- Equality of nodes one by one. -/
def eqNodes : List Node → List Node → Bool
  | [], [] => true
  | n :: ns, m :: ms => n.eq m && eqNodes ns ms
  | _, _ => false
termination_by structural ns => ns

/-- Equality of entries. -/
def Entry.eq : Entry → Entry → Bool
  | .keyword k v, .keyword k' v' => (k.identical k' || k.eq k') && v.eq v'
  | .other n, .other m => n.eq m
  | _, _ => false
termination_by structural e => e

/-- Equality of entries one by one. -/
def eqParameters : List Entry → List Entry → Bool
  | [], [] => true
  | e :: es, f :: fs => e.eq f && eqParameters es fs
  | _, _ => false
termination_by structural es => es

end

/-- Are two values equal or the same object? Containers compare their items so. -/
def Value.same (v w : Value) : Bool := v.identical w || v.eq w

/-- Can a value be a key? The fault names the first part that has no hash. -/
def Value.checkHashable (v : Value) : Except Fault Unit := do
  let _ ← v.hashKey
  return ()

/-- Are two values the same key of a dictionary? Both the hash and equality count. -/
def Value.sameKey (v w : Value) : Bool :=
  v.same w && v.sameHash w

/-- Texts are the same key exactly when they are the same text. -/
@[simp]
theorem Value.sameKey_str (s t : String) : Value.sameKey (.str s) (.str t) = (s == t) := by
  cases h : s == t <;>
    simp_all [Value.sameKey, Value.same, Value.identical, Value.sameContent, Value.eq, Value.bare,
      Value.sameHash, Value.hashKey, HashKey.same, pure, Except.pure]

/-- The value under a key of a dictionary. -/
def lookupKey (key : Value) : List (Value × Value) → Option Value
  | [] => none
  | (k, v) :: es => if key.sameKey k then some v else lookupKey key es

/-- Set a key of a dictionary; a key that is there keeps its place and its spelling. -/
def insertKey (key value : Value) : List (Value × Value) → List (Value × Value)
  | [] => [(key, value)]
  | (k, v) :: es => if key.sameKey k then (k, value) :: es else (k, v) :: insertKey key value es

/-- Build a dictionary from entries in order; a later entry replaces the value of an earlier one. -/
def dictOfEntries (entries : List (Value × Value)) : Except Fault (List (Value × Value)) :=
  entries.foldlM (fun d e => do
    e.1.checkHashable
    return insertKey e.1 e.2 d) []

end Laminar
