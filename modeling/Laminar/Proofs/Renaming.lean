import Mathlib
import Laminar.Proofs.Emission
import Laminar.Proofs.Minting

/-!
# Renaming registers

A minted name is a text like any other.  It stands for a register in an instruction, but it can also
be handed on as the value of a keyword, be collected, and end up inside the options of an operator.
So a renaming acts on everything a program is made of, wherever a text stands.

* `Value.rename`, `Op.rename` and `Instruction.rename` apply a function to every text.
* `Value.strings` lists these texts; `Value.rename_eq_self`: if all of them stay, so does the value.
* `Value.unlabelled_rename`, `Value.passing_rename`: a renaming does not touch objects.
* `renumber n m` is the renaming that matters: the name with number `n + i` becomes that with number
  `m + i`.

The source of a deferred expression is left alone: no minted name can be written there.
-/

namespace Laminar

/-! ### Texts -/

mutual

/-- The texts in a value. -/
def Value.strings : Value → List String
  | .str s => [s]
  | .list items => stringsList items
  | .tuple items => stringsList items
  | .set items => stringsList items
  | .array _ _ items => stringsList items
  | .dict entries => stringsEntries entries
  | .initializer i => i.strings
  | .op o => o.strings
  | .node n => n.strings
  | .getter dict => dict.strings
  | .kept _ v => v.strings
  | _ => []
termination_by structural v => v

/-- The texts in items. -/
def stringsList : List Value → List String
  | [] => []
  | v :: vs => v.strings ++ stringsList vs
termination_by structural vs => vs

/-- The texts in entries of a dictionary. -/
def stringsEntries : List (Value × Value) → List String
  | [] => []
  | (k, v) :: es => k.strings ++ v.strings ++ stringsEntries es
termination_by structural es => es

/-- The texts in named values, their names included. -/
def stringsNamed : List (String × Value) → List String
  | [] => []
  | (k, v) :: es => k :: v.strings ++ stringsNamed es
termination_by structural es => es

/-- The texts in an initializer. -/
def Initializer.strings : Initializer → List String
  | .gaussian mean std => mean.strings ++ std.strings
  | .uniform low high => low.strings ++ high.strings
  | .constant value => value.strings
  | .base => []
  | .xavier => []
termination_by structural i => i

/-- The texts in an operator. -/
def Op.strings : Op → List String
  | .par dims init opts => stringsList dims ++ init.strings ++ stringsNamed opts
  | .drop rate => rate.strings
  | _ => []
termination_by structural o => o

/-- The texts in a node. -/
def Node.strings : Node → List String
  | .symbol name => name.strings
  | .const value => value.strings
  | .placeholder name => [name]
  | .splat name => [name]
  | .deferred _ _ _ names _ => stringsNamed names
  | .parameters entries => stringsParameters entries
  | .call callee args => callee.strings ++ stringsNodes args
  | .assign target value => target.strings ++ value.strings
  | .block statements => stringsNodes statements
  | .raw value => value.strings
  | .line .. => []
termination_by structural n => n

/-- The texts in nodes. -/
def stringsNodes : List Node → List String
  | [] => []
  | n :: ns => n.strings ++ stringsNodes ns
termination_by structural ns => ns

/-- The texts in an entry of a parameter block. -/
def Entry.strings : Entry → List String
  | .keyword name value => name.strings ++ value.strings
  | .other node => node.strings
termination_by structural e => e

/-- The texts in entries of a parameter block. -/
def stringsParameters : List Entry → List String
  | [] => []
  | e :: es => e.strings ++ stringsParameters es
termination_by structural es => es

end

/-! ### Renaming -/

mutual

/-- A value with every text in it renamed. -/
def Value.rename (f : String → String) : Value → Value
  | .str s => .str (f s)
  | .list items => .list (renameList f items)
  | .tuple items => .tuple (renameList f items)
  | .set items => .set (renameList f items)
  | .array level shape items => .array level shape (renameList f items)
  | .dict entries => .dict (renameEntries f entries)
  | .initializer i => .initializer (i.rename f)
  | .op o => .op (o.rename f)
  | .node n => .node (n.rename f)
  | .getter dict => .getter (dict.rename f)
  | .kept id v => .kept id (v.rename f)
  | v => v
termination_by structural v => v

/-- Items with every text renamed. -/
def renameList (f : String → String) : List Value → List Value
  | [] => []
  | v :: vs => v.rename f :: renameList f vs
termination_by structural vs => vs

/-- Entries of a dictionary with every text renamed. -/
def renameEntries (f : String → String) : List (Value × Value) → List (Value × Value)
  | [] => []
  | (k, v) :: es => (k.rename f, v.rename f) :: renameEntries f es
termination_by structural es => es

/-- Named values with every text renamed, their names included. -/
def renameNamed (f : String → String) : List (String × Value) → List (String × Value)
  | [] => []
  | (k, v) :: es => (f k, v.rename f) :: renameNamed f es
termination_by structural es => es

/-- An initializer with every text renamed. -/
def Initializer.rename (f : String → String) : Initializer → Initializer
  | .gaussian mean std => .gaussian (mean.rename f) (std.rename f)
  | .uniform low high => .uniform (low.rename f) (high.rename f)
  | .constant value => .constant (value.rename f)
  | .base => .base
  | .xavier => .xavier
termination_by structural i => i

/-- An operator with every text renamed. -/
def Op.rename (f : String → String) : Op → Op
  | .par dims init opts => .par (renameList f dims) (init.rename f) (renameNamed f opts)
  | .drop rate => .drop (rate.rename f)
  | o => o
termination_by structural o => o

/-- A node with every text renamed. -/
def Node.rename (f : String → String) : Node → Node
  | .symbol name => .symbol (name.rename f)
  | .const value => .const (value.rename f)
  | .placeholder name => .placeholder (f name)
  | .splat name => .splat (f name)
  | .deferred text expr scope names id => .deferred text expr scope (renameNamed f names) id
  | .parameters entries => .parameters (renameParameters f entries)
  | .call callee args => .call (callee.rename f) (renameNodes f args)
  | .assign target value => .assign (target.rename f) (value.rename f)
  | .block statements => .block (renameNodes f statements)
  | .raw value => .raw (value.rename f)
  | .line number file => .line number file
termination_by structural n => n

/-- Nodes with every text renamed. -/
def renameNodes (f : String → String) : List Node → List Node
  | [] => []
  | n :: ns => n.rename f :: renameNodes f ns
termination_by structural ns => ns

/-- An entry of a parameter block with every text renamed. -/
def Entry.rename (f : String → String) : Entry → Entry
  | .keyword name value => .keyword (name.rename f) (value.rename f)
  | .other node => .other (node.rename f)
termination_by structural e => e

/-- Entries of a parameter block with every text renamed. -/
def renameParameters (f : String → String) : List Entry → List Entry
  | [] => []
  | e :: es => e.rename f :: renameParameters f es
termination_by structural es => es

end

/-- An instruction with every text renamed: its registers, and what its operator carries. -/
def Instruction.rename (f : String → String) (i : Instruction) : Instruction :=
  { op := i.op.rename f, operands := i.operands.map (·.rename f), result := i.result.rename f }

/-- A program with every text renamed. -/
def Program.rename (f : String → String) (prog : Program) : Program := prog.map (·.rename f)

section Rename

variable {f : String → String}

theorem renameEntries_eq_map (es : List (Value × Value)) :
    renameEntries f es = es.map (Prod.map (·.rename f) (·.rename f)) := by
  induction es with
  | nil => rfl
  | cons e es ih => exact congrArg ((e.1.rename f, e.2.rename f) :: ·) ih

theorem renameNamed_eq_map (es : List (String × Value)) :
    renameNamed f es = es.map fun e => (f e.1, e.2.rename f) := by
  induction es with
  | nil => rfl
  | cons e es ih => exact congrArg ((f e.1, e.2.rename f) :: ·) ih

theorem renameNodes_eq_map (ns : List Node) : renameNodes f ns = ns.map (·.rename f) := by
  induction ns with
  | nil => rfl
  | cons n ns ih => exact congrArg (n.rename f :: ·) ih

theorem renameParameters_eq_map (es : List Entry) :
    renameParameters f es = es.map (·.rename f) := by
  induction es with
  | nil => rfl
  | cons e es ih => exact congrArg (e.rename f :: ·) ih

/-- Renaming looks inside objects. -/
theorem Value.bare_rename (v : Value) : (v.rename f).bare = v.bare.rename f := by
  cases v <;> rfl

/-! ### What stays -/

mutual

/-- **A value stays if all its texts do.** -/
theorem Value.rename_eq_self : (v : Value) → (∀ s ∈ v.strings, f s = s) → v.rename f = v
  | .str s, h => congrArg Value.str (h s (List.mem_singleton.2 rfl))
  | .list items, h => congrArg Value.list (renameList_eq_self items h)
  | .tuple items, h => congrArg Value.tuple (renameList_eq_self items h)
  | .set items, h => congrArg Value.set (renameList_eq_self items h)
  | .array level shape items, h => congrArg (Value.array level shape) (renameList_eq_self items h)
  | .dict entries, h => congrArg Value.dict (renameEntries_eq_self entries h)
  | .initializer i, h => congrArg Value.initializer (Initializer.rename_eq_self i h)
  | .op o, h => congrArg Value.op (Op.rename_eq_self o h)
  | .node n, h => congrArg Value.node (Node.rename_eq_self n h)
  | .getter dict, h => congrArg Value.getter (Value.rename_eq_self dict h)
  | .kept id v, h => congrArg (Value.kept id) (Value.rename_eq_self v h)
  | .null, _ | .ellipsis, _ | .bool _, _ | .int _, _ | .float _, _ | .complex _, _ | .fixed _, _
  | .bytes _, _ | .range .., _ | .initClass _, _ | .builtin _, _ | .layer .., _ => rfl

theorem renameList_eq_self : (vs : List Value) → (∀ s ∈ stringsList vs, f s = s) →
    renameList f vs = vs
  | [], _ => rfl
  | v :: vs, h =>
    have ⟨hv, hvs⟩ := List.forall_mem_append.1 h
    congrArg₂ List.cons (Value.rename_eq_self v hv) (renameList_eq_self vs hvs)

theorem renameEntries_eq_self : (es : List (Value × Value)) →
    (∀ s ∈ stringsEntries es, f s = s) → renameEntries f es = es
  | [], _ => rfl
  | (k, v) :: es, h =>
    have ⟨he, hes⟩ := List.forall_mem_append.1 h
    have ⟨hk, hv⟩ := List.forall_mem_append.1 he
    congrArg₂ List.cons (congrArg₂ Prod.mk (Value.rename_eq_self k hk) (Value.rename_eq_self v hv))
      (renameEntries_eq_self es hes)

theorem renameNamed_eq_self : (es : List (String × Value)) →
    (∀ s ∈ stringsNamed es, f s = s) → renameNamed f es = es
  | [], _ => rfl
  | (_, v) :: es, h =>
    have ⟨he, hes⟩ := List.forall_mem_append.1 h
    have ⟨hk, hv⟩ := List.forall_mem_cons.1 he
    congrArg₂ List.cons (congrArg₂ Prod.mk hk (Value.rename_eq_self v hv))
      (renameNamed_eq_self es hes)

theorem Initializer.rename_eq_self : (i : Initializer) → (∀ s ∈ i.strings, f s = s) →
    i.rename f = i
  | .gaussian mean std, h =>
    have ⟨hmean, hstd⟩ := List.forall_mem_append.1 h
    congrArg₂ Initializer.gaussian (Value.rename_eq_self mean hmean) (Value.rename_eq_self std hstd)
  | .uniform low high, h =>
    have ⟨hlow, hhigh⟩ := List.forall_mem_append.1 h
    congrArg₂ Initializer.uniform (Value.rename_eq_self low hlow) (Value.rename_eq_self high hhigh)
  | .constant value, h => congrArg Initializer.constant (Value.rename_eq_self value h)
  | .base, _ | .xavier, _ => rfl

theorem Op.rename_eq_self : (o : Op) → (∀ s ∈ o.strings, f s = s) → o.rename f = o
  | .par dims init opts, h => by
    obtain ⟨hfront, hopts⟩ := List.forall_mem_append.1 h
    obtain ⟨hdims, hinit⟩ := List.forall_mem_append.1 hfront
    rw [Op.rename, renameList_eq_self dims hdims, Value.rename_eq_self init hinit,
      renameNamed_eq_self opts hopts]
  | .drop rate, h => congrArg Op.drop (Value.rename_eq_self rate h)
  | .generic, _ | .input, _ | .arr _, _ | .dot, _ | .add, _ | .mul, _ | .relu, _ | .sigm, _
  | .tanh, _ | .soft, _ => rfl

theorem Node.rename_eq_self : (n : Node) → (∀ s ∈ n.strings, f s = s) → n.rename f = n
  | .symbol name, h => congrArg Node.symbol (Value.rename_eq_self name h)
  | .const value, h => congrArg Node.const (Value.rename_eq_self value h)
  | .placeholder name, h => congrArg Node.placeholder (h name (List.mem_singleton.2 rfl))
  | .splat name, h => congrArg Node.splat (h name (List.mem_singleton.2 rfl))
  | .deferred text expr scope names id, h =>
    congrArg (Node.deferred text expr scope · id) (renameNamed_eq_self names h)
  | .parameters entries, h => congrArg Node.parameters (renameParameters_eq_self entries h)
  | .call callee args, h =>
    have ⟨hcallee, hargs⟩ := List.forall_mem_append.1 h
    congrArg₂ Node.call (Value.rename_eq_self callee hcallee) (renameNodes_eq_self args hargs)
  | .assign target value, h =>
    have ⟨htarget, hvalue⟩ := List.forall_mem_append.1 h
    congrArg₂ Node.assign (Node.rename_eq_self target htarget) (Node.rename_eq_self value hvalue)
  | .block statements, h => congrArg Node.block (renameNodes_eq_self statements h)
  | .raw value, h => congrArg Node.raw (Value.rename_eq_self value h)
  | .line .., _ => rfl

theorem renameNodes_eq_self : (ns : List Node) → (∀ s ∈ stringsNodes ns, f s = s) →
    renameNodes f ns = ns
  | [], _ => rfl
  | n :: ns, h =>
    have ⟨hn, hns⟩ := List.forall_mem_append.1 h
    congrArg₂ List.cons (Node.rename_eq_self n hn) (renameNodes_eq_self ns hns)

theorem Entry.rename_eq_self : (e : Entry) → (∀ s ∈ e.strings, f s = s) → e.rename f = e
  | .keyword name value, h =>
    have ⟨hname, hvalue⟩ := List.forall_mem_append.1 h
    congrArg₂ Entry.keyword (Value.rename_eq_self name hname) (Node.rename_eq_self value hvalue)
  | .other node, h => congrArg Entry.other (Node.rename_eq_self node h)

theorem renameParameters_eq_self : (es : List Entry) → (∀ s ∈ stringsParameters es, f s = s) →
    renameParameters f es = es
  | [], _ => rfl
  | e :: es, h =>
    have ⟨he, hes⟩ := List.forall_mem_append.1 h
    congrArg₂ List.cons (Entry.rename_eq_self e he) (renameParameters_eq_self es hes)

end

/-! ### Objects -/

mutual

/-- **Renaming does not touch objects**: whether a value loses its objects before or after makes no
difference. -/
theorem Value.unlabelled_rename : (v : Value) → (v.rename f).unlabelled = v.unlabelled.rename f
  | .kept _ v => Value.unlabelled_rename v
  | .list items => congrArg Value.list (unlabelledList_rename items)
  | .tuple items => congrArg Value.tuple (unlabelledList_rename items)
  | .set items => congrArg Value.set (unlabelledList_rename items)
  | .dict entries => congrArg Value.dict (unlabelledEntries_rename entries)
  | .array level shape items => congrArg (Value.array level shape) (unlabelledList_rename items)
  | .initializer i => congrArg Value.initializer (Initializer.unlabelled_rename i)
  | .op o => congrArg Value.op (Op.unlabelled_rename o)
  | .null | .ellipsis | .bool _ | .int _ | .float _ | .complex _ | .fixed _ | .str _ | .bytes _
  | .range .. | .node _ | .initClass _ | .builtin _ | .layer .. | .getter _ => rfl

theorem unlabelledList_rename : (vs : List Value) →
    unlabelledList (renameList f vs) = renameList f (unlabelledList vs)
  | [] => rfl
  | v :: vs => congrArg₂ List.cons (Value.unlabelled_rename v) (unlabelledList_rename vs)

theorem unlabelledEntries_rename : (es : List (Value × Value)) →
    unlabelledEntries (renameEntries f es) = renameEntries f (unlabelledEntries es)
  | [] => rfl
  | (k, v) :: es =>
    congrArg₂ List.cons (congrArg₂ Prod.mk (Value.unlabelled_rename k) (Value.unlabelled_rename v))
      (unlabelledEntries_rename es)

theorem unlabelledNamed_rename : (es : List (String × Value)) →
    unlabelledNamed (renameNamed f es) = renameNamed f (unlabelledNamed es)
  | [] => rfl
  | (k, v) :: es =>
    congrArg₂ List.cons (congrArg (f k, ·) (Value.unlabelled_rename v)) (unlabelledNamed_rename es)

theorem Initializer.unlabelled_rename : (i : Initializer) →
    (i.rename f).unlabelled = i.unlabelled.rename f
  | .gaussian mean std =>
    congrArg₂ Initializer.gaussian (Value.unlabelled_rename mean) (Value.unlabelled_rename std)
  | .uniform low high =>
    congrArg₂ Initializer.uniform (Value.unlabelled_rename low) (Value.unlabelled_rename high)
  | .constant value => congrArg Initializer.constant (Value.unlabelled_rename value)
  | .base | .xavier => rfl

theorem Op.unlabelled_rename : (o : Op) → (o.rename f).unlabelled = o.unlabelled.rename f
  | .par dims init opts => by
    rw [Op.rename, Op.unlabelled, unlabelledList_rename dims, Value.unlabelled_rename init,
      unlabelledNamed_rename opts]
    rfl
  | .drop rate => congrArg Op.drop (Value.unlabelled_rename rate)
  | .generic | .input | .arr _ | .dot | .add | .mul | .relu | .sigm | .tanh | .soft => rfl

end

mutual

/-- **Renaming does not change which numbers of objects are in use.** -/
theorem Value.passing_rename : (v : Value) → (bound : Nat) →
    (v.rename f).passing bound = v.passing bound
  | .kept _ v, _ => Value.passing_rename v _
  | .list items, _ | .tuple items, _ | .set items, _ | .array _ _ items, _ =>
    passingList_rename items _
  | .dict entries, _ => passingEntries_rename entries _
  | .initializer i, _ => Initializer.passing_rename i _
  | .op o, _ => Op.passing_rename o _
  | .node n, _ => Node.passing_rename n _
  | .getter dict, _ => Value.passing_rename dict _
  | .null, _ | .ellipsis, _ | .bool _, _ | .int _, _ | .float _, _ | .complex _, _ | .fixed _, _
  | .str _, _ | .bytes _, _ | .range .., _ | .initClass _, _ | .builtin _, _ | .layer .., _ => rfl

theorem passingList_rename : (vs : List Value) → (bound : Nat) →
    passingList bound (renameList f vs) = passingList bound vs
  | [], _ => rfl
  | v :: vs, bound => by
    rw [renameList, passingList, Value.passing_rename v, passingList_rename vs, passingList]

theorem passingEntries_rename : (es : List (Value × Value)) → (bound : Nat) →
    passingEntries bound (renameEntries f es) = passingEntries bound es
  | [], _ => rfl
  | (k, v) :: es, bound => by
    rw [renameEntries, passingEntries, Value.passing_rename k, Value.passing_rename v,
      passingEntries_rename es, passingEntries]

theorem passingNamed_rename : (es : List (String × Value)) → (bound : Nat) →
    passingNamed bound (renameNamed f es) = passingNamed bound es
  | [], _ => rfl
  | (k, v) :: es, bound => by
    rw [renameNamed, passingNamed, Value.passing_rename v, passingNamed_rename es, passingNamed]

theorem Initializer.passing_rename : (i : Initializer) → (bound : Nat) →
    (i.rename f).passing bound = i.passing bound
  | .gaussian mean std, bound => by
    rw [Initializer.rename, Initializer.passing, Value.passing_rename mean,
      Value.passing_rename std, Initializer.passing]
  | .uniform low high, bound => by
    rw [Initializer.rename, Initializer.passing, Value.passing_rename low,
      Value.passing_rename high, Initializer.passing]
  | .constant value, _ => Value.passing_rename value _
  | .base, _ | .xavier, _ => rfl

theorem Op.passing_rename : (o : Op) → (bound : Nat) → (o.rename f).passing bound = o.passing bound
  | .par dims init opts, bound => by
    rw [Op.rename, Op.passing, passingList_rename dims, Value.passing_rename init,
      passingNamed_rename opts, Op.passing]
  | .drop rate, _ => Value.passing_rename rate _
  | .generic, _ | .input, _ | .arr _, _ | .dot, _ | .add, _ | .mul, _ | .relu, _ | .sigm, _
  | .tanh, _ | .soft, _ => rfl

theorem Node.passing_rename : (n : Node) → (bound : Nat) →
    (n.rename f).passing bound = n.passing bound
  | .symbol name, _ => Value.passing_rename name _
  | .const value, _ => Value.passing_rename value _
  | .deferred _ _ _ names _, _ => passingNamed_rename names _
  | .parameters entries, _ => passingParameters_rename entries _
  | .call callee args, bound => by
    rw [Node.rename, Node.passing, Value.passing_rename callee, passingNodes_rename args,
      Node.passing]
  | .assign target value, bound => by
    rw [Node.rename, Node.passing, Node.passing_rename target, Node.passing_rename value,
      Node.passing]
  | .block statements, _ => passingNodes_rename statements _
  | .raw value, _ => Value.passing_rename value _
  | .placeholder _, _ | .splat _, _ | .line .., _ => rfl

theorem passingNodes_rename : (ns : List Node) → (bound : Nat) →
    passingNodes bound (renameNodes f ns) = passingNodes bound ns
  | [], _ => rfl
  | n :: ns, bound => by
    rw [renameNodes, passingNodes, Node.passing_rename n, passingNodes_rename ns, passingNodes]

theorem Entry.passing_rename : (e : Entry) → (bound : Nat) →
    (e.rename f).passing bound = e.passing bound
  | .keyword name value, bound => by
    rw [Entry.rename, Entry.passing, Value.passing_rename name, Node.passing_rename value,
      Entry.passing]
  | .other node, _ => Node.passing_rename node _

theorem passingParameters_rename : (es : List Entry) → (bound : Nat) →
    passingParameters bound (renameParameters f es) = passingParameters bound es
  | [], _ => rfl
  | e :: es, bound => by
    rw [renameParameters, passingParameters, Entry.passing_rename e, passingParameters_rename es,
      passingParameters]

end

end Rename

/-! ### Renumbering -/

/-- The name with number `n + i` becomes that with number `m + i`; a name that is not minted stays
as it is. -/
def renumber (n m : Int) (name : String) : String :=
  match mintedNumber name with
  | some k =>
    if mint (mintedHint name) k = name then mint (mintedHint name) (m + (k - n)) else name
  | none => name

theorem renumber_mint (n m : Int) (hint : String) (k : Int) :
    renumber n m (mint hint k) = mint hint (m + (k - n)) := by
  rw [renumber, mintedNumber_mint]
  simp only [mintedHint_mint, if_true]

/-- Renumbering leaves a name alone that does not carry the mark. -/
theorem renumber_of_not_minted (n m : Int) {name : String} (h : isMinted name = false) :
    renumber n m name = name := by
  unfold renumber
  split
  · refine if_neg fun heq => ?_
    rw [← heq, isMinted_mint] at h
    cases h
  · rfl

end Laminar
