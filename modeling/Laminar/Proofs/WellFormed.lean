import Mathlib
import Laminar.Proofs.ExactOrder
import Laminar.Proofs.Expansion
import Laminar.Proofs.RegisterOrder
import Laminar.Proofs.RenamedEmission

/-!
# Every compiled instruction is well formed

Values of any kind reach the primitives: as positional values, of which there may be too many or too
few, by keyword, from defaults and from deferred expressions.  What an instruction is made of does
not show where it came from.  It is an operator and texts, as many as the operator reads, and the
settings of the operator are in range.

* `Instruction.WellFormed` says so of one instruction.
* `Value.IsRate`: the rate of a dropout passes the comparisons with zero and one, and if it is a
  real number of whatever type, then what it is worth is in range.  Not-a-number passes no
  comparison.
* `Primitive.wellFormed_instruction`: **whatever a primitive is given, what it emits is well
  formed.**
* `compileCall_wellFormed`: so is every instruction of a compiled program.
-/

namespace Laminar

/-! ### Rates -/

open Binary (Worth)

/-- A rate of dropout: from zero up to, but not, one. -/
structure Value.IsRate (rate : Value) : Prop where
  low : Value.precedes .le (.float 0.0) rate = .ok true
  high : Value.precedes .lt rate (.float 1.0) = .ok true
  /-- In exact terms, whatever the type of the number is. -/
  range : ∀ n, rate.number? = some n → n.isComplex = false →
    ∃ q : ℚ, n.worth? = some (.ofRat q) ∧ 0 ≤ q ∧ q < 1

/-- Is a value a number that is not known as an object? -/
def Value.isNumeral : Value → Bool
  | .bool _ | .int _ | .float _ | .complex _ | .fixed _ => true
  | _ => false

theorem Value.isNumeral_of_number {v : Value} {n : Number} (hv : v.bare = v)
    (h : v.number? = some n) : v.isNumeral := by
  cases v
  case bool | int | float | complex | fixed => rfl
  case kept id w => exact absurd (congrArg sizeOf hv) (by simp [Value.bare])
  all_goals cases h

/-- The outcome of a comparison is its truth value, whatever type that has. -/
theorem condition_comparisonValue (v w : Value) (b : Bool) :
    (comparisonValue v w b).condition = .ok b := by
  simp only [comparisonValue]
  split <;> cases b <;> rfl

/-- Two numbers are ordered as they meet. -/
theorem Value.precedes_of_meet {c : Comparison} {v w : Value} {n m : Number} (hv : v.isNumeral)
    (hw : w.isNumeral) (hmeet : v.meet? w = some (n, m)) (hn : n.isComplex = false)
    (hm : m.isComplex = false) : v.precedes c w = .ok (n.ordered c m) := by
  have hitems : meetItemwise v w = false := by
    cases v
    case bool | int | float | complex | fixed =>
      cases w
      case bool | int | float | complex | fixed => rfl
      all_goals cases hw
    all_goals cases hv
  have hordered : v.ordered c w = .ok (n.ordered c m) := by
    cases v
    case bool | int | float | complex | fixed =>
      cases w
      case bool | int | float | complex | fixed =>
        rw [Value.ordered]
        · simp only [Value.bare, hmeet, hn, hm, Bool.or_self, Bool.false_and]
          rfl
        all_goals simp
      all_goals cases hw
    all_goals cases hv
  rw [Value.precedes, Value.orderedValue, hitems, if_neg Bool.false_ne_true, hordered]
  exact condition_comparisonValue v w _

/-- What the order of two real numbers says about what they are worth. -/
theorem Number.worth_of_ordered {c : Comparison} {n m : Number} (hn : n.isComplex = false)
    (hm : m.isComplex = false) (h : n.ordered c m = true) :
    ∃ a b : Worth, n.worth? = some a ∧ m.worth? = some b ∧ c.holds (Ord.compare a b) = true := by
  simp only [Number.ordered, hn, hm, Bool.or_self, Bool.false_eq_true, if_false,
    Number.compare_eq] at h
  cases hn' : n.worth? with
  | none => simp [hn'] at h
  | some a =>
    cases hm' : m.worth? with
    | none => simp [hn', hm'] at h
    | some b => exact ⟨a, b, rfl, rfl, by simpa [hn', hm'] using h⟩

/-- Between rational numbers there are no others. -/
theorem Binary.Worth.exists_ofRat {a : Worth} {p q : ℚ} (hlow : Worth.ofRat p ≤ a)
    (hhigh : a < Worth.ofRat q) : ∃ r, a = .ofRat r := by
  induction a using WithBot.recBotCoe with
  | bot => exact absurd hlow (WithBot.bot_lt_coe _).not_ge
  | coe b =>
    induction b using WithTop.recTopCoe with
    | top => exact absurd hhigh (WithBot.coe_lt_coe.2 (WithTop.coe_lt_top q)).not_gt
    | coe r => exact ⟨r, rfl⟩

theorem Binary.roundSingle_zero : Binary.roundSingle 0.0 = 0.0 := by decide +kernel

theorem Binary.roundSingle_one : Binary.roundSingle 1.0 = 1.0 := by decide +kernel

/-- What a number of a type with fixed width meets a float as: a whole number as the float nearest
to it, if there is one. -/
def Number.Near (n n' : Number) : Prop :=
  n' = n ∨ ∃ k x, n = .int k ∧ Binary.ofInt k = some x ∧ n' = .float x

theorem Number.Near.ofInt (k : ℤ) :
    Number.Near (.int k) ((Binary.ofInt k).elim (.int k) .float) := by
  cases h : Binary.ofInt k with
  | none => exact .inl rfl
  | some x => exact .inr ⟨k, x, rfl, h, rfl⟩

/-- How a real number meets zero and one: as it is, or as the float nearest to it. -/
theorem Value.meet_bounds {rate : Value} {n : Number} (hrate : rate.isNumeral)
    (hnumber : rate.number? = some n) (hreal : n.isComplex = false) :
    ∃ n', n.Near n' ∧ (Value.float 0.0).meet? rate = some (.float 0.0, n') ∧
      rate.meet? (.float 1.0) = some (n', .float 1.0) := by
  cases rate
  case bool b =>
    obtain rfl := Option.some.inj hnumber
    exact ⟨_, .inl rfl, rfl, rfl⟩
  case int k =>
    obtain rfl := Option.some.inj hnumber
    exact ⟨_, .inl rfl, rfl, rfl⟩
  case float x =>
    obtain rfl := Option.some.inj hnumber
    exact ⟨_, .inl rfl, rfl, rfl⟩
  case complex z =>
    obtain rfl := Option.some.inj hnumber
    cases hreal
  case fixed f =>
    obtain rfl := Option.some.inj hnumber
    cases f with
    | bool b => exact ⟨_, .ofInt _, rfl, rfl⟩
    | int k => exact ⟨_, .ofInt k, rfl, rfl⟩
    | single x =>
      refine ⟨.float x, .inl rfl, ?_, ?_⟩
      · exact congrArg (fun z => some (Number.float z, Number.float x)) Binary.roundSingle_zero
      · exact congrArg (fun z => some (Number.float x, Number.float z)) Binary.roundSingle_one
    | float x => exact ⟨_, .inl rfl, rfl, rfl⟩
    | complex z => cases hreal
  all_goals cases hrate

theorem Number.Near.isComplex {n n' : Number} (h : n.Near n') (hn : n.isComplex = false) :
    n'.isComplex = false := by
  rcases h with rfl | ⟨k, x, -, -, rfl⟩
  · exact hn
  · rfl

/-- A number is in range if what it meets zero and one as is. -/
theorem Number.Near.range {n n' : Number} {q : ℚ} (h : n.Near n')
    (hworth : n'.worth? = some (.ofRat q)) (hlow : 0 ≤ q) (hhigh : q < 1) :
    ∃ q : ℚ, n.worth? = some (.ofRat q) ∧ 0 ≤ q ∧ q < 1 := by
  rcases h with rfl | ⟨k, x, rfl, hk, rfl⟩
  · exact ⟨q, hworth, hlow, hhigh⟩
  · obtain ⟨p, hp, hzero, hone⟩ := Binary.worth_of_ofInt hk
    obtain rfl : p = q := by simpa using hp.symm.trans hworth
    exact ⟨k, rfl, by exact_mod_cast hzero.1 hlow, by exact_mod_cast hone.1 hhigh⟩

/-- **Rates.** What passes as the rate of a dropout is in range. -/
theorem Value.isRate_of_dropout {rate : Value} {op : Op} (hbare : rate.bare = rate)
    (h : Op.dropout rate = .ok op) : rate.IsRate := by
  have hbounds : Value.precedes .le (.float 0.0) rate = .ok true ∧
      Value.precedes .lt rate (.float 1.0) = .ok true := by
    simp only [Op.dropout, bind_eq_ok] at h
    obtain ⟨low, hlow, h⟩ := h
    cases low with
    | false => exact absurd h throw_ne_ok
    | true =>
      obtain ⟨high, hhigh, h⟩ := bind_eq_ok.1 h
      cases high with
      | false => exact absurd h throw_ne_ok
      | true => exact ⟨hlow, hhigh⟩
  refine ⟨hbounds.1, hbounds.2, fun n hnumber hreal => ?_⟩
  have hrate := Value.isNumeral_of_number hbare hnumber
  obtain ⟨n', hnear, hzero, hone⟩ := Value.meet_bounds hrate hnumber hreal
  have hlow : Number.ordered .le (.float 0.0) n' = true := by
    rw [Value.precedes_of_meet rfl hrate hzero rfl (hnear.isComplex hreal)] at hbounds
    exact Except.ok.inj hbounds.1
  have hhigh : n'.ordered .lt (.float 1.0) = true := by
    rw [Value.precedes_of_meet hrate rfl hone (hnear.isComplex hreal) rfl] at hbounds
    exact Except.ok.inj hbounds.2
  obtain ⟨zero, a, hzero, ha, hle⟩ := Number.worth_of_ordered rfl (hnear.isComplex hreal) hlow
  obtain ⟨a', one, ha', hone, hlt⟩ := Number.worth_of_ordered (hnear.isComplex hreal) rfl hhigh
  obtain rfl : a = a' := Option.some.inj (ha.symm.trans ha')
  obtain rfl : zero = .ofRat 0 := Option.some.inj (hzero.symm.trans Binary.worth_zero_float)
  obtain rfl : one = .ofRat 1 := Option.some.inj (hone.symm.trans Binary.worth_one_float)
  have hle : Worth.ofRat 0 ≤ a := compare_le_iff_le.1 (by simpa [Comparison.holds] using hle)
  have hlt : a < Worth.ofRat 1 := compare_lt_iff_lt.1 (by simpa [Comparison.holds] using hlt)
  obtain ⟨q, rfl⟩ := Worth.exists_ofRat hle hlt
  exact hnear.range ha (by exact_mod_cast hle) (by exact_mod_cast hlt)

/-! ### Instructions -/

/-- The settings of an operator are in range: the dimensions of a trainable array are whole numbers
from zero on and it has an initializer, and a dropout has a rate. -/
def Op.InRange : Op → Prop
  | .par dims init _ => (∀ d ∈ dims, ∃ n : ℕ, d = .int n) ∧ init.bare ≠ .null
  | .drop rate => rate.IsRate
  | _ => True

/-- **A well-formed instruction**: an operator whose settings are in range, followed by texts, as
many before the result as the operator reads. -/
structure Instruction.WellFormed (i : Instruction) : Prop where
  operands : ∀ o ∈ i.operands, ∃ s, o = .str s
  result : ∃ s, i.result = .str s
  arity : i.operands.length = i.op.cls.arity
  settings : i.op.InRange

/-- A value that is not known as an object can only name a register as a text. -/
theorem IsText.eq_str {v : Value} (h : IsText v) (hv : v.bare = v) : ∃ s, v = .str s := by
  obtain ⟨s, hs⟩ := h
  exact ⟨s, hv.symm.trans hs⟩

/-- What passes the check of its registers is well formed if the operator is in order. -/
theorem Instruction.wellFormed_of_checked {op : Op} {operands : List Value} {result : Value}
    {i : Instruction} (hop : op.InRange) (harity : operands.length = op.cls.arity)
    (hoperands : ∀ o ∈ operands, o.bare = o) (hresult : result.bare = result)
    (h : Instruction.checked op operands result = .ok i) : i.WellFormed := by
  have htext := isText_of_checked h
  simp only [Instruction.checked, bind_eq_ok, pure_eq_ok] at h
  obtain ⟨⟨⟩, hchecked, -, -, rfl⟩ := h
  exact ⟨fun o ho => (isText_of_checkOperands hchecked o ho).eq_str (hoperands o ho),
    htext.eq_str hresult, harity, hop⟩

namespace Primitive

/-- A dimension is a whole number from zero on, whatever it was made of. -/
theorem dimension_eq_ok {v d : Value} (h : dimension v = .ok d) : ∃ n : ℕ, d = .int n := by
  unfold dimension at h
  split at h
  · rename_i n _
    split at h
    · exact absurd h throw_ne_ok
    · obtain rfl := pure_eq_ok.1 h
      exact ⟨n.toNat, by rw [Int.toNat_of_nonneg (by omega)]⟩
  · exact absurd h throw_ne_ok

theorem mapM_dimension {args dims : List Value} (h : args.mapM dimension = .ok dims) :
    ∀ d ∈ dims, ∃ n : ℕ, d = .int n := by
  induction args generalizing dims with
  | nil =>
    obtain rfl := pure_eq_ok.1 h
    simp
  | cons v vs ih =>
    simp only [List.mapM_cons, bind_eq_ok, pure_eq_ok] at h
    obtain ⟨d, hd, rest, hrest, rfl⟩ := h
    exact List.forall_mem_cons.2 ⟨dimension_eq_ok hd, ih hrest⟩

/-- Without an initializer there is the default one. -/
theorem inRange_parameter {dims : List Value} (hdims : ∀ d ∈ dims, ∃ n : ℕ, d = .int n)
    (init : Value) (opts : List (String × Value)) : (Op.parameter dims init opts).InRange := by
  unfold Op.parameter
  split
  · exact ⟨hdims, nofun⟩
  · rename_i hinit
    exact ⟨hdims, hinit⟩

variable {args : List Value} {keywords : List (String × Value)} {i : Instruction}

theorem wellFormed_parameter (hargs : ∀ v ∈ args, v.bare = v)
    (h : parameter args keywords = .ok i) : i.WellFormed := by
  unfold parameter at h
  split at h
  · exact absurd h throw_ne_ok
  · rename_i result hlast
    simp only [bind_eq_ok, mapError_eq_ok] at h
    obtain ⟨dims, hdims, bound, -, h⟩ := h
    have harity : ([] : List Value).length = (Op.parameter dims
        ((keywords.lookup "init").getD .null) bound.options).cls.arity := by
      rw [Op.cls_parameter]
      rfl
    exact Instruction.wellFormed_of_checked (inRange_parameter (mapM_dimension hdims) _ _) harity
      (by simp) (hargs result (List.mem_of_getLast? hlast)) h

/-- The operands of a primitive and the register of its result, once they are bound. -/
theorem wellFormed_plain {op : Op} {registers : List Value}
    (h : plainInstruction op registers = .ok i) (hop : op.InRange)
    (hlength : registers.length = op.cls.arity + 1) (hbare : ∀ v ∈ registers, v.bare = v) :
    i.WellFormed := by
  have hne : registers ≠ [] := List.ne_nil_of_length_eq_add_one hlength
  have hresult : registers.getLast?.getD .null = registers.getLast hne := by
    rw [List.getLast?_eq_some_getLast hne, Option.getD_some]
  rw [plainInstruction, mapError_eq_ok, hresult] at h
  refine Instruction.wellFormed_of_checked hop ?_ (fun o ho => ?_) ?_ h
  · rw [List.length_dropLast, hlength, Nat.add_sub_cancel]
  · exact hbare o (List.dropLast_subset _ ho)
  · exact hbare _ (List.getLast_mem hne)

/-- **What a primitive emits is well formed**, whatever it is given. -/
theorem wellFormed_instruction {p : Primitive} (hargs : ∀ v ∈ args, v.bare = v)
    (hkeywords : ∀ k ∈ keywords, k.2.bare = k.2) (h : p.instruction args keywords = .ok i) :
    i.WellFormed := by
  have hdefaults : ∀ f ∈ p.formals, ∀ v, f.default = some v → v.bare = v := by
    cases p <;> simp [formals, Value.bare]
  cases p
  case par => exact wellFormed_parameter hargs h
  all_goals
    simp only [instruction, bind_eq_ok, liftFault_eq_ok] at h
    obtain ⟨bound, hbound, h⟩ := h
    have hlength := Constructor.length_of_bind hbound
    have hbare := Constructor.forall_of_bind hargs hkeywords hdefaults hbound
  case arr =>
    obtain ⟨y, init, hvalues⟩ := List.length_eq_two.1 hlength
    rw [hvalues] at h hbare
    split at h
    · exact absurd h throw_ne_ok
    · rename_i heq
      cases heq
      obtain ⟨tensor, -, h⟩ := bind_eq_ok.1 h
      refine wellFormed_plain h trivial rfl fun v hv => hbare v ?_
      exact List.mem_append_left [init] hv
    · rename_i notArr _
      cases notArr
    · rename_i notTwo _
      exact (notTwo _ _ rfl rfl).elim
  case drop =>
    obtain ⟨x, y, rate, hvalues⟩ := List.length_eq_three.1 hlength
    rw [hvalues] at h hbare
    obtain ⟨op, hop, h⟩ := bind_eq_ok.1 h
    rw [liftFault_eq_ok] at hop
    have hrate := Value.isRate_of_dropout (hbare rate (by simp)) hop
    obtain rfl := Op.dropout_eq_ok hop
    refine wellFormed_plain h hrate rfl fun v hv => hbare v ?_
    exact List.mem_append_left [rate] hv
  all_goals exact wellFormed_plain h trivial hlength hbare

end Primitive

/-! ### Programs -/

/-- Every instruction of an expanded program is well formed. -/
theorem wellFormed_of_expands {lib : Library} {calls : List Pending} {c c' : Counters}
    {prog : Program} (h : Expands lib calls c prog c') : ∀ i ∈ prog, i.WellFormed := by
  induction h with
  | done => simp
  | primitive _ emitted _ ih =>
    refine List.forall_mem_cons.2 ⟨Primitive.wellFormed_instruction ?_ ?_ emitted, ih⟩
    · rw [unlabelledList_eq_map]
      exact List.forall_mem_map.2 fun v _ => v.bare_unlabelled
    · rw [unlabelledNamed_eq_map]
      exact List.forall_mem_map.2 fun p _ => p.2.bare_unlabelled
  | layer _ _ _ _ _ _ inside more => exact List.forall_mem_append.2 ⟨inside, more⟩

/-- **Every compiled instruction is well formed.** In every registry of primitives and layers, and
whatever values are passed on the way, a program that compiles consists of operators followed by
texts, as many as the operator reads.  Trainable arrays have whole dimensions from zero on and an
initializer, and dropouts a rate from zero up to, but not, one. -/
theorem compileCall_wellFormed {lib : Library} (hr : lib.registry.Ordinary) {depth : Nat}
    {name : Value} {inputs : List Value} {output : Value} {params : List (String × Value)}
    {c c' : Compiler} {prog : Program}
    (h : (compileCall lib depth name inputs output params).run c = (.ok prog, c')) :
    ∀ i ∈ prog, i.WellFormed :=
  wellFormed_of_expands (expands_of_compileCall hr h)

/-- A rate that is a number of fixed width, a dimension that is a truth value, no initializers. -/
def oddParameters : List (String × Value) :=
  [("pdrop", .fixed (.int 0)), ("out", .bool true), ("winit", .null), ("binit", .null)]

/-- Of such parameters come six well-formed instructions. -/
theorem compileCall_wellFormed_dropout :
    Library.standard.registry.Ordinary ∧ ∃ prog c',
      (compileCall Library.standard 6 (.str "drop_wf") [.str "x"] (.str "y") oddParameters).run {} =
        (.ok prog, c') ∧
      prog.map (·.op.cls) = [.drop, .par, .dot, .par, .add, .relu] ∧ ∀ i ∈ prog, i.WellFormed := by
  have hclasses : ((compileCall Library.standard 6 (.str "drop_wf") [.str "x"] (.str "y")
      oddParameters).run {}).1.toOption.map (·.map (·.op.cls)) =
        some [.drop, .par, .dot, .par, .add, .relu] := by decide +kernel
  obtain ⟨prog, c', hprog⟩ : ∃ prog c', (compileCall Library.standard 6 (.str "drop_wf")
      [.str "x"] (.str "y") oddParameters).run {} = (.ok prog, c') :=
    exists_of_isOk (by decide +kernel)
  rw [hprog] at hclasses
  exact ⟨Registry.ordinary_default, prog, c', hprog, Option.some.inj hclasses,
    compileCall_wellFormed Registry.ordinary_default hprog⟩

end Laminar
