import Mathlib
import Laminar.Primitive
import Laminar.Proofs.Binding

/-!
# The instruction of a primitive

A primitive is called with its operands and, last among the positional values, the register of its
result.  Binding does not know which value is which: a surplus operand moves the result on to the
next formal, and a keyword `y` takes its place.  This module says when the instruction writes the
register it was meant to write.

* `Primitive.instruction_spec`: without a keyword `y`, and if the result is not the text of a
  number, the instruction writes the result, and each of its operands was given by position.
* `Primitive.cls_instruction`: whatever it is given, a primitive builds an operator of its class.

The two exceptions to the first are the primitives that have a formal *after* the result.  With one
operand too many, the result ends up there: as the array of `arr`, which the text of a number can
be, and as the rate of `drop`, which no text can be.
-/

namespace Laminar

/-- A text is no rate of dropout. -/
theorem Op.dropout_str (s : String) (op : Op) : Op.dropout (.str s) ≠ .ok op := by
  intro h
  cases h

/-- A text that is not the text of a number is no element of an array. -/
theorem Value.toDirectElement_str {s : String} (hs : Decimal.readFloat? s = none) :
    Value.toDirectElement (.str s) = .error (.floatText (.str s)) := by
  have number : Value.toFloat (.str s) = .error (.floatText (.str s)) := by
    rw [Value.toFloat]
    simp only [Value.scalar, Value.bare_str, Value.numberText?]
    have none : Value.number? (.str s) = none := rfl
    rw [none]
    simp only [hs]
    rfl
  rw [Value.toDirectElement]
  simp only [Value.bare_str, Value.toElement, number]
  rfl

/-- A text that is not the text of a number is no array. -/
theorem Tensor.ofValue_str {s : String} (hs : Decimal.readFloat? s = none) (t : Tensor) :
    Tensor.ofValue (.str s) ≠ .ok t := by
  have shape : Value.arrayShape (.str s) = .ok [] := rfl
  intro h
  simp only [Tensor.ofValue, shape, bind_eq_ok, Except.ok.injEq, exists_eq_left', leaves,
    List.length_nil, List.mapM_cons, Value.toDirectElement_str hs] at h
  obtain ⟨data, ⟨x, hx, -⟩, -⟩ := h
  cases hx

/-- A value that can name a register. -/
def IsText (v : Value) : Prop := ∃ s, v.bare = .str s

/-- Without objects, a value is bare. -/
theorem Value.bare_unlabelled (v : Value) : v.unlabelled.bare = v.unlabelled := by
  cases v with
  | kept _ w => exact Value.bare_unlabelled w
  | _ => rfl

theorem unlabelledList_eq_map (values : List Value) :
    unlabelledList values = values.map Value.unlabelled := by
  induction values with
  | nil => rfl
  | cons v vs ih => exact congrArg (v.unlabelled :: ·) ih

theorem unlabelledNamed_eq_map (named : List (String × Value)) :
    unlabelledNamed named = named.map fun p => (p.1, p.2.unlabelled) := by
  induction named with
  | nil => rfl
  | cons p ps ih => exact congrArg ((p.1, p.2.unlabelled) :: ·) ih

theorem isText_of_checkSymbol {label s : String} {v : Value} (h : checkSymbol label v = .ok s) :
    IsText v := by
  unfold checkSymbol at h
  split at h
  · rename_i t ht
    exact ⟨t, ht⟩
  · exact absurd h throw_ne_ok

theorem isText_of_checkOperands {operator : String} {index : Nat} {operands : List Value}
    (h : checkOperands operator index operands = .ok ()) : ∀ o ∈ operands, IsText o := by
  induction operands generalizing index with
  | nil => simp
  | cons v vs ih =>
    obtain ⟨s, hv, hvs⟩ := bind_eq_ok.1 h
    rw [List.forall_mem_cons]
    exact ⟨isText_of_checkSymbol hv, ih hvs⟩

namespace Primitive

theorem plainInstruction_eq_ok {op : Op} (operands : List Value) {result : Value} {i : Instruction}
    (h : plainInstruction op (operands ++ [result]) = .ok i) :
    i.result = result ∧ ∀ o ∈ i.operands, o ∈ operands ∧ IsText o := by
  simp only [plainInstruction, mapError_eq_ok, Instruction.checked, bind_eq_ok, pure_eq_ok,
    List.dropLast_concat, List.getLast?_concat, Option.getD_some] at h
  obtain ⟨⟨⟩, hoperands, -, -, rfl⟩ := h
  exact ⟨rfl, fun o ho => ⟨ho, isText_of_checkOperands hoperands o ho⟩⟩

/-- The formal of the result. -/
def resultFormal : Formal := { name := "y" }

/-- The result is bound to its own formal or to a later one, unless a keyword takes its place. -/
theorem length_le_of_bind {c : Constructor} {front after : List Formal} {args : List Value}
    {result : Value} {keywords : List (String × Value)} {b : Bound}
    (hformals : c.formals = front ++ resultFormal :: after) (hy : ∀ k ∈ keywords, k.1 ≠ "y")
    (h : c.bind (args ++ [result]) keywords = .ok b) : front.length ≤ args.length := by
  by_contra hlt
  obtain ⟨-, rest, -, hrest⟩ := Constructor.bind_values h
  have hmem : resultFormal ∈ c.formals.drop (args ++ [result]).length := by
    rw [hformals, List.drop_append_of_le_length (by simp; omega)]
    simp
  obtain ⟨v, -, hv⟩ := exists_of_forall₂ hrest hmem
  rcases hv with hv | hv
  · exact hy _ hv rfl
  · cases hv

/-- A constructor whose last formal is the result binds exactly the positional values. -/
theorem values_of_bind {c : Constructor} (front : List Formal) {args : List Value}
    {result : Value} {keywords : List (String × Value)} {b : Bound}
    (hformals : c.formals = front ++ [resultFormal]) (hy : ∀ k ∈ keywords, k.1 ≠ "y")
    (h : c.bind (args ++ [result]) keywords = .ok b) : b.values = args ++ [result] := by
  have hle := length_le_of_bind hformals hy h
  obtain ⟨hlength, rest, hvalues, hrest⟩ := Constructor.bind_values h
  have hnone : c.formals.drop (args ++ [result]).length = [] := by
    rw [List.drop_eq_nil_iff, hformals, List.length_append, List.length_append]
    exact Nat.succ_le_succ hle
  rw [hnone, List.forall₂_nil_left_iff] at hrest
  rw [hvalues, hrest, List.append_nil]

/-- A constructor with one formal after the result binds the result to its own formal, or to that
one if there is a surplus value. -/
theorem values_of_bind_trailing {c : Constructor} (front : List Formal) {last : Formal}
    {args : List Value} {result : Value} {keywords : List (String × Value)} {b : Bound}
    (hformals : c.formals = front ++ [resultFormal, last]) (hy : ∀ k ∈ keywords, k.1 ≠ "y")
    (h : c.bind (args ++ [result]) keywords = .ok b) :
    (args.length = front.length ∧ ∃ v, b.values = args ++ [result, v]) ∨
      (args.length = front.length + 1 ∧ b.values = args ++ [result]) := by
  have hle := length_le_of_bind hformals hy h
  obtain ⟨hlength, rest, hvalues, hrest⟩ := Constructor.bind_values h
  have hbound : args.length ≤ front.length + 1 := by simpa [hformals] using hlength
  have hcount : rest.length = front.length + 1 - args.length := by
    rw [← hrest.length_eq, hformals]
    simp
  rcases Nat.eq_or_lt_of_le hle with heq | hlt
  · obtain ⟨v, rfl⟩ : ∃ v, rest = [v] := List.length_eq_one_iff.1 (by omega)
    exact .inl ⟨heq.symm, v, by simp [hvalues]⟩
  · obtain rfl : rest = [] := List.length_eq_zero_iff.1 (by omega)
    exact .inr ⟨by omega, by simp [hvalues]⟩

/-- **What a primitive emits.** Unless a keyword takes the place of the result, and unless the
result could be read as a number, the instruction writes the result, and its operands were given by
position. -/
theorem instruction_spec {p : Primitive} {args : List Value} {result : String}
    {keywords : List (String × Value)} {i : Instruction}
    (hresult : Decimal.readFloat? result = none) (hy : ∀ k ∈ keywords, k.1 ≠ "y")
    (h : p.instruction (args ++ [.str result]) keywords = .ok i) :
    i.result = .str result ∧ ∀ o ∈ i.operands, o ∈ args ∧ IsText o := by
  cases p
  case par =>
    simp only [instruction, parameter, List.getLast?_concat, bind_eq_ok, mapError_eq_ok,
      Instruction.checked, pure_eq_ok] at h
    obtain ⟨dims, -, bound, -, -, -, -, -, rfl⟩ := h
    exact ⟨rfl, by simp⟩
  all_goals
    simp only [instruction, bind_eq_ok, liftFault_eq_ok] at h
    obtain ⟨bound, hbound, h⟩ := h
  case arr =>
    rcases values_of_bind_trailing [] rfl hy hbound with ⟨hargs, init, hvalues⟩ | ⟨hargs, hvalues⟩
    · obtain rfl := List.length_eq_zero_iff.1 hargs
      rw [hvalues] at h
      split at h
      · exact absurd h throw_ne_ok
      · rename_i heq
        cases heq
        obtain ⟨t, -, h⟩ := bind_eq_ok.1 h
        exact plainInstruction_eq_ok [] h
      · rename_i notArr _
        cases notArr
      · rename_i notTwo _
        exact (notTwo _ _ rfl rfl).elim
    · obtain ⟨a, rfl⟩ := List.length_eq_one_iff.1 hargs
      rw [hvalues] at h
      obtain ⟨t, ht, -⟩ := bind_eq_ok.1 h
      exact absurd (liftFault_eq_ok.1 ht) (Tensor.ofValue_str hresult t)
  case drop =>
    rcases values_of_bind_trailing [{ name := "x" }] rfl hy hbound with
      ⟨hargs, rate, hvalues⟩ | ⟨hargs, hvalues⟩
    · obtain ⟨x, rfl⟩ := List.length_eq_one_iff.1 hargs
      rw [hvalues] at h
      obtain ⟨op, -, h⟩ := bind_eq_ok.1 h
      exact plainInstruction_eq_ok [x] h
    · obtain ⟨x, y, rfl⟩ := List.length_eq_two.1 hargs
      rw [hvalues] at h
      obtain ⟨op, hop, -⟩ := bind_eq_ok.1 h
      exact absurd (liftFault_eq_ok.1 hop) (Op.dropout_str result op)
  case dot | add | mul =>
    rw [values_of_bind [{ name := "x1" }, { name := "x2" }] rfl hy hbound] at h
    exact plainInstruction_eq_ok args h
  case relu | sigm | tanh | soft =>
    rw [values_of_bind [{ name := "x" }] rfl hy hbound] at h
    exact plainInstruction_eq_ok args h

/-- The same for the values of a call, which a primitive is given without their objects: every
operand is a text that some positional value is. -/
theorem instruction_unlabelled_spec {p : Primitive} {values : List Value} {result : String}
    {named : List (String × Value)} {i : Instruction}
    (hresult : Decimal.readFloat? result = none) (hy : ∀ k ∈ named, k.1 ≠ "y")
    (h : p.instruction (unlabelledList (values ++ [.str result])) (unlabelledNamed named) = .ok i) :
    i.result = .str result ∧
      ∀ o ∈ i.operands, ∃ s, o = .str s ∧ ∃ v ∈ values, v.unlabelled = .str s := by
  rw [unlabelledList_eq_map, List.map_append, List.map_singleton, Value.unlabelled_str] at h
  have hnamed : ∀ k ∈ unlabelledNamed named, k.1 ≠ "y" := by
    intro k hk
    rw [unlabelledNamed_eq_map] at hk
    obtain ⟨q, hq, rfl⟩ := List.mem_map.1 hk
    exact hy q hq
  obtain ⟨hwritten, hoperands⟩ := instruction_spec hresult hnamed h
  refine ⟨hwritten, fun o ho => ?_⟩
  obtain ⟨hmem, s, hs⟩ := hoperands o ho
  obtain ⟨v, hv, rfl⟩ := List.mem_map.1 hmem
  rw [Value.bare_unlabelled] at hs
  exact ⟨s, hs, v, hv, hs⟩

end Primitive

/-! ### The class of an instruction -/

theorem Op.cls_parameter (dims : List Value) (init : Value) (options : List (String × Value)) :
    (Op.parameter dims init options).cls = .par := by
  unfold Op.parameter
  split <;> rfl

theorem Op.cls_dropout {rate : Value} {op : Op} (h : Op.dropout rate = .ok op) :
    op.cls = .drop := by
  unfold Op.dropout at h
  obtain ⟨low, -, h⟩ := bind_eq_ok.1 h
  cases low with
  | false => exact absurd h throw_ne_ok
  | true =>
    obtain ⟨high, -, h⟩ := bind_eq_ok.1 h
    cases high with
    | false => exact absurd h throw_ne_ok
    | true =>
      obtain rfl := pure_eq_ok.1 h
      rfl

namespace Primitive

theorem op_plainInstruction {op : Op} {registers : List Value} {i : Instruction}
    (h : plainInstruction op registers = .ok i) : i.op = op := by
  simp only [plainInstruction, mapError_eq_ok, Instruction.checked, bind_eq_ok, pure_eq_ok] at h
  obtain ⟨⟨⟩, -, -, -, rfl⟩ := h
  rfl

/-- **A primitive builds an operator of its class.** -/
theorem cls_instruction {p : Primitive} {args : List Value} {keywords : List (String × Value)}
    {i : Instruction} (h : p.instruction args keywords = .ok i) : i.op.cls = p.opClass := by
  cases p
  case par =>
    simp only [instruction, parameter] at h
    cases hlast : args.getLast? with
    | none =>
      rw [hlast] at h
      exact absurd h throw_ne_ok
    | some result =>
      rw [hlast] at h
      simp only [bind_eq_ok, mapError_eq_ok, Instruction.checked, pure_eq_ok] at h
      obtain ⟨dims, -, bound, -, -, -, -, -, rfl⟩ := h
      exact Op.cls_parameter ..
  all_goals
    simp only [instruction, bind_eq_ok, liftFault_eq_ok] at h
    obtain ⟨bound, hbound, h⟩ := h
    have hlength := Constructor.length_of_bind hbound
  case arr =>
    obtain ⟨y, init, hvalues⟩ := List.length_eq_two.1 hlength
    rw [hvalues] at h
    split at h
    · exact absurd h throw_ne_ok
    · obtain ⟨tensor, -, h⟩ := bind_eq_ok.1 h
      rw [op_plainInstruction h]
      rfl
    · rename_i notArr _
      cases notArr
    · rename_i notTwo _
      exact (notTwo _ _ rfl rfl).elim
  case drop =>
    obtain ⟨x, y, rate, hvalues⟩ := List.length_eq_three.1 hlength
    rw [hvalues] at h
    obtain ⟨op, hop, h⟩ := bind_eq_ok.1 h
    rw [op_plainInstruction h]
    exact Op.cls_dropout (liftFault_eq_ok.1 hop)
  case dot | add | mul | relu | sigm | tanh | soft =>
    rw [op_plainInstruction h]
    rfl

end Primitive

end Laminar
