import Mathlib
import Laminar.Proofs.SingleAssignment

/-!
# Where the result of a call goes

A call is expanded with an output: the register that is to receive its result.  A layer hands its
output to the last call of its body, so in the end the output reaches one primitive, as the last of
its positional values.  A primitive has no other way to know it, and binds it like any value.

Hence the last instruction of a program writes the output if the primitive at the end binds it to
the formal of the result, and there are two ways in which it does not.

* A keyword `y` is given, and operands are missing: then the output is taken for an operand, and the
  keyword says what is written.
* The primitive is `arr` and has an operand too many: then that is what is written, and the output
  is taken for the array, which works if it is the text of a number.

`Primitive.result_cases` proves that there is no third one, `result_of_expands` carries the output
down to the primitive at the end.  The same descent says where a keyword `y` comes from: the call
gives it, or some layer writes it.
-/

namespace Laminar

/-! ### One primitive -/

section Binding

variable {c : Constructor} {after : List Formal} {args : List Value}
  {keywords : List (String × Value)} {b : Bound}

/-- The formal of the result holds the positional value at its place, or the keyword `y`. -/
theorem Primitive.result_of_bind (front : List Formal)
    (hformals : c.formals = front ++ resultFormal :: after) (h : c.bind args keywords = .ok b) :
    ∃ before r later, b.values = before ++ r :: later ∧ before.length = front.length ∧
      later.length = after.length ∧ (args[front.length]? = some r ∨ ("y", r) ∈ keywords) := by
  obtain ⟨hle, rest, hvalues, hrest⟩ := Constructor.bind_values h
  have hcount : b.values.length = front.length + (after.length + 1) := by
    have hlength := hrest.length_eq
    rw [List.length_drop, hformals] at hlength
    rw [hformals] at hle
    simp only [List.length_append, List.length_cons] at hlength hle
    rw [hvalues, List.length_append]
    omega
  have hplace : front.length < b.values.length := by omega
  refine ⟨b.values.take front.length, b.values[front.length], b.values.drop (front.length + 1),
    ?_, ?_, ?_, ?_⟩
  · rw [List.getElem_cons_drop, List.take_append_drop]
  · rw [List.length_take]
    omega
  · rw [List.length_drop]
    omega
  · rcases lt_or_ge front.length args.length with hgiven | hmissing
    · left
      simp only [hvalues, List.getElem_append_left hgiven, List.getElem?_eq_getElem hgiven]
    · right
      -- The formal got no positional value, and it has no default.
      have hsource := (List.forall₂_iff_get.1 hrest).2 (front.length - args.length)
        (by rw [List.length_drop, hformals]; simp; omega)
        (by rw [hvalues, List.length_append] at hplace; omega)
      have hformal : (c.formals.drop args.length).get
          ⟨front.length - args.length, by rw [List.length_drop, hformals]; simp; omega⟩ =
            resultFormal := by
        simp [hformals, Nat.add_sub_cancel' hmissing]
      rw [hformal] at hsource
      have hvalue : b.values[front.length] = rest.get
          ⟨front.length - args.length, by rw [hvalues, List.length_append] at hplace; omega⟩ := by
        simp only [hvalues, List.getElem_append_right hmissing, List.get_eq_getElem]
      rw [hvalue]
      exact hsource.resolve_right (by simp [resultFormal])

end Binding

namespace Primitive

variable {args : List Value} {result : String} {keywords : List (String × Value)} {i : Instruction}

/-- A constructor whose last formal is the result writes the last positional value, or the
keyword `y`. -/
theorem result_of_plain {c : Constructor} (front : List Formal) {b : Bound} {op : Op}
    (hformals : c.formals = front ++ [resultFormal])
    (hbind : c.bind (args ++ [.str result]) keywords = .ok b)
    (h : plainInstruction op b.values = .ok i) :
    i.result = .str result ∨ ("y", i.result) ∈ keywords := by
  obtain ⟨before, r, later, hvalues, -, hlater, hr⟩ := result_of_bind front hformals hbind
  obtain rfl := List.length_eq_zero_iff.1 hlater
  rw [hvalues] at h
  obtain ⟨rfl, -⟩ := plainInstruction_eq_ok before h
  refine hr.imp_left fun hplace => ?_
  -- Nothing comes after the result, so it is the last value if it is any.
  have hcount := (Constructor.bind_values hbind).1
  simp only [hformals, List.length_append, List.length_singleton] at hcount
  have hlast : front.length = args.length := by
    have := (List.getElem?_eq_some_iff.1 hplace).1
    simp only [List.length_append, List.length_singleton] at this
    omega
  rw [hlast, List.getElem?_concat_length] at hplace
  exact (Option.some.inj hplace).symm

/-- **What a primitive writes.** The last positional value, the keyword `y`, or, if it is `arr` with
a surplus operand, that operand. -/
theorem result_cases {p : Primitive}
    (h : p.instruction (args ++ [.str result]) keywords = .ok i) :
    i.result = .str result ∨ (p ≠ .par ∧ ("y", i.result) ∈ keywords) ∨
      (p = .arr ∧ args = [i.result] ∧ (Decimal.readFloat? result).isSome) := by
  cases p
  case par =>
    simp only [instruction, parameter, List.getLast?_concat, bind_eq_ok, mapError_eq_ok,
      Instruction.checked, pure_eq_ok] at h
    obtain ⟨dims, -, bound, -, -, -, -, -, rfl⟩ := h
    exact .inl rfl
  all_goals
    simp only [instruction, bind_eq_ok, liftFault_eq_ok] at h
    obtain ⟨bound, hbound, h⟩ := h
  case arr =>
    obtain ⟨before, r, later, hvalues, hbefore, hlater, hr⟩ :=
      result_of_bind [] rfl hbound
    obtain rfl := List.length_eq_zero_iff.1 hbefore
    obtain ⟨init, rfl⟩ := List.length_eq_one_iff.1 hlater
    rw [hvalues] at h
    obtain ⟨t, ht, hwritten⟩ : ∃ t, Tensor.ofValue init = .ok t ∧ i.result = r := by
      split at h
      · exact absurd h throw_ne_ok
      · rename_i heq
        cases heq
        obtain ⟨t, ht, h⟩ := bind_eq_ok.1 h
        exact ⟨t, liftFault_eq_ok.1 ht, (plainInstruction_eq_ok [] h).1⟩
      · rename_i notArr _
        cases notArr
      · rename_i notTwo _
        exact (notTwo _ _ rfl rfl).elim
    rw [hwritten]
    rcases hr with hfirst | hkeyword
    · cases args with
      | nil => exact .inl (Option.some.inj hfirst).symm
      | cons a rest =>
        -- There is room for one operand only, and then the output is the array.
        obtain ⟨hcount, others, hall, -⟩ := Constructor.bind_values hbound
        obtain rfl : rest = [] := by
          simp only [formals, List.length_append, List.length_cons, List.length_nil] at hcount
          exact List.length_eq_zero_iff.1 (by omega)
        rw [hvalues] at hall
        obtain ⟨rfl, rfl, -⟩ : r = a ∧ init = .str result ∧ others = [] := by simpa using hall
        refine .inr (.inr ⟨rfl, rfl, ?_⟩)
        rw [Option.isSome_iff_ne_none]
        exact fun hnone => Tensor.ofValue_str hnone t ht
    · exact .inr (.inl ⟨by simp, hkeyword⟩)
  case drop =>
    obtain ⟨before, r, later, hvalues, hbefore, hlater, hr⟩ :=
      result_of_bind [{ name := "x" }] rfl hbound
    obtain ⟨x, rfl⟩ := List.length_eq_one_iff.1 hbefore
    obtain ⟨rate, rfl⟩ := List.length_eq_one_iff.1 hlater
    rw [hvalues] at h
    obtain ⟨op, hop, h⟩ := bind_eq_ok.1 h
    obtain ⟨rfl, -⟩ := plainInstruction_eq_ok [x] h
    rcases hr with hsecond | hkeyword
    · obtain ⟨hcount, others, hall, -⟩ := Constructor.bind_values hbound
      rw [hvalues] at hall
      rcases args with _ | ⟨a, _ | ⟨a', _ | ⟨a'', rest⟩⟩⟩
      · cases hsecond
      · exact .inl (Option.some.inj hsecond).symm
      · obtain ⟨-, -, rfl, -⟩ : x = a ∧ i.result = a' ∧ rate = .str result ∧ others = [] := by
          simpa using hall
        exact absurd (liftFault_eq_ok.1 hop) (Op.dropout_str result op)
      · simp only [formals, List.length_append, List.length_cons, List.length_nil] at hcount
        omega
    · exact .inr (.inl ⟨by simp, hkeyword⟩)
  case dot | add | mul =>
    have hcases := result_of_plain [{ name := "x1" }, { name := "x2" }] rfl hbound h
    exact hcases.imp_right fun hkeyword => .inl ⟨by simp, hkeyword⟩
  case relu | sigm | tanh | soft =>
    have hcases := result_of_plain [{ name := "x" }] rfl hbound h
    exact hcases.imp_right fun hkeyword => .inl ⟨by simp, hkeyword⟩

end Primitive

/-! ### Down to the primitive at the end -/

/-- Does a call give a keyword with the name of the result of a primitive? -/
def Pending.GivesResult (call : Pending) : Prop :=
  ∃ k n, .keyword k n ∈ blockEntries call.args ∧ k.bare = .str "y"

/-- A value that is a text is that text without its object. -/
theorem Value.unlabelled_of_bare {v : Value} {s : String} (h : v.bare = .str s) :
    v.unlabelled = .str s := by
  cases v
  case kept id w =>
    obtain rfl : w = .str s := h
    rfl
  case str t => exact h
  all_goals cases h

/-- The instruction at the end of a program that was expanded for a call: some primitive is given
the output after its operands, and a keyword `y` that it is given was written somewhere. -/
structure EmittedFor (lib : Library) (call : Pending) (out : String) (p : Primitive)
    (values : List Value) (named : List (String × Value)) (i : Instruction) : Prop where
  emitted : p.instruction (unlabelledList (values ++ [.str out])) (unlabelledNamed named) = .ok i
  origin : ∀ k ∈ named, k.1 = "y" → call.GivesResult ∨ ¬ lib.registry.SparesResult

/-- A keyword `y` of a call in the body of a layer is written there, or was given to the layer. -/
theorem Filled.givesResult {lib : Library} {d : Definition} {b : Binding} {call last : Pending}
    {closure : List (String × Value)} {out : String} {n : Int} {s : BodyStatement}
    {c after : Counters} {values : List Value} {named : List (String × Value)}
    (hfilled : Filled d (d.actuals b closure out n) s last) (hs : s ∈ d.body)
    (held : lib.registry.Holds d) (args : Evaluated lib call c values named after)
    (hbind : d.signature.bind values named = .ok b) (h : last.GivesResult) :
    call.GivesResult ∨ ¬ lib.registry.SparesResult := by
  obtain ⟨k, m, hk, hname⟩ := h
  obtain ⟨name, rfl, horigin⟩ := hfilled.names hk
  cases hname
  rcases horigin with hwritten | ⟨v, hcollected⟩
  · exact .inr fun hspares => hspares d held (List.mem_flatMap.2 ⟨s, hs, hwritten⟩)
  · obtain ⟨k', m', hk', hname', -⟩ :=
      args.named_given _ ((Signature.bind_values hbind).2 hcollected)
    exact .inl ⟨k', m', hk', hname'⟩

/-- **The output reaches the primitive at the end.** -/
theorem result_of_expands {lib : Library} (hr : lib.registry.Ordinary) {calls : List Pending}
    {c c' : Counters} {prog : Program} (h : Expands lib calls c prog c') {final : Pending}
    {out : String} (hfinal : calls.getLast? = some final) (hout : final.output.bare = .str out) :
    ∃ body i p values named, prog = body ++ [i] ∧ EmittedFor lib final out p values named i := by
  induction h generalizing final out with
  | done => cases hfinal
  | @primitive call rest c c₁ c₂ values named p i prog args emitted more ih =>
    rw [List.getLast?_cons] at hfinal
    cases hrest : rest.getLast? with
    | none =>
      obtain rfl := List.getLast?_eq_none_iff.1 hrest
      obtain rfl : call = final := Option.some.inj hfinal
      cases more
      refine ⟨[], i, p, values, named, rfl, ?_, ?_⟩
      · rw [unlabelledList_eq_map, List.map_append, List.map_singleton] at emitted ⊢
        rwa [Value.unlabelled_of_bare hout] at emitted
      · intro k hk hname
        obtain ⟨k', m, hk', hbare, -⟩ := args.named_given k hk
        exact .inl ⟨k', m, hk', hname ▸ hbare⟩
    | some last =>
      rw [hrest] at hfinal
      obtain rfl : last = final := Option.some.inj hfinal
      obtain ⟨body, j, q, values', named', rfl, hlast⟩ := ih hrest hout
      exact ⟨i :: body, j, q, values', named', rfl, hlast⟩
  | @layer call rest body c c₁ c₂ c₃ values named d b inside inner prog args held bound filled _
      more ih ih' =>
    rw [List.getLast?_cons] at hfinal
    cases hrest : rest.getLast? with
    | none =>
      obtain rfl := List.getLast?_eq_none_iff.1 hrest
      obtain rfl : call = final := Option.some.inj hfinal
      cases more
      obtain ⟨hbind, hname⟩ := Definition.bindCall_eq_ok bound
      obtain rfl : out = inside := Value.str.inj (hout.symm.trans hname)
      -- The last call of the body has the output of the layer for its own.
      have hregisters := outputs_of_filled (hr.accepted held).wellFormed.nodup_locals filled
      have hlast : (body.map Pending.output).getLast? = some (.str out) := by
        rw [hregisters, Definition.registers, List.getLast?_concat]
      rw [List.getLast?_map, Option.map_eq_some_iff] at hlast
      obtain ⟨last, hmem, houtput⟩ := hlast
      obtain ⟨front, i, p, values', named', rfl, hemitted⟩ :=
        ih hmem (by rw [houtput, Value.bare_str])
      obtain ⟨s, hs, hfilled⟩ := exists_of_forall₂ filled.flip (List.mem_of_getLast? hmem)
      refine ⟨front, i, p, values', named', List.append_nil _, hemitted.emitted, ?_⟩
      intro k hk hname
      rcases hemitted.origin k hk hname with hgiven | hwritten
      · exact hfilled.givesResult hs held args hbind hgiven
      · exact .inr hwritten
    | some last =>
      rw [hrest] at hfinal
      obtain rfl : last = final := Option.some.inj hfinal
      obtain ⟨front, j, q, values', named', rfl, hlast⟩ := ih' hrest hout
      exact ⟨inner ++ front, j, q, values', named', (List.append_assoc ..).symm, hlast⟩

/-! ### Calls -/

/-- **Where the result of a call goes.** A call that is expanded yields a program that is not empty.
Its last instruction is that of a primitive which is given the output after its operands.  It writes
the output, unless a keyword `y` takes its place, which the call gives or some layer writes, or the
primitive is `arr` with an operand, and the output is the text of a number. -/
theorem resolveCall_result {lib : Library} (hr : lib.registry.Ordinary) {depth : Nat}
    {callee : Value} {args : List Node} {output : Value} {out : String}
    (hout : output.bare = .str out) {c c' : Compiler} {prog : Program}
    (h : (resolveCall lib depth callee args output).run c = (.ok prog, c')) :
    ∃ (body : Program) (i : Instruction) (p : Primitive) (operands : List Value)
        (named : List (String × Value)),
      prog = body ++ [i] ∧ p.instruction (operands ++ [.str out]) named = .ok i ∧
      (i.result = .str out ∨
        (p ≠ .par ∧ ("y", i.result) ∈ named ∧
          (Pending.GivesResult ⟨callee, args, output⟩ ∨ ¬ lib.registry.SparesResult)) ∨
        (p = .arr ∧ operands = [i.result] ∧ (Decimal.readFloat? out).isSome)) := by
  obtain ⟨body, i, p, values, named, hprog, hemitted⟩ :=
    result_of_expands hr (expands_of_resolveCall hr h) rfl hout
  have hinstruction := hemitted.emitted
  rw [unlabelledList_eq_map, List.map_append, List.map_singleton, Value.unlabelled_str]
    at hinstruction
  refine ⟨body, i, p, values.map Value.unlabelled, unlabelledNamed named, hprog, hinstruction, ?_⟩
  refine (Primitive.result_cases hinstruction).imp_right (Or.imp_left ?_)
  rintro ⟨hp, hkeyword⟩
  refine ⟨hp, hkeyword, ?_⟩
  rw [unlabelledNamed_eq_map] at hkeyword
  obtain ⟨k, hk, heq⟩ := List.mem_map.1 hkeyword
  exact hemitted.origin k hk (Prod.mk.inj heq).1

/-- A call of `relu` without an operand, but with a keyword `y`: the output becomes the operand, and
the keyword is what is written. -/
theorem relu_writes_keyword : ∃ i : Instruction,
    (resolveCall .standard 1 (.str "relu") (callArguments [] [("y", .str "z")]) (.str "out")).run
        {} = (.ok [i], {}) ∧
      i.operands = [.str "out"] ∧ i.result = .str "z" ∧
      ∃ (p : Primitive) (operands : List Value) (named : List (String × Value)),
        p.instruction (operands ++ [.str "out"]) named = .ok i ∧ ("y", i.result) ∈ named := by
  have hrun : (resolveCall .standard 1 (.str "relu") (callArguments [] [("y", .str "z")])
      (.str "out")).run {} = (.ok [⟨.relu, [.str "out"], .str "z"⟩], {}) := by rfl
  obtain ⟨body, i, p, operands, named, hprog, hemitted, hcases⟩ :=
    resolveCall_result Registry.ordinary_default rfl hrun
  obtain ⟨rfl, rfl⟩ : body = [] ∧ i = ⟨.relu, [.str "out"], .str "z"⟩ := by
    rcases List.append_eq_singleton_iff.1 hprog.symm with ⟨hbody, hi⟩ | ⟨-, hnone⟩
    · exact ⟨hbody, (List.singleton_inj.1 hi)⟩
    · cases hnone
  refine ⟨_, hrun, rfl, rfl, p, operands, named, hemitted, ?_⟩
  rcases hcases with hkept | ⟨-, hkeyword, -⟩ | ⟨-, -, hnumber⟩
  · exact absurd (Value.str.inj hkept) (by decide)
  · exact hkeyword
  · exact absurd hnumber (by decide +kernel)

end Laminar
