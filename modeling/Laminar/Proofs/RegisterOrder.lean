import Mathlib
import Laminar.Proofs.Expansion
import Laminar.Proofs.Registers

/-!
# Does operator `i` write register `i`?

The tables of a net are read as if operator `i` wrote register `i`: the parameters of a net are the
*positions* of its trainable arrays among the operators, and a listing prints next to operator `i`
the symbol of register `i`.  Both are right exactly if the program reads nothing that was not
written before.  Compilation does not promise that: an input of a layer may be given by keyword, and
its name is then read without being declared.

* `Net.written` lists what the operators write, inputs first.
* `Net.written_eq_symbols_iff` is the exact condition, and what follows from it for parameters and
  listings.
-/

namespace Laminar

/-! ### Listings -/

/-- A line shows the number of an operator, the symbol of that number, and the operator. -/
theorem listingFrom_eq_ok {symbols : List Value} {i : Nat} {entries : List (Op × List Nat)}
    {lines : List String} (h : listingFrom symbols i entries = .ok lines) :
    lines.length = entries.length ∧ ∀ (k : Nat) (line : String), lines[k]? = some line →
      ∃ op text rest, (entries.map Prod.fst)[k]? = some op ∧
        paddedName (symbols.getD (i + k) (.str "?")) = .ok text ∧
        line = indexText (i + k) ++ "  " ++ text ++ " " ++ op.repr ++ rest := by
  induction entries generalizing i lines with
  | nil =>
    simp only [listingFrom, pure_eq_ok] at h
    subst h
    simp
  | cons e entries ih =>
    obtain ⟨op, registers⟩ := e
    simp only [listingFrom, bind_eq_ok, pure_eq_ok] at h
    obtain ⟨text, htext, -, -, others, hothers, rfl⟩ := h
    obtain ⟨hlength, hlines⟩ := ih hothers
    refine ⟨by simp [hlength], fun k line hline => ?_⟩
    cases k with
    | zero =>
      obtain rfl := Option.some.inj hline
      refine ⟨op, text, "  [" ++ commaJoin (registers.map toString) ++ "]", rfl, htext, ?_⟩
      simp [String.append_assoc]
    | succ k =>
      obtain ⟨op', text', rest, hop, htext', hline'⟩ := hlines k line hline
      refine ⟨op', text', rest, hop, ?_, ?_⟩
      · rw [← Nat.add_assoc, Nat.add_right_comm]
        exact htext'
      · rw [← Nat.add_assoc, Nat.add_right_comm]
        exact hline'

/-! ### Results are texts -/

theorem isText_of_checked {op : Op} {operands : List Value} {result : Value} {i : Instruction}
    (h : Instruction.checked op operands result = .ok i) : IsText i.result := by
  simp only [Instruction.checked, bind_eq_ok, pure_eq_ok] at h
  obtain ⟨-, -, s, hresult, rfl⟩ := h
  exact isText_of_checkSymbol hresult

/-- Whatever a primitive emits, it writes a register that a text names. -/
theorem Primitive.isText_result {p : Primitive} {args : List Value}
    {keywords : List (String × Value)} {i : Instruction}
    (h : p.instruction args keywords = .ok i) : IsText i.result := by
  have plain {op : Op} {registers : List Value} (h : plainInstruction op registers = .ok i) :
      IsText i.result := isText_of_checked (mapError_eq_ok.1 h)
  unfold instruction at h
  split at h
  · unfold parameter at h
    split at h
    · exact absurd h throw_ne_ok
    · obtain ⟨dims, -, bound, -, h⟩ := by simpa only [bind_eq_ok] using h
      exact isText_of_checked (mapError_eq_ok.1 h)
  · obtain ⟨bound, -, h⟩ := bind_eq_ok.1 h
    split at h
    · exact absurd h throw_ne_ok
    · obtain ⟨t, -, h⟩ := bind_eq_ok.1 h
      exact plain h
    · obtain ⟨op, -, h⟩ := bind_eq_ok.1 h
      exact plain h
    · exact plain h

/-- Every instruction of a compiled program writes a register that a text names. -/
theorem isText_of_expands {lib : Library} {calls : List Pending} {c c' : Counters} {prog : Program}
    (h : Expands lib calls c prog c') : ∀ i ∈ prog, IsText i.result := by
  induction h with
  | done => simp
  | primitive _ emitted _ ih =>
    exact List.forall_mem_cons.2 ⟨Primitive.isText_result emitted, ih⟩
  | layer _ _ _ _ _ _ inside more => exact List.forall_mem_append.2 ⟨inside, more⟩

/-- A text is the same key as itself. -/
theorem IsText.sameKey_self {v : Value} (h : IsText v) : v.sameKey v = true := by
  obtain ⟨s, hs⟩ := h
  cases v with
  | kept id w =>
    obtain rfl : w = .str s := hs
    simp [Value.sameKey, Value.sameHash, Value.same, Value.eq, Value.hashKey, HashKey.settle,
      HashKey.same, Value.bare, pure, Except.pure, bind, Except.bind]
  | str t => simp
  | _ => cases hs

/-! ### Nets -/

/-- What the operators of a net write, in order: the declared inputs, then the results. -/
def Net.written (net : Net) : List Value := net.inputs ++ net.program.map Instruction.result

/-- The program and the registers of a net that was built. -/
theorem Net.build_eq_ok {lib : Library} {depth : Nat} {name : String} {inputs : Option Value}
    {output : Value} {params : List (String × Value)} {c c' : Compiler} {net : Net}
    (h : (Net.build lib depth name inputs output params).run c = (.ok net, c')) :
    (∃ c₀ c₁, (compileCall lib depth (.str name) net.inputs output params).run c₀ =
        (.ok net.program, c₁)) ∧
      assemble (net.program.map Instruction.toValue) net.inputs = .ok net.assembly := by
  have compiled {symbols : List Value} {c₀ : Compiler}
      (h : (do
        let program ← compileCall lib depth (.str name) symbols output params
        let assembly ← MonadExcept.ofExcept (assemble (program.map Instruction.toValue) symbols)
        return { name, inputs := symbols, output, params, program, assembly } :
          Compile Net).run c₀ = (.ok net, c')) :
      (∃ c₀ c₁, (compileCall lib depth (.str name) net.inputs output params).run c₀ =
          (.ok net.program, c₁)) ∧
        assemble (net.program.map Instruction.toValue) net.inputs = .ok net.assembly := by
    obtain ⟨program, c₁, hprogram, h⟩ := run_bind_eq_ok.1 h
    obtain ⟨assembly, c₂, hassembly, h⟩ := run_bind_eq_ok.1 h
    obtain ⟨rfl, -⟩ := run_pure_eq_ok.1 h
    rw [run_ofExcept] at hassembly
    exact ⟨⟨c₀, c₁, hprogram⟩, (Prod.mk.inj hassembly).1⟩
  unfold Net.build at h
  cases inputs with
  | none => exact compiled h
  | some v =>
    obtain ⟨symbols, c₀, -, h⟩ := run_bind_eq_ok.1 h
    exact compiled h

/-- What assembly does to the program of a net. -/
structure Net.Assembled (net : Net) : Prop where
  ops : net.assembly.ops = net.inputs.map (fun _ => Op.input) ++ net.program.map Instruction.op
  operands : net.assembly.operands.length = net.assembly.ops.length
  distinct : Distinct net.assembly.symbols
  symbols : ReadsWritten net.inputs net.program → net.assembly.symbols = net.written
  readsWritten : net.assembly.symbols.length = net.written.length →
    ReadsWritten net.inputs net.program
  last : ∀ i, net.program.getLast? = some i → net.assembly.symbols.getLast? = some i.result

theorem Net.assembled {net : Net}
    (h : assemble (net.program.map Instruction.toValue) net.inputs = .ok net.assembly) :
    net.Assembled := by
  obtain ⟨a, hinputs, hentries⟩ := bind_eq_ok.1 h
  obtain ⟨hops, hoperands, hsymbols, hdistinct⟩ := assembleInputs_eq_ok (liftFault_eq_ok.1 hinputs)
  have numbered := numbered_of_assembleEntries hentries
  simp only [List.nil_append, List.length_nil, Nat.zero_add] at hops hoperands hsymbols
  refine ⟨?_, ?_, numbered.distinct (hdistinct List.Pairwise.nil), ?_, ?_, numbered.last⟩
  · rw [numbered.ops, hops]
  · rw [numbered.operands, numbered.ops, hoperands, hops]
    simp
  · intro hreads
    rw [numbered.symbols (hsymbols ▸ hreads), hsymbols, Net.written]
  · intro hlength
    have hreads := numbered.readsWritten
    rw [hsymbols] at hreads
    exact hreads (by rw [hlength, Net.written, List.length_append, List.length_map])

namespace Net.Assembled

variable {net : Net} (h : net.Assembled)

include h

theorem length_ops : net.assembly.ops.length = net.written.length := by
  rw [h.ops, Net.written, List.length_append, List.length_append, List.length_map, List.length_map,
    List.length_map]

/-- If nothing is read before it is written, every operator writes the register of its number. -/
theorem registerOf?_written (hreads : ReadsWritten net.inputs net.program) {i : Nat} {s : Value}
    (hi : net.written[i]? = some s) (hs : s.sameKey s = true) :
    registerOf? net.assembly.symbols s = some i := by
  refine registerOf?_of_distinct h.distinct hs ?_
  rw [h.symbols hreads]
  exact hi

/-- If the operators write the registers of their numbers, nothing is read before it is written:
otherwise the last result would have moved. -/
theorem readsWritten_of_written (htexts : ∀ i ∈ net.program, IsText i.result)
    (hwritten : ∀ (i : Nat) (s : Value),
      net.written[i]? = some s → net.assembly.symbols[i]? = some s) :
    ReadsWritten net.inputs net.program := by
  rcases List.eq_nil_or_concat net.program with hnil | ⟨front, i, hconcat⟩
  · rw [hnil]
    trivial
  · rw [List.concat_eq_append] at hconcat
    have hself : i.result.sameKey i.result = true :=
      (htexts i (hconcat ▸ List.mem_append_right front List.mem_cons_self)).sameKey_self
    have hlast : net.assembly.symbols.getLast? = some i.result := h.last i (by simp [hconcat])
    have hgiven : net.written.getLast? = some i.result := by simp [Net.written, hconcat]
    rw [List.getLast?_eq_getElem?] at hlast hgiven
    -- The last result stands at two positions of a list without repetitions.
    have hsame := (registerOf?_of_distinct h.distinct hself hlast).symm.trans
      (registerOf?_of_distinct h.distinct hself (hwritten _ _ hgiven))
    have hpos := (List.getElem?_eq_some_iff.1 hlast).1
    have hpos' := (List.getElem?_eq_some_iff.1 hgiven).1
    refine h.readsWritten ?_
    have := Option.some.inj hsame
    omega

/-- The operators with the class of trainable arrays are those of the program, not the inputs. -/
theorem cls_eq_par_iff {r : Nat} : net.assembly.ops[r]?.map Op.cls = some .par ↔
    ∃ j i, r = net.inputs.length + j ∧ net.program[j]? = some i ∧ i.op.cls = .par := by
  rw [h.ops]
  constructor
  · intro hr
    rcases Nat.lt_or_ge r net.inputs.length with hlt | hge
    · rw [List.getElem?_append_left (by simpa using hlt), List.getElem?_map,
        List.getElem?_eq_getElem hlt] at hr
      cases hr
    · rw [List.getElem?_append_right (by simpa using hge), List.length_map, List.getElem?_map] at hr
      obtain ⟨op, hop, hcls⟩ := Option.map_eq_some_iff.1 hr
      obtain ⟨i, hi, rfl⟩ := Option.map_eq_some_iff.1 hop
      exact ⟨r - net.inputs.length, i, by omega, hi, hcls⟩
  · rintro ⟨j, i, rfl, hi, hcls⟩
    rw [List.getElem?_append_right (by simp)]
    simp [hi, hcls]

/-- **The parameters are the registers that trainable arrays write.** -/
theorem mem_parameters (hreads : ReadsWritten net.inputs net.program)
    (htexts : ∀ i ∈ net.program, IsText i.result) {r : Nat} :
    r ∈ net.assembly.parameters ↔
      ∃ i ∈ net.program, i.op.cls = .par ∧ registerOf? net.assembly.symbols i.result = some r := by
  have hregister {j : Nat} {i : Instruction} (hi : net.program[j]? = some i) :
      registerOf? net.assembly.symbols i.result = some (net.inputs.length + j) := by
    refine h.registerOf?_written hreads ?_ (htexts i (List.mem_of_getElem? hi)).sameKey_self
    rw [Net.written, List.getElem?_append_right (Nat.le_add_right _ _)]
    simp [hi]
  simp only [Assembly.parameters, List.mem_filter, List.mem_range, beq_iff_eq]
  constructor
  · rintro ⟨-, hcls⟩
    obtain ⟨j, i, rfl, hi, hpar⟩ := h.cls_eq_par_iff.1 hcls
    exact ⟨i, List.mem_of_getElem? hi, hpar, hregister hi⟩
  · rintro ⟨i, hi, hpar, hr⟩
    obtain ⟨j, hj⟩ := List.mem_iff_getElem?.1 hi
    obtain rfl : net.inputs.length + j = r := Option.some.inj ((hregister hj).symm.trans hr)
    have hcls := h.cls_eq_par_iff.2 ⟨j, i, rfl, hj, hpar⟩
    obtain ⟨op, hop, -⟩ := Option.map_eq_some_iff.1 hcls
    exact ⟨(List.getElem?_eq_some_iff.1 hop).1, hcls⟩

/-- **A listing shows each operator with the symbol it writes.** -/
theorem listing (hreads : ReadsWritten net.inputs net.program) {lines : List String}
    (hlines : net.assembly.listing = .ok lines) :
    lines.length = net.assembly.ops.length ∧ ∀ (k : Nat) (line : String), lines[k]? = some line →
      ∃ s op text rest, net.written[k]? = some s ∧ net.assembly.ops[k]? = some op ∧
        paddedName s = .ok text ∧
        line = indexText k ++ "  " ++ text ++ " " ++ op.repr ++ rest := by
  obtain ⟨hlength, hshown⟩ := listingFrom_eq_ok hlines
  have hops : (net.assembly.ops.zip net.assembly.operands).map Prod.fst = net.assembly.ops :=
    List.map_fst_zip h.operands.ge
  rw [← List.length_map (f := Prod.fst), hops] at hlength
  refine ⟨hlength, fun k line hline => ?_⟩
  obtain ⟨op, text, rest, hop, htext, rfl⟩ := hshown k line hline
  rw [hops] at hop
  rw [Nat.zero_add] at htext ⊢
  have hlt : k < net.written.length := h.length_ops ▸ (List.getElem?_eq_some_iff.1 hop).1
  obtain ⟨s, hs⟩ : ∃ s, net.written[k]? = some s := ⟨_, List.getElem?_eq_getElem hlt⟩
  refine ⟨s, op, text, rest, hs, hop, ?_, rfl⟩
  rw [← htext, h.symbols hreads, List.getD_eq_getElem?_getD, hs, Option.getD_some]

end Net.Assembled

/-- **When operator `i` writes register `i`.** The operators of a net are its inputs and then its
instructions.  There are as many registers as operators, and operator `i` writes register `i`,
exactly if the program reads nothing but declared inputs and earlier results.  Then the parameters
are the registers that trainable arrays write, and line `i` of the listing names the symbol that
operator `i` writes. -/
theorem Net.written_eq_symbols_iff {lib : Library} (hr : lib.registry.Ordinary) {depth : Nat}
    {name : String} {inputs : Option Value} {output : Value} {params : List (String × Value)}
    {c c' : Compiler} {net : Net}
    (h : (Net.build lib depth name inputs output params).run c = (.ok net, c')) :
    net.assembly.ops = net.inputs.map (fun _ => Op.input) ++ net.program.map Instruction.op ∧
      (net.assembly.ops.length = net.registers ↔ ReadsWritten net.inputs net.program) ∧
      ((∀ (i : Nat) (s : Value), net.written[i]? = some s → net.assembly.symbols[i]? = some s) ↔
        ReadsWritten net.inputs net.program) ∧
      (ReadsWritten net.inputs net.program →
        (∀ (i : Nat) (s : Value), net.written[i]? = some s → s.sameKey s = true →
          registerOf? net.assembly.symbols s = some i) ∧
        (∀ r, r ∈ net.assembly.parameters ↔ ∃ i ∈ net.program,
          i.op.cls = .par ∧ registerOf? net.assembly.symbols i.result = some r) ∧
        ∀ lines, net.assembly.listing = .ok lines →
          lines.length = net.assembly.ops.length ∧
          ∀ (k : Nat) (line : String), lines[k]? = some line →
            ∃ s op text rest, net.written[k]? = some s ∧ net.assembly.ops[k]? = some op ∧
              paddedName s = .ok text ∧
              line = indexText k ++ "  " ++ text ++ " " ++ op.repr ++ rest) := by
  obtain ⟨⟨c₀, c₁, hprogram⟩, hassembly⟩ := Net.build_eq_ok h
  have htexts : ∀ i ∈ net.program, IsText i.result :=
    isText_of_expands (expands_of_compileCall hr hprogram)
  have assembled := Net.assembled hassembly
  refine ⟨assembled.ops, ⟨?_, ?_⟩, ⟨assembled.readsWritten_of_written htexts, ?_⟩, ?_⟩
  · intro hlength
    exact assembled.readsWritten (hlength.symm.trans assembled.length_ops)
  · intro hreads
    rw [assembled.length_ops, Net.registers, assembled.symbols hreads]
  · intro hreads i s hi
    rw [assembled.symbols hreads]
    exact hi
  · intro hreads
    exact ⟨fun i s => assembled.registerOf?_written hreads,
      fun r => assembled.mem_parameters hreads htexts, fun lines => assembled.listing hreads⟩

/-- **A net whose tables disagree.** An affine layer without declared inputs whose input is given by
keyword reads the register `a`, which nothing writes.  There are four operators and five registers,
and the second parameter is said to be register 2, while the bias is in register 3. -/
theorem affine_reads_unwritten : ∃ net c',
    (Net.build .standard 5 "wb" (some (.list [])) (.str "y")
      [("x", .str "a"), ("out", .int 3)]).run {} = (.ok net, c') ∧
      net.assembly.ops.length = 4 ∧ net.registers = 5 ∧ net.assembly.parameters = [0, 2] ∧
      registerOf? net.assembly.symbols (.str "##b#2") = some 3 ∧
      ¬ ReadsWritten net.inputs net.program := by
  have hok : ((Net.build .standard 5 "wb" (some (.list [])) (.str "y")
      [("x", .str "a"), ("out", .int 3)]).run {}).1.isOk = true := by decide +kernel
  have htables : (((Net.build .standard 5 "wb" (some (.list [])) (.str "y")
      [("x", .str "a"), ("out", .int 3)]).run {}).1.toOption.map fun net : Net =>
        (net.assembly.ops.length, net.registers, net.assembly.parameters,
          registerOf? net.assembly.symbols (.str "##b#2"))) = some (4, 5, [0, 2], some 3) := by
    decide +kernel
  obtain ⟨net, c', hrun⟩ := exists_of_isOk hok
  rw [hrun] at htables
  obtain ⟨hops, hregisters, hparameters, hbias⟩ :
      net.assembly.ops.length = 4 ∧ net.registers = 5 ∧ net.assembly.parameters = [0, 2] ∧
        registerOf? net.assembly.symbols (.str "##b#2") = some 3 := by
    simpa [Except.toOption] using htables
  refine ⟨net, c', hrun, hops, hregisters, hparameters, hbias, fun hreads => ?_⟩
  have hlength := (Net.written_eq_symbols_iff Registry.ordinary_default hrun).2.1.2 hreads
  rw [hops, hregisters] at hlength
  exact absurd hlength (by decide)

end Laminar
