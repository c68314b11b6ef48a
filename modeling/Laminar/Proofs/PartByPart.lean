import Mathlib
import Laminar.Proofs.NumberTexts
import Laminar.Proofs.QuotedTexts

/-!
# Comparing the texts of values part by part

Two values of one form are written by one rule, so their texts can be compared part by part, without
writing them.  `Value.spelling` does that for values and `Op.spelling` for operators, down to texts,
numbers and ranges.

**What decides.**  Equal numbers are written alike only if they have the same type, and zeros only
if they have the same sign.  Options of an operator are compared in the order in which they are
given: the first name that differs decides.

**What stays unclear.**  The comparison gives up at parts of different forms, and at parts without
parts of their own that are not equal, unless both are texts or both are whole numbers.  So it can
give up on equal values only at the items of a set and the entries of a dictionary, which are equal
in any order, and at an object that is equal to itself.

* `Value.told_spelling`, `Op.told_spelling` and `Node.told_spelling`: **the comparison is right
  about the texts.**
* `Op.told_keyText`: so it is about the texts of all that tells operators of one class apart.
-/

namespace Laminar

/-! ### The comparison -/

/-- Compare the texts of two values without parts. -/
def Value.leafSpelling (v w : Value) : Spelling :=
  match v, w.bare with
  | .str a, .str b => .ofBool (a == b)
  | .int a, .int b => .ofBool (a == b)
  | .range a b c, .range a' b' c' => .ofBool (a == a' && b == b' && c == c')
  | v, _ => .provided (v.eq w) (.ofBool (v.numeral? = w.numeral?))

mutual

/-- Compare the texts of two values part by part.  One and the same object has one text. -/
def Value.spelling (v w : Value) : Spelling :=
  if v.identical w then .provided (v.repr == w.repr) .alike
  else match v with
    | .kept _ v => v.spelling w
    | .list a =>
      match w.bare with
      | .list b => .provided (a.length == b.length) (spellingList a b)
      | _ => .unclear
    | .tuple a =>
      match w.bare with
      | .tuple b => .provided (a.length == b.length) (spellingList a b)
      | _ => .unclear
    | .set a =>
      match w.bare with
      | .set b => .provided (a.length == b.length) (spellingList a b)
      | _ => .unclear
    | .dict a =>
      match w.bare with
      | .dict b => .provided (a.length == b.length) (spellingEntries a b)
      | _ => .unclear
    | .initializer i =>
      match w.bare with
      | .initializer j => i.spelling j
      | _ => .unclear
    | .op a =>
      match w.bare with
      | .op b => a.spelling b
      | _ => .unclear
    | .node n =>
      match w.bare with
      | .node m => n.spelling m
      | _ => .unclear
    | v => v.leafSpelling w
termination_by structural v

/-- Compare items one by one. -/
def spellingList : List Value → List Value → Spelling
  | v :: vs, w :: ws => (v.spelling w).next (spellingList vs ws)
  | _, _ => .alike
termination_by structural vs => vs

/-- Compare the entries of dictionaries one by one. -/
def spellingEntries : List (Value × Value) → List (Value × Value) → Spelling
  | (k, v) :: es, (l, w) :: fs =>
    (k.spelling l).next ((v.spelling w).next (spellingEntries es fs))
  | _, _ => .alike
termination_by structural es => es

/-- Compare named values one by one. -/
def spellingNamed : List (String × Value) → List (String × Value) → Spelling
  | (k, v) :: es, (l, w) :: fs =>
    (Spelling.ofBool (k == l)).next ((v.spelling w).next (spellingNamed es fs))
  | _, _ => .alike
termination_by structural es => es

/-- Compare the settings of initializers. -/
def Initializer.spelling : Initializer → Initializer → Spelling
  | .base, .base => .alike
  | .gaussian a b, .gaussian a' b' => (a.spelling a').next (b.spelling b')
  | .uniform a b, .uniform a' b' => (a.spelling a').next (b.spelling b')
  | .constant a, .constant a' => a.spelling a'
  | .xavier, .xavier => .alike
  | _, _ => .unclear
termination_by structural i => i

/-- Compare the settings of operators. -/
def Op.spelling : Op → Op → Spelling
  | .par dims init opts, .par dims' init' opts' =>
    .provided (dims.length == dims'.length && opts.length == opts'.length)
      ((spellingList dims dims').next ((init.spelling init').next (spellingNamed opts opts')))
  | .drop rate, .drop rate' => rate.spelling rate'
  | a, b => .provided (a.eq b) .alike
termination_by structural o => o

/-- Compare the parts of nodes. -/
def Node.spelling : Node → Node → Spelling
  | .symbol a, .symbol b => a.spelling b
  | .const a, .const b => a.spelling b
  | .parameters a, .parameters b => .provided (a.length == b.length) (spellingParameters a b)
  | .call f a, .call g b =>
    .provided (a.length == b.length) ((f.spelling g).next (spellingNodes a b))
  | .assign a b, .assign a' b' => (a.spelling a').next (b.spelling b')
  | .block a, .block b => .provided (a.length == b.length) (spellingNodes a b)
  | .raw a, .raw b => a.spelling b
  | n, m => .provided (n.eq m && n.repr == m.repr) .alike
termination_by structural n => n

/-- Compare nodes one by one. -/
def spellingNodes : List Node → List Node → Spelling
  | n :: ns, m :: ms => (n.spelling m).next (spellingNodes ns ms)
  | _, _ => .alike
termination_by structural ns => ns

/-- Compare the parts of entries. -/
def Entry.spelling : Entry → Entry → Spelling
  | .keyword k v, .keyword l w => (k.spelling l).next (v.spelling w)
  | .other n, .other m => n.spelling m
  | _, _ => .unclear
termination_by structural e => e

/-- Compare entries one by one. -/
def spellingParameters : List Entry → List Entry → Spelling
  | e :: es, f :: fs => (e.spelling f).next (spellingParameters es fs)
  | _, _ => .alike
termination_by structural es => es

end

/-! ### Values without parts -/

/-- Has a value no parts of its own? -/
def Value.isLeaf : Value → Bool
  | .list _ | .tuple _ | .set _ | .dict _ | .initializer _ | .op _ | .node _ | .kept .. => false
  | _ => true

/-- Equal values without parts are written alike, unless they are numbers or ranges. -/
theorem Value.told_of_eq {v w : Value} (hv : v.isLeaf = true)
    (hrange : ∀ a b c a' b' c', v = .range a b c → w.bare = .range a' b' c' → False)
    (heq : v.eq w = true) :
    (Spelling.ofBool (v.numeral? = w.numeral?)).Told v.repr w.repr := by
  have halike {u : Value} (hw : w.bare = u) (hbare : u.bare = u)
      (hnumeral : v.numeral? = u.numeral?) (hrepr : v.repr = u.repr) :
      (Spelling.ofBool (v.numeral? = w.numeral?)).Told v.repr w.repr := by
    have hsame : v.numeral? = w.numeral? := by
      rw [hnumeral, Value.numeral?, Value.numeral?, hw, hbare]
    rw [decide_eq_true hsame, hrepr, ← hw, w.repr_bare]
    rfl
  unfold Value.eq at heq
  split at heq
  all_goals first | exact Bool.noConfusion hv | exact Value.told_numeral heq | skip
  -- what is left is compared as a whole
  clear * - heq hrange halike
  split at heq <;> rename_i hw
  · exact halike hw rfl rfl rfl
  · exact halike hw rfl rfl rfl
  · exact halike hw rfl rfl (by rw [beq_iff_eq.1 heq])
  · exact halike hw rfl rfl (by rw [beq_iff_eq.1 heq])
  · exact (hrange _ _ _ _ _ _ rfl hw).elim
  · exact halike hw rfl rfl (by rw [beq_iff_eq.1 heq])
  · exact halike hw rfl rfl (by rw [beq_iff_eq.1 heq])
  · exact halike hw rfl rfl rfl
  · exact halike hw rfl rfl rfl
  · exact Bool.noConfusion heq

/-- The comparison of values without parts is right about their texts. -/
theorem Value.told_leafSpelling {v : Value} (hv : v.isLeaf = true) (w : Value) :
    (v.leafSpelling w).Told v.repr w.repr := by
  unfold Value.leafSpelling
  split
  · rename_i a b hw
    rw [← w.repr_bare, hw]
    exact Text.told_quote a b
  · rename_i a b hw
    rw [← w.repr_bare, hw]
    exact told_toString a b
  · rename_i a b c a' b' c' hw
    rw [← w.repr_bare, hw]
    exact told_range a b c a' b' c'
  · rename_i hrange
    exact Spelling.told_provided (Value.told_of_eq hv hrange)

/-! ### Values with parts -/

/-- The texts of trainable arrays, whose options are left out where there are none. -/
theorem Op.told_par {s t : Spelling} {dims dims' : List Value} {init init' : Value}
    {opts opts' : List (String × Value)} (hdims : ToldEach s (reprList dims) (reprList dims'))
    (hinit : t.Told init.repr init'.repr)
    (hopts : ToldEach (spellingNamed opts opts') (reprNamed opts) (reprNamed opts')) :
    (s.next (t.next (spellingNamed opts opts'))).Told (Op.par dims init opts).repr
        (Op.par dims' init' opts').repr ∧
      (s.next (t.next (spellingNamed opts opts'))).Told (Op.par dims init opts).keyText
        (Op.par dims' init' opts').keyText := by
  have hmark : (", ").toList.head?.any isMark = true := by decide
  cases opts with
  | nil =>
    cases opts' with
    | nil =>
      refine ⟨?_, (ToldEach.cons hdims.tuple (ToldEach.cons hinit .nil)).tuple⟩
      have hpair := hdims.tuple.pair hinit "Par(" hmark (by decide : Closes ")")
      rw [← t.next_alike] at hpair
      exact hpair
    | cons _ _ => exact Nat.noConfusion hopts.length_eq
  | cons o opts =>
    cases opts' with
    | nil => exact Nat.noConfusion hopts.length_eq
    | cons o' opts' =>
      constructor
      · have hrest := hinit.append (hopts.dict.prepend ", ") (closes_of_mark hmark _)
          (closes_of_mark hmark _)
        have hall := hdims.tuple.pair hrest "Par(" hmark (by decide : Closes ")")
        simp only [← String.append_assoc] at hall
        exact hall
      · have hall := (ToldEach.cons hdims.tuple (ToldEach.cons hinit
          (ToldEach.cons hopts.dict .nil))).tuple
        rw [Spelling.next_alike] at hall
        exact hall

/-- Equal constant arrays have the same texts. -/
theorem Op.texts_eq_of_arr {t t' : Tensor} (h : (Op.arr t).eq (.arr t') = true) :
    (Op.arr t).repr = (Op.arr t').repr ∧ (Op.arr t).keyText = (Op.arr t').keyText := by
  obtain ⟨hshape, hbytes⟩ := Bool.and_eq_true_iff.1 h
  have hshape := beq_iff_eq.1 hshape
  have hbytes := beq_iff_eq.1 hbytes
  constructor
  · change "Arr(shape=" ++ shapeText t.shape ++ ")" = "Arr(shape=" ++ shapeText t'.shape ++ ")"
    rw [hshape]
  · change tupleText [shapeText t.shape, Text.quoteBytes t.bytes] =
      tupleText [shapeText t'.shape, Text.quoteBytes t'.bytes]
    rw [hshape, hbytes]

/-- What has no parts to compare is compared as a whole. -/
theorem Node.told_whole (n m : Node) :
    (Spelling.provided (n.eq m && n.repr == m.repr) .alike).Told n.repr m.repr :=
  Spelling.told_provided fun h => beq_iff_eq.1 (Bool.and_eq_true_iff.1 h).2

-- The recursion is that of the comparison.  Where the forms differ, nothing is said.
mutual

/-- **The comparison of values is right about their texts.** -/
theorem Value.told_spelling (v w : Value) : (v.spelling w).Told v.repr w.repr := by
  unfold Value.spelling
  split
  · exact Spelling.told_provided beq_iff_eq.1
  rw [← w.repr_bare]
  cases v with
  | kept id v =>
    rw [w.repr_bare]
    exact v.told_spelling w
  | list a =>
    cases w.bare with
    | list b =>
      exact Spelling.told_provided fun h =>
        (told_spellingList a b (beq_iff_eq.1 h)).enclosed "[" (by decide)
    | _ => trivial
  | tuple a =>
    cases w.bare with
    | tuple b =>
      exact Spelling.told_provided fun h => (told_spellingList a b (beq_iff_eq.1 h)).tuple
    | _ => trivial
  | set a =>
    cases w.bare with
    | set b =>
      refine Spelling.told_provided fun h => ?_
      have hitems := told_spellingList a b (beq_iff_eq.1 h)
      -- the empty set has a text of its own
      cases a with
      | nil =>
        obtain rfl : b = [] := List.length_eq_zero_iff.1 (beq_iff_eq.1 h).symm
        rfl
      | cons x xs =>
        obtain ⟨y, ys, rfl⟩ := List.exists_cons_of_length_eq_add_one (beq_iff_eq.1 h).symm
        exact hitems.dict
    | _ => trivial
  | dict a =>
    cases w.bare with
    | dict b =>
      exact Spelling.told_provided fun h => (told_spellingEntries a b (beq_iff_eq.1 h)).dict
    | _ => trivial
  | initializer i =>
    cases w.bare with
    | initializer j => exact i.told_spelling j
    | _ => trivial
  | op a =>
    cases w.bare with
    | op b => exact a.told_spelling b
    | _ => trivial
  | node n =>
    cases w.bare with
    | node m => exact n.told_spelling m
    | _ => trivial
  | _ =>
    rw [w.repr_bare]
    exact Value.told_leafSpelling rfl w
termination_by structural v

theorem told_spellingList (vs ws : List Value) (h : vs.length = ws.length) :
    ToldEach (spellingList vs ws) (reprList vs) (reprList ws) := by
  cases vs with
  | nil =>
    obtain rfl := List.length_eq_zero_iff.1 h.symm
    exact .nil
  | cons v vs =>
    obtain ⟨w, ws, rfl⟩ := List.exists_cons_of_length_eq_add_one h.symm
    exact ToldEach.cons (v.told_spelling w) (told_spellingList vs ws (Nat.succ.inj h))
termination_by structural vs

theorem told_spellingEntries (es fs : List (Value × Value)) (h : es.length = fs.length) :
    ToldEach (spellingEntries es fs) (reprEntries es) (reprEntries fs) := by
  cases es with
  | nil =>
    obtain rfl := List.length_eq_zero_iff.1 h.symm
    exact .nil
  | cons e es =>
    obtain ⟨f, fs, rfl⟩ := List.exists_cons_of_length_eq_add_one h.symm
    cases e with
    | mk k v =>
      exact ToldEach.entry (k.told_spelling f.1) (v.told_spelling f.2)
        (told_spellingEntries es fs (Nat.succ.inj h))
termination_by structural es

theorem told_spellingNamed (es fs : List (String × Value)) (h : es.length = fs.length) :
    ToldEach (spellingNamed es fs) (reprNamed es) (reprNamed fs) := by
  cases es with
  | nil =>
    obtain rfl := List.length_eq_zero_iff.1 h.symm
    exact .nil
  | cons e es =>
    obtain ⟨f, fs, rfl⟩ := List.exists_cons_of_length_eq_add_one h.symm
    cases e with
    | mk k v =>
      exact ToldEach.entry (Text.told_quote k f.1) (v.told_spelling f.2)
        (told_spellingNamed es fs (Nat.succ.inj h))
termination_by structural es

theorem Initializer.told_spelling (i j : Initializer) : (i.spelling j).Told i.repr j.repr := by
  cases i with
  | base =>
    cases j with
    | base => rfl
    | _ => trivial
  | gaussian a b =>
    cases j with
    | gaussian a' b' =>
      exact Spelling.Told.pair (a.told_spelling a') (b.told_spelling b') "Gaussian(" (by decide)
        (by decide)
    | _ => trivial
  | uniform a b =>
    cases j with
    | uniform a' b' =>
      exact Spelling.Told.pair (a.told_spelling a') (b.told_spelling b') "Uniform(" (by decide)
        (by decide)
    | _ => trivial
  | constant a =>
    cases j with
    | constant b => exact Spelling.Told.wrap (a.told_spelling b) "Constant(" (by decide)
    | _ => trivial
  | xavier =>
    cases j with
    | xavier => rfl
    | _ => trivial
termination_by structural i

/-- **The comparison of operators is right about their texts.** -/
theorem Op.told_spelling (a b : Op) : (a.spelling b).Told a.repr b.repr := by
  cases a with
  | par dims init opts =>
    cases b with
    | par dims' init' opts' =>
      refine Spelling.told_provided fun h => ?_
      obtain ⟨hdims, hopts⟩ := Bool.and_eq_true_iff.1 h
      exact (Op.told_par (told_spellingList dims dims' (beq_iff_eq.1 hdims))
        (init.told_spelling init') (told_spellingNamed opts opts' (beq_iff_eq.1 hopts))).1
    | _ => trivial
  | arr t =>
    cases b with
    | arr t' => exact Spelling.told_provided fun h => (Op.texts_eq_of_arr h).1
    | _ => trivial
  | drop r =>
    cases b with
    | drop r' => exact Spelling.Told.wrap (r.told_spelling r') "Drop(" (by decide)
    | _ => trivial
  | _ => cases b <;> trivial
termination_by structural a

/-- **The comparison of nodes is right about their texts.** -/
theorem Node.told_spelling (n m : Node) : (n.spelling m).Told n.repr m.repr := by
  cases n with
  | symbol a =>
    cases m with
    | symbol b => exact Spelling.Told.wrap (a.told_spelling b) "Symbol(" (by decide)
    | _ => exact Node.told_whole _ _
  | const a =>
    cases m with
    | const b => exact Spelling.Told.wrap (a.told_spelling b) "Const(value=" (by decide)
    | _ => exact Node.told_whole _ _
  | parameters a =>
    cases m with
    | parameters b =>
      exact Spelling.told_provided fun h => Spelling.Told.wrap
        (told_spellingParameters a b (beq_iff_eq.1 h)).tuple "Parameters(entries=" (by decide)
    | _ => exact Node.told_whole _ _
  | call f a =>
    cases m with
    | call g b =>
      exact Spelling.told_provided fun h => Spelling.Told.pair (f.told_spelling g)
        (told_spellingNodes a b (beq_iff_eq.1 h)).tuple "Call(callee=" (by decide) (by decide)
    | _ => exact Node.told_whole _ _
  | assign a b =>
    cases m with
    | assign a' b' =>
      exact Spelling.Told.pair (a.told_spelling a') (b.told_spelling b') "Assignment(target="
        (by decide) (by decide)
    | _ => exact Node.told_whole _ _
  | block a =>
    cases m with
    | block b =>
      exact Spelling.told_provided fun h => Spelling.Told.wrap
        (told_spellingNodes a b (beq_iff_eq.1 h)).tuple "Block(statements=" (by decide)
    | _ => exact Node.told_whole _ _
  | raw a =>
    cases m with
    | raw b => exact a.told_spelling b
    | _ => exact Node.told_whole _ _
  | _ => exact Node.told_whole _ _
termination_by structural n

theorem told_spellingNodes (ns ms : List Node) (h : ns.length = ms.length) :
    ToldEach (spellingNodes ns ms) (reprNodes ns) (reprNodes ms) := by
  cases ns with
  | nil =>
    obtain rfl := List.length_eq_zero_iff.1 h.symm
    exact .nil
  | cons n ns =>
    obtain ⟨m, ms, rfl⟩ := List.exists_cons_of_length_eq_add_one h.symm
    exact ToldEach.cons (n.told_spelling m) (told_spellingNodes ns ms (Nat.succ.inj h))
termination_by structural ns

theorem Entry.told_spelling (e f : Entry) : (e.spelling f).Told e.repr f.repr := by
  cases e with
  | keyword k v =>
    cases f with
    | keyword l w =>
      exact Spelling.Told.pair (k.told_spelling l) (v.told_spelling w) "(" (by decide) (by decide)
    | other _ => trivial
  | other n =>
    cases f with
    | keyword _ _ => trivial
    | other m => exact n.told_spelling m
termination_by structural e

theorem told_spellingParameters (es fs : List Entry) (h : es.length = fs.length) :
    ToldEach (spellingParameters es fs) (reprParameters es) (reprParameters fs) := by
  cases es with
  | nil =>
    obtain rfl := List.length_eq_zero_iff.1 h.symm
    exact .nil
  | cons e es =>
    obtain ⟨f, fs, rfl⟩ := List.exists_cons_of_length_eq_add_one h.symm
    exact ToldEach.cons (e.told_spelling f) (told_spellingParameters es fs (Nat.succ.inj h))
termination_by structural es

end

/-- **The comparison of operators is right about the texts that they are hashed by.** -/
theorem Op.told_keyText (a b : Op) : (a.spelling b).Told a.keyText b.keyText := by
  cases a with
  | par dims init opts =>
    cases b with
    | par dims' init' opts' =>
      refine Spelling.told_provided fun h => ?_
      obtain ⟨hdims, hopts⟩ := Bool.and_eq_true_iff.1 h
      exact (Op.told_par (told_spellingList dims dims' (beq_iff_eq.1 hdims))
        (init.told_spelling init') (told_spellingNamed opts opts' (beq_iff_eq.1 hopts))).2
    | _ => trivial
  | arr t =>
    cases b with
    | arr t' => exact Spelling.told_provided fun h => (Op.texts_eq_of_arr h).2
    | _ => trivial
  | drop r =>
    cases b with
    | drop r' => exact Spelling.Told.wrap (r.told_spelling r') "(" (by decide : Closes ",)")
    | _ => trivial
  | _ => cases b <;> trivial

end Laminar
