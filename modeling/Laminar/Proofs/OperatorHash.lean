import Mathlib
import Laminar.Proofs.PartByPart

/-!
# When equal operators hash alike

Operators are equal if they are of one class and their settings are equal; they are hashed by the
name of their class and the text of their settings.  Equal settings may have different texts: `0`,
`0.0` and `False` are equal, and so are options in any order.  So equal operators need not hash
alike.

* `Value.transparent` and `Op.transparent` say that equality looks through all parts, and
  `Op.spelling_ne_unclear` that then the comparison of the texts goes through.
* `Op.hash_alike_iff_spelled_alike`: **equal operators hash alike exactly if their settings are
  spelled alike.**
-/

namespace Laminar

/-! ### What equality looks through -/

/-- Is an object known by a number? -/
def Identity.isNumbered : Identity → Bool
  | .object .. => true
  | _ => false

mutual

/-- Does equality look through a value part by part?  A set and a dictionary are equal in any order,
and an object with a number is equal to itself whatever it holds. -/
def Value.transparent : Value → Bool
  | .list items => transparentList items
  | .tuple items => transparentList items
  | .set _ => false
  | .dict _ => false
  | .initializer i => i.transparent
  | .op o => o.transparent
  | .node n => n.transparent
  | .kept id v => !id.isNumbered && v.transparent
  | _ => true
termination_by structural v => v

/-- Does equality look through all items? -/
def transparentList : List Value → Bool
  | [] => true
  | v :: vs => v.transparent && transparentList vs
termination_by structural vs => vs

/-- Does equality look through all named values? -/
def transparentNamed : List (String × Value) → Bool
  | [] => true
  | (_, v) :: es => v.transparent && transparentNamed es
termination_by structural es => es

/-- Does equality look through an initializer? -/
def Initializer.transparent : Initializer → Bool
  | .gaussian mean std => mean.transparent && std.transparent
  | .uniform low high => low.transparent && high.transparent
  | .constant value => value.transparent
  | .base => true
  | .xavier => true
termination_by structural i => i

/-- Does equality look through an operator?  No option is named twice. -/
def Op.transparent : Op → Bool
  | .par dims init opts =>
    transparentList dims && init.transparent && transparentNamed opts &&
      decide (opts.map Prod.fst).Nodup
  | .drop rate => rate.transparent
  | _ => true
termination_by structural o => o

/-- Does equality look through a node?  A deferred expression is equal to itself only. -/
def Node.transparent : Node → Bool
  | .symbol name => name.transparent
  | .const value => value.transparent
  | .placeholder _ => true
  | .splat _ => true
  | .deferred .. => false
  | .parameters entries => transparentParameters entries
  | .call callee args => callee.transparent && transparentNodes args
  | .assign target value => target.transparent && value.transparent
  | .line .. => true
  | .block statements => transparentNodes statements
  | .raw value => value.transparent
termination_by structural n => n

/-- Does equality look through all nodes? -/
def transparentNodes : List Node → Bool
  | [] => true
  | n :: ns => n.transparent && transparentNodes ns
termination_by structural ns => ns

/-- Does equality look through an entry? -/
def Entry.transparent : Entry → Bool
  | .keyword name value => name.transparent && value.transparent
  | .other node => node.transparent
termination_by structural e => e

/-- Does equality look through all entries? -/
def transparentParameters : List Entry → Bool
  | [] => true
  | e :: es => e.transparent && transparentParameters es
termination_by structural es => es

end

/-! ### One object, one text -/

/-- Values without parts that have the same content have the same text. -/
theorem Value.repr_eq_of_leafContent {v w : Value} (hv : v.isLeaf = true)
    (h : v.sameContent w = true) : v.repr = w.repr := by
  have hfloat {x y : Float} (hxy : (x.toBits == y.toBits) = true) : x = y :=
    Float.toBits_inj.1 (beq_iff_eq.1 hxy)
  rw [← w.repr_bare]
  unfold Value.sameContent at h
  split at h
  · exact Bool.noConfusion hv
  · exact Bool.noConfusion hv
  · clear hv
    split at h <;> rename_i hw _ _ <;> first | exact Bool.noConfusion h | rw [hw]
    · rw [beq_iff_eq.1 h]
    · rw [beq_iff_eq.1 h]
    · rw [hfloat h]
    · obtain ⟨hre, him⟩ := Bool.and_eq_true_iff.1 h
      exact congrArg (fun z => (Value.complex z).repr)
        (congrArg₂ Complex.mk (hfloat hre) (hfloat him))
    · rw [beq_iff_eq.1 h]
    · rw [beq_iff_eq.1 h]
    · rw [beq_iff_eq.1 h]
    · rw [beq_iff_eq.1 h]
    · rw [beq_iff_eq.1 h]
    · rfl

mutual

theorem Value.repr_eq_of_sameContent (v w : Value) (h : v.sameContent w = true) :
    v.repr = w.repr := by
  cases v with
  | kept id v => exact v.repr_eq_of_sameContent w h
  | tuple a =>
    rw [← w.repr_bare]
    rw [Value.sameContent] at h
    split at h
    · rename_i b hw
      rw [hw]
      exact congrArg tupleText (reprList_eq_of_sameContents a b h)
    · exact Bool.noConfusion h
  | list _ => exact Bool.noConfusion h
  | set _ => exact Bool.noConfusion h
  | dict _ => exact Bool.noConfusion h
  | initializer _ => exact Bool.noConfusion h
  | op _ => exact Bool.noConfusion h
  | node _ => exact Bool.noConfusion h
  | _ => exact Value.repr_eq_of_leafContent rfl h
termination_by structural v

theorem reprList_eq_of_sameContents (vs ws : List Value) (h : sameContents vs ws = true) :
    reprList vs = reprList ws := by
  cases vs with
  | nil =>
    cases ws with
    | nil => rfl
    | cons _ _ => exact Bool.noConfusion h
  | cons v vs =>
    cases ws with
    | nil => exact Bool.noConfusion h
    | cons w ws =>
      obtain ⟨hv, hvs⟩ := Bool.and_eq_true_iff.1 h
      exact congrArg₂ List.cons (v.repr_eq_of_sameContent w hv)
        (reprList_eq_of_sameContents vs ws hvs)
termination_by structural vs

end

/-- One and the same object has one text. -/
theorem Value.repr_eq_of_identical {v w : Value} (hv : v.transparent = true)
    (h : v.identical w = true) : v.repr = w.repr := by
  unfold Value.identical at h
  split at h
  · rename_i id x id' y
    obtain ⟨-, hcontent⟩ := Bool.and_eq_true_iff.1 h
    cases id with
    | new => exact Bool.noConfusion hcontent
    | object _ _ => exact Bool.noConfusion hv
    | constant _ _ => exact x.repr_eq_of_sameContent y hcontent
    | word => exact x.repr_eq_of_sameContent y hcontent
  · exact Bool.noConfusion h
  · exact Bool.noConfusion h
  · exact v.repr_eq_of_sameContent w (Bool.and_eq_true_iff.1 h).2

theorem Value.leafSpelling_ne_unclear {v w : Value} (h : v.eq w = true) :
    v.leafSpelling w ≠ .unclear := by
  unfold Value.leafSpelling
  split
  · exact Spelling.ofBool_ne_unclear _
  · exact Spelling.ofBool_ne_unclear _
  · exact Spelling.ofBool_ne_unclear _
  · exact Spelling.provided_ne_unclear h (Spelling.ofBool_ne_unclear _)

/-! ### Comparisons that go through -/

/-- Lists that are compared item by item have the same length. -/
theorem length_eq_of_itemwise {α : Type} {f : List α → List α → Bool} {r : α → α → Bool}
    (hcons : ∀ x xs y ys, f (x :: xs) (y :: ys) = (r x y && f xs ys))
    (hleft : ∀ x xs, f (x :: xs) [] = false) (hright : ∀ y ys, f [] (y :: ys) = false)
    {xs ys : List α} (h : f xs ys = true) : xs.length = ys.length := by
  induction xs generalizing ys with
  | nil =>
    cases ys with
    | nil => rfl
    | cons y ys => exact Bool.noConfusion ((hright y ys).symm.trans h)
  | cons x xs ih =>
    cases ys with
    | nil => exact Bool.noConfusion ((hleft x xs).symm.trans h)
    | cons y ys =>
      rw [hcons, Bool.and_eq_true] at h
      exact congrArg (· + 1) (ih h.2)

theorem length_eq_of_eqList {vs ws : List Value} (h : eqList vs ws = true) :
    vs.length = ws.length :=
  length_eq_of_itemwise (fun _ _ _ _ => rfl) (fun _ _ => rfl) (fun _ _ => rfl) h

theorem length_eq_of_eqNodes {ns ms : List Node} (h : eqNodes ns ms = true) :
    ns.length = ms.length :=
  length_eq_of_itemwise (fun _ _ _ _ => rfl) (fun _ _ => rfl) (fun _ _ => rfl) h

theorem length_eq_of_eqParameters {es fs : List Entry} (h : eqParameters es fs = true) :
    es.length = fs.length :=
  length_eq_of_itemwise (fun _ _ _ _ => rfl) (fun _ _ => rfl) (fun _ _ => rfl) h

/-- Every name of a dictionary is a name of an equal one. -/
theorem names_subset_of_eqNamed {es fs : List (String × Value)} (h : eqNamed es fs = true) :
    es.map Prod.fst ⊆ fs.map Prod.fst := by
  induction es with
  | nil => exact List.nil_subset _
  | cons e es ih =>
    obtain ⟨hfound, hrest⟩ := Bool.and_eq_true_iff.1 h
    obtain ⟨f, hf, hsame⟩ := List.any_eq_true.1 hfound
    have hname := beq_iff_eq.1 (Bool.and_eq_true_iff.1 hsame).1
    refine List.cons_subset.2 ⟨?_, ih hrest⟩
    exact List.mem_map.2 ⟨f, hf, hname.symm⟩

/-- If the names of a dictionary are distinct, so are those of an equal one of the same length. -/
theorem nodup_names_of_eqNamed {es fs : List (String × Value)} (hes : (es.map Prod.fst).Nodup)
    (hlength : es.length = fs.length) (h : eqNamed es fs = true) : (fs.map Prod.fst).Nodup := by
  have hsubperm := hes.subperm (names_subset_of_eqNamed h)
  refine (hsubperm.perm_of_length_le ?_).nodup_iff.1 hes
  rw [List.length_map, List.length_map, hlength]

theorem Node.whole_ne_unclear {n m : Node} (h : n.eq m = true) (hrepr : n.repr = m.repr) :
    Spelling.provided (n.eq m && n.repr == m.repr) .alike ≠ .unclear :=
  Spelling.provided_ne_unclear (Bool.and_eq_true_iff.2 ⟨h, beq_iff_eq.2 hrepr⟩)
    Spelling.noConfusion

-- The recursion is that of equality: equal values have one form, or are one object.
mutual

theorem Value.spelling_ne_unclear (v w : Value) (hv : v.transparent = true)
    (h : v.same w = true) : v.spelling w ≠ .unclear := by
  unfold Value.spelling
  split
  · rename_i hidentical
    exact Spelling.provided_ne_unclear
      (beq_iff_eq.2 (Value.repr_eq_of_identical hv hidentical)) Spelling.noConfusion
  rename_i hidentical
  have heq : v.eq w = true := (Bool.or_eq_true_iff.1 h).resolve_left hidentical
  cases v with
  | kept id v =>
    exact v.spelling_ne_unclear w (Bool.and_eq_true_iff.1 hv).2 (Bool.or_eq_true_iff.2 (.inr heq))
  | list a =>
    rw [Value.eq] at heq
    split at heq
    · rename_i b hw
      rw [hw]
      exact Spelling.provided_ne_unclear (beq_iff_eq.2 (length_eq_of_eqList heq))
        (spellingList_ne_unclear a b hv heq)
    · exact Bool.noConfusion heq
  | tuple a =>
    rw [Value.eq] at heq
    split at heq
    · rename_i b hw
      rw [hw]
      exact Spelling.provided_ne_unclear (beq_iff_eq.2 (length_eq_of_eqList heq))
        (spellingList_ne_unclear a b hv heq)
    · exact Bool.noConfusion heq
  | set a => exact Bool.noConfusion hv
  | dict a => exact Bool.noConfusion hv
  | initializer i =>
    rw [Value.eq] at heq
    split at heq
    · rename_i j hw
      rw [hw]
      exact i.spelling_ne_unclear j hv heq
    · exact Bool.noConfusion heq
  | op a =>
    rw [Value.eq] at heq
    split at heq
    · rename_i b hw
      rw [hw]
      exact a.spelling_ne_unclear b hv heq
    · exact Bool.noConfusion heq
  | node n =>
    rw [Value.eq] at heq
    split at heq
    · rename_i m hw
      rw [hw]
      exact n.spelling_ne_unclear m hv heq
    · exact Bool.noConfusion heq
  | _ => exact Value.leafSpelling_ne_unclear heq
termination_by structural v

theorem spellingList_ne_unclear (vs ws : List Value) (hvs : transparentList vs = true)
    (h : eqList vs ws = true) : spellingList vs ws ≠ .unclear := by
  cases vs with
  | nil => exact Spelling.noConfusion
  | cons v vs =>
    cases ws with
    | nil => exact Bool.noConfusion h
    | cons w ws =>
      obtain ⟨hv, hvs⟩ := Bool.and_eq_true_iff.1 hvs
      obtain ⟨hsame, heq⟩ := Bool.and_eq_true_iff.1 h
      exact Spelling.next_ne_unclear (v.spelling_ne_unclear w hv hsame)
        (spellingList_ne_unclear vs ws hvs heq)
termination_by structural vs

theorem spellingNamed_ne_unclear (es fs gs : List (String × Value))
    (hes : transparentNamed es = true) (h : eqNamed es gs = true) (hfs : fs ⊆ gs)
    (hnames : (gs.map Prod.fst).Nodup) : spellingNamed es fs ≠ .unclear := by
  cases es with
  | nil => exact Spelling.noConfusion
  | cons e es =>
    cases e with
    | mk k v =>
      cases fs with
      | nil => exact Spelling.noConfusion
      | cons f fs =>
        obtain ⟨hv, hes⟩ := Bool.and_eq_true_iff.1 hes
        obtain ⟨hfound, heq⟩ := Bool.and_eq_true_iff.1 h
        obtain ⟨hf, hfs⟩ := List.cons_subset.1 hfs
        have hrest := spellingNamed_ne_unclear es fs gs hes heq hfs hnames
        change (Spelling.ofBool (k == f.1)).next ((v.spelling f.2).next (spellingNamed es fs)) ≠
          .unclear
        cases hk : k == f.1 with
        | false => exact Spelling.noConfusion
        | true =>
          -- names are distinct, so the entry with this name is the one that equality found
          obtain ⟨g, hg, hsame⟩ := List.any_eq_true.1 hfound
          obtain ⟨hkg, hsame⟩ := Bool.and_eq_true_iff.1 hsame
          have hname : g.1 = f.1 := (beq_iff_eq.1 hkg).symm.trans (beq_iff_eq.1 hk)
          obtain rfl := List.inj_on_of_nodup_map hnames hg hf hname
          exact Spelling.next_ne_unclear (Spelling.ofBool_ne_unclear _)
            (Spelling.next_ne_unclear (v.spelling_ne_unclear g.2 hv hsame) hrest)
termination_by structural es

theorem Initializer.spelling_ne_unclear (i j : Initializer) (hi : i.transparent = true)
    (h : i.eq j = true) : i.spelling j ≠ .unclear := by
  cases i with
  | base =>
    cases j with
    | base => exact Spelling.noConfusion
    | _ => exact Bool.noConfusion h
  | gaussian a b =>
    cases j with
    | gaussian a' b' =>
      obtain ⟨ha, hb⟩ := Bool.and_eq_true_iff.1 hi
      obtain ⟨hsame, hsame'⟩ := Bool.and_eq_true_iff.1 h
      exact Spelling.next_ne_unclear (a.spelling_ne_unclear a' ha hsame)
        (b.spelling_ne_unclear b' hb hsame')
    | _ => exact Bool.noConfusion h
  | uniform a b =>
    cases j with
    | uniform a' b' =>
      obtain ⟨ha, hb⟩ := Bool.and_eq_true_iff.1 hi
      obtain ⟨hsame, hsame'⟩ := Bool.and_eq_true_iff.1 h
      exact Spelling.next_ne_unclear (a.spelling_ne_unclear a' ha hsame)
        (b.spelling_ne_unclear b' hb hsame')
    | _ => exact Bool.noConfusion h
  | constant a =>
    cases j with
    | constant b => exact a.spelling_ne_unclear b hi h
    | _ => exact Bool.noConfusion h
  | xavier =>
    cases j with
    | xavier => exact Spelling.noConfusion
    | _ => exact Bool.noConfusion h
termination_by structural i

/-- **The comparison of equal operators goes through** if equality looks through the settings. -/
theorem Op.spelling_ne_unclear (a b : Op) (ha : a.transparent = true) (h : a.eq b = true) :
    a.spelling b ≠ .unclear := by
  cases a with
  | par dims init opts =>
    cases b with
    | par dims' init' opts' =>
      obtain ⟨ha, hunique⟩ := Bool.and_eq_true_iff.1 ha
      obtain ⟨ha, hopts⟩ := Bool.and_eq_true_iff.1 ha
      obtain ⟨hdims, hinit⟩ := Bool.and_eq_true_iff.1 ha
      obtain ⟨h, heqopts⟩ := Bool.and_eq_true_iff.1 h
      obtain ⟨h, hlength⟩ := Bool.and_eq_true_iff.1 h
      obtain ⟨heqdims, hsame⟩ := Bool.and_eq_true_iff.1 h
      have hnames := nodup_names_of_eqNamed (of_decide_eq_true hunique) (beq_iff_eq.1 hlength)
        heqopts
      refine Spelling.provided_ne_unclear
        (Bool.and_eq_true_iff.2 ⟨beq_iff_eq.2 (length_eq_of_eqList heqdims), hlength⟩) ?_
      exact Spelling.next_ne_unclear (spellingList_ne_unclear dims dims' hdims heqdims)
        (Spelling.next_ne_unclear (init.spelling_ne_unclear init' hinit hsame)
          (spellingNamed_ne_unclear opts opts' opts' hopts heqopts (List.Subset.refl _) hnames))
    | _ => exact Bool.noConfusion h
  | drop r =>
    cases b with
    | drop r' => exact r.spelling_ne_unclear r' ha h
    | _ => exact Bool.noConfusion h
  | _ => exact Spelling.provided_ne_unclear h Spelling.noConfusion
termination_by structural a

theorem Node.spelling_ne_unclear (n m : Node) (hn : n.transparent = true) (h : n.eq m = true) :
    n.spelling m ≠ .unclear := by
  cases n with
  | symbol a =>
    cases m with
    | symbol b => exact a.spelling_ne_unclear b hn h
    | _ => exact Bool.noConfusion h
  | const a =>
    cases m with
    | const b => exact a.spelling_ne_unclear b hn h
    | _ => exact Bool.noConfusion h
  | placeholder a =>
    cases m with
    | placeholder b => exact Node.whole_ne_unclear h (by rw [beq_iff_eq.1 h])
    | _ => exact Bool.noConfusion h
  | splat a =>
    cases m with
    | splat b => exact Node.whole_ne_unclear h (by rw [beq_iff_eq.1 h])
    | _ => exact Bool.noConfusion h
  | deferred _ _ _ _ _ => exact Bool.noConfusion hn
  | parameters a =>
    cases m with
    | parameters b =>
      exact Spelling.provided_ne_unclear (beq_iff_eq.2 (length_eq_of_eqParameters h))
        (spellingParameters_ne_unclear a b hn h)
    | _ => exact Bool.noConfusion h
  | call f a =>
    cases m with
    | call g b =>
      obtain ⟨hf, ha⟩ := Bool.and_eq_true_iff.1 hn
      obtain ⟨hsame, heq⟩ := Bool.and_eq_true_iff.1 h
      exact Spelling.provided_ne_unclear (beq_iff_eq.2 (length_eq_of_eqNodes heq))
        (Spelling.next_ne_unclear (f.spelling_ne_unclear g hf hsame)
          (spellingNodes_ne_unclear a b ha heq))
    | _ => exact Bool.noConfusion h
  | assign a b =>
    cases m with
    | assign a' b' =>
      obtain ⟨ha, hb⟩ := Bool.and_eq_true_iff.1 hn
      obtain ⟨heq, heq'⟩ := Bool.and_eq_true_iff.1 h
      exact Spelling.next_ne_unclear (a.spelling_ne_unclear a' ha heq)
        (b.spelling_ne_unclear b' hb heq')
    | _ => exact Bool.noConfusion h
  | line k f =>
    cases m with
    | line l g =>
      obtain ⟨hk, hf⟩ := Bool.and_eq_true_iff.1 h
      exact Node.whole_ne_unclear h (by rw [beq_iff_eq.1 hk, beq_iff_eq.1 hf])
    | _ => exact Bool.noConfusion h
  | block a =>
    cases m with
    | block b =>
      exact Spelling.provided_ne_unclear (beq_iff_eq.2 (length_eq_of_eqNodes h))
        (spellingNodes_ne_unclear a b hn h)
    | _ => exact Bool.noConfusion h
  | raw a =>
    cases m with
    | raw b => exact a.spelling_ne_unclear b hn h
    | _ => exact Bool.noConfusion h
termination_by structural n

theorem spellingNodes_ne_unclear (ns ms : List Node) (hns : transparentNodes ns = true)
    (h : eqNodes ns ms = true) : spellingNodes ns ms ≠ .unclear := by
  cases ns with
  | nil => exact Spelling.noConfusion
  | cons n ns =>
    cases ms with
    | nil => exact Bool.noConfusion h
    | cons m ms =>
      obtain ⟨hn, hns⟩ := Bool.and_eq_true_iff.1 hns
      obtain ⟨heq, heqs⟩ := Bool.and_eq_true_iff.1 h
      exact Spelling.next_ne_unclear (n.spelling_ne_unclear m hn heq)
        (spellingNodes_ne_unclear ns ms hns heqs)
termination_by structural ns

theorem Entry.spelling_ne_unclear (e f : Entry) (he : e.transparent = true) (h : e.eq f = true) :
    e.spelling f ≠ .unclear := by
  cases e with
  | keyword k v =>
    cases f with
    | keyword l w =>
      obtain ⟨hk, hv⟩ := Bool.and_eq_true_iff.1 he
      obtain ⟨hsame, heq⟩ := Bool.and_eq_true_iff.1 h
      exact Spelling.next_ne_unclear (k.spelling_ne_unclear l hk hsame)
        (v.spelling_ne_unclear w hv heq)
    | other _ => exact Bool.noConfusion h
  | other n =>
    cases f with
    | keyword _ _ => exact Bool.noConfusion h
    | other m => exact n.spelling_ne_unclear m he h
termination_by structural e

theorem spellingParameters_ne_unclear (es fs : List Entry) (hes : transparentParameters es = true)
    (h : eqParameters es fs = true) : spellingParameters es fs ≠ .unclear := by
  cases es with
  | nil => exact Spelling.noConfusion
  | cons e es =>
    cases fs with
    | nil => exact Bool.noConfusion h
    | cons f fs =>
      obtain ⟨he, hes⟩ := Bool.and_eq_true_iff.1 hes
      obtain ⟨heq, heqs⟩ := Bool.and_eq_true_iff.1 h
      exact Spelling.next_ne_unclear (e.spelling_ne_unclear f he heq)
        (spellingParameters_ne_unclear es fs hes heqs)
termination_by structural es

end

/-! ### Hashes -/

/-- The hash of an operator is made of its class and the text of its settings. -/
theorem Op.sameHash_iff (a b : Op) :
    (Value.op a).sameHash (.op b) = true ↔
      a.writable = true ∧ b.writable = true ∧
        (a.cls.name, a.keyText) = (b.cls.name, b.keyText) := by
  have hkey (o : Op) : (Value.op o).hashKey =
      if o.writable then pure (.tuple [.text o.cls.name, .text o.keyText])
      else throw .digitLimit := rfl
  rw [Value.sameHash, hkey, hkey]
  cases a.writable with
  | false => simp [throw, throwThe, MonadExceptOf.throw]
  | true =>
    cases b.writable with
    | false => simp [throw, throwThe, MonadExceptOf.throw]
    | true => simp [pure, Except.pure, HashKey.same, sameKeys]

theorem Op.cls_eq_of_eq {a b : Op} (h : a.eq b = true) : a.cls = b.cls := by
  cases a <;> cases b <;> first | rfl | exact Bool.noConfusion h

/-- **Equal operators hash alike exactly if their settings are spelled alike.**  The class is then
the same, and the text of the settings is the same if and only if the comparison part by part finds
no difference: numbers of another type, a zero of the other sign, a range given in another way, or
options in another order make a difference.  The comparison goes through if equality looks through
all settings.  What may be left open beyond that are sets and dictionaries inside the settings that
hold the same in another order, if floats or items of different kinds meet where they first differ,
and objects that are known by their identity but written in two ways.  A hash needs the text, so
there is none if a whole number among the settings cannot be written. -/
theorem Op.hash_alike_iff_spelled_alike {a b : Op} (heq : a.eq b = true)
    (hcompared : a.transparent = true ∨ a.spelling b ≠ .unclear) :
    ((a.cls.name, a.keyText) = (b.cls.name, b.keyText) ↔ a.spelling b = .alike) ∧
      ((Value.op a).sameHash (.op b) = true ↔
        a.writable = true ∧ b.writable = true ∧ a.spelling b = .alike) := by
  have hclear : a.spelling b ≠ .unclear :=
    hcompared.elim (fun ha => a.spelling_ne_unclear b ha heq) id
  have htext : a.keyText = b.keyText ↔ a.spelling b = .alike :=
    Spelling.Told.eq_iff (a.told_keyText b) hclear
  have hpair : (a.cls.name, a.keyText) = (b.cls.name, b.keyText) ↔ a.spelling b = .alike := by
    rw [Op.cls_eq_of_eq heq, Prod.mk.injEq, htext]
    exact and_iff_right rfl
  exact ⟨hpair, by rw [Op.sameHash_iff, hpair]⟩

/-- Dropout at the rate zero is one operator however the zero is written, with two hashes.  Two
trainable arrays with equal options hash alike if the options are given in one order, whichever
objects they are, and not if they are given in two. -/
theorem Op.hash_alike_iff_spelled_alike_zero :
    let whole := Op.drop (.int 0)
    let real := Op.drop (.float 0.0)
    let weights := Op.par [.int 3, .int 0] (.initializer (.constant (.int 0)))
      [("lr", .float 0.5), ("name", .str "w")]
    let again := Op.par [.int 3, .int 0] (.initializer (.constant (.int 0)))
      [("lr", .kept .new (.float 0.5)), ("name", .kept .word (.str "w"))]
    let turned := Op.par [.int 3, .int 0] (.initializer (.constant (.int 0)))
      [("name", .str "w"), ("lr", .float 0.5)]
    (whole.eq real = true ∧ weights.eq again = true ∧ weights.eq turned = true) ∧
      (whole.cls.name, whole.keyText) ≠ (real.cls.name, real.keyText) ∧
      (Value.op weights).sameHash (.op again) = true ∧
      (Value.op weights).sameHash (.op turned) = false := by
  intro whole real weights again turned
  have hzero : whole.eq real = true := by decide +kernel
  have hagain : weights.eq again = true := by decide +kernel
  have hturned : weights.eq turned = true := by decide +kernel
  refine ⟨⟨hzero, hagain, hturned⟩, fun hpair => ?_, ?_, ?_⟩
  · have halike := (hash_alike_iff_spelled_alike hzero (.inl rfl)).1.1 hpair
    exact absurd halike (by decide +kernel)
  · refine (hash_alike_iff_spelled_alike hagain (.inl (by decide +kernel))).2.2 ?_
    exact ⟨by decide +kernel, by decide +kernel, by decide +kernel⟩
  · refine Bool.eq_false_iff.2 fun hsame => ?_
    have hhash := (hash_alike_iff_spelled_alike hturned (.inl (by decide +kernel))).2.1 hsame
    exact absurd hhash.2.2 (by decide +kernel)

end Laminar
