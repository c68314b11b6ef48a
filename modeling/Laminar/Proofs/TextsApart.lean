import Mathlib
import Laminar.Value.Text

/-!
# Texts that can be told apart

The text of a value is put together from the texts of its parts.  Two such texts can be equal only
if the parts are, provided that a part shows where it ends: `1` and `1.0` are different texts, and
they stay different inside a list only because a mark follows, not a point.

* `Apart` says that two texts differ whatever follows them, as long as it begins with a mark; texts
  whose words differ are apart (`apart_of_wordOf`).
* `Spelling` is the outcome of comparing two texts part by part, `Spelling.Told` what it says about
  the texts, and `Spelling.Told.append` puts parts together.
* `ToldEach` is the same for lists of texts; `ToldEach.enclosed`, `ToldEach.tuple` and
  `ToldEach.dict` put the items into brackets.
-/

namespace Laminar

/-! ### Marks -/

/-- A mark that can stand behind the text of a value inside another text. -/
def isMark (c : Char) : Bool := [',', ')', ']', '\x7d', ':'].contains c

/-- A text that can follow the text of a value: it is empty or begins with a mark. -/
def Closes (s : String) : Prop := s.toList.head?.all isMark = true

instance (s : String) : Decidable (Closes s) :=
  inferInstanceAs (Decidable (s.toList.head?.all isMark = true))

theorem Closes.append {s t : String} (hs : Closes s) (ht : Closes t) : Closes (s ++ t) := by
  rw [Closes, String.toList_append, List.head?_append]
  rw [Closes] at hs
  cases hhead : s.toList.head? with
  | none => exact ht
  | some c =>
    rw [hhead] at hs
    exact hs

/-- What begins with a mark goes on as it likes. -/
theorem closes_of_mark {m : String} (hm : m.toList.head?.any isMark = true) (x : String) :
    Closes (m ++ x) := by
  obtain ⟨c, hc, hmark⟩ := (Option.any_eq_true _ _).1 hm
  rw [Closes, String.toList_append, List.head?_append, hc]
  exact hmark

/-- Two texts that differ in every place where texts of values stand. -/
def Apart (x y : String) : Prop := ∀ s t, Closes s → Closes t → x ++ s ≠ y ++ t

namespace Apart

variable {x y x' y' : String}

theorem ne (h : Apart x y) : x ≠ y := by
  rintro rfl
  exact h "" "" (by decide) (by decide) rfl

theorem symm (h : Apart x y) : Apart y x := fun s t hs ht heq => h t s ht hs heq.symm

theorem append (h : Apart x y) (hx : Closes x') (hy : Closes y') :
    Apart (x ++ x') (y ++ y') := by
  intro s t hs ht
  rw [String.append_assoc, String.append_assoc]
  exact h _ _ (hx.append hs) (hy.append ht)

theorem prepend_iff (p : String) : Apart (p ++ x) (p ++ y) ↔ Apart x y := by
  simp only [Apart, String.append_assoc, ne_eq, String.append_right_inj]

end Apart

/-! ### Words -/

/-- The characters of a text up to its first mark. -/
def wordOf (x : String) : List Char := x.toList.takeWhile fun c => !isMark c

theorem wordOf_append (x : String) {s : String} (hs : Closes s) : wordOf (x ++ s) = wordOf x := by
  have hnone : s.toList.takeWhile (fun c => !isMark c) = [] := by
    rw [Closes] at hs
    cases hlist : s.toList with
    | nil => rfl
    | cons c cs =>
      rw [hlist] at hs
      have hc : isMark c = true := hs
      rw [List.takeWhile_cons, hc]
      rfl
  rw [wordOf, String.toList_append, List.takeWhile_append, hnone, List.append_nil]
  split
  · rename_i hlength
    exact ((List.takeWhile_prefix _).eq_of_length hlength).symm
  · rfl

/-- A text without marks before another one belongs to its word. -/
theorem wordOf_prepend {p : String} (hp : p.toList.all (fun c => !isMark c) = true) (x : String) :
    wordOf (p ++ x) = p.toList ++ wordOf x := by
  rw [wordOf, String.toList_append, List.takeWhile_append_of_pos (List.all_eq_true.1 hp), wordOf]

theorem wordOf_eq_toList {x : String} (hx : x.toList.all (fun c => !isMark c) = true) :
    wordOf x = x.toList :=
  List.takeWhile_eq_self_iff.2 (List.all_eq_true.1 hx)

theorem apart_of_wordOf {x y : String} (h : wordOf x ≠ wordOf y) : Apart x y := by
  intro s t hs ht heq
  exact h (by rw [← wordOf_append x hs, heq, wordOf_append y ht])

/-! ### Comparing part by part -/

/-- What comparing the parts of two texts in order has come to. -/
inductive Spelling where
  /-- All parts are the same. -/
  | alike
  /-- There are parts that differ, and those before them are the same. -/
  | different
  /-- A part came that was not compared. -/
  | unclear
  deriving DecidableEq, Repr

namespace Spelling

/-- Go on to the next part.  The first one that is not the same decides. -/
def next : Spelling → Spelling → Spelling
  | alike, s => s
  | different, _ => different
  | unclear, _ => unclear

theorem next_alike (s : Spelling) : s.next .alike = s := by
  cases s <;> rfl

theorem next_assoc (s t u : Spelling) : (s.next t).next u = s.next (t.next u) := by
  cases s <;> rfl

/-- A part that is the same or not. -/
def ofBool (same : Bool) : Spelling := if same then alike else different

/-- What is compared only under a condition. -/
def provided (condition : Bool) (s : Spelling) : Spelling := if condition then s else unclear

theorem next_ne_unclear {s t : Spelling} (hs : s ≠ unclear) (ht : t ≠ unclear) :
    s.next t ≠ unclear := by
  cases s with
  | alike => exact ht
  | different => exact Spelling.noConfusion
  | unclear => exact absurd rfl hs

theorem ofBool_ne_unclear (same : Bool) : ofBool same ≠ unclear := by
  cases same <;> exact Spelling.noConfusion

theorem provided_ne_unclear {condition : Bool} {s : Spelling} (hc : condition = true)
    (hs : s ≠ unclear) : provided condition s ≠ unclear := by
  rw [provided, if_pos hc]
  exact hs

/-- What a comparison says about two texts. -/
def Told : Spelling → String → String → Prop
  | alike, x, y => x = y
  | different, x, y => Apart x y
  | unclear, _, _ => True

theorem told_ofBool {same : Bool} {x y : String} (h : same = true → x = y)
    (h' : same = false → Apart x y) : (ofBool same).Told x y := by
  cases same with
  | false => exact h' rfl
  | true => exact h rfl

/-- Where different things have texts that are apart, the things are compared. -/
theorem told_beq {α : Type} [BEq α] [LawfulBEq α] {text : α → String}
    (h : ∀ {a b : α}, a ≠ b → Apart (text a) (text b)) (a b : α) :
    (ofBool (a == b)).Told (text a) (text b) := by
  refine told_ofBool (fun hsame => ?_) (fun hdiffer => h (beq_eq_false_iff_ne.1 hdiffer))
  rw [beq_iff_eq.1 hsame]

theorem told_provided {condition : Bool} {s : Spelling} {x y : String}
    (h : condition = true → s.Told x y) : (provided condition s).Told x y := by
  cases condition with
  | false => trivial
  | true => exact h rfl

/-- If the comparison went through, it decides whether the texts are equal. -/
theorem Told.eq_iff {s : Spelling} {x y : String} (h : s.Told x y) (hs : s ≠ unclear) :
    x = y ↔ s = alike := by
  cases s with
  | alike => exact iff_of_true h rfl
  | different => exact iff_of_false (Apart.ne h) Spelling.noConfusion
  | unclear => exact absurd rfl hs

namespace Told

variable {s s' : Spelling} {x y x' y' : String}

/-- **Parts are put together** where the second one shows the end of the first. -/
theorem append (h : s.Told x y) (h' : s'.Told x' y') (hx : Closes x') (hy : Closes y') :
    (s.next s').Told (x ++ x') (y ++ y') := by
  cases s with
  | alike =>
    obtain rfl : x = y := h
    cases s' with
    | alike => exact congrArg (x ++ ·) h'
    | different => exact (Apart.prepend_iff x).2 h'
    | unclear => trivial
  | different => exact Apart.append h hx hy
  | unclear => trivial

theorem prepend_iff (p : String) : s.Told (p ++ x) (p ++ y) ↔ s.Told x y := by
  cases s with
  | alike => exact String.append_right_inj p
  | different => exact Apart.prepend_iff p
  | unclear => exact Iff.rfl

theorem prepend (h : s.Told x y) (p : String) : s.Told (p ++ x) (p ++ y) := (prepend_iff p).2 h

theorem close (h : s.Told x y) {p : String} (hp : Closes p) : s.Told (x ++ p) (y ++ p) := by
  cases s with
  | alike => exact congrArg (· ++ p) h
  | different => exact Apart.append h hp hp
  | unclear => trivial

/-- A part between two fixed texts. -/
theorem wrap (h : s.Told x y) (opening : String) {closing : String} (hclosing : Closes closing) :
    s.Told (opening ++ x ++ closing) (opening ++ y ++ closing) :=
  (h.prepend opening).close hclosing

/-- Two parts between fixed texts. -/
theorem pair (h : s.Told x y) (h' : s'.Told x' y') (opening : String) {middle closing : String}
    (hmiddle : middle.toList.head?.any isMark = true) (hclosing : Closes closing) :
    (s.next s').Told (opening ++ x ++ middle ++ x' ++ closing)
      (opening ++ y ++ middle ++ y' ++ closing) := by
  simp only [String.append_assoc]
  exact (h.append ((h'.close hclosing).prepend middle) (closes_of_mark hmiddle _)
    (closes_of_mark hmiddle _)).prepend opening

end Told

end Spelling

/-! ### Lists of texts -/

/-- Texts with a comma before each. -/
def tailText : List String → String
  | [] => ""
  | x :: xs => ", " ++ (x ++ tailText xs)

theorem commaJoin_cons (x : String) (xs : List String) :
    commaJoin (x :: xs) = x ++ tailText xs := by
  induction xs generalizing x with
  | nil => simp [commaJoin, tailText]
  | cons y ys ih =>
    have hstep : commaJoin (x :: y :: ys) = x ++ ", " ++ commaJoin (y :: ys) :=
      String.intercalate_cons_cons
    rw [hstep, ih, tailText, String.append_assoc]

/-- A tuple of one item is the only one with a comma at its end. -/
theorem tupleText_of_length_ne {xs : List String} (h : xs.length ≠ 1) :
    tupleText xs = "(" ++ commaJoin xs ++ ")" := by
  unfold tupleText
  split
  · exact absurd rfl h
  · rfl

theorem closes_tailText (xs : List String) {p : String} (hp : Closes p) :
    Closes (tailText xs ++ p) := by
  cases xs with
  | nil => exact Closes.append (by decide) hp
  | cons x xs =>
    rw [tailText, String.append_assoc]
    exact closes_of_mark (by decide) _

/-- What a comparison says about two lists of texts that stand in brackets. -/
structure ToldEach (s : Spelling) (xs ys : List String) : Prop where
  length_eq : xs.length = ys.length
  told : ∀ p, Closes p → s.Told (tailText xs ++ p) (tailText ys ++ p)

namespace ToldEach

variable {s s' : Spelling} {x y : String} {xs ys : List String}

theorem nil : ToldEach .alike [] [] := ⟨rfl, fun _ _ => rfl⟩

/-- One item more. -/
theorem cons (h : s.Told x y) (h' : ToldEach s' xs ys) :
    ToldEach (s.next s') (x :: xs) (y :: ys) := by
  refine ⟨congrArg (· + 1) h'.length_eq, fun p hp => ?_⟩
  simp only [tailText, String.append_assoc]
  exact (h.append (h'.told p hp) (closes_tailText xs hp) (closes_tailText ys hp)).prepend ", "

/-- One entry more, with its key before a colon. -/
theorem entry {k l : String} {t : Spelling} (hkey : s.Told k l) (hvalue : s'.Told x y)
    (h : ToldEach t xs ys) :
    ToldEach (s.next (s'.next t)) ((k ++ ": " ++ x) :: xs) ((l ++ ": " ++ y) :: ys) := by
  rw [String.append_assoc, String.append_assoc, ← Spelling.next_assoc]
  exact cons (hkey.append (hvalue.prepend ": ") (closes_of_mark (by decide) x)
    (closes_of_mark (by decide) y)) h

/-- **Items in brackets.** -/
theorem enclosed (h : ToldEach s xs ys) (opening : String) {closing : String}
    (hclosing : Closes closing) :
    s.Told (opening ++ commaJoin xs ++ closing) (opening ++ commaJoin ys ++ closing) := by
  have htold := h.told closing hclosing
  rw [String.append_assoc, String.append_assoc]
  refine Spelling.Told.prepend ?_ opening
  cases xs with
  | nil =>
    obtain rfl : ys = [] := List.length_eq_zero_iff.1 h.length_eq.symm
    exact htold
  | cons x xs =>
    obtain ⟨y, ys, rfl⟩ := List.exists_cons_of_length_eq_add_one h.length_eq.symm
    simp only [tailText, String.append_assoc] at htold
    rw [commaJoin_cons, commaJoin_cons, String.append_assoc, String.append_assoc]
    exact (Spelling.Told.prepend_iff ", ").1 htold

/-- **Items of a tuple**, of which a single one keeps its comma. -/
theorem tuple (h : ToldEach s xs ys) : s.Told (tupleText xs) (tupleText ys) := by
  have hlength := h.length_eq
  by_cases hone : xs.length = 1
  · obtain ⟨x, rfl⟩ := List.length_eq_one_iff.1 hone
    obtain ⟨y, rfl⟩ := List.length_eq_one_iff.1 (hlength.symm.trans hone)
    exact h.enclosed "(" (by decide : Closes ",)")
  · rw [tupleText_of_length_ne hone, tupleText_of_length_ne (hlength ▸ hone)]
    exact h.enclosed "(" (by decide)

/-- **Entries of a dictionary.** -/
theorem dict (h : ToldEach s xs ys) : s.Told (dictText xs) (dictText ys) :=
  h.enclosed "\x7b" (by decide)

end ToldEach

end Laminar
