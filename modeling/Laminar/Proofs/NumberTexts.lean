import Mathlib
import Laminar.Proofs.TextsApart
import Laminar.Value.Equality

/-!
# The texts of equal numbers

Numbers are equal by value, whatever their type, and zeros whatever their sign.  Their texts are
not: the word of a number shows whether it has fixed width and on which level it stands, and on one
level equal numbers that are not the same are zeros with different signs, or complex numbers with
such parts.

* `Value.numeral?` is a number as it is written, and `Value.numeralKind_wordOf` reads the kind of a
  number off its word.
* `apart_of_level_eq`: on one level, equal numbers that are not the same are written differently.
* `Value.told_numeral`: so equal numbers are written alike exactly if they are the same.
* `told_range`: ranges are written alike exactly if their ends and their steps are the same, while
  they are equal already if they hold the same numbers.
-/

namespace Laminar

open Decimal

/-! ### Numerals -/

/-- A character of a number that is written without its type. -/
def isNumeral (c : Char) : Bool := c.isDigit || ['+', '-', '.', 'a', 'e', 'f', 'i', 'n'].contains c

/-- Characters of numbers only. -/
def Numeral (cs : List Char) : Prop := cs.all isNumeral = true

instance (cs : List Char) : Decidable (Numeral cs) :=
  inferInstanceAs (Decidable (cs.all isNumeral = true))

namespace Numeral

variable {cs ds : List Char}

theorem mem (h : Numeral cs) {c : Char} (hc : c ∈ cs) : isNumeral c = true :=
  List.all_eq_true.1 h c hc

theorem append (hc : Numeral cs) (hd : Numeral ds) : Numeral (cs ++ ds) := by
  rw [Numeral, List.all_append, hc, hd]
  rfl

theorem not_mem (h : Numeral cs) {c : Char} (hc : isNumeral c = false) : c ∉ cs := by
  intro hmem
  rw [h.mem hmem] at hc
  exact Bool.noConfusion hc

/-- A numeral has no marks. -/
theorem isMark_eq_false (h : Numeral cs) {c : Char} (hc : c ∈ cs) : isMark c = false := by
  refine Bool.eq_false_iff.2 fun hmark => ?_
  rw [isMark, List.contains_iff_mem] at hmark
  revert hc
  refine h.not_mem ?_
  fin_cases hmark <;> rfl

theorem wordOf_eq {x : String} (h : Numeral x.toList) : wordOf x = x.toList := by
  refine wordOf_eq_toList (List.all_eq_true.2 fun c hc => ?_)
  rw [h.isMark_eq_false hc]
  rfl

theorem of_subset (hc : Numeral cs) (h : ds ⊆ cs) : Numeral ds :=
  List.all_eq_true.2 fun _ hd => hc.mem (h hd)

theorem zeros (n : Nat) : Numeral (List.replicate n '0') := by
  refine List.all_eq_true.2 fun c hc => ?_
  rw [List.eq_of_mem_replicate hc]
  rfl

theorem toDigits (n : Nat) : Numeral (Nat.toDigits 10 n) := by
  refine List.all_eq_true.2 fun c hc => ?_
  rw [isNumeral, Nat.isDigit_of_mem_toDigits (by decide) (by decide) hc]
  rfl

theorem exponentText (l : Layout) (e : Int) : Numeral (l.exponentText e).toList := by
  rw [Layout.exponentText, String.toList_ofList, ← List.singleton_append]
  refine Numeral.append ?_ ((zeros _).append (toDigits _))
  split <;> decide

theorem digitsText {l : Layout} (hend : Numeral l.wholeEnd.toList) (d : Scientific) :
    Numeral (l.digitsText d).toList := by
  have hds := toDigits d.digits
  have hpoint {cs : List Char} (hcs : Numeral cs) : Numeral ('.' :: cs) := hcs
  unfold Layout.digitsText
  dsimp only
  split_ifs <;> simp only [String.toList_append, String.toList_ofList]
  · exact (((hds.of_subset (List.take_subset _ _)).append (by decide)).append (by decide)).append
      (exponentText l _)
  · exact (((hds.of_subset (List.take_subset _ _)).append
      (hpoint (hds.of_subset (List.tail_subset _)))).append (by decide)).append (exponentText l _)
  · exact Numeral.append (by decide) ((zeros _).append hds)
  · exact (hds.append (zeros _)).append hend
  · exact (hds.of_subset (List.take_subset _ _)).append
      (hpoint (hds.of_subset (List.drop_subset _ _)))

theorem write {l : Layout} (hend : Numeral l.wholeEnd.toList) (hnan : Numeral l.nan.toList)
    (hinfinite : Numeral l.infinite.toList) (p : Binary.Precision) (x : Float) :
    Numeral (l.write p x).toList := by
  have hsign (negative : Bool) : Numeral (if negative then "-" else "").toList := by
    cases negative <;> decide
  unfold Layout.write
  split
  · exact hnan
  · rw [String.toList_append]
    exact (hsign _).append hinfinite
  · rename_i d _
    rw [String.toList_append]
    refine (hsign _).append ?_
    split
    · rw [String.toList_append]
      exact Numeral.append (by decide) hend
    · exact digitsText hend _

/-- A float of any format is written in numerals. -/
theorem standard (p : Binary.Precision) (x : Float) :
    Numeral (Layout.standard.write p x).toList :=
  write (by decide) (by decide) (by decide) p x

end Numeral

/-- A point or an exponent shows that a number is a float. -/
theorem exists_mem_digitsText (d : Scientific) :
    ∃ c ∈ (Layout.standard.digitsText d).toList, c = '.' ∨ c = 'e' := by
  unfold Layout.digitsText
  dsimp only
  split_ifs <;> simp only [String.toList_append, String.toList_ofList]
  · exact ⟨'e', by simp, .inr rfl⟩
  · exact ⟨'e', by simp, .inr rfl⟩
  · exact ⟨'.', by simp, .inl rfl⟩
  · exact ⟨'.', by simp [Layout.standard], .inl rfl⟩
  · exact ⟨'.', by simp, .inl rfl⟩

theorem exists_mem_floatText (x : Float) :
    ∃ c ∈ (floatText x).toList, c = '.' ∨ c = 'e' ∨ c = 'n' := by
  unfold floatText Layout.write
  split
  · exact ⟨'n', by decide, .inr (.inr rfl)⟩
  · exact ⟨'n', by simp [Layout.standard], .inr (.inr rfl)⟩
  · rename_i d _
    by_cases hzero : d.mantissa = 0
    · rw [if_pos hzero]
      exact ⟨'.', by simp [Layout.standard], .inl rfl⟩
    · obtain ⟨c, hmem, hc⟩ := exists_mem_digitsText (shortest .double d.mantissa d.exponent)
      rw [if_neg hzero]
      exact ⟨c, by simp [hmem], by tauto⟩

/-! ### Kinds -/

/-- A number as it is written: does it show its width, and which number is it? -/
def Value.numeral? (v : Value) : Option (Bool × Fixed) :=
  match v.bare with
  | .bool b => some (false, .bool b)
  | .int n => some (false, .int n)
  | .float x => some (false, .float x)
  | .complex z => some (false, .complex z)
  | .fixed n => some (true, n)
  | _ => none

/-- The level of a number that is written with its width, after the first mark. -/
def fixedLevel : List Char → Fixed.Level
  | 'i' :: _ => .int
  | 'c' :: _ => .complex
  | 'f' :: 'l' :: 'o' :: 'a' :: 't' :: '3' :: _ => .single
  | 'f' :: _ => .float
  | _ => .bool

/-- The level of a number that is written without its width. -/
def plainLevel (cs : List Char) : Fixed.Level :=
  if 'T' ∈ cs ∨ 'F' ∈ cs then .bool
  else if 'j' ∈ cs then .complex
  else if cs.all (fun c => c.isDigit || c == '-') then .int
  else .float

/-- Does the word of a number show its width, and what is its level? -/
def numeralKind : List Char → Bool × Fixed.Level
  | 'n' :: 'p' :: '.' :: cs => (true, fixedLevel cs)
  | cs => (false, plainLevel cs)

theorem numeralKind_plain {cs : List Char} (h : 'p' ∉ cs) :
    numeralKind cs = (false, plainLevel cs) := by
  unfold numeralKind
  split
  · simp at h
  · rfl

/-! ### Complex numbers -/

/-- A part of a complex number as text. -/
def partText (x : Float) : String :=
  Layout.write { Layout.standard with wholeEnd := "" } .double x

/-- The imaginary part of a complex number behind its real part. -/
def signedText (x : Float) : String :=
  if x.toBits >>> 63 == 1 && !x.isNaN then partText x else "+" ++ partText x

/-- A complex number without parentheses. -/
def complexBody (z : Complex) : String :=
  (if z.re.toBits == 0 then partText z.im else partText z.re ++ signedText z.im) ++ "j"

theorem complexText_eq (z : Complex) :
    complexText z = if z.re.toBits == 0 then complexBody z else "(" ++ complexBody z ++ ")" := by
  have htext : complexText z = if z.re.toBits == 0 then partText z.im ++ "j"
      else "(" ++ partText z.re ++ signedText z.im ++ "j)" := rfl
  rw [htext, complexBody]
  cases z.re.toBits == 0 with
  | true => rfl
  | false => simp [String.append_assoc]

theorem numeral_partText (x : Float) : Numeral (partText x).toList :=
  Numeral.write (by decide) (by decide) (by decide) .double x

theorem numeral_signedText (x : Float) : Numeral (signedText x).toList := by
  rw [signedText]
  split
  · exact numeral_partText x
  · rw [String.toList_append]
    exact Numeral.append (by decide) (numeral_partText x)

/-- A complex number is a numeral with its unit. -/
theorem exists_complexBody (z : Complex) :
    ∃ x : String, complexBody z = x ++ "j" ∧ Numeral x.toList := by
  refine ⟨_, rfl, ?_⟩
  split
  · exact numeral_partText z.im
  · rw [String.toList_append]
    exact (numeral_partText z.re).append (numeral_signedText z.im)

theorem wordOf_complexBody (z : Complex) : wordOf (complexBody z) = (complexBody z).toList := by
  obtain ⟨x, hx, hnumeral⟩ := exists_complexBody z
  refine wordOf_eq_toList (List.all_eq_true.2 fun c hc => ?_)
  rw [hx, String.toList_append, List.mem_append] at hc
  rcases hc with hc | hc
  · rw [hnumeral.isMark_eq_false hc]
    rfl
  · rw [List.mem_singleton.1 hc]
    rfl

/-- The word of a complex number. -/
theorem wordOf_complexText (z : Complex) :
    wordOf (complexText z) =
      if z.re.toBits == 0 then (complexBody z).toList else '(' :: (complexBody z).toList := by
  rw [complexText_eq, ← wordOf_complexBody]
  cases z.re.toBits == 0 with
  | true => rfl
  | false =>
    refine (wordOf_append _ (by decide)).trans ?_
    exact wordOf_prepend (by decide) _

/-! ### Texts of numbers -/

/-- A number of fixed width without its type and without parentheses. -/
def Fixed.body : Fixed → String
  | .complex z => complexBody z
  | n => n.text

/-- A whole number is a sequence of digits, perhaps with a sign. -/
theorem digit_or_sign_of_mem {n : Int} {c : Char} (h : c ∈ (toString n).toList) :
    c.isDigit = true ∨ c = '-' := by
  have hdigit {k : Nat} (hk : c ∈ (toString k).toList) : c.isDigit = true := by
    rw [Nat.toString_eq_ofList_toDigits, String.toList_ofList] at hk
    exact Nat.isDigit_of_mem_toDigits (by decide) (by decide) hk
  cases n with
  | ofNat k => exact .inl (hdigit h)
  | negSucc k =>
    have hsplit : c ∈ ("-" ++ toString k.succ).toList := h
    rw [String.toList_append, List.mem_append] at hsplit
    rcases hsplit with hc | hc
    · exact .inr (List.mem_singleton.1 hc)
    · exact .inl (hdigit hc)

theorem numeral_toString (n : Int) : Numeral (toString n).toList := by
  refine List.all_eq_true.2 fun c hc => ?_
  rcases digit_or_sign_of_mem hc with hc | rfl
  · rw [isNumeral, hc]
    rfl
  · rfl

theorem not_mem_complexBody {c : Char} (hc : isNumeral c = false) (hj : c ≠ 'j') (z : Complex) :
    c ∉ (complexBody z).toList := by
  obtain ⟨x, hx, hnumeral⟩ := exists_complexBody z
  rw [hx, String.toList_append, List.mem_append]
  rintro (hmem | hmem)
  · exact hnumeral.not_mem hc hmem
  · exact hj (List.mem_singleton.1 hmem)

theorem startsWith_eq_false {x : String} (h : '(' ∉ x.toList) : x.startsWith "(" = false := by
  refine Bool.eq_false_iff.2 fun hstart => h ?_
  exact (String.startsWith_string_iff.1 hstart).subset (List.mem_singleton.2 rfl)

/-- The text of a number without its parentheses, if it has any. -/
theorem Fixed.bare_text (n : Fixed) :
    (if n.text.startsWith "(" then ((n.text.drop 1).dropEnd 1).copy else n.text) = n.body := by
  have hplain (h : '(' ∉ n.text.toList) :
      (if n.text.startsWith "(" then ((n.text.drop 1).dropEnd 1).copy else n.text) = n.text := by
    rw [startsWith_eq_false h]
    rfl
  cases n with
  | bool b => exact hplain (by cases b <;> decide)
  | int k => exact hplain ((numeral_toString k).not_mem rfl)
  | single x => exact hplain ((Numeral.standard _ x).not_mem rfl)
  | float x => exact hplain ((Numeral.standard _ x).not_mem rfl)
  | complex z =>
    cases hre : z.re.toBits == 0 with
    | true =>
      have htext : (Fixed.complex z).text = complexBody z := by
        rw [Fixed.text, complexText_eq, hre]
        rfl
      rw [hplain (htext ▸ not_mem_complexBody rfl (by decide) z), htext]
      rfl
    | false =>
      have htext : (Fixed.complex z).text = "(" ++ complexBody z ++ ")" := by
        rw [Fixed.text, complexText_eq, hre]
        rfl
      have hstart : (Fixed.complex z).text.startsWith "(" = true := by
        rw [htext, String.startsWith_string_iff, String.append_assoc, String.toList_append]
        exact List.prefix_append _ _
      rw [if_pos hstart, htext, Fixed.body]
      refine String.toList_inj.1 ?_
      simp

theorem Fixed.repr_eq {n : Fixed} (h : n.level ≠ .bool) :
    n.repr = "np." ++ n.level.name ++ "(" ++ n.body ++ ")" := by
  rw [← n.bare_text]
  cases n with
  | bool b => exact absurd rfl h
  | int _ => rfl
  | single _ => rfl
  | float _ => rfl
  | complex _ => rfl

/-! ### The kind of a number shows -/

/-- The word of a number of fixed width begins with its type. -/
theorem numeralKind_repr (n : Fixed) : numeralKind (wordOf n.repr) = (true, n.level) := by
  by_cases hbool : n.level = .bool
  · cases n with
    | bool b => cases b <;> decide
    | _ => exact Fixed.Level.noConfusion hbool
  · have htype (level : Fixed.Level) :
        ("np." ++ level.name ++ "(").toList.all (fun c => !isMark c) = true := by
      cases level <;> decide
    rw [Fixed.repr_eq hbool, String.append_assoc, wordOf_prepend (htype _)]
    cases hlevel : n.level with
    | bool => exact absurd hlevel hbool
    | _ => simp [Fixed.Level.name, numeralKind, fixedLevel]

/-- The unit shows that a number is complex. -/
theorem numeralKind_complexText (z : Complex) :
    numeralKind (wordOf (complexText z)) = (false, .complex) := by
  have hunit : 'j' ∈ (complexBody z).toList := by
    obtain ⟨x, hx, -⟩ := exists_complexBody z
    rw [hx, String.toList_append]
    exact List.mem_append_right _ (List.mem_singleton.2 rfl)
  have hcomplex {cs : List Char} (hsub : ∀ c ∈ cs, c = '(' ∨ c ∈ (complexBody z).toList)
      (hj : 'j' ∈ cs) : numeralKind cs = (false, .complex) := by
    have hno {c : Char} (hc : isNumeral c = false) (hcj : c ≠ 'j') (hopen : c ≠ '(') : c ∉ cs := by
      intro hmem
      exact (hsub c hmem).elim hopen (not_mem_complexBody hc hcj z)
    rw [numeralKind_plain (hno rfl (by decide) (by decide)), plainLevel,
      if_neg (not_or.2 ⟨hno rfl (by decide) (by decide), hno rfl (by decide) (by decide)⟩),
      if_pos hj]
  rw [wordOf_complexText]
  cases z.re.toBits == 0 with
  | true => exact hcomplex (fun _ => .inr) hunit
  | false => exact hcomplex (fun _ => List.mem_cons.1) (List.mem_cons_of_mem _ hunit)

/-- The word of a number that is written without its width shows its level. -/
theorem numeralKind_text {n : Fixed} (h : n.level ≠ .single) :
    numeralKind (wordOf n.text) = (false, n.level) := by
  have hlevel {x : String} (hx : Numeral x.toList) :
      numeralKind x.toList =
        (false, if x.toList.all (fun c => c.isDigit || c == '-') then .int else .float) := by
    have hbool : ¬ ('T' ∈ x.toList ∨ 'F' ∈ x.toList) :=
      not_or.2 ⟨hx.not_mem rfl, hx.not_mem rfl⟩
    rw [numeralKind_plain (hx.not_mem rfl), plainLevel, if_neg hbool, if_neg (hx.not_mem rfl)]
  cases n with
  | bool b => cases b <;> decide
  | int k =>
    have hdigits : (toString k).toList.all (fun c => c.isDigit || c == '-') = true := by
      refine List.all_eq_true.2 fun c hc => ?_
      rcases digit_or_sign_of_mem hc with hc | rfl
      · rw [hc]
        rfl
      · rfl
    have hx := numeral_toString k
    rw [Fixed.text, hx.wordOf_eq, hlevel hx, if_pos hdigits]
    rfl
  | single x => exact absurd rfl h
  | float x =>
    have hx : Numeral (floatText x).toList := Numeral.standard .double x
    have hpoint : ¬ (floatText x).toList.all (fun c => c.isDigit || c == '-') = true := by
      intro hall
      obtain ⟨c, hmem, hc⟩ := exists_mem_floatText x
      have hdigit := List.all_eq_true.1 hall c hmem
      rcases hc with rfl | rfl | rfl <;> exact Bool.noConfusion hdigit
    rw [Fixed.text, hx.wordOf_eq, hlevel hx, if_neg hpoint]
    rfl
  | complex z => exact numeralKind_complexText z

/-! ### Equal numbers of one kind -/

/-- Equal floats are the same, or zeros with different signs. -/
theorem float_eq_or_zeros {x y : Float} (h : (x == y) = true) :
    x = y ∨ (x = 0 ∧ y = -0) ∨ (x = -0 ∧ y = 0) :=
  (Float.beq_iff_ne_nan_and_eq.1 h).2.2

/-- Zeros with different signs are written differently. -/
theorem apart_write {p : Binary.Precision} {x y : Float} (heq : (x == y) = true) (hne : x ≠ y) :
    Apart (Layout.standard.write p x) (Layout.standard.write p y) := by
  have hzeros : Apart (Layout.standard.write p 0) (Layout.standard.write p (-0)) := by
    have hpos : Layout.standard.write p 0 = "0.0" := by rfl
    have hneg : Layout.standard.write p (-0) = "-0.0" := by rfl
    rw [hpos, hneg]
    exact apart_of_wordOf (by decide)
  rcases float_eq_or_zeros heq with rfl | ⟨rfl, rfl⟩ | ⟨rfl, rfl⟩
  · exact absurd rfl hne
  · exact hzeros
  · exact hzeros.symm

/-- A part behind another one is at least as long as an equal part that stands alone. -/
theorem length_partText_le {x y : Float} (h : (x == y) = true) :
    (partText x).toList.length ≤ (signedText y).toList.length := by
  rcases float_eq_or_zeros h with rfl | ⟨rfl, rfl⟩ | ⟨rfl, rfl⟩
  · rw [signedText]
    split
    · exact le_rfl
    · rw [String.toList_append, List.length_append]
      exact Nat.le_add_left _ _
  · decide +kernel
  · decide +kernel

theorem float_beq_symm {x y : Float} (h : (x == y) = true) : (y == x) = true := by
  obtain ⟨hx, hy, hxy⟩ := Float.beq_iff_ne_nan_and_eq.1 h
  refine Float.beq_iff_ne_nan_and_eq.2 ⟨hy, hx, ?_⟩
  rcases hxy with hxy | hxy | hxy
  · exact .inl hxy.symm
  · exact .inr (.inr hxy.symm)
  · exact .inr (.inl hxy.symm)

theorem Complex.eq_symm {z w : Complex} (h : z.eq w = true) : w.eq z = true := by
  obtain ⟨hre, him⟩ := Bool.and_eq_true_iff.1 h
  exact Bool.and_eq_true_iff.2 ⟨float_beq_symm hre, float_beq_symm him⟩

/-- Of equal numbers, one that shows a real part is longer than one that shows none. -/
theorem length_complexBody_lt {z w : Complex} (heq : z.eq w = true)
    (hz : (z.re.toBits == 0) = true) (hw : (w.re.toBits == 0) = false) :
    (complexBody z).toList.length < (complexBody w).toList.length := by
  obtain ⟨hre, him⟩ := Bool.and_eq_true_iff.1 heq
  have hle := length_partText_le him
  have hpart : 0 < (partText w.re).toList.length := by
    rcases float_eq_or_zeros hre with h | ⟨-, h⟩ | ⟨-, h⟩
    · rw [h, hw] at hz
      exact Bool.noConfusion hz
    · rw [h]
      decide +kernel
    · rw [h]
      decide +kernel
  simp only [complexBody, hz, hw, if_true, Bool.false_eq_true, if_false, String.toList_append,
    List.length_append]
  omega

theorem complexBody_zeros_ne (x : Float) : complexBody ⟨x, 0⟩ ≠ complexBody ⟨x, -0⟩ := by
  have hpart : partText 0 ≠ partText (-0) := by decide +kernel
  have hsigned : signedText 0 ≠ signedText (-0) := by decide +kernel
  unfold complexBody
  rw [ne_eq, String.append_left_inj]
  cases x.toBits == 0 with
  | true => simpa using hpart
  | false => exact fun h => hsigned ((String.append_right_inj _).1 h)

/-- Equal complex numbers that are not the same are written differently. -/
theorem complexBody_ne {z w : Complex} (heq : z.eq w = true) (hne : z ≠ w) :
    complexBody z ≠ complexBody w := by
  obtain ⟨re, im⟩ := z
  obtain ⟨re', im'⟩ := w
  obtain ⟨hre, him⟩ := Bool.and_eq_true_iff.1 heq
  have hhidden : ((0 : Float).toBits == 0) = true := by decide +kernel
  have hshown : ((-0 : Float).toBits == 0) = false := by decide +kernel
  rcases float_eq_or_zeros hre with rfl | ⟨rfl, rfl⟩ | ⟨rfl, rfl⟩
  · rcases float_eq_or_zeros him with rfl | ⟨rfl, rfl⟩ | ⟨rfl, rfl⟩
    · exact absurd rfl hne
    · exact complexBody_zeros_ne re
    · exact (complexBody_zeros_ne re).symm
  · exact fun h => (length_complexBody_lt heq hhidden hshown).ne (congrArg (·.toList.length) h)
  · exact fun h => (length_complexBody_lt (Complex.eq_symm heq) hhidden hshown).ne'
      (congrArg (·.toList.length) h)

theorem apart_complexText {z w : Complex} (heq : z.eq w = true) (hne : z ≠ w) :
    Apart (complexText z) (complexText w) := by
  have hbody : (complexBody z).toList ≠ (complexBody w).toList :=
    fun h => complexBody_ne heq hne (String.toList_inj.1 h)
  refine apart_of_wordOf ?_
  rw [wordOf_complexText, wordOf_complexText]
  intro hword
  have hlength := congrArg List.length hword
  cases hz : z.re.toBits == 0 <;> cases hw : w.re.toBits == 0 <;> rw [hz, hw] at hword hlength
  · exact hbody (List.cons.inj hword).2
  · have hlt := length_complexBody_lt (Complex.eq_symm heq) hw hz
    simp at hlength hlt
    omega
  · have hlt := length_complexBody_lt heq hz hw
    simp at hlength hlt
    omega
  · exact hbody hword

/-! ### Numbers -/

theorem apart_repr {n m : Fixed} (hlevel : n.level = m.level) (hbool : n.level ≠ .bool)
    (h : Apart n.body m.body) : Apart n.repr m.repr := by
  rw [Fixed.repr_eq hbool, Fixed.repr_eq (hlevel ▸ hbool), ← hlevel]
  exact ((Apart.prepend_iff _).2 h).append (by decide) (by decide)

/-- **Equal numbers of one level are written differently** unless they are the same. -/
theorem apart_of_level_eq {n m : Fixed} (hlevel : n.level = m.level)
    (heq : n.number.eq m.number = true) (hne : n ≠ m) :
    Apart n.text m.text ∧ Apart n.repr m.repr := by
  cases n with
  | bool b =>
    cases m with
    | bool c => exact absurd heq (by revert hne; revert b c; decide)
    | _ => exact Fixed.Level.noConfusion hlevel
  | int a =>
    cases m with
    | int b => exact absurd (congrArg Fixed.int (beq_iff_eq.1 heq)) hne
    | _ => exact Fixed.Level.noConfusion hlevel
  | single x =>
    cases m with
    | single y =>
      have hxy := apart_write (p := .single) heq fun h => hne (congrArg Fixed.single h)
      exact ⟨hxy, apart_repr rfl Fixed.Level.noConfusion hxy⟩
    | _ => exact Fixed.Level.noConfusion hlevel
  | float x =>
    cases m with
    | float y =>
      have hxy := apart_write (p := .double) heq fun h => hne (congrArg Fixed.float h)
      exact ⟨hxy, apart_repr rfl Fixed.Level.noConfusion hxy⟩
    | _ => exact Fixed.Level.noConfusion hlevel
  | complex z =>
    cases m with
    | complex w =>
      have hzw : z ≠ w := fun h => hne (congrArg Fixed.complex h)
      have hbody : Apart (complexBody z) (complexBody w) := by
        refine apart_of_wordOf ?_
        rw [wordOf_complexBody, wordOf_complexBody]
        exact fun h => complexBody_ne heq hzw (String.toList_inj.1 h)
      exact ⟨apart_complexText heq hzw, apart_repr rfl Fixed.Level.noConfusion hbody⟩
    | _ => exact Fixed.Level.noConfusion hlevel

/-- The text of a value is the same whatever object it is. -/
theorem Value.repr_bare (v : Value) : v.bare.repr = v.repr := by
  cases v <;> rfl

/-- The text of a number that is given as it is written, and how it meets another one. -/
theorem Value.of_numeral? {v : Value} {width : Bool} {n : Fixed}
    (h : v.numeral? = some (width, n)) :
    v.repr = (if width then n.repr else n.text) ∧ v.number? = some n.number ∧ v.isFixed = width ∧
      (width = false → v.isSingle = false ∧ n.level ≠ .single) := by
  rw [← v.repr_bare, Value.number?, Value.isFixed, Value.isSingle]
  unfold Value.numeral? at h
  split at h <;> cases h
  case h_5 n hbare =>
    rw [hbare]
    exact ⟨rfl, rfl, rfl, Bool.noConfusion⟩
  all_goals
    rename_i hbare
    rw [hbare]
    exact ⟨rfl, rfl, rfl, fun _ => ⟨rfl, Fixed.Level.noConfusion⟩⟩

/-- The word of a number shows whether it has fixed width, and its level. -/
theorem Value.numeralKind_wordOf {v : Value} {width : Bool} {n : Fixed}
    (h : v.numeral? = some (width, n)) : numeralKind (wordOf v.repr) = (width, n.level) := by
  obtain ⟨hrepr, -, -, hsingle⟩ := Value.of_numeral? h
  rw [hrepr]
  cases width with
  | false => exact numeralKind_text (hsingle rfl).2
  | true => exact numeralKind_repr n

/-- Numbers of one kind are compared as they are. -/
theorem Value.numbersEqual_of_numeral? {v w : Value} {width : Bool} {n m : Fixed}
    (hv : v.numeral? = some (width, n)) (hw : w.numeral? = some (width, m))
    (hlevel : n.level = m.level) : v.numbersEqual w = n.number.eq m.number := by
  obtain ⟨-, hvnumber, hvfixed, hvsingle⟩ := Value.of_numeral? hv
  obtain ⟨-, hwnumber, hwfixed, hwsingle⟩ := Value.of_numeral? hw
  have hmeet : n.number.meet m.number = (n.number, m.number) := by
    cases n <;> cases m <;> first | rfl | exact Fixed.Level.noConfusion hlevel
  rw [Value.numbersEqual, Value.meet?, hvnumber, hwnumber]
  cases width with
  | false => simp [hvfixed, hwfixed, (hvsingle rfl).1, (hwsingle rfl).1]
  | true => simp [hvfixed, hwfixed, hmeet]

theorem Value.exists_numeral? {v : Value} (h : v.number?.isSome = true) :
    ∃ width n, v.numeral? = some (width, n) := by
  rw [Value.number?] at h
  rw [Value.numeral?]
  generalize v.bare = u at h ⊢
  cases u <;> first | exact ⟨_, _, rfl⟩ | exact Bool.noConfusion h

/-- Only numbers are compared as numbers. -/
theorem Value.isSome_number?_of_numbersEqual {v w : Value} (h : v.numbersEqual w = true) :
    v.number?.isSome = true ∧ w.number?.isSome = true := by
  rw [Value.numbersEqual, Value.meet?] at h
  cases hv : v.number? with
  | none => simp [hv] at h
  | some _ =>
    cases hw : w.number? with
    | none => simp [hv, hw] at h
    | some _ => exact ⟨rfl, rfl⟩

/-- **Equal numbers are written alike exactly if they are the same**, kind and sign included. -/
theorem Value.told_numeral {v w : Value} (heq : v.numbersEqual w = true) :
    (Spelling.ofBool (v.numeral? = w.numeral?)).Told v.repr w.repr := by
  obtain ⟨hvnumber, hwnumber⟩ := Value.isSome_number?_of_numbersEqual heq
  obtain ⟨a, n, hv⟩ := Value.exists_numeral? hvnumber
  obtain ⟨b, m, hw⟩ := Value.exists_numeral? hwnumber
  have hvrepr := (Value.of_numeral? hv).1
  have hwrepr := (Value.of_numeral? hw).1
  refine Spelling.told_ofBool (fun hsame => ?_) (fun hdiffer => ?_)
  · rw [decide_eq_true_eq, hv, hw, Option.some.injEq, Prod.mk.injEq] at hsame
    rw [hvrepr, hwrepr, hsame.1, hsame.2]
  · rw [decide_eq_false_iff_not, hv, hw, Option.some.injEq, Prod.mk.injEq] at hdiffer
    by_cases hkind : (a, n.level) = (b, m.level)
    · obtain ⟨rfl, hlevel⟩ := Prod.mk.inj hkind
      have hne : n ≠ m := fun h => hdiffer ⟨rfl, h⟩
      rw [Value.numbersEqual_of_numeral? hv hw hlevel] at heq
      obtain ⟨htext, hrepr⟩ := apart_of_level_eq hlevel heq hne
      rw [hvrepr, hwrepr]
      cases a with
      | false => exact htext
      | true => exact hrepr
    · refine apart_of_wordOf fun hword => hkind ?_
      rw [← Value.numeralKind_wordOf hv, ← Value.numeralKind_wordOf hw, hword]

/-! ### Whole numbers and ranges -/

theorem apart_toString {a b : Int} (h : a ≠ b) : Apart (toString a) (toString b) := by
  refine apart_of_wordOf fun hword => h ?_
  rw [(numeral_toString a).wordOf_eq, (numeral_toString b).wordOf_eq] at hword
  exact Int.repr_injective (String.toList_inj.1 hword)

theorem told_toString (a b : Int) :
    (Spelling.ofBool (a == b)).Told (toString a) (toString b) :=
  Spelling.told_beq apart_toString a b

/-- The step of a range behind its ends.  A step of one is not shown. -/
def stepText (c : Int) : String := (if c = 1 then "" else ", " ++ toString c) ++ ")"

theorem stepText_of_ne_one {c : Int} (h : c ≠ 1) : stepText c = ", " ++ toString c ++ ")" := by
  rw [stepText, if_neg h]

theorem closes_stepText (c : Int) : Closes (stepText c) := by
  by_cases hc : c = 1
  · rw [hc]
    decide
  · rw [stepText_of_ne_one hc, String.append_assoc]
    exact closes_of_mark (by decide) _

/-- A step that is shown differs from one that is not. -/
theorem apart_stepText_one {c : Int} (h : c ≠ 1) : Apart (stepText 1) (stepText c) := by
  rw [stepText_of_ne_one h]
  intro s t _ _ heq
  have hhead := congrArg (·.toList.head?) heq
  simp [stepText] at hhead

theorem apart_stepText {c c' : Int} (h : c ≠ c') : Apart (stepText c) (stepText c') := by
  by_cases hc : c = 1
  · rw [hc]
    exact apart_stepText_one fun hc' => h (hc.trans hc'.symm)
  · by_cases hc' : c' = 1
    · rw [hc']
      exact (apart_stepText_one hc).symm
    · rw [stepText_of_ne_one hc, stepText_of_ne_one hc']
      exact ((Apart.prepend_iff ", ").2 (apart_toString h)).append (by decide) (by decide)

/-- Ranges are written alike exactly if they have the same ends and the same step. -/
theorem told_range (a b c a' b' c' : Int) :
    (Spelling.ofBool (a == a' && b == b' && c == c')).Told (Value.range a b c).repr
      (Value.range a' b' c').repr := by
  have hall : (Spelling.ofBool (a == a' && b == b' && c == c')) =
      (Spelling.ofBool (a == a')).next ((Spelling.ofBool (b == b')).next
        (Spelling.ofBool (c == c'))) := by
    cases a == a' <;> cases b == b' <;> rfl
  have htext (a b c : Int) : (Value.range a b c).repr =
      "range(" ++ (toString a ++ (", " ++ (toString b ++ stepText c))) := by
    simp only [stepText, ← String.append_assoc]
    rfl
  rw [hall, htext, htext]
  refine Spelling.Told.prepend ?_ "range("
  refine (told_toString a a').append (Spelling.Told.prepend ?_ ", ")
    (closes_of_mark (by decide) _) (closes_of_mark (by decide) _)
  exact (told_toString b b').append (Spelling.told_beq apart_stepText c c') (closes_stepText c)
    (closes_stepText c')

end Laminar
