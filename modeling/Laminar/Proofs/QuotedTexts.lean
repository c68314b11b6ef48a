import Mathlib
import Laminar.Proofs.TextsApart

/-!
# Quoted texts read back

Between its quotes a text is written character by character, each as itself or as an escape.  An
escape shows where it ends, so that the characters can be read back from left to right, and the
closing quote can be told from a quote inside.  So texts that differ stay different when they are
written, whatever follows the closing quote.

* `unescape` reads one character back, and `unescape_escape` says that it does.
* `flatMap_escape_inj` reads up to the closing quote.
* `apart_quote`: the written forms of two texts are `Apart` as soon as the texts differ.
-/

namespace Laminar.Text

/-! ### Code points -/

/-- The code point of a character is its own, unless the character stands for a surrogate. -/
theorem code_cases (c : Char) :
    (0xb5800 ≤ c.toNat ∧ c.toNat < 0xb6000 ∧ code c = c.toNat - 0xb5800 + 0xd800) ∨
      (¬ (0xb5800 ≤ c.toNat ∧ c.toNat < 0xb6000) ∧ code c = c.toNat) := by
  have hiff : isSurrogate c = true ↔ 0xb5800 ≤ c.toNat ∧ c.toNat < 0xb6000 := by
    rw [isSurrogate, isStandIn, Bool.and_eq_true, decide_eq_true_eq, decide_eq_true_eq]
    rfl
  by_cases h : isSurrogate c = true
  · exact .inl ⟨(hiff.1 h).1, (hiff.1 h).2, by rw [code, if_pos h]; rfl⟩
  · exact .inr ⟨fun hc => h (hiff.2 hc), by rw [code, if_neg h]⟩

theorem toNat_cases (c : Char) :
    c.toNat < 0xd800 ∨ 0xdfff < c.toNat ∧ c.toNat < 0x110000 := c.valid

/-- Characters are told apart by their code points: no character has the code point of a
surrogate that another one stands for. -/
theorem code_injective : Function.Injective code := by
  intro c d h
  have hc := toNat_cases c
  have hd := toNat_cases d
  refine Char.toNat_inj.1 ?_
  rcases code_cases c with hc' | hc' <;> rcases code_cases d with hd' | hd' <;> omega

theorem code_lt (c : Char) : code c < 16 ^ 8 := by
  have hc := toNat_cases c
  rcases code_cases c with hc' | hc' <;> omega

/-! ### Hexadecimal digits -/

/-- The value of a hexadecimal digit. -/
def hexDigit (c : Char) : Nat := if c.isDigit then c.toNat - 48 else c.toNat - 87

/-- The number that hexadecimal digits stand for. -/
def hexValue (ds : List Char) : Nat := ds.foldl (fun n c => 16 * n + hexDigit c) 0

theorem hexValue_toDigits (n : Nat) : hexValue (Nat.toDigits 16 n) = n := by
  have hdigit : ∀ d < 16, hexDigit d.digitChar = d := by decide
  induction n using Nat.strong_induction_on with
  | _ n ih =>
    rw [Nat.toDigits_eq_if (by decide)]
    split
    · rename_i hn
      simp [hexValue, hdigit n hn]
    · have hquotient := ih (n / 16) (by omega)
      rw [hexValue] at hquotient ⊢
      rw [List.foldl_append, hquotient, List.foldl_cons, List.foldl_nil,
        hdigit _ (Nat.mod_lt n (by decide))]
      omega

theorem hexValue_replicate_zero (k : Nat) : hexValue (List.replicate k '0') = 0 := by
  induction k with
  | zero => rfl
  | succ k ih =>
    rw [List.replicate_succ, hexValue, List.foldl_cons]
    exact ih

theorem hexValue_hexPadded (width n : Nat) : hexValue (hexPadded width n) = n := by
  have hvalue := hexValue_toDigits n
  have hzeros := hexValue_replicate_zero (width - (Nat.toDigits 16 n).length)
  rw [hexValue] at hvalue hzeros
  rw [hexPadded, hexValue, List.foldl_append, hzeros, hvalue]

theorem length_hexPadded {width n : Nat} (hwidth : 0 < width) (hn : n < 16 ^ width) :
    (hexPadded width n).length = width := by
  have hlength : (Nat.toDigits 16 n).length ≤ width :=
    (Nat.length_toDigits_le_iff (by decide) hwidth).2 hn
  rw [hexPadded, List.length_append, List.length_replicate]
  omega

/-! ### Escapes -/

/-- Read one character between quotes back: its code point, and what follows it. -/
def unescape : List Char → Option (Nat × List Char)
  | '\\' :: 'n' :: cs => some (code '\n', cs)
  | '\\' :: 'r' :: cs => some (code '\r', cs)
  | '\\' :: 't' :: cs => some (code '\t', cs)
  | '\\' :: 'x' :: cs => some (hexValue (cs.take 2), cs.drop 2)
  | '\\' :: 'u' :: cs => some (hexValue (cs.take 4), cs.drop 4)
  | '\\' :: 'U' :: cs => some (hexValue (cs.take 8), cs.drop 8)
  | '\\' :: c :: cs => some (code c, cs)
  | c :: cs => some (code c, cs)
  | [] => none

theorem unescape_plain {c : Char} (h : c ≠ '\\') (cs : List Char) :
    unescape (c :: cs) = some (code c, cs) := by
  unfold unescape
  split <;> simp_all

variable {q : Char}

/-- **An escape is read back**, whatever follows it. -/
theorem unescape_escape (hq : q = '"' ∨ q = '\'') (c : Char) (cs : List Char) :
    unescape (escape q c ++ cs) = some (code c, cs) := by
  have hhex {width : Nat} (hwidth : 0 < width) (hn : code c < 16 ^ width) :
      some (hexValue ((hexPadded width (code c) ++ cs).take width),
        (hexPadded width (code c) ++ cs).drop width) = some (code c, cs) := by
    have hlength := length_hexPadded hwidth hn
    rw [List.take_left' hlength, List.drop_left' hlength, hexValue_hexPadded]
  unfold escape
  split_ifs with hbackslash hquote hn hr ht hprintable hx hu
  · rw [hbackslash]
    rfl
  · rw [hquote]
    rcases hq with rfl | rfl <;> rfl
  · rw [hn]
    rfl
  · rw [hr]
    rfl
  · rw [ht]
    rfl
  · exact unescape_plain hbackslash cs
  · exact hhex (by decide) hx
  · exact hhex (by decide) hu
  · exact hhex (by decide) (code_lt c)

/-- No character is written so that it could be the closing quote. -/
theorem head?_escape_ne (hq : q = '"' ∨ q = '\'') (c : Char) (cs : List Char) :
    (escape q c ++ cs).head? ≠ some q := by
  have hbackslash : '\\' ≠ q := by rcases hq with rfl | rfl <;> decide
  unfold escape
  split_ifs <;> simp_all

/-- **Characters are read up to the closing quote.** -/
theorem flatMap_escape_inj (hq : q = '"' ∨ q = '\'') {as bs s t : List Char}
    (h : as.flatMap (escape q) ++ q :: s = bs.flatMap (escape q) ++ q :: t) : as = bs := by
  induction as generalizing bs with
  | nil =>
    cases bs with
    | nil => rfl
    | cons d bs =>
      rw [List.flatMap_cons, List.append_assoc] at h
      exact absurd (congrArg List.head? h).symm (head?_escape_ne hq d _)
  | cons c as ih =>
    cases bs with
    | nil =>
      rw [List.flatMap_cons, List.append_assoc] at h
      exact absurd (congrArg List.head? h) (head?_escape_ne hq c _)
    | cons d bs =>
      have hread := congrArg unescape h
      simp only [List.flatMap_cons, List.append_assoc, unescape_escape hq, Option.some.injEq,
        Prod.mk.injEq] at hread
      rw [code_injective hread.1, ih hread.2]

/-- **Quoted texts are apart** as soon as the texts differ. -/
theorem apart_quote {a b : String} (h : a ≠ b) : Apart (quote a) (quote b) := by
  intro s t _ _ heq
  have hchars := congrArg String.toList heq
  simp only [quote, quoteChars, String.toList_append, String.toList_ofList, List.cons_append,
    List.append_assoc, List.cons.injEq, List.nil_append] at hchars
  obtain ⟨hquote, hrest⟩ := hchars
  rw [← hquote] at hrest
  exact h (String.toList_inj.1 (flatMap_escape_inj (quoteFor_eq _) hrest))

/-- Texts are written alike exactly if they are the same. -/
theorem told_quote (k l : String) :
    (Spelling.ofBool (k == l)).Told (quote k) (quote l) :=
  Spelling.told_beq apart_quote k l

end Laminar.Text
