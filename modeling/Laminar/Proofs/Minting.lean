import Laminar.Decimal.Reader
import Laminar.Proofs.Computation
import Laminar.Symbol

/-!
# Minted names can be read back

A minted name is the mark `##`, a hint, a `#` and a number.  A hint may be any text, also one that
holds `#` or is itself a minted name, so the parts cannot be found from the left.  They can be found
from the right: the digits and the sign of a number hold no `#`, so the number is what stands after
the *last* one.

* `mintedNumber` and `mintedHint` read the parts of a name; `mint_inj` follows.
* `mintedFrom` lists the hints of a run of mintings with their numbers, and `mintAll_fst` says that
  `mintAll` writes exactly these.
* `readFloat?_of_isMinted`: no name with the mark reads as a number.
-/

namespace Laminar

/-! ### Reading a name back -/

/-- The number of a minted name: what stands after the last `#`. -/
def mintedNumber (name : String) : Option Int :=
  (String.ofList (name.toList.reverse.takeWhile (· != '#')).reverse).toInt?

/-- The hint of a minted name: what stands between the mark and the last `#`. -/
def mintedHint (name : String) : String :=
  String.ofList ((name.toList.reverse.dropWhile (· != '#')).tail.reverse.drop 2)

/-- A number is written without `#`. -/
theorem hash_notMem_toString (n : Int) : '#' ∉ (toString n).toList := by
  intro h
  rw [Int.toString_eq_repr, Int.repr_eq_if] at h
  have digit : ∀ m : Nat, '#' ∉ m.repr.toList := by
    intro m hm
    rw [Nat.toList_repr] at hm
    exact absurd (Nat.isDigit_of_mem_toDigits (by decide) (by decide) hm) (by decide)
  split at h
  · exact digit _ h
  · rw [String.toList_append, List.mem_append] at h
    rcases h with h | h
    · exact absurd h (by decide)
    · exact digit _ h

/-- The characters of a minted name, from the last one back. -/
theorem reverse_toList_mint (hint : String) (n : Int) :
    (mint hint n).toList.reverse =
      (toString n).toList.reverse ++ '#' :: (hint.toList.reverse ++ ['#', '#']) := by
  have mark : freshMark.toList = ['#', '#'] := by decide
  have hash : ("#" : String).toList = ['#'] := by decide
  rw [mint]
  simp only [String.toList_append, mark, hash]
  simp

private theorem digits_ne_hash (n : Int) :
    ∀ c ∈ (toString n).toList.reverse, (c != '#') = true := by
  intro c hc
  rw [List.mem_reverse] at hc
  simp only [bne_iff_ne, ne_eq]
  rintro rfl
  exact hash_notMem_toString n hc

/-- **The number of a minted name is read back.** -/
@[simp]
theorem mintedNumber_mint (hint : String) (n : Int) : mintedNumber (mint hint n) = some n := by
  rw [mintedNumber, reverse_toList_mint, List.takeWhile_append_of_pos (digits_ne_hash n)]
  simp [Int.toString_eq_repr]

/-- **The hint of a minted name is read back.** -/
@[simp]
theorem mintedHint_mint (hint : String) (n : Int) : mintedHint (mint hint n) = hint := by
  rw [mintedHint, reverse_toList_mint, List.dropWhile_append_of_pos (digits_ne_hash n)]
  simp

/-- Minted names are equal only if both their hints and their numbers are. -/
theorem mint_inj {hint hint' : String} {n n' : Int} :
    mint hint n = mint hint' n' ↔ hint = hint' ∧ n = n' := by
  constructor
  · intro h
    have hh := congrArg mintedHint h
    have hn := congrArg mintedNumber h
    rw [mintedHint_mint, mintedHint_mint] at hh
    rw [mintedNumber_mint, mintedNumber_mint] at hn
    exact ⟨hh, Option.some.inj hn⟩
  · rintro ⟨rfl, rfl⟩
    rfl

/-! ### Several mintings in a row -/

/-- Hints with the numbers they get when names are minted for them in order. -/
def mintedFrom : List String → Int → List (String × Int)
  | [], _ => []
  | hint :: hints, n => (hint, n) :: mintedFrom hints (n + 1)

/-- `mintAll` mints one name for each hint with its number. -/
theorem mintAll_fst (hints : List String) (n : Int) :
    (mintAll hints n).1 = (mintedFrom hints n).map fun m => mint m.1 m.2 := by
  induction hints generalizing n with
  | nil => rfl
  | cons hint hints ih => simp [mintAll, mintedFrom, ih]

@[simp]
theorem map_fst_mintedFrom (hints : List String) (n : Int) :
    (mintedFrom hints n).map Prod.fst = hints := by
  induction hints generalizing n with
  | nil => rfl
  | cons hint hints ih => simp [mintedFrom, ih]

@[simp]
theorem length_mintedFrom (hints : List String) (n : Int) :
    (mintedFrom hints n).length = hints.length := by
  rw [← List.length_map (f := Prod.fst), map_fst_mintedFrom]

/-- The numbers in use are exactly those from the counter on, one per hint. -/
theorem mem_numbers_mintedFrom {hints : List String} {n k : Int} :
    k ∈ (mintedFrom hints n).map Prod.snd ↔ n ≤ k ∧ k < n + hints.length := by
  induction hints generalizing n with
  | nil =>
    simp only [mintedFrom, List.map_nil, List.not_mem_nil, List.length_nil, false_iff]
    omega
  | cons hint hints ih =>
    simp only [mintedFrom, List.map_cons, List.mem_cons, ih, List.length_cons]
    omega

/-- No number is used twice. -/
theorem nodup_numbers_mintedFrom (hints : List String) (n : Int) :
    ((mintedFrom hints n).map Prod.snd).Nodup := by
  induction hints generalizing n with
  | nil => simp [mintedFrom]
  | cons hint hints ih =>
    simp only [mintedFrom, List.map_cons, List.nodup_cons]
    refine ⟨?_, ih (n + 1)⟩
    rw [mem_numbers_mintedFrom]
    omega

/-! ### Minted names are no numbers -/

/-- A name with the mark begins with a `#`. -/
theorem toList_of_isMinted {s : String} (h : isMinted s = true) : ∃ cs, s.toList = '#' :: cs := by
  have mark : freshMark.toList = ['#', '#'] := by decide
  rw [isMinted, mark, List.isPrefixOf_iff_prefix] at h
  obtain ⟨rest, h⟩ := h
  exact ⟨'#' :: rest, by rw [← h]; rfl⟩

/-- Trimming keeps a character that is not blank in front. -/
theorem trimChars_cons_of_not_blank {c : Char} (h : Text.isBlank c = false) (cs : List Char) :
    ∃ ds, Text.trimChars (c :: cs) = c :: ds := by
  refine ⟨(cs.reverse.dropWhile Text.isBlank).reverse, ?_⟩
  rw [Text.trimChars, Text.trimStart, List.dropWhile_cons_of_neg (by simp [h]), List.reverse_cons,
    List.dropWhile_append]
  split
  · rename_i hempty
    rw [List.isEmpty_iff] at hempty
    rw [hempty, List.dropWhile_cons_of_neg (by simp [h])]
    rfl
  · simp

/-- No number begins with a `#`. -/
theorem readParts?_hash (cs : List Char) : Decimal.readParts? ('#' :: cs) = none := by
  have value : Decimal.digitValue? '#' = none := by decide
  have group : Decimal.closedGroup? 10 false ('#' :: cs) = some ([], '#' :: cs) := by
    simp [Decimal.closedGroup?, Decimal.digitGroup, Decimal.digitGroupFrom, value]
  have fraction : Decimal.readFraction? ('#' :: cs) = some (none, '#' :: cs) := by
    simp [Decimal.readFraction?]
  simp [Decimal.readParts?, group, fraction]

/-- **No name with the mark reads as a number.** -/
theorem readFloat?_of_isMinted {s : String} (h : isMinted s = true) :
    Decimal.readFloat? s = none := by
  obtain ⟨cs, hs⟩ := toList_of_isMinted h
  have plain : Text.plainDigits ('#' :: cs) = '#' :: Text.plainDigits cs := by
    rw [Text.plainDigits, List.map_cons, show Text.plainDigit '#' = '#' from by decide]
    rfl
  obtain ⟨ds, hds⟩ := trimChars_cons_of_not_blank (c := '#') (by decide) (Text.plainDigits cs)
  have body : Decimal.conversionText s = '#' :: ds := by
    rw [Decimal.conversionText, hs, plain, hds]
  have sign : Decimal.readSign ('#' :: ds) = (false, '#' :: ds) := by
    simp [Decimal.readSign]
  have word : ∀ w : String, w.toList.head? ≠ some '#' →
      String.ofList (('#' :: ds).map Char.toLower) ≠ w := by
    rintro w hw rfl
    refine hw ?_
    rw [String.toList_ofList, List.map_cons, show Char.toLower '#' = '#' from by decide]
    rfl
  rw [Decimal.readFloat?, body, sign]
  simp only [word "inf" (by decide), word "infinity" (by decide), word "nan" (by decide),
    readParts?_hash, or_self, if_false]

end Laminar
