import Mathlib
import Laminar.Value.Order

/-!
# The exact order of numbers

A whole number of any size and a float are compared by one algorithm, two floats by another.  This
module says what both compute: the order of what the numbers are worth, without any rounding.  A
float is worth a rational number, or more or less than all of them, or nothing if it is not a
number; then it stands in no order.

* `Binary.Decoded.worth?` is what a float is worth, once it is taken apart.
* `Binary.decode_eq_ofUnpacked`: taking a float apart agrees with the model of floats, in which `<`
  and `==` are defined.
* `Binary.Dyadic.compare_magnitude`: floats have a normal form, so their exponents decide first.
* `Number.compare_eq`: **numbers are ordered by what they are worth.**
* `Binary.worth_of_ofInt`: the float nearest to a whole number is on the same side of zero and of
  one.
-/

namespace Laminar

open Float.Model (UnpackedFloat Format)
open Float.Model.UnpackedFloat (Sign unpackExponent unpackMantissa unpackSign)

/-- A map that keeps the order keeps its outcome. -/
theorem compare_map {α β : Type} [LinearOrder α] [LinearOrder β] {f : α → β} (hf : StrictMono f)
    (a b : α) : compare (f a) (f b) = compare a b := by
  rw [← cmp_eq_compare, ← cmp_eq_compare, hf.cmp_map_eq]

namespace Binary

/-! ### Worth -/

/-- What a number is worth: a rational number, or less or more than all of them. -/
abbrev Worth := WithBot (WithTop ℚ)

/-- A rational number as a worth. -/
abbrev Worth.ofRat (q : ℚ) : Worth := ((q : WithTop ℚ) : WithBot (WithTop ℚ))

theorem compare_ofRat (p q : ℚ) : compare (Worth.ofRat p) (Worth.ofRat q) = compare p q :=
  compare_map (WithBot.coe_strictMono.comp WithTop.coe_strictMono) p q

theorem compare_intCast (a b : ℤ) : compare (a : ℚ) (b : ℚ) = compare a b :=
  compare_map Int.cast_strictMono a b

theorem compare_neg_rat (p q : ℚ) : compare (-p) (-q) = (compare p q).swap := by
  rw [← Std.OrientedOrd.eq_swap]
  exact compare_map (f := fun p : ℚᵒᵈ => -p.ofDual) (fun _ _ h => neg_lt_neg h) p q

namespace Dyadic

/-- The number without its sign. -/
def magnitude (d : Dyadic) : ℚ := d.mantissa * 2 ^ d.exponent

def toRat (d : Dyadic) : ℚ := if d.negative then -d.magnitude else d.magnitude

/-- The mantissa with the sign. -/
def signed (d : Dyadic) : ℤ := if d.negative then -d.mantissa else d.mantissa

theorem toRat_eq (d : Dyadic) : d.toRat = d.signed * 2 ^ d.exponent := by
  unfold toRat signed magnitude
  split <;> push_cast <;> ring

/-- The form in which floats are given: at most 53 bits of mantissa, and all of them unless the
exponent is the least one. -/
structure Normal (d : Dyadic) : Prop where
  mantissa_lt : d.mantissa < 2 ^ 53
  full : leastExponent < d.exponent → 2 ^ 52 ≤ d.mantissa
  least_le : leastExponent ≤ d.exponent

variable {d d' : Dyadic}

/-- With a smaller exponent a number in normal form is smaller, whatever the mantissas. -/
theorem Normal.magnitude_lt (hd : d.Normal) (hd' : d'.Normal) (h : d.exponent < d'.exponent) :
    d.magnitude < d'.magnitude := by
  have hfull : (2 : ℚ) ^ 52 ≤ d'.mantissa := by
    exact_mod_cast hd'.full (hd.least_le.trans_lt h)
  have hlt : (d.mantissa : ℚ) < 2 ^ 53 := by exact_mod_cast hd.mantissa_lt
  calc d.magnitude < 2 ^ 53 * 2 ^ d.exponent :=
        mul_lt_mul_of_pos_right hlt (zpow_pos two_pos _)
    _ = 2 ^ 52 * 2 ^ (d.exponent + 1) := by rw [zpow_add_one₀ two_ne_zero]; ring
    _ ≤ 2 ^ 52 * 2 ^ d'.exponent :=
        mul_le_mul_of_nonneg_left (zpow_le_zpow_right₀ one_le_two (by omega)) (by positivity)
    _ ≤ d'.magnitude := mul_le_mul_of_nonneg_right hfull (zpow_nonneg zero_le_two _)

/-- **Exponents decide first.** Numbers in normal form are compared by their exponents and then by
their mantissas. -/
theorem compare_magnitude (hd : d.Normal) (hd' : d'.Normal) :
    compare d.magnitude d'.magnitude =
      (compare d.exponent d'.exponent).then (compare d.mantissa d'.mantissa) := by
  rcases lt_trichotomy d.exponent d'.exponent with h | h | h
  · rw [compare_lt_iff_lt.2 h, compare_lt_iff_lt.2 (hd.magnitude_lt hd' h)]
    rfl
  · have hpos : (0 : ℚ) < 2 ^ d'.exponent := zpow_pos two_pos _
    have hmono : StrictMono fun m : ℕ => (m : ℚ) * 2 ^ d'.exponent :=
      Nat.strictMono_cast.mul_const hpos
    rw [compare_eq_iff_eq.2 h, magnitude, magnitude, h]
    exact compare_map hmono d.mantissa d'.mantissa
  · rw [compare_gt_iff_gt.2 h, compare_gt_iff_gt.2 (hd'.magnitude_lt hd h)]
    rfl

end Dyadic

/-- What a float is worth, once it is taken apart. -/
def Decoded.worth? : Decoded → Option Worth
  | .nan => none
  | .infinite negative => some (if negative then ⊥ else ⊤)
  | .finite d => some (.ofRat d.toRat)

/-- A float that is taken apart is in normal form. -/
theorem normal_of_decode {x : Float} {d : Dyadic} (h : decode x = .finite d) : d.Normal := by
  have hfraction : x.toBits.toNat % 2 ^ 52 < 2 ^ 52 := Nat.mod_lt _ (by norm_num)
  unfold decode at h
  simp only [Nat.pow_eq] at h
  split at h
  · split at h <;> cases h
  split at h
  · cases h
    exact ⟨by simp only; omega, fun hlt => absurd hlt (lt_irrefl _), le_rfl⟩
  · rename_i hfield
    cases h
    refine ⟨by simp only; omega, fun _ => Nat.le_add_right _ _, ?_⟩
    simp only [leastExponent]
    omega

/-! ### The model of floats -/

/-- A float of the model, taken apart. -/
def Decoded.ofUnpacked : UnpackedFloat → Decoded
  | .notANumber => .nan
  | .infinity s => .infinite (s == .negative)
  | .zero s => .finite ⟨s == .negative, 0, leastExponent⟩
  | .finite s m e _ => .finite ⟨s == .negative, m, e⟩

section Fields

variable (b : BitVec Format.binary64.numBits)

theorem toNat_unpackMantissa : (unpackMantissa b).toNat = b.toNat % 2 ^ 52 := by
  rw [Float.Model.UnpackedFloat.unpackMantissa_def, BitVec.extractLsb'_toNat, Nat.shiftRight_zero]

theorem toNat_unpackExponent : (unpackExponent b).toNat = b.toNat / 2 ^ 52 % 2 ^ 11 := by
  rw [Float.Model.UnpackedFloat.unpackExponent_def, BitVec.extractLsb'_toNat,
    Nat.shiftRight_eq_div_pow]

theorem toNat_unpackSign : (unpackSign b).toNat = b.toNat / 2 ^ 63 % 2 := by
  rw [Float.Model.UnpackedFloat.unpackSign_def, BitVec.extractLsb'_toNat,
    Nat.shiftRight_eq_div_pow]
  rfl

theorem negative_unpackSign :
    (Sign.ofBitVec (unpackSign b) == .negative) = decide (b.toNat ≥ 2 ^ 63) := by
  have hlt : b.toNat < 2 ^ 64 := b.isLt
  have hsign := toNat_unpackSign b
  rw [Sign.ofBitVec]
  split
  · rename_i hzero
    rw [hzero, BitVec.toNat_ofNat] at hsign
    rw [decide_eq_false (by omega)]
    rfl
  · rename_i hzero
    have hone : (unpackSign b).toNat ≠ 0 := fun h => hzero (BitVec.eq_of_toNat_eq h)
    rw [decide_eq_true (by omega)]
    rfl

/-- The bit that is not stored. -/
theorem toNat_one_append (m : BitVec 52) : (1#1 ++ m).toNat = 2 ^ 52 + m.toNat := by
  rw [BitVec.toNat_append, ← Nat.shiftLeft_add_eq_or_of_lt m.isLt, Nat.shiftLeft_eq]
  simp

end Fields

/-- **Taking a float apart** agrees with the model of floats. -/
theorem decode_eq_ofUnpacked (x : Float) : decode x = .ofUnpacked x.toModel.unpack := by
  have hexponent := toNat_unpackExponent x.toModel.toBits.toBitVec
  have hmantissa := toNat_unpackMantissa x.toModel.toBits.toBitVec
  have hsign := negative_unpackSign x.toModel.toBits.toBitVec
  have hbits : x.toBits.toNat = x.toModel.toBits.toBitVec.toNat := rfl
  simp only [decode, Nat.pow_eq, hbits, ← hexponent, ← hmantissa, ← hsign, Float.Model.unpack,
    UnpackedFloat.unpack]
  split
  · rename_i hfield
    rw [if_pos (BitVec.eq_of_toNat_eq hfield)]
    split
    · rename_i hfraction
      rw [if_pos (BitVec.eq_of_toNat_eq hfraction)]
      rfl
    · rename_i hfraction
      rw [if_neg fun h => hfraction (congrArg BitVec.toNat h)]
      rfl
  · rename_i hfield
    rw [if_neg fun h => hfield (congrArg BitVec.toNat h)]
    split
    · rename_i hzero
      rw [if_pos (BitVec.eq_of_toNat_eq hzero)]
      split
      · rename_i hfraction
        rw [hfraction]
        rfl
      · rw [hzero]
        rfl
    · rename_i hzero
      rw [if_neg fun h => hzero (congrArg BitVec.toNat h)]
      simp only [Decoded.ofUnpacked]
      rw [toNat_one_append]
      rfl

/-! ### Order of floats -/

section Unpacked

variable {u v : UnpackedFloat} {s t : Sign} {m m' : ℕ} {e e' : ℤ}

theorem worth_infinity (s : Sign) : (Decoded.ofUnpacked (.infinity s)).worth? =
    some (if s == .negative then ⊥ else ⊤) := rfl

theorem worth_zero (s : Sign) : (Decoded.ofUnpacked (.zero s)).worth? = some (.ofRat 0) := by
  cases s <;> simp [Decoded.ofUnpacked, Decoded.worth?, Dyadic.toRat, Dyadic.magnitude]

theorem worth_finite (hm : 0 < m) : (Decoded.ofUnpacked (.finite s m e hm)).worth? =
    some (.ofRat (Dyadic.toRat ⟨s == .negative, m, e⟩)) := rfl

/-- An infinite float is on the side of its sign, beyond all others. -/
theorem compare_infinity (s : Sign) (q : ℚ) :
    compare (if s == .negative then ⊥ else ⊤ : Worth) (.ofRat q) =
      if s == .negative then .lt else .gt := by
  cases s with
  | negative => exact compare_lt_iff_lt.2 (WithBot.bot_lt_coe _)
  | positive => exact compare_gt_iff_gt.2 (WithBot.coe_lt_coe.2 (WithTop.coe_lt_top q))

/-- A float that is not zero is on the side of its sign. -/
theorem compare_zero_finite (hm : 0 < m) :
    compare 0 (Dyadic.toRat ⟨s == .negative, m, e⟩) = if s == .negative then .gt else .lt := by
  have hpos : (0 : ℚ) < m * 2 ^ e := mul_pos (Nat.cast_pos.2 hm) (zpow_pos two_pos _)
  cases s with
  | negative => exact compare_gt_iff_gt.2 (neg_lt_zero.2 hpos)
  | positive => exact compare_lt_iff_lt.2 hpos

/-- Floats on both sides of zero are ordered by their signs, those on one side by exponents and
mantissas. -/
theorem compare_finite (hm : 0 < m) (hm' : 0 < m') (hd : Dyadic.Normal ⟨s == .negative, m, e⟩)
    (hd' : Dyadic.Normal ⟨t == .negative, m', e'⟩) :
    UnpackedFloat.compare (.finite s m e hm) (.finite t m' e' hm') =
      some (compare (Dyadic.toRat ⟨s == .negative, m, e⟩)
        (Dyadic.toRat ⟨t == .negative, m', e'⟩)) := by
  have hlex := Dyadic.compare_magnitude hd hd'
  have hpos : (0 : ℚ) < m * 2 ^ e := mul_pos (Nat.cast_pos.2 hm) (zpow_pos two_pos _)
  have hpos' : (0 : ℚ) < m' * 2 ^ e' := mul_pos (Nat.cast_pos.2 hm') (zpow_pos two_pos _)
  cases s <;> cases t
  case negative.negative =>
    exact congrArg some ((congrArg Ordering.swap hlex.symm).trans (compare_neg_rat _ _).symm)
  case negative.positive =>
    exact congrArg some (compare_lt_iff_lt.2 ((neg_lt_zero.2 hpos).trans hpos')).symm
  case positive.negative =>
    exact congrArg some (compare_gt_iff_gt.2 ((neg_lt_zero.2 hpos').trans hpos)).symm
  case positive.positive => exact congrArg some hlex.symm

/-- **The model of floats orders them by what they are worth**, if they are in normal form. -/
theorem compare_unpacked (hu : ∀ d, Decoded.ofUnpacked u = .finite d → d.Normal)
    (hv : ∀ d, Decoded.ofUnpacked v = .finite d → d.Normal) :
    u.compare v =
      Option.map₂ compare (Decoded.ofUnpacked u).worth? (Decoded.ofUnpacked v).worth? := by
  cases u with
  | notANumber => rfl
  | infinity s =>
    cases v with
    | notANumber => cases s <;> rfl
    | infinity t => cases s <;> cases t <;> rfl
    | zero t =>
      rw [worth_infinity, worth_zero, Option.map₂_some_some, compare_infinity]
      cases s <;> rfl
    | finite t m e hm =>
      rw [worth_infinity, worth_finite, Option.map₂_some_some, compare_infinity]
      cases s <;> rfl
  | zero s =>
    cases v with
    | notANumber => rfl
    | infinity t =>
      rw [worth_zero, worth_infinity, Option.map₂_some_some, Std.OrientedOrd.eq_swap,
        compare_infinity]
      cases t <;> rfl
    | zero t =>
      rw [worth_zero, worth_zero, Option.map₂_some_some, compare_ofRat, compare_eq_iff_eq.2 rfl]
      rfl
    | finite t m e hm =>
      rw [worth_zero, worth_finite, Option.map₂_some_some, compare_ofRat, compare_zero_finite hm]
      cases t <;> rfl
  | finite s m e hm =>
    cases v with
    | notANumber => rfl
    | infinity t =>
      rw [worth_finite, worth_infinity, Option.map₂_some_some, Std.OrientedOrd.eq_swap,
        compare_infinity]
      cases s <;> cases t <;> rfl
    | zero t =>
      rw [worth_finite, worth_zero, Option.map₂_some_some, compare_ofRat,
        Std.OrientedOrd.eq_swap, compare_zero_finite hm]
      cases s <;> rfl
    | finite t m' e' hm' =>
      rw [compare_finite hm hm' (hu _ rfl) (hv _ rfl), worth_finite, worth_finite,
        Option.map₂_some_some, compare_ofRat]

end Unpacked

theorem lt_iff_compare (x y : Float) :
    x < y ↔ x.toModel.unpack.compare y.toModel.unpack = some .lt := by
  change Float.lt x y = true ↔ _
  simp only [Float.lt, decide_eq_true_eq]
  change (x.toModel.unpack.lt y.toModel.unpack) = true ↔ _
  rw [UnpackedFloat.lt, beq_iff_eq]

theorem beq_iff_compare (x y : Float) :
    (x == y) = true ↔ x.toModel.unpack.compare y.toModel.unpack = some .eq := by
  change (x.toModel.unpack.beq y.toModel.unpack) = true ↔ _
  rw [UnpackedFloat.beq, beq_iff_eq]

/-- What a float is worth. -/
def worth? (x : Float) : Option Worth := (decode x).worth?

theorem compare_toModel (x y : Float) : x.toModel.unpack.compare y.toModel.unpack =
    Option.map₂ compare (worth? x) (worth? y) := by
  rw [worth?, worth?, decode_eq_ofUnpacked, decode_eq_ofUnpacked]
  refine compare_unpacked (fun d hd => ?_) (fun d hd => ?_)
  · exact normal_of_decode ((decode_eq_ofUnpacked x).trans hd)
  · exact normal_of_decode ((decode_eq_ofUnpacked y).trans hd)

/-- Multiplying by a power of two decides between a whole number and a dyadic one among whole
numbers. -/
theorem Dyadic.compare_scaled (d : Dyadic) (n : ℤ) :
    (if d.exponent < 0 then compare (n * 2 ^ (-d.exponent).toNat) d.signed
      else compare n (d.signed * 2 ^ d.exponent.toNat)) = compare (n : ℚ) d.toRat := by
  rw [d.toRat_eq]
  split
  · rename_i hexponent
    have hscale : (0 : ℚ) < 2 ^ (-d.exponent).toNat := by positivity
    have hpower : (2 : ℚ) ^ d.exponent * 2 ^ (-d.exponent).toNat = 1 := by
      rw [← zpow_natCast, ← zpow_add₀ two_ne_zero, Int.toNat_of_nonneg (by omega), add_neg_cancel,
        zpow_zero]
    rw [← compare_map (strictMono_mul_right_of_pos hscale) (n : ℚ), mul_assoc, hpower, mul_one,
      ← compare_intCast]
    push_cast
    rfl
  · rename_i hexponent
    have hpower : (2 : ℚ) ^ d.exponent = 2 ^ d.exponent.toNat := by
      rw [← zpow_natCast, Int.toNat_of_nonneg (by omega)]
    rw [hpower, ← compare_intCast]
    push_cast
    rfl

/-- **Whole numbers and floats.** They are compared by what they are worth. -/
theorem compareInt_eq (n : ℤ) (x : Float) :
    compareInt n x = Option.map₂ compare (some (.ofRat n)) (worth? x) := by
  unfold compareInt worth?
  cases decode x with
  | nan => rfl
  | infinite negative =>
    cases negative
    · exact congrArg some (compare_lt_iff_lt.2 (WithBot.coe_lt_coe.2 (WithTop.coe_lt_top _))).symm
    · exact congrArg some (compare_gt_iff_gt.2 (WithBot.bot_lt_coe _)).symm
  | finite d =>
    simp only [Decoded.worth?, Option.map₂_some_some, compare_ofRat, Option.some.injEq]
    exact d.compare_scaled n

end Binary

open Binary in
/-- What a number is worth; a complex number is worth nothing. -/
def Number.worth? : Number → Option Worth
  | .int n => some (.ofRat n)
  | .float x => Binary.worth? x
  | .complex _ => none

theorem Number.compare_float (x y : Float) :
    Number.compare (.float x) (.float y) =
      Option.map₂ Ord.compare (Binary.worth? x) (Binary.worth? y) := by
  have hxy := Binary.compare_toModel x y
  have hyx := Binary.compare_toModel y x
  simp only [Number.compare, Binary.lt_iff_compare, Binary.beq_iff_compare, hxy, hyx]
  cases hx : Binary.worth? x with
  | none => simp
  | some a =>
    cases hy : Binary.worth? y with
    | none => simp
    | some b =>
      simp only [Option.map₂_some_some, Option.some.injEq]
      rcases lt_trichotomy a b with h | h | h
      · rw [compare_lt_iff_lt.2 h, if_pos rfl]
      · rw [compare_eq_iff_eq.2 h]
        rfl
      · rw [compare_gt_iff_gt.2 h, compare_lt_iff_lt.2 h]
        rfl

/-- **Numbers are ordered by what they are worth**, whatever their types. -/
theorem Number.compare_eq (n m : Number) :
    n.compare m = Option.map₂ Ord.compare n.worth? m.worth? := by
  cases n with
  | int a =>
    cases m with
    | int b =>
      simp only [Number.compare, worth?, Option.map₂_some_some, Binary.compare_ofRat]
      exact congrArg some (Binary.compare_intCast a b).symm
    | float y => exact Binary.compareInt_eq a y
    | complex w => rfl
  | float x =>
    cases m with
    | int b =>
      simp only [Number.compare, Binary.compareInt_eq, worth?]
      cases Binary.worth? x with
      | none => rfl
      | some a => exact congrArg some Std.OrientedOrd.eq_swap.symm
    | float y => exact compare_float x y
    | complex w => cases hx : Binary.worth? x <;> simp [Number.compare, worth?]
  | complex z => cases m <;> rfl

/-! ### The float nearest to a whole number -/

namespace Binary

/-- Bits that stand for a number are kept. -/
theorem toBits_ofBits {b : UInt64} (h : b.toNat / 2 ^ 52 % 2 ^ 11 ≠ 2047) :
    (Float.ofBits b).toBits = b := by
  have hexponent : @unpackExponent .binary64 b.toBitVec ≠ -1#11 := fun hall =>
    h ((toNat_unpackExponent b.toBitVec).symm.trans (congrArg BitVec.toNat hall))
  have hpack := @Float.Model.UnpackedFloat.pack_unpack .binary64 b.toBitVec (by decide)
  apply UInt64.toBitVec_inj.1
  refine hpack.trans (if_neg ?_)
  rw [Float.Model.UnpackedFloat.isNaNBits, decide_eq_true_eq]
  exact fun hnan => hexponent hnan.1

/-- What the bits of a float stand for, if all its mantissa bits are used. -/
theorem decode_ofBits {b : UInt64} {negative : Bool} {field fraction : ℕ}
    (hb : b.toNat = (if negative then 2 ^ 63 else 0) + field * 2 ^ 52 + fraction)
    (hfield : 0 < field) (hfield' : field < 2047) (hfraction : fraction < 2 ^ 52) :
    decode (Float.ofBits b) = .finite ⟨negative, 2 ^ 52 + fraction, field - 1075⟩ := by
  have hexponent : b.toNat / 2 ^ 52 % 2 ^ 11 = field := by
    cases negative <;> simp only [Bool.false_eq_true, if_true, if_false] at hb <;> omega
  have hmantissa : b.toNat % 2 ^ 52 = fraction := by
    cases negative <;> simp only [Bool.false_eq_true, if_true, if_false] at hb <;> omega
  have hsign : decide (b.toNat ≥ 2 ^ 63) = negative := by
    cases negative <;>
      simp only [Bool.false_eq_true, if_true, if_false, decide_eq_true_eq,
        decide_eq_false_iff_not] at hb ⊢ <;>
      omega
  simp only [decode, Nat.pow_eq]
  rw [toBits_ofBits (by omega), hexponent, hmantissa, hsign, if_neg (by omega), if_neg (by omega)]

/-- A full mantissa is read as it was written. -/
theorem decode_encode {negative : Bool} {m : ℕ} {q : ℤ} {x : Float} (hm : 2 ^ 52 ≤ m)
    (hm' : m < 2 ^ 53) (hq : leastExponent ≤ q) (h : encode negative m q = some x) :
    decode x = .finite ⟨negative, m, q⟩ := by
  simp only [encode, Nat.pow_eq, if_neg hm.not_gt] at h
  split at h
  · cases h
  rename_i hgreat
  obtain rfl := Option.some.inj h
  simp only [leastExponent, greatestExponent] at hq hgreat
  have hbits : (UInt64.ofNat ((if negative then 2 ^ 63 else 0) + (q + 1075).toNat * 2 ^ 52 +
      (m - 2 ^ 52))).toNat =
        (if negative then 2 ^ 63 else 0) + (q + 1075).toNat * 2 ^ 52 + (m - 2 ^ 52) := by
    have hlt : (if negative then 2 ^ 63 else 0) + (q + 1075).toNat * 2 ^ 52 + (m - 2 ^ 52) <
        2 ^ 64 := by
      cases negative <;> simp only [Bool.false_eq_true, if_true, if_false] <;> omega
    rw [UInt64.toNat_ofNat', Nat.mod_eq_of_lt hlt]
  have hm : 2 ^ 52 + (m - 2 ^ 52) = m := by omega
  have hq : ((q + 1075).toNat : ℤ) - 1075 = q := by omega
  rw [decode_ofBits hbits (by omega) (by omega) (by omega), hm, hq]

/-- The quotient is rounded down or up. -/
theorem div_le_divToEven (num den : ℕ) :
    num / den ≤ divToEven num den ∧ divToEven num den ≤ num / den + 1 := by
  simp only [divToEven]
  split
  · omega
  · split <;> omega

/-- A whole number, scaled so that its quotient has 53 bits. -/
def scaled (num : ℕ) (q : ℤ) : ℕ × ℕ :=
  if q < 0 then (num * 2 ^ (-q).toNat, 1) else (num, 1 * 2 ^ q.toNat)

theorem scaled_log2 {num : ℕ} (hnum : num ≠ 0) :
    2 ^ 52 ≤ (scaled num (num.log2 - 52)).1 / (scaled num (num.log2 - 52)).2 ∧
      (scaled num (num.log2 - 52)).1 / (scaled num (num.log2 - 52)).2 < 2 ^ 53 := by
  have hlow : 2 ^ num.log2 ≤ num := Nat.log2_self_le hnum
  have hhigh : num < 2 ^ (num.log2 + 1) := Nat.lt_log2_self
  unfold scaled
  split
  · rename_i hq
    have hexponent : (-((num.log2 : ℤ) - 52)).toNat = 52 - num.log2 := by omega
    have h52 : 2 ^ num.log2 * 2 ^ (52 - num.log2) = 2 ^ 52 := by
      rw [← pow_add]
      congr 1
      omega
    have h53 : 2 ^ (num.log2 + 1) * 2 ^ (52 - num.log2) = 2 ^ 53 := by
      rw [← pow_add]
      congr 1
      omega
    simp only [hexponent, Nat.div_one]
    rw [← h52, ← h53]
    exact ⟨Nat.mul_le_mul_right _ hlow, Nat.mul_lt_mul_of_pos_right hhigh (by positivity)⟩
  · rename_i hq
    have hexponent : ((num.log2 : ℤ) - 52).toNat = num.log2 - 52 := by omega
    have h52 : 2 ^ 52 * 2 ^ (num.log2 - 52) = 2 ^ num.log2 := by
      rw [← pow_add]
      congr 1
      omega
    have h53 : 2 ^ 53 * 2 ^ (num.log2 - 52) = 2 ^ (num.log2 + 1) := by
      rw [← pow_add]
      congr 1
      omega
    simp only [hexponent, one_mul]
    rw [Nat.le_div_iff_mul_le (by positivity), Nat.div_lt_iff_lt_mul (by positivity), h52, h53]
    exact ⟨hlow, hhigh⟩

/-- A whole number that is scaled to the exponent `q` and rounded. -/
def roundedAt (negative : Bool) (num : ℕ) (q : ℤ) : Option Float :=
  if divToEven (scaled num q).1 (scaled num q).2 = 2 ^ 53 then encode negative (2 ^ 52) (q + 1)
  else encode negative (divToEven (scaled num q).1 (scaled num q).2) q

theorem ofRatio_one_eq (negative : Bool) {num : ℕ} (hnum : num ≠ 0) :
    ofRatio negative num 1 = roundedAt negative num (num.log2 - 52) := by
  have hunfold : ofRatio negative num 1 = roundedAt negative num
      (max (if (scaled num ((num.log2 : ℤ) - 0 - 52)).1 / (scaled num ((num.log2 : ℤ) - 0 - 52)).2 <
          2 ^ 52 then (num.log2 : ℤ) - 0 - 52 - 1 else (num.log2 : ℤ) - 0 - 52) leastExponent) := by
    rw [ofRatio, if_neg hnum]
    rfl
  rw [hunfold, Int.sub_zero, if_neg (scaled_log2 hnum).1.not_gt,
    max_eq_left (by rw [leastExponent]; omega)]

/-- The float nearest to a whole number other than zero has a full mantissa and is whole. -/
theorem decode_ofRatio_one {negative : Bool} {num : ℕ} (hnum : num ≠ 0) {x : Float}
    (h : ofRatio negative num 1 = some x) :
    ∃ m q, 2 ^ 52 ≤ m ∧ -52 ≤ q ∧ decode x = .finite ⟨negative, m, q⟩ := by
  obtain ⟨hlow, hhigh⟩ := scaled_log2 hnum
  have hround := div_le_divToEven (scaled num (num.log2 - 52)).1 (scaled num (num.log2 - 52)).2
  rw [ofRatio_one_eq negative hnum, roundedAt] at h
  split at h
  · exact ⟨2 ^ 52, num.log2 - 52 + 1, le_rfl, by omega,
      decode_encode le_rfl (by norm_num) (by rw [leastExponent]; omega) h⟩
  · exact ⟨_, num.log2 - 52, hlow.trans hround.1, by omega,
      decode_encode (hlow.trans hround.1) (by omega) (by rw [leastExponent]; omega) h⟩

theorem one_le_magnitude {m : ℕ} {e : ℤ} (hm : 2 ^ 52 ≤ m) (he : -52 ≤ e) :
    (1 : ℚ) ≤ m * 2 ^ e := by
  have hm : (2 : ℚ) ^ 52 ≤ m := by exact_mod_cast hm
  have he : (2 : ℚ) ^ (-52 : ℤ) ≤ 2 ^ e := zpow_le_zpow_right₀ one_le_two he
  calc (1 : ℚ) = 2 ^ 52 * 2 ^ (-52 : ℤ) := by norm_num
    _ ≤ m * 2 ^ e := mul_le_mul hm he (by positivity) (by positivity)

theorem worth_zero_float : worth? 0.0 = some (.ofRat 0) := by
  have hdecode : decode 0.0 = .finite ⟨false, 0, -1074⟩ := by decide +kernel
  rw [worth?, hdecode]
  simp [Decoded.worth?, Dyadic.toRat, Dyadic.magnitude]

theorem worth_one_float : worth? 1.0 = some (.ofRat 1) := by
  have hdecode : decode 1.0 = .finite ⟨false, 2 ^ 52, -52⟩ := by decide +kernel
  rw [worth?, hdecode]
  norm_num [Decoded.worth?, Dyadic.toRat, Dyadic.magnitude]

/-- **The float nearest to a whole number** is on the same side of zero and of one. -/
theorem worth_of_ofInt {n : ℤ} {x : Float} (h : ofInt n = some x) :
    ∃ q, worth? x = some (.ofRat q) ∧ (0 ≤ q ↔ 0 ≤ n) ∧ (q < 1 ↔ n < 1) := by
  rcases lt_trichotomy n 0 with hneg | rfl | hpos
  · obtain ⟨m, e, hm, he, hx⟩ := decode_ofRatio_one (by omega) h
    have hone := one_le_magnitude hm he
    refine ⟨-(m * 2 ^ e), ?_, ?_, ?_⟩
    · rw [worth?, hx]
      simp only [Decoded.worth?, Dyadic.toRat, Dyadic.magnitude, hneg, decide_true, if_true]
    · exact iff_of_false (by linarith) (by omega)
    · exact iff_of_true (by linarith) (by omega)
  · have hzero : x = 0.0 := by
      have : ofInt 0 = some 0.0 := by decide +kernel
      exact Option.some.inj (h.symm.trans this)
    rw [hzero, worth_zero_float]
    exact ⟨0, rfl, by simp, by simp⟩
  · obtain ⟨m, e, hm, he, hx⟩ := decode_ofRatio_one (by omega) h
    have hone := one_le_magnitude hm he
    refine ⟨m * 2 ^ e, ?_, ?_, ?_⟩
    · rw [worth?, hx]
      simp only [Decoded.worth?, Dyadic.toRat, Dyadic.magnitude, hpos.not_gt, decide_false,
        Bool.false_eq_true, if_false]
    · exact iff_of_true (by linarith) (by omega)
    · exact iff_of_false (by linarith) (by omega)

end Binary

end Laminar
