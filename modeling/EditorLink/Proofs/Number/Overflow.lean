import EditorLink.Number.Binary
import Mathlib.Order.Compare
import Mathlib.Tactic.Positivity
import Mathlib.Tactic.Ring
/-!
# Whole numbers without a double

A whole number is rounded to the nearest double. A number with at most 53 bits is exact; a
longer one keeps its first 53 bits and is rounded by those that follow. Only a number whose
rounding would need 1025 bits becomes infinite.
-/
namespace EditorLink.Number
open Float.Model Float.Model.UnpackedFloat

/-! ## Infinite doubles -/

theorem isInfinite_neg (x : Double) : (-x).isInfinite = x.isInfinite := by
  have hbits : (x.bits + Double.signBit) % Double.signBit = x.bits % Double.signBit := by
    apply UInt64.toNat_inj.mp
    have hsign : Double.signBit.toNat = 2 ^ 63 := rfl
    rw [UInt64.toNat_mod, UInt64.toNat_mod, UInt64.toNat_add, hsign]
    omega
  show ((x.bits + Double.signBit) % Double.signBit == _) = (x.bits % Double.signBit == _)
  rw [hbits]

/-- The exponent of an infinite double has all its bits set. -/
theorem unpackExponent_of_isInfinite {bits : BitVec 64}
    (h : (Double.mk (UInt64.ofBitVec bits)).isInfinite) :
    @unpackExponent Format.binary64 bits = -1#11 := by
  have hmod : bits.toNat % 2 ^ 63 = 2047 * 2 ^ 52 := by
    have hbits := congrArg UInt64.toNat (beq_iff_eq.mp h)
    rw [Double.magnitude, UInt64.toNat_mod] at hbits
    exact hbits
  apply BitVec.eq_of_toNat_eq
  simp only [unpackExponent, BitVec.toNat_cast, BitVec.extractLsb_toNat, Nat.shiftRight_eq_div_pow]
  show bits.toNat / 2 ^ 52 % 2 ^ 11 = 2047
  omega

theorem pack_finite (sign : Sign) (m : Nat) (e : Int) (hm : 0 < m) :
    UnpackedFloat.pack Format.binary64 (.finite sign m e hm) =
      if 972 ≤ e then packedInfinity Format.binary64 sign
      else if m.log2 + 1 = 53 then
        packComponents Format.binary64 sign (.ofNat 11 (e + 1075).toNat) (.ofNat 52 m)
      else packComponents Format.binary64 sign 0#11 (.ofNat 52 m) := by
  have hbias : (e + 1023 + 52).toNat = (e + 1075).toNat := by omega
  show (if 2048 ≤ (e + 1023 + 52).toNat + 1 then packedInfinity Format.binary64 sign
    else if m.log2 + 1 = 53 then
      packComponents Format.binary64 sign (.ofNat 11 (e + 1023 + 52).toNat) (.ofNat 52 m)
    else packComponents Format.binary64 sign 0#11 (.ofNat 52 m)) = _
  rw [hbias]
  refine if_congr ?_ rfl rfl
  omega

/-- The double that is packed from its parts. -/
def packed (f : UnpackedFloat) : Double := ⟨.ofBitVec (UnpackedFloat.pack Format.binary64 f)⟩

theorem isInfinite_packed_finite {sign : Sign} {m : Nat} {e : Int} (hm : 0 < m) :
    (packed (.finite sign m e hm)).isInfinite ↔ 972 ≤ e := by
  rw [packed, pack_finite]
  by_cases he : 972 ≤ e
  · simp only [he, if_true, iff_true]
    cases sign <;> rfl
  · simp only [he, if_false, iff_false]
    intro h
    have hones := unpackExponent_of_isInfinite h
    split at hones
    · rw [unpackExponent_packComponents] at hones
      have hnat := congrArg BitVec.toNat hones
      rw [BitVec.toNat_ofNat] at hnat
      have hsmall : (e + 1075).toNat % 2 ^ 11 = 2047 := hnat
      omega
    · rw [unpackExponent_packComponents] at hones
      exact absurd hones (by decide)

theorem isInfinite_packed_zero (sign : Sign) : (packed (.zero sign)).isInfinite = false := by
  cases sign <;> rfl

/-! ## Dropping bits -/

theorem mantissa_shiftRight (em : ExtendedMantissa) (k : Nat) :
    (em >>> k).mantissa = em.mantissa / 2 ^ k := by
  induction k with
  | zero => simp [HShiftRight.hShiftRight, Nat.repeat]
  | succ k ih =>
    show (em >>> k).mantissa / 2 = _
    rw [ih, Nat.div_div_eq_div_mul, pow_succ]

theorem roundBit_shiftRight (em : ExtendedMantissa) (k : Nat) :
    (em >>> (k + 1)).roundBit = (em.mantissa / 2 ^ k % 2 != 0) := by
  rw [← mantissa_shiftRight]
  rfl

theorem roundedMantissa_le (em : ExtendedMantissa) :
    em.mantissa ≤ em.roundedMantissa ∧ em.roundedMantissa ≤ em.mantissa + 1 := by
  obtain ⟨m, half, more⟩ := em
  cases half <;> cases more <;>
    simp only [ExtendedMantissa.roundedMantissa, ExtendedMantissa.accuracy,
      Accuracy.roundToNearestEven] <;> omega

/-- An odd mantissa is rounded up exactly where the next bit is set: a half goes to the even one. -/
theorem roundedMantissa_of_odd {em : ExtendedMantissa} (h : em.mantissa % 2 = 1) :
    em.roundedMantissa = em.mantissa + em.roundBit.toNat := by
  obtain ⟨m, half, more⟩ := em
  cases half <;> cases more <;>
    simp_all [ExtendedMantissa.roundedMantissa, ExtendedMantissa.accuracy,
      Accuracy.roundToNearestEven]

/-! ## Rounding -/

/-- How many bits of a mantissa are dropped so that it fits. -/
def excess (m : Nat) (e : Int) : Nat := (max (m.log2 + e - 52) (-1074) - e).toNat

/-- A mantissa without the bits that are dropped, rounded. -/
def fitted (m : Nat) (e : Int) : Nat :=
  (ExtendedMantissa.mk m false false >>> excess m e).roundedMantissa

theorem shiftToTargetExponent_eq (m : Nat) (e : Int) :
    shiftToTargetExponent Format.binary64 m e .exact =
      (ExtendedMantissa.mk m false false >>> excess m e, e + excess m e) := by
  have htarget : Format.binary64.targetExponent (totalExponent m e) =
      max (m.log2 + e - 52) (-1074) := by
    show max ((m.log2 : Int) + 1 + e - 53) (-1074) = _
    omega
  rw [shiftToTargetExponent, htarget]
  rfl

/-- A mantissa is rounded to the bits that fit, and once more if that makes it too long. -/
theorem roundWithAccuracy_eq (sign : Sign) (m : Nat) (e : Int) :
    roundWithAccuracy Format.binary64 sign m e .exact =
      if h : fitted m e / 2 ^ excess (fitted m e) (e + excess m e) = 0 then .zero sign
      else .finite sign (fitted m e / 2 ^ excess (fitted m e) (e + excess m e))
        (e + excess m e + excess (fitted m e) (e + excess m e)) (Nat.pos_of_ne_zero h) := by
  rw [roundWithAccuracy, shiftToTargetExponent_eq]
  dsimp only
  rw [← fitted, shiftToTargetExponent_eq]
  dsimp only
  rw [mantissa_shiftRight]

theorem div_excess_lt (m : Nat) (e : Int) : m / 2 ^ excess m e < 2 ^ 53 := by
  have hlog : m.log2 + 1 ≤ 53 + excess m e := by
    unfold excess
    omega
  rw [Nat.div_lt_iff_lt_mul (Nat.two_pow_pos _), ← pow_add]
  exact Nat.lt_log2_self.trans_le (Nat.pow_le_pow_right (by decide) hlog)

theorem fitted_le (m : Nat) (e : Int) : fitted m e ≤ 2 ^ 53 := by
  have hround := (roundedMantissa_le (ExtendedMantissa.mk m false false >>> excess m e)).2
  rw [mantissa_shiftRight] at hround
  exact hround.trans (div_excess_lt m e)

theorem log2_fitted_le (m : Nat) (e : Int) : (fitted m e).log2 ≤ 53 := by
  by_cases hzero : fitted m e = 0
  · simp [hzero]
  · have hlt : fitted m e < 2 ^ 54 := (fitted_le m e).trans_lt (by decide)
    have hlog := (Nat.log2_lt hzero).mpr hlt
    omega

/-! ## Short numbers

A number with at most 53 bits is read exactly and then multiplied by one, so its exponent
stays small. -/

/-- Whether parts are those of a number, with a bound on its exponent. -/
def IsWithin (bound : Int) : UnpackedFloat → Prop
  | .zero _ => True
  | .finite _ _ e _ => e ≤ bound
  | _ => False

/-- Whether parts have at most 53 bits. -/
def IsShort : UnpackedFloat → Prop
  | .finite _ m _ _ => m < 2 ^ 53
  | _ => True

theorem isWithin_round {m : Nat} {e bound : Int} (he : e ≤ bound) (hm : m.log2 + e ≤ bound + 52)
    (hbound : 0 ≤ bound) (sign : Sign) :
    IsWithin (bound + 1) (roundWithAccuracy Format.binary64 sign m e .exact) := by
  rw [roundWithAccuracy_eq]
  by_cases hzero : fitted m e / 2 ^ excess (fitted m e) (e + excess m e) = 0
  · rw [dif_pos hzero]
    trivial
  · have hlog := log2_fitted_le m e
    rw [dif_neg hzero]
    show e + excess m e + excess (fitted m e) (e + excess m e) ≤ bound + 1
    generalize fitted m e = r at hlog
    unfold excess
    omega

theorem isInfinite_of_isWithin {f : UnpackedFloat} {bound : Int} (h : IsWithin bound f)
    (hbound : bound < 972) : (packed f).isInfinite = false := by
  cases f with
  | infinity | notANumber => exact h.elim
  | zero sign => exact isInfinite_packed_zero sign
  | finite sign m e hm =>
    rw [← Bool.not_eq_true, isInfinite_packed_finite]
    exact fun he => absurd (he.trans h) (by omega)

theorem isWithin_unpack {bits : BitVec 64} {bound : Int} (hlow : 0 ≤ bound)
    (hexponent : (@unpackExponent Format.binary64 bits).toNat ≤ bound + 1075)
    (hne : @unpackExponent Format.binary64 bits ≠ -1#11) :
    IsWithin bound (UnpackedFloat.unpack Format.binary64 bits) := by
  delta UnpackedFloat.unpack
  dsimp only
  rw [if_neg hne]
  by_cases hsubnormal : @unpackExponent Format.binary64 bits = 0#11
  · have hleast : (@unpackExponent Format.binary64 bits).toNat = 0 :=
      congrArg BitVec.toNat hsubnormal
    rw [if_pos hsubnormal]
    by_cases hzero : @unpackMantissa Format.binary64 bits = 0#52
    · rw [dif_pos hzero]
      trivial
    · rw [dif_neg hzero]
      show ((@unpackExponent Format.binary64 bits).toNat : Int) - (1023 + 52) + 1 ≤ bound
      omega
  · rw [if_neg hsubnormal]
    show ((@unpackExponent Format.binary64 bits).toNat : Int) - (1023 + 52) ≤ bound
    omega

/-- What is packed and taken apart again keeps its bound. -/
theorem isWithin_unpack_pack {f : UnpackedFloat} {bound : Int} (h : IsWithin bound f)
    (hlow : 0 ≤ bound) (hbound : bound < 972) :
    IsWithin bound (UnpackedFloat.unpack Format.binary64
      (UnpackedFloat.pack Format.binary64 f)) := by
  cases f with
  | infinity | notANumber => exact h.elim
  | zero sign => cases sign <;> trivial
  | finite sign m e hm =>
    have he : e ≤ bound := h
    have hfield : (e + 1075).toNat % 2 ^ 11 ≤ bound + 1075 ∧
        (e + 1075).toNat % 2 ^ 11 < 2047 := by
      omega
    rw [pack_finite, if_neg (by omega)]
    split
    · refine isWithin_unpack hlow ?_ ?_ <;> rw [unpackExponent_packComponents]
      · rw [BitVec.toNat_ofNat]
        exact hfield.1
      · intro hones
        have hnat := congrArg BitVec.toNat hones
        rw [BitVec.toNat_ofNat] at hnat
        have hlarge : (e + 1075).toNat % 2 ^ 11 = 2047 := hnat
        omega
    · refine isWithin_unpack hlow ?_ ?_ <;> rw [unpackExponent_packComponents]
      · rw [BitVec.toNat_zero]
        omega
      · decide

/-- What is read from 64 bits has at most 53 bits. -/
theorem isShort_unpack (bits : BitVec 64) :
    IsShort (UnpackedFloat.unpack Format.binary64 bits) := by
  delta UnpackedFloat.unpack
  refine iteInduction (fun _ => ?_) fun _ => iteInduction (fun _ => ?_) fun _ => ?_
  · exact iteInduction (fun _ => trivial) fun _ => trivial
  · by_cases hzero : @unpackMantissa Format.binary64 bits = 0#52
    · rw [dif_pos hzero]
      trivial
    · rw [dif_neg hzero]
      exact (BitVec.isLt _).trans (by decide)
  · exact BitVec.isLt _

theorem log2_mul_two_pow {n : Nat} (hn : n ≠ 0) (k : Nat) : (n * 2 ^ k).log2 = n.log2 + k := by
  rw [Nat.log2_eq_iff (by positivity)]
  refine ⟨?_, ?_⟩
  · rw [pow_add]
    exact Nat.mul_le_mul_right _ (Nat.log2_self_le hn)
  · rw [show n.log2 + k + 1 = n.log2 + 1 + k by omega, pow_add _ (n.log2 + 1)]
    exact Nat.mul_lt_mul_of_pos_right Nat.lt_log2_self (by positivity)

/-- Multiplying by one rounds what is exact already. -/
theorem isWithin_mul_one {f : UnpackedFloat} {bound : Int} (h : IsWithin bound f)
    (hshort : IsShort f) (hlow : 0 ≤ bound) :
    IsWithin (bound + 1)
      (UnpackedFloat.mul Format.binary64 f (.finite .positive (2 ^ 52) (-52) (by decide))) := by
  cases f with
  | infinity | notANumber => exact h.elim
  | zero sign => trivial
  | finite sign m e hm =>
    have he : e ≤ bound := h
    have hlog : m.log2 < 53 := (Nat.log2_lt hm.ne').mpr hshort
    refine isWithin_round (by omega) ?_ hlow _
    rw [log2_mul_two_pow hm.ne']
    omega

theorem isWithin_ofNat {n : Nat} (hn : n < 2 ^ 53) :
    IsWithin 1 (UnpackedFloat.ofNat Format.binary64 n) := by
  by_cases hzero : n = 0
  · subst hzero
    trivial
  · have hlog : n.log2 < 53 := (Nat.log2_lt hzero).mpr hn
    have hpos : compare (n : Int) 0 = .gt := by
      rw [compare_gt_iff_gt]
      omega
    have htarget : Format.binary64.targetExponent (totalExponent n 0) = n.log2 - 52 := by
      show max ((n.log2 : Int) + 1 + 0 - 53) (-1074) = _
      omega
    rw [UnpackedFloat.ofNat, UnpackedFloat.ofInt, UnpackedFloat.normalize, hpos]
    simp only [Int.toNat_natCast]
    rw [UnpackedFloat.round, htarget]
    simp only [decreaseExponent, Nat.shiftLeft_eq]
    show IsWithin (0 + 1) _
    refine isWithin_round (by omega) ?_ (by decide) _
    rw [log2_mul_two_pow hzero]
    omega

/-- The double one. -/
def one : Float := .ofBits 0x3FF0000000000000

theorem unpack_one : UnpackedFloat.unpack Format.binary64 one.toBits.toBitVec =
    .finite .positive (2 ^ 52) (-52) (by decide) := by
  rw [show one.toBits = 0x3FF0000000000000 by decide]
  rfl

/-- A whole number with at most 53 bits has a double. -/
theorem isInfinite_of_lt {n : Nat} (hn : n < 2 ^ 53) :
    (Double.ofFloat (Float.ofScientific n false 0)).isInfinite = false := by
  have hshort : Float.ofScientific n false 0 = n.toUInt64.toFloat * one := by
    rw [Float.ofScientific, dif_pos ⟨hn, by decide⟩]
    rfl
  have hmul : Double.ofFloat (n.toUInt64.toFloat * one) =
      packed (UnpackedFloat.mul Format.binary64
        (UnpackedFloat.unpack Format.binary64 (UnpackedFloat.pack Format.binary64
          (UnpackedFloat.ofNat Format.binary64 n.toUInt64.toNat)))
        (UnpackedFloat.unpack Format.binary64 one.toBits.toBitVec)) := rfl
  have hwidth : n.toUInt64.toNat = n := Nat.mod_eq_of_lt (hn.trans (by decide))
  rw [hshort, hmul, unpack_one, hwidth]
  have hread := isWithin_unpack_pack (isWithin_ofNat hn) (by decide) (by decide)
  have hproduct := isWithin_mul_one hread (isShort_unpack _) (by decide)
  exact isInfinite_of_isWithin hproduct (by decide)

/-! ## Long numbers -/

/-- A whole number with more than 53 bits is rounded to a mantissa that fits. -/
theorem ofScientific_of_le {n : Nat} (hn : 2 ^ 53 ≤ n) :
    Double.ofFloat (Float.ofScientific n false 0) =
      packed (roundWithAccuracy Format.binary64 .positive (n * 2 ^ 53) (-53) .exact) := by
  have hzero : n ≠ 0 := by
    rintro rfl
    exact absurd hn (by decide)
  have hlow : ¬0 < -(2 ^ Format.binary64.exponentBits + (n.log2 : Int)) := by
    have hbits : (2 : Int) ^ Format.binary64.exponentBits = 2048 := rfl
    omega
  have hparts : UnpackedFloat.ofScientific Format.binary64 n 0 =
      roundWithAccuracy Format.binary64 .positive (n * 2 ^ 53) (-53) .exact := by
    rw [UnpackedFloat.ofScientific, dif_neg hzero, if_neg (by decide), if_neg hlow,
      if_pos (by decide)]
    show roundWithAccuracy Format.binary64 .positive ((n <<< 53) * 1) (-53) .exact = _
    rw [mul_one, Nat.shiftLeft_eq]
  rw [Float.ofScientific, dif_neg fun h => absurd h.1 (by omega), ← hparts]
  rfl

/-- Rounding carries into a new bit exactly where the bits that fit and the next one are all set. -/
theorem carries_iff {m k : Nat} (hm : m / 2 ^ (k + 1) < 2 ^ 53) :
    (ExtendedMantissa.mk m false false >>> (k + 1)).roundedMantissa = 2 ^ 53 ↔
      (2 ^ 54 - 1) * 2 ^ k ≤ m := by
  have hhalf : m / 2 ^ (k + 1) = m / 2 ^ k / 2 := by
    rw [pow_succ, Nat.div_div_eq_div_mul]
  have hbit := roundBit_shiftRight (ExtendedMantissa.mk m false false) k
  have hkept := mantissa_shiftRight (ExtendedMantissa.mk m false false) (k + 1)
  have hround := roundedMantissa_le (ExtendedMantissa.mk m false false >>> (k + 1))
  rw [← Nat.le_div_iff_mul_le (Nat.two_pow_pos k)]
  simp only [hhalf] at hkept hm
  constructor
  · intro hcarry
    have hodd : (ExtendedMantissa.mk m false false >>> (k + 1)).mantissa % 2 = 1 := by omega
    have hup := roundedMantissa_of_odd hodd
    have hset : (ExtendedMantissa.mk m false false >>> (k + 1)).roundBit.toNat = 1 := by omega
    rw [Bool.toNat_eq_one, hbit, bne_iff_ne] at hset
    simp only at hset
    omega
  · intro hle
    have hodd : (ExtendedMantissa.mk m false false >>> (k + 1)).mantissa % 2 = 1 := by omega
    have hset : (ExtendedMantissa.mk m false false >>> (k + 1)).roundBit = true := by
      rw [hbit, bne_iff_ne]
      simp only
      omega
    rw [roundedMantissa_of_odd hodd, hset, hkept, Bool.toNat_true]
    omega

/-- A whole number with more than 53 bits has no double if it has more than 1024 bits,
or just 1024 of them and rounding carries into the next. -/
theorem isInfinite_of_le {n : Nat} (hn : 2 ^ 53 ≤ n) :
    (Double.ofFloat (Float.ofScientific n false 0)).isInfinite ↔
      1024 ≤ n.log2 ∨ n.log2 = 1023 ∧ fitted (n * 2 ^ 53) (-53) = 2 ^ 53 := by
  have hzero : n ≠ 0 := by
    rintro rfl
    exact absurd hn (by decide)
  have hlong : 53 ≤ n.log2 := (Nat.le_log2 hzero).mpr hn
  have hlog : (n * 2 ^ 53).log2 = n.log2 + 53 := log2_mul_two_pow hzero 53
  have hexcess : excess (n * 2 ^ 53) (-53) = n.log2 + 1 := by
    rw [excess, hlog]
    omega
  have hlow : 2 ^ 52 ≤ fitted (n * 2 ^ 53) (-53) := by
    have hround := (roundedMantissa_le
      (ExtendedMantissa.mk (n * 2 ^ 53) false false >>> (n.log2 + 1))).1
    rw [mantissa_shiftRight] at hround
    rw [fitted, hexcess]
    refine le_trans ?_ hround
    rw [Nat.le_div_iff_mul_le (Nat.two_pow_pos _)]
    calc 2 ^ 52 * 2 ^ (n.log2 + 1) = 2 ^ n.log2 * 2 ^ 53 := by ring
      _ ≤ n * 2 ^ 53 := Nat.mul_le_mul_right _ (Nat.log2_self_le hzero)
  have hhigh := fitted_le (n * 2 ^ 53) (-53)
  rw [ofScientific_of_le hn, roundWithAccuracy_eq, hexcess]
  generalize fitted (n * 2 ^ 53) (-53) = r at hlow hhigh ⊢
  have hagain : excess r (-53 + (n.log2 + 1 : Nat)) = r.log2 - 52 := by
    unfold excess
    omega
  have hpos : r / 2 ^ (r.log2 - 52) ≠ 0 := by
    have hr : 2 ^ (r.log2 - 52) ≤ r :=
      (Nat.pow_le_pow_right (by decide) (Nat.sub_le _ _)).trans (Nat.log2_self_le (by omega))
    exact (Nat.div_pos hr (Nat.two_pow_pos _)).ne'
  rw [hagain, dif_neg hpos, isInfinite_packed_finite]
  rcases hhigh.eq_or_lt with rfl | hfits
  · have hcarried : (2 ^ 53).log2 = 53 := Nat.log2_two_pow
    omega
  · have hkept : r.log2 = 52 := (Nat.log2_eq_iff (by omega)).mpr ⟨hlow, hfits⟩
    omega

/-- A number is rounded to at least `2 ^ (54 + k)` exactly if it comes within half a step of it. -/
theorem exceeds_iff {n : Nat} (hn : 2 ^ 53 ≤ n) (k : Nat) :
    54 + k ≤ n.log2 ∨ n.log2 = 53 + k ∧ fitted (n * 2 ^ 53) (-53) = 2 ^ 53 ↔
      (2 ^ 54 - 1) * 2 ^ k ≤ n := by
  have hzero : n ≠ 0 := by
    rintro rfl
    exact absurd hn (by decide)
  rcases lt_trichotomy n.log2 (53 + k) with hlow | hlog | hhigh
  · have hsmall := (Nat.log2_lt hzero).mp hlow
    rw [pow_add] at hsmall
    omega
  · have hexcess : excess (n * 2 ^ 53) (-53) = k + 53 + 1 := by
      rw [excess, log2_mul_two_pow hzero, hlog]
      omega
    have hfits := div_excess_lt (n * 2 ^ 53) (-53)
    rw [hexcess] at hfits
    rw [fitted, hexcess, carries_iff hfits, pow_add, ← mul_assoc,
      Nat.mul_le_mul_right_iff (by decide)]
    exact ⟨fun h => (h.resolve_left (by omega)).2, fun h => .inr ⟨hlog, h⟩⟩
  · have hlarge : 2 ^ (54 + k) ≤ n := (Nat.le_log2 hzero).mp (by omega)
    rw [pow_add] at hlarge
    omega

/-- Whether a whole number has no double: its magnitude is at least halfway between the greatest
double and the power of two behind it. -/
def IsTooLarge (n : Int) : Prop := 2 ^ 1024 - 2 ^ 970 ≤ n.natAbs

theorem isInfinite_ofInt_iff (n : Int) : (Number.ofInt n).isInfinite ↔ IsTooLarge n := by
  have hsign : (Number.ofInt n).isInfinite =
      (Double.ofFloat (Float.ofScientific n.natAbs false 0)).isInfinite := by
    rw [Number.ofInt]
    split
    · exact isInfinite_neg _
    · rfl
  have hhalfway : 2 ^ 1024 - 2 ^ 970 = (2 ^ 54 - 1) * 2 ^ 970 := by
    rw [Nat.sub_mul, one_mul, ← pow_add]
  rw [hsign, IsTooLarge, hhalfway]
  generalize n.natAbs = m
  rcases Nat.lt_or_ge m (2 ^ 53) with hshort | hlong
  · have hscaled (k : Nat) : m < (2 ^ 54 - 1) * 2 ^ k := by
      have hpos := Nat.two_pow_pos k
      omega
    rw [isInfinite_of_lt hshort]
    exact iff_of_false Bool.false_ne_true (not_le.mpr (hscaled 970))
  · exact (isInfinite_of_le hlong).trans (exceeds_iff hlong 970)

theorem isTooLarge_of_not_isWritable {n : Int} (h : isWritable n = false) : IsTooLarge n := by
  have hpow {j k : Nat} (hjk : j ≤ k) : 2 ^ j ≤ tenTo k :=
    (Nat.pow_le_pow_left (by decide) j).trans (Nat.pow_le_pow_right (by decide) hjk)
  have hlong : tenTo maxDigits ≤ n.natAbs := by
    rwa [isWritable, decide_eq_false_iff_not, not_lt] at h
  have hbits : 1024 ≤ maxDigits := by decide
  exact (Nat.sub_le _ _).trans ((hpow hbits).trans hlong)

end EditorLink.Number
