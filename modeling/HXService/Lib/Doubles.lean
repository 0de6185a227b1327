import Mathlib.Tactic

/-! Doubles by their bits: what a difference keeps of the sign of the number
that is taken away from zero. -/

namespace Doubles
open Float.Model UnpackedFloat

abbrev Bits := BitVec 64

def sign (b : Bits) : BitVec 1 := @unpackSign Format.binary64 b
def exponent (b : Bits) : BitVec 11 := @unpackExponent Format.binary64 b
def mantissa (b : Bits) : BitVec 52 := @unpackMantissa Format.binary64 b

/-- Neither zero or subnormal nor infinite or a `NaN`. -/
def Normal (b : Bits) : Prop := exponent b ≠ 0#11 ∧ exponent b ≠ -1#11

theorem sign_eq (b : Bits) : sign b = b.extractLsb' 63 1 := rfl

theorem exponent_eq (b : Bits) : exponent b = b.extractLsb' 52 11 := rfl

theorem mantissa_eq (b : Bits) : mantissa b = b.extractLsb' 0 52 := rfl

theorem toNat_sign (b : Bits) : (sign b).toNat = b.toNat / 2 ^ 63 := by
  have hlt := b.isLt
  simp [sign_eq, Nat.shiftRight_eq_div_pow]
  omega

theorem toNat_exponent (b : Bits) : (exponent b).toNat = b.toNat / 2 ^ 52 % 2 ^ 11 := by
  simp [exponent_eq, Nat.shiftRight_eq_div_pow]

theorem toBitVec_ofBitVec (s : BitVec 1) : (Sign.ofBitVec s).toBitVec = s := by
  revert s
  decide

theorem sign_packComponents (s : Sign) (e : BitVec 11) (m : BitVec 52) :
    sign (packComponents Format.binary64 s e m) = s.toBitVec := by
  rw [sign_eq, packComponents]
  ext i hi
  grind

theorem packComponents_fields (b : Bits) :
    packComponents Format.binary64 (Sign.ofBitVec (sign b)) (exponent b) (mantissa b) = b := by
  rw [packComponents, toBitVec_ofBitVec, sign_eq, exponent_eq, mantissa_eq]
  ext i hi
  grind

theorem toNat_one_append (m : BitVec 52) : (1#1 ++ m).toNat = 2 ^ 52 + m.toNat := by
  rw [BitVec.toNat_append, ← Nat.shiftLeft_add_eq_or_of_lt m.isLt]
  rfl

theorem one_append_pos (m : BitVec 52) : 0 < (1#1 ++ m).toNat := by
  rw [toNat_one_append]
  omega

theorem sign_pack (s : Sign) (m : Nat) (e : Int) (h : 0 < m) :
    sign (UnpackedFloat.pack Format.binary64 (.finite s m e h)) = s.toBitVec := by
  unfold UnpackedFloat.pack
  dsimp only
  split_ifs
  · apply sign_packComponents
  · apply sign_packComponents
  · apply sign_packComponents

section Normal
variable {b : Bits}

theorem unpack_normal (h : Normal b) :
    UnpackedFloat.unpack Format.binary64 b = .finite (Sign.ofBitVec (sign b)) (1#1 ++ mantissa b).toNat
      ((exponent b).toNat - 1075) (one_append_pos _) := by
  unfold UnpackedFloat.unpack
  dsimp only
  change (if exponent b = -1#11 then _ else if exponent b = 0#11 then _ else _) = _
  rw [if_neg h.2, if_neg h.1]
  rfl

theorem pack_unpack (h : Normal b) :
    UnpackedFloat.pack Format.binary64 (UnpackedFloat.unpack Format.binary64 b) = b := by
  have hlt := (mantissa b).isLt
  have hexp := (exponent b).isLt
  have hbias : (((exponent b).toNat - 1075 : Int) + Format.binary64.exponentBias + (52 : Nat)).toNat =
      (exponent b).toNat := by
    have hvalue : Format.binary64.exponentBias = 1023 := rfl
    omega
  have hones : (exponent b).toNat ≠ 2047 := by
    intro hones
    exact h.2 (BitVec.eq_of_toNat_eq (by simpa using hones))
  have hlog : (2 ^ 52 + (mantissa b).toNat).log2 = 52 := by
    rw [Nat.log2_eq_iff (by omega)]
    omega
  have hmantissa : BitVec.ofNat 52 (2 ^ 52 + (mantissa b).toNat) = mantissa b := by
    apply BitVec.eq_of_toNat_eq
    rw [BitVec.toNat_ofNat]
    omega
  rw [unpack_normal h]
  unfold UnpackedFloat.pack
  simp only [toNat_one_append, hbias, hlog]
  rw [if_neg, if_pos]
  · rw [hmantissa, BitVec.ofNat_toNat, BitVec.setWidth_eq, packComponents_fields]
  · rfl
  · show ¬2 ^ 11 ≤ (exponent b).toNat + 1
    omega

end Normal

theorem sign_zero_sub {b : UInt64} (h : Normal b.toBitVec) :
    sign (Float.ofBits 0 - Float.ofBits b).toBits.toBitVec = ~~~sign b.toBitVec := by
  have hzero : (Float.Model.ofBits 0).unpack = .zero .positive := rfl
  have hb : (Float.Model.ofBits b).unpack = UnpackedFloat.unpack Format.binary64 b.toBitVec := by
    show UnpackedFloat.unpack Format.binary64
      (UnpackedFloat.pack Format.binary64 (UnpackedFloat.unpack Format.binary64 b.toBitVec)) = _
    rw [pack_unpack h]
  show sign (UnpackedFloat.pack Format.binary64
    (UnpackedFloat.sub Format.binary64 (Float.Model.ofBits 0).unpack (Float.Model.ofBits b).unpack)) = _
  rw [hzero, hb, unpack_normal h]
  unfold UnpackedFloat.sub
  rw [sign_pack]
  generalize sign b.toBitVec = s
  revert s
  decide

theorem normal_of_exponent {b : Bits} (h : 0 < b.toNat / 2 ^ 52 % 2 ^ 11)
    (h' : b.toNat / 2 ^ 52 % 2 ^ 11 < 2 ^ 11 - 1) : Normal b := by
  refine ⟨?_, ?_⟩
  · intro hzero
    have hexp := congrArg BitVec.toNat hzero
    simp [toNat_exponent] at hexp
    omega
  · intro hones
    have hexp := congrArg BitVec.toNat hones
    simp [toNat_exponent] at hexp
    omega

theorem zero_sub_ne {b c : UInt64} (hb : Normal b.toBitVec) (hc : Normal c.toBitVec)
    (h : sign b.toBitVec ≠ sign c.toBitVec) :
    (Float.ofBits 0 - Float.ofBits b).toBits ≠ (Float.ofBits 0 - Float.ofBits c).toBits := by
  intro heq
  have hsign := congrArg (fun x : UInt64 => ~~~sign x.toBitVec) heq
  rw [sign_zero_sub hb, sign_zero_sub hc, BitVec.not_not, BitVec.not_not] at hsign
  exact h hsign

end Doubles
