import LanguageClient.Proofs.Decimal.Range

namespace LanguageClient.Binary64

open Float.Model Float.Model.UnpackedFloat
open Json.Numeral (scaled)

variable {s : Sign} {m n k : Nat} {e f : Int} {hm : 0 < m} {acc : Accuracy} {x y : Float}
  {b : BitVec Format.binary64.numBits}

-- Zero, or a number with at most the bits and the exponent of the largest double.
def Fits (u : UnpackedFloat) : Prop :=
  (∃ s, u = .zero s) ∨ ∃ s m e hm, u = .finite s m e hm ∧ m < 2 ^ 53 ∧ e ≤ 971

theorem isFinite_of_fits (h : Fits u) : u.isFinite := by
  obtain ⟨s, rfl⟩ | ⟨s, m, e, hm, rfl, -, -⟩ := h <;> rfl

theorem isFinite_unpack_of_full (h : unpackExponent b = -1#11) :
    (UnpackedFloat.unpack .binary64 b).isFinite = false := by
  rw [UnpackedFloat.unpack]
  simp only [h, if_true]
  split <;> rfl

theorem fits_unpack_of_not_full (h : unpackExponent b ≠ -1#11) :
    Fits (UnpackedFloat.unpack .binary64 b) := by
  have hl : (unpackExponent b).toNat < 2 ^ 11 := (unpackExponent b).isLt
  have hb : (Format.binary64.exponentBias : Int) = 1023 := rfl
  have hw : (Format.binary64.mantissaBitsWithoutImplicit : Int) = 52 := rfl
  have hx : (unpackExponent b).toNat ≤ 2046 := by
    have hn : (unpackExponent b).toNat ≠ 2047 := fun hn => h (BitVec.eq_of_toNat_eq hn)
    omega
  rw [UnpackedFloat.unpack]
  simp only [h, if_false]
  split
  case isTrue hz =>
    split
    case isTrue  => exact .inl ⟨_, rfl⟩
    case isFalse =>
      -- There is no leading bit.
      have hm : (unpackMantissa b).toNat < 2 ^ 52 := (unpackMantissa b).isLt
      have hz : (unpackExponent b).toNat = 0 := congrArg BitVec.toNat hz
      exact .inr ⟨_, _, _, _, rfl, by omega, by omega⟩
  case isFalse =>
    have hm : (1#1 ++ unpackMantissa b).toNat < 2 ^ 53 := (1#1 ++ unpackMantissa b).isLt
    exact .inr ⟨_, _, _, _, rfl, by omega, by omega⟩

theorem isFinite_unpack_iff : (UnpackedFloat.unpack .binary64 b).isFinite ↔ unpackExponent b ≠ -1#11 := by
  constructor
  case mp  =>
    intro h hb
    rw [isFinite_unpack_of_full hb] at h
    cases h
  case mpr => exact fun h => isFinite_of_fits (fits_unpack_of_not_full h)

theorem fits_unpack (h : x.isFinite) : Fits x.toModel.unpack :=
  fits_unpack_of_not_full (isFinite_unpack_iff.mp h)

theorem isFinite_ofFloat (x : Float) : (ofFloat x).isFinite = x.isFinite := by
  have hx : x.isFinite = (UnpackedFloat.unpack .binary64 x.toBits.toBitVec).isFinite := rfl
  have hu : @unpackExponent .binary64 x.toBits.toBitVec = -1#11 ↔
      x.toBits.toNat / 2 ^ 52 % 2048 = 2047 := by
    rw [← BitVec.toNat_inj]
    simp [unpackExponent, Nat.shiftRight_eq_div_pow]
  rw [hx, Bool.eq_iff_iff, isFinite_unpack_iff, Ne, hu, isFinite, decide_eq_true_eq]
  rfl

theorem unpackExponent_pack (hm : 0 < m) (he : e ≤ 971) :
    unpackExponent (UnpackedFloat.pack .binary64 (.finite s m e hm)) ≠ -1#11 := by
  have hb : (Format.binary64.exponentBias : Int) = 1023 := rfl
  have hw : (Format.binary64.mantissaBitsWithoutImplicit : Int) = 52 := rfl
  rw [UnpackedFloat.pack]
  simp only [hb, hw]
  rw [if_neg (by omega)]
  split
  case isTrue =>
    rw [unpackExponent_packComponents]
    intro h
    have h := congrArg BitVec.toNat h
    rw [BitVec.toNat_ofNat] at h
    have : (-1#11).toNat = 2047 := by decide
    omega
  case isFalse =>
    rw [unpackExponent_packComponents]
    decide

theorem isFinite_pack_zero : (Float.Model.pack (.zero s)).isFinite := by
  cases s <;> decide

theorem isFinite_pack (he : e ≤ 971) : (Float.Model.pack (.finite s m e hm)).isFinite :=
  isFinite_unpack_iff.mpr (unpackExponent_pack hm he)

theorem isInf_pack (he : 971 < e) : (Float.Model.pack (.finite s m e hm)).isInf := by
  have hb : (Format.binary64.exponentBias : Int) = 1023 := rfl
  have hw : (Format.binary64.mantissaBitsWithoutImplicit : Int) = 52 := rfl
  have hp : Float.Model.pack (.finite s m e hm) = Float.Model.pack (.infinity s) := by
    rw [Float.Model.pack, Float.Model.pack, Float.Model.mk.injEq, UnpackedFloat.pack, UnpackedFloat.pack]
    simp only [hb, hw]
    rw [if_pos (by omega)]
  rw [hp]
  cases s <;> decide

theorem mantissa_ofMantissaAndAccuracy (m : Nat) (acc : Accuracy) :
    (ExtendedMantissa.ofMantissaAndAccuracy m acc).mantissa = m := by
  cases acc
  case exact     => rfl
  case inexact o => cases o <;> rfl

theorem targetExponent_le (h : m.log2 + 1 + e ≤ f + 53) (hf : -1074 ≤ f) :
    Format.binary64.targetExponent (totalExponent m e) ≤ f := by
  have hb : (Format.binary64.mantissaBits : Int) = 53 := rfl
  have hl : Format.binary64.minExponent = -1074 := by decide
  rw [Format.targetExponent, totalExponent, hb, hl]
  omega

theorem le_targetExponent (m : Nat) (e : Int) :
    m.log2 + 1 + e - 53 ≤ Format.binary64.targetExponent (totalExponent m e) ∧
    -1074 ≤ Format.binary64.targetExponent (totalExponent m e) := by
  have hb : (Format.binary64.mantissaBits : Int) = 53 := rfl
  have hl : Format.binary64.minExponent = -1074 := by decide
  rw [Format.targetExponent, totalExponent, hb, hl]
  omega

-- Rounding leaves at most one bit more than there is room for.
theorem roundedMantissa_shift_le (m : Nat) (e : Int) (acc : Accuracy) :
    (shiftToTargetExponent .binary64 m e acc).1.roundedMantissa ≤ 2 ^ 53 := by
  have ⟨_, hr⟩ := roundedMantissa_le (shiftToTargetExponent .binary64 m e acc).1
  have ⟨hl, _⟩ := le_targetExponent m e
  have hk : m / 2 ^ (Format.binary64.targetExponent (totalExponent m e) - e).toNat < 2 ^ 53 := by
    refine (Nat.div_lt_iff_lt_mul (Nat.two_pow_pos _)).mpr ?_
    rw [← Nat.pow_add]
    calc m
      _ < 2 ^ (m.log2 + 1) := Nat.lt_log2_self
      _ ≤ 2 ^ (53 + (Format.binary64.targetExponent (totalExponent m e) - e).toNat) :=
        Nat.pow_le_pow_right (by decide) (by omega)
  have hm : (shiftToTargetExponent .binary64 m e acc).1.mantissa =
      m / 2 ^ (Format.binary64.targetExponent (totalExponent m e) - e).toNat := by
    rw [shiftToTargetExponent, shiftToExponent, mantissa_shiftRight, mantissa_ofMantissaAndAccuracy]
  omega

theorem isFinite_round (he : e ≤ 970) (hm : m.log2 + 1 + e ≤ 1023) :
    (Float.Model.pack (roundWithAccuracy .binary64 s m e acc)).isFinite := by
  have ht := targetExponent_le (m := m) (e := e) (f := 970) (by omega) (by decide)
  have ⟨_, hl⟩ := le_targetExponent m e
  have hs : (shiftToTargetExponent .binary64 m e acc).2 =
      e + (Format.binary64.targetExponent (totalExponent m e) - e).toNat := rfl
  have hr := roundedMantissa_shift_le m e acc
  obtain ⟨r, hr'⟩ : ∃ r, r = (shiftToTargetExponent .binary64 m e acc).1.roundedMantissa := ⟨_, rfl⟩
  obtain ⟨e', he'⟩ : ∃ e', e' = (shiftToTargetExponent .binary64 m e acc).2 := ⟨_, rfl⟩
  rw [← hr'] at hr
  -- Rounding may carry into one more bit, and then the mantissa is shifted once more.
  have hlog : r.log2 ≤ 53 := by
    by_cases hz : r = 0
    case pos => rw [hz]; decide
    case neg =>
      have := (Nat.log2_lt (k := 54) hz).mpr (by omega)
      omega
  have ht' := targetExponent_le (m := r) (e := e') (f := 971) (by omega) (by decide)
  have hs' : (shiftToTargetExponent .binary64 r e' .exact).2 =
      e' + (Format.binary64.targetExponent (totalExponent r e') - e').toNat := rfl
  rw [roundWithAccuracy]
  simp only [← hr', ← he']
  split
  case isTrue  => exact isFinite_pack_zero
  case isFalse => exact isFinite_pack (by omega)

theorem isFinite_mul (hx : x.isFinite) (hy : y.isFinite) (h : (x * y).isInf = false) : (x * y).isFinite := by
  have hp : (x * y).toModel =
      Float.Model.pack (UnpackedFloat.mul .binary64 x.toModel.unpack y.toModel.unpack) := rfl
  have hf : (x * y).isFinite = (x * y).toModel.isFinite := rfl
  have hi : (x * y).isInf = (x * y).toModel.isInf := rfl
  rw [hi, hp] at h
  rw [hf, hp]
  obtain ⟨s, hx⟩ | ⟨s, m, e, hm, hx, -, -⟩ := fits_unpack hx
  case inl =>
    obtain ⟨t, hy⟩ | ⟨t, n, f, hn, hy, -, -⟩ := fits_unpack hy
    all_goals
      rw [hx, hy, UnpackedFloat.mul]
      exact isFinite_pack_zero
  case inr =>
    obtain ⟨t, hy⟩ | ⟨t, n, f, hn, hy, -, -⟩ := fits_unpack hy
    case inl =>
      rw [hx, hy, UnpackedFloat.mul]
      exact isFinite_pack_zero
    case inr =>
      rw [hx, hy, UnpackedFloat.mul, roundWithAccuracy] at h ⊢
      simp only at h ⊢
      split at h
      case isTrue h0  =>
        simp only [h0, dif_pos]
        exact isFinite_pack_zero
      case isFalse h0 =>
        simp only [h0, dif_neg, not_false_iff]
        -- With a larger exponent the product would be infinite.
        refine isFinite_pack (Int.not_lt.mp fun hl => ?_)
        rw [isInf_pack hl] at h
        cases h

theorem isFinite_div (hx : x.isFinite) {hn : 0 < n} (hy : y.toModel.unpack = .finite .positive n f hn)
    (hl : 2 ^ 52 ≤ n) (hf : -49 ≤ f) : (x / y).isFinite := by
  have hp : (x / y).isFinite =
      (Float.Model.pack (UnpackedFloat.div .binary64 x.toModel.unpack y.toModel.unpack)).isFinite := rfl
  rw [hp, hy]
  obtain ⟨s, hx⟩ | ⟨s, m, e, hm, hx, hu, he⟩ := fits_unpack hx
  case inl =>
    rw [hx, UnpackedFloat.div]
    exact isFinite_pack_zero
  case inr =>
    have hmlog : m.log2 < 53 := (Nat.log2_lt (by omega)).mpr hu
    have hnlog : 52 ≤ n.log2 := (Nat.le_log2 (by omega)).mpr hl
    obtain ⟨t, ht⟩ : ∃ t, t = min (e - f)
      (Format.binary64.targetExponent (totalExponent m e - totalExponent n f)) := ⟨_, rfl⟩
    have ht' : t ≤ e - f ∧ t ≤ 970 := by
      have hb : (Format.binary64.mantissaBits : Int) = 53 := rfl
      have hl : Format.binary64.minExponent = -1074 := by decide
      rw [Format.targetExponent, totalExponent, totalExponent, hb, hl] at ht
      omega
    have hq : (m <<< (e - f - t).toNat / n).log2 ≤ (e - f - t).toNat := by
      -- A mantissa is less than twice as large as one that has all its bits.
      have hq : m <<< (e - f - t).toNat / n < 2 ^ ((e - f - t).toNat + 1) := by
        refine (Nat.div_lt_iff_lt_mul hn).mpr ?_
        rw [Nat.shiftLeft_eq]
        calc m * 2 ^ (e - f - t).toNat
          _ < 2 ^ 53 * 2 ^ (e - f - t).toNat         := Nat.mul_lt_mul_of_pos_right hu (Nat.two_pow_pos _)
          _ = 2 ^ ((e - f - t).toNat + 1) * 2 ^ 52   := by rw [Nat.pow_succ]; ring
          _ ≤ 2 ^ ((e - f - t).toNat + 1) * n        := Nat.mul_le_mul_left _ hl
      by_cases hz : m <<< (e - f - t).toNat / n = 0
      case pos =>
        rw [hz]
        exact Nat.zero_le _
      case neg => exact Nat.le_of_lt_succ ((Nat.log2_lt hz).mpr hq)
    rw [hx, UnpackedFloat.div, divCore]
    simp only [← ht]
    exact isFinite_round ht'.right (by omega)

theorem isFinite_neg (h : x.isFinite) : (-x).isFinite := by
  have hp : (-x).isFinite = (Float.Model.pack x.toModel.unpack.neg).isFinite := rfl
  rw [hp]
  obtain ⟨s, hx⟩ | ⟨s, m, e, hm, hx, -, he⟩ := fits_unpack h
  case inl =>
    rw [hx, UnpackedFloat.neg]
    exact isFinite_pack_zero
  case inr =>
    rw [hx, UnpackedFloat.neg]
    exact isFinite_pack he

theorem isFinite_toFloat (n : UInt64) : n.toFloat.isFinite := by
  by_cases hz : n = 0
  case pos =>
    rw [hz]
    decide
  case neg =>
    have hn : 0 < n.toNat := Nat.pos_of_ne_zero fun h => hz (UInt64.toNat_inj.mp h)
    have ⟨m, e, hm, hu, _⟩ := atMost_toFloat hn n.toNat_lt
    have hf : n.toFloat.isFinite = n.toFloat.toModel.unpack.isFinite := rfl
    have he : n.toNat.toUInt64 = n := UInt64.ofNat_toNat
    rw [he] at hu
    rw [hf, hu]
    rfl

theorem isFinite_div_pow (hx : x.isFinite) (hk : k ≤ 308) (hz : k ≠ 0) :
    (x / Float.ofScientific 1 false k).isFinite := by
  have h := isAtLeastEight_pow hk hz
  rw [isAtLeastEight] at h
  split at h
  case h_1 m e hm hu =>
    rw [Bool.and_eq_true, Nat.ble_eq, decide_eq_true_eq] at h
    exact isFinite_div hx hu h.left h.right
  case h_2 => cases h

theorem isFinite_pow (hk : k ≤ 308) : (Float.ofScientific 1 false k).isFinite := by
  have ⟨m, e, hm, hu, _⟩ := atMost_pow hk
  have hf : (Float.ofScientific 1 false k).isFinite =
      (Float.ofScientific 1 false k).toModel.unpack.isFinite := rfl
  rw [hf, hu]
  rfl

theorem isFinite_scaled {e : Int} (hx : x.isFinite) (h : scaled x e = some y) : y.isFinite := by
  induction hn : e.natAbs using Nat.strongRecOn generalizing x e
  case ind n hi =>
    rw [scaled] at h
    split at h
    case isTrue hk =>
      split at h
      case isTrue =>
        dsimp only at h
        split at h
        case isTrue  => cases h
        case isFalse hf =>
          cases h
          exact isFinite_mul hx (isFinite_pow hk) (Bool.not_eq_true _ ▸ hf)
      case isFalse =>
        cases h
        exact isFinite_div_pow hx hk (by omega)
    case isFalse hk =>
      split at h
      case isTrue  => exact Option.some.inj h ▸ hx
      case isFalse =>
        split at h
        case isTrue  => cases h
        case isFalse =>
          -- After 308 places there are fewer places left.
          exact hi (e + 308).natAbs (by omega) (isFinite_div_pow (k := 308) hx (by decide) (by decide)) h rfl

end LanguageClient.Binary64
