import Mathlib
import LanguageClient.Json.Numeral

namespace LanguageClient.Binary64

open Float.Model Float.Model.UnpackedFloat

variable {s : Sign} {m n k r : Nat} {e : Int}

theorem toNat_implicit (hm : 2 ^ 52 ≤ m) (hm' : m < 2 ^ 53) : (1#1 ++ BitVec.ofNat 52 m).toNat = m := by
  have hl := (BitVec.ofNat 52 m).isLt
  rw [BitVec.toNat_append, ← Nat.shiftLeft_add_eq_or_of_lt hl, BitVec.toNat_ofNat, Nat.shiftLeft_eq]
  simp only [BitVec.toNat_ofNat]
  omega

theorem unpack_pack (hp : 0 < m) (hm : 2 ^ 52 ≤ m) (hm' : m < 2 ^ 53) (he : -1074 ≤ e) (he' : e ≤ 971) :
    (Float.Model.pack (.finite s m e hp)).unpack = .finite s m e hp := by
  have hl : m.log2 = 52 := (Nat.log2_eq_iff (by omega)).mpr ⟨hm, hm'⟩
  obtain ⟨b, hb⟩ : ∃ b : Nat, e = (b : Int) - 1075 := ⟨(e + 1075).toNat, by omega⟩
  have hbias : (e + Format.binary64.exponentBias + Format.binary64.mantissaBitsWithoutImplicit).toNat = b := by
    have hx : (Format.binary64.exponentBias : Int) = 1023 := rfl
    have hw : (Format.binary64.mantissaBitsWithoutImplicit : Int) = 52 := rfl
    rw [hx, hw, hb]
    omega
  have hn : (BitVec.ofNat 11 b).toNat = b := by
    rw [BitVec.toNat_ofNat]
    omega
  -- The exponent is neither that of infinity nor that of the numbers without a leading bit.
  have hmax : BitVec.ofNat 11 b ≠ -1#11 := fun h => by
    have h := congrArg BitVec.toNat h
    rw [hn] at h
    have : (-1#11).toNat = 2047 := by decide
    omega
  have hmin : BitVec.ofNat 11 b ≠ 0#11 := fun h => by
    have h := congrArg BitVec.toNat h
    rw [hn] at h
    have : (0#11).toNat = 0 := by decide
    omega
  have hpack : UnpackedFloat.pack .binary64 (.finite s m e hp) =
      packComponents .binary64 s (BitVec.ofNat 11 b) (BitVec.ofNat 52 m) := by
    rw [UnpackedFloat.pack]
    simp only [hl, hbias]
    rw [if_neg (by omega), if_pos (by decide)]
  have hu : (Float.Model.pack (.finite s m e hp)).unpack =
      UnpackedFloat.unpack .binary64 (UnpackedFloat.pack .binary64 (.finite s m e hp)) := rfl
  rw [hu, hpack, UnpackedFloat.unpack]
  simp only [unpackMantissa_packComponents, unpackExponent_packComponents, unpackSign_packComponents,
    Sign.ofBitVec_toBitVec, hmax, hmin,
    if_false, toNat_implicit hm hm', hn]
  congr 1
  have hx : (Format.binary64.exponentBias : Int) = 1023 := rfl
  rw [hx, hb]
  omega

theorem mantissa_shiftRight (x : ExtendedMantissa) (k : Nat) : (x >>> k).mantissa = x.mantissa / 2 ^ k := by
  induction k
  case zero      => exact (Nat.div_one _).symm
  case succ k hi =>
    have hs : (x >>> (k + 1)).mantissa = (x >>> k).mantissa / 2 := rfl
    rw [hs, hi, Nat.div_div_eq_div_mul, Nat.pow_succ]

theorem roundedMantissa_le (x : ExtendedMantissa) :
    x.mantissa ≤ x.roundedMantissa ∧ x.roundedMantissa ≤ x.mantissa + 1 := by
  obtain ⟨m, a, b⟩ := x
  cases a <;> cases b <;>
    simp only [ExtendedMantissa.roundedMantissa, ExtendedMantissa.accuracy, Accuracy.roundToNearestEven]
  all_goals omega

theorem targetExponent_eq (hk : m.log2 = 52 + k) (he : -1074 ≤ e + k) :
    Format.binary64.targetExponent (totalExponent m e) = e + k := by
  have hb : (Format.binary64.mantissaBits : Int) = 53 := rfl
  have hm : Format.binary64.minExponent = -1074 := by decide
  rw [Format.targetExponent, totalExponent, hb, hm, hk]
  omega

theorem shiftToTargetExponent_eq (hk : m.log2 = 52 + k) (he : -1074 ≤ e + k) :
    shiftToTargetExponent .binary64 m e .exact =
      ((⟨m, false, false⟩ : ExtendedMantissa) >>> k, e + k) := by
  have hs : (e + k - e).toNat = k := by omega
  rw [shiftToTargetExponent, targetExponent_eq hk he, shiftToExponent, hs]
  rfl

theorem finite_congr {m' : Nat} {e' : Int} {hp : 0 < m} {hp' : 0 < m'} (hm : m = m') (he : e = e') :
    UnpackedFloat.finite s m e hp = .finite s m' e' hp' := by
  subst hm he
  rfl

theorem roundWithAccuracy_eq (hk : m.log2 = 52 + k) (he : -1074 ≤ e + k) :
    ∃ r t, ∃ hr : 0 < r, roundWithAccuracy .binary64 s m e .exact = .finite s r (e + (t : Nat)) hr ∧
      2 ^ 52 ≤ r ∧ r < 2 ^ 53 ∧ (t = k ∨ t = k + 1) ∧ r * 2 ^ t * 2 ^ 52 ≤ m * (2 ^ 52 + 1) := by
  have hm : m ≠ 0 := by
    rintro rfl
    rw [Nat.log2_zero] at hk
    omega
  have hlow : 2 ^ 52 * 2 ^ k ≤ m := by
    rw [← Nat.pow_add, ← hk]
    exact Nat.log2_self_le hm
  have hhigh : m < 2 ^ 53 * 2 ^ k := by
    rw [← Nat.pow_add]
    exact (Nat.log2_lt hm).mp (by omega)
  have hp : 0 < 2 ^ k := Nat.two_pow_pos k
  obtain ⟨x, hx⟩ : ∃ x, x = (⟨m, false, false⟩ : ExtendedMantissa) >>> k := ⟨_, rfl⟩
  have hfloor : x.mantissa = m / 2 ^ k := by
    rw [hx, mantissa_shiftRight]
  have ⟨hr, hr'⟩ := roundedMantissa_le x
  rw [hfloor] at hr hr'
  have h₁ : 2 ^ 52 ≤ m / 2 ^ k := (Nat.le_div_iff_mul_le hp).mpr hlow
  have h₂ : m / 2 ^ k < 2 ^ 53 := (Nat.div_lt_iff_lt_mul hp).mpr hhigh
  -- What is added is less than the last bit that is kept, of which there are at least `2 ^ 52`.
  have hb : x.roundedMantissa * 2 ^ k * 2 ^ 52 ≤ m * (2 ^ 52 + 1) := by
    have hd := Nat.div_mul_le_self m (2 ^ k)
    have hadd : x.roundedMantissa * 2 ^ k ≤ m + 2 ^ k := by nlinarith
    nlinarith
  by_cases hover : x.roundedMantissa < 2 ^ 53
  case pos =>
    have hl : x.roundedMantissa.log2 = 52 + 0 := (Nat.log2_eq_iff (by omega)).mpr ⟨by omega, hover⟩
    refine ⟨x.roundedMantissa, k, by omega, ?_, by omega, hover, .inl rfl, hb⟩
    rw [roundWithAccuracy, shiftToTargetExponent_eq hk he, ← hx]
    simp only [shiftToTargetExponent_eq hl (by simpa using he)]
    have hz : ((⟨x.roundedMantissa, false, false⟩ : ExtendedMantissa) >>> 0).mantissa = x.roundedMantissa := by
      rw [mantissa_shiftRight, Nat.pow_zero, Nat.div_one]
    have hr : ¬x.roundedMantissa = 0 := by omega
    rw [dif_neg (by rwa [hz])]
    exact finite_congr hz (by omega)
  case neg =>
    have hl : x.roundedMantissa = 2 ^ 53 := by omega
    have hl' : x.roundedMantissa.log2 = 52 + 1 := by rw [hl, Nat.log2_two_pow]
    refine ⟨2 ^ 52, k + 1, by decide, ?_, Nat.le_refl _, by decide, .inr rfl, ?_⟩
    · rw [roundWithAccuracy, shiftToTargetExponent_eq hk he, ← hx]
      simp only [shiftToTargetExponent_eq hl' (e := e + k) (by omega)]
      have hh : 2 ^ 53 / 2 ^ 1 = 2 ^ 52 := by decide
      rw [dif_neg (by rw [mantissa_shiftRight, hl, hh]; decide)]
      refine finite_congr ?_ (by omega)
      rw [mantissa_shiftRight, hl, hh]
    · rw [hl] at hb
      calc 2 ^ 52 * 2 ^ (k + 1) * 2 ^ 52
        _ = 2 ^ 53 * 2 ^ k * 2 ^ 52 := by ring
        _ ≤ m * (2 ^ 52 + 1)        := hb

-- A double is positive and exceeds a natural number by at most one part in `2 ^ 52`.
def AtMost (x : Float) (n : Nat) : Prop :=
  ∃ m e, ∃ hm : 0 < m, x.toModel.unpack = .finite .positive m (e - 52 : Int) hm ∧ 2 ^ 52 ≤ m ∧ m < 2 ^ 53 ∧
    0 ≤ e ∧ m * 2 ^ e.toNat ≤ n * (2 ^ 52 + 1)

theorem round_eq (hn : 0 < n) (hs : n < 2 ^ 64) : ∃ m e, ∃ hm : 0 < m,
    UnpackedFloat.round .binary64 .positive n 0 = .finite .positive m (e - 52 : Int) hm ∧ 2 ^ 52 ≤ m ∧
      m < 2 ^ 53 ∧ 0 ≤ e ∧ e ≤ 1000 ∧ m * 2 ^ e.toNat ≤ n * (2 ^ 52 + 1) := by
  have hl : n.log2 < 64 := (Nat.log2_lt (by omega)).mpr hs
  have ht : Format.binary64.targetExponent (totalExponent n 0) = (n.log2 : Int) - 52 := by
    have hb : (Format.binary64.mantissaBits : Int) = 53 := rfl
    have hm : Format.binary64.minExponent = -1074 := by decide
    rw [Format.targetExponent, totalExponent, hb, hm]
    omega
  have hlow := Nat.log2_self_le (Nat.ne_of_gt hn)
  have hhigh := (Nat.log2_lt (Nat.ne_of_gt hn)).mp (Nat.lt_succ_self n.log2)
  rw [UnpackedFloat.round, ht, decreaseExponent]
  by_cases h : n.log2 ≤ 52
  case pos =>
    -- All bits fit, and the mantissa is filled up.
    obtain ⟨c, hc⟩ : ∃ c : Nat, n.log2 + c = 52 := ⟨52 - n.log2, by omega⟩
    have hsh : ((0 : Int) - ((n.log2 : Int) - 52)).toNat = c := by omega
    have hp : 2 ^ n.log2 * 2 ^ c = 2 ^ 52 := by rw [← Nat.pow_add, hc]
    have hc' : 0 < 2 ^ c := Nat.two_pow_pos c
    have hk : (n <<< c).log2 = 52 + 0 := by
      rw [Nat.shiftLeft_eq]
      refine (Nat.log2_eq_iff (by positivity)).mpr ⟨?_, ?_⟩
      · calc 2 ^ (52 + 0)
          _ = 2 ^ n.log2 * 2 ^ c := hp.symm
          _ ≤ n * 2 ^ c          := Nat.mul_le_mul_right _ hlow
      · calc n * 2 ^ c
          _ < 2 ^ n.log2.succ * 2 ^ c := Nat.mul_lt_mul_of_pos_right hhigh hc'
          _ = 2 ^ 52 * 2              := by rw [Nat.pow_succ, Nat.mul_right_comm, hp]
    obtain ⟨r, t, hr, hf, h₁, h₂, ht, hb⟩ :=
      roundWithAccuracy_eq (s := .positive) (e := 0 - (c : Nat)) hk (by omega)
    simp only [hsh]
    refine ⟨r, t + n.log2, hr, ?_, h₁, h₂, by omega, by omega, ?_⟩
    · rw [hf]
      exact finite_congr rfl (by omega)
    · have he : ((t : Int) + (n.log2 : Int)).toNat = t + n.log2 := by omega
      rw [Nat.shiftLeft_eq, ← hp] at hb
      rw [he, Nat.pow_add, ← hp]
      have hb : (r * (2 ^ t * 2 ^ n.log2)) * 2 ^ c ≤ (n * (2 ^ n.log2 * 2 ^ c + 1)) * 2 ^ c := by
        nlinarith
      exact Nat.le_of_mul_le_mul_right hb hc'
  case neg =>
    obtain ⟨c, hc⟩ : ∃ c : Nat, n.log2 = 52 + c := ⟨n.log2 - 52, by omega⟩
    have hsh : ((0 : Int) - ((n.log2 : Int) - 52)).toNat = 0 := by omega
    obtain ⟨r, t, hr, hf, h₁, h₂, ht, hb⟩ := roundWithAccuracy_eq (s := .positive) (e := 0) hc (by omega)
    simp only [hsh, Nat.shiftLeft_zero]
    refine ⟨r, t + 52, hr, ?_, h₁, h₂, by omega, by omega, ?_⟩
    · have hz : (0 : Int) - ((0 : Nat) : Int) = 0 := by omega
      rw [hz, hf]
      exact finite_congr rfl (by omega)
    · have he : ((t : Int) + 52).toNat = t + 52 := by omega
      rw [he, Nat.pow_add, ← Nat.mul_assoc]
      exact hb

theorem atMost_toFloat (hn : 0 < n) (hs : n < UInt64.size) : AtMost n.toUInt64.toFloat n := by
  have hv : n.toUInt64.toNat = n := Nat.mod_eq_of_lt hs
  have hc : compare (n : Int) 0 = .gt := by
    rw [compare_gt_iff_gt]
    omega
  have hu : n.toUInt64.toFloat.toModel.unpack =
      (Float.Model.pack (UnpackedFloat.round .binary64 .positive n 0)).unpack := by
    have hr : UnpackedFloat.ofUInt64 .binary64 n.toUInt64 = UnpackedFloat.round .binary64 .positive n 0 := by
      simp only [UnpackedFloat.ofUInt64, UnpackedFloat.ofNat, UnpackedFloat.ofInt, UnpackedFloat.normalize, hv, hc,
        Int.toNat_natCast]
    rw [← hr]
    rfl
  have ⟨m, e, hm, hf, h₁, h₂, h₃, h₄, hb⟩ := round_eq hn hs
  exact ⟨m, e, hm, by rw [hu, hf, unpack_pack hm h₁ h₂ (by omega) (by omega)], h₁, h₂, h₃, hb⟩

def isAtMost (x : Float) (n : Nat) : Bool :=
  match x.toModel.unpack with
  | .finite .positive m e _ =>
    -52 ≤ e && Nat.ble (2 ^ 52) m && Nat.blt m (2 ^ 53) && Nat.ble (m * 2 ^ (e + 52).toNat) (n * (2 ^ 52 + 1))
  | _ => false

theorem atMost_of_isAtMost {x : Float} (h : isAtMost x n) : AtMost x n := by
  rw [isAtMost] at h
  split at h
  case h_1 m e hm hu =>
    simp only [Bool.and_eq_true, decide_eq_true_eq, Nat.ble_eq, Nat.blt_eq] at h
    have ⟨⟨⟨h₁, h₂⟩, h₃⟩, h₄⟩ := h
    exact ⟨m, e + 52, hm, by rw [hu]; exact finite_congr rfl (by omega), h₂, h₃, by omega, h₄⟩
  case h_2 => cases h

def isAtLeastEight (x : Float) : Bool :=
  match x.toModel.unpack with
  | .finite .positive m e _ => Nat.ble (2 ^ 52) m && -49 ≤ e
  | _ => false

theorem powers_of_ten : ∀ k < 23, isAtMost (Float.ofScientific 1 false k) (10 ^ k) ∧
    (k ≠ 0 → isAtLeastEight (Float.ofScientific 1 false k)) := by
  decide +kernel

-- A power of ten that is not read from the table is rounded once, with 53 bits put behind it.
-- `AtMost` counts from the bit before the last of these, hence the factor of two.
theorem unpack_pow (hk : 23 ≤ k) (hk' : k ≤ 308) : ∃ m t, ∃ hm : 0 < m,
    (Float.ofScientific 1 false k).toModel.unpack = .finite .positive m ((t : Nat) - 53 : Int) hm ∧
      2 ^ 52 ≤ m ∧ m < 2 ^ 53 ∧ 4 ≤ t ∧ m * 2 ^ t ≤ 2 * (10 ^ k * (2 ^ 52 + 1)) := by
  have hlow : 10 ^ 1 ≤ 10 ^ k := Nat.pow_le_pow_right (by decide) (by omega)
  have hlog : 56 ≤ (1 <<< 53 * 10 ^ k).log2 := by
    rw [Nat.le_log2 (by omega)]
    omega
  obtain ⟨c, hc⟩ : ∃ c : Nat, (1 <<< 53 * 10 ^ k).log2 = 52 + c := ⟨(1 <<< 53 * 10 ^ k).log2 - 52, by omega⟩
  obtain ⟨r, t, hr, hf, h₁, h₂, ht, hb⟩ :=
    roundWithAccuracy_eq (s := .positive * .positive) (e := -53 + 0) hc (by omega)
  have hb : r * 2 ^ t ≤ 2 * (10 ^ k * (2 ^ 52 + 1)) := by omega
  have hmost : t < 1025 := by
    by_contra hbig
    obtain ⟨b, c, hk₁, hc₁⟩ : ∃ b c, b = 308 ∧ c = 1025 := ⟨_, _, rfl, rfl⟩
    -- No power of ten up to the largest one is rounded to so large a number.
    have hover : 2 ^ 52 * 2 ^ c ≤ 2 * (10 ^ b * (2 ^ 52 + 1)) := by
      calc 2 ^ 52 * 2 ^ c
        _ ≤ r * 2 ^ t                     :=
          Nat.mul_le_mul h₁ (Nat.pow_le_pow_right (by decide) (by omega))
        _ ≤ 2 * (10 ^ k * (2 ^ 52 + 1))   := hb
        _ ≤ 2 * (10 ^ b * (2 ^ 52 + 1))   :=
          Nat.mul_le_mul_left _ (Nat.mul_le_mul_right _ (Nat.pow_le_pow_right (by decide) (by omega)))
    rw [hk₁, hc₁] at hover
    exact absurd hover (by decide +kernel)
  have hx : (Float.ofScientific 1 false k).toModel.unpack =
      (Float.Model.pack (UnpackedFloat.ofScientific .binary64 1 k)).unpack := by
    rw [Float.ofScientific, dif_neg (by omega)]
    rfl
  have hbits : (2 : Int) ^ Format.binary64.exponentBits = 2048 := rfl
  have hm : UnpackedFloat.ofScientific .binary64 1 k =
      roundWithAccuracy .binary64 (.positive * .positive) (1 <<< 53 * 10 ^ k) (-53 + 0) .exact := by
    rw [UnpackedFloat.ofScientific, dif_neg (by decide), hbits, if_neg (by omega), if_neg (by omega),
      if_pos (by omega)]
    rfl
  refine ⟨r, t, hr, ?_, h₁, h₂, by omega, hb⟩
  rw [hx, hm, hf, unpack_pack hr h₁ h₂ (by omega) (by omega)]
  exact finite_congr rfl (by omega)

theorem atMost_pow (hk : k ≤ 308) : AtMost (Float.ofScientific 1 false k) (10 ^ k) := by
  by_cases hs : k < 23
  case pos => exact atMost_of_isAtMost (powers_of_ten k hs).left
  case neg =>
    have ⟨m, t, hm, hu, h₁, h₂, ht, hb⟩ := unpack_pow (Nat.le_of_not_lt hs) hk
    obtain ⟨e, rfl⟩ : ∃ e, t = e + 1 := ⟨t - 1, by omega⟩
    rw [Nat.pow_succ, ← Nat.mul_assoc] at hb
    refine ⟨m, e, hm, ?_, h₁, h₂, by omega, ?_⟩
    · rw [hu]
      exact finite_congr rfl (by omega)
    · rw [Int.toNat_natCast]
      omega

theorem isAtLeastEight_pow (hk : k ≤ 308) (hz : k ≠ 0) :
    isAtLeastEight (Float.ofScientific 1 false k) := by
  by_cases hs : k < 23
  case pos => exact (powers_of_ten k hs).right hz
  case neg =>
    have ⟨m, t, hm, hu, h₁, _, ht, _⟩ := unpack_pow (Nat.le_of_not_lt hs) hk
    rw [isAtLeastEight, hu]
    simp only [Bool.and_eq_true, Nat.ble_eq, decide_eq_true_eq]
    exact ⟨h₁, by omega⟩

-- A product that would not exceed the largest double, had it been rounded three times, is no infinity.
theorem isInf_mul {x y : Float} (hx : AtMost x m) (hy : AtMost y n)
    (h : m * n * (2 ^ 52 + 1) ^ 3 < 2 ^ 1180) : (x * y).isInf = false := by
  obtain ⟨a, e, ha, hu, ha₁, ha₂, he, hb⟩ := hx
  obtain ⟨b, f, hb', hv, hb₁, hb₂, hf, hc⟩ := hy
  have hlow : 2 ^ 104 ≤ a * b := by
    calc 2 ^ 104
      _ = 2 ^ 52 * 2 ^ 52 := by decide
      _ ≤ a * b           := Nat.mul_le_mul ha₁ hb₁
  have hlog : 104 ≤ (a * b).log2 := (Nat.le_log2 (by omega)).mpr hlow
  obtain ⟨k, hk⟩ : ∃ k : Nat, (a * b).log2 = 52 + k := ⟨(a * b).log2 - 52, by omega⟩
  have ⟨r, t, hr, hm, h₁, h₂, ht, hd⟩ :=
    roundWithAccuracy_eq (s := .positive * .positive) (e := (e - 52 : Int) + (f - 52 : Int)) hk (by omega)
  have hxy : (x * y).toModel.unpack =
      (Float.Model.pack (UnpackedFloat.mul .binary64 x.toModel.unpack y.toModel.unpack)).unpack := rfl
  have hsmall : (e - 52 : Int) + (f - 52 : Int) + (t : Nat) ≤ 971 := by
    by_contra hbig
    obtain ⟨e, rfl⟩ := Int.eq_ofNat_of_zero_le he
    obtain ⟨f, rfl⟩ := Int.eq_ofNat_of_zero_le hf
    rw [Int.toNat_natCast] at hb hc
    obtain ⟨c, hcap⟩ : ∃ c, 1180 = 52 + c + 52 := ⟨1076, rfl⟩
    rw [hcap] at h
    have hp : 2 ^ c ≤ 2 ^ (e + f + t) := Nat.pow_le_pow_right (by decide) (by omega)
    -- Each of the three roundings has added at most one part in `2 ^ 52`.
    have hover : 2 ^ (52 + c + 52) ≤ m * n * (2 ^ 52 + 1) ^ 3 := by
      calc 2 ^ (52 + c + 52)
        _ = 2 ^ 52 * 2 ^ c * 2 ^ 52                              := by rw [Nat.pow_add, Nat.pow_add]
        _ ≤ r * 2 ^ (e + f + t) * 2 ^ 52                         :=
          Nat.mul_le_mul_right _ (Nat.mul_le_mul h₁ hp)
        _ = (r * 2 ^ t * 2 ^ 52) * 2 ^ (e + f)                   := by ring
        _ ≤ (a * b * (2 ^ 52 + 1)) * 2 ^ (e + f)                 := Nat.mul_le_mul_right _ hd
        _ = (a * 2 ^ e) * (b * 2 ^ f) * (2 ^ 52 + 1)             := by ring
        _ ≤ (m * (2 ^ 52 + 1)) * (n * (2 ^ 52 + 1)) * (2 ^ 52 + 1) :=
          Nat.mul_le_mul_right _ (Nat.mul_le_mul hb hc)
        _ = m * n * (2 ^ 52 + 1) ^ 3                             := by ring
    exact absurd h (Nat.not_lt.mpr hover)
  have hinf : (x * y).isInf = (x * y).toModel.unpack.isInf := rfl
  rw [hinf, hxy, hu, hv, UnpackedFloat.mul, hm, unpack_pack hr h₁ h₂ (by omega) hsmall]
  rfl

end LanguageClient.Binary64
