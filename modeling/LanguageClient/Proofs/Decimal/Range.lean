import LanguageClient.Json.Numeral
import LanguageClient.Proofs.Decimal.Rounding
import LanguageClient.Proofs.Decimal.Shortest

namespace LanguageClient.Binary64

open Json.Numeral (scaled)

variable {p : Parts} {d k : Nat} {f : Float} {e : Int}

theorem scaled_of_neg (h : e < 0) : (scaled f e).isSome := by
  induction hn : e.natAbs using Nat.strongRecOn generalizing f e
  case ind n hi =>
    have he : ¬e ≥ 0 := by omega
    rw [scaled]
    by_cases hs : e.natAbs ≤ 308
    case pos => rw [if_pos hs, if_neg he]; rfl
    case neg =>
      rw [if_neg hs]
      split
      case isTrue  => rfl
      case isFalse => exact hi (e + 308).natAbs (by omega) (by omega) rfl

theorem scaled_of_isInf (hk : k ≤ 308) (h : (f * Float.ofScientific 1 false k).isInf = false) :
    (scaled f k).isSome := by
  have hs : (if (f * Float.ofScientific 1 false k).isInf then none
      else some (f * Float.ofScientific 1 false k)).isSome := by
    rw [h]
    rfl
  rwa [scaled, if_pos (by omega), if_pos (by omega), Int.natAbs_natCast]

theorem digits_le (hd : Digits p d k) : d * 10 ^ k ≤ (4 * p.mantissa + 2) * 2 ^ (p.exponent - 2).toNat := by
  have hu : p.unit k = 2 ^ (p.exponent - 2).toNat := by
    have hz : (-(k : Int)).toNat = 0 := by omega
    rw [Parts.unit, scale, hz]
    exact Nat.mul_one _
  have hs : 10 ^ k ≤ p.step k := by
    rw [Parts.step, scale]
    exact Nat.le_mul_of_pos_right _ (Nat.two_pow_pos _)
  calc d * 10 ^ k
    _ ≤ d * p.step k                                        := Nat.mul_le_mul_left _ hs
    _ ≤ (4 * p.mantissa + 2) * p.unit k                     := hd.below
    _ = (4 * p.mantissa + 2) * 2 ^ (p.exponent - 2).toNat   := by rw [hu]

-- The doubles that are not among the seven largest.
def Parts.Modest (p : Parts) : Prop :=
  p.exponent ≤ 970 ∨ p.mantissa ≤ 2 ^ 53 - 8

theorem pow_exponent_le {n : Nat} (h : p.exponent ≤ n + 2) : 2 ^ (p.exponent - 2).toNat ≤ 2 ^ n :=
  Nat.pow_le_pow_right (by decide) (by omega)

theorem modest_bound (h : p.Finite) (hm : p.Modest) :
    (4 * p.mantissa + 2) * 2 ^ (p.exponent - 2).toNat * (2 ^ 52 + 1) ^ 3 < 2 ^ 1180 := by
  have hf := h.fits
  obtain he | hm := hm
  case inl =>
    calc (4 * p.mantissa + 2) * 2 ^ (p.exponent - 2).toNat * (2 ^ 52 + 1) ^ 3
      _ ≤ 2 ^ 55 * 2 ^ 968 * (2 ^ 52 + 1) ^ 3 :=
        Nat.mul_le_mul_right _ (Nat.mul_le_mul (by omega) (pow_exponent_le he))
      _ < 2 ^ 1180 := by decide +kernel
  case inr =>
    calc (4 * p.mantissa + 2) * 2 ^ (p.exponent - 2).toNat * (2 ^ 52 + 1) ^ 3
      _ ≤ (2 ^ 55 - 30) * 2 ^ 969 * (2 ^ 52 + 1) ^ 3 :=
        Nat.mul_le_mul_right _ (Nat.mul_le_mul (by omega) (pow_exponent_le h.most))
      _ < 2 ^ 1180 := by decide +kernel

theorem le_of_digits (h : p.Finite) (hd : Digits p d k) : k ≤ 308 := by
  have hf := h.fits
  have hp : 10 ^ k < 10 ^ 309 := by
    calc 10 ^ k
      _ ≤ d * 10 ^ k := Nat.le_mul_of_pos_left _ (Nat.pos_of_ne_zero hd.pos)
      _ ≤ (4 * p.mantissa + 2) * 2 ^ (p.exponent - 2).toNat := digits_le hd
      _ ≤ 2 ^ 55 * 2 ^ 969 := Nat.mul_le_mul (by omega) (pow_exponent_le h.most)
      _ < 10 ^ 309 := by decide +kernel
  have hk := (Nat.pow_lt_pow_iff_right (by decide)).mp hp
  omega

theorem scaled_of_modest (h : p.Finite) (hm : p.Modest) (hd : Digits p d k) :
    (scaled d.toUInt64.toFloat k).isSome := by
  have hk := le_of_digits h hd
  refine scaled_of_isInf hk (isInf_mul (atMost_toFloat (Nat.pos_of_ne_zero hd.pos) ?_) (atMost_pow hk) ?_)
  · have := hd.fits
    have : UInt64.size = 18446744073709551616 := rfl
    omega
  · calc d * 10 ^ k * (2 ^ 52 + 1) ^ 3
      _ ≤ (4 * p.mantissa + 2) * 2 ^ (p.exponent - 2).toNat * (2 ^ 52 + 1) ^ 3 :=
        Nat.mul_le_mul_right _ (digits_le hd)
      _ < 2 ^ 1180 := modest_bound h hm

def isScaled (p : Parts) : Bool :=
  0 ≤ p.shortest.2 && p.shortest.2.toNat ≤ 308 &&
    !(p.shortest.1.toUInt64.toFloat * Float.ofScientific 1 false p.shortest.2.toNat).isInf

theorem isScaled_largest : ∀ i < 7, ∀ b, isScaled ⟨2 ^ 53 - 1 - i, 971, b⟩ := by
  decide +kernel

theorem scaled_of_isScaled (h : isScaled p) : (scaled p.shortest.1.toUInt64.toFloat p.shortest.2).isSome := by
  rw [isScaled, Bool.and_eq_true, Bool.and_eq_true, decide_eq_true_eq, decide_eq_true_eq,
    Bool.not_eq_true'] at h
  have ⟨⟨hp, hk⟩, hi⟩ := h
  have hs := scaled_of_isInf hk hi
  rwa [Int.toNat_of_nonneg hp] at hs

-- The product is rounded three times, which leaves room below infinity for all but the largest
-- doubles; those are looked at one by one.
theorem scaled_shortest (h : p.Finite) : (scaled p.shortest.1.toUInt64.toFloat p.shortest.2).isSome := by
  by_cases hk : p.shortest.2 < 0
  case pos => exact scaled_of_neg hk
  case neg =>
    by_cases hm : p.Modest
    case pos =>
      have hd := digits_shortest h
      obtain ⟨k, hk⟩ := Int.eq_ofNat_of_zero_le (Int.not_lt.mp hk)
      rw [hk] at hd ⊢
      exact scaled_of_modest h hm hd
    case neg =>
      have hf := h.fits
      have ht := h.most
      rw [Parts.Modest, not_or] at hm
      have he : p.exponent = 971 := by omega
      have hi : p.mantissa = 2 ^ 53 - 1 - (2 ^ 53 - 1 - p.mantissa) := by omega
      have hl := isScaled_largest (2 ^ 53 - 1 - p.mantissa) (by omega) p.halfBelow
      rw [← hi, ← he] at hl
      exact scaled_of_isScaled hl

end LanguageClient.Binary64
