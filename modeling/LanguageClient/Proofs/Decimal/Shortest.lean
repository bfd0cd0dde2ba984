import Mathlib.Tactic.Ring
import Mathlib.Tactic.Linarith
import LanguageClient.Decimal.Plain

namespace LanguageClient.Binary64

variable {x : Binary64} {p : Parts} {q k : Int} {d n : Nat}

-- The parts of a double that is finite and not zero.
structure Parts.Finite (p : Parts) : Prop where
  pos   : 0 < p.mantissa
  fits  : p.mantissa < 2 ^ 53
  least : -1074 ≤ p.exponent
  most  : p.exponent ≤ 971
  full  : p.exponent = -1074 ∨ 2 ^ 52 ≤ p.mantissa

theorem finite_parts (hx : x.isFinite) (hp : x.parts.mantissa ≠ 0) : x.parts.Finite := by
  have hf : x.bits.toNat / Nat.pow 2 52 % 2048 ≠ 2047 := by simpa [isFinite] using hx
  have hl : x.bits.toNat % Nat.pow 2 52 < 2 ^ 52 := Nat.mod_lt _ (by decide)
  have hb : x.bits.toNat / Nat.pow 2 52 % 2048 < 2048 := Nat.mod_lt _ (by decide)
  rw [parts] at hp ⊢
  by_cases hz : x.bits.toNat / Nat.pow 2 52 % 2048 = 0
  case pos =>
    simp only [hz, if_true] at hp ⊢
    exact ⟨by simpa using Nat.pos_of_ne_zero hp, by simp only; omega, by simp, by simp, .inl rfl⟩
  case neg =>
    simp only [hz, if_false] at hp ⊢
    have h2 : Nat.pow 2 52 = 2 ^ 52 := rfl
    refine ⟨?_, ?_, ?_, ?_, .inr ?_⟩
    all_goals
      simp only
      omega

def Parts.unit (p : Parts) (k : Int) : Nat := (scale (p.exponent - 2) k).1

def Parts.step (p : Parts) (k : Int) : Nat := (scale (p.exponent - 2) k).2

theorem unit_pos (p : Parts) (k : Int) : 0 < p.unit k :=
  Nat.mul_pos (Nat.two_pow_pos _) (Nat.pow_pos (by decide))

theorem step_pos (p : Parts) (k : Int) : 0 < p.step k :=
  Nat.mul_pos (Nat.pow_pos (by decide)) (Nat.two_pow_pos _)

theorem step_succ (p : Parts) (k : Int) : p.step (k + 1) * p.unit k = 10 * (p.step k * p.unit (k + 1)) := by
  have ht : Nat.pow 10 (k + 1).toNat * Nat.pow 10 (-k).toNat =
      10 * (Nat.pow 10 k.toNat * Nat.pow 10 (-(k + 1)).toNat) := by
    have hp : ∀ n, Nat.pow 10 n = 10 ^ n := fun _ => rfl
    simp only [hp]
    rw [← Nat.pow_add, ← Nat.pow_add, ← Nat.pow_succ']
    congr 1
    omega
  simp only [Parts.step, Parts.unit, scale]
  calc _
    _ = (Nat.pow 10 (k + 1).toNat * Nat.pow 10 (-k).toNat) *
        (Nat.pow 2 (-(p.exponent - 2)).toNat * Nat.pow 2 (p.exponent - 2).toNat) := by ring
    _ = _ := by rw [ht]; ring

def Parts.reads (p : Parts) (k : Int) (d : Nat) : Bool :=
  let value := 4 * p.mantissa * p.unit k
  let low := value - (if p.halfBelow then p.unit k else 2 * p.unit k)
  let high := value + 2 * p.unit k
  if p.mantissa % 2 = 0 then low ≤ d * p.step k && d * p.step k ≤ high
  else low < d * p.step k && d * p.step k < high

def Parts.below (p : Parts) (k : Int) : Nat := 4 * p.mantissa * p.unit k / p.step k

theorem le_of_reads (h : p.reads k d) : d * p.step k ≤ (4 * p.mantissa + 2) * p.unit k := by
  have hd : d * p.step k ≤ 4 * p.mantissa * p.unit k + 2 * p.unit k := by
    rw [Parts.reads] at h
    split at h
    all_goals
      simp only [Bool.and_eq_true, decide_eq_true_eq] at h
      omega
  linarith

-- A multiple that is closer than a unit, from below, or two, from above, reads back.
theorem reads_of_lt (hv : 4 * p.unit k ≤ 4 * p.mantissa * p.unit k)
    (h₁ : 4 * p.mantissa * p.unit k < d * p.step k + p.unit k)
    (h₂ : d * p.step k < 4 * p.mantissa * p.unit k + 2 * p.unit k) : p.reads k d := by
  have hu := unit_pos p k
  rw [Parts.reads]
  split
  all_goals
    simp only [Bool.and_eq_true, decide_eq_true_eq]
    split <;> omega

theorem onGrid_cases (p : Parts) (k : Int) :
    (∃ d, p.onGrid k = some d ∧ d ≠ 0 ∧ p.reads k d) ∨
    (p.onGrid k = none ∧ ¬(p.reads k (p.below k) ∧ p.below k ≠ 0) ∧ ¬p.reads k (p.below k + 1)) := by
  unfold Parts.onGrid
  simp only
  split
  case h_1 h₁ h₂ =>
    have h₁ : (p.reads k (p.below k) && decide (p.below k ≠ 0)) = true := h₁
    have h₂ : p.reads k (p.below k + 1) = true := h₂
    rw [Bool.and_eq_true, decide_eq_true_eq] at h₁
    split
    · exact .inl ⟨p.below k, rfl, h₁.right, h₁.left⟩
    · exact .inl ⟨p.below k + 1, rfl, Nat.succ_ne_zero _, h₂⟩
  case h_2 h₁ h₂ =>
    have h₁ : (p.reads k (p.below k) && decide (p.below k ≠ 0)) = true := h₁
    rw [Bool.and_eq_true, decide_eq_true_eq] at h₁
    exact .inl ⟨p.below k, rfl, h₁.right, h₁.left⟩
  case h_3 h₁ h₂ => exact .inl ⟨p.below k + 1, rfl, Nat.succ_ne_zero _, h₂⟩
  case h_4 h₁ h₂ =>
    have h₁ : (p.reads k (p.below k) && decide (p.below k ≠ 0)) = false := h₁
    have h₂ : p.reads k (p.below k + 1) = false := h₂
    refine .inr ⟨rfl, fun h => ?_, by simp [h₂]⟩
    simp [h.left, h.right] at h₁

theorem onGrid_ne_none (hp : 0 < p.mantissa) (h : p.step k < 3 * p.unit k) : p.onGrid k ≠ none := by
  intro hn
  obtain ⟨d, hd, _⟩ | ⟨_, h₁, h₂⟩ := onGrid_cases p k
  case inl => rw [hn] at hd; cases hd
  case inr =>
    have hu := unit_pos p k
    have hs := step_pos p k
    have hd : p.step k * p.below k + 4 * p.mantissa * p.unit k % p.step k = 4 * p.mantissa * p.unit k :=
      Nat.div_add_mod _ _
    have hm : 4 * p.mantissa * p.unit k % p.step k < p.step k := Nat.mod_lt _ hs
    have hv : 4 * p.unit k ≤ 4 * p.mantissa * p.unit k := by nlinarith
    have hs' : (p.below k + 1) * p.step k = p.step k * p.below k + p.step k := by ring
    have hs'' : p.below k * p.step k = p.step k * p.below k := Nat.mul_comm _ _
    by_cases hc : 4 * p.mantissa * p.unit k % p.step k < p.unit k
    case pos =>
      refine h₁ ⟨reads_of_lt hv (by omega) (by omega), fun hz => ?_⟩
      rw [hz, Nat.mul_zero] at hd
      omega
    case neg => exact h₂ (reads_of_lt hv (by omega) (by omega))

theorem onGrid_eq_some (h : p.onGrid k = some d) : d ≠ 0 ∧ d * p.step k ≤ (4 * p.mantissa + 2) * p.unit k := by
  obtain ⟨d', hd, hz, hr⟩ | ⟨hn, _⟩ := onGrid_cases p k
  case inl =>
    rw [hd] at h
    cases h
    exact ⟨hz, le_of_reads hr⟩
  case inr => rw [hn] at h; cases h

-- The search stops at the first grid on which there is a multiple.
theorem search_spec (h : ∃ i < n, p.onGrid (k - i) ≠ none) : ∃ i < n,
    p.onGrid (k - i) = some (p.search n k).1 ∧ (p.search n k).2 = k - i ∧
      ∀ j < i, p.onGrid (k - j) = none := by
  induction n generalizing k
  case zero =>
    have ⟨_, hi, _⟩ := h
    omega
  case succ n hi =>
    rw [Parts.search]
    split
    case h_1 d hd => exact ⟨0, by omega, by simpa using hd, by simp, by omega⟩
    case h_2 hd   =>
      obtain ⟨i, hl, hs⟩ := h
      obtain rfl | ⟨i, rfl⟩ : i = 0 ∨ ∃ j, i = j + 1 := by
        cases i
        case zero   => exact .inl rfl
        case succ i => exact .inr ⟨i, rfl⟩
      case inl => exact absurd (by simpa using hd) hs
      case inr =>
        -- There is no multiple on the first grid, so that the search goes on with the next finer one.
        have hk : ∀ j : Nat, k - ((j + 1 : Nat) : Int) = k - 1 - (j : Int) := fun j => by omega
        have ⟨i', hl', ho, hk', hb⟩ := hi (k := k - 1) ⟨i, by omega, by rwa [← hk]⟩
        refine ⟨i' + 1, by omega, by rwa [hk], by rw [hk, hk'], fun j hj => ?_⟩
        cases j
        case zero   => simpa using hd
        case succ j => rw [hk]; exact hb j (by omega)

def start (l : Nat) (e : Int) : Int := ((l : Int) + e + 2) * 30103 / 100000 + 2

def isStart (l : Nat) (e : Int) : Bool :=
  Nat.ble (scale (e - 2) (start l e)).1 (scale (e - 2) (start l e)).2 &&
  Nat.blt (scale (e - 2) (start l e - 23)).2 (3 * (scale (e - 2) (start l e - 23)).1)

theorem isStart_full : ∀ i : Nat, i < 2046 → isStart 52 ((i : Int) - 1074) := by
  decide +kernel

theorem isStart_least : ∀ l : Nat, l < 53 → isStart l (-1074) := by
  decide +kernel

theorem log2_mantissa (h : p.Finite) : p.mantissa.log2 < 53 ∧ (p.exponent = -1074 ∨ p.mantissa.log2 = 52) := by
  have hz := Nat.ne_of_gt h.pos
  have hl := (Nat.log2_lt hz).mpr h.fits
  refine ⟨hl, h.full.imp_right fun hm => ?_⟩
  have hm := (Nat.le_log2 hz).mpr hm
  omega

theorem isStart_of_finite (h : p.Finite) : isStart p.mantissa.log2 p.exponent := by
  have ⟨hl, hc⟩ := log2_mantissa h
  obtain he | hm := hc
  case inl => exact he ▸ isStart_least _ hl
  case inr =>
    have hb := h.least
    have hb' := h.most
    have hs := isStart_full (p.exponent + 1074).toNat (by omega)
    have he : (((p.exponent + 1074).toNat : Nat) : Int) - 1074 = p.exponent := by omega
    rwa [he, ← hm] at hs

-- A grid that is not ten times finer than need be has few digits.
theorem lt_of_coarse (hm : p.mantissa < 2 ^ 53) (hc : 3 * p.unit k ≤ 10 * p.step k)
    (h : d * p.step k ≤ (4 * p.mantissa + 2) * p.unit k) : d < 10 ^ 18 := by
  have hs := step_pos p k
  have hd : 3 * d * p.step k ≤ 10 * (4 * p.mantissa + 2) * p.step k := by
    calc 3 * d * p.step k
      _ = 3 * (d * p.step k)                            := Nat.mul_assoc ..
      _ ≤ 3 * ((4 * p.mantissa + 2) * p.unit k)         := Nat.mul_le_mul_left _ h
      _ = (4 * p.mantissa + 2) * (3 * p.unit k)         := by ring
      _ ≤ (4 * p.mantissa + 2) * (10 * p.step k)        := Nat.mul_le_mul_left _ hc
      _ = 10 * (4 * p.mantissa + 2) * p.step k          := by ring
  have hd := Nat.le_of_mul_le_mul_right hd hs
  omega

theorem coarse_of_none (hp : 0 < p.mantissa) (h : p.onGrid (k + 1) = none) :
    3 * p.unit k ≤ 10 * p.step k := by
  have hn : ¬p.step (k + 1) < 3 * p.unit (k + 1) := fun hs => onGrid_ne_none hp hs h
  have hu := unit_pos p (k + 1)
  have hs : 3 * p.unit k * p.unit (k + 1) ≤ 10 * p.step k * p.unit (k + 1) := by
    calc 3 * p.unit k * p.unit (k + 1)
      _ = 3 * p.unit (k + 1) * p.unit k     := by ring
      _ ≤ p.step (k + 1) * p.unit k         := Nat.mul_le_mul_right _ (Nat.le_of_not_lt hn)
      _ = 10 * (p.step k * p.unit (k + 1))  := step_succ p k
      _ = 10 * p.step k * p.unit (k + 1)    := (Nat.mul_assoc ..).symm
  exact Nat.le_of_mul_le_mul_right hs hu

-- The digits of a double, with their power of ten.
structure Digits (p : Parts) (d : Nat) (k : Int) : Prop where
  pos   : d ≠ 0
  fits  : d < 10 ^ 18
  near  : k.natAbs ≤ 400
  below : d * p.step k ≤ (4 * p.mantissa + 2) * p.unit k

theorem natAbs_start_le (h : p.Finite) {i : Nat} (hi : i < 24) :
    (start p.mantissa.log2 p.exponent - i).natAbs ≤ 400 := by
  have hl := (log2_mantissa h).left
  have hb := h.least
  have hm := h.most
  rw [start]
  omega

theorem digits_shortest (h : p.Finite) : Digits p p.shortest.1 p.shortest.2 := by
  have hs := isStart_of_finite h
  rw [isStart, Bool.and_eq_true, Nat.ble_eq, Nat.blt_eq] at hs
  have ⟨hcoarse, hfine⟩ := hs
  have hf := onGrid_ne_none h.pos hfine
  have ⟨i, hi, ho, hk, hb⟩ := search_spec (n := 24) (k := start p.mantissa.log2 p.exponent) ⟨23, by decide, hf⟩
  have hsearch : p.shortest = p.search 24 (start p.mantissa.log2 p.exponent) := rfl
  have ⟨hz, hle⟩ := onGrid_eq_some ho
  rw [hsearch, hk]
  refine ⟨hz, lt_of_coarse h.fits ?_ hle, natAbs_start_le h hi, hle⟩
  cases i
  case zero =>
    have hc : p.unit (start p.mantissa.log2 p.exponent) ≤ p.step (start p.mantissa.log2 p.exponent) := hcoarse
    have hi : start p.mantissa.log2 p.exponent - ((0 : Nat) : Int) = start p.mantissa.log2 p.exponent := by omega
    rw [hi]
    omega
  case succ i =>
    have hi : start p.mantissa.log2 p.exponent - ((i + 1 : Nat) : Int) + 1 =
        start p.mantissa.log2 p.exponent - (i : Nat) := by omega
    exact coarse_of_none h.pos (hi ▸ hb i (Nat.lt_succ_self i))

end LanguageClient.Binary64
