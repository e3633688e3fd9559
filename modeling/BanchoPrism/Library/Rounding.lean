import Mathlib.Algebra.Order.Ring.Int
import Mathlib.Algebra.Order.Ring.Nat
import Mathlib.Tactic.Common

namespace BanchoPrism.Library

-- How far apart the floats of 53 significant bits are around an integer.
def spacing (n : ℤ) : ℤ := 2 ^ (Nat.log2 n.natAbs - 52)

-- The float that is nearest to an integer, and of two that are as near the even one.
def nearestFloat (n : ℤ) : ℤ :=
  let below := n / spacing n
  let excess := n % spacing n
  if 2 * excess < spacing n ∨ 2 * excess = spacing n ∧ below % 2 = 0 then below * spacing n
  else (below + 1) * spacing n

-- sys.float_info.max_exp
def MAX_EXP : ℕ := 1024

-- float(n), which is an integer again; none is the OverflowError.
def floatOf (n : ℤ) : Option ℤ :=
  if (nearestFloat n).natAbs < 2 ^ MAX_EXP then some (nearestFloat n) else none

variable {n m : ℤ} {k : ℕ}

theorem spacing_pos : 0 < spacing n := Int.pow_pos (by omega)

theorem spacing_dvd_nearestFloat : spacing n ∣ nearestFloat n := by
  unfold nearestFloat
  dsimp only
  split
  · exact Int.dvd_mul_left _ _
  · exact Int.dvd_mul_left _ _

theorem nearestFloat_bounds : n - spacing n ≤ nearestFloat n ∧ nearestFloat n ≤ n + spacing n := by
  have hpos := @spacing_pos n
  have hnonneg := Int.emod_nonneg n (Int.ne_of_gt hpos)
  have hlt := Int.emod_lt_of_pos n hpos
  have hsplit := Int.mul_ediv_add_emod n (spacing n)
  have hcomm : spacing n * (n / spacing n) = n / spacing n * spacing n := Int.mul_comm _ _
  unfold nearestFloat
  dsimp only
  split
  · omega
  · rw [Int.add_mul]
    omega

-- An integer is a float itself just where it is a multiple of their spacing.
theorem nearestFloat_eq_self_iff : nearestFloat n = n ↔ spacing n ∣ n := by
  constructor
  · intro h
    have hdvd := @spacing_dvd_nearestFloat n
    rwa [h] at hdvd
  · intro h
    have hpos := @spacing_pos n
    have hover : n % spacing n = 0 := Int.emod_eq_zero_of_dvd h
    unfold nearestFloat
    dsimp only
    rw [if_pos (by omega)]
    exact Int.ediv_mul_cancel h

theorem spacing_le (h : n.natAbs < 2 ^ (53 + k)) : spacing n ≤ 2 ^ k := by
  have hlog : Nat.log2 n.natAbs - 52 ≤ k := by
    by_cases hn : n.natAbs = 0
    · rw [hn]
      exact Nat.zero_le k
    · have := (Nat.log2_lt hn).mpr h
      omega
  have hpow : 2 ^ (Nat.log2 n.natAbs - 52) ≤ 2 ^ k := Nat.pow_le_pow_right (by omega) hlog
  unfold spacing
  exact_mod_cast hpow

theorem spacing_dvd_of_lt (h : m.natAbs < 2 ^ 53) : spacing (m * 2 ^ k) ∣ m * 2 ^ k := by
  by_cases hm : m = 0
  · rw [hm, Int.zero_mul]
    exact Int.dvd_zero _
  · have habs : (m * 2 ^ k).natAbs = m.natAbs * 2 ^ k := by
      rw [Int.natAbs_mul, Int.natAbs_pow]
      rfl
    have hbound : m.natAbs * 2 ^ k < 2 ^ (53 + k) := by
      rw [Nat.pow_add]
      exact (Nat.mul_lt_mul_right (Nat.two_pow_pos k)).mpr h
    have hne : m.natAbs * 2 ^ k ≠ 0 :=
      Nat.mul_ne_zero (by omega) (Nat.ne_of_gt (Nat.two_pow_pos k))
    have hlog : Nat.log2 (m.natAbs * 2 ^ k) < 53 + k := (Nat.log2_lt hne).mpr hbound
    unfold spacing
    rw [habs]
    exact Int.dvd_mul_of_dvd_right (pow_dvd_pow 2 (by omega))

theorem nearestFloat_nonneg (h : 0 ≤ n) : 0 ≤ nearestFloat n := by
  have hpos := @spacing_pos n
  have hbelow : 0 ≤ n / spacing n := Int.ediv_nonneg h (Int.le_of_lt hpos)
  unfold nearestFloat
  dsimp only
  split
  · exact Int.mul_nonneg hbelow (Int.le_of_lt hpos)
  · exact Int.mul_nonneg (by omega) (Int.le_of_lt hpos)

theorem floatOf_nonneg {float : ℤ} (hfloat : floatOf n = some float) (h : 0 ≤ n) :
    0 ≤ float := by
  unfold floatOf at hfloat
  split at hfloat
  · obtain rfl := Option.some.inj hfloat
    exact nearestFloat_nonneg h
  · exact absurd hfloat (by simp)

-- Below 2 ** 53 nothing is lost.
theorem floatOf_of_lt (h : n.natAbs < 2 ^ 53) : floatOf n = some n := by
  have hdvd := spacing_dvd_of_lt (k := 0) h
  rw [pow_zero, mul_one] at hdvd
  have hbound : n.natAbs < 2 ^ MAX_EXP :=
    h.trans_le (Nat.pow_le_pow_right (by omega) (by decide : 53 ≤ MAX_EXP))
  unfold floatOf
  rw [nearestFloat_eq_self_iff.mpr hdvd, if_pos hbound]

end BanchoPrism.Library
