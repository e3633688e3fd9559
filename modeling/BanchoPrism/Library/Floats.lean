import Mathlib.Data.Int.Log
import Mathlib.Data.Rat.Floor
import Mathlib.Algebra.Order.Field.Power
import Mathlib.Tactic.Linarith
import Mathlib.Tactic.Positivity
import Mathlib.Tactic.FieldSimp
import Mathlib.Tactic.NormNum

namespace BanchoPrism.Library

-- A float of 64 bits, as float() reads it, without the sign of a zero.
inductive Number
  | finite (q : ℚ)
  | infinite (negative : Bool)
  | nan
  deriving DecidableEq

-- The integer that is nearest, and of two that are as near the even one.
def roundEven (q : ℚ) : ℤ :=
  if q - ⌊q⌋ < 1 / 2 ∨ q - ⌊q⌋ = 1 / 2 ∧ ⌊q⌋ % 2 = 0 then ⌊q⌋ else ⌊q⌋ + 1

-- The exponent of the last of 53 significant bits, as far down as there are subnormals.
def exponentOf (q : ℚ) : ℤ := max (Int.log 2 |q| - 52) (-1074)

-- The float that is nearest, were there no largest one.
def nearest (q : ℚ) : ℚ := roundEven (q / 2 ^ exponentOf q) * 2 ^ exponentOf q

-- The same for floats of 32 bits, which have 24 significant ones.
def singleExponentOf (q : ℚ) : ℤ := max (Int.log 2 |q| - 23) (-149)

def nearestSingle (q : ℚ) : ℚ := roundEven (q / 2 ^ singleExponentOf q) * 2 ^ singleExponentOf q

namespace Number

def ofRat (q : ℚ) : Number :=
  if |nearest q| < 2 ^ 1024 then .finite (nearest q) else .infinite (q < 0)

def lt : Number → Number → Bool
  | .finite p, .finite q => p < q
  | .infinite negative, .finite _ => negative
  | .finite _, .infinite negative => !negative
  | .infinite negative, .infinite other => negative && !other
  | _, _ => false

-- max(a, b)
def max (a b : Number) : Number := if a.lt b then b else a

-- min(a, b)
def min (a b : Number) : Number := if b.lt a then b else a

def add : Number → Number → Number
  | .finite p, .finite q => ofRat (p + q)
  | .infinite negative, .finite _ => .infinite negative
  | .finite _, .infinite negative => .infinite negative
  | .infinite negative, .infinite other =>
      if negative = other then .infinite negative else .nan
  | _, _ => .nan

def neg : Number → Number
  | .finite q => .finite (-q)
  | .infinite negative => .infinite !negative
  | .nan => .nan

def sub (a b : Number) : Number := a.add b.neg

-- none: a ZeroDivisionError
def div : Number → Number → Option Number
  | _, .finite 0 => none
  | .finite p, .finite q => some (ofRat (p / q))
  | .infinite negative, .finite q => some (.infinite (negative ^^ decide (q < 0)))
  | .finite _, .infinite _ => some (.finite 0)
  | _, _ => some .nan

-- round(x, 2)
def roundCents : Number → Number
  | .finite q => ofRat (roundEven (100 * q) / 100)
  | other => other

-- math.ceil: an OverflowError or a ValueError where it is none.
def ceil : Number → Option ℤ
  | .finite q => some ⌈q⌉
  | _ => none

end Number

section Rounding

variable {p q : ℚ} {n : ℤ}

theorem floor_le_roundEven (q : ℚ) : ⌊q⌋ ≤ roundEven q := by
  unfold roundEven
  split <;> omega

theorem roundEven_le_floor (q : ℚ) : roundEven q ≤ ⌊q⌋ + 1 := by
  unfold roundEven
  split <;> omega

theorem abs_roundEven_sub_le (q : ℚ) : |roundEven q - q| ≤ 1 / 2 := by
  have hfloor := Int.floor_le q
  have hlt := Int.lt_floor_add_one q
  unfold roundEven
  rw [abs_le]
  split
  case isTrue h =>
    have hlow : q - ⌊q⌋ ≤ 1 / 2 := h.elim le_of_lt fun htie => htie.1.le
    constructor <;> linarith
  case isFalse h =>
    have hhigh : 1 / 2 ≤ q - ⌊q⌋ := not_lt.mp (not_or.mp h).1
    push_cast
    constructor <;> linarith

theorem roundEven_mono (h : p ≤ q) : roundEven p ≤ roundEven q := by
  rcases lt_or_eq_of_le (Int.floor_le_floor h) with hlt | heq
  · calc roundEven p ≤ ⌊p⌋ + 1 := roundEven_le_floor p
      _ ≤ ⌊q⌋ := hlt
      _ ≤ roundEven q := floor_le_roundEven q
  · unfold roundEven
    rw [heq]
    split
    case isTrue => split <;> omega
    case isFalse hup =>
      rw [if_neg]
      rintro (hlow | ⟨htie, heven⟩)
      · apply hup
        left
        linarith
      · apply hup
        rcases lt_or_eq_of_le h with hless | rfl
        · left
          linarith
        · exact Or.inr ⟨htie, heven⟩

@[simp] theorem roundEven_intCast (n : ℤ) : roundEven (n : ℚ) = n := by
  unfold roundEven
  rw [Int.floor_intCast, sub_self, if_pos (Or.inl (by norm_num))]

-- What is rounded to no more than an odd integer is below the half behind it.
theorem roundEven_le_iff (hodd : n % 2 = 1) : roundEven q ≤ n ↔ q < n + 1 / 2 := by
  have hfloor := Int.floor_le q
  have hlt := Int.lt_floor_add_one q
  constructor
  · intro h
    by_contra hge
    rw [not_lt] at hge
    have hn : n ≤ ⌊q⌋ := by
      rw [Int.le_floor]
      linarith
    rcases lt_or_eq_of_le hn with hless | rfl
    · have := floor_le_roundEven q
      omega
    · unfold roundEven at h
      rw [if_neg] at h
      · omega
      · rintro (hlow | ⟨-, heven⟩)
        · linarith
        · omega
  · intro h
    have hn : ⌊q⌋ ≤ n := by
      have hle : ((⌊q⌋ : ℤ) : ℚ) < (n : ℚ) + 1 := by linarith
      have hlt' : ⌊q⌋ < n + 1 := by exact_mod_cast hle
      omega
    rcases lt_or_eq_of_le hn with hless | heq
    · have := roundEven_le_floor q
      omega
    · unfold roundEven
      rw [heq, if_pos (Or.inl (by linarith))]

end Rounding

section Nearest

variable {p q : ℚ} {e n : ℤ}

theorem two_zpow_pos (e : ℤ) : (0 : ℚ) < 2 ^ e := by positivity

-- What is below a power of two is rounded to no more than it.
theorem nearest_le (hq : 0 < q) : nearest q ≤ 2 ^ (53 + exponentOf q) := by
  have hlog : q < 2 ^ (53 + exponentOf q) := by
    have hlt := Int.lt_zpow_succ_log_self (R := ℚ) (b := 2) (by omega) q
    have habs : |q| = q := abs_of_pos hq
    have hle : Int.log 2 q + 1 ≤ 53 + exponentOf q := by
      unfold exponentOf
      rw [habs]
      omega
    exact lt_of_lt_of_le hlt (zpow_le_zpow_right₀ (by norm_num) hle)
  have hscaled : q / 2 ^ exponentOf q ≤ ((2 ^ 53 : ℤ) : ℚ) := by
    rw [div_le_iff₀ (two_zpow_pos _)]
    have hpow : (2 : ℚ) ^ (53 + exponentOf q) = 2 ^ (53 : ℤ) * 2 ^ exponentOf q :=
      zpow_add₀ (by norm_num) _ _
    rw [hpow] at hlog
    push_cast
    exact_mod_cast hlog.le
  have hround := roundEven_mono hscaled
  rw [roundEven_intCast] at hround
  have hcast : (roundEven (q / 2 ^ exponentOf q) : ℚ) ≤ 2 ^ (53 : ℤ) := by exact_mod_cast hround
  unfold nearest
  rw [zpow_add₀ (by norm_num)]
  exact mul_le_mul_of_nonneg_right hcast (two_zpow_pos _).le

theorem exponentOf_eq (hq : 0 < q) : exponentOf q = max (Int.log 2 q - 52) (-1074) := by
  unfold exponentOf
  rw [abs_of_pos hq]

theorem le_nearest (hq : 0 < q) (hnormal : -1074 < exponentOf q) :
    2 ^ (52 + exponentOf q) ≤ nearest q := by
  have hexponent : 52 + exponentOf q = Int.log 2 q := by
    rw [exponentOf_eq hq] at hnormal ⊢
    omega
  have hlog := Int.zpow_log_le_self (R := ℚ) (b := 2) (by omega) hq
  have hscaled : ((2 ^ 52 : ℤ) : ℚ) ≤ q / 2 ^ exponentOf q := by
    rw [le_div_iff₀ (two_zpow_pos _)]
    have hpow : (2 : ℚ) ^ (52 + exponentOf q) = 2 ^ (52 : ℤ) * 2 ^ exponentOf q :=
      zpow_add₀ (by norm_num) _ _
    rw [hexponent] at hpow
    push_cast at hlog ⊢
    rw [hpow] at hlog
    exact_mod_cast hlog
  have hround := roundEven_mono hscaled
  rw [roundEven_intCast] at hround
  have hcast : (2 : ℚ) ^ (52 : ℤ) ≤ roundEven (q / 2 ^ exponentOf q) := by exact_mod_cast hround
  unfold nearest
  rw [zpow_add₀ (by norm_num)]
  exact mul_le_mul_of_nonneg_right hcast (two_zpow_pos _).le

-- Of two positive numbers the greater one has no smaller float.
theorem nearest_mono (hp : 0 < p) (h : p ≤ q) : nearest p ≤ nearest q := by
  have hq : 0 < q := lt_of_lt_of_le hp h
  have hexponent : exponentOf p ≤ exponentOf q := by
    have hlog := Int.log_mono_right (b := 2) hp h
    rw [exponentOf_eq hp, exponentOf_eq hq]
    omega
  rcases lt_or_eq_of_le hexponent with hlt | heq
  · have hnormal : -1074 < exponentOf q := by
      have hlow : -1074 ≤ exponentOf p := le_max_right _ _
      omega
    calc nearest p ≤ 2 ^ (53 + exponentOf p) := nearest_le hp
      _ ≤ 2 ^ (52 + exponentOf q) := zpow_le_zpow_right₀ (by norm_num) (by omega)
      _ ≤ nearest q := le_nearest hq hnormal
  · unfold nearest
    rw [heq]
    have hdiv : p / 2 ^ exponentOf q ≤ q / 2 ^ exponentOf q :=
      div_le_div_of_nonneg_right h (two_zpow_pos _).le
    have hround : (roundEven (p / 2 ^ exponentOf q) : ℚ) ≤ roundEven (q / 2 ^ exponentOf q) := by
      exact_mod_cast roundEven_mono hdiv
    exact mul_le_mul_of_nonneg_right hround (two_zpow_pos _).le

theorem nearest_zero : nearest 0 = 0 := by
  unfold nearest
  rw [zero_div]
  have hzero : roundEven 0 = 0 := by exact_mod_cast roundEven_intCast 0
  rw [hzero]
  simp

theorem nearest_nonneg (hq : 0 ≤ q) : 0 ≤ nearest q := by
  have hround := roundEven_mono (div_nonneg hq (two_zpow_pos (exponentOf q)).le)
  have hzero : roundEven 0 = 0 := by exact_mod_cast roundEven_intCast 0
  rw [hzero] at hround
  unfold nearest
  exact mul_nonneg (by exact_mod_cast hround) (two_zpow_pos _).le

end Nearest

namespace Number

variable {a b c : Number} {p q : ℚ}

theorem ofRat_eq_finite {x : ℚ} : ofRat q = .finite x ↔ |nearest q| < 2 ^ 1024 ∧ nearest q = x := by
  unfold ofRat
  split
  case isTrue h => simp [h]
  case isFalse h => simp [h]

-- A sum of money has two places and ten digits before them where it is below the half cent.
theorem roundCents_lt_iff (hq : 0 ≤ q) :
    (∃ x, roundCents (.finite q) = .finite x ∧ 0 ≤ x ∧ x < 10 ^ 10) ↔ q < 9999999999.995 := by
  have hodd : (10 ^ 12 - 1 : ℤ) % 2 = 1 := by norm_num
  have hle : roundEven (100 * q) ≤ 10 ^ 12 - 1 ↔ q < 9999999999.995 := by
    rw [roundEven_le_iff hodd]
    push_cast
    constructor
    · intro h
      linarith
    · intro h
      linarith
  have hnonneg : 0 ≤ roundEven (100 * q) := by
    have hround := roundEven_mono (p := 0) (q := 100 * q) (by linarith)
    have hzero : roundEven 0 = 0 := by exact_mod_cast roundEven_intCast 0
    rwa [hzero] at hround
  have hcast : (0 : ℚ) ≤ roundEven (100 * q) := by exact_mod_cast hnonneg
  have hcents : (0 : ℚ) ≤ roundEven (100 * q) / 100 := by linarith
  rw [← hle]
  unfold roundCents
  constructor
  · rintro ⟨x, hx, -, hlt⟩
    obtain ⟨-, rfl⟩ := ofRat_eq_finite.mp hx
    by_contra hgt
    have hbig : (10 ^ 12 : ℤ) ≤ roundEven (100 * q) := by omega
    have hbig' : (10 ^ 12 : ℚ) ≤ roundEven (100 * q) := by exact_mod_cast hbig
    have hmono := nearest_mono (p := 10 ^ 10) (q := roundEven (100 * q) / 100)
      (by norm_num) (by linarith)
    have hself : nearest (10 ^ 10) = 10 ^ 10 := by decide +kernel
    rw [hself] at hmono
    exact absurd hlt (not_lt.mpr hmono)
  · intro h
    have hsmall : (roundEven (100 * q) : ℚ) ≤ 10 ^ 12 - 1 := by exact_mod_cast h
    have hlt : nearest (roundEven (100 * q) / 100) < 10 ^ 10 := by
      rcases lt_or_eq_of_le hcents with hpos | hzero
      · have hmono := nearest_mono (q := 9999999999.99) hpos (by linarith)
        have hmax : nearest 9999999999.99 < 10 ^ 10 := by decide +kernel
        linarith
      · rw [← hzero, nearest_zero]
        norm_num
    refine ⟨_, ofRat_eq_finite.mpr ⟨?_, rfl⟩, nearest_nonneg hcents, hlt⟩
    rw [abs_of_nonneg (nearest_nonneg hcents)]
    calc nearest (roundEven (100 * q) / 100) < 10 ^ 10 := hlt
      _ ≤ 2 ^ 34 := by norm_num
      _ ≤ 2 ^ 1024 := pow_le_pow_right₀ (by norm_num) (by omega)

section Extremes

variable {numbers : List Number} {x y z : ℚ}

theorem lt_irrefl (a : Number) : lt a a = false := by
  cases a with
  | finite q => simp [lt]
  | infinite negative => cases negative <;> rfl
  | nan => rfl

theorem lt_trans {a b c : Number} (hab : a.lt b) (hbc : b.lt c) : a.lt c := by
  cases a <;> cases b <;> cases c <;> simp_all [lt]
  linarith

-- Two of which neither is less are the same, unless one is no number.
theorem eq_of_not_lt {a b : Number} (ha : a ≠ .nan) (hb : b ≠ .nan) (hab : a.lt b = false)
    (hba : b.lt a = false) : a = b := by
  cases a with
  | finite p =>
    cases b with
    | finite q =>
      rw [le_antisymm (not_lt.mp (of_decide_eq_false hba)) (not_lt.mp (of_decide_eq_false hab))]
    | infinite negative => cases negative <;> simp_all [lt]
    | nan => exact absurd rfl hb
  | infinite negative =>
    cases b with
    | finite q => cases negative <;> simp_all [lt]
    | infinite other => cases negative <;> cases other <;> simp_all [lt]
    | nan => exact absurd rfl hb
  | nan => exact absurd rfl ha

theorem infinite_lt (b : Number) : lt (.infinite false) b = false := by
  cases b with
  | finite q => rfl
  | infinite negative => cases negative <;> rfl
  | nan => rfl

theorem max_infinite (b : Number) : max (.infinite false) b = .infinite false := by
  unfold max
  rw [infinite_lt, if_neg Bool.false_ne_true]

-- The greatest of the numbers, of which those that are none do not count.
theorem foldl_max (h : .infinite false ∉ numbers) (z : ℚ) :
    ∃ x, numbers.foldl max (.finite z) = .finite x ∧
      IsGreatest {q | .finite q ∈ .finite z :: numbers} x := by
  induction numbers generalizing z with
  | nil =>
    refine ⟨z, rfl, by simp, ?_⟩
    intro q hq
    simp only [Set.mem_ofPred_eq, List.mem_singleton, Number.finite.injEq] at hq
    exact hq.le
  | cons number rest ih =>
    simp only [List.mem_cons, not_or] at h
    have hskip (hmax : max (.finite z) number = .finite z)
        (hnumber : ∀ q, number = .finite q → q ≤ z) :
        ∃ x, (number :: rest).foldl max (.finite z) = .finite x ∧
          IsGreatest {q | .finite q ∈ .finite z :: number :: rest} x := by
      obtain ⟨x, hx, hmem, hgreatest⟩ := ih h.2 z
      refine ⟨x, by rw [List.foldl_cons, hmax, hx], ?_, ?_⟩
      · simp only [Set.mem_ofPred_eq, List.mem_cons] at hmem ⊢
        tauto
      · intro q hq
        simp only [Set.mem_ofPred_eq, List.mem_cons] at hq
        rcases hq with hz | hnumber' | hrest
        · exact hgreatest (by rw [Set.mem_ofPred_eq, hz]; exact List.mem_cons_self)
        · exact (hnumber q hnumber'.symm).trans (hgreatest (by simp))
        · exact hgreatest (by simp [hrest])
    cases number with
    | nan => exact hskip rfl (by simp)
    | infinite negative =>
      cases negative with
      | true => exact hskip rfl (by simp)
      | false => exact absurd rfl h.1
    | finite q =>
      by_cases hlt : z < q
      · have hmax : max (.finite z) (.finite q) = .finite q := by simp [max, lt, hlt]
        obtain ⟨x, hx, hmem, hgreatest⟩ := ih h.2 q
        refine ⟨x, by rw [List.foldl_cons, hmax, hx], ?_, ?_⟩
        · simp only [Set.mem_ofPred_eq, List.mem_cons] at hmem ⊢
          tauto
        · intro p hp
          simp only [Set.mem_ofPred_eq, List.mem_cons, Number.finite.injEq] at hp
          rcases hp with rfl | rfl | hrest
          · exact hlt.le.trans (hgreatest (by simp))
          · exact hgreatest (by simp)
          · exact hgreatest (by simp [hrest])
      · apply hskip
        · simp [max, lt, hlt]
        · rintro p hp
          cases hp
          exact not_lt.mp hlt

theorem max_ne_nan {a b : Number} (ha : a ≠ .nan) : max a b ≠ .nan := by
  unfold max
  split
  case isTrue hlt =>
    rintro rfl
    cases a <;> simp [lt] at hlt
  case isFalse => exact ha

theorem foldl_max_of_mem {a : Number} (ha : a ≠ .nan) (h : .infinite false ∈ a :: numbers) :
    numbers.foldl max a = .infinite false := by
  induction numbers generalizing a with
  | nil => exact (List.mem_singleton.mp h).symm
  | cons number rest ih =>
    rw [List.foldl_cons]
    apply ih (max_ne_nan ha)
    rcases List.mem_cons.mp h with rfl | hmem
    · rw [max_infinite]
      exact List.mem_cons_self
    · rcases List.mem_cons.mp hmem with rfl | hrest
      · have hmax : max a (.infinite false) = .infinite false := by
          cases a with
          | finite q => rfl
          | infinite negative => cases negative <;> rfl
          | nan => exact absurd rfl ha
        rw [hmax]
        exact List.mem_cons_self
      · exact List.mem_cons_of_mem _ hrest

theorem neg_neg_eq (a : Number) : a.neg.neg = a := by
  cases a with
  | finite q => exact congrArg Number.finite (neg_neg q)
  | infinite negative => cases negative <;> rfl
  | nan => rfl

theorem lt_neg (a b : Number) : a.neg.lt b.neg = b.lt a := by
  cases a <;> cases b <;> simp [neg, lt]
  exact Bool.and_comm _ _

theorem min_eq_neg_max (a b : Number) : min a b = (max a.neg b.neg).neg := by
  unfold min max
  rw [lt_neg]
  split
  · exact (neg_neg_eq b).symm
  · exact (neg_neg_eq a).symm

theorem foldl_min_eq (a : Number) (numbers : List Number) :
    numbers.foldl min a = ((numbers.map neg).foldl max a.neg).neg := by
  induction numbers generalizing a with
  | nil => exact (neg_neg_eq a).symm
  | cons number rest ih =>
    rw [List.foldl_cons, ih, List.map_cons, List.foldl_cons, min_eq_neg_max, neg_neg_eq]

theorem mem_map_neg {a : Number} : a ∈ numbers.map neg ↔ a.neg ∈ numbers := by
  constructor
  · intro h
    obtain ⟨b, hb, rfl⟩ := List.mem_map.mp h
    rwa [neg_neg_eq]
  · intro h
    have hmem := List.mem_map_of_mem (f := neg) h
    rwa [neg_neg_eq] at hmem

-- The least of the numbers, of which those that are none do not count.
theorem foldl_min (h : .infinite true ∉ numbers) (z : ℚ) :
    ∃ x, numbers.foldl min (.finite z) = .finite x ∧
      IsLeast {q | .finite q ∈ .finite z :: numbers} x := by
  have hneg : .infinite false ∉ numbers.map neg := by
    rw [mem_map_neg]
    exact h
  obtain ⟨x, hx, hmem, hgreatest⟩ := foldl_max hneg (-z)
  have hmem_iff (q : ℚ) : .finite q ∈ .finite (-z) :: numbers.map neg ↔
      .finite (-q) ∈ .finite z :: numbers := by
    have hcons : Number.finite (-z) :: numbers.map neg = (.finite z :: numbers).map neg := rfl
    rw [hcons, mem_map_neg]
    rfl
  refine ⟨-x, ?_, (hmem_iff x).mp hmem, ?_⟩
  · rw [foldl_min_eq]
    exact congrArg neg hx
  · intro q hq
    have hle := hgreatest ((hmem_iff (-q)).mpr (by simpa using hq))
    linarith

theorem foldl_min_of_mem {a : Number} (ha : a ≠ .nan) (h : .infinite true ∈ a :: numbers) :
    numbers.foldl min a = .infinite true := by
  have hneg : (numbers.map neg).foldl max a.neg = .infinite false := by
    apply foldl_max_of_mem
    · cases a <;> simp_all [neg]
    · have hcons : a.neg :: numbers.map neg = (a :: numbers).map neg := rfl
      rw [hcons, mem_map_neg]
      exact h
  rw [foldl_min_eq, hneg]
  rfl

theorem foldl_min_nan (numbers : List Number) : numbers.foldl min .nan = .nan := by
  induction numbers with
  | nil => rfl
  | cons number rest ih =>
    have hmin : min .nan number = .nan := by
      cases number <;> rfl
    rw [List.foldl_cons, hmin, ih]

end Extremes

end Number

end BanchoPrism.Library
