import Mathlib.Data.List.Nodup

namespace BanchoPrism.Library

-- A signal that is low before it starts.
namespace Signal

variable (signal : ℕ → Bool)

def before : ℕ → Bool
  | 0 => false
  | k + 1 => signal k

def rises (k : ℕ) : Bool := signal k && !before signal k

def falls (k : ℕ) : Bool := !signal k && before signal k

-- The latest rise before an index.
def lastRise : ℕ → Option ℕ
  | 0 => none
  | k + 1 => if rises signal k then some k else lastRise k

variable {signal} {i k : ℕ}

@[simp] theorem before_zero : before signal 0 = false := rfl

@[simp] theorem before_succ : before signal (k + 1) = signal k := rfl

theorem lastRise_isSome (h : before signal k) : (lastRise signal k).isSome := by
  induction k with
  | zero => cases h
  | succ k ih =>
    rw [lastRise]
    split
    · rfl
    · rename_i hrise
      have hk : signal k = true := h
      refine ih ?_
      simpa [rises, hk] using hrise

-- A signal that is high has been so since its latest rise.
theorem lastRise_iff (h : before signal k) :
    lastRise signal k = some i ↔
      i < k ∧ rises signal i ∧ ∀ j, i ≤ j → j < k → signal j = true := by
  induction k with
  | zero => cases h
  | succ k ih =>
    have hk : signal k = true := h
    rw [lastRise]
    split
    · rename_i hrise
      rw [Option.some.injEq]
      constructor
      · rintro rfl
        refine ⟨Nat.lt_succ_self k, hrise, fun j hle hlt => ?_⟩
        rwa [Nat.le_antisymm (Nat.le_of_lt_succ hlt) hle]
      · rintro ⟨hlt, -, hhigh⟩
        rcases Nat.lt_succ_iff_lt_or_eq.mp hlt with hik | rfl
        · obtain ⟨k, rfl⟩ : ∃ m, k = m + 1 := ⟨k - 1, by omega⟩
          have hlast := hhigh k (Nat.le_of_lt_succ hik) (by omega)
          simp [rises, before, hlast] at hrise
        · rfl
    · rename_i hrise
      have hbefore : before signal k = true := by simpa [rises, hk] using hrise
      rw [ih hbefore]
      constructor
      · rintro ⟨hlt, hi, hhigh⟩
        refine ⟨Nat.lt_succ_of_lt hlt, hi, fun j hle hj => ?_⟩
        rcases Nat.lt_succ_iff_lt_or_eq.mp hj with hj | rfl
        · exact hhigh j hle hj
        · exact hk
      · rintro ⟨hlt, hi, hhigh⟩
        refine ⟨?_, hi, fun j hle hj => hhigh j hle (Nat.lt_succ_of_lt hj)⟩
        rcases Nat.lt_succ_iff_lt_or_eq.mp hlt with hik | rfl
        · exact hik
        · exact absurd hi hrise

-- Over several signals, what rises is what falls together with what is high in the end.
theorem countP_rises {α : Type} (signals : α → ℕ → Bool) (channels : List α) (k : ℕ) :
    channels.countP (fun c => before (signals c) k) +
        channels.countP (fun c => rises (signals c) k) =
      channels.countP (fun c => falls (signals c) k) +
        channels.countP (fun c => before (signals c) (k + 1)) := by
  induction channels with
  | nil => rfl
  | cons c rest ih =>
    simp only [List.countP_cons]
    have hc : (if before (signals c) k then 1 else 0) + (if rises (signals c) k then 1 else 0) =
        (if falls (signals c) k then 1 else 0) + if before (signals c) (k + 1) then 1 else 0 := by
      have hnext : before (signals c) (k + 1) = signals c k := rfl
      rw [hnext, rises, falls]
      cases before (signals c) k <;> cases signals c k <;> rfl
    omega

end Signal

end BanchoPrism.Library
