import Mathlib.Data.List.Basic

namespace BanchoPrism.Library

-- A table of what a partial function has been found to give.
abbrev Memo (κ α : Type) := List (κ × α)

-- Something that is looked up, and may add to the table.
abbrev Lookup (κ α β : Type) := Memo κ α → Option β × Memo κ α

variable {κ α β : Type} [DecidableEq κ]

namespace Memo

-- The table says nothing but what the function gives.
def Sound (f : κ → Option α) (memo : Memo κ α) : Prop :=
  ∀ key a, memo.lookup key = some a → f key = some a

theorem sound_nil (f : κ → Option α) : Sound f [] := by
  intro key a h
  cases h

theorem Sound.cons {f : κ → Option α} {memo : Memo κ α} {key : κ} {a : α} (h : Sound f memo)
    (hf : f key = some a) : Sound f ((key, a) :: memo) := by
  intro other b hb
  rw [List.lookup_cons] at hb
  cases hk : other == key with
  | true =>
    rw [hk] at hb
    cases hb
    rw [eq_of_beq hk, hf]
  | false =>
    rw [hk] at hb
    exact h other b hb

end Memo

namespace Lookup

-- What the table has, or else what the function gives, which goes into the table.
def memoized (f : κ → Option α) (key : κ) : Lookup κ α α := fun memo =>
  match memo.lookup key with
  | some a => (some a, memo)
  | none =>
    match f key with
    | some a => (some a, (key, a) :: memo)
    | none => (none, memo)

def always (b : Option β) : Lookup κ α β := fun memo => (b, memo)

-- The first that finds something.
def orElse (first second : Lookup κ α β) : Lookup κ α β := fun memo =>
  match first memo with
  | (some b, memo) => (some b, memo)
  | (none, memo) => second memo

-- Something that depends on what is found.
def andThen {γ : Type} (first : Lookup κ α β) (second : Option β → Lookup κ α γ) :
    Lookup κ α γ := fun memo => second (first memo).1 (first memo).2

-- The lookup finds this whatever the table has, as long as the table is sound.
def Finds (f : κ → Option α) (lookup : Lookup κ α β) (b : Option β) : Prop :=
  ∀ memo, Memo.Sound f memo → (lookup memo).1 = b ∧ Memo.Sound f (lookup memo).2

variable {f : κ → Option α}

theorem finds_memoized (key : κ) : Finds f (memoized f key) (f key) := by
  intro memo h
  unfold memoized
  cases hmemo : memo.lookup key with
  | some a => exact ⟨(h key a hmemo).symm, h⟩
  | none =>
    cases hf : f key with
    | none => exact ⟨rfl, h⟩
    | some a => exact ⟨rfl, h.cons hf⟩

theorem finds_always (b : Option β) : Finds f (always b) b := fun _ h => ⟨rfl, h⟩

theorem Finds.orElse {first second : Lookup κ α β} {b c : Option β} (hfirst : Finds f first b)
    (hsecond : Finds f second c) : Finds f (first.orElse second) (b.or c) := by
  intro memo h
  obtain ⟨hb, hmemo⟩ := hfirst memo h
  unfold Lookup.orElse
  cases hrun : first memo with
  | mk found memo' =>
    rw [hrun] at hb hmemo
    subst hb
    cases found with
    | some b => exact ⟨rfl, hmemo⟩
    | none => exact hsecond memo' hmemo

theorem Finds.andThen {γ : Type} {first : Lookup κ α β} {second : Option β → Lookup κ α γ}
    {b : Option β} {c : Option γ} (hfirst : Finds f first b) (hsecond : Finds f (second b) c) :
    Finds f (first.andThen second) c := by
  intro memo h
  obtain ⟨rfl, hmemo⟩ := hfirst memo h
  exact hsecond _ hmemo

end Lookup

end BanchoPrism.Library
