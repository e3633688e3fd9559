import Mathlib.Logic.ExistsUnique
import Mathlib.Logic.Function.Basic

namespace BanchoPrism.Library

open Function

-- Guests and the seats of rooms, each side remembering the other.
@[ext]
structure Seating (Guest Room Seat : Type) where
  place : Guest → Option Room
  seat : Room → Seat → Option Guest

namespace Seating

variable {Guest Room Seat : Type}

-- Both sides tell the same story: a guest is at a room exactly when one seat
-- of that room holds the guest.
structure Agrees (hall : Seating Guest Room Seat) : Prop where
  seated : ∀ {r i g}, hall.seat r i = some g → hall.place g = some r
  unique : ∀ {r i j g}, hall.seat r i = some g → hall.seat r j = some g → i = j
  present : ∀ {r g}, hall.place g = some r → ∃ i, hall.seat r i = some g

theorem Agrees.place_iff_existsUnique {hall : Seating Guest Room Seat} (ha : hall.Agrees)
    (g : Guest) (r : Room) : hall.place g = some r ↔ ∃! i, hall.seat r i = some g := by
  constructor
  · intro hp
    obtain ⟨i, hi⟩ := ha.present hp
    exact ⟨i, hi, fun j hj => ha.unique hj hi⟩
  · rintro ⟨i, hi, -⟩
    exact ha.seated hi

theorem Agrees.seat_eq_none {hall : Seating Guest Room Seat} (ha : hall.Agrees) {r : Room}
    (hr : ∀ g, hall.place g ≠ some r) (i : Seat) : hall.seat r i = none := by
  cases h : hall.seat r i with
  | none => rfl
  | some g => exact absurd (ha.seated h) (hr g)

-- A seat is only ever vacated or kept, never handed from one guest to another.
def Kept (before after : Seating Guest Room Seat) : Prop :=
  ∀ r i g, before.seat r i = some g → after.seat r i = some g ∨ after.seat r i = none

theorem Kept.of_seat_eq {before after : Seating Guest Room Seat}
    (h : ∀ r i, after.seat r i = before.seat r i) : Kept before after :=
  fun r i _ hg => .inl ((h r i).trans hg)

section SetSeat

variable [DecidableEq Room] [DecidableEq Seat]

def setSeat (hall : Seating Guest Room Seat) (r : Room) (i : Seat) (occupant : Option Guest) :
    Seating Guest Room Seat :=
  { hall with seat := update hall.seat r (update (hall.seat r) i occupant) }

@[simp] theorem setSeat_place (hall : Seating Guest Room Seat) (r : Room) (i : Seat)
    (occupant : Option Guest) : (hall.setSeat r i occupant).place = hall.place := rfl

theorem setSeat_seat (hall : Seating Guest Room Seat) (r r' : Room) (i i' : Seat)
    (occupant : Option Guest) :
    (hall.setSeat r i occupant).seat r' i' =
      if r' = r ∧ i' = i then occupant else hall.seat r' i' := by
  by_cases hr : r' = r
  · subst hr
    simp [setSeat, update_apply]
  · simp [setSeat, hr]

-- The guest in seat i of r moves to seat j of r.
def move (hall : Seating Guest Room Seat) (r : Room) (i j : Seat) : Seating Guest Room Seat :=
  (hall.setSeat r j (hall.seat r i)).setSeat r i none

theorem move_seat (hall : Seating Guest Room Seat) (r r' : Room) (i j k : Seat) :
    (hall.move r i j).seat r' k =
      if r' = r ∧ k = i then none
      else if r' = r ∧ k = j then hall.seat r i else hall.seat r' k := by
  simp only [move, setSeat_seat]

theorem Agrees.move {hall : Seating Guest Room Seat} (ha : hall.Agrees) {g : Guest} {r : Room}
    {i j : Seat} (hi : hall.seat r i = some g) (hj : hall.seat r j = none) :
    (hall.move r i j).Agrees := by
  have hij : j ≠ i := by
    rintro rfl
    simp [hi] at hj
  constructor
  · intro r' k g' h
    rw [move_seat] at h
    split at h
    · simp at h
    · split at h
      · rename_i hrk
        obtain ⟨rfl, -⟩ := hrk
        exact ha.seated h
      · exact ha.seated h
  · intro r' k l g' h h'
    rw [move_seat] at h h'
    split at h
    · simp at h
    · split at h' <;> rename_i hk hl
      · simp at h'
      · split at h <;> split at h' <;> rename_i hkj hlj
        · exact hkj.2.trans hlj.2.symm
        · exact absurd ⟨hkj.1, ha.unique h' (hkj.1 ▸ h)⟩ hl
        · exact absurd ⟨hlj.1, ha.unique h (hlj.1 ▸ h')⟩ hk
        · exact ha.unique h h'
  · intro r' g' h
    obtain ⟨k, hk⟩ := ha.present h
    by_cases hri : r' = r ∧ k = i
    · obtain ⟨rfl, rfl⟩ := hri
      exact ⟨j, by simp [move_seat, hij, hk]⟩
    · refine ⟨k, ?_⟩
      have hrj : ¬(r' = r ∧ k = j) := by
        rintro ⟨rfl, rfl⟩
        simp [hk] at hj
      simp [move_seat, hri, hrj, hk]

theorem Kept.move {hall : Seating Guest Room Seat} {r : Room} (i : Seat) {j : Seat}
    (hj : hall.seat r j = none) : Kept hall (hall.move r i j) := by
  intro r' k g h
  rw [move_seat]
  have hrj : ¬(r' = r ∧ k = j) := by
    rintro ⟨rfl, rfl⟩
    simp [h] at hj
  by_cases hri : r' = r ∧ k = i
  · exact .inr (if_pos hri)
  · exact .inl (by simpa only [hri, hrj, if_false] using h)

end SetSeat

section SetPlace

variable [DecidableEq Guest]

def setPlace (hall : Seating Guest Room Seat) (g : Guest) (room : Option Room) :
    Seating Guest Room Seat :=
  { hall with place := update hall.place g room }

@[simp] theorem setPlace_seat (hall : Seating Guest Room Seat) (g : Guest)
    (room : Option Room) : (hall.setPlace g room).seat = hall.seat := rfl

theorem setPlace_place (hall : Seating Guest Room Seat) (g g' : Guest) (room : Option Room) :
    (hall.setPlace g room).place g' = if g' = g then room else hall.place g' := by
  simp [setPlace, update_apply]

end SetPlace

section EnterLeave

variable [DecidableEq Guest] [DecidableEq Room] [DecidableEq Seat]

def enter (hall : Seating Guest Room Seat) (g : Guest) (r : Room) (i : Seat) :
    Seating Guest Room Seat :=
  (hall.setSeat r i (some g)).setPlace g (some r)

def leave (hall : Seating Guest Room Seat) (g : Guest) (r : Room) (i : Seat) :
    Seating Guest Room Seat :=
  (hall.setSeat r i none).setPlace g none

theorem Agrees.enter {hall : Seating Guest Room Seat} (ha : hall.Agrees) {g : Guest} {r : Room}
    {i : Seat} (hg : hall.place g = none) (hi : hall.seat r i = none) :
    (hall.enter g r i).Agrees := by
  have hno : ∀ r' i', hall.seat r' i' ≠ some g := by
    intro r' i' h
    simp [ha.seated h] at hg
  constructor
  · intro r' i' g' h
    simp only [Seating.enter, setPlace_seat, setSeat_seat, setPlace_place, setSeat_place] at h ⊢
    split at h
    · rename_i hri
      simp_all
    · have hne : g' ≠ g := fun he => hno r' i' (he ▸ h)
      simp only [hne, if_false]
      exact ha.seated h
  · intro r' i' j' g' h h'
    simp only [Seating.enter, setPlace_seat, setSeat_seat] at h h'
    split at h <;> split at h'
    · simp_all
    · simp_all
    · simp_all
    · exact ha.unique h h'
  · intro r' g' h
    simp only [Seating.enter, setPlace_seat, setSeat_seat, setPlace_place, setSeat_place] at h ⊢
    split at h
    · obtain rfl : r = r' := by simpa using h
      exact ⟨i, by simp_all⟩
    · obtain ⟨i', hi'⟩ := ha.present h
      refine ⟨i', ?_⟩
      have hne : ¬(r' = r ∧ i' = i) := by
        rintro ⟨rfl, rfl⟩
        simp [hi'] at hi
      simpa only [hne, if_false] using hi'

theorem Agrees.leave {hall : Seating Guest Room Seat} (ha : hall.Agrees) {g : Guest} {r : Room}
    {i : Seat} (hi : hall.seat r i = some g) : (hall.leave g r i).Agrees := by
  constructor
  · intro r' i' g' h
    simp only [Seating.leave, setPlace_seat, setSeat_seat, setPlace_place, setSeat_place] at h ⊢
    split at h
    · simp at h
    · rename_i hri
      have hne : g' ≠ g := by
        rintro rfl
        have hr : r' = r := by simpa [ha.seated hi] using (ha.seated h).symm
        exact hri ⟨hr, by subst hr; exact ha.unique h hi⟩
      simp only [hne, if_false]
      exact ha.seated h
  · intro r' i' j' g' h h'
    simp only [Seating.leave, setPlace_seat, setSeat_seat] at h h'
    split at h <;> split at h'
    · simp at h
    · simp at h
    · simp at h'
    · exact ha.unique h h'
  · intro r' g' h
    simp only [Seating.leave, setPlace_seat, setSeat_seat, setPlace_place, setSeat_place] at h ⊢
    split at h
    · simp at h
    · rename_i hne
      obtain ⟨i', hi'⟩ := ha.present h
      refine ⟨i', ?_⟩
      have hri : ¬(r' = r ∧ i' = i) := by
        rintro ⟨rfl, rfl⟩
        exact hne (by simpa [hi] using hi'.symm)
      simpa only [hri, if_false] using hi'

theorem Kept.enter {hall : Seating Guest Room Seat} (g : Guest) {r : Room} {i : Seat}
    (hi : hall.seat r i = none) : Kept hall (hall.enter g r i) := by
  intro r' i' g' h
  left
  have hne : ¬(r' = r ∧ i' = i) := by
    rintro ⟨rfl, rfl⟩
    simp [h] at hi
  simpa [Seating.enter, setSeat_seat, hne] using h

theorem Kept.leave (hall : Seating Guest Room Seat) (g : Guest) (r : Room) (i : Seat) :
    Kept hall (hall.leave g r i) := by
  intro r' i' g' h
  by_cases hri : r' = r ∧ i' = i
  · exact .inr (by simp [Seating.leave, setSeat_seat, hri])
  · exact .inl (by simpa [Seating.leave, setSeat_seat, hri] using h)

end EnterLeave

end Seating

end BanchoPrism.Library
