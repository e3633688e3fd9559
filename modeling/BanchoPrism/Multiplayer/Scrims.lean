import BanchoPrism.Multiplayer.Commands
import Mathlib.Logic.Relation

namespace BanchoPrism

-- What a match has of its scrim.
structure Scrim where
  isScrimming : Bool := false
  matchPoints : List (Contestant × Int) := []
  winners : List (Option Contestant) := []
  winningPts : Nat := 0
  deriving DecidableEq

def Match.scrim (m : Match) : Scrim :=
  { isScrimming := m.isScrimming
    matchPoints := m.matchPoints
    winners := m.winners
    winningPts := m.winningPts }

-- match_points[k], on a defaultdict(int)
def pointsOf (points : List (Contestant × Int)) (k : Contestant) : Int :=
  (points.lookup k).getD 0

theorem pointsOf_addPoints (points : List (Contestant × Int)) (k c : Contestant) (delta : Int) :
    pointsOf (addPoints points k delta) c = pointsOf points c + if c = k then delta else 0 := by
  induction points with
  | nil =>
    by_cases hc : c = k
    · simp [pointsOf, addPoints, hc]
    · have hkey : (c == k) = false := beq_eq_false_iff_ne.mpr hc
      simp [pointsOf, addPoints, List.lookup_cons, hkey, hc]
  | cons entry rest ih =>
    obtain ⟨other, n⟩ := entry
    unfold pointsOf at ih ⊢
    unfold addPoints
    by_cases ho : other = k
    · subst ho
      by_cases hc : c = other
      · simp [hc]
      · have hkey : (c == other) = false := beq_eq_false_iff_ne.mpr hc
        simp [List.lookup_cons, hkey, hc]
    · rw [if_neg ho]
      by_cases hc : c = other
      · subst hc
        simp [ho]
      · have hkey : (c == other) = false := beq_eq_false_iff_ne.mpr hc
        simp only [List.lookup_cons, hkey]
        exact ih

namespace Scrim

variable {b b' : Scrim}

def wins (b : Scrim) (k : Contestant) : Nat := b.winners.count (some k)

-- The points are those of the winners, nobody has enough of them while the scrim is on, and
-- nothing is left of it when it is off.
structure Sound (b : Scrim) : Prop where
  points : b.isScrimming → ∀ k, pointsOf b.matchPoints k = b.wins k
  below : b.isScrimming → ∀ k, b.wins k < b.winningPts
  cleared : ¬b.isScrimming → b.matchPoints = [] ∧ b.winners = []

-- What the commands do to a scrim; a new match comes without one.
inductive Step : Scrim → Scrim → Prop
  | start (b : Scrim) (winningPts : Nat) (hoff : ¬b.isScrimming) (hpts : winningPts ≠ 0) :
      Step b { b with isScrimming := true, winningPts := winningPts }
  | finish (b : Scrim) :
      Step b { b with isScrimming := false, matchPoints := [], winners := [] }
  | reset (b : Scrim) : Step b { b with matchPoints := [], winners := [] }
  | takeBack (b : Scrim) (winner : Contestant) (hlast : b.winners.getLast? = some (some winner)) :
      Step b { b with
        matchPoints := addPoints b.matchPoints winner (-1)
        winners := b.winners.dropLast }
  | create (b : Scrim) : Step b {}

theorem Sound.blank : ({} : Scrim).Sound :=
  ⟨fun hon => absurd hon Bool.false_ne_true, fun hon => absurd hon Bool.false_ne_true,
    fun _ => ⟨rfl, rfl⟩⟩

theorem wins_takeBack {winner : Contestant} (hlast : b.winners.getLast? = some (some winner))
    (k : Contestant) :
    b.wins k = b.winners.dropLast.count (some k) + if k = winner then 1 else 0 := by
  obtain ⟨before, hwinners⟩ := List.getLast?_eq_some_iff.mp hlast
  unfold wins
  rw [hwinners, List.dropLast_concat, List.count_append, List.count_singleton]
  congr 1
  by_cases hk : k = winner
  · simp [hk]
  · simp [hk, Ne.symm hk]

theorem Step.sound (hstep : Step b b') (h : b.Sound) : b'.Sound := by
  cases hstep with
  | start winningPts hoff hpts =>
    obtain ⟨hpoints, hwinners⟩ := h.cleared hoff
    refine ⟨fun _ k => ?_, fun _ k => ?_, fun hoff => absurd rfl hoff⟩
    · simp [wins, hpoints, hwinners, pointsOf]
    · simp only [wins, hwinners, List.count_nil]
      omega
  | finish =>
    exact ⟨fun hon => absurd hon Bool.false_ne_true, fun hon => absurd hon Bool.false_ne_true,
      fun _ => ⟨rfl, rfl⟩⟩
  | reset =>
    refine ⟨fun _ k => by simp [wins, pointsOf], fun hon k => ?_, fun _ => ⟨rfl, rfl⟩⟩
    have hbelow := h.below hon k
    simp only [wins, List.count_nil]
    omega
  | takeBack winner hlast =>
    refine ⟨fun hon k => ?_, fun hon k => ?_, fun hoff => ?_⟩
    · have hpoints := h.points hon k
      have hwins := wins_takeBack hlast k
      show pointsOf (addPoints b.matchPoints winner (-1)) k = _
      rw [pointsOf_addPoints, hpoints, hwins]
      simp only [wins]
      split <;> omega
    · have hbelow := h.below hon k
      have hwins := wins_takeBack hlast k
      simp only [wins] at hbelow hwins ⊢
      omega
    · have hnone := (h.cleared hoff).2
      rw [hnone] at hlast
      cases hlast
  | create => exact Sound.blank

theorem sound_of_steps (hsteps : Relation.ReflTransGen Step b b') (h : b.Sound) : b'.Sound := by
  induction hsteps with
  | refl => exact h
  | tail _ hstep ih => exact hstep.sound ih

-- What an update can do to the scrim of its match: a tie, a point, or the last point.
inductive Outcome (b : Scrim) : Scrim → Prop
  | nothing : Outcome b b
  | tie : Outcome b { b with winners := b.winners ++ [none] }
  | point (k : Contestant) (points : List (Contestant × Int))
      (hpoints : ∀ c, pointsOf points c = pointsOf b.matchPoints c + if c = k then 1 else 0)
      (hmore : ¬(b.winningPts ≠ 0 ∧ pointsOf points k = b.winningPts)) :
      Outcome b { b with matchPoints := points, winners := b.winners ++ [some k] }
  | won (k : Contestant)
      (hlast : b.winningPts ≠ 0 ∧ pointsOf b.matchPoints k + 1 = b.winningPts) :
      Outcome b { b with isScrimming := false, matchPoints := [], winners := [] }

theorem wins_append_some (ws : List (Option Contestant)) (k c : Contestant) :
    (ws ++ [some k]).count (some c) = ws.count (some c) + if c = k then 1 else 0 := by
  rw [List.count_append, List.count_singleton]
  congr 1
  by_cases hc : c = k
  · simp [hc]
  · simp [hc, Ne.symm hc]

theorem Outcome.sound (h : Outcome b b') (hon : b.isScrimming) (hb : b.Sound) : b'.Sound := by
  cases h with
  | nothing => exact hb
  | tie =>
    have hwins : ∀ k, (b.winners ++ [none]).count (some k) = b.wins k := by
      intro k
      simp [wins, List.count_append]
    refine ⟨fun _ k => ?_, fun _ k => ?_, fun hoff => absurd hon hoff⟩
    · exact (hb.points hon k).trans (congrArg Nat.cast (hwins k).symm)
    · exact (hwins k).trans_lt (hb.below hon k)
  | point k points hpoints hmore =>
    have hnew : ∀ c, pointsOf points c = ((b.winners ++ [some k]).count (some c) : Int) := by
      intro c
      rw [hpoints c, hb.points hon c, wins_append_some]
      unfold wins
      split <;> omega
    refine ⟨fun _ c => hnew c, fun _ c => ?_, fun hoff => absurd hon hoff⟩
    have hbelow := hb.below hon c
    have hwins := wins_append_some b.winners k c
    simp only [wins] at hbelow hwins ⊢
    -- only the winner of the point has more than before, and the test would have found k
    by_cases hc : c = k
    · subst hc
      have hreached : ((b.winners ++ [some c]).count (some c) : Int) ≠ b.winningPts := by
        intro hreached
        exact hmore ⟨by omega, (hnew c).trans hreached⟩
      rw [if_pos rfl] at hwins
      omega
    · rw [if_neg hc] at hwins
      omega
  | won =>
    exact ⟨fun hon => absurd hon Bool.false_ne_true, fun hon => absurd hon Bool.false_ne_true,
      fun _ => ⟨rfl, rfl⟩⟩

end Scrim

end BanchoPrism
