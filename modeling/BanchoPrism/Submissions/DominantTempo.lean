import BanchoPrism.Library.Stable
import BanchoPrism.Submissions.Measures
import Mathlib.Algebra.Order.Group.MinMax
import Mathlib.Data.Prod.Lex

namespace BanchoPrism.Submissions

-- _parse_bpm over numbers that are not rounded.
namespace ExactTempo

open Library Library.Text

-- The variables of _parse_bpm.
structure Tempos where
  durations : List (ℚ × ℚ) := []
  firstSeen : List (ℚ × ℕ) := []

section Parsing

-- float(), which is none where it raises a ValueError.
variable (float : String → Option ℚ)

-- The time and the length of a beat, of a line that is not inherited.
def readTimingPoint (line : String) : Option (ℚ × ℚ) :=
  match fieldsOf line with
  | time :: beatLength :: _ => do
      let time ← float (String.ofList time)
      let beatLength ← float (String.ofList beatLength)
      let uninherited :=
        match (fieldsOf line)[6]? with
        | none => true
        | some field => strip field ≠ ['0'] ∧ strip field ≠ []
      if uninherited && decide (0 < beatLength) then some (time, beatLength) else none
  | _ => none

def timingPointsOf (lines : List String) : List (ℚ × ℚ) := lines.filterMap (readTimingPoint float)

def Tempos.add (t : Tempos) (beatLength duration : ℚ) (index : ℕ) : Tempos where
  durations := dictSet t.durations (beatLength, (t.durations.lookup beatLength).getD 0 + duration)
  firstSeen :=
    if (t.firstSeen.lookup beatLength).isSome then t.firstSeen
    else t.firstSeen ++ [(beatLength, index)]

-- Where the first of some points ends: at the next one, or with the map.
def endOf (mapEndTime time : ℚ) : List (ℚ × ℚ) → ℚ
  | (next, _) :: _ => next
  | [] => max mapEndTime time

def Tempos.addAll (mapEndTime : ℚ) (t : Tempos) (index : ℕ) : List (ℚ × ℚ) → Tempos
  | [] => t
  | (time, beatLength) :: rest =>
      Tempos.addAll mapEndTime
        (t.add beatLength (max (endOf mapEndTime time rest - time) 0) index) (index + 1) rest

-- (durations[length], -first_seen[length])
def Tempos.weight (t : Tempos) (length : ℚ) : ℚ ×ₗ ℤ :=
  toLex ((t.durations.lookup length).getD 0, -((t.firstSeen.lookup length).getD 0 : ℕ))

def dominantBeatLength (points : List (ℚ × ℚ)) (mapEndTime : ℚ) : Option ℚ :=
  let t := Tempos.addAll mapEndTime {} 0 (sortedBy Prod.fst points)
  maxBy t.weight (t.durations.map Prod.fst)

-- round(60_000 / length, 2)
def bpmOf (length : ℚ) : ℚ := roundEven (100 * (60000 / length)) / 100

def parseBpm (lines : List String) (mapEndTime : ℚ) : Except Raised ℚ :=
  let points := timingPointsOf float lines
  if points.isEmpty then invalid "no uninherited timing points"
  else
    -- max() of nothing
    match dominantBeatLength points mapEndTime with
    | none => .error .other
    | some length => .ok (bpmOf length)

end Parsing

section Meaning

-- How long a beat length is in effect, over points in the order of their times: each until the
-- next one, and the last until the map ends, unless that is before it.
def activeFor (mapEndTime length : ℚ) : List (ℚ × ℚ) → ℚ
  | [] => 0
  | [(time, beatLength)] => if beatLength = length then max (mapEndTime - time) 0 else 0
  | (time, beatLength) :: (next, nextLength) :: rest =>
      (if beatLength = length then next - time else 0) +
        activeFor mapEndTime length ((next, nextLength) :: rest)

-- The beat length that lasts longest, and of those that last as long the earliest.
structure Dominant (mapEndTime : ℚ) (points : List (ℚ × ℚ)) (length : ℚ) : Prop where
  mem : length ∈ points.map Prod.snd
  longest : ∀ other ∈ points.map Prod.snd,
    activeFor mapEndTime other points ≤ activeFor mapEndTime length points
  earliest : ∀ other ∈ points.map Prod.snd,
    activeFor mapEndTime other points = activeFor mapEndTime length points →
      (points.map Prod.snd).idxOf length ≤ (points.map Prod.snd).idxOf other

variable (float : String → Option ℚ)

-- A line without the two numbers that a timing point begins with.
def Malformed (line : String) : Prop :=
  match fieldsOf line with
  | time :: beatLength :: _ =>
      float (String.ofList time) = none ∨ float (String.ofList beatLength) = none
  | _ => True

-- A line that says so, or that has no positive length of a beat.
def Inherited (line : String) : Prop :=
  (∃ field, (fieldsOf line)[6]? = some field ∧ (strip field = ['0'] ∨ strip field = [])) ∨
    ∃ time beatLength rest length, fieldsOf line = time :: beatLength :: rest ∧
      float (String.ofList beatLength) = some length ∧ length ≤ 0

-- The point that a line states, of the two numbers that it begins with.
open Classical in
noncomputable def pointOf (line : String) : Option (ℚ × ℚ) :=
  if Malformed float line ∨ Inherited float line then none
  else
    match fieldsOf line with
    | time :: beatLength :: _ =>
        (float (String.ofList time)).bind fun time =>
          (float (String.ofList beatLength)).map fun beatLength => (time, beatLength)
    | _ => none

noncomputable def timeOf (line : String) : Option ℚ := (pointOf float line).map Prod.fst

end Meaning

section Accumulating

variable {mapEndTime length : ℚ} {points : List (ℚ × ℚ)}

theorem lookup_durations_add (t : Tempos) (beatLength duration : ℚ) (index : ℕ) :
    ((t.add beatLength duration index).durations.lookup length).getD 0 =
      (t.durations.lookup length).getD 0 + if beatLength = length then duration else 0 := by
  rw [Tempos.add, lookup_dictSet]
  split
  · rename_i heq
    rw [Option.getD_some, ← heq]
  · rw [add_zero]

theorem endOf_sub_nonneg (time beatLength : ℚ)
    (h : ((time, beatLength) :: points).Pairwise fun a b => a.1 ≤ b.1) :
    0 ≤ endOf mapEndTime time points - time := by
  cases points with
  | nil => exact sub_nonneg.mpr (le_max_right _ _)
  | cons next rest => exact sub_nonneg.mpr ((List.pairwise_cons.mp h).1 next List.mem_cons_self)

theorem activeFor_cons (time beatLength : ℚ) :
    activeFor mapEndTime length ((time, beatLength) :: points) =
      (if beatLength = length then endOf mapEndTime time points - time else 0) +
        activeFor mapEndTime length points := by
  cases points with
  | nil =>
    have hclipped : max mapEndTime time - time = max (mapEndTime - time) 0 := by
      rw [← sub_self time, max_sub_sub_right]
    rw [activeFor, activeFor, endOf, hclipped, add_zero]
  | cons next rest => rfl

theorem lookup_durations_addAll (t : Tempos) (index : ℕ)
    (h : points.Pairwise fun a b => a.1 ≤ b.1) :
    ((t.addAll mapEndTime index points).durations.lookup length).getD 0 =
      (t.durations.lookup length).getD 0 + activeFor mapEndTime length points := by
  induction points generalizing t index with
  | nil => rw [Tempos.addAll, activeFor, add_zero]
  | cons point rest ih =>
    obtain ⟨time, beatLength⟩ := point
    rw [Tempos.addAll, ih _ _ (List.pairwise_cons.mp h).2, lookup_durations_add, activeFor_cons,
      max_eq_left (endOf_sub_nonneg time beatLength h), add_assoc]

theorem mem_durations_addAll (t : Tempos) (index : ℕ) :
    length ∈ (t.addAll mapEndTime index points).durations.map Prod.fst ↔
      length ∈ t.durations.map Prod.fst ∨ length ∈ points.map Prod.snd := by
  induction points generalizing t index with
  | nil => simp [Tempos.addAll]
  | cons point rest ih =>
    rw [Tempos.addAll, ih]
    simp only [Tempos.add, mem_keys_dictSet, List.map_cons, List.mem_cons, or_assoc]

-- A beat length that was seen stays where it was; another one is where it comes first.
theorem firstSeen_addAll (t : Tempos) (index : ℕ) :
    (t.addAll mapEndTime index points).firstSeen =
      ((points.map Prod.snd).zipIdx index).foldl setDefault t.firstSeen := by
  induction points generalizing t index with
  | nil => rfl
  | cons point rest ih =>
    rw [Tempos.addAll, ih, List.map_cons, List.zipIdx_cons, List.foldl_cons]
    rfl

end Accumulating

-- What is rounded to two decimals is off by half of the last one at most.
theorem bpmOf_near (length : ℚ) : |bpmOf length - 60000 / length| ≤ 1 / 200 := by
  have hround := abs_roundEven_sub_le (100 * (60000 / length))
  rw [abs_le] at hround ⊢
  constructor <;> rw [bpmOf] <;> linarith

section Results

variable {float : String → Option ℚ} {mapEndTime length : ℚ} {points : List (ℚ × ℚ)}

theorem weight_addAll (h : points.Pairwise fun a b => a.1 ≤ b.1)
    (hmem : length ∈ points.map Prod.snd) :
    (Tempos.addAll mapEndTime {} 0 points).weight length =
      toLex (activeFor mapEndTime length points, -((points.map Prod.snd).idxOf length : ℤ)) := by
  rw [Tempos.weight, lookup_durations_addAll _ _ h, firstSeen_addAll, lookup_foldl_setDefault,
    if_pos hmem]
  simp

theorem dominant_of_weight (h : points.Pairwise fun a b => a.1 ≤ b.1)
    (hmem : length ∈ points.map Prod.snd)
    (hmax : ∀ other ∈ points.map Prod.snd,
      (Tempos.addAll mapEndTime {} 0 points).weight other ≤
        (Tempos.addAll mapEndTime {} 0 points).weight length) :
    Dominant mapEndTime points length := by
  have hle : ∀ other ∈ points.map Prod.snd,
      activeFor mapEndTime other points < activeFor mapEndTime length points ∨
        activeFor mapEndTime other points = activeFor mapEndTime length points ∧
          (points.map Prod.snd).idxOf length ≤ (points.map Prod.snd).idxOf other := by
    intro other hother
    have hweight := hmax other hother
    rw [weight_addAll h hother, weight_addAll h hmem, Prod.Lex.toLex_le_toLex] at hweight
    exact hweight.imp_right fun ⟨heq, hseen⟩ => ⟨heq, by omega⟩
  refine ⟨hmem, fun other hother => ?_, fun other hother heq => ?_⟩
  · rcases hle other hother with hlt | ⟨heq, -⟩
    · exact le_of_lt hlt
    · exact le_of_eq heq
  · rcases hle other hother with hlt | ⟨-, hseen⟩
    · exact absurd heq (ne_of_lt hlt)
    · exact hseen

theorem dominantBeatLength_spec (hpoints : points ≠ []) (mapEndTime : ℚ) :
    ∃ length, dominantBeatLength points mapEndTime = some length ∧
      Dominant mapEndTime (sortedBy Prod.fst points) length := by
  have hsorted := inOrder_sortedBy Prod.fst points
  have hkeys : ∀ length, length ∈
      (Tempos.addAll mapEndTime {} 0 (sortedBy Prod.fst points)).durations.map Prod.fst ↔
        length ∈ (sortedBy Prod.fst points).map Prod.snd := by
    intro length
    rw [mem_durations_addAll]
    simp
  have hnonempty :
      (Tempos.addAll mapEndTime {} 0 (sortedBy Prod.fst points)).durations.map Prod.fst ≠ [] := by
    obtain ⟨point, rest, rfl⟩ := List.exists_cons_of_ne_nil hpoints
    have hmem := hsorted.perm.mem_iff.mpr (List.mem_cons_self (a := point) (l := rest))
    exact List.ne_nil_of_mem ((hkeys point.2).mpr (List.mem_map_of_mem hmem))
  obtain ⟨length, hlength, hmem, hmax⟩ := @maxBy_spec _ _ _
    (Tempos.addAll mapEndTime {} 0 (sortedBy Prod.fst points)).weight _ hnonempty
  refine ⟨length, hlength, dominant_of_weight hsorted.ordered ((hkeys length).mp hmem) ?_⟩
  exact fun other hother => hmax other ((hkeys other).mpr hother)

-- A line that is malformed or inherited gives no point.
theorem readTimingPoint_eq_none {line : String} (h : Malformed float line ∨ Inherited float line) :
    readTimingPoint float line = none := by
  unfold readTimingPoint
  split
  · rename_i rawTime rawLength rest hfields
    cases htime : float (String.ofList rawTime) with
    | none => rfl
    | some time =>
      cases hlength : float (String.ofList rawLength) with
      | none => rfl
      | some length =>
        refine if_neg ?_
        rw [Bool.and_eq_true, decide_eq_true_eq, not_and_or]
        rcases h with hmalformed | ⟨field, hfield, hflag⟩ | ⟨_, _, _, _, hfields', hlength', hle⟩
        · unfold Malformed at hmalformed
          rw [hfields] at hmalformed
          simp [htime, hlength] at hmalformed
        · left
          rcases hflag with hflag | hflag <;> simp [hfield, hflag]
        · right
          rw [hfields] at hfields'
          cases hfields'
          rw [hlength] at hlength'
          cases hlength'
          exact not_lt.mpr hle
  · rfl

-- Any other line gives the point of its first two numbers.
theorem readTimingPoint_eq (line : String) : readTimingPoint float line = pointOf float line := by
  unfold pointOf
  split
  · rename_i h
    exact readTimingPoint_eq_none h
  · rename_i h
    obtain ⟨hwell, hown⟩ := not_or.mp h
    unfold readTimingPoint
    split
    · rename_i rawTime rawLength rest hfields
      unfold Malformed at hwell
      rw [hfields] at hwell
      obtain ⟨htime, hlength⟩ := not_or.mp hwell
      obtain ⟨time, htime⟩ := Option.ne_none_iff_exists'.mp htime
      obtain ⟨length, hlength⟩ := Option.ne_none_iff_exists'.mp hlength
      have hpos : 0 < length := by
        by_contra hle
        exact hown (Or.inr ⟨_, _, _, length, hfields, hlength, not_lt.mp hle⟩)
      rw [htime, hlength]
      refine if_pos ?_
      rw [Bool.and_eq_true, decide_eq_true_eq]
      refine ⟨?_, hpos⟩
      cases hfield : (fieldsOf line)[6]? with
      | none => rfl
      | some field =>
        have hflag : strip field ≠ ['0'] ∧ strip field ≠ [] :=
          not_or.mp fun hflag => hown (Or.inl ⟨field, hfield, hflag⟩)
        exact decide_eq_true hflag
    · rfl

theorem timingPointsOf_eq (lines : List String) :
    timingPointsOf float lines = lines.filterMap (pointOf float) :=
  List.filterMap_congr fun line _ => readTimingPoint_eq line

theorem filter_timingPointsOf (lines : List String) (time : ℚ) :
    ((timingPointsOf float lines).filter fun point => point.1 = time) =
      timingPointsOf float (lines.filter fun line => timeOf float line = some time) := by
  induction lines with
  | nil => rfl
  | cons line rest ih =>
    rw [timingPointsOf_eq, timingPointsOf_eq] at ih ⊢
    cases hpoint : pointOf float line with
    | none => simp [timeOf, hpoint, ih]
    | some point =>
      by_cases htime : point.1 = time
      · simp [timeOf, hpoint, htime, ih]
      · simp [timeOf, hpoint, htime, ih]

-- What the lines come to depends on their points in the order of time only.
theorem parseBpm_of_sorted {lines lines' : List String}
    (h : sortedBy Prod.fst (timingPointsOf float lines') =
      sortedBy Prod.fst (timingPointsOf float lines)) :
    parseBpm float lines' mapEndTime = parseBpm float lines mapEndTime := by
  have hempty : (timingPointsOf float lines').isEmpty = (timingPointsOf float lines).isEmpty := by
    rw [← (inOrder_sortedBy Prod.fst (timingPointsOf float lines)).perm.isEmpty_eq, ← h,
      (inOrder_sortedBy Prod.fst (timingPointsOf float lines')).perm.isEmpty_eq]
  unfold parseBpm dominantBeatLength
  dsimp only
  rw [hempty, h]

-- Each line states a point or nothing; lines of the same time stay in their order. The tempo is
-- that of the dominant beat length, to two decimals.
theorem parseBpm_dominant (float : String → Option ℚ) (lines : List String) (mapEndTime : ℚ) :
    (lines.filterMap (pointOf float) = [] ∧
        parseBpm float lines mapEndTime = invalid "no uninherited timing points" ∨
      ∃ points length, InOrder Prod.fst (lines.filterMap (pointOf float)) points ∧
        Dominant mapEndTime points length ∧
          parseBpm float lines mapEndTime = .ok (bpmOf length) ∧
            |bpmOf length - 60000 / length| ≤ 1 / 200) ∧
      (∀ before line after, lines = before ++ line :: after →
        Malformed float line ∨ Inherited float line →
          parseBpm float (before ++ after) mapEndTime = parseBpm float lines mapEndTime) ∧
      ∀ lines', (∀ time, (lines'.filter fun line => timeOf float line = some time) =
        lines.filter fun line => timeOf float line = some time) →
          parseBpm float lines' mapEndTime = parseBpm float lines mapEndTime := by
  refine ⟨?_, fun before line after hlines hignored => ?_, fun lines' h => ?_⟩
  · rw [← timingPointsOf_eq]
    by_cases hpoints : timingPointsOf float lines = []
    · left
      refine ⟨hpoints, ?_⟩
      unfold parseBpm
      rw [hpoints]
      rfl
    · right
      obtain ⟨length, hlength, hdominant⟩ := dominantBeatLength_spec hpoints mapEndTime
      refine ⟨_, length, inOrder_sortedBy Prod.fst _, hdominant, ?_, bpmOf_near length⟩
      unfold parseBpm
      dsimp only
      rw [hlength]
      exact if_neg (by simpa using hpoints)
  · have hpoints : timingPointsOf float (before ++ after) = timingPointsOf float lines := by
      rw [hlines, timingPointsOf, timingPointsOf, List.filterMap_append, List.filterMap_append,
        List.filterMap_cons, readTimingPoint_eq_none hignored]
    exact parseBpm_of_sorted (by rw [hpoints])
  · refine parseBpm_of_sorted (sortedBy_congr fun time => ?_)
    rw [filter_timingPointsOf, filter_timingPointsOf, h]

end Results

end ExactTempo

end BanchoPrism.Submissions
