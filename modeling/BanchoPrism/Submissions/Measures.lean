import Mathlib.Data.Int.Bitwise
import BanchoPrism.Submissions.OsuFile

namespace BanchoPrism.Submissions

open Library Library.Text

-- The builtins that read numbers, and sort what may hold some that have no order.
structure Readers where
  digit : Char → Option Nat
  float : String → Option Number
  -- none where int() raises a ValueError
  int : String → Option Int
  repr : String → String
  fixed : ℚ → String
  -- points.sort(key=lambda point: point[0])
  sorted : List (Number × Number) → List (Number × Number)

structure HitObject where
  time : Number
  endTime : Number

-- The variables of _parse_hit_object_span.
structure Span where
  firstTime : Option Number
  lastEnd : Number
  count : Nat

-- The variables of _parse_bpm.
structure Tempos where
  durations : List (Number × Number)
  firstSeen : List (Number × Nat)

-- Numbers in ASCII digits and "inf".
def plainReaders : Readers where
  digit := plainBuiltins.digit
  float text := if text = "inf" then some (.infinite false) else plainBuiltins.float text
  int text :=
    if text.toList.all Char.isDigit && !text.isEmpty then
      some (text.toList.foldl (fun n c => 10 * n + (c.toNat - '0'.toNat : Nat)) 0)
    else none
  repr := plainBuiltins.repr
  fixed := plainBuiltins.fixed
  sorted points := points.mergeSort fun a b => !b.1.lt a.1

section Measuring

variable (r : Readers)

-- line.split(",")
def fieldsOf (line : String) : List (List Char) := line.toList.splitOn ','

def readFloat (field : List Char) : Option Number := r.float (String.ofList field)

def hitObjectEndTime (fields : List (List Char)) (time : Number) (objectType : Int) : Number :=
  -- a spinner, or a hold of mania
  if objectType.testBit 3 || objectType.testBit 7 then
    match fields[5]? with
    | none => time
    | some field =>
        let rawEnd :=
          match partition ':' field with
          | some (before, _) => before
          | none => field
        match readFloat r (strip rawEnd) with
        | some endTime => time.max endTime
        | none => time
  else time

def readHitObject (line : String) : Option HitObject :=
  match fieldsOf line with
  | _ :: _ :: time :: objectType :: _ => do
      let time ← readFloat r time
      let objectType ← r.int (String.ofList objectType)
      return { time, endTime := hitObjectEndTime r (fieldsOf line) time objectType }
  | _ => none

def Span.add (s : Span) (o : HitObject) : Span where
  firstTime :=
    match s.firstTime with
    | none => some o.time
    | some first => some (if o.time.lt first then o.time else first)
  lastEnd := s.lastEnd.max o.endTime
  count := s.count + 1

def hitObjectsOf (lines : List String) : List HitObject := lines.filterMap (readHitObject r)

-- math.ceil(max(last_end - first_time, 0.0) / 1000)
def totalLengthOf (first last : Number) : Option ℤ :=
  (((last.sub first).max (.finite 0)).div (.finite 1000)).bind Number.ceil

def parseHitObjectSpan (lines : List String) : Except Raised (Int × Nat × Number) :=
  let s := (hitObjectsOf r lines).foldl Span.add
    { firstTime := none, lastEnd := .finite 0, count := 0 }
  match s.firstTime with
  | none => invalid "no hit objects"
  | some first =>
      match totalLengthOf first s.lastEnd with
      | none => .error .other
      | some totalLength => .ok (totalLength, s.count, s.lastEnd)

-- The time and the length of a beat, of a line that is not inherited.
def readTimingPoint (line : String) : Option (Number × Number) :=
  match fieldsOf line with
  | time :: beatLength :: _ => do
      let time ← readFloat r time
      let beatLength ← readFloat r beatLength
      let uninherited :=
        match (fieldsOf line)[6]? with
        | none => true
        | some field => strip field ≠ ['0'] ∧ strip field ≠ []
      if uninherited && (Number.finite 0).lt beatLength then some (time, beatLength) else none
  | _ => none

def timingPointsOf (lines : List String) : List (Number × Number) :=
  lines.filterMap (readTimingPoint r)

def Tempos.add (t : Tempos) (beatLength duration : Number) (index : Nat) : Tempos where
  durations :=
    dictSet t.durations
      (beatLength, ((t.durations.lookup beatLength).getD (.finite 0)).add duration)
  firstSeen :=
    if (t.firstSeen.lookup beatLength).isSome then t.firstSeen
    else t.firstSeen ++ [(beatLength, index)]

-- A point lasts to the next one, and the last to the end of the map.
def Tempos.addAll (mapEndTime : Number) (t : Tempos) (index : Nat) :
    List (Number × Number) → Tempos
  | [] => t
  | (time, beatLength) :: rest =>
      let stop :=
        match rest with
        | (next, _) :: _ => next
        | [] => mapEndTime.max time
      Tempos.addAll mapEndTime
        (t.add beatLength ((stop.sub time).max (.finite 0)) index) (index + 1) rest

-- Whether (durations[a], -first_seen[a]) is greater than that of b.
def Tempos.exceeds (t : Tempos) (a b : Number) : Bool :=
  let duration (beatLength : Number) := (t.durations.lookup beatLength).getD (.finite 0)
  let seen (beatLength : Number) := (t.firstSeen.lookup beatLength).getD 0
  if duration a = duration b ∧ duration a ≠ .nan then seen a < seen b
  else (duration b).lt (duration a)

-- max(durations, key=...)
def Tempos.dominant (t : Tempos) : Option Number :=
  match t.durations.map Prod.fst with
  | [] => none
  | first :: rest =>
      some (rest.foldl (fun best beatLength => if t.exceeds beatLength best then beatLength else best)
        first)

def dominantBeatLength (points : List (Number × Number)) (mapEndTime : Number) : Option Number :=
  (Tempos.addAll mapEndTime { durations := [], firstSeen := [] } 0 (r.sorted points)).dominant

def parseBpm (lines : List String) (mapEndTime : Number) : Except Raised Number :=
  let points := timingPointsOf r lines
  if points.isEmpty then invalid "no uninherited timing points"
  else
    -- max() of nothing, or a division by zero
    match (dominantBeatLength r points mapEndTime).bind (Number.finite 60000).div with
    | none => .error .other
    | some bpm => .ok bpm.roundCents

def measure (hitObjects timingPoints : List String) : Except Raised (Measures Number) := do
  let (totalLength, hitObjectCount, mapEndTime) ← parseHitObjectSpan r hitObjects
  let bpm ← parseBpm r timingPoints mapEndTime
  return { totalLength, hitObjectCount, bpm }

def builtinsOf : Builtins Number where
  digit := r.digit
  float := r.float
  repr := r.repr
  fixed := r.fixed
  measure := measure r

end Measuring

end BanchoPrism.Submissions
