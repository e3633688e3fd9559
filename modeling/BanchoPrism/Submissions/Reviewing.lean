import BanchoPrism.Submissions.Store

namespace BanchoPrism.Submissions

open Library
open Scores (RankedStatus)

-- The arguments of update_submission.
structure Update where
  actor : User
  setId : Int
  status : Option RankedStatus := none
  reviewState : Option ReviewState := none
  reviewNote : Option String := none

namespace Update

-- A rejection sets the maps back, whatever status comes with it.
def effectiveStatus (u : Update) : Option RankedStatus :=
  if u.reviewState = some .REJECTED then some .Pending else u.status

def writesReview (u : Update) : Bool := u.reviewState.isSome || u.reviewNote.isSome

end Update

-- _OWNER_ASSIGNABLE_STATUSES
def ownerAssignableStatuses : List RankedStatus := [.Pending, .Loved]

-- _STAFF_ONLY_STATUSES
def staffOnlyStatuses : List RankedStatus := [.Ranked, .Approved, .Qualified]

theorem not_staffOnly {status : RankedStatus} (h : status ∈ ownerAssignableStatuses) :
    status ∉ staffOnlyStatuses := by
  revert h
  cases status <;> decide

def reviewNoteMaxLen : Nat := 512

def statusNotPermitted (detail : String) : BeatmapSubmissionResult where
  code := .STATUS_NOT_PERMITTED
  detail := some detail

def checkStatusPermitted (status : RankedStatus) (submission : MapSubmission) (isStaff : Bool) :
    Option BeatmapSubmissionResult :=
  if isStaff then none
  else if status ∈ staffOnlyStatuses then some (statusNotPermitted "only staff may rank beatmaps")
  else if status ∉ ownerAssignableStatuses then
    some (statusNotPermitted "that status cannot be set directly")
  else if status = .Loved && submission.reviewState ≠ .APPROVED then
    some (statusNotPermitted "this beatmap has not been approved by staff yet")
  else none

namespace MapSubmission

-- map_submissions.partial_update
def review (submission : MapSubmission) (u : Update) : MapSubmission :=
  { submission with
    reviewState := u.reviewState.getD submission.reviewState
    reviewedBy := some u.actor.id
    reviewNote := u.reviewNote.map fun note => String.ofList (note.toList.take reviewNoteMaxLen) }

end MapSubmission

namespace Store

def reviewSet (st : Store) (u : Update) : Store :=
  { st with
    submissions := st.submissions.map fun row => if row.setId = u.setId then row.review u else row }

-- maps.partial_update(id, status=...)
def setStatus (st : Store) (id : Int) (status : RankedStatus) : Store :=
  { st with
    maps := st.maps.map fun row => if row.id = id then { row with status := status } else row }

end Store

namespace Update

-- What update_submission goes on with after each await.
inductive Line
  | fetchSubmission (u : Update)
  | review (u : Update) (submission : MapSubmission)
  | fetchReviewed (u : Update) (submission : MapSubmission)
  | fetchMaps (u : Update) (updated : MapSubmission)
  | setStatus (u : Update) (updated : MapSubmission) (status : RankedStatus) (row : Beatmaps.Beatmap)
      (left : List Beatmaps.Beatmap)
  | refetch (u : Update) (updated : MapSubmission)

def Line.each (u : Update) (updated : MapSubmission) (status : RankedStatus) : List Beatmaps.Beatmap → Line
  | [] => .refetch u updated
  | row :: left => .setStatus u updated status row left

def updated (submission : MapSubmission) (maps : List Beatmaps.Beatmap) : BeatmapSubmissionResult where
  code := .UPDATED
  submission := some submission
  difficulties := maps.map mapToDifficulty

-- What the call is refused for, on the submission that it has read.
def refusal (u : Update) (submission : MapSubmission) : Option BeatmapSubmissionResult :=
  if !mayView (some u.actor) submission then some { code := .NOT_FOUND }
  else if !(u.actor.reviews || submission.submitterUserId = u.actor.id) then
    some { code := .FORBIDDEN }
  else if u.writesReview && !u.actor.reviews then
    some { code := .FORBIDDEN, detail := some "only staff may review submissions" }
  else u.status.bind fun status => checkStatusPermitted status submission u.actor.reviews

def Line.perform (line : Line) (s : Server) : Server × List Line :=
  match line with
  | fetchSubmission u =>
      match s.store.fetchSubmission u.setId with
      | none => (s.refuse .NOT_FOUND, [])
      | some submission =>
          match u.refusal submission with
          | some result => (s.answer result, [])
          | none => (s, [if u.writesReview then review u submission else fetchMaps u submission])
  | review u submission =>
      ({ s with store := s.store.reviewSet u }, [fetchReviewed u submission])
  | fetchReviewed u submission =>
      (s, [fetchMaps u ((s.store.fetchSubmission u.setId).getD submission)])
  | fetchMaps u submission =>
      let maps := s.store.fetchMaps u.setId
      match u.effectiveStatus with
      | none => (s.answer (updated submission maps), [])
      | some status => (s, [each u submission status maps])
  | setStatus u submission status row left =>
      ({ s with store := s.store.setStatus row.id status }, [each u submission status left])
  | refetch u submission => (s.answer (updated submission (s.store.fetchMaps u.setId)), [])

-- What a line does to the store.
def Line.effect (st : Store) : Line → Store
  | review u _ => st.reviewSet u
  | setStatus _ _ status row _ => st.setStatus row.id status
  | _ => st

theorem store_perform (s : Server) (line : Line) :
    (line.perform s).1.store = line.effect s.store := by
  cases line with
  | fetchSubmission u =>
    simp only [Line.perform, Line.effect]
    split
    · rfl
    · split <;> rfl
  | fetchMaps u submission =>
    simp only [Line.perform, Line.effect]
    split <;> rfl
  | _ => rfl

end Update

end BanchoPrism.Submissions
