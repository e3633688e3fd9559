import BanchoPrism.Beatmaps.Sets
import BanchoPrism.Library.Keyed
import BanchoPrism.Scores.Table

namespace BanchoPrism.Submissions

open Library
open Beatmaps (DateTime MapServer MapSetRow)
open Scores (RankedStatus ScoreRow)

-- MapSubmissionReviewState
inductive ReviewState
  | PENDING
  | APPROVED
  | REJECTED
  deriving DecidableEq

-- A row of map_submissions, without the columns that the database fills with its clock.
structure MapSubmission where
  setId : Int
  submitterUserId : Nat
  reviewState : ReviewState
  declaredCreator : String
  difficultyCount : Nat
  oszSizeBytes : Nat
  oszSha256 : String
  reviewedBy : Option Nat
  reviewNote : Option String
  deriving DecidableEq

structure User where
  id : Nat
  name : String
  priv : Privileges
  silenceEnd : Int
  deriving DecidableEq

def User.isStaff (actor : User) : Bool := actor.priv.has Privileges.STAFF

def User.isNominator (actor : User) : Bool := actor.priv.has Privileges.NOMINATOR

-- What update_submission calls staff.
def User.reviews (actor : User) : Bool := actor.isStaff || actor.isNominator

inductive BeatmapSubmissionResultCode
  | CREATED
  | UPDATED
  | DELETED
  | FOUND
  | NOT_FOUND
  | FORBIDDEN
  | NOT_ELIGIBLE
  | QUOTA_EXCEEDED
  | ARCHIVE_TOO_LARGE
  | INVALID_ARCHIVE
  | INVALID_DIFFICULTY_FILE
  | DUPLICATE_DIFFICULTY_NAME
  | INCONSISTENT_METADATA
  | CHECKSUM_ALREADY_EXISTS
  | FILENAME_ALREADY_EXISTS
  | STATUS_NOT_PERMITTED
  | HAS_FOREIGN_SCORES
  | RATING_FAILED
  deriving DecidableEq

structure SubmittedDifficulty where
  beatmapId : Int
  md5 : String
  filename : String
  version : String
  mode : GameMode
  status : RankedStatus
  totalLength : Int
  maxCombo : Int
  bpm : ℚ
  cs : ℚ
  ar : ℚ
  od : ℚ
  hp : ℚ
  diff : ℚ
  deriving DecidableEq

structure BeatmapSubmissionResult where
  code : BeatmapSubmissionResultCode
  submission : Option MapSubmission := none
  difficulties : List SubmittedDifficulty := []
  detail : Option String := none
  deriving DecidableEq

def mapToDifficulty (row : Beatmaps.Beatmap) : SubmittedDifficulty where
  beatmapId := row.id
  md5 := row.md5
  filename := row.filename
  version := row.version
  mode := row.mode
  status := row.status
  totalLength := row.totalLength
  maxCombo := row.maxCombo
  bpm := row.bpm
  cs := row.cs
  ar := row.ar
  od := row.od
  hp := row.hp
  diff := row.diff

-- A member of an archive that is written.
structure Entry where
  name : String
  data : List UInt8
  deriving DecidableEq

structure Tables where
  maps : List Beatmaps.Beatmap
  mapsets : List MapSetRow
  submissions : List MapSubmission
  scores : Scores.Table

-- The tables, and the directories of the hosted files.
structure Store extends Tables where
  osuFiles : Int → Option (List UInt8)
  archives : Int → Option (List Entry)
  -- auto_increment of map_id_sequence
  nextId : Int

-- How a call has ended, and the ids that had been allocated for it. It answers, or it raises.
structure Ended where
  setId : Option Int
  mapIds : List Int
  result : Option BeatmapSubmissionResult
  deriving DecidableEq

-- The call has been answered with CREATED.
def Ended.created (e : Ended) : Bool :=
  e.result.map BeatmapSubmissionResult.code = some .CREATED

structure Server where
  store : Store
  ended : List Ended

namespace Server

def endWith (s : Server) (setId : Option Int) (mapIds : List Int)
    (result : Option BeatmapSubmissionResult) : Server :=
  { s with ended := s.ended ++ [{ setId := setId, mapIds := mapIds, result := result }] }

-- An answer of a call that no ids are allocated for.
def answer (s : Server) (result : BeatmapSubmissionResult) : Server :=
  s.endWith none [] (some result)

def refuse (s : Server) (code : BeatmapSubmissionResultCode) : Server := s.answer { code := code }

end Server

namespace Store

def fetchSubmission (st : Store) (setId : Int) : Option MapSubmission :=
  fetchBy MapSubmission.setId st.submissions setId

-- maps.fetch_many(set_id, server=PRIVATE)
def fetchMaps (st : Store) (setId : Int) : List Beatmaps.Beatmap :=
  st.maps.filter fun row => row.setId = setId && row.server = .PRIVATE

-- submissions.fetch_count(submitter_user_id)
def countHosted (st : Store) (userId : Nat) : Nat :=
  st.submissions.countP fun row => row.submitterUserId = userId

end Store

def mayView (actor : Option User) (submission : MapSubmission) : Bool :=
  submission.reviewState = .APPROVED ||
    match actor with
    | none => false
    | some actor => actor.reviews || submission.submitterUserId = actor.id

section Store

variable {st : Store} {setId : Int}

theorem mem_fetchMaps {row : Beatmaps.Beatmap} :
    row ∈ st.fetchMaps setId ↔ row ∈ st.maps ∧ row.setId = setId ∧ row.server = .PRIVATE := by
  simp only [Store.fetchMaps, List.mem_filter, Bool.and_eq_true, decide_eq_true_eq]

@[simp] theorem endWith_store (s : Server) (setId : Option Int) (mapIds : List Int)
    (result : Option BeatmapSubmissionResult) :
    (s.endWith setId mapIds result).store = s.store := rfl

@[simp] theorem answer_store (s : Server) (result : BeatmapSubmissionResult) :
    (s.answer result).store = s.store := rfl

@[simp] theorem refuse_store (s : Server) (code : BeatmapSubmissionResultCode) :
    (s.refuse code).store = s.store := rfl

end Store

-- A submitter's set of one map that is approved and has no scores.
def hostedSet : Store where
  maps :=
    [{ Beatmaps.Beatmap.blank 2000000001 with
        md5 := "a"
        setId := 2000000000
        server := .PRIVATE }]
  mapsets := [{ id := 2000000000, server := .PRIVATE, lastOsuapiCheck := 0 }]
  submissions :=
    [{ setId := 2000000000
       submitterUserId := 3
       reviewState := .APPROVED
       declaredCreator := ""
       difficultyCount := 1
       oszSizeBytes := 0
       oszSha256 := ""
       reviewedBy := none
       reviewNote := none }]
  scores := Scores.Table.empty
  osuFiles := fun id => if id = 2000000001 then some [] else none
  archives := fun id => if id = 2000000000 then some [] else none
  nextId := 2000000002

def submitter : User where
  id := 3
  name := "mapper"
  priv := Privileges.UNRESTRICTED ||| Privileges.VERIFIED
  silenceEnd := 0

def moderator : User where
  id := 5
  name := "moderator"
  priv := Privileges.UNRESTRICTED ||| Privileges.MODERATOR
  silenceEnd := 0

end BanchoPrism.Submissions
