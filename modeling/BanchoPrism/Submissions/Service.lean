import BanchoPrism.Submissions.Store
import BanchoPrism.Library.Tasks
import BanchoPrism.Library.Traces
import BanchoPrism.Submissions.Reviewing
import BanchoPrism.Submissions.Submitting

namespace BanchoPrism.Submissions

open Library
open Scores (ScoreRow)

-- The variables of delete_submission, once it has read the maps.
structure Deletion where
  actor : User
  submission : MapSubmission
  maps : List Beatmaps.Beatmap

namespace Deletion

def setId (d : Deletion) : Int := d.submission.setId

def mapMd5s (d : Deletion) : List String := d.maps.map Beatmaps.Beatmap.md5

end Deletion

namespace Store

-- The transaction of delete_submission.
def deleteSet (st : Store) (d : Deletion) : Store :=
  { st with
    scores := st.scores.deleteManyByMapMd5s d.mapMd5s
    maps := st.maps.filter fun row => !(row.setId = d.setId && row.server = .PRIVATE)
    mapsets := st.mapsets.filter fun row => !(row.id = d.setId && row.server = .PRIVATE)
    submissions := st.submissions.filter fun row => row.setId ≠ d.setId }

def removeOsu (st : Store) (id : Int) : Store :=
  { st with osuFiles := Function.update st.osuFiles id none }

def removeArchive (st : Store) (setId : Int) : Store :=
  { st with archives := Function.update st.archives setId none }

end Store

namespace Delete

-- What delete_submission goes on with after each await, and after each file that it removes.
inductive Line
  | fetchSubmission (actor : User) (setId : Int)
  | fetchMaps (actor : User) (submission : MapSubmission)
  | countTotal (d : Deletion) (md5 : String) (left : List String)
  | countOwned (d : Deletion) (md5 : String) (left : List String) (total : Nat)
  | deleteRows (d : Deletion)
  | removeOsu (d : Deletion) (row : Beatmaps.Beatmap) (left : List Beatmaps.Beatmap)
  | removeArchive (d : Deletion)

-- The loop of _has_foreign_scores
def Line.count (d : Deletion) : List String → Line
  | [] => .deleteRows d
  | md5 :: left => .countTotal d md5 left

def Line.remove (d : Deletion) : List Beatmaps.Beatmap → Line
  | [] => .removeArchive d
  | row :: left => .removeOsu d row left

def hasForeignScores : BeatmapSubmissionResult where
  code := .HAS_FOREIGN_SCORES
  detail := some "other players have set scores on this beatmap; ask staff to remove it"

def deleted (submission : MapSubmission) : BeatmapSubmissionResult where
  code := .DELETED
  submission := some submission

-- What is evicted from the cache at the end is no part of the store.
def Line.perform (line : Line) (s : Server) : Server × List Line :=
  match line with
  | fetchSubmission actor setId =>
      match s.store.fetchSubmission setId with
      | none => (s.refuse .NOT_FOUND, [])
      | some submission =>
          if !mayView (some actor) submission then (s.refuse .NOT_FOUND, [])
          else if !(actor.isStaff || submission.submitterUserId = actor.id) then
            (s.refuse .FORBIDDEN, [])
          else (s, [fetchMaps actor submission])
  | fetchMaps actor submission =>
      let d : Deletion :=
        { actor := actor
          submission := submission
          maps := s.store.fetchMaps submission.setId }
      (s, [if actor.isStaff then deleteRows d else count d d.mapMd5s])
  | countTotal d md5 left =>
      (s, [countOwned d md5 left (s.store.scores.rows.countP fun row => row.mapMd5 = md5)])
  | countOwned d md5 left total =>
      let owned := s.store.scores.rows.countP fun row =>
        row.mapMd5 = md5 && row.userid = d.submission.submitterUserId
      if owned < total then (s.answer hasForeignScores, []) else (s, [count d left])
  | deleteRows d => ({ s with store := s.store.deleteSet d }, [remove d d.maps])
  | removeOsu d row left => ({ s with store := s.store.removeOsu row.id }, [remove d left])
  | removeArchive d =>
      (Server.answer { s with store := s.store.removeArchive d.setId } (deleted d.submission), [])

-- What a line does to the store.
def Line.effect (st : Store) : Line → Store
  | deleteRows d => st.deleteSet d
  | removeOsu _ row _ => st.removeOsu row.id
  | removeArchive d => st.removeArchive d.setId
  | _ => st

theorem store_perform (s : Server) (line : Line) :
    (line.perform s).1.store = line.effect s.store := by
  cases line with
  | fetchSubmission actor setId =>
    simp only [Line.perform, Line.effect]
    split
    · rfl
    · split
      · rfl
      · split <;> rfl
  | countOwned d md5 left total =>
    simp only [Line.perform, Line.effect]
    split <;> rfl
  | _ => rfl

end Delete

inductive Op
  | submit (u : Upload)
  | update (u : Update)
  | delete (actor : User) (setId : Int)
  -- A score that a player submits.
  | score (row : ScoreRow)

inductive Line
  | submit (line : Submit.Line)
  | update (line : Update.Line)
  | delete (line : Delete.Line)
  | score (row : ScoreRow)

def Op.lines : Op → List Line
  | submit u => [.submit (.countHosted u)]
  | update u => [.update (.fetchSubmission u)]
  | delete actor setId => [.delete (.fetchSubmission actor setId)]
  | score row => [.score row]

-- The transaction of a score: persist_submitted_score
def Store.persistScore (st : Store) (row : ScoreRow) : Store :=
  let scores :=
    if row.status = .BEST then st.scores.markPreviousBestScoresSubmitted row.board else st.scores
  { st with scores := scores.create row }

def Line.perform (host : Host) (line : Line) (s : Server) : Server × List Line :=
  match line with
  | submit line =>
      let (s, lines) := line.perform host s
      (s, lines.map submit)
  | update line =>
      let (s, lines) := line.perform s
      (s, lines.map update)
  | delete line =>
      let (s, lines) := line.perform s
      (s, lines.map delete)
  | score row => ({ s with store := s.store.persistScore row }, [])

def recover (lines : List Line) (s : Server) : Server :=
  match lines with
  | .submit line :: _ => line.recover s
  | .update _ :: _ | .delete _ :: _ => s.endWith none [] none
  | _ => s

abbrev Service := Tasks Server Line

abbrev Event := Tasks.Event Op

abbrev Move := Tasks.Move Op

def Service.step (host : Host) (t : Service) (e : Event) : Service :=
  Tasks.step Op.lines (Line.perform host) t e

-- With errors at any of the awaits.
def Service.move (host : Host) (t : Service) (m : Move) : Service :=
  Tasks.move Op.lines (Line.perform host) recover t m

end BanchoPrism.Submissions
