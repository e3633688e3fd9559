import BanchoPrism.Library.Traces
import Mathlib.Data.List.Nodup
import Mathlib.Logic.Function.Basic

namespace BanchoPrism.Scores

open Library

namespace ReplayFiles

abbrev Str := List Char

abbrev Bytes := List UInt8

-- A pathlib.Path, by its root and its parts.
structure Path where
  root : Str
  parts : List Str
  deriving DecidableEq

def pathRoot : Str → Str
  | '/' :: '/' :: '/' :: _ => ['/']
  | '/' :: '/' :: _ => ['/', '/']
  | '/' :: _ => ['/']
  | _ => []

def pathParts (text : Str) : List Str :=
  (text.splitOn '/').filter fun part => part ≠ [] ∧ part ≠ ['.']

-- path / text
def Path.join (path : Path) (text : Str) : Path :=
  if pathRoot text = [] then { path with parts := path.parts ++ pathParts text }
  else { root := pathRoot text, parts := pathParts text }

def Path.IsChild (path parent : Path) : Prop :=
  ∃ name, path = { parent with parts := parent.parts ++ [name] } ∧ name ≠ ['.', '.']

instance (path parent : Path) : Decidable (path.IsChild parent) :=
  decidable_of_iff
    (path.root = parent.root ∧ path.parts.dropLast = parent.parts ∧
      ∃ name ∈ path.parts.getLast?, name ≠ ['.', '.']) (by
    obtain ⟨root, parts⟩ := path
    constructor
    · rintro ⟨rfl, hparts, name, hname, hdots⟩
      refine ⟨name, ?_, hdots⟩
      dsimp only at hparts hname
      rw [← hparts, List.dropLast_append_getLast? name hname]
    · rintro ⟨name, heq, hdots⟩
      cases heq
      exact ⟨rfl, List.dropLast_concat, name, List.getLast?_concat, hdots⟩)

def pendingReplayPath (replaysPath : Path) (checksum : Str) : Path :=
  replaysPath.join (checksum ++ ".osr.pending".toList)

def replayPath (replaysPath : Path) (scoreId : Nat) : Path :=
  replaysPath.join (Nat.toDigits 10 scoreId ++ ".osr".toList)

def MIN_REPLAY_SIZE : Nat := 24

-- What persist_score_submission comes to.
inductive Persisted
  | committed
  | DuplicateScoreError
  | Exception
  deriving DecidableEq

structure Submission where
  clientChecksum : Str
  passed : Bool
  replayFile : Bytes
  persisted : Persisted
  deriving DecidableEq

-- replay_data, as it is staged
def Submission.replayData (sub : Submission) : Option Bytes :=
  if sub.passed then if MIN_REPLAY_SIZE ≤ sub.replayFile.length then some sub.replayFile else none
  else none

-- A row of the scores table, with the replay that it was committed with.
structure Row where
  id : Nat
  onlineChecksum : Str
  replay : Option Bytes
  deriving DecidableEq

structure World where
  files : Path → Option Bytes
  -- every path that was created, replaced or removed
  touched : List Path
  rows : List Row
  nextId : Nat
  -- the score_submission_locks that are held
  locked : List Str

namespace World

def write (w : World) (path : Path) (data : Bytes) : World :=
  { w with files := Function.update w.files path (some data), touched := w.touched ++ [path] }

-- path.unlink(missing_ok=True)
def unlink (w : World) (path : Path) : World :=
  { w with files := Function.update w.files path none, touched := w.touched ++ [path] }

-- os.replace: a path that is not there is an OSError, which is logged.
def replace (w : World) (source target : Path) : World :=
  match w.files source with
  | none => w
  | some data =>
      { w with
        files := Function.update (Function.update w.files source none) target (some data)
        touched := w.touched ++ [source, target] }

def release (w : World) (checksum : Str) : World := { w with locked := w.locked.erase checksum }

end World

-- What is left to do of submit_score after each await, from the lock on.
inductive Line
  | acquire (sub : Submission)
  | fetchDuplicate (sub : Submission)
  | calculateStatus (sub : Submission)
  | readReplay (sub : Submission)
  | stage (sub : Submission) (data : Bytes)
  | persist (sub : Submission) (staged : Option Bytes)
  -- the transaction is committed
  | finish (sub : Submission) (staged : Option Bytes) (scoreId : Nat)

open Line

section Perform

-- What the database takes for the same checksum.
variable (collate : Str → Str) (replaysPath : Path)

def discardStagedReplay (sub : Submission) (staged : Option Bytes) (w : World) : World :=
  match staged with
  | none => w
  | some _ => w.unlink (pendingReplayPath replaysPath sub.clientChecksum)

def commitReplayFile (sub : Submission) (staged : Option Bytes) (scoreId : Nat) (w : World) :
    World :=
  match staged with
  | none => w
  | some _ =>
      w.replace (pendingReplayPath replaysPath sub.clientChecksum) (replayPath replaysPath scoreId)

def Line.perform (line : Line) (w : World) : World × List Line :=
  match line with
  | acquire sub =>
      if w.locked.contains sub.clientChecksum then (w, [acquire sub])
      else ({ w with locked := sub.clientChecksum :: w.locked }, [fetchDuplicate sub])
  | fetchDuplicate sub =>
      if w.rows.any fun row => collate row.onlineChecksum = collate sub.clientChecksum then
        (w.release sub.clientChecksum, [])
      else (w, [calculateStatus sub])
  | calculateStatus sub => (w, [readReplay sub])
  | readReplay sub =>
      match sub.replayData with
      | none => (w, [persist sub none])
      | some data => (w, [stage sub data])
  | stage sub data =>
      (w.write (pendingReplayPath replaysPath sub.clientChecksum) data, [persist sub (some data)])
  | persist sub staged =>
      match sub.persisted with
      | .committed =>
          ({ w with
              rows := w.rows ++ [⟨w.nextId, sub.clientChecksum, sub.replayData⟩]
              nextId := w.nextId + 1 },
            [finish sub staged w.nextId])
      | .DuplicateScoreError | .Exception =>
          ((discardStagedReplay replaysPath sub staged w).release sub.clientChecksum, [])
  | finish sub staged scoreId =>
      (commitReplayFile replaysPath sub staged scoreId (w.release sub.clientChecksum), [])

abbrev Traffic := Tasks World Line

abbrev Event := Tasks.Event Submission

def Traffic.step (t : Traffic) (e : Event) : Traffic :=
  Tasks.step (fun sub => [acquire sub]) (Line.perform collate replaysPath) t e

-- The submissions of a run, from the first of them on.
def served (w : World) (run : List Event) : Traffic :=
  runFrom (Traffic.step collate replaysPath) { world := w, running := [] } run

end Perform

-- The checksums of these submissions name different files, and those directly in replays_path.
structure Plain (replaysPath : Path) (subs : List Submission) : Prop where
  child : ∀ sub ∈ subs, sub.replayData.isSome →
    (pendingReplayPath replaysPath sub.clientChecksum).IsChild replaysPath
  apart : ∀ sub ∈ subs, ∀ other ∈ subs, sub.replayData.isSome → other.replayData.isSome →
    pendingReplayPath replaysPath sub.clientChecksum =
        pendingReplayPath replaysPath other.clientChecksum →
      sub.clientChecksum = other.clientChecksum

-- Each score that has a replay has its file, and no pending file that was made is left.
structure World.Stored (replaysPath : Path) (w : World) : Prop where
  replays : ∀ row ∈ w.rows, ∀ data ∈ row.replay,
    w.files (replayPath replaysPath row.id) = some data
  noPending : ∀ checksum, pendingReplayPath replaysPath checksum ∈ w.touched →
    w.files (pendingReplayPath replaysPath checksum) = none

-- What a server starts with.
structure World.Ready (replaysPath : Path) (w : World) : Prop where
  replays : ∀ row ∈ w.rows, ∀ data ∈ row.replay,
    w.files (replayPath replaysPath row.id) = some data
  ids_lt : ∀ row ∈ w.rows, row.id < w.nextId
  ids_nodup : (w.rows.map Row.id).Nodup
  untouched : w.touched = []
  unlocked : w.locked = []

def Line.submission : Line → Submission
  | acquire sub | fetchDuplicate sub | calculateStatus sub | readReplay sub | stage sub _
  | persist sub _ | finish sub _ _ => sub

-- The lock that is held while the line is yet to be run.
def Line.inside : Line → Option Str
  | acquire _ => none
  | fetchDuplicate sub | calculateStatus sub | readReplay sub | stage sub _ | persist sub _
  | finish sub _ _ => some sub.clientChecksum

-- The submission whose replay is at its pending path.
def Line.holder : Line → Option Submission
  | persist sub (some _) | finish sub (some _) _ => some sub
  | _ => none

def Line.finishes : Line → Option Nat
  | finish _ _ scoreId => some scoreId
  | _ => none

section Paths

variable {replaysPath : Path} {checksum text : Str} {id other : Nat}

theorem pathRoot_of_head (h : text.head? ≠ some '/') : pathRoot text = [] := by
  unfold pathRoot
  split <;> simp_all

theorem pathParts_plain (hslash : '/' ∉ text) (hne : text ≠ []) (hdot : text ≠ ['.']) :
    pathParts text = [text] := by
  rw [pathParts, List.splitOn_eq_singleton hslash]
  simp [hne, hdot]

theorem isDigit_digits {c : Char} (h : c ∈ Nat.toDigits 10 id) : c.isDigit = true := by
  exact Nat.isDigit_of_mem_toDigits (by decide) (by decide) h

theorem replayPath_eq : replayPath replaysPath id =
    { replaysPath with parts := replaysPath.parts ++ [Nat.toDigits 10 id ++ ".osr".toList] } := by
  have hslash : '/' ∉ Nat.toDigits 10 id ++ ".osr".toList := by
    intro h
    rcases List.mem_append.mp h with hdigit | hend
    · exact absurd (isDigit_digits hdigit) (by decide)
    · exact absurd hend (by decide)
  have hhead : (Nat.toDigits 10 id ++ ".osr".toList).head? ≠ some '/' :=
    fun h => hslash (List.mem_of_mem_head? h)
  have hlong : 4 ≤ (Nat.toDigits 10 id ++ ".osr".toList).length := by
    rw [List.length_append]
    exact Nat.le_add_left _ _
  rw [replayPath, Path.join, if_pos (pathRoot_of_head hhead), pathParts_plain hslash]
  · rintro h
    rw [h] at hlong
    exact absurd hlong (by decide)
  · rintro h
    rw [h] at hlong
    exact absurd hlong (by decide)

theorem isChild_replayPath : (replayPath replaysPath id).IsChild replaysPath := by
  refine ⟨_, replayPath_eq, fun h => ?_⟩
  have hlong := congrArg List.length h
  rw [List.length_append] at hlong
  have hend : ".osr".toList.length = 4 := rfl
  have hdots : ['.', '.'].length = 2 := rfl
  omega

theorem replayPath_injective (h : replayPath replaysPath id = replayPath replaysPath other) :
    id = other := by
  rw [replayPath_eq, replayPath_eq] at h
  have hparts := List.append_cancel_left (congrArg Path.parts h)
  have hdigits := List.append_cancel_right (List.cons.inj hparts).1
  have hvalue := congrArg (fun digits => Nat.ofDigitChars 10 digits 0) hdigits
  simpa only [Nat.ofDigitChars_ten_toDigits] using hvalue

-- The last part is what stands behind the last slash.
theorem exists_splitOn_append (hslash : '/' ∉ text) :
    ∃ front last, (checksum ++ text).splitOn '/' = front ++ [last ++ text] := by
  induction checksum with
  | nil => exact ⟨[], [], by
      rw [List.nil_append, List.splitOn_eq_singleton hslash]
      rfl⟩
  | cons c rest ih =>
    obtain ⟨front, last, hsplit⟩ := ih
    rw [List.cons_append, List.splitOn_cons_eq_if_modifyHead, hsplit]
    split
    · exact ⟨[] :: front, last, rfl⟩
    · cases front with
      | nil => exact ⟨[], c :: last, rfl⟩
      | cons first others => exact ⟨(c :: first) :: others, last, rfl⟩

theorem exists_pendingReplayPath : ∃ front last,
    (pendingReplayPath replaysPath checksum).parts = front ++ [last ++ ".osr.pending".toList] := by
  obtain ⟨front, last, hsplit⟩ :=
    @exists_splitOn_append checksum ".osr.pending".toList (by decide)
  have hend : (last ++ ".osr.pending".toList).getLast? = some 'g' := by
    rw [List.getLast?_append]
    rfl
  have hlast : last ++ ".osr.pending".toList ≠ [] ∧ last ++ ".osr.pending".toList ≠ ['.'] := by
    constructor <;>
    · intro h
      rw [h] at hend
      exact absurd hend (by decide)
  have hparts : pathParts (checksum ++ ".osr.pending".toList) =
      (front.filter fun part => part ≠ [] ∧ part ≠ ['.']) ++ [last ++ ".osr.pending".toList] := by
    rw [pathParts, hsplit, List.filter_append, List.filter_cons,
      if_pos (decide_eq_true hlast), List.filter_nil]
  unfold pendingReplayPath Path.join
  split
  · exact ⟨_, last, by rw [hparts, ← List.append_assoc]⟩
  · exact ⟨_, last, hparts⟩

-- No score is stored under the name of a pending file.
theorem replayPath_ne_pending :
    replayPath replaysPath id ≠ pendingReplayPath replaysPath checksum := by
  intro h
  obtain ⟨front, last, hparts⟩ := @exists_pendingReplayPath replaysPath checksum
  have hlasts := congrArg (fun path => path.parts.getLast?.bind List.getLast?) h
  rw [hparts, replayPath_eq, List.getLast?_concat, List.getLast?_concat, Option.bind_some,
    Option.bind_some, List.getLast?_append, List.getLast?_append] at hlasts
  change some 'r' = some 'g' at hlasts
  exact absurd hlasts (by decide)

end Paths

def Line.Staged (replaysPath : Path) (w : World) : Line → Prop
  | stage sub data => sub.replayData = some data
  | persist sub staged =>
      staged = sub.replayData ∧
        ∀ data ∈ staged, w.files (pendingReplayPath replaysPath sub.clientChecksum) = some data
  | finish sub staged scoreId =>
      staged = sub.replayData ∧
        (∀ data ∈ staged,
          w.files (pendingReplayPath replaysPath sub.clientChecksum) = some data) ∧
        ⟨scoreId, sub.clientChecksum, staged⟩ ∈ w.rows
  | acquire _ | fetchDuplicate _ | calculateStatus _ | readReplay _ => True

-- What submissions that are plain keep at every await: of the files, and of the lines that are
-- left to run, in any order.
structure Filed (replaysPath : Path) (start : List Row) (subs : List Submission) (w : World)
    (left : List Line) : Prop where
  known : ∀ line ∈ left, line.submission ∈ subs
  alone : (left.filterMap Line.inside).Nodup
  locked : ∀ checksum ∈ left.filterMap Line.inside, checksum ∈ w.locked
  staged : ∀ line ∈ left, line.Staged replaysPath w
  pending : ∀ checksum, pendingReplayPath replaysPath checksum ∈ w.touched →
    w.files (pendingReplayPath replaysPath checksum) = none ∨
      ∃ line ∈ left, ∃ sub, line.holder = some sub ∧
        pendingReplayPath replaysPath sub.clientChecksum = pendingReplayPath replaysPath checksum
  replays : ∀ row ∈ w.rows, ∀ data ∈ row.replay,
    w.files (replayPath replaysPath row.id) = some data ∨
      ∃ line ∈ left, line.finishes = some row.id
  owners : ∀ row ∈ w.rows, row ∈ start ∨
    ∃ sub ∈ subs, row.onlineChecksum = sub.clientChecksum ∧ row.replay = sub.replayData
  ids_lt : ∀ row ∈ w.rows, row.id < w.nextId
  ids_nodup : (w.rows.map Row.id).Nodup
  children : ∀ path ∈ w.touched, path.IsChild replaysPath

section Lines

variable {replaysPath : Path} {start : List Row} {subs : List Submission} {w w' : World}
  {line line' : Line} {others other : List Line} {sub : Submission}

theorem inside_of_holder (h : line.holder = some sub) : line.inside = some sub.clientChecksum := by
  unfold Line.holder at h
  split at h <;> cases h <;> rfl

theorem submission_of_holder (h : line.holder = some sub) : line.submission = sub := by
  unfold Line.holder at h
  split at h <;> cases h <;> rfl

theorem replayData_of_holder (h : line.holder = some sub) (hstaged : line.Staged replaysPath w) :
    sub.replayData.isSome := by
  unfold Line.holder at h
  split at h <;> cases h
  · rw [← hstaged.1]
    rfl
  · rw [← hstaged.1]
    rfl

-- A line is staged as long as the rows stay, and the file that it holds.
theorem Line.Staged.of_files (h : line.Staged replaysPath w) (hrows : w.rows ⊆ w'.rows)
    (hfiles : ∀ sub, line.holder = some sub →
      w'.files (pendingReplayPath replaysPath sub.clientChecksum) =
        w.files (pendingReplayPath replaysPath sub.clientChecksum)) :
    line.Staged replaysPath w' := by
  have hheld : ∀ (sub : Submission) (staged : Option Bytes),
      line.holder = staged.map (fun _ => sub) →
      (∀ data ∈ staged, w.files (pendingReplayPath replaysPath sub.clientChecksum) = some data) →
        ∀ data ∈ staged, w'.files (pendingReplayPath replaysPath sub.clientChecksum) =
          some (data : Bytes) := by
    intro sub staged hholder hdata data hmem
    rw [hfiles sub (by rw [hholder, Option.mem_def.mp hmem]; rfl)]
    exact hdata data hmem
  cases line with
  | acquire _ => trivial
  | fetchDuplicate _ => trivial
  | calculateStatus _ => trivial
  | readReplay _ => trivial
  | stage sub data => exact h
  | persist sub staged => exact ⟨h.1, hheld sub staged (by cases staged <;> rfl) h.2⟩
  | finish sub staged scoreId =>
    exact ⟨h.1, hheld sub staged (by cases staged <;> rfl) h.2.1, hrows h.2.2⟩

theorem Filed.of_perm (h : Filed replaysPath start subs w others) (hperm : others.Perm other) :
    Filed replaysPath start subs w other := by
  have hinside := hperm.filterMap Line.inside
  refine ⟨fun line hline => h.known line (hperm.mem_iff.mpr hline), hinside.nodup_iff.mp h.alone,
    fun checksum hmem => h.locked checksum (hinside.mem_iff.mpr hmem),
    fun line hline => h.staged line (hperm.mem_iff.mpr hline), fun checksum htouched => ?_,
    fun row hrow data hdata => ?_, h.owners, h.ids_lt, h.ids_nodup, h.children⟩
  · refine (h.pending checksum htouched).imp id fun ⟨line, hline, hholder⟩ => ?_
    exact ⟨line, hperm.mem_iff.mp hline, hholder⟩
  · refine (h.replays row hrow data hdata).imp id fun ⟨line, hline, hfinishes⟩ => ?_
    exact ⟨line, hperm.mem_iff.mp hline, hfinishes⟩

-- The other lines that hold a file hold another one.
theorem Filed.pending_ne (h : Filed replaysPath start subs w (line :: others))
    (hplain : Plain replaysPath subs) (hinside : line.inside = some line.submission.clientChecksum)
    (hdata : line.submission.replayData.isSome) {next : Line} (hnext : next ∈ others)
    (hholder : next.holder = some sub) :
    pendingReplayPath replaysPath sub.clientChecksum ≠
      pendingReplayPath replaysPath line.submission.clientChecksum := by
  intro heq
  have hmem := List.mem_cons_of_mem line hnext
  have hsub : sub ∈ subs := submission_of_holder hholder ▸ h.known next hmem
  have hsame := hplain.apart sub hsub line.submission (h.known line List.mem_cons_self)
    (replayData_of_holder hholder (h.staged next hmem)) hdata heq
  have halone := h.alone
  rw [List.filterMap_cons_some hinside, List.nodup_cons] at halone
  exact halone.1 (List.mem_filterMap.mpr ⟨next, hnext, hsame ▸ inside_of_holder hholder⟩)

-- What some line owes, the others owe, unless it is the line that is run.
theorem exists_others {kind : Line → Prop} (h : ∃ next ∈ line :: others, kind next)
    (hline : ¬kind line) : ∃ next ∈ others, kind next := by
  obtain ⟨next, hnext, hkind⟩ := h
  rcases List.mem_cons.mp hnext with rfl | hmem
  · exact absurd hkind hline
  · exact ⟨next, hmem, hkind⟩

theorem exists_cons {kind : Line → Prop} (h : ∃ next ∈ others, kind next) :
    ∃ next ∈ line :: others, kind next :=
  h.imp fun _ hnext => ⟨List.mem_cons_of_mem line hnext.1, hnext.2⟩

-- A line that goes on in its lock, and has no file.
theorem Filed.moved (h : Filed replaysPath start subs w (line :: others))
    (hsub : line'.submission = line.submission) (hinside : line'.inside = line.inside)
    (hholder : line.holder = none) (hfinishes : line.finishes = none)
    (hstaged : line'.Staged replaysPath w) : Filed replaysPath start subs w (line' :: others) := by
  have hsame : (line' :: others).filterMap Line.inside =
      (line :: others).filterMap Line.inside := by
    rw [List.filterMap_cons, List.filterMap_cons, hinside]
  refine ⟨fun next hnext => ?_, hsame ▸ h.alone, hsame ▸ h.locked, fun next hnext => ?_,
    fun checksum htouched => ?_, fun row hrow data hdata => ?_, h.owners, h.ids_lt, h.ids_nodup,
    h.children⟩
  · rcases List.mem_cons.mp hnext with rfl | hmem
    · exact hsub ▸ h.known line List.mem_cons_self
    · exact h.known next (List.mem_cons_of_mem line hmem)
  · rcases List.mem_cons.mp hnext with rfl | hmem
    · exact hstaged
    · exact h.staged next (List.mem_cons_of_mem line hmem)
  · refine (h.pending checksum htouched).imp id fun howed => exists_cons (exists_others howed ?_)
    simp [hholder]
  · refine (h.replays row hrow data hdata).imp id fun howed => exists_cons (exists_others howed ?_)
    simp [hfinishes]

theorem Filed.enter (h : Filed replaysPath start subs w (acquire sub :: others))
    (hfree : sub.clientChecksum ∉ w.locked) :
    Filed replaysPath start subs { w with locked := sub.clientChecksum :: w.locked }
      (fetchDuplicate sub :: others) := by
  refine ⟨fun next hnext => ?_, ?_, fun checksum hmem => ?_, fun next hnext => ?_,
    fun checksum htouched => ?_, fun row hrow data hdata => ?_, h.owners, h.ids_lt, h.ids_nodup,
    h.children⟩
  · rcases List.mem_cons.mp hnext with rfl | hmem
    · exact h.known (acquire sub) List.mem_cons_self
    · exact h.known next (List.mem_cons_of_mem _ hmem)
  · exact List.nodup_cons.mpr ⟨fun hmem => hfree (h.locked _ hmem), h.alone⟩
  · exact (List.mem_cons.mp hmem).elim (fun heq => heq ▸ List.mem_cons_self)
      fun hrest => List.mem_cons_of_mem _ (h.locked checksum hrest)
  · rcases List.mem_cons.mp hnext with rfl | hmem
    · trivial
    · exact (h.staged next (List.mem_cons_of_mem _ hmem)).of_files (List.Subset.refl _)
        fun _ _ => rfl
  · exact (h.pending checksum htouched).imp id fun howed =>
      exists_cons (exists_others howed (by simp [Line.holder]))
  · exact (h.replays row hrow data hdata).imp id fun howed =>
      exists_cons (exists_others howed (by simp [Line.finishes]))

-- A line that leaves the lock, and has no file.
theorem Filed.leave {checksum : Str} (h : Filed replaysPath start subs w (line :: others))
    (hinside : line.inside = some checksum) (hholder : line.holder = none)
    (hfinishes : line.finishes = none) :
    Filed replaysPath start subs (w.release checksum) others := by
  have halone := h.alone
  rw [List.filterMap_cons_some hinside, List.nodup_cons] at halone
  refine ⟨fun next hnext => h.known next (List.mem_cons_of_mem line hnext), halone.2,
    fun key hmem => ?_, fun next hnext => ?_, fun key htouched => ?_, fun row hrow data hdata => ?_,
    h.owners, h.ids_lt, h.ids_nodup, h.children⟩
  · have hne : key ≠ checksum := fun heq => halone.1 (heq ▸ hmem)
    refine (List.mem_erase_of_ne hne).mpr (h.locked key ?_)
    rw [List.filterMap_cons_some hinside]
    exact List.mem_cons_of_mem checksum hmem
  · exact (h.staged next (List.mem_cons_of_mem line hnext)).of_files (List.Subset.refl _)
      fun _ _ => rfl
  · exact (h.pending key htouched).imp id fun howed => exists_others howed (by simp [hholder])
  · exact (h.replays row hrow data hdata).imp id fun howed =>
      exists_others howed (by simp [hfinishes])

end Lines

section Files

variable {replaysPath : Path} {start : List Row} {subs : List Submission} {w : World}
  {others : List Line} {sub : Submission} {staged : Option Bytes} {data : Bytes} {scoreId : Nat}

-- A file that is none of a pending path leaves the lines of the others as they are.
theorem Filed.write (h : Filed replaysPath start subs w (stage sub data :: others))
    (hplain : Plain replaysPath subs) :
    Filed replaysPath start subs (w.write (pendingReplayPath replaysPath sub.clientChecksum) data)
      (persist sub (some data) :: others) := by
  have hreplay : sub.replayData = some data := h.staged _ List.mem_cons_self
  have hsome : sub.replayData.isSome := by
    rw [hreplay]
    rfl
  have hsub : sub ∈ subs := h.known _ List.mem_cons_self
  refine ⟨fun next hnext => ?_, h.alone, h.locked, fun next hnext => ?_,
    fun checksum htouched => ?_, fun row hrow replay hmem => ?_, h.owners, h.ids_lt, h.ids_nodup,
    fun path hpath => ?_⟩
  · rcases List.mem_cons.mp hnext with rfl | hmem
    · exact hsub
    · exact h.known next (List.mem_cons_of_mem _ hmem)
  · rcases List.mem_cons.mp hnext with rfl | hmem
    · refine ⟨hreplay.symm, fun replay hmem => ?_⟩
      exact (Function.update_self ..).trans hmem
    · refine (h.staged next (List.mem_cons_of_mem _ hmem)).of_files (List.Subset.refl _)
        fun other hholder => ?_
      exact Function.update_of_ne (h.pending_ne hplain rfl hsome hmem hholder) _ _
  · by_cases hpath : pendingReplayPath replaysPath checksum =
        pendingReplayPath replaysPath sub.clientChecksum
    · exact Or.inr ⟨_, List.mem_cons_self, sub, rfl, hpath.symm⟩
    · have hold : pendingReplayPath replaysPath checksum ∈ w.touched :=
        (List.mem_append.mp htouched).resolve_right fun hmem => hpath (List.mem_singleton.mp hmem)
      refine (h.pending checksum hold).imp (fun hnone => ?_) fun howed =>
        exists_cons (exists_others howed (by simp [Line.holder]))
      exact (Function.update_of_ne hpath _ _).trans hnone
  · refine (h.replays row hrow replay hmem).imp (fun hfile => ?_) fun howed =>
      exists_cons (exists_others howed (by simp [Line.finishes]))
    exact (Function.update_of_ne replayPath_ne_pending _ _).trans hfile
  · rcases List.mem_append.mp hpath with hold | hnew
    · exact h.children path hold
    · exact List.mem_singleton.mp hnew ▸ hplain.child sub hsub hsome

theorem Filed.commit (h : Filed replaysPath start subs w (persist sub staged :: others)) :
    Filed replaysPath start subs
      { w with
        rows := w.rows ++ [⟨w.nextId, sub.clientChecksum, sub.replayData⟩]
        nextId := w.nextId + 1 }
      (finish sub staged w.nextId :: others) := by
  have hstaged : (persist sub staged).Staged replaysPath w := h.staged _ List.mem_cons_self
  refine ⟨fun next hnext => ?_, h.alone, h.locked, fun next hnext => ?_,
    fun checksum htouched => ?_, fun row hrow replay hmem => ?_, fun row hrow => ?_,
    fun row hrow => ?_, ?_, h.children⟩
  · rcases List.mem_cons.mp hnext with rfl | hmem
    · exact h.known (persist sub staged) List.mem_cons_self
    · exact h.known next (List.mem_cons_of_mem _ hmem)
  · rcases List.mem_cons.mp hnext with rfl | hmem
    · refine ⟨hstaged.1, hstaged.2, ?_⟩
      rw [hstaged.1]
      exact List.mem_append_right _ (List.mem_singleton_self _)
    · exact (h.staged next (List.mem_cons_of_mem _ hmem)).of_files (List.subset_append_left _ _)
        fun _ _ => rfl
  · refine (h.pending checksum htouched).imp id fun ⟨next, hnext, hholder⟩ => ?_
    rcases List.mem_cons.mp hnext with rfl | hmem
    · refine ⟨_, List.mem_cons_self, ?_⟩
      cases staged with
      | none => exact absurd hholder (by simp [Line.holder])
      | some data => exact hholder
    · exact ⟨next, List.mem_cons_of_mem _ hmem, hholder⟩
  · rcases List.mem_append.mp hrow with hold | hnew
    · exact (h.replays row hold replay hmem).imp id fun howed =>
        exists_cons (exists_others howed (by simp [Line.finishes]))
    · exact Or.inr ⟨_, List.mem_cons_self, List.mem_singleton.mp hnew ▸ rfl⟩
  · rcases List.mem_append.mp hrow with hold | hnew
    · exact h.owners row hold
    · rw [List.mem_singleton.mp hnew]
      exact Or.inr ⟨sub, h.known _ List.mem_cons_self, rfl, rfl⟩
  · rcases List.mem_append.mp hrow with hold | hnew
    · exact Nat.lt_succ_of_lt (h.ids_lt row hold)
    · rw [List.mem_singleton.mp hnew]
      exact Nat.lt_succ_self w.nextId
  · rw [List.map_append, List.nodup_append]
    refine ⟨h.ids_nodup, List.nodup_singleton _, fun id hid new hnew => ?_⟩
    obtain ⟨row, hrow, rfl⟩ := List.mem_map.mp hid
    rw [List.mem_singleton.mp hnew]
    exact Nat.ne_of_lt (h.ids_lt row hrow)

-- A replay that is discarded leaves its submission where it was in the lock.
theorem Filed.discard (h : Filed replaysPath start subs w (persist sub staged :: others))
    (hplain : Plain replaysPath subs) :
    Filed replaysPath start subs (discardStagedReplay replaysPath sub staged w)
      (fetchDuplicate sub :: others) := by
  have hstaged : (persist sub staged).Staged replaysPath w := h.staged _ List.mem_cons_self
  have hsub : sub ∈ subs := h.known _ List.mem_cons_self
  cases staged with
  | none => exact h.moved rfl rfl rfl rfl trivial
  | some data =>
    have hsome : sub.replayData.isSome := by
      rw [← hstaged.1]
      rfl
    refine ⟨fun next hnext => ?_, h.alone, h.locked, fun next hnext => ?_,
      fun checksum htouched => ?_, fun row hrow replay hmem => ?_, h.owners, h.ids_lt, h.ids_nodup,
      fun path hpath => ?_⟩
    · rcases List.mem_cons.mp hnext with rfl | hmem
      · exact hsub
      · exact h.known next (List.mem_cons_of_mem _ hmem)
    · rcases List.mem_cons.mp hnext with rfl | hmem
      · trivial
      · refine (h.staged next (List.mem_cons_of_mem _ hmem)).of_files (List.Subset.refl _)
          fun other hholder => ?_
        exact Function.update_of_ne (h.pending_ne hplain rfl hsome hmem hholder) _ _
    · by_cases hpath : pendingReplayPath replaysPath checksum =
          pendingReplayPath replaysPath sub.clientChecksum
      · exact Or.inl (hpath ▸ Function.update_self ..)
      · have hold : pendingReplayPath replaysPath checksum ∈ w.touched :=
          (List.mem_append.mp htouched).resolve_right fun hmem =>
            hpath (List.mem_singleton.mp hmem)
        refine (h.pending checksum hold).imp (fun hnone => ?_) fun howed =>
          exists_cons (exists_others howed ?_)
        · exact (Function.update_of_ne hpath _ _).trans hnone
        · rintro ⟨other, hother, heq⟩
          cases hother
          exact hpath heq.symm
    · refine (h.replays row hrow replay hmem).imp (fun hfile => ?_) fun howed =>
        exists_cons (exists_others howed (by simp [Line.finishes]))
      exact (Function.update_of_ne replayPath_ne_pending _ _).trans hfile
    · rcases List.mem_append.mp hpath with hold | hnew
      · exact h.children path hold
      · exact List.mem_singleton.mp hnew ▸ hplain.child sub hsub hsome

-- The file of a score is put under its own name, and no other row has that name.
theorem Filed.rename (h : Filed replaysPath start subs w (finish sub staged scoreId :: others))
    (hplain : Plain replaysPath subs) :
    Filed replaysPath start subs (commitReplayFile replaysPath sub staged scoreId w)
      (fetchDuplicate sub :: others) := by
  obtain ⟨hreplay, hfile, hrow⟩ : (finish sub staged scoreId).Staged replaysPath w :=
    h.staged _ List.mem_cons_self
  have hsub : sub ∈ subs := h.known _ List.mem_cons_self
  have hrows : ∀ row ∈ w.rows, row.id = scoreId → row = ⟨scoreId, sub.clientChecksum, staged⟩ :=
    fun row hmem heq => List.inj_on_of_nodup_map h.ids_nodup hmem hrow heq
  have hothers : ∀ row ∈ w.rows, row.id ≠ scoreId →
      (∃ line ∈ finish sub staged scoreId :: others, line.finishes = some row.id) →
        ∃ line ∈ fetchDuplicate sub :: others, line.finishes = some row.id :=
    fun row _ hne howed =>
      exists_cons (exists_others howed fun heq => hne (Option.some.inj heq).symm)
  have hknown : ∀ next ∈ fetchDuplicate sub :: others, next.submission ∈ subs := by
    intro next hnext
    rcases List.mem_cons.mp hnext with rfl | hmem
    · exact hsub
    · exact h.known next (List.mem_cons_of_mem _ hmem)
  cases staged with
  | none =>
    refine ⟨hknown, h.alone, h.locked, fun next hnext => ?_, fun checksum htouched => ?_,
      fun row hmem replay hdata => ?_, h.owners, h.ids_lt, h.ids_nodup, h.children⟩
    · rcases List.mem_cons.mp hnext with rfl | hmem
      · trivial
      · exact h.staged next (List.mem_cons_of_mem _ hmem)
    · exact (h.pending checksum htouched).imp id fun howed =>
        exists_cons (exists_others howed (by simp [Line.holder]))
    · have hne : row.id ≠ scoreId := by
        intro heq
        rw [hrows row hmem heq] at hdata
        exact nomatch hdata
      exact (h.replays row hmem replay hdata).imp_right (hothers row hmem hne)
  | some data =>
    have hsome : sub.replayData.isSome := by
      rw [← hreplay]
      rfl
    rw [commitReplayFile, World.replace, hfile data rfl]
    refine ⟨hknown, h.alone, h.locked, fun next hnext => ?_, fun checksum htouched => ?_,
      fun row hmem replay hdata => ?_, h.owners, h.ids_lt, h.ids_nodup, fun path hpath => ?_⟩
    · rcases List.mem_cons.mp hnext with rfl | hmem
      · trivial
      · refine (h.staged next (List.mem_cons_of_mem _ hmem)).of_files (List.Subset.refl _)
          fun other hholder => ?_
        exact (Function.update_of_ne replayPath_ne_pending.symm _ _).trans
          (Function.update_of_ne (h.pending_ne hplain rfl hsome hmem hholder) _ _)
    · dsimp only at htouched ⊢
      rw [Function.update_of_ne replayPath_ne_pending.symm]
      by_cases hpath : pendingReplayPath replaysPath checksum =
          pendingReplayPath replaysPath sub.clientChecksum
      · exact Or.inl (hpath ▸ Function.update_self ..)
      · rw [Function.update_of_ne hpath]
        have hold : pendingReplayPath replaysPath checksum ∈ w.touched := by
          refine (List.mem_append.mp htouched).resolve_right fun hnew => ?_
          rcases List.mem_pair.mp hnew with heq | heq
          · exact hpath heq
          · exact replayPath_ne_pending heq.symm
        refine (h.pending checksum hold).imp_right fun howed =>
          exists_cons (exists_others howed ?_)
        rintro ⟨other, hother, heq⟩
        cases hother
        exact hpath heq.symm
    · by_cases heq : row.id = scoreId
      · rw [hrows row hmem heq] at hdata
        cases hdata
        exact Or.inl (heq ▸ Function.update_self ..)
      · dsimp only
        rw [Function.update_of_ne fun hpath => heq (replayPath_injective hpath),
          Function.update_of_ne replayPath_ne_pending]
        exact (h.replays row hmem replay hdata).imp_right (hothers row hmem heq)
    · rcases List.mem_append.mp hpath with hold | hnew
      · exact h.children path hold
      · rcases List.mem_pair.mp hnew with rfl | rfl
        · exact hplain.child sub hsub hsome
        · exact isChild_replayPath

end Files

section Runs

variable {collate : Str → Str} {replaysPath : Path} {start : List Row} {subs : List Submission}
  {w : World} {line : Line} {left : List Line} {sub : Submission} {run : List Event}

theorem Plain.mono {more : List Submission} (h : Plain replaysPath more) (hsubs : subs ⊆ more) :
    Plain replaysPath subs :=
  ⟨fun sub hsub => h.child sub (hsubs hsub),
    fun sub hsub other hother => h.apart sub (hsubs hsub) other (hsubs hother)⟩

theorem Filed.perform (h : Filed replaysPath start subs w (line :: left))
    (hplain : Plain replaysPath subs) :
    Filed replaysPath start subs (line.perform collate replaysPath w).1
      ((line.perform collate replaysPath w).2 ++ left) := by
  cases line with
  | acquire sub =>
    simp only [Line.perform]
    split
    · exact h
    · rename_i hfree
      exact h.enter fun hmem => hfree (List.contains_iff_mem.mpr hmem)
  | fetchDuplicate sub =>
    simp only [Line.perform]
    split
    · exact h.leave rfl rfl rfl
    · exact h.moved rfl rfl rfl rfl trivial
  | calculateStatus sub => exact h.moved rfl rfl rfl rfl trivial
  | readReplay sub =>
    simp only [Line.perform]
    split
    · rename_i hnone
      exact h.moved rfl rfl rfl rfl ⟨hnone.symm, fun data hdata => nomatch hdata⟩
    · rename_i data hsome
      exact h.moved rfl rfl rfl rfl hsome
  | stage sub data => exact h.write hplain
  | persist sub staged =>
    simp only [Line.perform]
    split
    · exact h.commit
    · exact (h.discard hplain).leave rfl rfl rfl
    · exact (h.discard hplain).leave rfl rfl rfl
  | finish sub staged scoreId =>
    have hleft := (h.rename hplain).leave rfl rfl rfl
    have hrelease : (commitReplayFile replaysPath sub staged scoreId w).release
        sub.clientChecksum =
          commitReplayFile replaysPath sub staged scoreId (w.release sub.clientChecksum) := by
      cases staged with
      | none => rfl
      | some data =>
        simp only [commitReplayFile, World.replace, World.release]
        split <;> rfl
    rw [hrelease] at hleft
    exact hleft

theorem Filed.begin (h : Filed replaysPath start subs w left) (sub : Submission) :
    Filed replaysPath start (subs ++ [sub]) w (acquire sub :: left) := by
  refine ⟨fun line hline => ?_, h.alone, h.locked, fun line hline => ?_,
    fun checksum htouched => (h.pending checksum htouched).imp_right exists_cons,
    fun row hrow data hdata => (h.replays row hrow data hdata).imp_right exists_cons,
    fun row hrow => (h.owners row hrow).imp_right fun ⟨owner, howner, heq⟩ =>
      ⟨owner, List.mem_append_left _ howner, heq⟩,
    h.ids_lt, h.ids_nodup, h.children⟩
  · rcases List.mem_cons.mp hline with rfl | hmem
    · exact List.mem_append_right _ (List.mem_singleton_self sub)
    · exact List.mem_append_left _ (h.known line hmem)
  · rcases List.mem_cons.mp hline with rfl | hmem
    · trivial
    · exact h.staged line hmem

theorem World.Ready.filed (h : w.Ready replaysPath) : Filed replaysPath w.rows [] w [] :=
  ⟨fun _ hline => absurd hline List.not_mem_nil, List.nodup_nil,
    fun _ hmem => absurd hmem List.not_mem_nil, fun _ hline => absurd hline List.not_mem_nil,
    fun _ htouched => absurd (h.untouched ▸ htouched) List.not_mem_nil,
    fun row hrow data hdata => Or.inl (h.replays row hrow data hdata),
    fun _ hrow => Or.inl hrow, h.ids_lt, h.ids_nodup,
    fun _ hpath => absurd (h.untouched ▸ hpath) List.not_mem_nil⟩

-- The files of a run, whatever goes on between the awaits of a submission.
theorem filed_run (h : w.Ready replaysPath) (hplain : Plain replaysPath (Tasks.begun run)) :
    Filed replaysPath w.rows (Tasks.begun run) (served collate replaysPath w run).world
      (Tasks.gather some (served collate replaysPath w run).running) := by
  have hrun := @Tasks.left_invariant World Line Submission (fun sub => [acquire sub])
    (Line.perform collate replaysPath) { world := w, running := [] }
    (fun subs state left => Plain replaysPath subs → Filed replaysPath w.rows subs state left)
    (fun _ _ _ _ hperm hfiled hsubs => (hfiled hsubs).of_perm hperm)
    (fun _ _ _ sub hfiled hsubs => (hfiled (hsubs.mono (List.subset_append_left _ _))).begin sub)
    (fun _ _ _ _ hfiled hsubs => (hfiled hsubs).perform hsubs) run [] (fun _ => h.filed)
  exact hrun hplain

-- What every state of a run of plain submissions has, and one in which all have finished.
theorem stored_of_plain (h : w.Ready replaysPath)
    (hplain : Plain replaysPath (Tasks.begun run)) :
    (∀ row ∈ (served collate replaysPath w run).world.rows, row ∈ w.rows ∨
      ∃ sub ∈ Tasks.begun run,
        row.onlineChecksum = sub.clientChecksum ∧ row.replay = sub.replayData) ∧
      (∀ row ∈ (served collate replaysPath w run).world.rows, ∀ data ∈ row.replay,
        (served collate replaysPath w run).world.files (replayPath replaysPath row.id) =
            some data ∨
          Tasks.Owed (fun line => line.finishes = some row.id)
            (served collate replaysPath w run).running) ∧
      (∀ path ∈ (served collate replaysPath w run).world.touched, path.IsChild replaysPath) ∧
      (Tasks.Idle (served collate replaysPath w run).running →
        (served collate replaysPath w run).world.Stored replaysPath) := by
  have hfiled := @filed_run collate replaysPath w run h hplain
  have hmem : ∀ {line}, line ∈ Tasks.gather some (served collate replaysPath w run).running →
      ∃ task ∈ (served collate replaysPath w run).running, line ∈ task := by
    intro line hline
    obtain ⟨task, htask, hsome⟩ := List.mem_flatMap.mp hline
    exact ⟨task, htask, by rwa [List.filterMap_some] at hsome⟩
  refine ⟨hfiled.owners, fun row hrow data hdata => ?_, hfiled.children, fun hidle => ?_⟩
  · refine (hfiled.replays row hrow data hdata).imp_right fun ⟨line, hline, hfinishes⟩ => ?_
    obtain ⟨task, htask, hline⟩ := hmem hline
    exact ⟨task, htask, line, hline, decide_eq_true hfinishes⟩
  · have hnone : ∀ line, line ∉ Tasks.gather some (served collate replaysPath w run).running := by
      intro line hline
      obtain ⟨task, htask, hline⟩ := hmem hline
      rw [hidle task htask] at hline
      exact List.not_mem_nil hline
    refine ⟨fun row hrow data hdata => ?_, fun checksum htouched => ?_⟩
    · refine (hfiled.replays row hrow data hdata).resolve_right ?_
      rintro ⟨line, hline, -⟩
      exact hnone line hline
    · refine (hfiled.pending checksum htouched).resolve_right ?_
      rintro ⟨line, hline, -⟩
      exact hnone line hline

end Runs

instance (replaysPath : Path) (subs : List Submission) : Decidable (Plain replaysPath subs) :=
  decidable_of_iff
    ((∀ sub ∈ subs, sub.replayData.isSome →
        (pendingReplayPath replaysPath sub.clientChecksum).IsChild replaysPath) ∧
      ∀ sub ∈ subs, ∀ other ∈ subs, sub.replayData.isSome → other.replayData.isSome →
        pendingReplayPath replaysPath sub.clientChecksum =
            pendingReplayPath replaysPath other.clientChecksum →
          sub.clientChecksum = other.clientChecksum)
    ⟨fun h => ⟨h.1, h.2⟩, fun h => ⟨h.child, h.apart⟩⟩

def REPLAYS_PATH : Path := ⟨['/'], [".data".toList, "osr".toList]⟩

def fresh : World :=
  { files := fun _ => none, touched := [], rows := [], nextId := 1, locked := [] }

def passedScore (checksum : String) (byte : UInt8) (persisted : Persisted) : Submission :=
  { clientChecksum := checksum.toList
    passed := true
    replayFile := List.replicate 24 byte
    persisted := persisted }

theorem ready_fresh : fresh.Ready REPLAYS_PATH :=
  ⟨nofun, nofun, List.nodup_nil, rfl, rfl⟩

-- Two with one checksum, and another that fails while the first is at work.
def overlapping : List Event :=
  .begin (passedScore "aa" 1 .committed) :: .begin (passedScore "bb" 2 .Exception) ::
    .begin (passedScore "aa" 1 .committed) ::
      [0, 1, 2, 0, 1, 0, 1, 0, 1, 0, 1, 2, 0, 1, 0, 2, 2].map .resume

theorem stored_overlapping :
    (served id REPLAYS_PATH fresh overlapping).world.Stored REPLAYS_PATH :=
  (stored_of_plain ready_fresh (by decide)).2.2.2 (by decide)

-- A checksum of two parts is put outside, and one checksum in two spellings is two locks on one
-- file: the replay of the second submission is stored as the first one's.
theorem not_stored_outside :
    (¬∀ path ∈ (served id REPLAYS_PATH fresh
        (.begin (passedScore "../outside" 1 .committed) ::
          List.replicate 7 (.resume 0))).world.touched, path.IsChild REPLAYS_PATH) ∧
      ∃ run, Tasks.begun run =
          [passedScore "aa" 1 .committed, passedScore "./aa" 2 .committed] ∧
        Tasks.Idle (served id REPLAYS_PATH fresh run).running ∧
        ¬(served id REPLAYS_PATH fresh run).world.Stored REPLAYS_PATH := by
  refine ⟨by decide, [.begin (passedScore "aa" 1 .committed),
    .begin (passedScore "./aa" 2 .committed)] ++
      [0, 1, 0, 1, 0, 1, 0, 1, 0, 1, 0, 1, 0, 1].map .resume, rfl, by decide, fun h => ?_⟩
  have hfirst := h.replays ⟨1, "aa".toList, some (List.replicate 24 1)⟩ (by decide) _ rfl
  exact absurd hfirst (by decide)

end ReplayFiles

end BanchoPrism.Scores
