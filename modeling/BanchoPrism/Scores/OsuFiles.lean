import BanchoPrism.Scores.Table
import Mathlib.Data.NNRat.Defs

namespace BanchoPrism.Scores

-- BEATMAPS_PATH: what the file of a beatmap holds, if there is one.
abbrev OsuFiles (Bytes : Type) : Type := Nat → Option Bytes

-- How a request for a file goes wrong; raise_for_status gives the first.
inductive FetchError
  | httpStatus
  | other
  deriving DecidableEq

-- A call that is made again after it raised, with some further attempts; the last error is raised.
def retry {ε α : Type} : Nat → (Nat → Except ε α) → Except ε α
  | 0, attempt => attempt 0
  | further + 1, attempt =>
      match attempt 0 with
      | .ok a => .ok a
      | .error _ => retry further fun n => attempt (n + 1)

section Files

variable {Bytes : Type} (md5 : Bytes → String) (beatmapId : Nat) (expectedMd5 : Option String)

-- The file is there in the version that is expected, or in any if none is.
def Expected (data : Bytes) : Prop := ∀ expected ∈ expectedMd5, md5 data = expected

instance : DecidablePred (Expected md5 expectedMd5) := fun _ =>
  inferInstanceAs (Decidable (∀ _ ∈ expectedMd5, _))

def Holds (files : OsuFiles Bytes) : Prop := ∃ data ∈ files beatmapId, Expected md5 expectedMd5 data

-- disk_has_expected_osu_file
def diskHasExpectedOsuFile (files : OsuFiles Bytes) : Bool :=
  match files beatmapId, expectedMd5 with
  | some data, some expected => md5 data = expected
  | osuFile, _ => osuFile.isSome

def writeOsuFileToDisk (data : Bytes) (files : OsuFiles Bytes) : OsuFiles Bytes :=
  Function.update files beatmapId (some data)

-- api_get_osu_file, which gives up after three attempts
def apiGetOsuFile (response : Nat → Except FetchError Bytes) : Except FetchError Bytes :=
  retry 2 response

-- ensure_osu_file_is_available
def ensureOsuFileIsAvailable (response : Nat → Except FetchError Bytes) (files : OsuFiles Bytes) :
    Bool × OsuFiles Bytes :=
  if diskHasExpectedOsuFile md5 beatmapId expectedMd5 files then (true, files)
  else
    match apiGetOsuFile response with
    | .error .httpStatus => (false, files)
    | .error .other => (false, files)
    | .ok latestOsuFile => (true, writeOsuFileToDisk beatmapId latestOsuFile files)

end Files

-- A score as a request brings it, before anything is asked for.
structure Play where
  userId : Nat
  bmap : Beatmap
  score : Score
  scoreTime : Int := 0
  failTime : Int := 0

structure Rated (Bytes : Type) where
  score : Score
  files : OsuFiles Bytes
  -- what the calculator was run on
  read : Option Bytes

section Plays

-- Of a file and a score, the calculator makes the pp.
variable {Bytes : Type} (md5 : Bytes → String) (calculator : Bytes → Score → ℚ≥0)

def Play.submission (play : Play) (read : Option Bytes) : Submission where
  userId := play.userId
  bmap := play.bmap
  score := play.score
  performance := read.map fun data => (calculator data play.score : ℚ)
  performance_nonneg := by
    intro pp hpp
    obtain ⟨data, -, rfl⟩ := Option.map_eq_some_iff.mp hpp
    exact (calculator data play.score).coe_nonneg
  scoreTime := play.scoreTime
  failTime := play.failTime

-- calculate_score_submission_status, with the beatmap's file that calculate_performance opens
def Play.calculateScoreSubmissionStatus (play : Play) (response : Nat → Except FetchError Bytes)
    (table : Table) (users : Users) (files : OsuFiles Bytes) : Rated Bytes :=
  let (osuFileAvailable, files) :=
    ensureOsuFileIsAvailable md5 play.bmap.id (some play.bmap.md5) response files
  let read := if osuFileAvailable then files play.bmap.id else none
  { score := (play.submission calculator read).calculateScoreSubmissionStatus table users
    files := files
    read := read }

end Plays

section Delivery

variable {Bytes : Type} (md5 : Bytes → String) (beatmapId : Nat) (expectedMd5 : Option String)

-- What is promised of a file that was asked for.
structure Delivers (files : OsuFiles Bytes) (result : Bool × OsuFiles Bytes) : Prop where
  available : result.1 = true ↔ Holds md5 beatmapId expectedMd5 result.2
  unavailable : result.1 = false → result.2 = files
  kept : Holds md5 beatmapId expectedMd5 files → result.2 = files
  others : ∀ id, id ≠ beatmapId → result.2 id = files id

-- Where the file is not there yet, what is downloaded is the version that is expected.
def Genuine (response : Nat → Except FetchError Bytes) (files : OsuFiles Bytes) : Prop :=
  Holds md5 beatmapId expectedMd5 files ∨
    ∀ data, apiGetOsuFile response = .ok data → Expected md5 expectedMd5 data

end Delivery

section Available

variable {Bytes : Type} {md5 : Bytes → String} {beatmapId : Nat} {expectedMd5 : Option String}
variable {response : Nat → Except FetchError Bytes} {files : OsuFiles Bytes}

theorem diskHasExpectedOsuFile_iff :
    diskHasExpectedOsuFile md5 beatmapId expectedMd5 files = true ↔
      Holds md5 beatmapId expectedMd5 files := by
  unfold diskHasExpectedOsuFile Holds Expected
  cases files beatmapId <;> cases expectedMd5 <;> simp

-- What asking for a file comes to.
inductive Asked (md5 : Bytes → String) (beatmapId : Nat) (expectedMd5 : Option String)
    (response : Nat → Except FetchError Bytes) (files : OsuFiles Bytes) :
    Bool × OsuFiles Bytes → Prop
  | there (hholds : Holds md5 beatmapId expectedMd5 files) :
      Asked md5 beatmapId expectedMd5 response files (true, files)
  | refused (hholds : ¬ Holds md5 beatmapId expectedMd5 files) (error : FetchError)
      (herror : apiGetOsuFile response = .error error) :
      Asked md5 beatmapId expectedMd5 response files (false, files)
  | written (hholds : ¬ Holds md5 beatmapId expectedMd5 files) (data : Bytes)
      (hdata : apiGetOsuFile response = .ok data) :
      Asked md5 beatmapId expectedMd5 response files
        (true, Function.update files beatmapId (some data))

theorem ensureOsuFileIsAvailable_asked :
    Asked md5 beatmapId expectedMd5 response files
      (ensureOsuFileIsAvailable md5 beatmapId expectedMd5 response files) := by
  unfold ensureOsuFileIsAvailable
  split
  · rename_i hdisk
    exact .there (diskHasExpectedOsuFile_iff.mp hdisk)
  · rename_i hdisk
    have hholds := mt diskHasExpectedOsuFile_iff.mpr hdisk
    split
    · rename_i herror
      exact .refused hholds _ herror
    · rename_i herror
      exact .refused hholds _ herror
    · rename_i data hdata
      exact .written hholds data hdata

theorem holds_update {data : Bytes} :
    Holds md5 beatmapId expectedMd5 (Function.update files beatmapId (some data)) ↔
      Expected md5 expectedMd5 data := by
  simp [Holds]

-- What is asked for can be relied on, unless another version of the file was downloaded.
theorem delivers_iff :
    Delivers md5 beatmapId expectedMd5 files
        (ensureOsuFileIsAvailable md5 beatmapId expectedMd5 response files) ↔
      Genuine md5 beatmapId expectedMd5 response files := by
  have hasked := @ensureOsuFileIsAvailable_asked _ md5 beatmapId expectedMd5 response files
  generalize ensureOsuFileIsAvailable md5 beatmapId expectedMd5 response files = result at hasked ⊢
  cases hasked with
  | there hholds =>
    refine iff_of_true ⟨?_, ?_, ?_, ?_⟩ (Or.inl hholds)
    · exact iff_of_true rfl hholds
    · exact fun hfalse => by cases hfalse
    · exact fun _ => rfl
    · exact fun _ _ => rfl
  | refused hholds error herror =>
    refine iff_of_true ⟨?_, ?_, ?_, ?_⟩ (Or.inr fun data hdata => ?_)
    · exact iff_of_false Bool.false_ne_true hholds
    · exact fun _ => rfl
    · exact fun _ => rfl
    · exact fun _ _ => rfl
    · rw [herror] at hdata
      cases hdata
  | written hholds data hdata =>
    constructor
    · intro hdelivers
      have hwritten := holds_update.mp (hdelivers.available.mp rfl)
      refine Or.inr fun other hother => ?_
      rw [hdata, Except.ok.injEq] at hother
      rwa [← hother]
    · rintro (hthere | hgenuine)
      · exact absurd hthere hholds
      · refine ⟨?_, ?_, ?_, ?_⟩
        · exact iff_of_true rfl (holds_update.mpr (hgenuine data hdata))
        · exact fun hfalse => by cases hfalse
        · exact fun hthere => absurd hthere hholds
        · exact fun id hid => Function.update_of_ne hid _ _

end Available

section Submitted

variable {Bytes : Type} {md5 : Bytes → String} {calculator : Bytes → Score → ℚ≥0} {play : Play}
variable {response : Nat → Except FetchError Bytes} {table : Table} {users : Users}
variable {files : OsuFiles Bytes}

-- The calculator has only been run on the version that the score was set on.
def Rated.OnItsVersion (md5 : Bytes → String) (play : Play) (rated : Rated Bytes) : Prop :=
  ∀ data ∈ rated.read, md5 data = play.bmap.md5

theorem expected_some {expected : String} {data : Bytes} :
    Expected md5 (some expected) data ↔ md5 data = expected := by
  simp [Expected]

theorem onItsVersion_iff :
    (play.calculateScoreSubmissionStatus md5 calculator response table users files).OnItsVersion
        md5 play ↔
      Genuine md5 play.bmap.id (some play.bmap.md5) response files := by
  have hasked := @ensureOsuFileIsAvailable_asked _ md5 play.bmap.id (some play.bmap.md5) response
    files
  unfold Play.calculateScoreSubmissionStatus Rated.OnItsVersion
  generalize ensureOsuFileIsAvailable md5 play.bmap.id (some play.bmap.md5) response files = result
    at hasked ⊢
  cases hasked with
  | there hholds =>
    refine iff_of_true (fun data hdata => ?_) (Or.inl hholds)
    obtain ⟨held, hheld, hexpected⟩ := hholds
    have hsame : held = data := Option.some.inj (hheld.symm.trans hdata)
    rw [← hsame]
    exact expected_some.mp hexpected
  | refused hholds error herror =>
    refine iff_of_true (fun data hdata => by cases hdata) (Or.inr fun data hdata => ?_)
    rw [herror] at hdata
    cases hdata
  | written hholds data hdata =>
    have hread : Function.update files play.bmap.id (some data) play.bmap.id = some data :=
      Function.update_self _ _ _
    constructor
    · intro hversion
      refine Or.inr fun other hother => ?_
      rw [hdata, Except.ok.injEq] at hother
      rw [← hother]
      exact expected_some.mpr (hversion data hread)
    · rintro (hthere | hgenuine)
      · exact absurd hthere hholds
      · intro other hother
        have hsame : data = other := Option.some.inj (hread.symm.trans hother)
        rw [← hsame]
        exact expected_some.mp (hgenuine data hdata)

-- A file that is asked for is delivered as promised, and a score is rated on its version of the
-- map, exactly if the file is there already or no other version is downloaded.
theorem osuFile_delivered_iff (beatmapId : Nat) (expectedMd5 : Option String) :
    (Delivers md5 beatmapId expectedMd5 files
        (ensureOsuFileIsAvailable md5 beatmapId expectedMd5 response files) ↔
      Genuine md5 beatmapId expectedMd5 response files) ∧
    ((play.calculateScoreSubmissionStatus md5 calculator response table users files).OnItsVersion
        md5 play ↔
      Genuine md5 play.bmap.id (some play.bmap.md5) response files) :=
  ⟨delivers_iff, onItsVersion_iff⟩

def oldPlay : Play where
  userId := 3
  bmap := { id := 75, md5 := "old", status := .Ranked }
  score :=
    { mode := .VANILLA_OSU, score := 1000, maxCombo := 1, n300 := 1, n100 := 0, n50 := 0
      nmiss := 0, ngeki := 0, nkatu := 0, grade := .A, passed := true, clientChecksum := "sum" }

-- Nothing is on disk, and the map has been updated since: the newer file is written and rated.
theorem not_osuFile_delivered :
    let response : Nat → Except FetchError String := fun _ => .ok "new"
    ensureOsuFileIsAvailable id 75 (some "old") response (fun _ => none) =
        (true, Function.update (fun _ => none) 75 (some "new")) ∧
      ¬ Delivers id 75 (some "old") (fun _ => none)
        (ensureOsuFileIsAvailable id 75 (some "old") response fun _ => none) ∧
      (oldPlay.calculateScoreSubmissionStatus id (fun _ _ => 1) response .empty (fun _ => none)
        fun _ => none).read = some "new" ∧
      (oldPlay.calculateScoreSubmissionStatus id (fun _ _ => 1) response .empty (fun _ => none)
        fun _ => none).score.status = .BEST ∧
      ¬ (oldPlay.calculateScoreSubmissionStatus id (fun _ _ => 1) response .empty (fun _ => none)
        fun _ => none).OnItsVersion id oldPlay := by
  refine ⟨rfl, ?_, rfl, rfl, ?_⟩
  · intro hdelivers
    obtain ⟨data, hdata, hexpected⟩ := hdelivers.available.mp rfl
    have hnew : "new" = data := Option.some.inj hdata
    exact absurd (hexpected "old" rfl) (by rw [← hnew]; decide)
  · intro hversion
    exact absurd (hversion "new" rfl) (by decide)

end Submitted

end BanchoPrism.Scores
