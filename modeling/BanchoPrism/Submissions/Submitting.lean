import BanchoPrism.Beatmaps.Hosted
import BanchoPrism.Submissions.Archive

namespace BanchoPrism.Submissions

open Library
open Beatmaps (DateTime MapSetRow privateBeatmapIdFloor)

structure BeatmapDifficultyAttributes where
  maxCombo : Int
  stars : ℚ

-- What the service is given.
structure Host where
  builtins : Builtins
  limits : OszLimits
  maxSubmissionsPerUser : Nat
  md5 : List UInt8 → String
  sha256 : List UInt8 → String
  -- the bytes of an archive that zipfile writes
  pack : List Entry → List UInt8
  calculateDifficulty : String → Nat → Except Raised BeatmapDifficultyAttributes

structure Upload where
  submitter : User
  osz : Osz
  timestamp : Int
  now : DateTime

-- _PreparedDifficulty
structure PreparedDifficulty where
  beatmapId : Int
  originalMemberName : String
  filename : String
  text : String
  data : List UInt8
  md5 : String
  metadata : OsuFileMetadata
  attributes : BeatmapDifficultyAttributes

abbrev Parsed := List (OszOsuMember × OsuFileMetadata)

-- The variables of submit_beatmap_archive, once every difficulty is prepared.
structure Prepared where
  upload : Upload
  setId : Int
  declaredCreator : String
  difficulties : List PreparedDifficulty

section Checks

-- None where the call raises.
abbrev Refused := Option BeatmapSubmissionResult

def notEligible (detail : String) : BeatmapSubmissionResult where
  code := .NOT_ELIGIBLE
  detail := some detail

def checkEligibility (u : Upload) : Option BeatmapSubmissionResult :=
  let required := Privileges.UNRESTRICTED ||| Privileges.VERIFIED
  if u.submitter.priv &&& required ≠ required then
    some (notEligible "your account is not eligible to submit beatmaps")
  else if u.timestamp < u.submitter.silenceEnd then
    some (notEligible "you cannot submit beatmaps while silenced")
  else none

def quotaExceeded (count limit : Nat) : BeatmapSubmissionResult where
  code := .QUOTA_EXCEEDED
  detail := some s!"you already host {count} beatmap sets (limit {limit})"

def contains (part text : String) : Bool := part.toList <:+: text.toList

def archiveFailure (detail : String) : BeatmapSubmissionResult where
  code :=
    if contains "over the" detail || contains "expands to" detail then .ARCHIVE_TOO_LARGE
    else .INVALID_ARCHIVE
  detail := some detail

def ofMember (code : BeatmapSubmissionResultCode) (name : String) : Raised → Refused
  | .documented detail => some { code := code, detail := some (name ++ ": " ++ detail) }
  | .other => none

def checkCrossDifficultyConsistency (parsed : Parsed) : Option BeatmapSubmissionResult :=
  if ¬(parsed.map fun p => p.2.version).Nodup then
    some { code := .DUPLICATE_DIFFICULTY_NAME
           detail := some "two difficulties share the same name" }
  else if 1 < (parsed.map fun p => (p.2.artist, p.2.title)).dedup.length then
    some { code := .INCONSISTENT_METADATA
           detail := some "every difficulty must share the same artist and title" }
  else none

def Host.parse (host : Host) (member : OszOsuMember) :
    Except Refused (OszOsuMember × OsuFileMetadata) :=
  match parseOsuFile host.builtins member.text with
  | .error e => .error (ofMember .INVALID_DIFFICULTY_FILE member.name e)
  | .ok metadata => .ok (member, metadata)

-- What is made of the archive before an id is allocated.
def Host.read (host : Host) (osz : Osz) : Except Refused Parsed :=
  match readOsz host.builtins host.limits osz with
  | .error .other => .error none
  | .error (.documented detail) => .error (some (archiveFailure detail))
  | .ok members => do
      let parsed ← members.mapM host.parse
      match checkCrossDifficultyConsistency parsed with
      | some result => .error (some result)
      | none => .ok parsed

-- _prepare_difficulty
def Host.prepareDifficulty (host : Host) (creator : String) (setId beatmapId : Int)
    (member : OszOsuMember) (metadata : OsuFileMetadata) : Except Refused PreparedDifficulty := do
  let text ← (rewriteOsuFileIdentity member.text beatmapId setId creator).mapError
    (ofMember .INVALID_DIFFICULTY_FILE member.name)
  let data := encodeUtf8 text
  let filename ← (canonicalOsuFilename metadata.artist metadata.title creator
    metadata.version).mapError (ofMember .INVALID_DIFFICULTY_FILE member.name)
  let attributes ← (host.calculateDifficulty text metadata.mode).mapError
    (ofMember .RATING_FAILED member.name)
  return {
    beatmapId
    originalMemberName := member.name
    filename
    text
    data
    md5 := host.md5 data
    metadata
    attributes }

def Host.prepare (host : Host) (u : Upload) (setId : Int) (ids : List Int) (parsed : Parsed) :
    Except Refused Prepared := do
  let difficulties ← (ids.zip parsed).mapM fun (id, member, metadata) =>
    host.prepareDifficulty u.submitter.name setId id member metadata
  return {
    upload := u
    setId
    -- An archive without a difficulty has been refused.
    declaredCreator := (parsed.head?.map fun p => p.2.declaredCreator).getD ""
    difficulties }

theorem prepareDifficulty_eq_ok {host : Host} {creator : String} {setId beatmapId : Int}
    {member : OszOsuMember} {metadata : OsuFileMetadata} {d : PreparedDifficulty}
    (h : host.prepareDifficulty creator setId beatmapId member metadata = .ok d) :
    d.beatmapId = beatmapId ∧ d.originalMemberName = member.name ∧ d.data = encodeUtf8 d.text ∧
      d.md5 = host.md5 d.data ∧
      canonicalOsuFilename metadata.artist metadata.title creator metadata.version =
        .ok d.filename := by
  unfold Host.prepareDifficulty at h
  cases htext : rewriteOsuFileIdentity member.text beatmapId setId creator with
  | error e =>
    rw [htext] at h
    cases h
  | ok text =>
    rw [htext] at h
    cases hname : canonicalOsuFilename metadata.artist metadata.title creator metadata.version with
    | error e =>
      rw [hname] at h
      cases h
    | ok filename =>
      rw [hname] at h
      cases hrating : host.calculateDifficulty text metadata.mode with
      | error e =>
        simp only [Except.mapError, bind, Except.bind, hrating] at h
        cases h
      | ok attributes =>
        simp only [Except.mapError, bind, Except.bind, hrating, pure, Except.pure] at h
        cases h
        exact ⟨rfl, rfl, rfl, rfl, rfl⟩

theorem prepareDifficulty_of_ok {host : Host} {creator : String} {setId beatmapId : Int}
    {member : OszOsuMember} {metadata : OsuFileMetadata} {text filename : String}
    {attributes : BeatmapDifficultyAttributes}
    (htext : rewriteOsuFileIdentity member.text beatmapId setId creator = .ok text)
    (hname : canonicalOsuFilename metadata.artist metadata.title creator metadata.version =
      .ok filename)
    (hrating : host.calculateDifficulty text metadata.mode = .ok attributes) :
    host.prepareDifficulty creator setId beatmapId member metadata =
      .ok {
        beatmapId
        originalMemberName := member.name
        filename
        text
        data := encodeUtf8 text
        md5 := host.md5 (encodeUtf8 text)
        metadata
        attributes } := by
  unfold Host.prepareDifficulty
  rw [htext, hname]
  simp only [Except.mapError, bind, Except.bind, hrating]
  rfl

-- Every difficulty is prepared, each with its id.
theorem prepare_eq_ok {host : Host} {u : Upload} {setId : Int} {ids : List Int} {parsed : Parsed}
    {p : Prepared} (h : host.prepare u setId ids parsed = .ok p) :
    p.upload = u ∧ p.setId = setId ∧
      List.Forall₂ (fun x d => host.prepareDifficulty u.submitter.name setId x.1 x.2.1 x.2.2 = .ok d)
        (ids.zip parsed) p.difficulties := by
  unfold Host.prepare at h
  cases hmap : (ids.zip parsed).mapM fun (id, member, metadata) =>
      host.prepareDifficulty u.submitter.name setId id member metadata with
  | error e =>
    rw [hmap] at h
    cases h
  | ok difficulties =>
    rw [hmap] at h
    cases h
    exact ⟨rfl, rfl, forall₂_of_mapM hmap⟩

theorem prepare_of_ok {host : Host} {u : Upload} {setId : Int} {ids : List Int} {parsed : Parsed}
    {difficulties : List PreparedDifficulty}
    (h : ((ids.zip parsed).mapM fun x =>
      host.prepareDifficulty u.submitter.name setId x.1 x.2.1 x.2.2) = .ok difficulties) :
    host.prepare u setId ids parsed =
      .ok {
        upload := u
        setId
        declaredCreator := (parsed.head?.map fun p => p.2.declaredCreator).getD ""
        difficulties } := by
  unfold Host.prepare
  change ((ids.zip parsed).mapM fun x =>
    host.prepareDifficulty u.submitter.name setId x.1 x.2.1 x.2.2) >>= _ = _
  rw [h]
  rfl

end Checks

section Rows

def PreparedDifficulty.mode (d : PreparedDifficulty) : GameMode :=
  (GameMode.ofValue d.metadata.mode).getD .VANILLA_OSU

def asSubmittedDifficulty (d : PreparedDifficulty) : SubmittedDifficulty where
  beatmapId := d.beatmapId
  md5 := d.md5
  filename := d.filename
  version := d.metadata.version
  mode := d.mode
  status := .Pending
  totalLength := d.metadata.totalLength
  maxCombo := d.attributes.maxCombo
  bpm := d.metadata.bpm
  cs := d.metadata.cs
  ar := d.metadata.ar
  od := d.metadata.od
  hp := d.metadata.hp
  diff := d.attributes.stars

def Prepared.row (p : Prepared) (d : PreparedDifficulty) : Beatmaps.Beatmap where
  md5 := d.md5
  id := d.beatmapId
  setId := p.setId
  artist := d.metadata.artist
  title := d.metadata.title
  version := d.metadata.version
  -- the account, never what the file claims
  creator := p.upload.submitter.name
  lastUpdate := p.upload.now
  totalLength := d.metadata.totalLength
  maxCombo := d.attributes.maxCombo
  status := .Pending
  frozen := true
  plays := 0
  passes := 0
  mode := d.mode
  bpm := d.metadata.bpm
  cs := d.metadata.cs
  od := d.metadata.od
  ar := d.metadata.ar
  hp := d.metadata.hp
  diff := d.attributes.stars
  filename := d.filename
  server := .PRIVATE

def Prepared.rows (p : Prepared) : List Beatmaps.Beatmap := p.difficulties.map p.row

def Prepared.beatmapIds (p : Prepared) : List Int :=
  p.difficulties.map PreparedDifficulty.beatmapId

theorem prepare_ids {host : Host} {u : Upload} {setId : Int} {ids : List Int} {parsed : Parsed}
    {p : Prepared} (h : host.prepare u setId ids parsed = .ok p)
    (hlength : ids.length = parsed.length) : p.setId = setId ∧ p.beatmapIds = ids := by
  obtain ⟨-, hset, hall⟩ := prepare_eq_ok h
  refine ⟨hset, ?_⟩
  have hids := map_eq_of_forall₂ (f := Prod.fst) (g := PreparedDifficulty.beatmapId) hall
    fun _ _ hd => (prepareDifficulty_eq_ok hd).1.symm
  rw [Prepared.beatmapIds, ← hids, List.map_fst_zip (le_of_eq hlength)]

def declaredCreatorMaxLen : Nat := 64

def Prepared.submission (host : Host) (p : Prepared) (archive : List Entry) : MapSubmission where
  setId := p.setId
  submitterUserId := p.upload.submitter.id
  reviewState := .PENDING
  declaredCreator := clip p.declaredCreator declaredCreatorMaxLen
  difficultyCount := p.difficulties.length
  oszSizeBytes := (host.pack archive).length
  oszSha256 := host.sha256 (host.pack archive)
  reviewedBy := none
  reviewNote := none

def Prepared.replacements (p : Prepared) : List (String × OszOsuMember) :=
  dictOf (p.difficulties.map fun d =>
    (d.originalMemberName, { name := d.filename, text := d.text }))

-- INSERT, one row after another: id and md5 are unique.
def insertMaps : List Beatmaps.Beatmap → List Beatmaps.Beatmap → Option (List Beatmaps.Beatmap)
  | table, [] => some table
  | table, row :: rest =>
      if table.any fun other => other.id = row.id || other.md5 = row.md5 then none
      else insertMaps (table ++ [row]) rest

theorem insertMaps_eq_some {table rows maps : List Beatmaps.Beatmap} (h : insertMaps table rows = some maps) :
    maps = table ++ rows ∧
      ((table.map Beatmaps.Beatmap.id).Nodup → (maps.map Beatmaps.Beatmap.id).Nodup) ∧
      ((table.map Beatmaps.Beatmap.md5).Nodup → (maps.map Beatmaps.Beatmap.md5).Nodup) := by
  induction rows generalizing table with
  | nil =>
    cases h
    exact ⟨(List.append_nil _).symm, id, id⟩
  | cons row rest ih =>
    rw [insertMaps] at h
    split at h
    · cases h
    · rename_i hnew
      have hrow : ∀ other ∈ table, other.id ≠ row.id ∧ other.md5 ≠ row.md5 := by
        intro other hother
        simp only [List.any_eq_true, Bool.or_eq_true, decide_eq_true_eq, not_exists, not_and,
          not_or] at hnew
        exact hnew other hother
      obtain ⟨hmaps, hids, hmd5s⟩ := ih h
      refine ⟨by rw [hmaps, List.append_assoc]; rfl, fun hnodup => hids ?_, fun hnodup => hmd5s ?_⟩
      · exact nodup_map_append hnodup fun other hother => (hrow other hother).1
      · exact nodup_map_append hnodup fun other hother => (hrow other hother).2

theorem insertMaps_new {table rows maps : List Beatmaps.Beatmap}
    (h : insertMaps table rows = some maps) : ∀ row ∈ rows, row ∉ table := by
  induction rows generalizing table with
  | nil => exact fun row hrow => absurd hrow List.not_mem_nil
  | cons first rest ih =>
    rw [insertMaps] at h
    split at h
    · cases h
    · rename_i hnew
      intro row hrow hold
      rcases List.mem_cons.mp hrow with rfl | hrest
      · exact hnew (List.any_eq_true.mpr ⟨row, hold, by simp⟩)
      · exact ih h row hrest (List.mem_append_left _ hold)

-- The transaction of _commit_submission. None where it raises, and is rolled back.
def Store.commitSubmission (st : Store) (host : Host) (p : Prepared) (archive : List Entry) :
    Option Store := do
  let checked : MapSetRow :=
    { id := p.setId
      server := .PRIVATE
      lastOsuapiCheck := p.upload.timestamp }
  let mapsets := upsertBy MapSetRow.id st.mapsets checked fun old =>
    { old with lastOsuapiCheck := p.upload.timestamp }
  -- It is read back, and asserted to be there.
  let mapset ← fetchBy MapSetRow.id mapsets p.setId
  if mapset.server ≠ .PRIVATE then none
  let maps ← insertMaps st.maps p.rows
  if (st.fetchSubmission p.setId).isSome then none
  return { st with
    mapsets := mapsets
    maps := maps
    submissions := st.submissions ++ [p.submission host archive] }

-- What a transaction that goes through has found, and what it leaves.
theorem commitSubmission_eq_some {st st' : Store} {host : Host} {p : Prepared}
    {archive : List Entry} (h : st.commitSubmission host p archive = some st') :
    ∃ mapsets mapset maps,
      mapsets = upsertBy MapSetRow.id st.mapsets
          { id := p.setId, server := .PRIVATE, lastOsuapiCheck := p.upload.timestamp }
          (fun old => { old with lastOsuapiCheck := p.upload.timestamp }) ∧
        fetchBy MapSetRow.id mapsets p.setId = some mapset ∧ mapset.server = .PRIVATE ∧
        insertMaps st.maps p.rows = some maps ∧ st.fetchSubmission p.setId = none ∧
        st' = { st with
          mapsets := mapsets
          maps := maps
          submissions := st.submissions ++ [p.submission host archive] } := by
  simp only [Store.commitSubmission, Option.bind_eq_bind, Option.bind_eq_some_iff] at h
  obtain ⟨mapset, hmapset, h⟩ := h
  split at h
  · cases h
  · rename_i hserver
    simp only [pure, Option.bind_eq_some_iff] at h
    obtain ⟨maps, hmaps, h⟩ := h
    split at h
    · cases h
    · rename_i hnone
      cases h
      exact ⟨_, mapset, maps, rfl, hmapset, not_not.mp hserver, hmaps,
        Option.not_isSome_iff_eq_none.mp hnone, rfl⟩

def Prepared.created (host : Host) (p : Prepared) (archive : List Entry) :
    BeatmapSubmissionResult where
  code := .CREATED
  submission := some (p.submission host archive)
  difficulties := p.difficulties.map asSubmittedDifficulty

end Rows

namespace Store

def writeOsu (st : Store) (d : PreparedDifficulty) : Store :=
  { st with osuFiles := Function.update st.osuFiles d.beatmapId (some d.data) }

def writeArchive (st : Store) (setId : Int) (archive : List Entry) : Store :=
  { st with archives := Function.update st.archives setId (some archive) }

def removeOsus (st : Store) (ids : List Int) : Store :=
  { st with osuFiles := fun id => if id ∈ ids then none else st.osuFiles id }

end Store

def Prepared.endWith (p : Prepared) (s : Server) (result : Refused) : Server :=
  s.endWith (some p.setId) p.beatmapIds result

namespace Submit

-- What submit_beatmap_archive goes on with after each await.
inductive Line
  | countHosted (u : Upload)
  | allocateSet (u : Upload) (parsed : Parsed)
  | allocateMap (u : Upload) (parsed : Parsed) (setId : Int) (ids : List Int)
  | checkMd5 (p : Prepared) (d : PreparedDifficulty) (left : List PreparedDifficulty)
  | checkFilename (p : Prepared) (d : PreparedDifficulty) (left : List PreparedDifficulty)
  | writeOsu (p : Prepared) (d : PreparedDifficulty) (left : List PreparedDifficulty)
      (written : List Int)
  | writeArchive (p : Prepared) (written : List Int) (archive : List Entry)
  | commit (p : Prepared) (written : List Int) (archive : List Entry)

-- The clean-up of the files that are written, and the error after it.
def unwind (s : Server) (p : Prepared) (written : List Int) (archived : Bool) : Server :=
  let store := s.store.removeOsus written
  let store :=
    if archived then { store with archives := Function.update store.archives p.setId none }
    else store
  p.endWith { s with store := store } none

def writing (p : Prepared) (s : Server) (written : List Int) :
    List PreparedDifficulty → Server × List Line
  | d :: left => (s, [.writeOsu p d left written])
  | [] =>
      match repackOsz p.upload.osz p.replacements with
      | none => (unwind s p written false, [])
      | some archive => (s, [.writeArchive p written archive])

def checking (p : Prepared) (s : Server) : List PreparedDifficulty → Server × List Line
  | d :: left => (s, [.checkMd5 p d left])
  | [] => writing p s [] p.difficulties

-- When every difficulty has its id.
def preparing (host : Host) (u : Upload) (parsed : Parsed) (setId : Int) (ids : List Int)
    (s : Server) : Server × List Line :=
  if ids.length < parsed.length then (s, [.allocateMap u parsed setId ids])
  else
    match host.prepare u setId ids parsed with
    | .error result => (s.endWith (some setId) ids result, [])
    | .ok p => checking p s p.difficulties

def checksumAlreadyExists (filename : String) : BeatmapSubmissionResult where
  code := .CHECKSUM_ALREADY_EXISTS
  detail := some (filename ++ ": this beatmap already exists on this server")

def filenameAlreadyExists (filename : String) : BeatmapSubmissionResult where
  code := .FILENAME_ALREADY_EXISTS
  detail := some (filename ++
    ": a beatmap with this name already exists; change the title or difficulty name")

def Line.perform (host : Host) (line : Line) (s : Server) : Server × List Line :=
  match line with
  | countHosted u =>
      match checkEligibility u with
      | some result => (s.answer result, [])
      | none =>
          let count := s.store.countHosted u.submitter.id
          if host.maxSubmissionsPerUser ≤ count then
            (s.answer (quotaExceeded count host.maxSubmissionsPerUser), [])
          else
            match host.read u.osz with
            | .error result => (s.endWith none [] result, [])
            | .ok parsed => (s, [allocateSet u parsed])
  | allocateSet u parsed =>
      let id := s.store.nextId
      let s := { s with store := { s.store with nextId := id + 1 } }
      -- An id below the floor is never used.
      if id < privateBeatmapIdFloor then (s.endWith none [] none, [])
      else preparing host u parsed id [] s
  | allocateMap u parsed setId ids =>
      let id := s.store.nextId
      let s := { s with store := { s.store with nextId := id + 1 } }
      if id < privateBeatmapIdFloor then (s.endWith (some setId) ids none, [])
      else preparing host u parsed setId (ids ++ [id]) s
  | checkMd5 p d left =>
      if s.store.maps.any fun row => row.md5 = d.md5 then
        (p.endWith s (some (checksumAlreadyExists d.filename)), [])
      else (s, [checkFilename p d left])
  | checkFilename p d left =>
      if s.store.maps.any fun row => row.filename = d.filename then
        (p.endWith s (some (filenameAlreadyExists d.filename)), [])
      else checking p s left
  | writeOsu p d left written =>
      writing p { s with store := s.store.writeOsu d } (written ++ [d.beatmapId]) left
  | writeArchive p written archive =>
      ({ s with store := s.store.writeArchive p.setId archive }, [commit p written archive])
  | commit p written archive =>
      match s.store.commitSubmission host p archive with
      | none => (unwind s p written true, [])
      | some store =>
          (p.endWith { s with store := store } (some (p.created host archive)), [])

-- What becomes of the call when the await that it is at raises.
def Line.recover (line : Line) (s : Server) : Server :=
  match line with
  | countHosted _ | allocateSet _ _ => s.endWith none [] none
  | allocateMap _ _ setId ids => s.endWith (some setId) ids none
  | checkMd5 p _ _ | checkFilename p _ _ => p.endWith s none
  | writeOsu p _ _ written | writeArchive p written _ => unwind s p written false
  | commit p written _ => unwind s p written true

section Tables

variable {host : Host} {s : Server} {p : Prepared}

@[simp] theorem prepared_endWith_ended (result : Refused) : (p.endWith s result).ended =
    s.ended ++ [{ setId := some p.setId, mapIds := p.beatmapIds, result := result }] := rfl

@[simp] theorem prepared_endWith_store (result : Refused) : (p.endWith s result).store = s.store :=
  rfl

@[simp] theorem unwind_tables (written : List Int) (archived : Bool) :
    (unwind s p written archived).store.toTables = s.store.toTables := by
  unfold unwind
  cases archived <;> rfl

@[simp] theorem writing_tables (written : List Int) (left : List PreparedDifficulty) :
    (writing p s written left).1.store.toTables = s.store.toTables := by
  cases left with
  | cons d left => rfl
  | nil =>
    simp only [writing]
    split
    · exact unwind_tables written false
    · rfl

@[simp] theorem checking_tables (left : List PreparedDifficulty) :
    (checking p s left).1.store.toTables = s.store.toTables := by
  cases left with
  | cons d left => rfl
  | nil => exact writing_tables [] p.difficulties

@[simp] theorem preparing_tables (u : Upload) (parsed : Parsed) (setId : Int) (ids : List Int) :
    (preparing host u parsed setId ids s).1.store.toTables = s.store.toTables := by
  unfold preparing
  split
  · rfl
  · split
    · rfl
    · exact checking_tables _

-- The tables change where a submission is committed, and nowhere else.
theorem tables_perform (line : Line) :
    (line.perform host s).1.store.toTables = s.store.toTables ∨
      ∃ p written archive store, line = .commit p written archive ∧
        s.store.commitSubmission host p archive = some store ∧
        (line.perform host s).1.store = store := by
  cases line with
  | countHosted u =>
    left
    simp only [Line.perform]
    split
    · rfl
    · split
      · rfl
      · split <;> rfl
  | allocateSet u parsed =>
    left
    simp only [Line.perform]
    split
    · rfl
    · exact preparing_tables u parsed _ []
  | allocateMap u parsed setId ids =>
    left
    simp only [Line.perform]
    split
    · rfl
    · exact preparing_tables u parsed setId _
  | checkMd5 p d left =>
    left
    simp only [Line.perform]
    split <;> rfl
  | checkFilename p d left =>
    left
    simp only [Line.perform]
    split
    · rfl
    · exact checking_tables left
  | writeOsu p d left written => exact Or.inl (writing_tables _ left)
  | writeArchive p written archive => exact Or.inl rfl
  | commit p written archive =>
    simp only [Line.perform]
    cases hcommit : s.store.commitSubmission host p archive with
    | none => exact Or.inl (unwind_tables written true)
    | some store => exact Or.inr ⟨p, written, archive, store, rfl, hcommit, rfl⟩

end Tables

end Submit

def plainHost : Host where
  builtins := plainBuiltins
  limits :=
    { maxArchiveBytes := 1000
      maxTotalUncompressedBytes := 1000
      maxMemberCount := 10
      maxCompressionRatio := 100
      maxOsuFileBytes := 1000
      maxOsuFileCount := 10 }
  maxSubmissionsPerUser := 10
  md5 _ := ""
  sha256 _ := ""
  pack _ := []
  calculateDifficulty _ _ := .ok { maxCombo := 1, stars := 1 }

-- A map of one hit object.
def plainLines (version : String) : List String :=
  ["osu file format v14", "[General]", "[Metadata]", "Artist:artist", "Title:title",
    "Version:" ++ version, "[Difficulty]", "HPDrainRate:5", "CircleSize:4", "OverallDifficulty:8",
    "[TimingPoints]", "0,500,4,2,0,50,1,0", "[HitObjects]", "64,64,0,1,0"]

def plainText (version : String) : String :=
  String.ofList ((plainLines version).flatMap fun line => line.toList ++ ['\n'])

def plainMember (name version : String) : ZipInfo where
  filename := name
  fileSize := 200
  compressSize := 150
  externalAttr := 0
  content := some (encodeUtf8 (plainText version))

-- An archive of difficulties, each with its member's name and its own.
def plainUpload (difficulties : List (String × String)) : Upload where
  submitter := submitter
  osz :=
    { size := 900
      infolist := .ok (difficulties.map fun d => plainMember d.1 d.2) }
  timestamp := 1700000000
  now := { year := 2023, month := 11, day := 14, hour := 22, minute := 13, second := 20 }

end BanchoPrism.Submissions
