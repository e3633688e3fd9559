import Mathlib.Data.List.Duplicate
import BanchoPrism.Submissions.Hosting

namespace BanchoPrism.Submissions

open Library
open Beatmaps (MapSetRow privateBeatmapIdFloor)

-- The rows that are there after an upload and were not there before it.
def createdRows (before after : Store) : List Beatmaps.Beatmap :=
  after.maps.filter fun row => row ∉ before.maps

-- What holds of the rows that an upload creates, and of the archive that is stored for them.
structure Consistent (host : Host) (before after : Store) : Prop where
  filenames : ((createdRows before after).map Beatmaps.Beatmap.filename).Nodup
  fresh : ∀ row ∈ createdRows before after, ∀ old ∈ before.maps, old.filename ≠ row.filename
  hosted : ∀ row ∈ createdRows before after, ∃ archive entry,
    after.archives row.setId = some archive ∧
      (archive.filter fun other => other.name = row.filename) = [entry] ∧
        host.md5 entry.data = row.md5 ∧ after.osuFiles row.id = some entry.data

-- The file name that is made for a difficulty.
def fileName (u : Upload) (x : OszOsuMember × OsuFileMetadata) : Except Raised String :=
  canonicalOsuFilename x.2.artist x.2.title u.submitter.name x.2.version

-- The difficulties of an archive have members of different names, and metadata that different
-- file names are made of.
def Upload.Distinct (host : Host) (u : Upload) : Prop :=
  ∃ parsed, host.read u.osz = .ok parsed ∧ (parsed.map fun x => x.1.name).Nodup ∧
    (parsed.map (fileName u)).Nodup

-- The difficulties are those that are read from the archive, each with an id of its own.
structure Prepares (host : Host) (u : Upload) (p : Prepared) (parsed : Parsed) : Prop where
  upload : p.upload = u
  read : host.read u.osz = .ok parsed
  nodup : p.beatmapIds.Nodup
  names : p.difficulties.map PreparedDifficulty.originalMemberName = parsed.map fun x => x.1.name
  filenames : (p.difficulties.map fun d => Except.ok d.filename) = parsed.map (fileName u)
  data : ∀ d ∈ p.difficulties, d.data = encodeUtf8 d.text ∧ d.md5 = host.md5 d.data

section Preparing

variable {host : Host} {u : Upload} {p : Prepared} {parsed : Parsed} {setId : Int} {ids : List Int}

theorem fileName_of_prepare {x : Int × OszOsuMember × OsuFileMetadata} {d : PreparedDifficulty}
    (h : host.prepareDifficulty u.submitter.name setId x.1 x.2.1 x.2.2 = .ok d) :
    fileName u x.2 = .ok d.filename := (prepareDifficulty_eq_ok h).2.2.2.2

theorem prepares_of_prepare (hread : host.read u.osz = .ok parsed) (hids : ids.Nodup)
    (hlength : ids.length = parsed.length) (h : host.prepare u setId ids parsed = .ok p) :
    Prepares host u p parsed := by
  obtain ⟨hupload, -, hall⟩ := prepare_eq_ok h
  have hzip {γ : Type} (f : OszOsuMember × OsuFileMetadata → γ) :
      (ids.zip parsed).map (fun x => f x.2) = parsed.map f := by
    have hsnd : (ids.zip parsed).map Prod.snd = parsed := List.map_snd_zip (le_of_eq hlength.symm)
    rw [← congrArg (List.map f) hsnd, List.map_map]
    rfl
  have hok : ∀ d ∈ p.difficulties, ∃ x : Int × OszOsuMember × OsuFileMetadata,
      host.prepareDifficulty u.submitter.name setId x.1 x.2.1 x.2.2 = .ok d := by
    intro d hd
    obtain ⟨i, hi, rfl⟩ := List.getElem_of_mem hd
    exact ⟨_, hall.get (hall.length_eq ▸ hi) hi⟩
  refine
    { upload := hupload
      read := hread
      nodup := (prepare_ids h hlength).2 ▸ hids
      names := ?_
      filenames := ?_
      data := fun d hd => ?_ }
  · have hnames : (ids.zip parsed).map (fun x => x.2.1.name) =
        p.difficulties.map PreparedDifficulty.originalMemberName :=
      map_eq_of_forall₂ hall fun _ _ hd => (prepareDifficulty_eq_ok hd).2.1.symm
    exact hnames.symm.trans (hzip fun x => x.1.name)
  · have hnames : (ids.zip parsed).map (fun x => fileName u x.2) =
        p.difficulties.map fun d => Except.ok d.filename :=
      map_eq_of_forall₂ hall fun _ _ hd => fileName_of_prepare hd
    exact hnames.symm.trans (hzip (fileName u))
  · obtain ⟨x, hx⟩ := hok d hd
    obtain ⟨-, -, hdata, hmd5, -⟩ := prepareDifficulty_eq_ok hx
    exact ⟨hdata, hmd5⟩

theorem Prepares.isOsuName (h : Prepares host u p parsed) {d : PreparedDifficulty}
    (hd : d ∈ p.difficulties) : isOsuName d.filename := by
  have hmem : Except.ok d.filename ∈ parsed.map (fileName u) :=
    h.filenames ▸ List.mem_map_of_mem hd
  obtain ⟨x, -, hx⟩ := List.mem_map.mp hmem
  exact isOsuName_of_suffix (canonical_suffix hx)

theorem nodup_map_ok {names : List String} :
    (names.map (Except.ok : String → Except Raised String)).Nodup ↔ names.Nodup :=
  List.nodup_map_iff fun _ _ h => Except.ok.inj h

-- What is asked of an upload, of its difficulties.
theorem Prepares.distinct_iff (h : Prepares host u p parsed) :
    u.Distinct host ↔ (p.difficulties.map PreparedDifficulty.originalMemberName).Nodup ∧
      (p.difficulties.map PreparedDifficulty.filename).Nodup := by
  have hnames : (p.difficulties.map PreparedDifficulty.filename).Nodup ↔
      (parsed.map (fileName u)).Nodup := by
    rw [← h.filenames, ← nodup_map_ok, List.map_map]
    rfl
  rw [hnames, h.names]
  constructor
  · rintro ⟨other, hother, hdistinct⟩
    cases h.read.symm.trans hother
    exact hdistinct
  · exact fun hdistinct => ⟨parsed, h.read, hdistinct⟩

end Preparing

section Refusals

-- The call is not answered with CREATED.
def Unanswered (result : Refused) : Prop :=
  result.map BeatmapSubmissionResult.code ≠ some .CREATED

variable {host : Host} {u : Upload} {result : Refused}

theorem unanswered_ofMember {code : BeatmapSubmissionResultCode} (hcode : code ≠ .CREATED)
    (name : String) (e : Raised) : Unanswered (ofMember code name e) := by
  cases e with
  | documented detail => simpa [Unanswered, ofMember] using hcode
  | other => simp [Unanswered, ofMember]

theorem unanswered_parse {member : OszOsuMember} (h : host.parse member = .error result) :
    Unanswered result := by
  simp only [Host.parse] at h
  split at h
  · cases h
    exact unanswered_ofMember (by decide) member.name _
  · cases h

theorem unanswered_eligibility {found : BeatmapSubmissionResult}
    (h : checkEligibility u = some found) : Unanswered (some found) := by
  simp only [checkEligibility] at h
  split at h
  · cases h
    simp [Unanswered, notEligible]
  · split at h
    · cases h
      simp [Unanswered, notEligible]
    · cases h

theorem unanswered_consistency {parsed : Parsed} {found : BeatmapSubmissionResult}
    (h : checkCrossDifficultyConsistency parsed = some found) : Unanswered (some found) := by
  unfold checkCrossDifficultyConsistency at h
  split at h
  · cases h
    simp [Unanswered]
  · split at h
    · cases h
      simp [Unanswered]
    · cases h

theorem unanswered_read {osz : Osz} (h : host.read osz = .error result) : Unanswered result := by
  unfold Host.read at h
  split at h
  · cases h
    simp [Unanswered]
  · cases h
    simp only [Unanswered, archiveFailure, Option.map_some]
    split <;> simp
  · rename_i members hread
    cases hparse : members.mapM host.parse with
    | error e =>
      rw [hparse] at h
      cases h
      obtain ⟨member, -, hmember⟩ := exists_of_mapM_error hparse
      exact unanswered_parse hmember
    | ok parsed =>
      rw [hparse] at h
      simp only [bind, Except.bind] at h
      split at h
      · rename_i found hfound
        cases h
        exact unanswered_consistency hfound
      · cases h

theorem unanswered_prepareDifficulty {creator : String} {setId beatmapId : Int}
    {member : OszOsuMember} {metadata : OsuFileMetadata}
    (h : host.prepareDifficulty creator setId beatmapId member metadata = .error result) :
    Unanswered result := by
  unfold Host.prepareDifficulty at h
  cases htext : rewriteOsuFileIdentity member.text beatmapId setId creator with
  | error e =>
    rw [htext] at h
    cases h
    exact unanswered_ofMember (by decide) member.name e
  | ok text =>
    rw [htext] at h
    cases hname : canonicalOsuFilename metadata.artist metadata.title creator metadata.version with
    | error e =>
      rw [hname] at h
      cases h
      exact unanswered_ofMember (by decide) member.name e
    | ok filename =>
      rw [hname] at h
      cases hrating : host.calculateDifficulty text metadata.mode with
      | error e =>
        simp only [Except.mapError, bind, Except.bind, hrating] at h
        cases h
        exact unanswered_ofMember (by decide) member.name e
      | ok attributes =>
        simp only [Except.mapError, bind, Except.bind, hrating] at h
        cases h

theorem unanswered_prepare {setId : Int} {ids : List Int} {parsed : Parsed}
    (h : host.prepare u setId ids parsed = .error result) : Unanswered result := by
  unfold Host.prepare at h
  cases hmap : (ids.zip parsed).mapM fun x =>
      host.prepareDifficulty u.submitter.name setId x.1 x.2.1 x.2.2 with
  | error e =>
    rw [hmap] at h
    cases h
    obtain ⟨x, -, hx⟩ := exists_of_mapM_error hmap
    exact unanswered_prepareDifficulty hx
  | ok difficulties =>
    rw [hmap] at h
    cases h

end Refusals

-- No row has the difficulty's file name.
def New (st : Store) (d : PreparedDifficulty) : Prop := ∀ row ∈ st.maps, row.filename ≠ d.filename

-- What an upload has when only its transaction is left.
structure Written (host : Host) (u : Upload) (st : Store) (p : Prepared) (archive : List Entry) :
    Prop where
  prepares : ∃ parsed, Prepares host u p parsed
  new : ∀ d ∈ p.difficulties, New st d
  osus : ∀ d ∈ p.difficulties, st.osuFiles d.beatmapId = some d.data
  repacked : repackOsz u.osz p.replacements = some archive

-- What is known at each line of an upload that nothing else comes between.
def Submit.Line.Knows (host : Host) (u : Upload) (st : Store) : Submit.Line → Prop
  | countHosted u' => u' = u
  | allocateSet u' parsed => u' = u ∧ host.read u.osz = .ok parsed
  | allocateMap u' parsed _ ids =>
      u' = u ∧ host.read u.osz = .ok parsed ∧ ids.Nodup ∧ (∀ id ∈ ids, id < st.nextId) ∧
        ids.length < parsed.length
  | checkMd5 p d left | checkFilename p d left =>
      (∃ parsed, Prepares host u p parsed) ∧
        ∃ past, p.difficulties = past ++ d :: left ∧ ∀ other ∈ past, New st other
  | writeOsu p d left _ =>
      (∃ parsed, Prepares host u p parsed) ∧ (∀ other ∈ p.difficulties, New st other) ∧
        ∃ past, p.difficulties = past ++ d :: left ∧
          ∀ other ∈ past, st.osuFiles other.beatmapId = some other.data
  | writeArchive p _ archive => Written host u st p archive
  | commit p _ archive => Written host u st p archive ∧ st.archives p.setId = some archive

-- How far an upload has come: where it has nothing left to run, it has been refused, or its rows
-- are there.
inductive Uploads (host : Host) (u : Upload) (s₀ : Server) : Server → List Line → Prop
  | goes {s : Server} {line : Submit.Line} (htables : s.store.toTables = s₀.store.toTables)
      (hended : s.ended = s₀.ended) (hknows : line.Knows host u s.store) :
      Uploads host u s₀ s [.submit line]
  | refused {s : Server} {e : Ended} (hended : s.ended = s₀.ended ++ [e])
      (hresult : Unanswered e.result) : Uploads host u s₀ s []
  | accepted {s : Server} {store : Store} {p : Prepared} {archive : List Entry}
      (htables : store.toTables = s₀.store.toTables) (hwritten : Written host u store p archive)
      (harchive : store.archives p.setId = some archive)
      (hcommit : store.commitSubmission host p archive = some s.store) : Uploads host u s₀ s []

section Uploading

variable {host : Host} {u : Upload} {s₀ s : Server} {p : Prepared}

theorem uploads_endWith (hended : s.ended = s₀.ended) (setId : Option Int) (mapIds : List Int)
    {result : Refused} (hresult : Unanswered result) :
    Uploads host u s₀ (s.endWith setId mapIds result) [] := by
  refine .refused (e := { setId := setId, mapIds := mapIds, result := result }) ?_ hresult
  rw [← hended]
  rfl

theorem unanswered_none : Unanswered none := by simp [Unanswered]

theorem uploads_unwind (hended : s.ended = s₀.ended) (written : List Int) (archived : Bool) :
    Uploads host u s₀ (Submit.unwind s p written archived) [] := by
  refine .refused (e := { setId := some p.setId, mapIds := p.beatmapIds, result := none }) ?_
    unanswered_none
  rw [← hended]
  rfl

theorem uploads_writing (htables : s.store.toTables = s₀.store.toTables)
    (hended : s.ended = s₀.ended) (hprepares : ∃ parsed, Prepares host u p parsed)
    (hnew : ∀ d ∈ p.difficulties, New s.store d) (past : List PreparedDifficulty)
    {left : List PreparedDifficulty} (hleft : p.difficulties = past ++ left)
    (hpast : ∀ d ∈ past, s.store.osuFiles d.beatmapId = some d.data) (written : List Int) :
    Uploads host u s₀ (Submit.writing p s written left).1
      ((Submit.writing p s written left).2.map .submit) := by
  cases left with
  | cons d left => exact .goes htables hended ⟨hprepares, hnew, past, hleft, hpast⟩
  | nil =>
    obtain ⟨parsed, hp⟩ := hprepares
    simp only [Submit.writing]
    split
    · exact uploads_unwind hended written false
    · rename_i archive harchive
      rw [List.append_nil] at hleft
      rw [hp.upload] at harchive
      exact .goes htables hended ⟨⟨parsed, hp⟩, hnew, hleft ▸ hpast, harchive⟩

theorem uploads_checking (htables : s.store.toTables = s₀.store.toTables)
    (hended : s.ended = s₀.ended) (hprepares : ∃ parsed, Prepares host u p parsed)
    (past : List PreparedDifficulty) {left : List PreparedDifficulty}
    (hleft : p.difficulties = past ++ left) (hpast : ∀ d ∈ past, New s.store d) :
    Uploads host u s₀ (Submit.checking p s left).1
      ((Submit.checking p s left).2.map .submit) := by
  cases left with
  | cons d left => exact .goes htables hended ⟨hprepares, past, hleft, hpast⟩
  | nil =>
    rw [List.append_nil] at hleft
    exact uploads_writing htables hended hprepares (hleft ▸ hpast) [] rfl
      (fun d hd => absurd hd List.not_mem_nil) []

theorem uploads_preparing (htables : s.store.toTables = s₀.store.toTables)
    (hended : s.ended = s₀.ended) {parsed : Parsed} (hread : host.read u.osz = .ok parsed)
    {setId : Int} {ids : List Int} (hids : ids.Nodup) (hlt : ∀ id ∈ ids, id < s.store.nextId)
    (hlength : ids.length ≤ parsed.length) :
    Uploads host u s₀ (Submit.preparing host u parsed setId ids s).1
      ((Submit.preparing host u parsed setId ids s).2.map .submit) := by
  unfold Submit.preparing
  split
  · rename_i hless
    exact .goes htables hended ⟨rfl, hread, hids, hlt, hless⟩
  · rename_i hless
    split
    · rename_i result herror
      exact uploads_endWith hended _ _ (unanswered_prepare herror)
    · rename_i p hprepare
      have hp := prepares_of_prepare hread hids (by omega) hprepare
      exact uploads_checking htables hended ⟨parsed, hp⟩ [] rfl
        fun d hd => absurd hd List.not_mem_nil

theorem maps_of_tables {st st' : Store} (h : st.toTables = st'.toTables) : st.maps = st'.maps :=
  congrArg Tables.maps h

theorem nodup_allocated {ids : List Int} {nextId : Int} (hids : ids.Nodup)
    (hlt : ∀ id ∈ ids, id < nextId) : (ids ++ [nextId]).Nodup ∧ ∀ id ∈ ids ++ [nextId], id < nextId + 1 := by
  constructor
  · refine (List.perm_append_singleton _ _).nodup_iff.mpr (List.nodup_cons.mpr ⟨?_, hids⟩)
    exact fun hmem => lt_irrefl _ (hlt _ hmem)
  · intro id hid
    rcases List.mem_append.mp hid with hold | hnew
    · have := hlt id hold
      omega
    · have := List.mem_singleton.mp hnew
      omega

-- The difficulty that is written has an id of its own.
theorem osus_writeOsu {d : PreparedDifficulty} {past left : List PreparedDifficulty}
    (hids : p.beatmapIds.Nodup) (hleft : p.difficulties = past ++ d :: left)
    (hpast : ∀ other ∈ past, s.store.osuFiles other.beatmapId = some other.data) :
    ∀ other ∈ past ++ [d],
      (s.store.writeOsu d).osuFiles other.beatmapId = some other.data := by
  intro other hother
  rcases List.mem_append.mp hother with hold | hnew
  · have hne : other.beatmapId ≠ d.beatmapId := by
      rw [Prepared.beatmapIds, hleft, List.map_append, List.nodup_append] at hids
      exact hids.2.2 _ (List.mem_map_of_mem hold) _ List.mem_cons_self
    exact (Function.update_of_ne hne _ _).trans (hpast other hold)
  · rw [List.mem_singleton.mp hnew]
    exact Function.update_self _ _ _

theorem Uploads.perform {line : Line} {rest : List Line} (h : Uploads host u s₀ s (line :: rest)) :
    Uploads host u s₀ (line.perform host s).1 ((line.perform host s).2 ++ rest) := by
  cases h with
  | @goes line htables hended hknows =>
    rw [List.append_nil]
    change Uploads host u s₀ (line.perform host s).1 ((line.perform host s).2.map .submit)
    cases line with
    | countHosted u' =>
      obtain rfl : u' = u := hknows
      simp only [Submit.Line.perform]
      split
      · rename_i result hresult
        exact uploads_endWith hended _ _ (unanswered_eligibility hresult)
      · split
        · exact uploads_endWith hended _ _ (by simp [Unanswered, quotaExceeded])
        · split
          · rename_i result hread
            exact uploads_endWith hended _ _ (unanswered_read hread)
          · rename_i parsed hread
            exact .goes htables hended ⟨rfl, hread⟩
    | allocateSet u' parsed =>
      obtain ⟨rfl, hread⟩ := hknows
      simp only [Submit.Line.perform]
      split
      · exact uploads_endWith (by exact hended) _ _ unanswered_none
      · exact uploads_preparing (by exact htables) (by exact hended) hread List.nodup_nil
          (fun id hid => absurd hid List.not_mem_nil) (Nat.zero_le _)
    | allocateMap u' parsed setId ids =>
      obtain ⟨rfl, hread, hids, hlt, hless⟩ := hknows
      obtain ⟨hnodup, hall⟩ := nodup_allocated hids hlt
      simp only [Submit.Line.perform]
      split
      · exact uploads_endWith (by exact hended) _ _ unanswered_none
      · refine uploads_preparing (by exact htables) (by exact hended) hread hnodup hall ?_
        rw [List.length_append, List.length_singleton]
        omega
    | checkMd5 p d left =>
      simp only [Submit.Line.perform]
      split
      · exact uploads_endWith hended _ _ (by simp [Unanswered, Submit.checksumAlreadyExists])
      · exact .goes htables hended hknows
    | checkFilename p d left =>
      obtain ⟨hprepares, past, hleft, hpast⟩ := hknows
      simp only [Submit.Line.perform]
      split
      · exact uploads_endWith hended _ _ (by simp [Unanswered, Submit.filenameAlreadyExists])
      · rename_i hnone
        refine uploads_checking htables hended hprepares (past ++ [d]) (by simp [hleft]) ?_
        intro other hother
        rcases List.mem_append.mp hother with hold | hnew
        · exact hpast other hold
        · rw [List.mem_singleton.mp hnew]
          simpa [New] using hnone
    | writeOsu p d left written =>
      obtain ⟨⟨parsed, hp⟩, hnew, past, hleft, hpast⟩ := hknows
      exact @uploads_writing host u s₀ { s with store := s.store.writeOsu d } p htables hended
        ⟨parsed, hp⟩ hnew (past ++ [d]) left (by simp [hleft])
        (osus_writeOsu hp.nodup hleft hpast) _
    | writeArchive p written archive =>
      refine .goes (by exact htables) (by exact hended) ⟨?_, Function.update_self _ _ _⟩
      exact ⟨hknows.prepares, hknows.new, hknows.osus, hknows.repacked⟩
    | commit p written archive =>
      obtain ⟨hwritten, harchive⟩ := hknows
      simp only [Submit.Line.perform]
      split
      · exact uploads_unwind hended written true
      · rename_i store hcommit
        exact .accepted htables hwritten harchive hcommit

end Uploading

section Archives

variable {host : Host} {u : Upload} {st : Store} {p : Prepared} {parsed : Parsed}
  {archive : List Entry} {d : PreparedDifficulty}

theorem parse_eq_ok {member : OszOsuMember} {x : OszOsuMember × OsuFileMetadata}
    (h : host.parse member = .ok x) : x.1 = member := by
  simp only [Host.parse] at h
  split at h
  · cases h
  · rw [← Except.ok.inj h]

-- The members that are read are the .osu members of the archive.
theorem names_of_read {osz : Osz} (h : host.read osz = .ok parsed) :
    ∃ infos, osz.infolist = .ok infos ∧
      (infos.filter ZipInfo.isOsu).map ZipInfo.filename = parsed.map fun x => x.1.name := by
  unfold Host.read at h
  split at h
  · cases h
  · cases h
  · rename_i members hread
    cases hparse : members.mapM host.parse with
    | error e =>
      rw [hparse] at h
      cases h
    | ok found =>
      rw [hparse] at h
      simp only [bind, Except.bind] at h
      split at h
      · cases h
      · obtain ⟨infos, hinfos, hall⟩ := readOsz_eq_ok hread
        have hparsed := map_eq_of_forall₂ (g := fun x => x.1.name) (forall₂_of_mapM hparse)
          fun _ _ hx => congrArg OszOsuMember.name (parse_eq_ok hx).symm
        have hmembers := map_eq_of_forall₂ (f := ZipInfo.filename) hall
          fun _ _ hm => (readMember_name hm).symm
        rw [← Except.ok.inj h]
        exact ⟨infos, hinfos, hmembers.trans hparsed⟩

theorem keys_replacements :
    (p.difficulties.map fun d : PreparedDifficulty =>
      (d.originalMemberName, ({ name := d.filename, text := d.text } : OszOsuMember))).map Prod.fst =
        p.difficulties.map PreparedDifficulty.originalMemberName := by
  rw [List.map_map]
  rfl

theorem lookup_replacements {name : String} {replacement : OszOsuMember}
    (h : p.replacements.lookup name = some replacement) :
    ∃ d ∈ p.difficulties, d.originalMemberName = name ∧ replacement = { name := d.filename, text := d.text } := by
  obtain ⟨d, hd, heq⟩ := List.mem_map.mp (mem_of_lookup_dictOf h)
  cases heq
  exact ⟨d, hd, rfl, rfl⟩

theorem isSome_replacements {name : String} : (p.replacements.lookup name).isSome ↔
    name ∈ p.difficulties.map PreparedDifficulty.originalMemberName := by
  rw [← keys_replacements]
  exact isSome_lookup_dictOf

-- The .osu members of the archive that is stored.
theorem Written.osu (h : Written host u st p archive) :
    (archive.filter fun entry => isOsuName entry.name) =
      p.difficulties.map fun d => replaced p.replacements d.originalMemberName := by
  obtain ⟨parsed, hp⟩ := h.prepares
  obtain ⟨infos, hinfos, hnames⟩ := names_of_read hp.read
  have hrepacked := h.repacked
  simp only [repackOsz, hinfos] at hrepacked
  have hsame := hp.names.trans hnames.symm
  have hosu := osu_of_repack (fun name => hsame ▸ isSome_replacements) (fun name replacement hfound => ?_)
    hrepacked
  · rw [hosu]
    have hmap := congrArg (List.map (replaced p.replacements)) hsame.symm
    rw [List.map_map, List.map_map] at hmap
    exact hmap
  · obtain ⟨d, hd, -, rfl⟩ := lookup_replacements hfound
    exact hp.isOsuName hd

theorem Written.named (h : Written host u st p archive) (hd : d ∈ p.difficulties) :
    (archive.filter fun entry => entry.name = d.filename) =
      (p.difficulties.map fun d => replaced p.replacements d.originalMemberName).filter
        fun entry => entry.name = d.filename := by
  obtain ⟨parsed, hp⟩ := h.prepares
  rw [← h.osu, List.filter_filter]
  refine List.filter_congr fun entry _ => ?_
  by_cases heq : entry.name = d.filename
  · simp [heq, hp.isOsuName hd]
  · simp [heq]

theorem replaced_of_nodup
    (hnodup : (p.difficulties.map PreparedDifficulty.originalMemberName).Nodup)
    (hd : d ∈ p.difficulties) : replaced p.replacements d.originalMemberName =
      { name := d.filename, data := encodeUtf8 d.text } := by
  have hlookup : p.replacements.lookup d.originalMemberName =
      some { name := d.filename, text := d.text } := by
    refine lookup_dictOf_of_nodup (keys_replacements ▸ hnodup) ?_
    exact List.mem_map.mpr ⟨d, hd, rfl⟩
  rw [replaced, hlookup]

-- A name that two members have is written twice.
theorem Written.nodup_of_single (h : Written host u st p archive)
    (hsingle : ∀ d ∈ p.difficulties, ∃ entry,
      (archive.filter fun other => other.name = d.filename) = [entry]) :
    (p.difficulties.map PreparedDifficulty.originalMemberName).Nodup := by
  by_contra hnot
  obtain ⟨name, hname⟩ := List.exists_duplicate_iff_not_nodup.mpr hnot
  have htwice := List.duplicate_iff_two_le_count.mp hname
  obtain ⟨replacement, hlookup⟩ := Option.isSome_iff_exists.mp (isSome_replacements.mpr hname.mem)
  obtain ⟨d, hd, -, rfl⟩ := lookup_replacements hlookup
  obtain ⟨entry, hentry⟩ := hsingle d hd
  have hcount : (p.difficulties.map PreparedDifficulty.originalMemberName).count name ≤
      ((p.difficulties.map fun d => replaced p.replacements d.originalMemberName).filter
        fun entry => entry.name = d.filename).length := by
    rw [← List.countP_eq_length_filter, List.count_eq_countP, List.countP_map, List.countP_map]
    refine List.countP_mono_left fun other _ heq => ?_
    have hsame : other.originalMemberName = name := by simpa using heq
    simp [Function.comp_apply, hsame, replaced, hlookup]
  rw [← h.named hd, hentry] at hcount
  simp only [List.length_singleton] at hcount
  omega

theorem Written.single_of_nodup (h : Written host u st p archive)
    (hnames : (p.difficulties.map PreparedDifficulty.originalMemberName).Nodup)
    (hfilenames : (p.difficulties.map PreparedDifficulty.filename).Nodup)
    (hd : d ∈ p.difficulties) : (archive.filter fun other => other.name = d.filename) =
      [{ name := d.filename, data := encodeUtf8 d.text }] := by
  have hmap : (p.difficulties.map fun d => replaced p.replacements d.originalMemberName) =
      p.difficulties.map fun d => { name := d.filename, data := encodeUtf8 d.text } :=
    List.map_congr_left fun other hother => replaced_of_nodup hnames hother
  have hkeys : ((p.difficulties.map fun d : PreparedDifficulty =>
      ({ name := d.filename, data := encodeUtf8 d.text } : Entry)).map Entry.name).Nodup := by
    rw [List.map_map]
    exact hfilenames
  rw [h.named hd, hmap]
  exact filter_of_mem hkeys (List.mem_map.mpr ⟨d, hd, rfl⟩)

end Archives

section Theorems

variable {host : Host} {u : Upload} {s₀ s : Server}

theorem createdRows_of_commit {st st' : Store} {p : Prepared} {archive : List Entry}
    (h : st.commitSubmission host p archive = some st') {before : Store}
    (hmaps : st.maps = before.maps) : createdRows before st' = p.rows := by
  obtain ⟨mapsets, mapset, maps, -, -, -, hinsert, -, rfl⟩ := commitSubmission_eq_some h
  obtain ⟨rfl, -, -⟩ := insertMaps_eq_some hinsert
  have hnew := insertMaps_new hinsert
  rw [hmaps] at hnew ⊢
  simp only [createdRows, List.filter_append]
  rw [List.filter_eq_nil_iff.mpr (by simp), List.nil_append,
    List.filter_eq_self.mpr fun row hrow => by simpa using hnew row hrow]

theorem alone_consistent_iff (h : Tasks.Alone (Line.perform host) s₀ [.submit (.countHosted u)] s)
    (hcreated : ∃ e : Ended, s.ended = s₀.ended ++ [e] ∧ e.created) :
    Consistent host s₀.store s.store ↔ u.Distinct host := by
  have huploads : Uploads host u s₀ s [] :=
    Tasks.Alone.keeps (fun w line rest hw => hw.perform) h (.goes rfl rfl rfl)
  cases huploads with
  | @refused e hended hresult =>
    obtain ⟨other, hother, hcode⟩ := hcreated
    have heq := List.append_cancel_left (hended.symm.trans hother)
    cases heq
    exact absurd (of_decide_eq_true hcode) hresult
  | @accepted store p archive htables hwritten harchive hcommit =>
    obtain ⟨parsed, hp⟩ := hwritten.prepares
    have hmaps := maps_of_tables htables
    have hrows := createdRows_of_commit hcommit hmaps
    obtain ⟨mapsets, mapset, maps, -, -, -, -, -, hstore⟩ := commitSubmission_eq_some hcommit
    have hosus : s.store.osuFiles = store.osuFiles := by rw [hstore]
    have harchives : s.store.archives = store.archives := by rw [hstore]
    have hnames : (createdRows s₀.store s.store).map Beatmaps.Beatmap.filename =
        p.difficulties.map PreparedDifficulty.filename := by
      rw [hrows, Prepared.rows, List.map_map]
      rfl
    rw [hp.distinct_iff]
    constructor
    · intro hconsistent
      refine ⟨hwritten.nodup_of_single fun d hd => ?_, hnames ▸ hconsistent.filenames⟩
      obtain ⟨stored, entry, hstored, hentry, -⟩ :=
        hconsistent.hosted (p.row d) (hrows ▸ List.mem_map_of_mem hd)
      cases (harchives ▸ hstored).symm.trans harchive
      exact ⟨entry, hentry⟩
    · rintro ⟨horiginal, hfilenames⟩
      refine ⟨hnames ▸ hfilenames, fun row hrow old hold => ?_, fun row hrow => ?_⟩
      · obtain ⟨d, hd, rfl⟩ := List.mem_map.mp (hrows ▸ hrow)
        exact hwritten.new d hd old (hmaps ▸ hold)
      · obtain ⟨d, hd, rfl⟩ := List.mem_map.mp (hrows ▸ hrow)
        obtain ⟨hdata, hmd5⟩ := hp.data d hd
        refine ⟨archive, _, harchives ▸ harchive,
          hwritten.single_of_nodup horiginal hfilenames hd, ?_, ?_⟩
        · rw [← hdata]
          exact hmd5.symm
        · rw [hosus, ← hdata]
          exact hwritten.osus d hd

-- An upload that is accepted is consistent exactly where its members and its file names differ.
theorem consistent_iff (h : Tasks.Alone (Line.perform host) s₀ [.submit (.countHosted u)] s)
    (hcreated : ∃ e, s.ended = s₀.ended ++ [e] ∧ e.created) :
    Consistent host s₀.store s.store ↔ u.Distinct host := alone_consistent_iff h hcreated

end Theorems

section Accepting

variable {host : Host} {u : Upload} {p : Prepared} {archive : List Entry}

theorem insertMaps_append {table rows : List Beatmaps.Beatmap}
    (hnew : ∀ row ∈ rows, ∀ old ∈ table, old.id ≠ row.id ∧ old.md5 ≠ row.md5)
    (hids : (rows.map Beatmaps.Beatmap.id).Nodup) (hmd5s : (rows.map Beatmaps.Beatmap.md5).Nodup) :
    insertMaps table rows = some (table ++ rows) := by
  induction rows generalizing table with
  | nil => rw [insertMaps, List.append_nil]
  | cons row rest ih =>
    rw [List.map_cons, List.nodup_cons] at hids hmd5s
    have hnone : (table.any fun other => other.id = row.id || other.md5 = row.md5) = false := by
      rw [List.any_eq_false]
      intro old hold
      simpa using hnew row List.mem_cons_self old hold
    rw [insertMaps, hnone, if_neg Bool.false_ne_true, ih ?_ hids.2 hmd5s.2, List.append_assoc]
    · rfl
    · intro later hlater old hold
      rcases List.mem_append.mp hold with htable | hrow
      · exact hnew later (List.mem_cons_of_mem _ hlater) old htable
      · rw [List.mem_singleton.mp hrow]
        exact ⟨fun heq => hids.1 (heq ▸ List.mem_map_of_mem hlater),
          fun heq => hmd5s.1 (heq ▸ List.mem_map_of_mem hlater)⟩

-- Nothing in the tables speaks against a prepared upload.
structure Welcome (tables : Tables) (p : Prepared) : Prop where
  setId : tables.Unused p.setId
  beatmapIds : ∀ id ∈ p.beatmapIds, tables.Unused id
  nodup : p.beatmapIds.Nodup
  md5s : (p.difficulties.map PreparedDifficulty.md5).Nodup
  newMd5s : ∀ d ∈ p.difficulties, ∀ row ∈ tables.maps, row.md5 ≠ d.md5
  filenames : ∀ d ∈ p.difficulties, ∀ row ∈ tables.maps, row.filename ≠ d.filename

-- The transaction goes through when the set's id is new and so are the maps.
theorem commits_of_unused {st : Store} (hset : st.Unused p.setId) {maps : List Beatmaps.Beatmap}
    (hmaps : insertMaps st.maps p.rows = some maps) (archive : List Entry) :
    ∃ st', st.commitSubmission host p archive = some st' := by
  have hmapset : fetchBy MapSetRow.id (upsertBy MapSetRow.id st.mapsets
      { id := p.setId, server := .PRIVATE, lastOsuapiCheck := p.upload.timestamp }
      fun old => { old with lastOsuapiCheck := p.upload.timestamp }) p.setId =
        some { id := p.setId, server := .PRIVATE, lastOsuapiCheck := p.upload.timestamp } := by
    have hnone : fetchBy MapSetRow.id st.mapsets p.setId = none :=
      fetchBy_eq_none.mpr hset.mapsets
    have hfetch := @fetchBy_upsertBy _ _ _ MapSetRow.id st.mapsets p.setId
      { id := p.setId, server := .PRIVATE, lastOsuapiCheck := p.upload.timestamp }
      (fun old => { old with lastOsuapiCheck := p.upload.timestamp }) fun _ => rfl
    rw [hfetch, if_pos rfl, hnone]
    rfl
  have hsubmission : st.fetchSubmission p.setId = none :=
    fetchBy_eq_none.mpr hset.submissions
  rw [← Option.isSome_iff_exists]
  simp [Store.commitSubmission, hmapset, hmaps, hsubmission]

theorem Welcome.commits {st : Store} (h : Welcome st.toTables p) (archive : List Entry) :
    ∃ st', st.commitSubmission host p archive = some st' := by
  have hmaps : insertMaps st.maps p.rows = some (st.maps ++ p.rows) := by
    refine insertMaps_append (fun row hrow old hold => ?_) ?_ ?_
    · obtain ⟨d, hd, rfl⟩ := List.mem_map.mp hrow
      exact ⟨((h.beatmapIds d.beatmapId (List.mem_map_of_mem hd)).maps old hold).1,
        h.newMd5s d hd old hold⟩
    · rw [Prepared.rows, List.map_map]
      exact h.nodup
    · rw [Prepared.rows, List.map_map]
      exact h.md5s
  exact commits_of_unused h.setId hmaps archive

-- The lines of an upload, run to their end, have it answered with CREATED.
def Accepts (host : Host) (ended : List Ended) (x : Server × List Submit.Line) : Prop :=
  ∃ s', Tasks.Alone (Line.perform host) x.1 (x.2.map .submit) s' ∧
    ∃ e, s'.ended = ended ++ [e] ∧ e.created

variable {s : Server}

theorem Accepts.line {ended : List Ended} {line : Submit.Line}
    (h : Accepts host ended (line.perform host s)) : Accepts host ended (s, [line]) := by
  obtain ⟨s', halone, hcreated⟩ := h
  refine ⟨s', Tasks.Alone.cons ?_, hcreated⟩
  change Tasks.Alone (Line.perform host) (line.perform host s).1
    ((line.perform host s).2.map .submit ++ []) s'
  rw [List.append_nil]
  exact halone

theorem accepts_commit (h : Welcome s.store.toTables p) (written : List Int) :
    Accepts host s.ended (s, [.commit p written archive]) := by
  obtain ⟨store, hcommit⟩ := @Welcome.commits host _ _ h archive
  refine Accepts.line ?_
  simp only [Submit.Line.perform, hcommit]
  exact ⟨_, Tasks.Alone.nil _, _, rfl, rfl⟩

theorem accepts_writing (h : Welcome s.store.toTables p)
    (hrepack : repackOsz p.upload.osz p.replacements = some archive) (written : List Int)
    (left : List PreparedDifficulty) : Accepts host s.ended (Submit.writing p s written left) := by
  induction left generalizing s written with
  | nil =>
    simp only [Submit.writing, hrepack]
    refine Accepts.line ?_
    exact @accepts_commit _ _ _ { s with store := s.store.writeArchive p.setId archive } h written
  | cons d left ih =>
    refine Accepts.line ?_
    exact @ih { s with store := s.store.writeOsu d } h (written ++ [d.beatmapId])

theorem accepts_checking (h : Welcome s.store.toTables p)
    (hrepack : repackOsz p.upload.osz p.replacements = some archive)
    {left : List PreparedDifficulty} (hleft : ∀ d ∈ left, d ∈ p.difficulties) :
    Accepts host s.ended (Submit.checking p s left) := by
  induction left with
  | nil => exact accepts_writing h hrepack [] p.difficulties
  | cons d left ih =>
    have hd := hleft d List.mem_cons_self
    have hmd5 : (s.store.maps.any fun row => row.md5 = d.md5) = false := by
      rw [List.any_eq_false]
      intro row hrow
      simpa using h.newMd5s d hd row hrow
    have hname : (s.store.maps.any fun row => row.filename = d.filename) = false := by
      rw [List.any_eq_false]
      intro row hrow
      simpa using h.filenames d hd row hrow
    refine Accepts.line ?_
    simp only [Submit.Line.perform, hmd5, Bool.false_eq_true, if_false]
    refine Accepts.line ?_
    simp only [Submit.Line.perform, hname, Bool.false_eq_true, if_false]
    exact ih fun other hother => hleft other (List.mem_cons_of_mem d hother)

-- The next ids that are given out.
def nextIds (first : Int) : Nat → List Int
  | 0 => []
  | count + 1 => first :: nextIds (first + 1) count

theorem le_of_mem_nextIds {first id : Int} {count : Nat} (h : id ∈ nextIds first count) :
    first ≤ id := by
  induction count generalizing first with
  | zero => cases h
  | succ count ih =>
    rcases List.mem_cons.mp h with rfl | hrest
    · exact le_refl _
    · have := ih hrest
      omega

theorem nodup_nextIds (first : Int) (count : Nat) : (nextIds first count).Nodup := by
  induction count generalizing first with
  | zero => exact List.nodup_nil
  | succ count ih =>
    refine List.nodup_cons.mpr ⟨fun hmem => ?_, ih (first + 1)⟩
    have := le_of_mem_nextIds hmem
    omega

theorem accepts_preparing {parsed : Parsed} {setId : Int} {ids : List Int} {count : Nat}
    (hcount : ids.length + count = parsed.length)
    (hfloor : privateBeatmapIdFloor ≤ s.store.nextId)
    (hprepare : host.prepare u setId (ids ++ nextIds s.store.nextId count) parsed = .ok p)
    (h : Welcome s.store.toTables p)
    (hrepack : repackOsz p.upload.osz p.replacements = some archive) :
    Accepts host s.ended (Submit.preparing host u parsed setId ids s) := by
  induction count generalizing s ids with
  | zero =>
    rw [nextIds, List.append_nil] at hprepare
    unfold Submit.preparing
    rw [if_neg (by omega), hprepare]
    exact accepts_checking h hrepack fun d hd => hd
  | succ count ih =>
    unfold Submit.preparing
    rw [if_pos (by omega)]
    refine Accepts.line ?_
    simp only [Submit.Line.perform]
    rw [if_neg (not_lt.mpr hfloor)]
    refine @ih { s with store := { s.store with nextId := s.store.nextId + 1 } } _ ?_ ?_ ?_ h
    · rw [List.length_append, List.length_singleton]
      omega
    · dsimp only
      omega
    · dsimp only
      rw [List.append_assoc]
      exact hprepare

-- An upload that nothing speaks against is accepted.
theorem upload_accepted {parsed : Parsed} (heligible : checkEligibility u = none)
    (hquota : s.store.countHosted u.submitter.id < host.maxSubmissionsPerUser)
    (hread : host.read u.osz = .ok parsed) (hfloor : privateBeatmapIdFloor ≤ s.store.nextId)
    (hprepare : host.prepare u s.store.nextId (nextIds (s.store.nextId + 1) parsed.length) parsed =
      .ok p)
    (h : Welcome s.store.toTables p) (hrepack : repackOsz u.osz p.replacements = some archive) :
    Accepts host s.ended (s, [.countHosted u]) := by
  obtain rfl := (prepare_eq_ok hprepare).1
  refine Accepts.line ?_
  simp only [Submit.Line.perform, heligible, hread]
  rw [if_neg (not_le.mpr hquota)]
  refine Accepts.line ?_
  simp only [Submit.Line.perform]
  rw [if_neg (not_lt.mpr hfloor)]
  refine @accepts_preparing _ _ _ _ { s with store := { s.store with nextId := s.store.nextId + 1 } }
    parsed s.store.nextId [] parsed.length ?_ ?_ hprepare h hrepack
  · simp
  · dsimp only
    omega

end Accepting

-- What is read of a map of plainUpload, and what is hosted of it.
def plainMetadata (version : String) : OsuFileMetadata where
  formatVersion := 14
  artist := "artist"
  title := "title"
  version := version
  declaredCreator := ""
  mode := 0
  hp := 5
  cs := 4
  od := 8
  ar := 8
  bpm := 120
  totalLength := 0
  hitObjectCount := 1

def hostedText (version : String) (id : Int) : String :=
  let identity := ["BeatmapID:" ++ toString id, "BeatmapSetID:2000000002", "Creator:mapper"]
  let lines := (plainLines version).take 6 ++ identity ++ (plainLines version).drop 6
  "\n".intercalate lines ++ "\n"

-- The difficulties of two names that no file name tells apart, and what MD5 is of them.
def hostedHard : List (String × Int × String) :=
  [("Hard", 2000000003, "cfc1fd49004a6397f82d4b135b7407d1"),
    ("Hard?", 2000000004, "e71fd7a4d228382519966551ec3614f5")]

def hashingHost : Host :=
  { plainHost with
    md5 := fun data =>
      ((hostedHard.find? fun x => encodeUtf8 (hostedText x.1 x.2.1) = data).map fun x => x.2.2).getD "" }

section Plain

def plainChars (version : String) : List Char :=
  (plainLines version).flatMap fun line => line.toList ++ ['\n']

def plainSections (version : String) : List (String × List String) :=
  [("General", []), ("Metadata", ["Artist:artist", "Title:title", "Version:" ++ version]),
    ("Difficulty", ["HPDrainRate:5", "CircleSize:4", "OverallDifficulty:8"]),
    ("TimingPoints", ["0,500,4,2,0,50,1,0"]), ("HitObjects", ["64,64,0,1,0"])]

-- A text is read in stages, each from what the one before has made of it.
theorem stages_plain : ∀ x ∈ hostedHard,
    Text.splitLines (plainChars x.1) = (plainLines x.1).map String.toList ∧
      parseFormatVersion plainBuiltins ((plainLines x.1).map String.toList) = .ok 14 ∧
      splitSections ((plainLines x.1).map String.toList) = plainSections x.1 ∧
      parseKeyValues (bodyOf (plainSections x.1) "General") = [] ∧
      parseKeyValues (bodyOf (plainSections x.1) "Metadata") =
        [("Artist", "artist"), ("Title", "title"), ("Version", x.1)] ∧
      parseKeyValues (bodyOf (plainSections x.1) "Difficulty") =
        [("HPDrainRate", "5"), ("CircleSize", "4"), ("OverallDifficulty", "8")] := by
  decide

theorem parse_plain : ∀ x ∈ hostedHard,
    parseOsuFile plainBuiltins (plainText x.1) = .ok (plainMetadata x.1) := by
  intro x hx
  obtain ⟨hsplit, hversion, hsections, hgeneral, hmetadata, hdifficulty⟩ := stages_plain x hx
  have hlines : Text.splitLines ((plainLines x.1).flatMap fun line => line.toList ++ ['\n']) =
      (plainLines x.1).map String.toList := hsplit
  simp only [parseOsuFile, plainText, String.toList_ofList, hlines, hsections, hversion, hgeneral,
    hmetadata, hdifficulty]
  clear hsplit hversion hsections hgeneral hmetadata hdifficulty hlines
  revert x
  decide +kernel

-- A rewriting, from the stages that the text is read in.
theorem rewrite_of_stages {text creator : String} {chars : List Char} {lines : List (List Char)}
    {start stop : Nat} {beatmapId setId : Int} (htext : text.toList = chars)
    (hsplit : Text.splitLines chars = lines)
    (hbounds : sectionBounds lines "Metadata" = some (start, stop))
    (hnewline : ¬"\r\n".toList <:+: chars) (hlast : chars.getLast? = some '\n') :
    rewriteOsuFileIdentity text beatmapId setId creator =
      .ok ("\n".intercalate
        (let replacements := [("BeatmapID", toString beatmapId), ("BeatmapSetID", toString setId),
            ("Creator", creator)]
         let entry : String × String → String := fun r => r.1 ++ ":" ++ r.2
         let body := (lines.take stop).drop start
         (lines.take start).map String.ofList ++
            body.map (fun line =>
              (replacements.find? fun r => r.1 = keyOf line).elim (String.ofList line) entry) ++
            (replacements.filter fun r => r.1 ∉ body.map keyOf).map entry ++
          (lines.drop stop).map String.ofList) ++ "\n") := by
  simp only [rewriteOsuFileIdentity, htext, hsplit, hbounds, hnewline, hlast, if_false]
  congr with line
  generalize List.find? _ _ = found
  cases found <;> rfl

theorem sections_plain : ∀ x ∈ hostedHard,
    sectionBounds ((plainLines x.1).map String.toList) "Metadata" = some (3, 6) ∧
      ¬"\r\n".toList <:+: plainChars x.1 ∧ (plainChars x.1).getLast? = some '\n' := by
  decide +kernel

theorem plainText_toList (version : String) : (plainText version).toList = plainChars version :=
  String.toList_ofList

theorem rewrite_plain : ∀ x ∈ hostedHard,
    rewriteOsuFileIdentity (plainText x.1) x.2.1 2000000002 "mapper" =
      .ok (hostedText x.1 x.2.1) := by
  intro x hx
  obtain ⟨hbounds, hnewline, hlast⟩ := sections_plain x hx
  rw [rewrite_of_stages (plainText_toList x.1) (stages_plain x hx).1 hbounds hnewline hlast]
  refine congrArg (fun lines => Except.ok ("\n".intercalate lines ++ "\n")) ?_
  clear hbounds hnewline hlast
  revert x
  decide

-- What is computed of a difficulty that is hosted.
theorem hosted_plain : ∀ x ∈ hostedHard,
    canonicalOsuFilename "artist" "title" "mapper" x.1 =
        .ok "artist - title (mapper) [Hard].osu" ∧
      hashingHost.md5 (encodeUtf8 (hostedText x.1 x.2.1)) = x.2.2 := by
  decide +kernel

-- What is prepared of a map of plainUpload.
def plainPrepared (name : String) (x : String × Int × String) : PreparedDifficulty where
  beatmapId := x.2.1
  originalMemberName := name
  filename := "artist - title (mapper) [Hard].osu"
  text := hostedText x.1 x.2.1
  data := encodeUtf8 (hostedText x.1 x.2.1)
  md5 := x.2.2
  metadata := plainMetadata x.1
  attributes := { maxCombo := 1, stars := 1 }

theorem prepareDifficulty_plain (name : String) {x : String × Int × String} (hx : x ∈ hostedHard) :
    hashingHost.prepareDifficulty "mapper" 2000000002 x.2.1
      { name := name, text := plainText x.1 } (plainMetadata x.1) = .ok (plainPrepared name x) := by
  have hname : canonicalOsuFilename (plainMetadata x.1).artist (plainMetadata x.1).title "mapper"
      (plainMetadata x.1).version = .ok "artist - title (mapper) [Hard].osu" := (hosted_plain x hx).1
  have hprepared := @prepareDifficulty_of_ok hashingHost "mapper" 2000000002 x.2.1
    { name := name, text := plainText x.1 } (plainMetadata x.1) _ _ _ (rewrite_plain x hx) hname rfl
  rw [(hosted_plain x hx).2] at hprepared
  exact hprepared

-- The names of the archives that are uploaded here.
def plainNames : List String := ["a.osu", "b.osu"]

theorem members_plain : ∀ x ∈ hostedHard,
    byteOrderMark.isPrefixOf? (encodeUtf8 (plainText x.1)) = none ∧
      ∀ name ∈ plainNames, (plainMember name x.1).isOsu ∧
        validateMember plainBuiltins plainHost.limits (plainMember name x.1) = .ok () := by
  decide +kernel

theorem readMember_plain (name : String) {x : String × Int × String} (hx : x ∈ hostedHard) :
    readMember plainBuiltins plainHost.limits (plainMember name x.1) =
      .ok { name := name, text := plainText x.1 } := by
  simp only [readMember, plainMember, decode_encode (members_plain x hx).1]
  rfl

-- A member's name, and the difficulty in it.
abbrev PlainItem := String × String × Int × String

def plainOf (items : List PlainItem) : Upload := plainUpload (items.map fun i => (i.1, i.2.1))

def plainParsed (i : PlainItem) : OszOsuMember × OsuFileMetadata :=
  ({ name := i.1, text := plainText i.2.1 }, plainMetadata i.2.1)

variable {items : List PlainItem}

theorem readOsz_plain (hitems : ∀ i ∈ items, i.1 ∈ plainNames ∧ i.2 ∈ hostedHard)
    (hnonempty : items ≠ []) (hlength : items.length ≤ 2) :
    readOsz plainBuiltins plainHost.limits (plainOf items).osz =
      .ok (items.map fun i => (plainParsed i).1) := by
  have hinfos : (plainOf items).osz.infolist = .ok (items.map fun i => plainMember i.1 i.2.1) := by
    simp only [plainOf, plainUpload, List.map_map]
    rfl
  have hosu : (items.map fun i => plainMember i.1 i.2.1).filter ZipInfo.isOsu =
      items.map fun i => plainMember i.1 i.2.1 := by
    rw [List.filter_eq_self]
    intro info hinfo
    obtain ⟨i, hi, rfl⟩ := List.mem_map.mp hinfo
    exact ((members_plain i.2 (hitems i hi).2).2 i.1 (hitems i hi).1).1
  have hsizes : ((items.map fun i => plainMember i.1 i.2.1).map ZipInfo.fileSize).sum =
      200 * items.length := by
    have hsize : ZipInfo.fileSize ∘ (fun i : PlainItem => plainMember i.1 i.2.1) = fun _ => 200 := rfl
    rw [List.map_map, hsize, List.map_const', List.sum_replicate_nat, Nat.mul_comm]
  have hread : ∀ i ∈ items, (readMember plainBuiltins plainHost.limits ∘
      fun i : PlainItem => plainMember i.1 i.2.1) i = .ok (plainParsed i).1 := by
    intro i hi
    rw [Function.comp_apply, readMember_plain i.1 (hitems i hi).2]
    rfl
  refine readOsz_of_ok hinfos ?_ ?_ ?_ (fun info hinfo => ?_) ?_ ?_ ?_
  · exact (by decide : 900 ≤ 1000)
  · rw [List.length_map]
    exact le_trans hlength (by decide)
  · rw [hsizes]
    exact le_trans (Nat.mul_le_mul_left 200 hlength) (by decide)
  · obtain ⟨i, hi, rfl⟩ := List.mem_map.mp hinfo
    exact ((members_plain i.2 (hitems i hi).2).2 i.1 (hitems i hi).1).2
  · rw [hosu]
    simpa using hnonempty
  · rw [hosu, List.length_map]
    exact le_trans hlength (by decide)
  · rw [hosu, List.mapM_map]
    exact mapM_of_forall hread

theorem read_plain (hitems : ∀ i ∈ items, i.1 ∈ plainNames ∧ i.2 ∈ hostedHard)
    (hnonempty : items ≠ []) (hlength : items.length ≤ 2)
    (hcross : checkCrossDifficultyConsistency (items.map plainParsed) = none) :
    hashingHost.read (plainOf items).osz = .ok (items.map plainParsed) := by
  have hparse : (items.map fun i => (plainParsed i).1).mapM hashingHost.parse =
      .ok (items.map plainParsed) := by
    rw [List.mapM_map]
    refine mapM_of_forall fun i hi => ?_
    have hbuiltins : hashingHost.builtins = plainBuiltins := rfl
    simp only [Function.comp_apply, Host.parse, plainParsed, hbuiltins,
      parse_plain i.2 (hitems i hi).2]
  have hread : readOsz hashingHost.builtins hashingHost.limits (plainOf items).osz = _ :=
    readOsz_plain hitems hnonempty hlength
  unfold Host.read
  rw [hread]
  simp only [hparse, bind, Except.bind, hcross]

theorem prepare_plain (hitems : ∀ i ∈ items, i.1 ∈ plainNames ∧ i.2 ∈ hostedHard)
    (hids : nextIds 2000000003 items.length = items.map fun i => i.2.2.1) :
    ∃ p, hashingHost.prepare (plainOf items) 2000000002
        (nextIds 2000000003 (items.map plainParsed).length) (items.map plainParsed) = .ok p ∧
      p.setId = 2000000002 ∧
        p.difficulties = items.map fun i => plainPrepared i.1 i.2 := by
  have hprepared : ∀ i ∈ items, ((fun x : Int × OszOsuMember × OsuFileMetadata =>
      hashingHost.prepareDifficulty "mapper" 2000000002 x.1 x.2.1 x.2.2) ∘
        fun i => (i.2.2.1, plainParsed i)) i = .ok (plainPrepared i.1 i.2) := by
    intro i hi
    exact prepareDifficulty_plain i.1 (hitems i hi).2
  have hzip : (nextIds 2000000003 (items.map plainParsed).length).zip (items.map plainParsed) =
      items.map fun i => (i.2.2.1, plainParsed i) := by
    rw [List.length_map, hids, List.zip_map']
  have hmap := mapM_of_forall hprepared
  rw [← List.mapM_map, ← hzip] at hmap
  exact ⟨_, prepare_of_ok hmap, rfl, rfl⟩

theorem accepts_plain (hitems : ∀ i ∈ items, i.1 ∈ plainNames ∧ i.2 ∈ hostedHard)
    (hnonempty : items ≠ []) (hlength : items.length ≤ 2)
    (hcross : checkCrossDifficultyConsistency (items.map plainParsed) = none)
    (hids : nextIds 2000000003 items.length = items.map fun i => i.2.2.1)
    (hmd5s : (items.map fun i => i.2.2.2).Nodup) :
    Accepts hashingHost [] ({ store := hostedSet, ended := [] }, [.countHosted (plainOf items)]) := by
  obtain ⟨p, hprepare, hset, hdifficulties⟩ := prepare_plain hitems hids
  have hinfos : (plainOf items).osz.infolist = .ok (items.map fun i => plainMember i.1 i.2.1) := by
    simp only [plainOf, plainUpload, List.map_map]
    rfl
  obtain ⟨archive, harchive⟩ := repackOsz_of_content hinfos (fun info hinfo => by
    obtain ⟨i, -, rfl⟩ := List.mem_map.mp hinfo
    rfl) p.replacements
  have hfresh {id : Int} (hid : 2000000002 ≤ id) : hostedSet.Unused id :=
    (stocked_hostedSet.fresh id hid).unused
  have hbeatmapIds : p.beatmapIds = items.map fun i => i.2.2.1 := by
    rw [Prepared.beatmapIds, hdifficulties, List.map_map]
    rfl
  have hmap : hostedSet.maps = [{ Beatmaps.Beatmap.blank 2000000001 with
      md5 := "a"
      setId := 2000000000
      server := .PRIVATE }] := rfl
  have hids3 : ∀ x ∈ hostedHard, 2000000002 ≤ x.2.1 ∧ "a" ≠ x.2.2 := by decide
  have heligible : checkEligibility (plainOf items) = none :=
    (by decide : checkEligibility (plainUpload []) = none)
  refine upload_accepted heligible (by decide : hostedSet.countHosted 3 < 10)
    (read_plain hitems hnonempty hlength hcross) (by decide) hprepare ?_ harchive
  refine
    { setId := hset ▸ hfresh (le_refl _)
      beatmapIds := fun id hid => ?_
      nodup := ?_
      md5s := ?_
      newMd5s := fun d hd row hrow => ?_
      filenames := fun d hd row hrow => ?_ }
  · rw [hbeatmapIds] at hid
    obtain ⟨i, hi, rfl⟩ := List.mem_map.mp hid
    exact hfresh (hids3 i.2 (hitems i hi).2).1
  · rw [hbeatmapIds, ← hids]
    exact nodup_nextIds _ _
  · rw [hdifficulties, List.map_map]
    exact hmd5s
  · rw [hdifficulties] at hd
    obtain ⟨i, hi, rfl⟩ := List.mem_map.mp hd
    rw [hmap] at hrow
    rw [List.mem_singleton.mp hrow]
    exact (hids3 i.2 (hitems i hi).2).2
  · rw [hdifficulties] at hd
    obtain ⟨i, hi, rfl⟩ := List.mem_map.mp hd
    rw [hmap] at hrow
    rw [List.mem_singleton.mp hrow]
    exact (by decide : "" ≠ "artist - title (mapper) [Hard].osu")

theorem fileName_plain (hitems : ∀ i ∈ items, i.1 ∈ plainNames ∧ i.2 ∈ hostedHard) :
    (items.map plainParsed).map (fileName (plainOf items)) =
      items.map fun _ => Except.ok "artist - title (mapper) [Hard].osu" := by
  rw [List.map_map]
  refine List.map_congr_left fun i hi => ?_
  have hsubmitter : (plainOf items).submitter.name = "mapper" := rfl
  simp only [Function.comp_apply, fileName, plainParsed, plainMetadata, hsubmitter]
  exact (hosted_plain i.2 (hitems i hi).2).1

theorem consistent_hard : ∃ s' : Server,
    (Consistent hashingHost hostedSet s'.store ↔
      (plainUpload [("a.osu", "Hard")]).Distinct hashingHost) ∧
      ∃ e : Ended, s'.ended = [] ++ [e] ∧ e.created := by
  obtain ⟨s', halone, hcreated⟩ := @accepts_plain
    [("a.osu", "Hard", 2000000003, "cfc1fd49004a6397f82d4b135b7407d1")]
    (by decide) (by decide) (by decide) (by decide) (by decide) (by decide)
  exact ⟨s', consistent_iff halone hcreated, hcreated⟩

def sameFile : List PlainItem :=
  [("a.osu", "Hard", 2000000003, "cfc1fd49004a6397f82d4b135b7407d1"),
    ("b.osu", "Hard?", 2000000004, "e71fd7a4d228382519966551ec3614f5")]

theorem not_consistent_sameFile :
    ¬∀ (s s' : Server) (u : Upload),
      Tasks.Alone (Line.perform hashingHost) s [.submit (.countHosted u)] s' →
        (∃ e, s'.ended = s.ended ++ [e] ∧ e.created) →
          Consistent hashingHost s.store s'.store := by
  intro h
  have hitems : ∀ i ∈ sameFile, i.1 ∈ plainNames ∧ i.2 ∈ hostedHard := by decide
  have hcross : checkCrossDifficultyConsistency (sameFile.map plainParsed) = none := by
    decide
  have hread := @read_plain sameFile hitems (by decide) (by decide) hcross
  obtain ⟨s', halone, hcreated⟩ := @accepts_plain sameFile hitems (by decide) (by decide) hcross
    (by decide) (by decide)
  have hconsistent := h _ s' _ halone hcreated
  obtain ⟨parsed, hparsed, -, hdistinct⟩ := (alone_consistent_iff halone hcreated).mp hconsistent
  have hsame : sameFile.map plainParsed = parsed := Except.ok.inj (hread.symm.trans hparsed)
  rw [← hsame, fileName_plain hitems] at hdistinct
  exact absurd hdistinct (by simp [sameFile])

end Plain

end BanchoPrism.Submissions
