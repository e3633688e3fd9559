import BanchoPrism.Submissions.Consistent

namespace BanchoPrism.Submissions

open Library
open Beatmaps (privateBeatmapIdFloor)

namespace Submit

-- Whose upload the line is of, once it has passed the check of the quota.
def Line.uploader : Line → Option Nat
  | countHosted _ => none
  | allocateSet u _ | allocateMap u _ _ _ => some u.submitter.id
  | checkMd5 p _ _ | checkFilename p _ _ | writeOsu p _ _ _ | writeArchive p _ _ | commit p _ _ =>
      some p.upload.submitter.id

-- The lines that an upload goes on with: it ends, or goes on for the same user.
inductive Continues (user : Nat) : List Line → Prop
  | ends : Continues user []
  | goes {next : Line} (h : next.uploader = some user) : Continues user [next]

section Lines

variable {host : Host} {s : Server} {p : Prepared}

theorem continues_writing (written : List Int) (left : List PreparedDifficulty) :
    Continues p.upload.submitter.id (writing p s written left).2 := by
  cases left with
  | cons d left => exact .goes rfl
  | nil =>
    simp only [writing]
    split
    · exact .ends
    · exact .goes rfl

theorem continues_checking (left : List PreparedDifficulty) :
    Continues p.upload.submitter.id (checking p s left).2 := by
  cases left with
  | cons d left => exact .goes rfl
  | nil => exact continues_writing [] p.difficulties

theorem continues_preparing (u : Upload) (parsed : Parsed) (setId : Int) (ids : List Int) :
    Continues u.submitter.id (preparing host u parsed setId ids s).2 := by
  unfold preparing
  split
  · exact .goes rfl
  · split
    · exact .ends
    · rename_i p hprepare
      rw [← (prepare_eq_ok hprepare).1]
      exact continues_checking p.difficulties

theorem continues_perform {line : Line} {user : Nat} (h : line.uploader = some user) :
    Continues user (line.perform host s).2 := by
  cases line with
  | countHosted u => cases h
  | allocateSet u parsed =>
    cases h
    simp only [Line.perform]
    split
    · exact .ends
    · exact continues_preparing u parsed _ []
  | allocateMap u parsed setId ids =>
    cases h
    simp only [Line.perform]
    split
    · exact .ends
    · exact continues_preparing u parsed setId _
  | checkMd5 p d left =>
    cases h
    simp only [Line.perform]
    split
    · exact .ends
    · exact .goes rfl
  | checkFilename p d left =>
    cases h
    simp only [Line.perform]
    split
    · exact .ends
    · exact continues_checking left
  | writeOsu p d left written =>
    cases h
    exact continues_writing _ left
  | writeArchive p written archive =>
    cases h
    exact .goes rfl
  | commit p written archive =>
    simp only [Line.perform]
    split <;> exact .ends

-- The check of the quota: the call is answered, or it has passed it.
theorem countHosted_perform (u : Upload) :
    ((Line.countHosted u).perform host s).2 = [] ∨
      checkEligibility u = none ∧ s.store.countHosted u.submitter.id < host.maxSubmissionsPerUser ∧
        Continues u.submitter.id ((Line.countHosted u).perform host s).2 := by
  simp only [Line.perform]
  cases heligible : checkEligibility u with
  | some result => exact Or.inl rfl
  | none =>
    by_cases hquota : host.maxSubmissionsPerUser ≤ s.store.countHosted u.submitter.id
    · left
      simp only [if_pos hquota]
    · simp only [if_neg hquota]
      cases host.read u.osz with
      | error result => exact Or.inl rfl
      | ok parsed => exact Or.inr ⟨trivial, not_le.mp hquota, .goes rfl⟩

theorem recover_tables (line : Line) : (line.recover s).store.toTables = s.store.toTables := by
  cases line with
  | writeOsu p d left written => exact unwind_tables written false
  | writeArchive p written archive => exact unwind_tables written false
  | commit p written archive => exact unwind_tables written true
  | _ => rfl

end Lines

end Submit

-- No line of another call is of an upload.
def Line.uploader : Line → Option Nat
  | submit line => line.uploader
  | _ => none

-- How many uploads of a user have passed the check of the quota and not ended.
def inFlight (running : List (List Line)) (userId : Nat) : Nat :=
  (Tasks.gather Line.uploader running).count userId

-- What a line does to the rows of a user and to the uploads in flight: what it
-- adds to one of them it takes from the other.
def Spends (userId : Nat) (s : Server) (line : Line) (s' : Server) (lines : List Line) : Prop :=
  s'.store.countHosted userId + (lines.filterMap Line.uploader).count userId ≤
    s.store.countHosted userId + line.uploader.toList.count userId

-- With every upload in flight counted as a row, the user is within the limit.
def Room (host : Host) (userId : Nat) (t : Service) : Prop :=
  t.world.store.countHosted userId + inFlight t.running userId ≤ host.maxSubmissionsPerUser

section Steps

variable {host : Host} {userId : Nat} {s s' : Server} {t : Service} {i : Nat} {line : Line}
  {rest lines : List Line}

theorem countHosted_of_submissions {st st' : Store} (h : st'.submissions = st.submissions) :
    st'.countHosted userId = st.countHosted userId := by
  rw [Store.countHosted, h]
  rfl

theorem spends_of_submissions (h : s'.store.submissions = s.store.submissions)
    (hlines : (lines.filterMap Line.uploader).count userId ≤ line.uploader.toList.count userId) :
    Spends userId s line s' lines := by
  unfold Spends
  rw [countHosted_of_submissions h]
  exact Nat.add_le_add_left hlines _

theorem count_continues {user : Nat} {lines : List Submit.Line} (h : Submit.Continues user lines) :
    ((lines.map Line.submit).filterMap Line.uploader).count userId ≤ [user].count userId := by
  cases h with
  | ends => exact Nat.zero_le _
  | goes hnext =>
    have huser : Line.uploader (.submit _) = some user := hnext
    rw [List.map_singleton, List.filterMap_cons_some huser]
    exact le_refl _

theorem countHosted_commit {st st' : Store} {p : Prepared} {archive : List Entry}
    (hcommit : st.commitSubmission host p archive = some st') :
    st'.countHosted userId = st.countHosted userId + [p.upload.submitter.id].count userId := by
  obtain ⟨mapsets, mapset, maps, -, -, -, -, -, rfl⟩ := commitSubmission_eq_some hcommit
  simp only [Store.countHosted, List.countP_append, List.countP_singleton, List.count_singleton,
    Prepared.submission, beq_iff_eq, decide_eq_true_eq]

-- A commit adds a row for its user, and the upload ends with it.
theorem commit_spends {p : Prepared} {written : List Int} {archive : List Entry} {store : Store}
    (hcommit : s.store.commitSubmission host p archive = some store) :
    Spends userId s (.submit (.commit p written archive)) { s with store := store } [] := by
  have hcount : store.countHosted userId =
      s.store.countHosted userId + [p.upload.submitter.id].count userId :=
    countHosted_commit hcommit
  exact le_of_eq hcount

theorem submitLine_spends {line : Submit.Line} (h : line.uploader ≠ none) :
    Spends userId s (.submit line) (line.perform host s).1
      ((line.perform host s).2.map .submit) := by
  obtain ⟨user, huser⟩ := Option.ne_none_iff_exists'.mp h
  have hlines : (((line.perform host s).2.map Line.submit).filterMap Line.uploader).count userId ≤
      (Line.submit line).uploader.toList.count userId := by
    change _ ≤ line.uploader.toList.count userId
    rw [huser]
    exact count_continues (Submit.continues_perform huser)
  rcases @Submit.tables_perform host s line with htables |
    ⟨p, written, archive, store, rfl, hcommit, -⟩
  · exact spends_of_submissions (congrArg Tables.submissions htables) hlines
  · simp only [Submit.Line.perform, hcommit]
    exact commit_spends hcommit

theorem update_countHosted (line : Update.Line) :
    (line.perform s).1.store.countHosted userId = s.store.countHosted userId := by
  rw [Update.store_perform]
  cases line with
  | review u submission =>
    simp only [Update.Line.effect, Store.reviewSet, Store.countHosted, List.countP_map]
    refine List.countP_congr fun row _ => ?_
    simp only [Function.comp_apply]
    split <;> rfl
  | _ => rfl

theorem delete_countHosted (line : Delete.Line) :
    (line.perform s).1.store.countHosted userId ≤ s.store.countHosted userId := by
  rw [Delete.store_perform]
  cases line with
  | deleteRows d => exact List.filter_sublist.countP_le
  | _ => exact le_refl _

-- A line of another kind of call adds no row, and none of its lines is of an upload.
theorem spends_of_le (h : s'.store.countHosted userId ≤ s.store.countHosted userId)
    (hlines : lines.filterMap Line.uploader = []) : Spends userId s line s' lines := by
  unfold Spends
  rw [hlines]
  exact le_trans h (Nat.le_add_right _ _)

theorem perform_spends (h : ∀ u, line ≠ .submit (.countHosted u)) :
    Spends userId s line (line.perform host s).1 (line.perform host s).2 := by
  cases line with
  | submit line =>
    refine submitLine_spends fun hnone => ?_
    cases line with
    | countHosted u => exact h u rfl
    | _ => cases hnone
  | update line =>
    exact spends_of_le (le_of_eq (update_countHosted line))
      (List.filterMap_eq_nil_iff.mpr fun next hnext => by
        obtain ⟨_, -, rfl⟩ := List.mem_map.mp hnext
        rfl)
  | delete line =>
    exact spends_of_le (delete_countHosted line)
      (List.filterMap_eq_nil_iff.mpr fun next hnext => by
        obtain ⟨_, -, rfl⟩ := List.mem_map.mp hnext
        rfl)
  | score row => exact spends_of_le (le_refl _) rfl

theorem recover_spends (line : Line) (rest : List Line) :
    Spends userId s line (recover (line :: rest) s) [] := by
  refine spends_of_le ?_ rfl
  cases line with
  | submit line =>
    exact le_of_eq (countHosted_of_submissions
      (congrArg Tables.submissions (Submit.recover_tables line)))
  | _ => exact le_refl _

theorem inFlight_next (hnext : Tasks.next t.running i = some (line, rest)) :
    inFlight t.running userId =
      line.uploader.toList.count userId + inFlight (t.running.set i rest) userId := by
  rw [inFlight, (Tasks.gather_next Line.uploader hnext).count_eq, List.count_append]
  rfl

theorem inFlight_set (hnext : Tasks.next t.running i = some (line, rest)) (lines : List Line) :
    inFlight (t.running.set i (lines ++ rest)) userId =
      (lines.filterMap Line.uploader).count userId + inFlight (t.running.set i rest) userId := by
  rw [inFlight, (Tasks.gather_extend Line.uploader (Tasks.lt_of_next hnext) lines).count_eq,
    List.count_append]
  rfl

theorem Room.spend (h : Room host userId t)
    (hnext : Tasks.next t.running i = some (line, rest))
    (hspends : Spends userId t.world line s' lines) :
    Room host userId { world := s', running := t.running.set i (lines ++ rest) } := by
  unfold Room at h ⊢
  rw [inFlight_next hnext] at h
  rw [inFlight_set hnext]
  unfold Spends at hspends
  dsimp only
  omega

-- A task that fails drops its other lines too.
theorem Room.drop (h : Room host userId t)
    (hnext : Tasks.next t.running i = some (line, rest))
    (hspends : Spends userId t.world line s' []) :
    Room host userId { world := s', running := t.running.set i [] } := by
  have hrest := (@Tasks.gather_extend _ t.running i [] _ Line.uploader (Tasks.lt_of_next hnext)
    rest).count_eq userId
  rw [List.append_nil, List.count_append] at hrest
  unfold Room at h ⊢
  rw [inFlight_next hnext] at h
  unfold Spends at hspends
  unfold inFlight at h ⊢
  rw [List.filterMap_nil, List.count_nil] at hspends
  dsimp only
  omega

-- An upload that passes the check of the quota finds room beside the rows of its
-- user and the uploads of the same user that have passed it and not ended.
def Reserves (host : Host) (userId : Nat) (t : Service) : Move → Prop
  | .resume i => ∀ u rest, Tasks.next t.running i = some (.submit (.countHosted u), rest) →
      u.submitter.id = userId → checkEligibility u = none →
        t.world.store.countHosted userId < host.maxSubmissionsPerUser →
          t.world.store.countHosted userId + inFlight t.running userId < host.maxSubmissionsPerUser
  | _ => True

theorem Room.check {u : Upload} (h : Room host userId t)
    (hnext : Tasks.next t.running i = some (.submit (.countHosted u), rest))
    (hreserves : Reserves host userId t (.resume i)) :
    Room host userId
      { world := ((Line.submit (.countHosted u)).perform host t.world).1
        running := t.running.set i
          (((Line.submit (.countHosted u)).perform host t.world).2 ++ rest) } := by
  have hstore : ((Submit.Line.countHosted u).perform host t.world).1.store.countHosted userId =
      t.world.store.countHosted userId := by
    rcases @Submit.tables_perform host t.world (.countHosted u) with htables | ⟨_, _, _, _, h, -⟩
    · exact countHosted_of_submissions (congrArg Tables.submissions htables)
    · cases h
  rcases @Submit.countHosted_perform host t.world u with hnone | ⟨heligible, hquota, hlines⟩
  · refine h.spend hnext (spends_of_le (le_of_eq hstore) ?_)
    simp only [Line.perform, hnone]
    rfl
  · have hcount := @count_continues userId _ _ hlines
    unfold Room at h ⊢
    rw [inFlight_set hnext]
    have hflight := @inFlight_next userId _ _ _ _ hnext
    change _ = 0 + _ at hflight
    change _ + (((((Submit.Line.countHosted u).perform host t.world).2.map Line.submit).filterMap
      Line.uploader).count userId + _) ≤ _
    change ((Submit.Line.countHosted u).perform host t.world).1.store.countHosted userId + _ ≤ _
    rw [hstore]
    by_cases huser : u.submitter.id = userId
    · have hroom := hreserves u rest hnext huser heligible (huser ▸ hquota)
      rw [huser, List.count_singleton_self] at hcount
      omega
    · rw [List.count_singleton, if_neg (by simpa using huser)] at hcount
      omega

theorem Room.begin (h : Room host userId t) (op : Op) :
    Room host userId { t with running := t.running ++ [op.lines] } := by
  have hnone : op.lines.filterMap Line.uploader = [] := by cases op <;> rfl
  unfold Room inFlight Tasks.gather at h ⊢
  rw [List.flatMap_append, List.flatMap_singleton, hnone, List.append_nil]
  exact h

theorem Room.move (h : Room host userId t) (m : Move) (hreserves : Reserves host userId t m) :
    Room host userId (t.move host m) := by
  cases m with
  | begin op => exact h.begin op
  | resume i =>
    refine Tasks.resume_keeps h i fun line rest hnext => ?_
    by_cases hcheck : ∃ u, line = .submit (.countHosted u)
    · obtain ⟨u, rfl⟩ := hcheck
      exact h.check hnext hreserves
    · exact h.spend hnext (perform_spends fun u hu => hcheck ⟨u, hu⟩)
  | fail i =>
    exact Tasks.fail_keeps h i fun line rest hnext => h.drop hnext (recover_spends line rest)

-- Where every upload that passes the check reserves its row so, no user has more than the limit.
theorem quota_run {st : Store} (h : st.countHosted userId ≤ host.maxSubmissionsPerUser)
    (run : List Move)
    (hg : Guarded (Service.move host) (Reserves host userId)
      { world := { store := st, ended := [] }, running := [] } run) :
    (runFrom (Service.move host) { world := { store := st, ended := [] }, running := [] }
      run).world.store.countHosted userId ≤ host.maxSubmissionsPerUser := by
  have hroom := Guarded.invariant (Room host userId) (fun t m ht hm => ht.move m hm)
    (s := { world := { store := st, ended := [] }, running := [] }) h hg
  exact le_trans (Nat.le_add_right _ _) hroom

end Steps

section Race

variable {host : Host} {s : Server} {u : Upload} {parsed : Parsed} {p : Prepared}
  {d : PreparedDifficulty} {archive : List Entry} {n : Nat}

-- The server once a number of ids have been given out.
def Server.given (s : Server) (count : Int) : Server :=
  { s with store := { s.store with nextId := s.store.nextId + count } }

-- The store before the transaction of an upload of one difficulty.
def Store.filed (st : Store) (d : PreparedDifficulty) (setId : Int) (archive : List Entry) :
    Store :=
  (st.writeOsu d).writeArchive setId archive

theorem submit_perform {line next : Submit.Line} {s' : Server}
    (h : line.perform host s = (s', [next])) :
    Line.perform host (.submit line) s = (s', [.submit next]) := by
  simp only [Line.perform, h, List.map_singleton]

theorem exhaust_submit {line next : Submit.Line} {s' : Server}
    (h : line.perform host s = (s', [next])) :
    Tasks.exhaust (Line.perform host) (n + 1) s [.submit line] =
      Tasks.exhaust (Line.perform host) n s' [.submit next] := by
  rw [Tasks.exhaust, submit_perform h]
  rfl

-- From the check of the quota it takes six awaits to the transaction.
theorem exhaust_upload (hfloor : privateBeatmapIdFloor ≤ s.store.nextId)
    (hparsed : parsed.length = 1)
    (hprepare : host.prepare u s.store.nextId [s.store.nextId + 1] parsed = .ok p)
    (hdifficulties : p.difficulties = [d]) (hmaps : s.store.maps = [])
    (hrepack : repackOsz p.upload.osz p.replacements = some archive) :
    Tasks.exhaust (Line.perform host) 6 s [.submit (.allocateSet u parsed)] =
      ({ s with store := (s.given 2).store.filed d p.setId archive },
        [.submit (.commit p [d.beatmapId] archive)]) := by
  have hset : (Submit.Line.allocateSet u parsed).perform host s =
      (s.given 1, [.allocateMap u parsed s.store.nextId []]) := by
    simp only [Submit.Line.perform, Submit.preparing, hparsed]
    rw [if_neg (not_lt.mpr hfloor), if_pos (by decide)]
    rfl
  have hmap : (Submit.Line.allocateMap u parsed s.store.nextId []).perform host (s.given 1) =
      (s.given 2, [.checkMd5 p d []]) := by
    have hnext : (s.given 1).store.nextId = s.store.nextId + 1 := rfl
    have hids : ¬([] ++ [s.store.nextId + 1]).length < 1 := lt_irrefl 1
    simp only [Submit.Line.perform, Submit.preparing, hparsed, hnext, if_neg hids]
    rw [if_neg (by omega), List.nil_append, hprepare]
    simp only [hdifficulties, Submit.checking, Server.given, Int.add_assoc]
    rfl
  have hmd5 : (Submit.Line.checkMd5 p d []).perform host (s.given 2) =
      (s.given 2, [.checkFilename p d []]) := by
    simp [Submit.Line.perform, Server.given, hmaps]
  have hname : (Submit.Line.checkFilename p d []).perform host (s.given 2) =
      (s.given 2, [.writeOsu p d [] []]) := by
    simp [Submit.Line.perform, Server.given, hmaps, Submit.checking, Submit.writing, hdifficulties]
  have hosu : (Submit.Line.writeOsu p d [] []).perform host (s.given 2) =
      ({ s with store := (s.given 2).store.writeOsu d },
        [.writeArchive p [d.beatmapId] archive]) := by
    simp only [Submit.Line.perform, Submit.writing, hrepack]
    rfl
  rw [exhaust_submit hset, exhaust_submit hmap, exhaust_submit hmd5, exhaust_submit hname,
    exhaust_submit hosu, exhaust_submit rfl]
  rfl

def racingUpload : Upload := plainUpload [("a.osu", "Hard")]

-- The map of the upload under the ids of the one and of the other.
def racingLines (setId id : Int) : List String :=
  let identity :=
    ["BeatmapID:" ++ toString id, "BeatmapSetID:" ++ toString setId, "Creator:mapper"]
  (plainLines "Hard").take 6 ++ identity ++ (plainLines "Hard").drop 6

def racingText (setId id : Int) : String := "\n".intercalate (racingLines setId id) ++ "\n"

-- What MD5 is of the two.
def racingHost : Host :=
  { plainHost with
    maxSubmissionsPerUser := 1
    md5 := fun data =>
      if data = encodeUtf8 (racingText 2000000002 2000000003) then
        "cfc1fd49004a6397f82d4b135b7407d1"
      else if data = encodeUtf8 (racingText 2000000004 2000000005) then
        "ce9c63dcdf4c28e66df9ca9bb6515ba7"
      else "" }

-- Nothing is hosted.
def emptyStore : Store :=
  { hostedSet with
    maps := []
    mapsets := []
    submissions := []
    osuFiles := fun _ => none
    archives := fun _ => none }

def racingParsed : Parsed :=
  [({ name := "a.osu", text := plainText "Hard" }, plainMetadata "Hard")]

def racingPrepared (setId : Int) (md5 : String) : Prepared where
  upload := racingUpload
  setId := setId
  declaredCreator := ""
  difficulties :=
    [{ beatmapId := setId + 1
       originalMemberName := "a.osu"
       filename := "artist - title (mapper) [Hard].osu"
       text := racingText setId (setId + 1)
       data := encodeUtf8 (racingText setId (setId + 1))
       md5 := md5
       metadata := plainMetadata "Hard"
       attributes := { maxCombo := 1, stars := 1 } }]

theorem hard_mem : ("Hard", (2000000003 : Int), "cfc1fd49004a6397f82d4b135b7407d1") ∈ hostedHard :=
  List.mem_cons_self

-- What is made of an archive is up to the parsing and the limits.
theorem read_congr {other : Host} (hbuiltins : host.builtins = other.builtins)
    (hlimits : host.limits = other.limits) (osz : Osz) : host.read osz = other.read osz := by
  have hparse : host.parse = other.parse := by
    funext member
    simp only [Host.parse, hbuiltins]
  simp only [Host.read, hbuiltins, hlimits, hparse]

theorem racing_read : racingHost.read racingUpload.osz = .ok racingParsed := by
  rw [@read_congr racingHost hashingHost rfl rfl]
  exact @read_plain [("a.osu", "Hard", 2000000003, "cfc1fd49004a6397f82d4b135b7407d1")]
    (by decide) (by decide) (by decide) (by decide)

theorem racing_prepare (setId : Int) (md5 : String)
    (htext : rewriteOsuFileIdentity (plainText "Hard") (setId + 1) setId "mapper" =
      .ok (racingText setId (setId + 1)))
    (hmd5 : racingHost.md5 (encodeUtf8 (racingText setId (setId + 1))) = md5) :
    racingHost.prepare racingUpload setId [setId + 1] racingParsed =
      .ok (racingPrepared setId md5) := by
  have hprepared := @prepareDifficulty_of_ok racingHost "mapper" setId (setId + 1)
    { name := "a.osu", text := plainText "Hard" } (plainMetadata "Hard") _ _ _ htext
    (hosted_plain _ hard_mem).1 rfl
  rw [hmd5] at hprepared
  refine @prepare_of_ok _ racingUpload _ _ _ (racingPrepared setId md5).difficulties ?_
  simp only [racingParsed, List.zip_cons_cons, List.zip_nil_right, List.mapM_cons, List.mapM_nil]
  change racingHost.prepareDifficulty "mapper" setId (setId + 1) _ _ >>= _ = _
  rw [hprepared]
  rfl

def racingIds : List Int := [2000000002, 2000000004]

theorem racing_rewrite : ∀ setId ∈ racingIds,
    rewriteOsuFileIdentity (plainText "Hard") (setId + 1) setId "mapper" =
      .ok (racingText setId (setId + 1)) := by
  intro setId hset
  obtain ⟨hbounds, hnewline, hlast⟩ := sections_plain _ hard_mem
  rw [rewrite_of_stages (plainText_toList _) (stages_plain _ hard_mem).1 hbounds hnewline hlast]
  refine congrArg (fun lines => Except.ok ("\n".intercalate lines ++ "\n")) ?_
  clear hbounds hnewline hlast
  revert setId
  decide

theorem racing_md5 :
    racingHost.md5 (encodeUtf8 (racingText 2000000002 2000000003)) =
        "cfc1fd49004a6397f82d4b135b7407d1" ∧
      racingHost.md5 (encodeUtf8 (racingText 2000000004 2000000005)) =
        "ce9c63dcdf4c28e66df9ca9bb6515ba7" := by
  have htexts : racingText 2000000004 2000000005 ≠ racingText 2000000002 2000000003 := by
    intro h
    have hchars := congrArg String.toList h
    simp only [racingText, String.toList_append, String.toList_intercalate] at hchars
    revert hchars
    decide
  have hne : encodeUtf8 (racingText 2000000004 2000000005) ≠
      encodeUtf8 (racingText 2000000002 2000000003) := fun h =>
    htexts (String.toByteArray_inj.mp (ByteArray.ext (Array.toList_inj.mp h)))
  constructor
  · simp only [racingHost, if_true]
  · simp only [racingHost, if_neg hne, if_true]

theorem racing_repack (setId : Int) (md5 : String) : ∃ archive,
    repackOsz racingUpload.osz (racingPrepared setId md5).replacements = some archive :=
  @repackOsz_of_content racingUpload.osz [plainMember "a.osu" "Hard"] rfl
    (fun info hinfo => by
      rw [List.mem_singleton.mp hinfo]
      rfl) _

-- Both uploads pass the check, then both are filed, then both are committed.
def racing : Op := .submit racingUpload

def raceChecks : List Move := [.begin racing, .begin racing, .resume 0, .resume 1]

def resumes (i count : Nat) : List Move := List.replicate count (.resume i)

def race : List Move :=
  raceChecks ++ (resumes 0 6 ++ resumes 1 6 ++ resumes 0 1 ++ resumes 1 1)

def raceAt (running : List (List Line)) : Service :=
  { world := { store := emptyStore, ended := [] }, running := running }

theorem racing_check (s : Server) (hs : s.store.submissions = []) :
    (Submit.Line.countHosted racingUpload).perform racingHost s =
      (s, [.allocateSet racingUpload racingParsed]) := by
  have heligible : checkEligibility racingUpload = none := by decide
  have hcount : s.store.countHosted racingUpload.submitter.id = 0 := by
    rw [Store.countHosted, hs]
    rfl
  simp only [Submit.Line.perform, heligible, hcount, racing_read]
  rw [if_neg (by decide)]

def counting : List Line := [.submit (.countHosted racingUpload)]

def allocating : List Line := [.submit (.allocateSet racingUpload racingParsed)]

theorem begin_racing (running : List (List Line)) :
    Service.move racingHost (raceAt running) (.begin racing) =
      raceAt (running ++ [counting]) := rfl

theorem resume_counting {running : List (List Line)} {i : Nat}
    (hi : running[i]? = some counting) :
    Service.move racingHost (raceAt running) (.resume i) = raceAt (running.set i allocating) := by
  have hperform : Line.perform racingHost (.submit (.countHosted racingUpload))
      (raceAt running).world = ((raceAt running).world, allocating) :=
    submit_perform (racing_check (raceAt running).world rfl)
  have hnext : Tasks.next (raceAt running).running i =
      some (.submit (.countHosted racingUpload), []) := Tasks.next_eq_some.mpr hi
  change Tasks.resume (Line.perform racingHost) (raceAt running) i = _
  rw [Tasks.resume_of_next hnext, hperform]
  rfl

-- Nothing is hosted yet when the second upload passes the check.
theorem race_checked : runFrom (Service.move racingHost) (raceAt []) raceChecks =
    raceAt [allocating, allocating] := by
  unfold raceChecks
  rw [runFrom, begin_racing, runFrom, begin_racing, runFrom, resume_counting rfl, runFrom,
    resume_counting rfl]
  rfl

def racingCommit (setId : Int) (md5 : String) (archive : List Entry) : List Line :=
  [.submit (.commit (racingPrepared setId md5) [setId + 1] archive)]

-- An upload that has passed the check is filed under the next ids, whatever else is under way.
theorem racing_filed {setId : Int} {md5 : String} (hfloor : privateBeatmapIdFloor ≤ setId)
    (hprepare : racingHost.prepare racingUpload setId [setId + 1] racingParsed =
      .ok (racingPrepared setId md5))
    (hnext : s.store.nextId = setId) (hmaps : s.store.maps = []) :
    ∃ s' archive, Tasks.exhaust (Line.perform racingHost) 6 s allocating =
        (s', racingCommit setId md5 archive) ∧
      s'.store.toTables = s.store.toTables ∧ s'.store.nextId = setId + 2 := by
  subst hnext
  obtain ⟨archive, harchive⟩ := racing_repack s.store.nextId md5
  exact ⟨_, archive, exhaust_upload hfloor rfl hprepare rfl hmaps harchive, rfl, rfl⟩

theorem runFrom_resumes (t : Service) {i : Nat} {task : List Line}
    (hi : t.running[i]? = some task) (count : Nat) :
    runFrom (Service.move host) t (resumes i count) =
      { world := (Tasks.exhaust (Line.perform host) count t.world task).1
        running := t.running.set i (Tasks.exhaust (Line.perform host) count t.world task).2 } :=
  @Tasks.exhaust_resumes _ _ (Line.perform host) t.world task _ (Service.move host) i (.resume i)
    (fun _ => rfl) count _ hi

theorem race_filed : ∃ (w : Server) (first second : List Entry),
    runFrom (Service.move racingHost) (raceAt [allocating, allocating])
      (resumes 0 6 ++ resumes 1 6) =
        { world := w
          running := [racingCommit 2000000002 "cfc1fd49004a6397f82d4b135b7407d1" first,
            racingCommit 2000000004 "ce9c63dcdf4c28e66df9ca9bb6515ba7" second] } ∧
      w.store.toTables = emptyStore.toTables := by
  obtain ⟨w, first, hfirst, htables, hnext⟩ := racing_filed (s := (raceAt []).world) (by decide)
    (racing_prepare _ _ (racing_rewrite 2000000002 (by decide)) racing_md5.1) rfl rfl
  obtain ⟨w', second, hsecond, htables', -⟩ := racing_filed (s := w) (by decide)
    (racing_prepare _ _ (racing_rewrite 2000000004 (by decide)) racing_md5.2) hnext
    (congrArg Tables.maps htables)
  refine ⟨w', first, second, ?_, htables'.trans htables⟩
  have hworld : (raceAt [allocating, allocating]).world = (raceAt []).world := rfl
  rw [runFrom_append, @runFrom_resumes _ (raceAt [allocating, allocating]) 0 allocating rfl, hworld,
    hfirst, @runFrom_resumes _ _ 1 allocating rfl, hsecond]
  rfl

theorem racing_commits {t : Service} {i : Nat} {setId : Int} {md5 : String} {archive : List Entry}
    (hi : t.running[i]? = some (racingCommit setId md5 archive))
    (hset : t.world.store.Unused setId) {maps : List Beatmaps.Beatmap}
    (hmaps : insertMaps t.world.store.maps (racingPrepared setId md5).rows = some maps) :
    ∃ t', runFrom (Service.move racingHost) t (resumes i 1) = t' ∧
      t'.running = t.running.set i [] ∧
      t.world.store.commitSubmission racingHost (racingPrepared setId md5) archive =
        some t'.world.store := by
  obtain ⟨st, hcommit⟩ := @commits_of_unused racingHost (racingPrepared setId md5) _ hset _ hmaps
    archive
  have hperform : Line.perform racingHost
      (.submit (.commit (racingPrepared setId md5) [setId + 1] archive)) t.world =
        ((racingPrepared setId md5).endWith { t.world with store := st }
          (some ((racingPrepared setId md5).created racingHost archive)), []) := by
    simp only [Line.perform, Submit.Line.perform, hcommit]
    rfl
  refine ⟨_, runFrom_resumes t hi 1, ?_, ?_⟩
  · simp only [racingCommit, Tasks.exhaust, hperform]
    rfl
  · simp only [racingCommit, Tasks.exhaust, hperform]
    exact hcommit

theorem racing_rows {setId : Int} {md5 : String} :
    ∀ row ∈ (racingPrepared setId md5).rows,
      row.id = setId + 1 ∧ row.setId = setId ∧ row.md5 = md5 := by
  intro row hrow
  rw [Prepared.rows, racingPrepared, List.map_singleton, List.mem_singleton] at hrow
  rw [hrow]
  exact ⟨rfl, rfl, rfl⟩

-- Neither the second set nor its map is in the tables that the first commit leaves.
theorem racing_second {st st' : Store} (htables : st.toTables = emptyStore.toTables)
    {first : List Entry}
    (h : st.commitSubmission racingHost
      (racingPrepared 2000000002 "cfc1fd49004a6397f82d4b135b7407d1") first = some st') :
    st'.Unused 2000000004 ∧ ∃ maps, insertMaps st'.maps
      (racingPrepared 2000000004 "ce9c63dcdf4c28e66df9ca9bb6515ba7").rows = some maps := by
  obtain ⟨mapsets, mapset, maps, hmapsets, -, -, hmaps, -, rfl⟩ := commitSubmission_eq_some h
  rw [show st.maps = [] from congrArg Tables.maps htables] at hmaps
  rw [show st.mapsets = [] from congrArg Tables.mapsets htables] at hmapsets
  obtain ⟨rfl, -, -⟩ := insertMaps_eq_some hmaps
  refine ⟨⟨fun row hrow => ?_, fun row hrow => ?_, fun row hrow => ?_⟩, _,
    insertMaps_append (fun row hrow old hold => ?_) (by decide) (List.nodup_singleton _)⟩
  · obtain ⟨hid, hset, -⟩ := racing_rows row hrow
    omega
  · dsimp only at hrow
    rw [hmapsets] at hrow
    rw [List.mem_singleton.mp hrow]
    exact (by decide : (2000000002 : Int) ≠ 2000000004)
  · dsimp only at hrow
    rw [show st.submissions = [] from congrArg Tables.submissions htables] at hrow
    rw [List.mem_singleton.mp hrow]
    exact (by decide : (2000000002 : Int) ≠ 2000000004)
  · obtain ⟨hid, -, hmd5⟩ := racing_rows row hrow
    obtain ⟨hid', -, hmd5'⟩ := racing_rows old hold
    rw [hmd5, hmd5']
    exact ⟨by omega, by decide⟩

-- One upload alone, up to the check.
theorem quota_run_alone :
    (runFrom (Service.move racingHost) (raceAt [])
      [.begin racing, .resume 0]).world.store.countHosted 3 ≤ racingHost.maxSubmissionsPerUser := by
  refine @quota_run racingHost 3 emptyStore (by decide) [.begin racing, .resume 0]
    ⟨trivial, ?_, trivial⟩
  intro u rest hnext _ _ _
  exact (by decide : 0 + inFlight [counting] 3 < 1)

-- With a limit of one set both uploads are hosted.
theorem not_quota_run : ¬∀ run : List Move,
    (runFrom (Service.move racingHost) (raceAt []) run).world.store.countHosted 3 ≤
      racingHost.maxSubmissionsPerUser := by
  intro h
  obtain ⟨w, first, second, hfiled, htables⟩ := race_filed
  have hunused : w.store.Unused 2000000002 := by
    rw [htables]
    exact ⟨fun row hrow => absurd hrow List.not_mem_nil,
      fun row hrow => absurd hrow List.not_mem_nil, fun row hrow => absurd hrow List.not_mem_nil⟩
  have hmaps : w.store.maps = [] := congrArg Tables.maps htables
  have hcount : w.store.countHosted 3 = 0 :=
    countHosted_of_submissions (congrArg Tables.submissions htables)
  have hrun := h race
  unfold race at hrun
  rw [runFrom_append, race_checked, runFrom_append, runFrom_append, hfiled] at hrun
  obtain ⟨t, ht, hrunning, hcommit⟩ := @racing_commits
    { world := w
      running := [racingCommit 2000000002 "cfc1fd49004a6397f82d4b135b7407d1" first,
        racingCommit 2000000004 "ce9c63dcdf4c28e66df9ca9bb6515ba7" second] }
    0 _ _ first rfl hunused _ (by rw [hmaps]; rfl)
  rw [ht] at hrun
  obtain ⟨hunused', maps, hmaps'⟩ := racing_second htables hcommit
  obtain ⟨t', ht', -, hcommit'⟩ := @racing_commits t 1 _ _ second (by rw [hrunning]; rfl) hunused' _
    hmaps'
  rw [ht', countHosted_commit hcommit', countHosted_commit hcommit, hcount] at hrun
  exact absurd hrun (by decide)

end Race

end BanchoPrism.Submissions
