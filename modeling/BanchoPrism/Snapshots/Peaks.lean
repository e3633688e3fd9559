import BanchoPrism.Constants.GameMode
import BanchoPrism.Library.Mapping
import BanchoPrism.Snapshots.Capture

namespace BanchoPrism.Snapshots

open Library

-- GameMode.valid_gamemodes
def validGamemodes : List GameMode :=
  [.VANILLA_OSU, .VANILLA_TAIKO, .VANILLA_CATCH, .VANILLA_MANIA, .RELAX_OSU, .RELAX_TAIKO,
    .RELAX_CATCH, .AUTOPILOT_OSU]

-- What execute answers for an INSERT of these rows: positive exactly when there are any.
structure Driver where
  answer : List StatSnapshot → Nat
  answer_pos : ∀ rows, 0 < answer rows ↔ rows ≠ []

def captureEach (driver : Driver) (t : Tables) (day : Int) :
    List GameMode → List StatSnapshot → Nat → List StatSnapshot × Nat
  | [], snapshots, rowsWritten => (snapshots, rowsWritten)
  | mode :: rest, snapshots, rowsWritten =>
    captureEach driver t day rest (captureMode t mode.value day snapshots)
      (rowsWritten + driver.answer
        (unseen StatSnapshot.key snapshots (rankedSnapshots t mode.value day)))

-- capture_today: the table, and rows_written
def captureToday (driver : Driver) (t : Tables) (day : Int) (snapshots : List StatSnapshot) :
    List StatSnapshot × Nat :=
  captureEach driver t day validGamemodes snapshots 0

structure SnapshotPeakChange where
  userId : Nat
  mode : Nat
  newPp : Nat
  priorBestPp : Nat
  newRank : Option Nat
  priorBestRank : Option Nat
  deriving DecidableEq

-- The snapshots of the same user and mode that are from an earlier day.
def priors (snapshots : List StatSnapshot) (row : StatSnapshot) : List StatSnapshot :=
  snapshots.filter fun other =>
    other.mode = row.mode && other.userId = row.userId && other.snapshotDate < row.snapshotDate

-- new_rank IS NOT NULL AND (prior_best_rank IS NULL OR new_rank < prior_best_rank)
def rankIsPeak (newRank priorBestRank : Option Nat) : Bool :=
  newRank.any fun rank => priorBestRank.all fun best => rank < best

-- A row joined with the aggregate of its prior ones. MIN leaves NULL ranks out.
def peakChange (snapshots : List StatSnapshot) (row : StatSnapshot) : Option SnapshotPeakChange :=
  ((priors snapshots row).map (·.pp)).max?.bind fun priorBestPp =>
    let priorBestRank := ((priors snapshots row).filterMap (·.globalRank)).min?
    if priorBestPp < row.pp ∨ rankIsPeak row.globalRank priorBestRank then
      some
        { userId := row.userId
          mode := row.mode
          newPp := row.pp
          priorBestPp := priorBestPp
          newRank := row.globalRank
          priorBestRank := priorBestRank }
    else none

def fetchNewPeaks (snapshots : List StatSnapshot) (mode : Nat) (day : Int) :
    List SnapshotPeakChange :=
  (snapshots.filter fun row => row.mode = mode && row.snapshotDate = day).filterMap
    (peakChange snapshots)

inductive FeedEvent
  | ppRecord (userId mode oldPp newPp : Nat)
  | rankUp (userId mode : Nat) (oldRank : Option Nat) (newRank : Nat)
  deriving DecidableEq

-- _publish_one
def publishOne (peak : SnapshotPeakChange) : List FeedEvent :=
  (if peak.priorBestPp < peak.newPp then
    [.ppRecord peak.userId peak.mode peak.priorBestPp peak.newPp]
  else []) ++
  match peak.newRank with
  | some newRank =>
    if peak.priorBestRank.all fun best => newRank < best then
      [.rankUp peak.userId peak.mode peak.priorBestRank newRank]
    else []
  | none => []

def publishPeaks (snapshots : List StatSnapshot) (day : Int) : List FeedEvent :=
  validGamemodes.flatMap fun mode => (fetchNewPeaks snapshots mode.value day).flatMap publishOne

-- The table, and what was published, with the day of the run that did so.
structure Feed where
  snapshots : List StatSnapshot
  published : List (Int × FeedEvent)

-- A run of the daily loop: the tables that it finds, and its day.
structure Run where
  tables : Tables
  day : Int

-- _capture_stat_snapshots
def Feed.run (driver : Driver) (s : Feed) (r : Run) : Feed :=
  let (snapshots, rowsWritten) := captureToday driver r.tables r.day s.snapshots
  { snapshots
    published :=
      if rowsWritten = 0 then s.published
      else s.published ++ (publishPeaks snapshots r.day).map fun e => (r.day, e) }

def Feed.runs (driver : Driver) (s : Feed) (rs : List Run) : Feed := rs.foldl (Feed.run driver) s

inductive PeakKind
  | ppRecord
  | rankUp
  deriving DecidableEq

-- Earlier days have snapshots of the user in the mode, and this one is above all of them.
def isPeak (kind : PeakKind) (snapshots : List StatSnapshot) (row : StatSnapshot) : Bool :=
  !(priors snapshots row).isEmpty &&
    match kind with
    | .ppRecord => (priors snapshots row).all fun other => other.pp < row.pp
    | .rankUp => row.globalRank.any fun rank =>
        (priors snapshots row).all fun other => other.globalRank.all fun best => rank < best

def FeedEvent.isOf (kind : PeakKind) (userId mode : Nat) : FeedEvent → Bool
  | .ppRecord u m _ _ => kind = .ppRecord && u = userId && m = mode
  | .rankUp u m _ _ => kind = .rankUp && u = userId && m = mode

section Changes

variable {snapshots : List StatSnapshot} {row : StatSnapshot}

theorem max?_lt_iff {l : List Nat} {best n : Nat} (h : l.max? = some best) :
    best < n ↔ ∀ x ∈ l, x < n := by
  obtain ⟨hmem, hle⟩ := List.max?_eq_some_iff.mp h
  constructor
  · intro hlt x hx
    exact Nat.lt_of_le_of_lt (hle x hx) hlt
  · exact fun hall => hall best hmem

theorem all_lt_min? (l : List Nat) (n : Nat) :
    (l.min?.all fun best => n < best) = l.all fun x => n < x := by
  rw [Bool.eq_iff_iff, List.all_eq_true]
  simp only [decide_eq_true_eq]
  cases hmin : l.min? with
  | none =>
    rw [List.min?_eq_none_iff.mp hmin]
    simp
  | some best =>
    obtain ⟨hmem, hle⟩ := List.min?_eq_some_iff.mp hmin
    simp only [Option.all_some, decide_eq_true_eq]
    constructor
    · intro hlt x hx
      exact Nat.lt_of_lt_of_le hlt (hle x hx)
    · exact fun hall => hall best hmem

theorem priors_ne_nil {best : Nat} (h : ((priors snapshots row).map (·.pp)).max? = some best) :
    (priors snapshots row).isEmpty = false := by
  cases hp : priors snapshots row with
  | nil =>
    rw [hp] at h
    cases h
  | cons other rest => rfl

theorem isPeak_ppRecord {best : Nat}
    (h : ((priors snapshots row).map (·.pp)).max? = some best) :
    isPeak .ppRecord snapshots row = decide (best < row.pp) := by
  unfold isPeak
  rw [priors_ne_nil h, Bool.eq_iff_iff, decide_eq_true_iff, max?_lt_iff h]
  simp

theorem isPeak_rankUp {best : Nat}
    (h : ((priors snapshots row).map (·.pp)).max? = some best) :
    isPeak .rankUp snapshots row =
      rankIsPeak row.globalRank ((priors snapshots row).filterMap (·.globalRank)).min? := by
  unfold isPeak rankIsPeak
  rw [priors_ne_nil h]
  simp only [Bool.not_false, Bool.true_and]
  congr 1
  funext rank
  rw [all_lt_min?, List.all_filterMap]
  rfl

-- The condition that _publish_one checks again.
def SnapshotPeakChange.marks (peak : SnapshotPeakChange) : PeakKind → Bool
  | .ppRecord => peak.priorBestPp < peak.newPp
  | .rankUp => rankIsPeak peak.newRank peak.priorBestRank

theorem count_publishOne (peak : SnapshotPeakChange) (kind : PeakKind) (userId mode : Nat) :
    (publishOne peak).countP (FeedEvent.isOf kind userId mode) =
      if peak.marks kind ∧ peak.userId = userId ∧ peak.mode = mode then 1 else 0 := by
  unfold publishOne SnapshotPeakChange.marks rankIsPeak
  rw [List.countP_append]
  cases kind with
  | ppRecord =>
    cases peak.newRank with
    | none => split <;> simp_all [FeedEvent.isOf, List.countP_cons]
    | some newRank =>
      simp only
      split <;> split <;> simp_all [FeedEvent.isOf, List.countP_cons]
  | rankUp =>
    cases peak.newRank with
    | none => split <;> simp_all [FeedEvent.isOf]
    | some newRank =>
      simp only
      split <;> split <;> simp_all [FeedEvent.isOf, List.countP_cons]

-- The events of a row: one of each kind that it is a peak in.
theorem count_peakChange (kind : PeakKind) (userId mode : Nat) :
    ((peakChange snapshots row).toList.flatMap publishOne).countP (FeedEvent.isOf kind userId mode) =
      if isPeak kind snapshots row ∧ row.userId = userId ∧ row.mode = mode then 1 else 0 := by
  cases hbest : ((priors snapshots row).map (·.pp)).max? with
  | none =>
    have hempty : priors snapshots row = [] := by
      simpa using List.max?_eq_none_iff.mp hbest
    have hnone : peakChange snapshots row = none := by simp [peakChange, hbest]
    rw [hnone]
    simp [isPeak, hempty]
  | some best =>
    have hpp := isPeak_ppRecord hbest
    have hrank := isPeak_rankUp hbest
    unfold peakChange
    rw [hbest, Option.bind_some]
    simp only
    split
    case isTrue =>
      rw [Option.toList_some, List.flatMap_singleton, count_publishOne]
      cases kind with
      | ppRecord => rw [hpp]; rfl
      | rankUp => rw [hrank]; rfl
    case isFalse hneither =>
      rw [not_or] at hneither
      have hnot : isPeak kind snapshots row = false := by
        cases kind with
        | ppRecord => simpa [hpp] using hneither.1
        | rankUp => simpa [hrank] using hneither.2
      simp [hnot]

end Changes

section Publishing

variable {snapshots : List StatSnapshot} {day : Int}

def eventsOf (snapshots : List StatSnapshot) (row : StatSnapshot) : List FeedEvent :=
  (peakChange snapshots row).toList.flatMap publishOne

theorem eventsOf_other {row : StatSnapshot} {kind : PeakKind} {userId mode : Nat}
    (h : ¬(row.userId = userId ∧ row.mode = mode)) :
    ∀ e ∈ eventsOf snapshots row, FeedEvent.isOf kind userId mode e = false := by
  have hcount : (eventsOf snapshots row).countP (FeedEvent.isOf kind userId mode) = 0 := by
    unfold eventsOf
    rw [count_peakChange, if_neg fun hand => h hand.2]
  intro e he
  simpa using List.countP_eq_zero.mp hcount e he

theorem fetchNewPeaks_events (mode : Nat) :
    (fetchNewPeaks snapshots mode day).flatMap publishOne =
      (snapshots.filter fun row => row.mode = mode && row.snapshotDate = day).flatMap
        (eventsOf snapshots) := by
  unfold fetchNewPeaks
  rw [List.filterMap_eq_flatMap_toList, List.flatMap_assoc]
  rfl

theorem mem_today {mode : Nat} {row : StatSnapshot} :
    row ∈ snapshots.filter (fun row => row.mode = mode && row.snapshotDate = day) ↔
      row ∈ snapshots ∧ row.mode = mode ∧ row.snapshotDate = day := by
  simp [List.mem_filter]

theorem value_injective {mode other : GameMode} (h : mode.value = other.value) : mode = other := by
  have hmode := GameMode.ofValue_value mode
  rw [h, GameMode.ofValue_value other] at hmode
  exact (Option.some.inj hmode).symm

-- A run's events about a row of its day.
theorem count_publishPeaks (hkeys : (snapshots.map StatSnapshot.key).Nodup) {row : StatSnapshot}
    (hrow : row ∈ snapshots) (hday : row.snapshotDate = day) {mode : GameMode}
    (hvalid : mode ∈ validGamemodes) (hmode : row.mode = mode.value) (kind : PeakKind) :
    (publishPeaks snapshots day).countP (FeedEvent.isOf kind row.userId row.mode) =
      if isPeak kind snapshots row then 1 else 0 := by
  unfold publishPeaks
  rw [countP_flatMap_one (by decide) hvalid, fetchNewPeaks_events, countP_flatMap_one
    (hkeys.of_map.filter _) (mem_today.mpr ⟨hrow, hmode, hday⟩)]
  · unfold eventsOf
    rw [count_peakChange]
    simp
  · intro other hother hne e he
    obtain ⟨hmem, hother, hdate⟩ := mem_today.mp hother
    refine eventsOf_other (fun hand => hne ?_) e he
    apply List.inj_on_of_nodup_map hkeys hmem hrow
    rw [StatSnapshot.key, StatSnapshot.key, hand.1, hand.2, hdate, hday]
  · intro other _ hne e he
    rw [fetchNewPeaks_events] at he
    obtain ⟨r, hr, he⟩ := List.mem_flatMap.mp he
    refine eventsOf_other (fun hand => hne ?_) e he
    apply value_injective
    rw [← (mem_today.mp hr).2.1, hand.2, hmode]

theorem count_publishPeaks_zero {userId mode : Nat}
    (h : ∀ row ∈ snapshots, row.snapshotDate = day → ¬(row.userId = userId ∧ row.mode = mode))
    (kind : PeakKind) :
    (publishPeaks snapshots day).countP (FeedEvent.isOf kind userId mode) = 0 := by
  apply countP_flatMap_zero
  intro other _ e he
  rw [fetchNewPeaks_events] at he
  obtain ⟨row, hrow, he⟩ := List.mem_flatMap.mp he
  obtain ⟨hmem, -, hdate⟩ := mem_today.mp hrow
  exact eventsOf_other (h row hmem hdate) e he

end Publishing

section Capturing

variable {driver : Driver} {t : Tables} {day : Int}

-- What the captures of some modes add to a table.
structure Added (t : Tables) (day : Int) (modes : List GameMode)
    (snapshots added : List StatSnapshot) : Prop where
  nodup : (snapshots.map StatSnapshot.key).Nodup →
    ((snapshots ++ added).map StatSnapshot.key).Nodup
  source : ∀ row ∈ added, ∃ mode ∈ modes, row ∈ rankedSnapshots t mode.value day
  fresh : ∀ row ∈ added, ∀ other ∈ snapshots, other.key ≠ row.key
  complete : ∀ mode ∈ modes, ∀ row ∈ rankedSnapshots t mode.value day,
    ∃ other ∈ snapshots ++ added, other.key = row.key

theorem captureEach_spec (driver : Driver) (t : Tables) (day : Int) (modes : List GameMode)
    (snapshots : List StatSnapshot) (rowsWritten : Nat) :
    ∃ added, (captureEach driver t day modes snapshots rowsWritten).1 = snapshots ++ added ∧
      (0 < (captureEach driver t day modes snapshots rowsWritten).2 ↔
        0 < rowsWritten ∨ added ≠ []) ∧
      Added t day modes snapshots added := by
  induction modes generalizing snapshots rowsWritten with
  | nil =>
    refine ⟨[], (List.append_nil _).symm, by simp [captureEach], ?_⟩
    exact ⟨fun h => by simpa using h, nofun, nofun, nofun⟩
  | cons mode rest ih =>
    have hnew := captureMode_eq t mode.value day snapshots
    have hnodup := rankedSnapshots_nodup t mode.value day
    obtain ⟨added, htable, hcount, hadded⟩ := ih (captureMode t mode.value day snapshots)
      (rowsWritten + driver.answer
        (unseen StatSnapshot.key snapshots (rankedSnapshots t mode.value day)))
    refine ⟨unseen StatSnapshot.key snapshots (rankedSnapshots t mode.value day) ++ added, ?_, ?_, ?_⟩
    · rw [captureEach, htable, hnew, List.append_assoc]
    · have hanswer := driver.answer_pos
        (unseen StatSnapshot.key snapshots (rankedSnapshots t mode.value day))
      rw [captureEach, hcount, Nat.add_pos_iff_pos_or_pos, hanswer, or_assoc, Ne.eq_def (_ ++ _),
        List.append_eq_nil_iff, not_and_or]
    · constructor
      · intro h
        have htail := hadded.nodup (nodup_insertIgnoreAll h hnodup)
        rwa [hnew, List.append_assoc] at htail
      · intro row hrow
        rcases List.mem_append.mp hrow with hrow | hrow
        · exact ⟨mode, List.mem_cons_self, (mem_unseen.mp hrow).1⟩
        · obtain ⟨other, hother, hsource⟩ := hadded.source row hrow
          exact ⟨other, List.mem_cons_of_mem _ hother, hsource⟩
      · intro row hrow other hother
        rcases List.mem_append.mp hrow with hrow | hrow
        · exact (mem_unseen.mp hrow).2 other hother
        · apply hadded.fresh row hrow other
          rw [hnew]
          exact List.mem_append_left _ hother
      · intro other hother row hrow
        rw [← List.append_assoc, ← hnew]
        rcases List.mem_cons.mp hother with rfl | hother
        · by_cases hseen : ∃ old ∈ snapshots, old.key = row.key
          · obtain ⟨old, hold, hkey⟩ := hseen
            refine ⟨old, List.mem_append_left _ ?_, hkey⟩
            rw [hnew]
            exact List.mem_append_left _ hold
          · refine ⟨row, List.mem_append_left _ ?_, rfl⟩
            rw [hnew]
            refine List.mem_append_right _ (mem_unseen.mpr ⟨hrow, fun old hold hkey => ?_⟩)
            exact hseen ⟨old, hold, hkey⟩
        · exact hadded.complete other hother row hrow

end Capturing

end BanchoPrism.Snapshots
