import BanchoPrism.Snapshots.Peaks

namespace BanchoPrism.Snapshots

open Library

-- A player that the run finds ranked has no snapshot of the day yet.
def Run.Captures (r : Run) (snapshots : List StatSnapshot) : Prop :=
  ∃ mode ∈ validGamemodes, ∃ p ∈ r.tables.rankedPlayers mode.value,
    ∀ row ∈ snapshots, row.key ≠ (p.id, mode.value, r.day)

-- Where the run captures someone, no snapshot that the day has already is a peak.
def Run.Quiet (r : Run) (snapshots : List StatSnapshot) : Prop :=
  r.Captures snapshots → ∀ row ∈ snapshots, row.snapshotDate = r.day →
    ∀ kind, isPeak kind snapshots row = false

def EachQuiet (driver : Driver) : Feed → List Run → Prop
  | _, [] => True
  | s, r :: rest => r.Quiet s.snapshots ∧ EachQuiet driver (s.run driver r) rest

namespace Feed

-- How often a user's peak of a day was announced.
def announced (s : Feed) (kind : PeakKind) (userId mode : Nat) (day : Int) : Nat :=
  s.published.countP fun entry => entry.1 = day && entry.2.isOf kind userId mode

-- The day's snapshot of the user is a peak.
def peaked (s : Feed) (kind : PeakKind) (userId mode : Nat) (day : Int) : Bool :=
  s.snapshots.any fun row => row.key = (userId, mode, day) && isPeak kind s.snapshots row

end Feed

-- Each peak of a day after those of the table at the start is announced once, and nothing else.
def ExactlyOnce (old : List StatSnapshot) (s : Feed) : Prop :=
  ∀ kind userId mode day, (∀ row ∈ old, row.snapshotDate < day) →
    s.announced kind userId mode day = if s.peaked kind userId mode day then 1 else 0

structure Kept (old : List StatSnapshot) (s : Feed) : Prop where
  nodup : (s.snapshots.map StatSnapshot.key).Nodup
  modes : ∀ row ∈ s.snapshots, row ∈ old ∨ ∃ mode ∈ validGamemodes, row.mode = mode.value
  once : ∀ kind userId mode day, (∀ row ∈ old, row.snapshotDate < day) →
    s.peaked kind userId mode day = true → 1 ≤ s.announced kind userId mode day
  never : ∀ kind userId mode day, (∀ row ∈ old, row.snapshotDate < day) →
    s.peaked kind userId mode day = false → s.announced kind userId mode day = 0

-- The clock of a run is not behind any snapshot.
def Run.After (r : Run) (snapshots : List StatSnapshot) : Prop :=
  ∀ row ∈ snapshots, row.snapshotDate ≤ r.day

section Steps

variable {driver : Driver} {old : List StatSnapshot} {s : Feed} {r : Run}

theorem mem_ranked {t : Tables} {mode : Nat} {day : Int} {row : StatSnapshot}
    (h : row ∈ rankedSnapshots t mode day) :
    row.mode = mode ∧ row.snapshotDate = day ∧
      ∃ p ∈ t.rankedPlayers mode, row.key = (p.id, mode, day) := by
  obtain ⟨p, hp, rfl⟩ := List.mem_map.mp h
  have hmode : p.stats.mode = mode := mode_of_rankedPlayers hp
  refine ⟨hmode, rfl, p, hp, ?_⟩
  simp [StatSnapshot.key, snapshotOf, RankedPlayer.id, hmode]

-- A run either finds nothing to capture, and changes nothing, or adds rows and announces.
inductive Ran (driver : Driver) (s : Feed) (r : Run) : Prop
  | idle (hnone : ¬ r.Captures s.snapshots) (hsame : s.run driver r = s)
  | captured (added : List StatSnapshot) (hcaptures : r.Captures s.snapshots)
      (hadded : Added r.tables r.day validGamemodes s.snapshots added)
      (hrun : s.run driver r =
        { snapshots := s.snapshots ++ added
          published := s.published ++
            (publishPeaks (s.snapshots ++ added) r.day).map fun e => (r.day, e) })

theorem ran (driver : Driver) (s : Feed) (r : Run) : Ran driver s r := by
  obtain ⟨added, htable, hcount, hadded⟩ :=
    captureEach_spec driver r.tables r.day validGamemodes s.snapshots 0
  cases added with
  | nil =>
    have hzero : (captureEach driver r.tables r.day validGamemodes s.snapshots 0).2 = 0 := by
      have := hcount.not.mpr (by simp)
      omega
    refine .idle ?_ ?_
    · rintro ⟨mode, hmode, p, hp, hfresh⟩
      obtain ⟨other, hother, hkey⟩ := hadded.complete mode hmode _ (List.mem_map_of_mem hp)
      rw [List.append_nil] at hother
      apply hfresh other hother
      rw [hkey]
      simp [StatSnapshot.key, snapshotOf, RankedPlayer.id, mode_of_rankedPlayers hp]
    · unfold Feed.run captureToday
      simp only [htable, hzero, List.append_nil, if_true]
  | cons row rest =>
    have hpos := hcount.mpr (Or.inr (by simp))
    refine .captured (row :: rest) ?_ hadded ?_
    · obtain ⟨mode, hmode, hsource⟩ := hadded.source row List.mem_cons_self
      obtain ⟨-, -, p, hp, hkey⟩ := mem_ranked hsource
      refine ⟨mode, hmode, p, hp, fun other hother => ?_⟩
      rw [← hkey]
      exact hadded.fresh row List.mem_cons_self other hother
    · unfold Feed.run captureToday
      simp only [htable, Nat.ne_of_gt hpos, if_false]

-- What a run adds is of its own day, and so behind no earlier row.
theorem isPeak_append {snapshots added : List StatSnapshot} {day : Int}
    (hadded : ∀ row ∈ added, row.snapshotDate = day) {row : StatSnapshot}
    (hrow : row.snapshotDate ≤ day) (kind : PeakKind) :
    isPeak kind (snapshots ++ added) row = isPeak kind snapshots row := by
  have hpriors : priors (snapshots ++ added) row = priors snapshots row := by
    have hnone : priors added row = [] := by
      unfold priors
      rw [List.filter_eq_nil_iff]
      intro other hother
      have := hadded other hother
      simp only [Bool.and_eq_true, decide_eq_true_eq, not_and]
      omega
    have happend : priors (snapshots ++ added) row = priors snapshots row ++ priors added row :=
      List.filter_append ..
    rw [happend, hnone, List.append_nil]
  unfold isPeak
  rw [hpriors]

theorem peaked_iff {kind : PeakKind} {userId mode : Nat} {day : Int} :
    s.peaked kind userId mode day = true ↔
      ∃ row ∈ s.snapshots, row.key = (userId, mode, day) ∧ isPeak kind s.snapshots row = true := by
  simp [Feed.peaked]

theorem Added.dates {added : List StatSnapshot} {modes : List GameMode}
    (h : Added r.tables r.day modes s.snapshots added) :
    ∀ row ∈ added, row.snapshotDate = r.day := by
  intro row hrow
  obtain ⟨mode, -, hsource⟩ := h.source row hrow
  exact (mem_ranked hsource).2.1

theorem announced_append {snapshots : List StatSnapshot} {published : List (Int × FeedEvent)}
    {events : List FeedEvent} {today : Int} {kind : PeakKind} {userId mode : Nat} {day : Int} :
    Feed.announced { snapshots, published := published ++ events.map fun e => (today, e) } kind
        userId mode day =
      Feed.announced { snapshots, published } kind userId mode day +
        if today = day then events.countP (FeedEvent.isOf kind userId mode) else 0 := by
  unfold Feed.announced
  rw [List.countP_append, List.countP_map]
  congr 1
  split
  case isTrue h =>
    subst h
    apply List.countP_congr
    intro e _
    simp
  case isFalse h =>
    rw [List.countP_eq_zero]
    intro e _
    simp [h]

-- Its key says which row a snapshot is.
theorem peaked_eq_isPeak (hkeys : (s.snapshots.map StatSnapshot.key).Nodup) {row : StatSnapshot}
    (hrow : row ∈ s.snapshots) (kind : PeakKind) :
    s.peaked kind row.userId row.mode row.snapshotDate = isPeak kind s.snapshots row := by
  rw [Bool.eq_iff_iff, peaked_iff]
  constructor
  · rintro ⟨other, hother, hkey, hpeak⟩
    rwa [List.inj_on_of_nodup_map hkeys hother hrow hkey] at hpeak
  · exact fun hpeak => ⟨row, hrow, rfl, hpeak⟩

theorem peaked_eq_false {kind : PeakKind} {userId mode : Nat} {day : Int}
    (h : ∀ row ∈ s.snapshots, row.key ≠ (userId, mode, day)) :
    s.peaked kind userId mode day = false := by
  rw [← Bool.not_eq_true, peaked_iff]
  rintro ⟨row, hrow, hkey, -⟩
  exact h row hrow hkey

-- On its own day a run announces every peak that the table then has.
theorem announced_today {added : List StatSnapshot} (hkept : Kept old s)
    (hadded : Added r.tables r.day validGamemodes s.snapshots added)
    (hold : ∀ row ∈ old, row.snapshotDate < r.day) (kind : PeakKind) (userId mode : Nat) :
    (publishPeaks (s.snapshots ++ added) r.day).countP (FeedEvent.isOf kind userId mode) =
      if Feed.peaked { s with snapshots := s.snapshots ++ added } kind userId mode r.day then 1
      else 0 := by
  have hkeys := hadded.nodup hkept.nodup
  by_cases hex : ∃ row ∈ s.snapshots ++ added, row.key = (userId, mode, r.day)
  · obtain ⟨row, hrow, hkey⟩ := hex
    simp only [StatSnapshot.key, Prod.mk.injEq] at hkey
    obtain ⟨rfl, rfl, hday⟩ := hkey
    have hvalid : ∃ mode ∈ validGamemodes, row.mode = mode.value := by
      rcases List.mem_append.mp hrow with hmem | hmem
      · rcases hkept.modes row hmem with hmem | hvalid
        · have := hold row hmem
          omega
        · exact hvalid
      · obtain ⟨mode, hmode, hsource⟩ := hadded.source row hmem
        exact ⟨mode, hmode, (mem_ranked hsource).1⟩
    obtain ⟨mode, hmode, heq⟩ := hvalid
    have hpeaked := peaked_eq_isPeak (s := { s with snapshots := s.snapshots ++ added }) hkeys hrow
      kind
    rw [count_publishPeaks hkeys hrow hday hmode heq, ← hday, hpeaked]
  · push Not at hex
    rw [peaked_eq_false (s := { s with snapshots := s.snapshots ++ added }) hex,
      count_publishPeaks_zero, if_neg (by simp)]
    rintro row hrow hday ⟨rfl, rfl⟩
    exact hex row hrow (by rw [StatSnapshot.key, hday])

-- Snapshots that were there are peaks after a run as they were before.
theorem peaked_mono {added : List StatSnapshot} (hafter : r.After s.snapshots)
    (hadded : Added r.tables r.day validGamemodes s.snapshots added) {kind : PeakKind}
    {userId mode : Nat} {day : Int} (h : s.peaked kind userId mode day = true) :
    Feed.peaked { s with snapshots := s.snapshots ++ added } kind userId mode day = true := by
  obtain ⟨row, hrow, hkey, hpeak⟩ := peaked_iff.mp h
  refine peaked_iff.mpr ⟨row, List.mem_append_left _ hrow, hkey, ?_⟩
  rw [isPeak_append hadded.dates (hafter row hrow)]
  exact hpeak

theorem peaked_other {added : List StatSnapshot} (hafter : r.After s.snapshots)
    (hadded : Added r.tables r.day validGamemodes s.snapshots added) {kind : PeakKind}
    {userId mode : Nat} {day : Int} (hne : day ≠ r.day) :
    Feed.peaked { s with snapshots := s.snapshots ++ added } kind userId mode day =
      s.peaked kind userId mode day := by
  rw [Bool.eq_iff_iff]
  refine ⟨fun h => ?_, peaked_mono hafter hadded⟩
  obtain ⟨row, hrow, hkey, hpeak⟩ := peaked_iff.mp h
  rcases List.mem_append.mp hrow with hmem | hmem
  · rw [isPeak_append hadded.dates (hafter row hmem)] at hpeak
    exact peaked_iff.mpr ⟨row, hmem, hkey, hpeak⟩
  · have hdate := hadded.dates row hmem
    have hday : row.snapshotDate = day := congrArg (fun key : Nat × Nat × Int => key.2.2) hkey
    exact absurd (hday.symm.trans hdate) hne

-- What a run that captures someone does to the announcements of a peak.
theorem announced_captured {added : List StatSnapshot} (hkept : Kept old s)
    (hafter : r.After s.snapshots)
    (hadded : Added r.tables r.day validGamemodes s.snapshots added)
    (hrun : s.run driver r =
      { snapshots := s.snapshots ++ added
        published := s.published ++
          (publishPeaks (s.snapshots ++ added) r.day).map fun e => (r.day, e) })
    (hold : ∀ row ∈ old, row.snapshotDate < r.day) (kind : PeakKind) (userId mode : Nat)
    (day : Int) :
    ((s.run driver r).announced kind userId mode day =
      s.announced kind userId mode day +
        if day = r.day ∧ (s.run driver r).peaked kind userId mode day then 1 else 0) ∧
    (s.peaked kind userId mode day = true → (s.run driver r).peaked kind userId mode day = true) ∧
    (day ≠ r.day → (s.run driver r).peaked kind userId mode day = s.peaked kind userId mode day) := by
  have hpeaked : ∀ day, (s.run driver r).peaked kind userId mode day =
      Feed.peaked { s with snapshots := s.snapshots ++ added } kind userId mode day := by
    intro day
    rw [hrun]
    rfl
  refine ⟨?_, ?_, ?_⟩
  · rw [hpeaked, hrun, announced_append, announced_today hkept hadded hold]
    congr 1
    by_cases hday : r.day = day
    · subst hday
      simp
    · simp [hday, Ne.symm hday]
  · rw [hpeaked]
    exact peaked_mono hafter hadded
  · rw [hpeaked]
    exact peaked_other hafter hadded

theorem Kept.run (hkept : Kept old s) (hafter : r.After s.snapshots)
    (hold : ∀ row ∈ old, row.snapshotDate < r.day) : Kept old (s.run driver r) := by
  rcases ran driver s r with ⟨-, hsame⟩ | ⟨added, -, hadded, hrun⟩
  · rw [hsame]
    exact hkept
  · have hspec := announced_captured hkept hafter hadded hrun hold
    constructor
    · rw [hrun]
      exact hadded.nodup hkept.nodup
    · rw [hrun]
      intro row hrow
      rcases List.mem_append.mp hrow with hmem | hmem
      · exact hkept.modes row hmem
      · obtain ⟨mode, hmode, hsource⟩ := hadded.source row hmem
        exact Or.inr ⟨mode, hmode, (mem_ranked hsource).1⟩
    · intro kind userId mode day hnew hpeaked
      obtain ⟨hcount, -, hother⟩ := hspec kind userId mode day
      rw [hcount]
      by_cases hday : day = r.day
      · rw [if_pos ⟨hday, hpeaked⟩]
        omega
      · rw [hother hday] at hpeaked
        have := hkept.once kind userId mode day hnew hpeaked
        omega
    · intro kind userId mode day hnew hpeaked
      obtain ⟨hcount, hmono, -⟩ := hspec kind userId mode day
      have hbefore : s.peaked kind userId mode day = false := by
        rw [← Bool.not_eq_true]
        intro h
        rw [hmono h] at hpeaked
        cases hpeaked
      rw [hcount, hkept.never kind userId mode day hnew hbefore, hpeaked]
      simp

theorem ExactlyOnce.run (h : ExactlyOnce old s) (hkept : Kept old s)
    (hafter : r.After s.snapshots) (hold : ∀ row ∈ old, row.snapshotDate < r.day)
    (hquiet : r.Quiet s.snapshots) : ExactlyOnce old (s.run driver r) := by
  rcases ran driver s r with ⟨-, hsame⟩ | ⟨added, hcaptures, hadded, hrun⟩
  · rw [hsame]
    exact h
  · intro kind userId mode day hnew
    obtain ⟨hcount, hmono, hother⟩ :=
      announced_captured hkept hafter hadded hrun hold kind userId mode day
    rw [hcount]
    by_cases hday : day = r.day
    · subst hday
      have hbefore : s.peaked kind userId mode r.day = false := by
        rw [← Bool.not_eq_true, peaked_iff]
        rintro ⟨row, hrow, hkey, hpeak⟩
        have hdate : row.snapshotDate = r.day :=
          congrArg (fun key : Nat × Nat × Int => key.2.2) hkey
        rw [hquiet hcaptures row hrow hdate kind] at hpeak
        cases hpeak
      rw [h kind userId mode r.day hnew, hbefore]
      simp
    · rw [h kind userId mode day hnew, hother hday]
      simp [hday]

-- A run on the day of a peak that captures someone else announces the peak again.
theorem announced_twice (hkept : Kept old s) (hafter : r.After s.snapshots)
    (hold : ∀ row ∈ old, row.snapshotDate < r.day) (hquiet : ¬ r.Quiet s.snapshots) :
    ∃ kind userId mode, 2 ≤ (s.run driver r).announced kind userId mode r.day := by
  unfold Run.Quiet at hquiet
  push Not at hquiet
  obtain ⟨hcaptures, row, hrow, hday, kind, hpeak⟩ := hquiet
  refine ⟨kind, row.userId, row.mode, ?_⟩
  have hbefore : s.peaked kind row.userId row.mode r.day = true := by
    rw [← hday, peaked_eq_isPeak hkept.nodup hrow]
    exact Bool.of_not_eq_false hpeak
  have honce := hkept.once kind row.userId row.mode r.day hold hbefore
  rcases ran driver s r with ⟨hnone, -⟩ | ⟨added, -, hadded, hrun⟩
  · exact absurd hcaptures hnone
  · obtain ⟨hcount, hmono, -⟩ :=
      announced_captured hkept hafter hadded hrun hold kind row.userId row.mode r.day
    rw [hcount, if_pos ⟨rfl, hmono hbefore⟩]
    omega

theorem announced_run_le (kind : PeakKind) (userId mode : Nat) (day : Int) :
    s.announced kind userId mode day ≤ (s.run driver r).announced kind userId mode day := by
  rcases ran driver s r with ⟨-, hsame⟩ | ⟨added, -, -, hrun⟩
  · rw [hsame]
  · rw [hrun, announced_append]
    exact Nat.le_add_right _ _

theorem announced_runs_le (rs : List Run) (s : Feed) (kind : PeakKind) (userId mode : Nat)
    (day : Int) :
    s.announced kind userId mode day ≤ (s.runs driver rs).announced kind userId mode day := by
  induction rs generalizing s with
  | nil => exact Nat.le_refl _
  | cons r rest ih => exact (announced_run_le kind userId mode day).trans (ih (s.run driver r))

theorem After.run {later : Run} (hafter : later.After s.snapshots) (hday : r.day ≤ later.day) :
    later.After (s.run driver r).snapshots := by
  rcases ran driver s r with ⟨-, hsame⟩ | ⟨added, -, hadded, hrun⟩
  · rw [hsame]
    exact hafter
  · rw [hrun]
    intro row hrow
    rcases List.mem_append.mp hrow with hmem | hmem
    · exact hafter row hmem
    · rw [hadded.dates row hmem]
      exact hday

end Steps

section Sequences

variable {driver : Driver} {old : List StatSnapshot}

theorem exactlyOnce_runs {rs : List Run} (hdays : rs.Pairwise fun r later => r.day ≤ later.day)
    (hold : ∀ r ∈ rs, ∀ row ∈ old, row.snapshotDate < r.day) {s : Feed} (hkept : Kept old s)
    (hafter : ∀ r ∈ rs, r.After s.snapshots) (h : ExactlyOnce old s) :
    ExactlyOnce old (s.runs driver rs) ↔ EachQuiet driver s rs := by
  induction rs generalizing s with
  | nil => exact ⟨fun _ => trivial, fun _ => h⟩
  | cons r rest ih =>
    obtain ⟨hlater, hdays⟩ := List.pairwise_cons.mp hdays
    have hr := hafter r List.mem_cons_self
    have hnew := hold r List.mem_cons_self
    have hkept' : Kept old (s.run driver r) := hkept.run hr hnew
    have hrest := ih (s := s.run driver r) hdays
      (fun r' hr' => hold r' (List.mem_cons_of_mem _ hr')) hkept'
      (fun r' hr' => After.run (hafter r' (List.mem_cons_of_mem _ hr')) (hlater r' hr'))
    constructor
    · intro hend
      have hquiet : r.Quiet s.snapshots := by
        by_contra hnot
        obtain ⟨kind, userId, mode, htwice⟩ :
            ∃ kind userId mode, 2 ≤ (s.run driver r).announced kind userId mode r.day :=
          announced_twice hkept hr hnew hnot
        have hle : (s.run driver r).announced kind userId mode r.day ≤
            ((s.run driver r).runs driver rest).announced kind userId mode r.day :=
          announced_runs_le rest (s.run driver r) kind userId mode r.day
        have hone : (s.runs driver (r :: rest)).announced kind userId mode r.day ≤ 1 := by
          rw [hend kind userId mode r.day hnew]
          split <;> omega
        have hcons : s.runs driver (r :: rest) = (s.run driver r).runs driver rest := rfl
        rw [hcons] at hone
        omega
      exact ⟨hquiet, (hrest (h.run hkept hr hnew hquiet)).mp hend⟩
    · rintro ⟨hquiet, heach⟩
      exact (hrest (h.run hkept hr hnew hquiet)).mpr heach

-- Where the loop starts: a table of snapshots from before its runs.
structure Starts (old : List StatSnapshot) (rs : List Run) : Prop where
  nodup : (old.map StatSnapshot.key).Nodup
  before : ∀ r ∈ rs, ∀ row ∈ old, row.snapshotDate < r.day
  days : rs.Pairwise fun r later => r.day ≤ later.day

-- rows_written counts the rows of everyone, and the peaks are those of everyone.
theorem exactlyOnce_iff (driver : Driver) (old : List StatSnapshot) (rs : List Run)
    (h : Starts old rs) :
    ExactlyOnce old (Feed.runs driver { snapshots := old, published := [] } rs) ↔
      EachQuiet driver { snapshots := old, published := [] } rs := by
  have hunpeaked : ∀ kind userId mode day, (∀ row ∈ old, row.snapshotDate < day) →
      Feed.peaked { snapshots := old, published := [] } kind userId mode day = false := by
    intro kind userId mode day hnew
    apply peaked_eq_false
    intro row hrow hkey
    have hdate : row.snapshotDate = day := congrArg (fun key : Nat × Nat × Int => key.2.2) hkey
    have := hnew row hrow
    omega
  apply exactlyOnce_runs h.days h.before
  · refine ⟨h.nodup, fun row hrow => Or.inl hrow, ?_, fun _ _ _ _ _ _ => rfl⟩
    intro kind userId mode day hnew hpeaked
    rw [hunpeaked kind userId mode day hnew] at hpeaked
    cases hpeaked
  · intro r hr row hrow
    exact Int.le_of_lt (h.before r hr row hrow)
  · intro kind userId mode day hnew
    rw [hunpeaked kind userId mode day hnew]
    rfl

def counting : Driver where
  answer := List.length
  answer_pos _ := List.length_pos_iff

def playerOn (id pp : Nat) : Stats :=
  { id, mode := 0, tscore := 1000, rscore := 500, pp, acc := 98, plays := 10, playtime := 600,
    maxCombo := 300, totalHits := 3000 }

def userOn (id : Nat) : User := { id, priv := 3, country := "xx" }

def yesterday : StatSnapshot :=
  { userId := 1, mode := 0, snapshotDate := 19000, pp := 100, globalRank := some 2,
    countryRank := some 2, tscore := 900, rscore := 400, acc := 97, plays := 9, playtime := 500,
    maxCombo := 300, totalHits := 2500 }

-- The first run of the day finds one ranked player, and one after a restart finds another.
def firstRun : Run where
  tables :=
    { stats := [playerOn 1 200]
      users := [userOn 1]
      stats_nodup := by decide
      users_nodup := by decide }
  day := 19001

def secondRun : Run where
  tables :=
    { stats := [playerOn 1 200, playerOn 2 50]
      users := [userOn 1, userOn 2]
      stats_nodup := by decide
      users_nodup := by decide }
  day := 19001

theorem starts_restart : Starts [yesterday] [firstRun, secondRun] := by
  constructor
  · decide
  · decide
  · decide

theorem exactlyOnce_iff_restart :
    ExactlyOnce [yesterday]
        (Feed.runs counting { snapshots := [yesterday], published := [] } [firstRun, secondRun]) ↔
      EachQuiet counting { snapshots := [yesterday], published := [] } [firstRun, secondRun] :=
  exactlyOnce_iff counting [yesterday] [firstRun, secondRun] starts_restart

-- The second run announces the peak of the first player again.
theorem not_exactlyOnce_restart :
    ¬ ∀ (driver : Driver) (old : List StatSnapshot) (rs : List Run), Starts old rs →
      ExactlyOnce old (Feed.runs driver { snapshots := old, published := [] } rs) := by
  intro h
  have hone := h counting [yesterday] [firstRun, secondRun] starts_restart .ppRecord 1 0 19001
    (by decide)
  have htwo : (Feed.runs counting { snapshots := [yesterday], published := [] }
      [firstRun, secondRun]).announced .ppRecord 1 0 19001 = 2 := by
    decide +kernel
  rw [htwo] at hone
  split at hone <;> omega

end Sequences

end BanchoPrism.Snapshots
