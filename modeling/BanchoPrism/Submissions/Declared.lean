import BanchoPrism.Submissions.Tempo

namespace BanchoPrism.Submissions

open Library Library.Text

-- An outcome that is documented, or a value as it should be.
def Declares {α : Type} (P : α → Prop) : Except Raised α → Prop
  | .ok a => P a
  | .error (.documented _) => True
  | .error .other => False

section Declaring

variable {α γ : Type} {P : γ → Prop}

theorem declares_iff (x : Except Raised γ) :
    Declares P x ↔ x ≠ .error .other ∧ ∀ a, x = .ok a → P a := by
  cases x with
  | ok a => simp [Declares]
  | error e => cases e <;> simp [Declares]

theorem declares_bind (x : Except Raised α) (f : α → Except Raised γ) :
    Declares P (x >>= f) ↔ x ≠ .error .other ∧ ∀ a, x = .ok a → Declares P (f a) := by
  cases x with
  | ok a =>
    simp only [ne_eq, reduceCtorEq, not_false_eq_true, true_and, Except.ok.injEq, forall_eq']
    rfl
  | error e => cases e <;> simp [Declares, bind, Except.bind]

theorem declares_bind_iff {x : Except Raised α} {f : α → Except Raised γ} {B : α → Prop}
    (h : ∀ a, x = .ok a → (Declares P (f a) ↔ B a)) :
    Declares P (x >>= f) ↔ x ≠ .error .other ∧ ∀ a, x = .ok a → B a := by
  rw [declares_bind]
  apply and_congr_right
  intro _
  exact forall₂_congr h

theorem declares_bind_of_ne {x : Except Raised α} {f : α → Except Raised γ} {B : α → Prop}
    (hne : x ≠ .error .other) (h : ∀ a, x = .ok a → (Declares P (f a) ↔ B a)) :
    Declares P (x >>= f) ↔ ∀ a, x = .ok a → B a := by
  rw [declares_bind_iff h]
  exact and_iff_right hne

end Declaring

section Stages

variable {β : Type} {b : Builtins β} {text key raw : String} {maximum : Nat}
variable {values : List (String × String)}

def valuesOf (lines : List (List Char)) (name : String) : List (String × String) :=
  parseKeyValues (bodyOf (splitSections lines) name)

-- The digits of the version in the first line that is not blank.
def headerDigits (b : Builtins β) (lines : List (List Char)) : Option (List Nat) :=
  (lines.find? fun line => !(strip line).isEmpty).bind fun line => matchHeader b (strip line)

theorem parseFormatVersion_ne (lines : List (List Char)) :
    parseFormatVersion b lines ≠ .error .other ↔
      ∀ digits, headerDigits b lines = some digits → digits.length ≤ maxStrDigits := by
  unfold parseFormatVersion headerDigits
  cases lines.find? fun line => !(strip line).isEmpty with
  | none => simp [invalid]
  | some line =>
    rw [Option.bind_some]
    dsimp only
    cases matchHeader b (strip line) with
    | none => simp [invalid]
    | some digits =>
      dsimp only [intOfDigits]
      by_cases hlength : digits.length ≤ maxStrDigits
      · rw [if_pos hlength]
        dsimp only
        split <;> simp [invalid, hlength]
      · rw [if_neg hlength]
        simp [hlength]

theorem requireText_ne (values : List (String × String)) (key : String) :
    requireText values key ≠ .error .other := by
  unfold requireText
  dsimp only
  split <;> simp [invalid]

theorem parseMode_ne (rawMode : Option String) :
    parseMode b rawMode ≠ .error .other ↔
      ∀ raw, rawMode = some raw → stripped raw ≠ "" →
        ∀ negative, b.float raw ≠ some (.infinite negative) := by
  unfold parseMode
  cases rawMode with
  | none => simp
  | some raw =>
    dsimp only
    split
    case isTrue hempty =>
      have hblank : stripped raw = "" := by simpa using hempty
      simp [hblank]
    case isFalse hempty =>
      have hshown : stripped raw ≠ "" := by simpa using hempty
      cases hfloat : b.float raw with
      | none => simp [invalid, hfloat]
      | some number =>
        cases number with
        | nan => simp [invalid, hfloat]
        | infinite negative => simp [hshown, hfloat]
        | finite q =>
          dsimp only
          split <;> simp [invalid, hfloat]

theorem parseDifficultyValue_declares (raw key : String) (maximum : Nat) :
    Declares (fun q : ℚ => 0 ≤ q ∧ q ≤ maximum) (parseDifficultyValue b raw key maximum) := by
  unfold parseDifficultyValue
  dsimp only
  split
  · trivial
  · split
    case isTrue h => exact h
    case isFalse => trivial
  · trivial

theorem requireDifficultyValue_declares (values : List (String × String)) (key : String)
    (maximum : Nat) :
    Declares (fun q : ℚ => 0 ≤ q ∧ q ≤ maximum) (requireDifficultyValue b values key maximum) := by
  unfold requireDifficultyValue
  split
  · trivial
  · exact parseDifficultyValue_declares _ _ _

theorem parseMode_le {rawMode : Option String} {mode : Nat} (h : parseMode b rawMode = .ok mode) :
    mode ≤ 3 := by
  unfold parseMode at h
  split at h
  · cases h
    omega
  · split at h
    · cases h
      omega
    · split at h
      · cases h
      · cases h
      · cases h
      · dsimp only at h
        split at h
        · rename_i hrange
          cases h
          omega
        · cases h

end Stages

-- What is read of a text before its objects.
structure Ratings where
  formatVersion : Nat
  artist : String
  title : String
  version : String
  declaredCreator : String
  mode : Nat
  hp : ℚ
  cs : ℚ
  od : ℚ
  ar : ℚ

def Ratings.measured {β : Type} (x : Ratings) (m : Measures β) : OsuFileMetadata β where
  formatVersion := x.formatVersion
  artist := x.artist
  title := x.title
  version := x.version
  declaredCreator := x.declaredCreator
  mode := x.mode
  hp := x.hp
  cs := x.cs
  od := x.od
  ar := x.ar
  bpm := m.bpm
  totalLength := m.totalLength
  hitObjectCount := m.hitObjectCount

section Parsing

variable {β : Type} {b : Builtins β} {P : OsuFileMetadata β → Prop} {text : String}

-- The header, the sections and the names of a text are as they should be.
structure Identified (b : Builtins β) (text : String) : Prop where
  version : ∃ version, parseFormatVersion b (splitLines text.toList) = .ok version
  sections : ∀ name ∈ requiredSections,
    ((splitSections (splitLines text.toList)).lookup name).isSome
  artist : ∃ value, requireText (valuesOf (splitLines text.toList) "Metadata") "Artist" = .ok value
  title : ∃ value, requireText (valuesOf (splitLines text.toList) "Metadata") "Title" = .ok value
  name : ∃ value, requireText (valuesOf (splitLines text.toList) "Metadata") "Version" = .ok value

-- And so are its mode and its difficulty.
structure Rated (b : Builtins β) (text : String) (x : Ratings) : Prop where
  formatVersion : parseFormatVersion b (splitLines text.toList) = .ok x.formatVersion
  sections : ∀ name ∈ requiredSections,
    ((splitSections (splitLines text.toList)).lookup name).isSome
  artist : requireText (valuesOf (splitLines text.toList) "Metadata") "Artist" = .ok x.artist
  title : requireText (valuesOf (splitLines text.toList) "Metadata") "Title" = .ok x.title
  version : requireText (valuesOf (splitLines text.toList) "Metadata") "Version" = .ok x.version
  declaredCreator : x.declaredCreator =
    clip (stripped (((valuesOf (splitLines text.toList) "Metadata").lookup "Creator").getD ""))
      maxMetadataLength
  mode : parseMode b ((valuesOf (splitLines text.toList) "General").lookup "Mode") = .ok x.mode
  hp : requireDifficultyValue b (valuesOf (splitLines text.toList) "Difficulty") "HPDrainRate" 10 =
    .ok x.hp
  od : requireDifficultyValue b (valuesOf (splitLines text.toList) "Difficulty")
    "OverallDifficulty" 10 = .ok x.od
  cs : requireDifficultyValue b (valuesOf (splitLines text.toList) "Difficulty") "CircleSize"
    (if x.mode = 3 then 18 else 10) = .ok x.cs
  ar : (match (valuesOf (splitLines text.toList) "Difficulty").lookup "ApproachRate" with
    | some raw => parseDifficultyValue b raw "ApproachRate" 10
    | none => .ok x.od) = .ok x.ar

theorem find?_requiredSections (lines : List (List Char)) :
    (requiredSections.find? fun name => ((splitSections lines).lookup name).isNone) = none ↔
      ∀ name ∈ requiredSections, ((splitSections lines).lookup name).isSome := by
  rw [List.find?_eq_none]
  apply forall₂_congr
  intro name _
  cases (splitSections lines).lookup name <;> simp

theorem requireDifficultyValue_ne (values : List (String × String)) (key : String)
    (maximum : Nat) : requireDifficultyValue b values key maximum ≠ .error .other :=
  ((declares_iff _).mp (requireDifficultyValue_declares values key maximum)).1

-- What a text is read to, stage by stage.
theorem declares_stages (lines : List (List Char)) (hlines : splitLines text.toList = lines) :
    Declares P (parseOsuFile b text) ↔
      parseFormatVersion b lines ≠ .error .other ∧
        ∀ formatVersion, parseFormatVersion b lines = .ok formatVersion →
          (requiredSections.find? fun name => ((splitSections lines).lookup name).isNone) = none →
          ∀ artist, requireText (valuesOf lines "Metadata") "Artist" = .ok artist →
          ∀ title, requireText (valuesOf lines "Metadata") "Title" = .ok title →
          ∀ version, requireText (valuesOf lines "Metadata") "Version" = .ok version →
          parseMode b ((valuesOf lines "General").lookup "Mode") ≠ .error .other ∧
          ∀ mode, parseMode b ((valuesOf lines "General").lookup "Mode") = .ok mode →
          ∀ hp, requireDifficultyValue b (valuesOf lines "Difficulty") "HPDrainRate" 10 = .ok hp →
          ∀ od, requireDifficultyValue b (valuesOf lines "Difficulty") "OverallDifficulty" 10 =
            .ok od →
          ∀ cs, requireDifficultyValue b (valuesOf lines "Difficulty") "CircleSize"
            (if mode = 3 then 18 else 10) = .ok cs →
          ∀ ar, (match (valuesOf lines "Difficulty").lookup "ApproachRate" with
            | some raw => parseDifficultyValue b raw "ApproachRate" 10
            | none => .ok od) = .ok ar →
          Declares (fun m => P (Ratings.measured
            { formatVersion, artist, title, version
              declaredCreator := clip (stripped (((valuesOf lines "Metadata").lookup
                "Creator").getD "")) maxMetadataLength
              mode, hp, cs, od, ar } m))
            (b.measure (bodyOf (splitSections lines) "HitObjects")
              (bodyOf (splitSections lines) "TimingPoints")) := by
  have hvalues (name : String) :
      parseKeyValues (bodyOf (splitSections lines) name) = valuesOf lines name := rfl
  unfold parseOsuFile
  simp only [hlines, hvalues]
  apply declares_bind_iff
  intro formatVersion _
  generalize List.find? (fun name => (List.lookup name (splitSections lines)).isNone)
    requiredSections = missing
  cases missing with
  | some missing =>
    constructor
    · intro _ h
      cases h
    · intro _
      trivial
  | none =>
    rw [forall_prop_of_true rfl]
    apply declares_bind_of_ne (requireText_ne _ _)
    intro artist _
    apply declares_bind_of_ne (requireText_ne _ _)
    intro title _
    apply declares_bind_of_ne (requireText_ne _ _)
    intro version _
    apply declares_bind_iff
    intro mode _
    apply declares_bind_of_ne (requireDifficultyValue_ne _ _ _)
    intro hp _
    apply declares_bind_of_ne (requireDifficultyValue_ne _ _ _)
    intro od _
    apply declares_bind_of_ne (requireDifficultyValue_ne _ _ _)
    intro cs _
    have hrate (x : Except Raised ℚ) (hx : x ≠ .error .other)
        (f : ℚ → Measures β → OsuFileMetadata β) (y : Except Raised (Measures β)) :
        Declares P (x >>= fun ar => y >>= fun m => pure (f ar m)) ↔
          ∀ ar, x = .ok ar → Declares (fun m => P (f ar m)) y := by
      apply declares_bind_of_ne hx
      intro ar _
      rw [declares_bind, declares_iff]
      rfl
    generalize List.lookup "ApproachRate" _ = rate
    cases rate with
    | none => exact hrate (.ok od) (by simp) _ _
    | some raw =>
      exact hrate _ ((declares_iff _).mp (parseDifficultyValue_declares raw _ _)).1 _ _

end Parsing

-- What the columns of the maps table have room for.
structure Storable (metadata : OsuFileMetadata Number) : Prop where
  mode : metadata.mode ≤ 3
  hp : 0 ≤ metadata.hp ∧ metadata.hp < 100
  cs : 0 ≤ metadata.cs ∧ metadata.cs < 100
  od : 0 ≤ metadata.od ∧ metadata.od < 100
  ar : 0 ≤ metadata.ar ∧ metadata.ar < 100
  totalLength : 0 ≤ metadata.totalLength ∧ metadata.totalLength < 2 ^ 31
  bpm : ∃ x, metadata.bpm = .finite x ∧ 0 ≤ x ∧ x < 10 ^ 10

-- The stretch from the first start to the last end is short enough, and the beat that is in
-- effect longest is not too short.
def Stored (r : Readers) (objects : List HitObject) (points : List (Number × Number)) : Prop :=
  ∀ first last, Spans objects first last →
    (∃ q, ((Number.finite last).sub (.finite first)).div (.finite 1000) = some (.finite q) ∧
      q ≤ 2 ^ 31 - 1) ∧
    ∀ beatLength, Longest (.finite last) (r.sorted points) beatLength →
      ∃ q, (Number.finite 60000).div beatLength = some (.finite q) ∧ q < 9999999999.995

-- No number of a text is beyond what the stage can take that it comes to.
structure Harmless (r : Readers) (text : String) : Prop where
  version : ∀ digits, headerDigits (builtinsOf r) (splitLines text.toList) = some digits →
    digits.length ≤ maxStrDigits
  mode : Identified (builtinsOf r) text →
    ∀ raw, (valuesOf (splitLines text.toList) "General").lookup "Mode" = some raw →
      stripped raw ≠ "" → ∀ negative, r.float raw ≠ some (.infinite negative)
  objects : ∀ x, Rated (builtinsOf r) text x →
    Spannable (hitObjectsOf r (bodyOf (splitSections (splitLines text.toList)) "HitObjects"))
  stored : ∀ x, Rated (builtinsOf r) text x →
    timingPointsOf r (bodyOf (splitSections (splitLines text.toList)) "TimingPoints") ≠ [] →
      Stored r (hitObjectsOf r (bodyOf (splitSections (splitLines text.toList)) "HitObjects"))
        (timingPointsOf r (bodyOf (splitSections (splitLines text.toList)) "TimingPoints"))

section Declared

variable {r : Readers} {text : String} {x : Ratings}

theorem Rated.difficulty {β : Type} {b : Builtins β} (h : Rated b text x) :
    (0 ≤ x.hp ∧ x.hp < 100) ∧ (0 ≤ x.cs ∧ x.cs < 100) ∧ (0 ≤ x.od ∧ x.od < 100) ∧
      (0 ≤ x.ar ∧ x.ar < 100) := by
  have hbounds {raw : Except Raised ℚ} {q : ℚ} {maximum : Nat} (hmaximum : maximum < 100)
      (hraw : Declares (fun q : ℚ => 0 ≤ q ∧ q ≤ maximum) raw) (hq : raw = .ok q) :
      0 ≤ q ∧ q < 100 := by
    have hrange := ((declares_iff _).mp hraw).2 q hq
    have hcast : (maximum : ℚ) < 100 := by exact_mod_cast hmaximum
    exact ⟨hrange.1, lt_of_le_of_lt hrange.2 hcast⟩
  have hod := hbounds (by omega) (requireDifficultyValue_declares _ _ _) h.od
  refine ⟨hbounds (by omega) (requireDifficultyValue_declares _ _ _) h.hp,
    hbounds ?_ (requireDifficultyValue_declares _ _ _) h.cs, hod, ?_⟩
  · split <;> omega
  · have har := h.ar
    split at har
    · exact hbounds (by omega) (parseDifficultyValue_declares _ _ _) har
    · rw [← Except.ok.inj har]
      exact hod

theorem declares_measure (hsorted : ∀ points, (r.sorted points).Perm points)
    (h : Rated (builtinsOf r) text x) (hitObjects timingPoints : List String) :
    Declares (fun m => Storable (x.measured m)) (measure r hitObjects timingPoints) ↔
      Spannable (hitObjectsOf r hitObjects) ∧
        (timingPointsOf r timingPoints ≠ [] →
          Stored r (hitObjectsOf r hitObjects) (timingPointsOf r timingPoints)) := by
  obtain ⟨hhp, hcs, hod, har⟩ := h.difficulty
  unfold measure
  rcases parseHitObjectSpan_cases r hitObjects with
    ⟨hnil, hspannable, hrun⟩ | ⟨hspannable, hrun⟩ | ⟨hspannable, n, first, last, hspanned⟩
  · rw [hrun]
    refine iff_of_true trivial ⟨hspannable, ?_⟩
    rintro - first last ⟨hfirst, -⟩
    have hmem := hfirst.1
    rw [hnil] at hmem
    simp at hmem
  · rw [hrun]
    exact iff_of_false id fun hboth => hspannable hboth.1
  · rw [hspanned.run]
    rcases parseBpm_cases hsorted timingPoints (.finite last) with
      ⟨hnil, hbpm⟩ | ⟨hpoints, beatLength, quotient, hlongest, hdiv, hbpm, hiff⟩
    · simp only [bind, Except.bind, hbpm]
      exact iff_of_true trivial ⟨hspannable, fun hpoints => absurd hnil hpoints⟩
    · have hceil : (0 ≤ ⌈n⌉ ∧ ⌈n⌉ < 2 ^ 31) ↔ n ≤ 2 ^ 31 - 1 := by
        have hle : ⌈n⌉ ≤ 2 ^ 31 - 1 ↔ n ≤ 2 ^ 31 - 1 := by
          rw [Int.ceil_le]
          norm_num
        have hnonneg := Int.ceil_nonneg hspanned.nonneg
        rw [← hle]
        omega
      simp only [bind, Except.bind, hbpm]
      constructor
      · intro hstorable
        refine ⟨hspannable, fun _ first' last' hspans => ?_⟩
        obtain ⟨rfl, rfl⟩ := hspanned.spans.unique hspans
        refine ⟨⟨n, hspanned.seconds, hceil.mp hstorable.totalLength⟩, ?_⟩
        intro other hother
        cases hlongest.unique hother
        obtain ⟨q, hq, hlt⟩ := hiff.mp hstorable.bpm
        exact ⟨q, hdiv.trans (congrArg some hq), hlt⟩
      · rintro ⟨-, hstored⟩
        obtain ⟨⟨q, hq, hle⟩, hbeat⟩ := hstored hpoints first last hspanned.spans
        obtain ⟨q', hq', hlt⟩ := hbeat beatLength hlongest
        rw [hspanned.seconds] at hq
        cases hq
        rw [hdiv] at hq'
        cases hq'
        exact ⟨parseMode_le h.mode, hhp, hcs, hod, har, hceil.mpr hle, hiff.mpr ⟨q', rfl, hlt⟩⟩

theorem declares_storable_iff (hsorted : ∀ points, (r.sorted points).Perm points) (text : String) :
    Declares Storable (parseOsuFile (builtinsOf r) text) ↔ Harmless r text := by
  rw [declares_stages _ rfl]
  constructor
  · rintro ⟨hversion, hstages⟩
    have hrated (x : Ratings) (h : Rated (builtinsOf r) text x) := by
      have hfound := (find?_requiredSections _).mpr h.sections
      have hmode := hstages _ h.formatVersion hfound _ h.artist _ h.title _ h.version
      have hmeasure := hmode.2 _ h.mode _ h.hp _ h.od _ h.cs _ h.ar
      rw [← h.declaredCreator] at hmeasure
      exact (declares_measure hsorted h _ _).mp hmeasure
    refine ⟨(parseFormatVersion_ne _).mp hversion, ?_, fun x h => (hrated x h).1,
      fun x h => (hrated x h).2⟩
    rintro ⟨⟨version, hversion⟩, hsections, ⟨artist, hartist⟩, ⟨title, htitle⟩, ⟨name, hname⟩⟩
    have hmode := hstages version hversion ((find?_requiredSections _).mpr hsections) artist hartist
      title htitle name hname
    exact (parseMode_ne _).mp hmode.1
  · rintro ⟨hversion, hmode, hobjects, hstored⟩
    refine ⟨(parseFormatVersion_ne _).mpr hversion, ?_⟩
    intro formatVersion hformat hfound artist hartist title htitle version hname
    have hsections := (find?_requiredSections _).mp hfound
    refine ⟨(parseMode_ne _).mpr (hmode ⟨⟨_, hformat⟩, hsections, ⟨_, hartist⟩, ⟨_, htitle⟩,
      ⟨_, hname⟩⟩), ?_⟩
    intro mode hmode' hp hhp od hod cs hcs ar har
    have h : Rated (builtinsOf r) text
        { formatVersion, artist, title, version
          declaredCreator := clip (stripped (((valuesOf (splitLines text.toList) "Metadata").lookup
            "Creator").getD "")) maxMetadataLength
          mode, hp, cs, od, ar } :=
      ⟨hformat, hsections, hartist, htitle, hname, rfl, hmode', hhp, hod, hcs, har⟩
    exact (declares_measure hsorted h _ _).mpr ⟨hobjects _ h, hstored _ h⟩

theorem plainReaders_sorted (points : List (Number × Number)) :
    (plainReaders.sorted points).Perm points := List.mergeSort_perm _ _

def infiniteMode : List String := ["[General]", "Mode:inf"]

theorem splitLines_sample : ∀ more ∈ [[], infiniteMode],
    splitLines (sampleChars more) = sampleLines more := by
  decide

theorem declares_storable_iff_sample :
    Harmless plainReaders (String.ofList (sampleChars [])) := by
  apply (declares_storable_iff plainReaders_sorted _).mp
  have hparse : parseOsuFile (builtinsOf plainReaders) (String.ofList (sampleChars [])) =
      .ok { formatVersion := 14, artist := "artist", title := "title", version := "Hard",
            declaredCreator := "", mode := 0, hp := 5, cs := 4, od := 8, ar := 8,
            bpm := .finite 120, totalLength := 0, hitObjectCount := 1 } := by
    unfold parseOsuFile
    simp only [String.toList_ofList, splitLines_sample [] (by decide)]
    decide +kernel
  rw [hparse]
  constructor
  all_goals norm_num

-- int() of an infinity is an OverflowError, which no one expects of a mode.
theorem not_declares_storable : ¬∀ (r : Readers) (text : String),
    (∀ points, (r.sorted points).Perm points) →
      Declares Storable (parseOsuFile (builtinsOf r) text) := by
  intro hall
  obtain ⟨text, hparse⟩ : ∃ text, parseOsuFile (builtinsOf plainReaders) text = .error .other := by
    refine ⟨String.ofList (sampleChars infiniteMode), ?_⟩
    unfold parseOsuFile
    simp only [String.toList_ofList, splitLines_sample infiniteMode (by simp)]
    decide
  have hdeclares := hall plainReaders text plainReaders_sorted
  rw [hparse] at hdeclares
  exact hdeclares

end Declared

end BanchoPrism.Submissions
