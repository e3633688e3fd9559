import BanchoPrism.Beatmaps.Sets
import BanchoPrism.Library.Floats
import BanchoPrism.Library.Rows
import BanchoPrism.Library.Text

namespace BanchoPrism.Submissions

open Library Library.Text
open Beatmaps (ignoredBeatmapChars osuFilename)

-- What is derived of a map, with a tempo that is finite or, of any float, a Number.
structure Measures (β : Type := ℚ) where
  totalLength : Int
  hitObjectCount : Nat
  bpm : β

-- The error that a function is documented to raise, with its text, or any other.
inductive Raised
  | documented (detail : String)
  | other
  deriving DecidableEq

-- The builtins that read and print numbers and texts.
structure Builtins (β : Type := ℚ) where
  -- the value of a decimal digit
  digit : Char → Option Nat
  -- none where float() raises a ValueError
  float : String → Option Number
  repr : String → String
  -- "{:.0f}"
  fixed : ℚ → String
  -- _parse_hit_object_span and _parse_bpm, of [HitObjects] and [TimingPoints]
  measure : List String → List String → Except Raised (Measures β)

-- Numbers in ASCII digits, and maps of one hit object at 120 beats a minute.
def plainBuiltins : Builtins where
  digit c := if c.isDigit then some (c.toNat - '0'.toNat) else none
  float text :=
    if text.toList.all Char.isDigit && !text.isEmpty then
      some (.finite (text.toList.foldl (fun q c => 10 * q + (c.toNat - '0'.toNat : Nat)) 0))
    else none
  repr text := "'" ++ text ++ "'"
  fixed q := toString q.floor
  measure _ _ := .ok { totalLength := 0, hitObjectCount := 1, bpm := 120 }

structure OsuFileMetadata (β : Type := ℚ) where
  formatVersion : Nat
  artist : String
  title : String
  version : String
  declaredCreator : String
  mode : Nat
  hp : ℚ
  cs : ℚ
  od : ℚ
  ar : ℚ
  bpm : β
  totalLength : Int
  hitObjectCount : Nat
  deriving DecidableEq

def maxFilenameLength : Nat := 200

def maxMetadataLength : Nat := 128

def minFormatVersion : Nat := 3

def maxFormatVersion : Nat := 128

-- sys.get_int_max_str_digits()
def maxStrDigits : Nat := 4300

def requiredSections : List String :=
  ["General", "Metadata", "Difficulty", "TimingPoints", "HitObjects"]

-- text[:length]
def clip (text : String) (length : Nat) : String := String.ofList (text.toList.take length)

def stripped (text : String) : String := String.ofList (strip text.toList)

-- OsuFileParseError(detail)
def invalid {α : Type} (detail : String) : Except Raised α := .error (.documented detail)

section Reading

variable {β : Type} (b : Builtins β)

-- The digits behind "osu file format v", which a byte order mark may come before.
def matchHeader (line : List Char) : Option (List Nat) := do
  let line := if line.head? = some '\ufeff' then line.tail else line
  let digits ← "osu file format v".toList.isPrefixOf? line
  if digits.isEmpty then none else digits.mapM b.digit

-- int() of decimal digits: a ValueError where they are too many.
def intOfDigits (values : List Nat) : Option Nat :=
  if values.length ≤ maxStrDigits then
    some (values.foldl (fun version value => 10 * version + value) 0)
  else none

def parseFormatVersion (lines : List (List Char)) : Except Raised Nat :=
  match lines.find? fun line => !(strip line).isEmpty with
  | none => invalid "file is empty"
  | some line =>
      match matchHeader b (strip line) with
      | none => invalid "missing or malformed 'osu file format' header"
      | some values =>
          match intOfDigits values with
          | none => .error .other
          | some version =>
              if minFormatVersion ≤ version ∧ version ≤ maxFormatVersion then .ok version
              else invalid s!"unsupported osu file format v{version}"

-- The name of a section, of a line without blanks around it.
def matchSection : List Char → Option (List Char)
  | '[' :: rest =>
      match rest.span (· ≠ ']') with
      | ([], _) => none
      | (name, [']']) => some name
      | _ => none
  | _ => none

structure Sections where
  bodies : List (String × List String)
  current : Option String

def Sections.read (s : Sections) (line : List Char) : Sections :=
  let line := strip line
  if line.isEmpty || "//".toList.isPrefixOf line then s
  else
    match matchSection line with
    | some name =>
        let name := String.ofList name
        { bodies :=
            if s.bodies.any fun body => body.1 = name then s.bodies else s.bodies ++ [(name, [])]
          current := some name }
    | none =>
        { s with
          bodies := s.bodies.map fun body =>
            if some body.1 = s.current then (body.1, body.2 ++ [String.ofList line]) else body }

def splitSections (lines : List (List Char)) : List (String × List String) :=
  (lines.foldl Sections.read { bodies := [], current := none }).bodies

def bodyOf (sections : List (String × List String)) (name : String) : List String :=
  (sections.lookup name).getD []

def parseKeyValues (lines : List String) : List (String × String) :=
  dictOf (lines.filterMap fun line =>
    (partition ':' line.toList).map fun (key, value) =>
      (String.ofList (strip key), String.ofList (strip value)))

def missingField (key : String) : String := s!"missing required field '{key}'"

def requireText (values : List (String × String)) (key : String) : Except Raised String :=
  let value := stripped ((values.lookup key).getD "")
  if value.isEmpty then invalid (missingField key) else .ok (clip value maxMetadataLength)

def parseMode (rawMode : Option String) : Except Raised Nat :=
  match rawMode with
  | none => .ok 0
  | some raw =>
      if (stripped raw).isEmpty then .ok 0
      else
        match b.float raw with
        | none | some .nan => invalid s!"invalid Mode value {b.repr raw}"
        -- int() raises an OverflowError.
        | some (.infinite _) => .error .other
        | some (.finite q) =>
            let mode := q.num.tdiv q.den
            if 0 ≤ mode ∧ mode ≤ 3 then .ok mode.toNat else invalid s!"unsupported Mode {mode}"

def parseDifficultyValue (raw key : String) (maximum : Nat) : Except Raised ℚ :=
  let outside := s!"{key} {b.repr raw} is out of range (0..{maximum})"
  match b.float raw with
  | none => invalid s!"invalid {key} value {b.repr raw}"
  | some (.finite q) => if 0 ≤ q ∧ q ≤ maximum then .ok q else invalid outside
  | some _ => invalid outside

def requireDifficultyValue (values : List (String × String)) (key : String) (maximum : Nat) :
    Except Raised ℚ :=
  match values.lookup key with
  | none => invalid (missingField key)
  | some raw => parseDifficultyValue b raw key maximum

def parseOsuFile (text : String) : Except Raised (OsuFileMetadata β) := do
  let lines := splitLines text.toList
  let formatVersion ← parseFormatVersion b lines
  let sections := splitSections lines
  if let some missing := requiredSections.find? fun name => (sections.lookup name).isNone then
    invalid s!"missing [{missing}] section"
  let general := parseKeyValues (bodyOf sections "General")
  let metadata := parseKeyValues (bodyOf sections "Metadata")
  let difficulty := parseKeyValues (bodyOf sections "Difficulty")
  let artist ← requireText metadata "Artist"
  let title ← requireText metadata "Title"
  let version ← requireText metadata "Version"
  let declaredCreator :=
    clip (stripped ((metadata.lookup "Creator").getD "")) maxMetadataLength
  let mode ← parseMode b (general.lookup "Mode")
  let hp ← requireDifficultyValue b difficulty "HPDrainRate" 10
  let od ← requireDifficultyValue b difficulty "OverallDifficulty" 10
  -- mania's CircleSize is a number of keys.
  let cs ← requireDifficultyValue b difficulty "CircleSize" (if mode = 3 then 18 else 10)
  let ar ← match difficulty.lookup "ApproachRate" with
    | some raw => parseDifficultyValue b raw "ApproachRate" 10
    | none => .ok od
  let measures ← b.measure (bodyOf sections "HitObjects") (bodyOf sections "TimingPoints")
  return {
    formatVersion
    artist
    title
    version
    declaredCreator
    mode
    hp
    cs
    od
    ar
    bpm := measures.bpm
    totalLength := measures.totalLength
    hitObjectCount := measures.hitObjectCount }

-- A map in lines, and more lines behind them.
def sampleLines (more : List String) : List (List Char) :=
  (["osu file format v14", "[General]", "[Metadata]", "Artist:artist", "Title:title",
    "Version:Hard", "BeatmapID:5", "[Difficulty]", "HPDrainRate:5", "CircleSize:4",
    "OverallDifficulty:8", "[TimingPoints]", "0,500", "[HitObjects]", "64,64,0,1,0"] ++
      more).map String.toList

def sampleChars (more : List String) : List Char :=
  (sampleLines more).flatMap fun line => line ++ ['\n']

end Reading

section Rewriting

-- The half-open range of the lines of a section.
def sectionBounds (lines : List (List Char)) (name : String) : Option (Nat × Nat) := do
  let start ← lines.findIdx? fun line => strip line = "[".toList ++ name.toList ++ "]".toList
  let body := lines.drop (start + 1)
  return (start + 1, start + 1 + body.findIdx fun line => (matchSection (strip line)).isSome)

def keyOf (line : List Char) : String :=
  match partition ':' line with
  | none => ""
  | some (key, _) => String.ofList (strip key)

def rewriteOsuFileIdentity (text : String) (beatmapId beatmapSetId : Int) (creator : String) :
    Except Raised String :=
  let replacements :=
    [("BeatmapID", toString beatmapId), ("BeatmapSetID", toString beatmapSetId),
      ("Creator", creator)]
  let newline := if "\r\n".toList <:+: text.toList then "\r\n" else "\n"
  let lines := splitLines text.toList
  match sectionBounds lines "Metadata" with
  | none => invalid "missing [Metadata] section"
  | some (start, stop) =>
      let entry := fun (key, value) => key ++ ":" ++ value
      let body := ((lines.take stop).drop start).map fun line =>
        match replacements.find? fun r => r.1 = keyOf line with
        | some r => entry r
        | none => String.ofList line
      let written := ((lines.take stop).drop start).map keyOf
      let missing := (replacements.filter fun r => r.1 ∉ written).map entry
      let rewritten := (lines.take start).map String.ofList ++ body ++ missing ++
        (lines.drop stop).map String.ofList
      let trailing :=
        match text.toList.getLast? with
        | some '\n' | some '\r' => newline
        | _ => ""
      .ok (newline.intercalate rewritten ++ trailing)

end Rewriting

section Naming

def osuExtension : List Char := ".osu".toList

-- What is left of a name without what the file system minds.
def sanitized (filename : List Char) : List Char :=
  strip (collapse false (filename.filter fun c => !(c.val ≤ 0x1f || c.val = 0x7f)))

def shortened (filename : List Char) : List Char :=
  if maxFilenameLength < filename.length then
    rstripBy (fun c => c = ' ' || c = '.')
      (filename.take (maxFilenameLength - osuExtension.length)) ++ osuExtension
  else filename

def scaffolding (c : Char) : Bool := isSpace c || c ∈ ['-', '(', ')', '[', ']', '.']

def withoutExtension (filename : List Char) : List Char :=
  if osuExtension <:+ filename then filename.take (filename.length - osuExtension.length)
  else filename

def canonicalOsuFilename (artist title creator version : String) : Except Raised String :=
  let filename := shortened (sanitized (osuFilename artist title creator version).toList)
  if (withoutExtension filename).all scaffolding then
    invalid "beatmap metadata produces an empty filename"
  else if filename.head? = some '.' then
    invalid "beatmap metadata produces a hidden filename"
  else .ok (String.ofList filename)

-- filename.lower().endswith(".osu")
def isOsuName (name : String) : Bool := osuExtension.isSuffixOf (name.toList.map Char.toLower)

theorem osuExtension_eq : osuExtension = ['.', 'o', 's', 'u'] := by decide

theorem osuFilename_suffix (artist title creator version : String) :
    osuExtension <:+ (osuFilename artist title creator version).toList := by
  unfold osuFilename
  rw [String.toList_ofList]
  refine filter_suffix (by simp [osuExtension_eq, ignoredBeatmapChars]) ?_
  have hend : "].osu".toList = ']' :: osuExtension := by decide
  simp only [String.toList_append, hend]
  exact (List.suffix_cons ']' osuExtension).trans (List.suffix_append _ _)

theorem sanitized_suffix {filename : List Char} (h : osuExtension <:+ filename) :
    osuExtension <:+ sanitized filename := by
  have hspaces : ∀ c ∈ osuExtension, isSpace c = false := by simp [osuExtension_eq, isSpace]
  have hfilter := filter_suffix (p := fun c : Char => !(c.val ≤ 0x1f || c.val = 0x7f))
    (by simp [osuExtension_eq]) h
  have hcollapse := collapse_suffix hspaces hfilter false
  rw [osuExtension_eq] at hspaces hcollapse ⊢
  exact @strip_suffix _ ['.', 'o', 's'] 'u' hspaces hcollapse

theorem shortened_suffix {filename : List Char} (h : osuExtension <:+ filename) :
    osuExtension <:+ shortened filename := by
  unfold shortened
  split
  · exact List.suffix_append _ _
  · exact h

-- Whatever is cut, the extension stays.
theorem canonical_suffix {artist title creator version filename : String}
    (h : canonicalOsuFilename artist title creator version = .ok filename) :
    osuExtension <:+ filename.toList := by
  simp only [canonicalOsuFilename] at h
  split at h
  · cases h
  · split at h
    · cases h
    · rw [← Except.ok.inj h, String.toList_ofList]
      exact shortened_suffix (sanitized_suffix (osuFilename_suffix artist title creator version))

theorem isOsuName_of_suffix {name : String} (h : osuExtension <:+ name.toList) :
    isOsuName name := by
  have hlower : osuExtension.map Char.toLower = osuExtension := by decide
  have hmap := h.map Char.toLower
  rw [hlower] at hmap
  exact List.isSuffixOf_iff_suffix.mpr hmap

end Naming

end BanchoPrism.Submissions
