import BanchoPrism.Library.Text
import BanchoPrism.Library.Crossings
import BanchoPrism.Library.Select
import Mathlib.Data.Prod.Lex

namespace BanchoPrism.Migrations

open Library

@[ext] structure Version where
  major : ℕ
  minor : ℕ
  micro : ℕ
  deriving DecidableEq

def Version.asTuple (v : Version) : ℕ ×ₗ ℕ ×ₗ ℕ := toLex (v.major, toLex (v.minor, v.micro))

theorem Version.asTuple_injective : Function.Injective Version.asTuple := by
  intro a b h
  simp only [asTuple, toLex_inj, Prod.mk.injEq] at h
  exact Version.ext h.1 h.2.1 h.2.2

instance : LinearOrder Version := LinearOrder.lift' Version.asTuple Version.asTuple_injective

abbrev Line := List Char

-- The zeros of the decimal digits that \d matches: ten in a row have the values 0 to 9.
def decimalZeros : List ℕ :=
  [0x30, 0x660, 0x6f0, 0x7c0, 0x966, 0x9e6, 0xa66, 0xae6, 0xb66, 0xbe6, 0xc66, 0xce6, 0xd66, 0xde6,
    0xe50, 0xed0, 0xf20, 0x1040, 0x1090, 0x17e0, 0x1810, 0x1946, 0x19d0, 0x1a80, 0x1a90, 0x1b50,
    0x1bb0, 0x1c40, 0x1c50, 0xa620, 0xa8d0, 0xa900, 0xa9d0, 0xa9f0, 0xaa50, 0xabf0, 0xff10, 0x104a0,
    0x10d30, 0x11066, 0x110f0, 0x11136, 0x111d0, 0x112f0, 0x11450, 0x114d0, 0x11650, 0x116c0,
    0x11730, 0x118e0, 0x11950, 0x11c50, 0x11d50, 0x11da0, 0x16a60, 0x16ac0, 0x16b50, 0x1d7ce,
    0x1d7d8, 0x1d7e2, 0x1d7ec, 0x1d7f6, 0x1e140, 0x1e2f0, 0x1e950, 0x1fbf0]

def decimalValue (c : Char) : Option ℕ :=
  (decimalZeros.find? fun first => first ≤ c.toNat && c.toNat < first + 10).map (c.toNat - ·)

-- int(text), for one digit or more
def parseInt (text : List Char) : Option ℕ := do
  let digits ← text.mapM decimalValue
  if digits.isEmpty then none else some (digits.foldl (fun value digit => value * 10 + digit) 0)

-- VERSION_RGX.fullmatch, and Version.from_str of what it matches
def headerVersion : Line → Option Version
  | '#' :: ' ' :: 'v' :: ver =>
    match ver.splitOn '.' with
    | [major, minor, micro] => do
      return { major := ← parseInt major, minor := ← parseInt minor, micro := ← parseInt micro }
    | _ => none
  | _ => none

def isComment (line : Line) : Bool := line.head? = some '#'

def endsStatement (line : Line) : Bool := line.getLast? = some ';'

-- " ".join(lines)
def joinLines (lines : List Line) : Line := [' '].intercalate lines

-- The variables of the loop over the lines of the file.
structure Reading where
  updateVer : Option Version := none
  qLines : List Line := []
  queries : List Line := []

section Reading

variable (lastRun software : Version)

-- A line of a statement that is to be run.
def Reading.readStatement (s : Reading) (line : Line) : Reading :=
  if endsStatement line then
    if s.qLines.isEmpty then { s with queries := s.queries ++ [line] }
    else { s with queries := s.queries ++ [joinLines (s.qLines ++ [line])], qLines := [] }
  else { s with qLines := s.qLines ++ [line] }

def Reading.readLine (s : Reading) (line : Line) : Reading :=
  if line.isEmpty then s
  else if isComment line then
    match headerVersion line with
    | some version => { s with updateVer := some version }
    | none => s
  else
    match s.updateVer with
    | none => s
    | some version => if lastRun < version ∧ version ≤ software then s.readStatement line else s

def queriesBetween (content : List Char) : List Line :=
  ((Text.splitLines content).foldl (Reading.readLine lastRun software) {}).queries

end Reading

-- A statement of the file, under the version of its block.
structure Statement where
  version : Version
  text : Line
  deriving DecidableEq

-- The statements of the whole file, in its order, and the lines of one that is not over yet.
structure Survey where
  version : Option Version := none
  pending : List Line := []
  statements : List Statement := []

def Survey.readStatement (s : Survey) (version : Version) (line : Line) : Survey :=
  if endsStatement line then
    { s with
      pending := []
      statements := s.statements ++ [Statement.mk version (joinLines (s.pending ++ [line]))] }
  else { s with pending := s.pending ++ [line] }

def Survey.readLine (s : Survey) (line : Line) : Survey :=
  if line.isEmpty then s
  else if isComment line then
    match headerVersion line with
    | some version => { s with version := some version }
    | none => s
  else
    match s.version with
    | none => s
    | some version => s.readStatement version line

def statementsOf (content : List Char) : List Statement :=
  ((Text.splitLines content).foldl Survey.readLine {}).statements

-- Where a block begins, and where the file ends, no statement is left without its last line.
def Survey.Complete : Survey → List Line → Prop
  | s, [] => s.pending = []
  | s, line :: rest =>
    ((headerVersion line).isSome → s.pending = []) ∧ Survey.Complete (s.readLine line) rest

def WellFormed (content : List Char) : Prop := Survey.Complete {} (Text.splitLines content)

section Refinement

variable {lastRun software : Version}

-- The blocks that a boot runs.
def inRange (lastRun software : Version) (statement : Statement) : Bool :=
  lastRun < statement.version && statement.version ≤ software

-- What the loop has read of a file, by what there is in it.
structure Reads (lastRun software : Version) (s : Reading) (t : Survey) : Prop where
  version : s.updateVer = t.version
  qLines : s.qLines = match t.version with
    | some version => if lastRun < version ∧ version ≤ software then t.pending else []
    | none => []
  none : t.version = none → t.pending = []
  queries : s.queries = (t.statements.filter (inRange lastRun software)).map Statement.text

theorem joinLines_singleton (line : Line) : joinLines [line] = line := by
  simp [joinLines, List.intercalate]

theorem filter_append_statement (l : List Statement) (statement : Statement) :
    ((l ++ [statement]).filter (inRange lastRun software)).map Statement.text =
      (l.filter (inRange lastRun software)).map Statement.text ++
        if inRange lastRun software statement then [statement.text] else [] := by
  rw [List.filter_append, List.map_append]
  cases h : inRange lastRun software statement <;> simp [h]

theorem Survey.readStatement_version (t : Survey) (version : Version) (line : Line) :
    (t.readStatement version line).version = t.version := by
  unfold Survey.readStatement
  split <;> rfl

section Body

variable {s : Reading} {t : Survey} {version : Version} {line : Line}

-- In a block that the boot runs the loop keeps the lines of a statement that is not over.
theorem Reads.inside (h : Reads lastRun software s t) (hv : t.version = some version)
    (hrange : lastRun < version ∧ version ≤ software) :
    Reads lastRun software (s.readStatement line) (t.readStatement version line) := by
  have hlines : s.qLines = t.pending := by
    rw [h.qLines, hv]
    exact if_pos hrange
  have hin : ∀ text, inRange lastRun software (Statement.mk version text) = true := by
    simpa [inRange] using hrange
  have hqueries : ∀ text, s.queries ++ [text] =
      ((t.statements ++ [Statement.mk version text]).filter (inRange lastRun software)).map
        Statement.text := by
    intro text
    rw [filter_append_statement, if_pos (hin text), h.queries]
  have hsome := t.readStatement_version version line
  rw [hv] at hsome
  refine ⟨?_, ?_, fun hnone => ?_, ?_⟩
  · rw [hsome, ← hv, ← h.version]
    unfold Reading.readStatement
    split
    · split <;> rfl
    · rfl
  · rw [hsome]
    simp only [hrange, and_self, if_true]
    unfold Reading.readStatement Survey.readStatement
    by_cases hends : endsStatement line = true
    · rw [if_pos hends, if_pos hends]
      split
      case isTrue hempty => exact List.isEmpty_iff.mp hempty
      case isFalse => rfl
    · rw [if_neg hends, if_neg hends]
      simp only [hlines]
  · rw [hsome] at hnone
    cases hnone
  · unfold Reading.readStatement Survey.readStatement
    by_cases hends : endsStatement line = true
    · rw [if_pos hends, if_pos hends]
      split
      case isTrue hempty =>
        have hpending : t.pending = [] := hlines ▸ List.isEmpty_iff.mp hempty
        simp only [hpending, List.nil_append, joinLines_singleton]
        exact hqueries line
      case isFalse =>
        rw [hlines]
        exact hqueries _
    · rw [if_neg hends, if_neg hends]
      exact h.queries

-- In any other block it reads over them.
theorem Reads.outside (h : Reads lastRun software s t) (hv : t.version = some version)
    (hrange : ¬(lastRun < version ∧ version ≤ software)) :
    Reads lastRun software s (t.readStatement version line) := by
  have hsome := t.readStatement_version version line
  refine ⟨h.version.trans hsome.symm, ?_, fun hnone => ?_, ?_⟩
  · rw [h.qLines, hsome, hv]
    simp only [hrange, if_false]
  · rw [hsome, hv] at hnone
    cases hnone
  · have hout : ∀ text, ¬ inRange lastRun software (Statement.mk version text) = true := by
      simpa [inRange] using hrange
    unfold Survey.readStatement
    split
    · rw [filter_append_statement, if_neg (hout _), List.append_nil]
      exact h.queries
    · exact h.queries

end Body

theorem Reads.readLine {s : Reading} {t : Survey} (h : Reads lastRun software s t) {line : Line}
    (hline : (headerVersion line).isSome → t.pending = []) :
    Reads lastRun software (s.readLine lastRun software line) (t.readLine line) := by
  cases hempty : line.isEmpty with
  | true =>
    unfold Reading.readLine Survey.readLine
    simpa only [hempty, if_true] using h
  | false =>
    cases hcomment : isComment line with
    | false =>
      have hversion := h.version
      unfold Reading.readLine Survey.readLine
      simp only [hempty, hcomment, Bool.false_eq_true, if_false]
      cases hv : t.version with
      | none =>
        rw [hv] at hversion
        simpa only [hversion] using h
      | some version =>
        rw [hv] at hversion
        rw [hversion]
        simp only
        split
        · exact h.inside hv ‹_›
        · exact h.outside hv ‹_›
    | true =>
      unfold Reading.readLine Survey.readLine
      simp only [hempty, hcomment, if_true, Bool.false_eq_true, if_false]
      cases hheader : headerVersion line with
      | none => exact h
      | some version =>
        have hpending := hline (by rw [hheader]; rfl)
        refine ⟨rfl, ?_, nofun, h.queries⟩
        simp only [hpending, ite_self]
        rw [h.qLines, hpending]
        cases t.version <;> simp

theorem Reads.readLines {lines : List Line} {s : Reading} {t : Survey}
    (h : Reads lastRun software s t) (hcomplete : t.Complete lines) :
    Reads lastRun software (lines.foldl (Reading.readLine lastRun software) s)
      (lines.foldl Survey.readLine t) := by
  induction lines generalizing s t with
  | nil => exact h
  | cons line rest ih => exact ih (h.readLine hcomplete.1) hcomplete.2

-- A boot runs the statements of the blocks in its range, each whole and in the order of the file.
theorem queriesBetween_eq {content : List Char} (h : WellFormed content) :
    queriesBetween lastRun software content =
      ((statementsOf content).filter (inRange lastRun software)).map Statement.text :=
  (Reads.readLines ⟨rfl, rfl, fun _ => rfl, rfl⟩ h).queries

end Refinement

-- A row of startups. Times are seconds since the epoch.
structure Startup where
  id : ℕ
  version : Version
  datetime : ℤ

-- ORDER BY datetime DESC LIMIT 1
def currentSqlStructureVersion (startups : List Startup) : Option Version :=
  (select (fun _ => true) Startup.datetime Startup.id 1 startups).head?.map Startup.version

structure Boot where
  now : ℤ
  software : Version

def Boot.startup (boot : Boot) (id : ℕ) : Startup where
  id := id
  version := boot.software
  datetime := boot.now

def insertStartup (boot : Boot) (startups : List Startup) : List Startup :=
  startups ++ [boot.startup (startups.length + 1)]

-- A boot whose statements all succeed: what it executes, and the rows of startups after it.
def runSqlMigrations (content : List Char) (boot : Boot) (startups : List Startup) :
    List Line × List Startup :=
  match currentSqlStructureVersion startups with
  | none => ([], insertStartup boot startups)
  | some lastRun =>
    if boot.software = lastRun then ([], startups)
    else (queriesBetween lastRun boot.software content, insertStartup boot startups)

-- What each of some boots executes.
def executed (content : List Char) : List Startup → List Boot → List (List Line)
  | _, [] => []
  | startups, boot :: rest =>
    let (queries, startups) := runSqlMigrations content boot startups
    queries :: executed content startups rest

-- Over all boots each statement of a version above the first, and up to the newest that was
-- reached, is executed once, and no other one. A boot executes whole statements, in their order.
structure RunOnce (content : List Char) (first : Boot) (rest : List Boot) : Prop where
  once : (executed content [] (first :: rest)).flatten.Perm
    ((passed Statement.version (statementsOf content) first.software
      (rest.map Boot.software)).map Statement.text)
  whole : ∀ queries ∈ executed content [] (first :: rest),
    queries.Sublist ((statementsOf content).map Statement.text)

section Boots

variable {content : List Char} {startups : List Startup} {boot : Boot} {lastRun : Version}

theorem currentSqlStructureVersion_insert (h : ∀ row ∈ startups, row.datetime < boot.now) :
    currentSqlStructureVersion (insertStartup boot startups) = some boot.software := by
  unfold currentSqlStructureVersion insertStartup
  have hhead : (select (fun _ => true) Startup.datetime Startup.id 1
      (startups ++ [boot.startup (startups.length + 1)])).head? =
        some (boot.startup (startups.length + 1)) := by
    apply select_one_head? (by simp) rfl
    intro other hother hne
    rcases List.mem_append.mp hother with hmem | hmem
    · exact h other hmem
    · exact absurd (List.mem_singleton.mp hmem) hne
  rw [hhead]
  rfl

-- What a boot leaves: its version is the last one, and no row is from after it.
theorem runSqlMigrations_spec (hformed : WellFormed content)
    (hlast : currentSqlStructureVersion startups = some lastRun)
    (htimes : ∀ row ∈ startups, row.datetime < boot.now) :
    (runSqlMigrations content boot startups).1 =
      ((statementsOf content).filter (inRange lastRun boot.software)).map Statement.text ∧
    currentSqlStructureVersion (runSqlMigrations content boot startups).2 = some boot.software ∧
    ∀ row ∈ (runSqlMigrations content boot startups).2, row.datetime ≤ boot.now := by
  unfold runSqlMigrations
  rw [hlast]
  simp only
  split
  case isTrue hsame =>
    refine ⟨?_, by rw [hlast, hsame], fun row hrow => Int.le_of_lt (htimes row hrow)⟩
    have hnone : (statementsOf content).filter (inRange lastRun boot.software) = [] := by
      rw [List.filter_eq_nil_iff]
      intro statement _
      rw [hsame]
      simp [inRange]
    rw [hnone]
    rfl
  case isFalse =>
    refine ⟨queriesBetween_eq hformed, currentSqlStructureVersion_insert htimes, ?_⟩
    intro row hrow
    rcases List.mem_append.mp hrow with hmem | hmem
    · exact Int.le_of_lt (htimes row hmem)
    · rw [List.mem_singleton.mp hmem]
      exact Int.le_refl _

theorem executed_spec (hformed : WellFormed content) {boots : List Boot}
    (hboots : boots.Pairwise fun a b => a.now < b.now)
    (hlast : currentSqlStructureVersion startups = some lastRun)
    (htimes : ∀ boot ∈ boots, ∀ row ∈ startups, row.datetime < boot.now) :
    (executed content startups boots).flatten =
      (windows Statement.version (statementsOf content) lastRun (boots.map Boot.software)).map
        Statement.text ∧
    ∀ queries ∈ executed content startups boots,
      queries.Sublist ((statementsOf content).map Statement.text) := by
  induction boots generalizing startups lastRun with
  | nil => exact ⟨rfl, nofun⟩
  | cons boot rest ih =>
    obtain ⟨hbefore, hrest⟩ := List.pairwise_cons.mp hboots
    obtain ⟨hqueries, hversion, hrows⟩ :=
      runSqlMigrations_spec hformed hlast (htimes boot List.mem_cons_self)
    obtain ⟨hflatten, hsublists⟩ := ih hrest hversion fun later hlater row hrow =>
      Int.lt_of_le_of_lt (hrows row hrow) (hbefore later hlater)
    constructor
    · rw [List.map_cons, windows, List.map_append, ← hflatten]
      change (runSqlMigrations content boot startups).1 ++ _ = _
      rw [hqueries]
      rfl
    · intro queries hmem
      rcases List.mem_cons.mp hmem with rfl | hmem
      · change (runSqlMigrations content boot startups).1.Sublist _
        rw [hqueries]
        exact List.filter_sublist.map Statement.text
      · exact hsublists queries hmem

-- The first boot of a fresh database only says which version it is.
theorem executed_fresh (hformed : WellFormed content) {first : Boot} {rest : List Boot}
    (hboots : (first :: rest).Pairwise fun a b => a.now < b.now) :
    (executed content [] (first :: rest)).flatten =
      (windows Statement.version (statementsOf content) first.software
        (rest.map Boot.software)).map Statement.text ∧
    ∀ queries ∈ executed content [] (first :: rest),
      queries.Sublist ((statementsOf content).map Statement.text) := by
  obtain ⟨hbefore, hrest⟩ := List.pairwise_cons.mp hboots
  have hnone : currentSqlStructureVersion [] = none := by
    simp [currentSqlStructureVersion, select]
  have hfresh : runSqlMigrations content first [] = ([], insertStartup first []) := by
    unfold runSqlMigrations
    rw [hnone]
  have hlast : currentSqlStructureVersion (insertStartup first []) = some first.software :=
    currentSqlStructureVersion_insert fun row hrow => absurd hrow List.not_mem_nil
  obtain ⟨hflatten, hsublists⟩ := executed_spec hformed hrest hlast fun later hlater row hrow => by
    rw [List.mem_singleton.mp hrow]
    exact hbefore later hlater
  rw [executed, hfresh]
  refine ⟨?_, fun queries hmem => ?_⟩
  · simpa only [List.flatten_cons, List.nil_append] using hflatten
  · rcases List.mem_cons.mp hmem with rfl | hmem
    · exact List.nil_sublist _
    · exact hsublists queries hmem

theorem once_iff (hformed : WellFormed content) {first : Boot} {rest : List Boot}
    (hboots : (first :: rest).Pairwise fun a b => a.now < b.now) :
    (executed content [] (first :: rest)).flatten.Perm
        ((passed Statement.version (statementsOf content) first.software
          (rest.map Boot.software)).map Statement.text) ↔
      ∀ statement ∈ statementsOf content,
        ¬ Revisits statement.version (first.software :: rest.map Boot.software) := by
  rw [(executed_fresh hformed hboots).1]
  exact windows_map_perm_iff Statement.text

-- The last row of startups is all that a boot knows of the versions that there were.
theorem runOnce_iff (content : List Char) (first : Boot) (rest : List Boot)
    (hformed : WellFormed content)
    (hboots : (first :: rest).Pairwise fun a b => a.now < b.now) :
    RunOnce content first rest ↔
      ∀ statement ∈ statementsOf content,
        ¬ Revisits statement.version (first.software :: rest.map Boot.software) := by
  constructor
  · exact fun h => (once_iff hformed hboots).mp h.once
  · exact fun h => ⟨(once_iff hformed hboots).mpr h, (executed_fresh hformed hboots).2⟩

end Boots

section Downgrade

-- A file with one block.
def oneBlock : List Char := "# v2.0.0\nalter x;\n".toList

def bootAt (now : ℤ) (major : ℕ) : Boot := { now, software := { major, minor := 0, micro := 0 } }

instance Survey.decidableComplete : (s : Survey) → (lines : List Line) →
    Decidable (s.Complete lines)
  | s, [] => inferInstanceAs (Decidable (s.pending = []))
  | s, line :: rest =>
    have := Survey.decidableComplete (s.readLine line) rest
    inferInstanceAs (Decidable (((headerVersion line).isSome → s.pending = []) ∧ _))

theorem wellFormed_oneBlock : WellFormed oneBlock := by
  unfold WellFormed
  decide

theorem statementsOf_oneBlock :
    statementsOf oneBlock =
      [{ version := { major := 2, minor := 0, micro := 0 }, text := "alter x;".toList }] := by
  decide

theorem runOnce_iff_upgrade :
    RunOnce oneBlock (bootAt 0 1) [bootAt 1 2] ↔
      ∀ statement ∈ statementsOf oneBlock,
        ¬ Revisits statement.version ((bootAt 0 1).software :: [bootAt 1 2].map Boot.software) :=
  runOnce_iff oneBlock (bootAt 0 1) [bootAt 1 2] wellFormed_oneBlock (by decide)

-- The block is run again by the boot that comes back to its version.
theorem not_runOnce_downgrade :
    ¬ ∀ (content : List Char) (first : Boot) (rest : List Boot), WellFormed content →
      ((first :: rest).Pairwise fun a b => a.now < b.now) → RunOnce content first rest := by
  intro h
  have hboots : ([bootAt 0 1, bootAt 1 2, bootAt 2 1, bootAt 3 2] : List Boot).Pairwise
      fun a b => a.now < b.now := by decide
  have honce := (h oneBlock (bootAt 0 1) _ wellFormed_oneBlock hboots).once
  have hnot := (once_iff wellFormed_oneBlock hboots).mp honce
  rw [statementsOf_oneBlock] at hnot
  apply hnot _ (List.mem_singleton_self _)
  exact ⟨(bootAt 1 2).software, (bootAt 2 1).software, (bootAt 3 2).software,
    (List.Sublist.refl _).cons _, le_refl _, by decide, le_refl _⟩

end Downgrade

end BanchoPrism.Migrations
