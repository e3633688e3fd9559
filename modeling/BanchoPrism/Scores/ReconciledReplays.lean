import BanchoPrism.Library.Lines
import BanchoPrism.Migrations.Boots
import BanchoPrism.Scores.ReplayFiles
import Mathlib.Data.List.Dedup
import Mathlib.Data.List.Sort

namespace BanchoPrism.Scores

namespace Reconciling

open Library ReplayFiles

-- path.name
def name (path : Path) : Str := path.parts.getLast?.getD []

-- path.stem and path.suffix
def splitSuffix (name : Str) : Str × Str :=
  match name.reverse.span (· ≠ '.') with
  | (end_, '.' :: front) =>
      if front ≠ [] ∧ end_ ≠ [] then (front.reverse, '.' :: end_.reverse) else (name, [])
  | _ => (name, [])

-- The digits of int(text), which single underscores may part.
def readDigits (text : Str) : Option Nat :=
  if (text.splitOn '_').contains [] then none else Migrations.parseInt (text.filter (· ≠ '_'))

-- int(text), or ValueError
def parseInt (text : Str) : Option Int :=
  match Text.strip text with
  | '+' :: digits => (readDigits digits).map fun n => (n : Int)
  | '-' :: digits => (readDigits digits).map fun n => -(n : Int)
  | digits => (readDigits digits).map fun n => (n : Int)

def isPending (path : Path) : Bool := ".osr.pending".toList.isSuffixOf (name path)

-- The score that a replay is of, by the name of the file.
def scoreIdOf (path : Path) : Option Int :=
  if (splitSuffix (name path)).2 = ".osr".toList then parseInt (splitSuffix (name path)).1 else none

@[ext]
structure Report where
  orphanedPending : List Path
  orphanedReplays : List Path
  missingReplays : List Nat
  deriving DecidableEq

-- The directory of the replays beside the scores, and what has been reported of it.
structure Disk where
  store : World
  -- what was in the directory before any submission
  entries : List Path
  -- st_mtime
  modified : Path → Int
  -- time.time()
  clock : Int
  reports : List Report := []

structure Args where
  delete : Bool
  -- pending_age_hours * 3600
  pendingAge : Int
  deriving DecidableEq

-- The variables of main from the first of the files on.
structure Pass where
  args : Args
  scoreIds : List Nat
  cutoff : Int
  orphanedPending : List Path := []
  orphanedReplays : List Path := []
  onDisk : List Int := []
  deriving DecidableEq

inductive Line
  | submission (line : ReplayFiles.Line)
  | fetchAllScoreIds (args : Args)
  | readClock (args : Args) (scoreIds : List Nat)
  | listDirectory (pass : Pass)
  | inspect (pass : Pass) (paths : List Path)
  | stat (pass : Pass) (path : Path) (paths : List Path)
  | unlink (path : Path)
  | wait (seconds : Nat)

inductive Request
  | submit (sub : Submission)
  | reconcile (args : Args)
  | wait (seconds : Nat)
  deriving DecidableEq

def Request.lines : Request → List Line
  | submit sub => [.submission (.acquire sub)]
  | reconcile args => [.fetchAllScoreIds args]
  | wait seconds => [.wait seconds]

def Request.submission : Request → Option Submission
  | submit sub => some sub
  | reconcile _ | wait _ => none

-- write_bytes makes a file of now, and os.replace takes its time along.
def touch (w : Disk) (replaysPath : Path) (line : ReplayFiles.Line) : Path → Int :=
  match line with
  | .stage sub _ =>
      Function.update w.modified (pendingReplayPath replaysPath sub.clientChecksum) w.clock
  | .finish sub (some _) scoreId =>
      Function.update w.modified (replayPath replaysPath scoreId)
        (w.modified (pendingReplayPath replaysPath sub.clientChecksum))
  | _ => w.modified

def Pass.missingReplays (pass : Pass) : List Nat :=
  (pass.scoreIds.filter fun id : Nat => (id : Int) ∉ pass.onDisk).insertionSort (· ≤ ·)

def Pass.report (pass : Pass) : Report :=
  ⟨pass.orphanedPending, pass.orphanedReplays, pass.missingReplays⟩

-- What is removed in the end, if it is so far.
def Pass.doomed (pass : Pass) : List Path :=
  if pass.args.delete then pass.orphanedPending ++ pass.orphanedReplays else []

-- A file that is no pending one.
def Pass.record (pass : Pass) (path : Path) : Pass :=
  match scoreIdOf path with
  | none => pass
  | some scoreId =>
      { pass with
        onDisk := pass.onDisk ++ [scoreId]
        orphanedReplays :=
          if ∃ id ∈ pass.scoreIds, (id : Int) = scoreId then pass.orphanedReplays
          else pass.orphanedReplays ++ [path] }

section Perform

-- What the database takes for the same checksum, and the order that a directory is listed in.
variable (collate : Str → Str) (replaysPath : Path) (order : List Path → List Path)

def Disk.listing (w : Disk) : List Path :=
  (w.entries ++ w.store.touched).dedup.filter fun path =>
    path.IsChild replaysPath ∧ (w.store.files path).isSome

def Line.perform (line : Line) (w : Disk) : Disk × List Line :=
  match line with
  | submission line =>
      ({ w with
          store := (line.perform collate replaysPath w.store).1
          modified := touch w replaysPath line },
        (line.perform collate replaysPath w.store).2.map submission)
  | fetchAllScoreIds args => (w, [readClock args (w.store.rows.map Row.id)])
  | readClock args scoreIds =>
      (w, [listDirectory
        { args := args, scoreIds := scoreIds, cutoff := w.clock - args.pendingAge }])
  | listDirectory pass => (w, [inspect pass (order (w.listing replaysPath))])
  | inspect pass [] => ({ w with reports := w.reports ++ [pass.report] }, pass.doomed.map unlink)
  | inspect pass (path :: paths) =>
      if w.store.files path = none then (w, [inspect pass paths])
      else if isPending path then (w, [stat pass path paths])
      else (w, [inspect (pass.record path) paths])
  | stat pass path paths =>
      -- a file that has gone is a FileNotFoundError, which ends the tool
      if w.store.files path = none then (w, [])
      else if w.modified path < pass.cutoff then
        (w, [inspect { pass with orphanedPending := pass.orphanedPending ++ [path] } paths])
      else (w, [inspect pass paths])
  | unlink path => ({ w with store := w.store.unlink path }, [])
  | wait seconds => ({ w with clock := w.clock + seconds }, [])

abbrev Traffic := Tasks Disk Line

abbrev Event := Tasks.Event Request

def Traffic.step (t : Traffic) (e : Event) : Traffic :=
  Tasks.step Request.lines (Line.perform collate replaysPath order) t e

def reconciled (w : Disk) (run : List Event) : Traffic :=
  runFrom (Traffic.step collate replaysPath order) { world := w, running := [] } run

end Perform

section Names

variable {replaysPath path : Path} {checksum : Str} {id : Nat}

theorem isDigit_bounds {c : Char} (h : c.isDigit = true) : 48 ≤ c.toNat ∧ c.toNat < 58 := by
  simp only [Char.isDigit, Bool.and_eq_true, decide_eq_true_eq] at h
  have hlow : '0'.val.toNat ≤ c.val.toNat := UInt32.le_iff_toNat_le.mp h.1
  have hhigh : c.val.toNat ≤ '9'.val.toNat := UInt32.le_iff_toNat_le.mp h.2
  exact ⟨hlow, Nat.lt_succ_of_le hhigh⟩

theorem decimalValue_digit {c : Char} (h : c.isDigit = true) :
    Migrations.decimalValue c = some (c.toNat - 48) := by
  obtain ⟨hlow, hhigh⟩ := isDigit_bounds h
  have hzeros : ∃ rest, Migrations.decimalZeros = 48 :: rest := ⟨_, rfl⟩
  obtain ⟨rest, hzeros⟩ := hzeros
  rw [Migrations.decimalValue, hzeros, List.find?_cons_of_pos]
  · rfl
  · simp only [Bool.and_eq_true, decide_eq_true_eq]
    exact ⟨hlow, hhigh⟩

theorem foldl_digits (digits : Str) (value : Nat) :
    (digits.map fun c => c.toNat - 48).foldl (fun value digit => value * 10 + digit) value =
      Nat.ofDigitChars 10 digits value := by
  induction digits generalizing value with
  | nil => rfl
  | cons c rest ih =>
    rw [List.map_cons, List.foldl_cons, ih, Nat.ofDigitChars_cons, Nat.mul_comm]
    rfl

theorem mapM_digits {digits : Str} (h : ∀ c ∈ digits, c.isDigit = true) :
    digits.mapM Migrations.decimalValue = some (digits.map fun c => c.toNat - 48) := by
  induction digits with
  | nil => rfl
  | cons c rest ih =>
    rw [List.mapM_cons, decimalValue_digit (h c List.mem_cons_self),
      ih fun c' hc' => h c' (List.mem_cons_of_mem c hc')]
    rfl

-- The name of a score's file reads as the score.
theorem parseInt_digits : parseInt (Nat.toDigits 10 id) = some (id : Int) := by
  have hdigit : ∀ c ∈ Nat.toDigits 10 id, c.isDigit = true := fun c hc => isDigit_digits hc
  have hspace : ∀ c ∈ Nat.toDigits 10 id, Text.isSpace c = false :=
    fun c hc => Text.not_isSpace_of_isDigit (hdigit c hc)
  have hplain : '_' ∉ Nat.toDigits 10 id := fun h => absurd (hdigit _ h) (by decide)
  have hread : readDigits (Nat.toDigits 10 id) = some id := by
    have hfilter : (Nat.toDigits 10 id).filter (· ≠ '_') = Nat.toDigits 10 id :=
      List.filter_eq_self.mpr fun c hc => decide_eq_true fun heq => hplain (heq ▸ hc)
    rw [readDigits, List.splitOn_eq_singleton hplain, if_neg, hfilter, Migrations.parseInt,
      mapM_digits hdigit, Option.bind_eq_bind, Option.bind_some, foldl_digits,
      Nat.ofDigitChars_ten_toDigits, if_neg]
    · simp [Nat.toDigits_ne_nil]
    · rw [List.contains_iff_mem, List.mem_singleton]
      exact fun h => Nat.toDigits_ne_nil h.symm
  unfold parseInt
  rw [Text.strip_of_no_space hspace]
  split
  · rename_i heq
    exact absurd (hdigit '+' (heq ▸ List.mem_cons_self)) (by decide)
  · rename_i heq
    exact absurd (hdigit '-' (heq ▸ List.mem_cons_self)) (by decide)
  · rw [hread]
    rfl

theorem name_replayPath :
    name (replayPath replaysPath id) = Nat.toDigits 10 id ++ ".osr".toList := by
  rw [name, replayPath_eq, List.getLast?_concat]
  rfl

theorem scoreIdOf_replayPath : scoreIdOf (replayPath replaysPath id) = some (id : Int) := by
  have hspan : (Nat.toDigits 10 id ++ ".osr".toList).reverse.span (· ≠ '.') =
      ("rso".toList, '.' :: (Nat.toDigits 10 id).reverse) := by
    rw [List.reverse_append]
    rfl
  have hsplit : splitSuffix (Nat.toDigits 10 id ++ ".osr".toList) =
      (Nat.toDigits 10 id, ".osr".toList) := by
    have hnamed : (Nat.toDigits 10 id).reverse ≠ [] ∧ "rso".toList ≠ [] :=
      ⟨fun h => Nat.toDigits_ne_nil (List.reverse_eq_nil_iff.mp h), by decide⟩
    rw [splitSuffix, hspan]
    refine (if_pos hnamed).trans ?_
    rw [List.reverse_reverse]
    rfl
  rw [scoreIdOf, name_replayPath, hsplit, if_pos rfl, parseInt_digits]

theorem isPending_replayPath : isPending (replayPath replaysPath id) = false := by
  rw [isPending, name_replayPath, Bool.eq_false_iff]
  intro h
  have hend := (List.isSuffixOf_iff_suffix.mp h).getLast (by decide)
  rw [List.getLast_append_of_ne_nil _ (by decide)] at hend
  exact absurd hend (by decide)

theorem isPending_pendingReplayPath : isPending (pendingReplayPath replaysPath checksum) := by
  obtain ⟨front, last, hparts⟩ := @exists_pendingReplayPath replaysPath checksum
  rw [isPending, name, hparts, List.getLast?_concat]
  exact List.isSuffixOf_iff_suffix.mpr (List.suffix_append _ _)

end Names

def Line.inner : Line → Option ReplayFiles.Line
  | submission line => some line
  | _ => none

-- The paths that a line removes, or has found to be removed.
def Line.dooms : Line → List Path
  | listDirectory pass | inspect pass _ | stat pass _ _ => pass.doomed
  | unlink path => [path]
  | _ => []

-- The paths of the listing that a line has yet to go through, and the scores it takes them by.
def Line.listed : Line → List Path × List Nat
  | inspect pass paths => (paths, pass.scoreIds)
  | stat pass path paths => (path :: paths, pass.scoreIds)
  | _ => ([], [])

-- What the tool relies on to tell the files of a server that runs: no score is stored between the
-- rows and the listing, a replay that is staged is not as old as pending_age_hours, and none is
-- staged where an old one is about to be removed.
def Line.Heeds (replaysPath : Path) (line : Line) (w : Disk) (others : List Line) : Prop :=
  match line with
  | listDirectory pass =>
      ∀ row ∈ w.store.rows, w.store.files (replayPath replaysPath row.id) ≠ none →
        row.id ∈ pass.scoreIds
  | stat pass path _ =>
      w.modified path < pass.cutoff → ∀ other ∈ others.filterMap Line.inner,
        ∀ sub ∈ other.holder, pendingReplayPath replaysPath sub.clientChecksum ≠ path
  | submission (.stage sub _) =>
      ∀ other ∈ others, pendingReplayPath replaysPath sub.clientChecksum ∉ other.dooms
  | _ => True

-- Neither the file of a score nor one that a submission is about to rename.
structure Spared (replaysPath : Path) (store : World) (left : List ReplayFiles.Line)
    (path : Path) : Prop where
  child : path.IsChild replaysPath
  unscored : ∀ id, path = replayPath replaysPath id →
    id < store.nextId ∧ ∀ row ∈ store.rows, row.id ≠ id
  unheld : ∀ line ∈ left, ∀ sub ∈ line.holder,
    pendingReplayPath replaysPath sub.clientChecksum ≠ path

-- A path of a listing: what a score has there, the tool knows.
structure Known (replaysPath : Path) (store : World) (scoreIds : List Nat) (path : Path) :
    Prop where
  child : path.IsChild replaysPath
  scored : ∀ id, path = replayPath replaysPath id →
    id < store.nextId ∧ ∀ row ∈ store.rows, row.id = id → id ∈ scoreIds

structure Kept (replaysPath : Path) (start : List Row) (subs : List Submission) (w : Disk)
    (left : List Line) : Prop where
  filed : Filed replaysPath start subs w.store (left.filterMap Line.inner)
  free : ∀ id, w.store.nextId ≤ id → w.store.files (replayPath replaysPath id) = none
  known : ∀ line ∈ left, ∀ path ∈ line.listed.1,
    Known replaysPath w.store line.listed.2 path
  pending : ∀ pass path paths, Line.stat pass path paths ∈ left → isPending path
  spared : ∀ line ∈ left, ∀ path ∈ line.dooms,
    Spared replaysPath w.store (left.filterMap Line.inner) path

section Submissions

variable {collate : Str → Str} {replaysPath path : Path} {start : List Row}
  {subs : List Submission} {w w' : World} {line : ReplayFiles.Line}
  {left other : List ReplayFiles.Line} {scoreIds : List Nat}

-- The rows that a line leaves: those before, and one under the next id.
structure Extends (w w' : World) : Prop where
  nextId_le : w.nextId ≤ w'.nextId
  rows : ∀ row ∈ w'.rows, row ∈ w.rows ∨ row.id = w.nextId

theorem Extends.of_eq (hrows : w'.rows = w.rows) (hnext : w'.nextId = w.nextId) : Extends w w' :=
  ⟨hnext.ge, fun _ hrow => Or.inl (hrows ▸ hrow)⟩

theorem perform_extends : Extends w (line.perform collate replaysPath w).1 := by
  cases line with
  | acquire sub =>
    simp only [ReplayFiles.Line.perform]
    split
    · exact .of_eq rfl rfl
    · exact .of_eq rfl rfl
  | fetchDuplicate sub =>
    simp only [ReplayFiles.Line.perform]
    split
    · exact .of_eq rfl rfl
    · exact .of_eq rfl rfl
  | calculateStatus sub => exact .of_eq rfl rfl
  | readReplay sub =>
    simp only [ReplayFiles.Line.perform]
    split
    · exact .of_eq rfl rfl
    · exact .of_eq rfl rfl
  | stage sub data => exact .of_eq rfl rfl
  | persist sub staged =>
    simp only [ReplayFiles.Line.perform]
    split
    · refine ⟨Nat.le_succ _, fun row hrow => ?_⟩
      refine (List.mem_append.mp hrow).imp_right fun hnew => ?_
      rw [List.mem_singleton.mp hnew]
    · cases staged <;> exact .of_eq rfl rfl
    · cases staged <;> exact .of_eq rfl rfl
  | finish sub staged scoreId =>
    cases staged with
    | none => exact .of_eq rfl rfl
    | some data =>
      simp only [ReplayFiles.Line.perform, commitReplayFile, World.replace]
      split
      · exact .of_eq rfl rfl
      · exact .of_eq rfl rfl

-- Only the last line of a submission puts the file of a score in its place.
theorem perform_replayPath {id : Nat} (hline : line.finishes ≠ some id) :
    (line.perform collate replaysPath w).1.files (replayPath replaysPath id) =
      w.files (replayPath replaysPath id) := by
  have hdiscard : ∀ sub staged, (discardStagedReplay replaysPath sub staged w).files
      (replayPath replaysPath id) = w.files (replayPath replaysPath id) := by
    intro sub staged
    cases staged with
    | none => rfl
    | some data => exact Function.update_of_ne replayPath_ne_pending _ _
  cases line with
  | acquire sub =>
    simp only [ReplayFiles.Line.perform]
    split <;> rfl
  | fetchDuplicate sub =>
    simp only [ReplayFiles.Line.perform]
    split <;> rfl
  | calculateStatus sub => rfl
  | readReplay sub =>
    simp only [ReplayFiles.Line.perform]
    split <;> rfl
  | stage sub data => exact Function.update_of_ne replayPath_ne_pending _ _
  | persist sub staged =>
    simp only [ReplayFiles.Line.perform]
    split
    · rfl
    · exact hdiscard sub staged
    · exact hdiscard sub staged
  | finish sub staged scoreId =>
    have hother : replayPath replaysPath id ≠ replayPath replaysPath scoreId :=
      fun heq => hline (congrArg some (replayPath_injective heq).symm)
    cases staged with
    | none => rfl
    | some data =>
      simp only [ReplayFiles.Line.perform, commitReplayFile, World.replace]
      split
      · rfl
      · exact (Function.update_of_ne hother _ _).trans
          (Function.update_of_ne replayPath_ne_pending _ _)

-- A line holds the file that the line before it held, or the one that it has staged.
theorem holder_perform {next : ReplayFiles.Line} {sub : Submission}
    (hnext : next ∈ (line.perform collate replaysPath w).2) (hsub : sub ∈ next.holder) :
    sub ∈ line.holder ∨ ∃ data, line = .stage sub data := by
  cases line with
  | acquire _ =>
    simp only [ReplayFiles.Line.perform] at hnext
    split at hnext <;>
    · rw [List.mem_singleton.mp hnext] at hsub
      cases hsub
  | fetchDuplicate _ =>
    simp only [ReplayFiles.Line.perform] at hnext
    split at hnext
    · cases hnext
    · rw [List.mem_singleton.mp hnext] at hsub
      cases hsub
  | calculateStatus _ =>
    rw [List.mem_singleton.mp hnext] at hsub
    cases hsub
  | readReplay _ =>
    simp only [ReplayFiles.Line.perform] at hnext
    split at hnext <;>
    · rw [List.mem_singleton.mp hnext] at hsub
      cases hsub
  | stage _ data =>
    rw [List.mem_singleton.mp hnext] at hsub
    cases hsub
    exact Or.inr ⟨data, rfl⟩
  | persist _ staged =>
    simp only [ReplayFiles.Line.perform] at hnext
    split at hnext
    · rw [List.mem_singleton.mp hnext] at hsub
      cases staged with
      | none => cases hsub
      | some _ => exact Or.inl hsub
    · cases hnext
    · cases hnext
  | finish _ _ _ => cases hnext

theorem Spared.extends (h : Spared replaysPath w left path) (hextends : Extends w w')
    (hunheld : ∀ line ∈ other, ∀ sub ∈ line.holder,
      pendingReplayPath replaysPath sub.clientChecksum ≠ path) :
    Spared replaysPath w' other path := by
  refine ⟨h.child, fun id hpath => ?_, hunheld⟩
  obtain ⟨hid, hrows⟩ := h.unscored id hpath
  refine ⟨hid.trans_le hextends.nextId_le, fun row hrow => ?_⟩
  rcases hextends.rows row hrow with hold | hnew
  · exact hrows row hold
  · exact hnew ▸ hid.ne'

theorem Known.extends (h : Known replaysPath w scoreIds path) (hextends : Extends w w') :
    Known replaysPath w' scoreIds path := by
  refine ⟨h.child, fun id hpath => ?_⟩
  obtain ⟨hid, hrows⟩ := h.scored id hpath
  refine ⟨hid.trans_le hextends.nextId_le, fun row hrow heq => ?_⟩
  rcases hextends.rows row hrow with hold | hnew
  · exact hrows row hold heq
  · exact absurd (hnew.symm.trans heq) hid.ne'

-- What no score and no submission has may go.
theorem Filed.unlink (h : Filed replaysPath start subs w left)
    (hpath : Spared replaysPath w left path) :
    Filed replaysPath start subs (w.unlink path) left := by
  refine ⟨h.known, h.alone, h.locked, fun line hline => ?_, fun checksum htouched => ?_,
    fun row hrow data hdata => ?_, h.owners, h.ids_lt, h.ids_nodup, fun other hother => ?_⟩
  · refine (h.staged line hline).of_files (List.Subset.refl _) fun sub hsub => ?_
    exact Function.update_of_ne (hpath.unheld line hline sub hsub) _ _
  · by_cases heq : pendingReplayPath replaysPath checksum = path
    · exact Or.inl (heq ▸ Function.update_self ..)
    · have hold : pendingReplayPath replaysPath checksum ∈ w.touched :=
        (List.mem_append.mp htouched).resolve_right fun hnew => heq (List.mem_singleton.mp hnew)
      exact (h.pending checksum hold).imp_left (Function.update_of_ne heq _ _).trans
  · have hne : replayPath replaysPath row.id ≠ path :=
      fun heq => (hpath.unscored row.id heq.symm).2 row hrow rfl
    exact (h.replays row hrow data hdata).imp_left (Function.update_of_ne hne _ _).trans
  · rcases List.mem_append.mp hother with hold | hnew
    · exact h.children other hold
    · exact List.mem_singleton.mp hnew ▸ hpath.child

end Submissions

section Runs

variable {collate : Str → Str} {replaysPath path : Path} {order : List Path → List Path}
  {start : List Row} {subs : List Submission} {w w' : Disk} {line : Line}
  {lines left others other : List Line} {pass : Pass} {paths : List Path} {run : List Event}

theorem Kept.of_perm (h : Kept replaysPath start subs w left) (hperm : left.Perm other) :
    Kept replaysPath start subs w other := by
  have hinner := hperm.filterMap Line.inner
  refine ⟨h.filed.of_perm hinner, h.free, fun line hline => h.known line (hperm.mem_iff.mpr hline),
    fun pass path paths hmem => h.pending pass path paths (hperm.mem_iff.mpr hmem),
    fun line hline path hpath => ?_⟩
  have hspared := h.spared line (hperm.mem_iff.mpr hline) path hpath
  exact ⟨hspared.child, hspared.unscored,
    fun line hline => hspared.unheld line (hinner.mem_iff.mpr hline)⟩

-- A line of the tool that leaves the files as they are.
theorem Kept.goes (h : Kept replaysPath start subs w (line :: others))
    (hstore : w'.store = w.store) (hline : line.inner = none)
    (hinner : lines.filterMap Line.inner = [])
    (hknown : ∀ next ∈ lines, ∀ path ∈ next.listed.1,
      Known replaysPath w.store next.listed.2 path)
    (hpending : ∀ pass path paths, Line.stat pass path paths ∈ lines → isPending path)
    (hspared : ∀ next ∈ lines, ∀ path ∈ next.dooms,
      Spared replaysPath w.store (others.filterMap Line.inner) path) :
    Kept replaysPath start subs w' (lines ++ others) := by
  have hsame : (lines ++ others).filterMap Line.inner = others.filterMap Line.inner := by
    rw [List.filterMap_append, hinner, List.nil_append]
  have hothers : (line :: others).filterMap Line.inner = others.filterMap Line.inner :=
    List.filterMap_cons_none hline
  refine ⟨?_, hstore ▸ h.free, fun next hnext path hpath => ?_, fun pass path paths hmem => ?_,
    fun next hnext path hpath => ?_⟩
  · rw [hsame, hstore, ← hothers]
    exact h.filed
  · rw [hstore]
    rcases List.mem_append.mp hnext with hnew | hold
    · exact hknown next hnew path hpath
    · exact h.known next (List.mem_cons_of_mem _ hold) path hpath
  · rcases List.mem_append.mp hmem with hnew | hold
    · exact hpending pass path paths hnew
    · exact h.pending pass path paths (List.mem_cons_of_mem _ hold)
  · rw [hsame, hstore]
    rcases List.mem_append.mp hnext with hnew | hold
    · exact hspared next hnew path hpath
    · exact hothers ▸ h.spared next (List.mem_cons_of_mem _ hold) path hpath

-- What a submission that goes on leaves of what the tool has found.
theorem Kept.submits {line : ReplayFiles.Line}
    (h : Kept replaysPath start subs w (.submission line :: others))
    (hplain : Plain replaysPath subs)
    (hheeds : (Line.submission line).Heeds replaysPath w others) :
    Kept replaysPath start subs ((Line.submission line).perform collate replaysPath order w).1
      (((Line.submission line).perform collate replaysPath order w).2 ++ others) := by
  have hinner : (((Line.submission line).perform collate replaysPath order w).2 ++
      others).filterMap Line.inner =
        (line.perform collate replaysPath w.store).2 ++ others.filterMap Line.inner := by
    change ((line.perform collate replaysPath w.store).2.map Line.submission ++
      others).filterMap Line.inner = _
    rw [List.filterMap_append, List.filterMap_map]
    exact congrArg (· ++ _) List.filterMap_some
  have hextends := @perform_extends collate replaysPath w.store line
  have hold : ∀ next ∈ (line.perform collate replaysPath w.store).2.map Line.submission ++ others,
      next ∈ others ∨ ∃ inner, next = .submission inner := by
    intro next hnext
    refine (List.mem_append.mp hnext).symm.imp_right fun hnew => ?_
    obtain ⟨inner, -, rfl⟩ := List.mem_map.mp hnew
    exact ⟨inner, rfl⟩
  refine ⟨?_, fun id hid => ?_, fun next hnext path hpath => ?_, fun pass path paths hmem => ?_,
    fun next hnext path hpath => ?_⟩
  · rw [hinner]
    exact h.filed.perform hplain
  · have hfree := h.free id (hextends.nextId_le.trans hid)
    refine (perform_replayPath fun hfinishes => ?_).trans hfree
    have hstaged : line.Staged replaysPath w.store := h.filed.staged line List.mem_cons_self
    cases line with
    | finish sub staged scoreId =>
      cases hfinishes
      have hlt := h.filed.ids_lt _ hstaged.2.2
      exact absurd (hextends.nextId_le.trans hid) hlt.not_ge
    | _ => cases hfinishes
  · rcases hold next hnext with hmem | ⟨inner, rfl⟩
    · exact (h.known next (List.mem_cons_of_mem _ hmem) path hpath).extends hextends
    · cases hpath
  · rcases hold _ hmem with hmem | ⟨inner, heq⟩
    · exact h.pending pass path paths (List.mem_cons_of_mem _ hmem)
    · cases heq
  · rcases hold next hnext with hmem | ⟨inner, rfl⟩
    · have hspared := h.spared next (List.mem_cons_of_mem _ hmem) path hpath
      refine hspared.extends hextends fun inner hinner' sub hsub => ?_
      rw [hinner] at hinner'
      rcases List.mem_append.mp hinner' with hnew | hother
      · rcases holder_perform hnew hsub with hheld | ⟨data, rfl⟩
        · exact hspared.unheld line List.mem_cons_self sub hheld
        · exact fun heq => hheeds next hmem (heq ▸ hpath)
      · exact hspared.unheld inner (List.mem_cons_of_mem _ hother) sub hsub
    · cases hpath

theorem Kept.turns {next : Line} (h : Kept replaysPath start subs w (line :: others))
    (hline : line.inner = none) (hinner : next.inner = none)
    (hknown : ∀ path ∈ next.listed.1, Known replaysPath w.store next.listed.2 path)
    (hpending : ∀ pass path paths, next = .stat pass path paths → isPending path)
    (hspared : ∀ path ∈ next.dooms,
      Spared replaysPath w.store (others.filterMap Line.inner) path) :
    Kept replaysPath start subs w (next :: others) := by
  change Kept replaysPath start subs w ([next] ++ others)
  refine h.goes rfl hline (List.filterMap_cons_none hinner)
    (fun other hother => ?_) (fun pass path paths hmem => ?_) fun other hother => ?_
  · exact List.mem_singleton.mp hother ▸ hknown
  · exact hpending pass path paths (List.mem_singleton.mp hmem).symm
  · exact List.mem_singleton.mp hother ▸ hspared

-- A path to be removed is none that a line of a submission minds.
theorem Kept.spared_others (h : Kept replaysPath start subs w (line :: others))
    (hline : line.inner = none) (hpath : path ∈ line.dooms) :
    Spared replaysPath w.store (others.filterMap Line.inner) path := by
  have hspared := h.spared line List.mem_cons_self path hpath
  rwa [List.filterMap_cons_none hline] at hspared

theorem mem_doomed : path ∈ pass.doomed ↔
    pass.args.delete ∧ (path ∈ pass.orphanedPending ∨ path ∈ pass.orphanedReplays) := by
  unfold Pass.doomed
  split
  · rename_i hdelete
    simp only [hdelete, List.mem_append, true_and]
  · rename_i hkeep
    simp [hkeep]

theorem scoreIds_record : (pass.record path).scoreIds = pass.scoreIds := by
  unfold Pass.record
  split <;> rfl

theorem mem_doomed_record {found : Path} (h : found ∈ (pass.record path).doomed) :
    found ∈ pass.doomed ∨
      found = path ∧ ∃ scoreId ∈ scoreIdOf path, ∀ id ∈ pass.scoreIds, (id : Int) ≠ scoreId := by
  unfold Pass.record at h
  split at h
  · exact Or.inl h
  · rename_i scoreId hscore
    obtain ⟨hdelete, hfound⟩ := mem_doomed.mp h
    dsimp only at hdelete hfound
    split at hfound
    · exact Or.inl (mem_doomed.mpr ⟨hdelete, hfound⟩)
    · rename_i hnone
      rcases hfound with hpending | hreplay
      · exact Or.inl (mem_doomed.mpr ⟨hdelete, Or.inl hpending⟩)
      · rcases List.mem_append.mp hreplay with hold | hnew
        · exact Or.inl (mem_doomed.mpr ⟨hdelete, Or.inr hold⟩)
        · exact Or.inr ⟨List.mem_singleton.mp hnew, scoreId, hscore,
            fun id hid heq => hnone ⟨id, hid, heq⟩⟩

-- What is recorded as orphaned is the file of no score.
theorem Kept.record (h : Kept replaysPath start subs w (.inspect pass (path :: paths) :: others))
    (hpending : isPending path = false) :
    Kept replaysPath start subs w (.inspect (pass.record path) paths :: others) := by
  have hknown := h.known _ List.mem_cons_self
  refine h.turns rfl rfl (fun found hfound => ?_) (fun _ _ _ heq => by cases heq)
    fun found hfound => ?_
  · change Known replaysPath w.store (pass.record path).scoreIds found
    rw [scoreIds_record]
    exact hknown found (List.mem_cons_of_mem _ hfound)
  · rcases mem_doomed_record hfound with hold | ⟨rfl, scoreId, hscore, hnone⟩
    · exact h.spared_others rfl hold
    · have hfound := hknown found List.mem_cons_self
      refine ⟨hfound.child, fun id hid => ?_, fun inner _ sub _ heq => ?_⟩
      · obtain ⟨hlt, hrows⟩ := hfound.scored id hid
        refine ⟨hlt, fun row hrow heq => ?_⟩
        rw [hid, scoreIdOf_replayPath] at hscore
        exact hnone id (hrows row hrow heq) (Option.some.inj hscore)
      · rw [← heq, isPending_pendingReplayPath] at hpending
        cases hpending

-- A pending file that has been found to be old.
theorem Kept.orphan (h : Kept replaysPath start subs w (.stat pass path paths :: others))
    (hheeds : ∀ other ∈ others.filterMap Line.inner, ∀ sub ∈ other.holder,
      pendingReplayPath replaysPath sub.clientChecksum ≠ path) :
    Kept replaysPath start subs w
      (.inspect { pass with orphanedPending := pass.orphanedPending ++ [path] } paths ::
        others) := by
  have hknown := h.known _ List.mem_cons_self
  refine h.turns rfl rfl (fun found hfound => hknown found (List.mem_cons_of_mem _ hfound))
    (fun _ _ _ heq => by cases heq) fun found hfound => ?_
  · obtain ⟨hdelete, horphan⟩ := mem_doomed.mp hfound
    have hcases : found ∈ pass.doomed ∨ found = path := by
      rcases horphan with hnew | hold
      · exact (List.mem_append.mp hnew).imp (fun hold => mem_doomed.mpr ⟨hdelete, Or.inl hold⟩)
          List.mem_singleton.mp
      · exact Or.inl (mem_doomed.mpr ⟨hdelete, Or.inr hold⟩)
    rcases hcases with hold | rfl
    · exact h.spared_others rfl hold
    · refine ⟨(hknown found List.mem_cons_self).child, fun id hid => ?_, hheeds⟩
      have hpending := h.pending pass found paths List.mem_cons_self
      rw [hid, isPending_replayPath] at hpending
      cases hpending

-- The listing of a directory in which each score that has its file is one of those fetched.
theorem Kept.list (h : Kept replaysPath start subs w (.listDirectory pass :: others))
    (horder : ∀ paths, (order paths).Perm paths)
    (hheeds : ∀ row ∈ w.store.rows, w.store.files (replayPath replaysPath row.id) ≠ none →
      row.id ∈ pass.scoreIds) :
    Kept replaysPath start subs w
      (.inspect pass (order (w.listing replaysPath)) :: others) := by
  refine h.turns rfl rfl (fun found hfound => ?_) (fun _ _ _ heq => by cases heq)
    fun found hfound => h.spared_others rfl hfound
  · have hlisted := (horder _).mem_iff.mp hfound
    obtain ⟨hchild, hfile⟩ := of_decide_eq_true (List.mem_filter.mp hlisted).2
    refine ⟨hchild, fun id hid => ?_⟩
    have hpresent : w.store.files (replayPath replaysPath id) ≠ none :=
      hid ▸ Option.isSome_iff_ne_none.mp hfile
    refine ⟨?_, fun row hrow heq => ?_⟩
    · by_contra hge
      exact hpresent (h.free id (not_lt.mp hge))
    · exact heq ▸ hheeds row hrow (heq ▸ hpresent)

theorem Kept.unlink (h : Kept replaysPath start subs w (.unlink path :: others)) :
    Kept replaysPath start subs { w with store := w.store.unlink path } others := by
  have hpath := h.spared_others rfl (List.mem_singleton_self path)
  have hextends : Extends w.store (w.store.unlink path) := .of_eq rfl rfl
  refine ⟨Filed.unlink h.filed hpath, fun id hid => ?_, fun next hnext found hfound => ?_,
    fun pass path paths hmem => h.pending pass path paths (List.mem_cons_of_mem _ hmem),
    fun next hnext found hfound => ?_⟩
  · have hne : replayPath replaysPath id ≠ path :=
      fun heq => hid.not_gt (hpath.unscored id heq.symm).1
    exact (Function.update_of_ne hne _ _).trans (h.free id hid)
  · exact (h.known next (List.mem_cons_of_mem _ hnext) found hfound).extends hextends
  · have hspared := h.spared next (List.mem_cons_of_mem _ hnext) found hfound
    exact hspared.extends hextends hspared.unheld

theorem Kept.perform (h : Kept replaysPath start subs w (line :: others))
    (horder : ∀ paths, (order paths).Perm paths) (hplain : Plain replaysPath subs)
    (hheeds : line.Heeds replaysPath w others) :
    Kept replaysPath start subs (line.perform collate replaysPath order w).1
      ((line.perform collate replaysPath order w).2 ++ others) := by
  cases line with
  | submission line => exact h.submits hplain hheeds
  | fetchAllScoreIds args =>
    exact h.turns rfl rfl (fun _ hpath => by cases hpath) (fun _ _ _ heq => by cases heq)
      fun _ hpath => by cases hpath
  | readClock args scoreIds =>
    refine h.turns rfl rfl (fun _ hpath => by cases hpath) (fun _ _ _ heq => by cases heq)
      fun _ hpath => ?_
    rcases (mem_doomed.mp hpath).2 with hpending | hreplay
    · cases hpending
    · cases hreplay
  | listDirectory pass => exact h.list horder hheeds
  | inspect pass paths =>
    cases paths with
    | nil =>
      refine h.goes rfl rfl ?_ (fun next hnext path hpath => ?_) (fun pass path paths hmem => ?_)
        fun next hnext path hpath => ?_
      · exact List.filterMap_eq_nil_iff.mpr fun next hnext => by
          obtain ⟨path, -, rfl⟩ := List.mem_map.mp hnext
          rfl
      · obtain ⟨_, -, rfl⟩ := List.mem_map.mp hnext
        cases hpath
      · obtain ⟨_, -, heq⟩ := List.mem_map.mp hmem
        cases heq
      · obtain ⟨_, hdoomed, rfl⟩ := List.mem_map.mp hnext
        cases List.mem_singleton.mp hpath
        exact h.spared_others rfl hdoomed
    | cons path paths =>
      have hknown := h.known _ List.mem_cons_self
      simp only [Line.perform]
      split
      · exact h.turns rfl rfl (fun found hfound => hknown found (List.mem_cons_of_mem _ hfound))
          (fun _ _ _ heq => by cases heq) fun found hfound => h.spared_others rfl hfound
      · split
        · rename_i hpending
          refine h.turns rfl rfl hknown (fun _ _ _ heq => ?_)
            fun found hfound => h.spared_others rfl hfound
          cases heq
          exact hpending
        · rename_i hreplay
          exact h.record (Bool.eq_false_iff.mpr hreplay)
  | stat pass path paths =>
    have hknown := h.known _ List.mem_cons_self
    simp only [Line.perform]
    split
    · exact h.goes rfl rfl rfl (fun _ hnext => by cases hnext) (fun _ _ _ hmem => by cases hmem)
        fun _ hnext => by cases hnext
    · split
      · rename_i hold
        exact h.orphan (hheeds hold)
      · exact h.turns rfl rfl (fun found hfound => hknown found (List.mem_cons_of_mem _ hfound))
          (fun _ _ _ heq => by cases heq) fun found hfound => h.spared_others rfl hfound
  | unlink path => exact h.unlink
  | wait seconds =>
    exact h.goes rfl rfl rfl (fun _ hnext => by cases hnext) (fun _ _ _ hmem => by cases hmem)
      fun _ hnext => by cases hnext

-- A line that has found nothing yet, and is of no submission.
theorem Kept.joins (h : Kept replaysPath start subs w left) (hinner : line.inner = none)
    (hlisted : line.listed.1 = []) (hdooms : line.dooms = []) :
    Kept replaysPath start subs w (line :: left) := by
  have hsame : (line :: left).filterMap Line.inner = left.filterMap Line.inner :=
    List.filterMap_cons_none hinner
  refine ⟨hsame ▸ h.filed, h.free, fun next hnext path hpath => ?_, fun pass path paths hmem => ?_,
    fun next hnext path hpath => ?_⟩
  · rcases List.mem_cons.mp hnext with rfl | hmem
    · rw [hlisted] at hpath
      cases hpath
    · exact h.known next hmem path hpath
  · rcases List.mem_cons.mp hmem with rfl | hmem
    · cases hlisted
    · exact h.pending pass path paths hmem
  · rw [hsame]
    rcases List.mem_cons.mp hnext with rfl | hmem
    · rw [hdooms] at hpath
      cases hpath
    · exact h.spared next hmem path hpath

theorem Kept.begin (h : Kept replaysPath start subs w left) (request : Request) :
    Kept replaysPath start (subs ++ request.submission.toList) w (request.lines ++ left) := by
  cases request with
  | submit sub =>
    refine ⟨h.filed.begin sub, h.free, fun line hline path hpath => ?_,
      fun pass path paths hmem => ?_, fun line hline path hpath => ?_⟩
    · rcases List.mem_cons.mp hline with rfl | hmem
      · cases hpath
      · exact h.known line hmem path hpath
    · rcases List.mem_cons.mp hmem with heq | hmem
      · cases heq
      · exact h.pending pass path paths hmem
    · rcases List.mem_cons.mp hline with rfl | hmem
      · cases hpath
      · have hspared := h.spared line hmem path hpath
        refine ⟨hspared.child, hspared.unscored, fun inner hinner sub' hsub => ?_⟩
        rcases List.mem_cons.mp hinner with rfl | hold
        · cases hsub
        · exact hspared.unheld inner hold sub' hsub
  | reconcile args =>
    rw [Request.submission, Option.toList_none, List.append_nil]
    exact h.joins rfl rfl rfl
  | wait seconds =>
    rw [Request.submission, Option.toList_none, List.append_nil]
    exact h.joins rfl rfl rfl

theorem kept_run (horder : ∀ paths, (order paths).Perm paths) (hready : w.store.Ready replaysPath)
    (hfree : ∀ id, w.store.nextId ≤ id → w.store.files (replayPath replaysPath id) = none)
    (hplain : Plain replaysPath ((Tasks.begun run).filterMap Request.submission))
    (hrun : Guarded (Traffic.step collate replaysPath order)
      (Tasks.Meets fun line w running => line.Heeds replaysPath w (Tasks.gather some running))
      { world := w, running := [] } run) :
    Kept replaysPath w.store.rows ((Tasks.begun run).filterMap Request.submission)
      (reconciled collate replaysPath order w run).world
      (Tasks.gather some (reconciled collate replaysPath order w run).running) := by
  have hstart : Kept replaysPath w.store.rows [] w [] :=
    ⟨hready.filed, hfree, fun _ hline => (by cases hline), fun _ _ _ hmem => (by cases hmem),
      fun _ hline => (by cases hline)⟩
  have hkept := @Tasks.left_guarded Disk Line Request Request.lines
    (Line.perform collate replaysPath order) { world := w, running := [] }
    (fun line w others => line.Heeds replaysPath w others)
    (fun requests w' left => Plain replaysPath (requests.filterMap Request.submission) →
      Kept replaysPath w.store.rows (requests.filterMap Request.submission) w' left)
    (fun _ _ _ _ hperm h hsubs => (h hsubs).of_perm hperm)
    (fun requests w' left request h hsubs => ?_)
    (fun _ _ _ _ h hheeds hsubs => (h hsubs).perform horder hsubs hheeds) run [] (fun _ => hstart)
    hrun
  · exact hkept hplain
  · have hsame : (requests ++ [request]).filterMap Request.submission =
        requests.filterMap Request.submission ++ request.submission.toList := by
      rw [List.filterMap_append]
      cases request <;> rfl
    rw [hsame] at hsubs ⊢
    exact (h (hsubs.mono (List.subset_append_left _ _))).begin request

-- The files that go are none of a stored score's, if the tool can tell those of the submissions
-- that go on around it.
theorem replays_kept (collate : Str → Str) (replaysPath : Path) (order : List Path → List Path)
    (w : Disk) (run : List Event) (horder : ∀ paths, (order paths).Perm paths)
    (hready : w.store.Ready replaysPath)
    (hfree : ∀ id, w.store.nextId ≤ id → w.store.files (replayPath replaysPath id) = none)
    (hplain : Plain replaysPath ((Tasks.begun run).filterMap Request.submission))
    (hrun : Guarded (Traffic.step collate replaysPath order)
      (Tasks.Meets fun line w running => line.Heeds replaysPath w (Tasks.gather some running))
      { world := w, running := [] } run) :
    ∀ row ∈ (reconciled collate replaysPath order w run).world.store.rows, ∀ data ∈ row.replay,
      (reconciled collate replaysPath order w run).world.store.files
          (replayPath replaysPath row.id) = some data ∨
        Tasks.Owed (fun line => line.inner.bind ReplayFiles.Line.finishes = some row.id)
          (reconciled collate replaysPath order w run).running := by
  intro row hrow data hdata
  have hkept := kept_run horder hready hfree hplain hrun
  refine (hkept.filed.replays row hrow data hdata).imp_right fun ⟨inner, hinner, hfinishes⟩ => ?_
  obtain ⟨line, hline, heq⟩ := List.mem_filterMap.mp hinner
  obtain ⟨task, htask, hsome⟩ := List.mem_flatMap.mp hline
  rw [List.filterMap_some] at hsome
  exact ⟨task, htask, line, hsome, decide_eq_true (by rw [heq]; exact hfinishes)⟩

end Runs

-- A pending replay that is too old, of a submission that never completed.
def Pass.Stale (pass : Pass) (w : Disk) (path : Path) : Prop :=
  isPending path ∧ w.modified path < pass.cutoff

-- A replay with no score row.
def Pass.Unscored (pass : Pass) (path : Path) : Prop :=
  isPending path = false ∧
    ∃ scoreId ∈ scoreIdOf path, ∀ id ∈ pass.scoreIds, (id : Int) ≠ scoreId

instance (pass : Pass) (w : Disk) (path : Path) : Decidable (pass.Stale w path) :=
  inferInstanceAs (Decidable (_ ∧ _))

instance (pass : Pass) (path : Path) : Decidable (pass.Unscored path) :=
  inferInstanceAs (Decidable (_ ∧ _))

def diskId (path : Path) : Option Int := if isPending path then none else scoreIdOf path

-- What a pass has found once it is through with some paths.
def Pass.through (pass : Pass) (w : Disk) (paths : List Path) : Pass :=
  { pass with
    orphanedPending := pass.orphanedPending ++ paths.filter (pass.Stale w)
    orphanedReplays := pass.orphanedReplays ++ paths.filter pass.Unscored
    onDisk := pass.onDisk ++ paths.filterMap diskId }

def Pass.finish (pass : Pass) (w : Disk) : Disk :=
  { w with
    store := pass.doomed.foldl World.unlink w.store
    reports := w.reports ++ [pass.report] }

-- What main starts from.
def Disk.firstPass (w : Disk) (args : Args) : Pass :=
  { args := args, scoreIds := w.store.rows.map Row.id, cutoff := w.clock - args.pendingAge }

def Disk.swept (w : Disk) (replaysPath : Path) (order : List Path → List Path) (args : Args) :
    Disk :=
  ((w.firstPass args).through w (order (w.listing replaysPath))).finish w

-- The same at another time.
def Disk.atTime (w : Disk) (clock : Int) : Disk := { w with clock := clock }

-- What the directory has that no score needs.
def Disk.Reclaimable (w : Disk) (replaysPath : Path) (args : Args) (path : Path) : Prop :=
  path ∈ w.listing replaysPath ∧
    ((w.firstPass args).Stale w path ∨ (w.firstPass args).Unscored path)

instance (w : Disk) (replaysPath : Path) (args : Args) (path : Path) :
    Decidable (w.Reclaimable replaysPath args path) :=
  inferInstanceAs (Decidable (_ ∧ _))

section Sweeping

variable {collate : Str → Str} {replaysPath path : Path} {order : List Path → List Path}
  {w : Disk} {pass : Pass} {paths : List Path} {store : World}

theorem not_unscored (hpending : isPending path) : ¬pass.Unscored path :=
  fun h => absurd (hpending.symm.trans h.1) (by decide)

theorem through_stale (hpath : pass.Stale w path) :
    ({ pass with orphanedPending := pass.orphanedPending ++ [path] } : Pass).through w paths =
      pass.through w (path :: paths) := by
  have hreplay : ¬pass.Unscored path := not_unscored hpath.1
  simp only [Pass.through, List.filter_cons, decide_eq_true hpath, decide_eq_false hreplay,
    List.filterMap_cons, diskId, hpath.1, if_true, List.append_assoc, List.singleton_append]
  rfl

theorem through_young (hyoung : ¬pass.Stale w path) (hpending : isPending path) :
    pass.through w paths = pass.through w (path :: paths) := by
  have hreplay : ¬pass.Unscored path := not_unscored hpending
  simp only [Pass.through, List.filter_cons, decide_eq_false hyoung, decide_eq_false hreplay,
    List.filterMap_cons, diskId, hpending, if_true]
  rfl

theorem through_record (hpending : isPending path = false) :
    (pass.record path).through w paths = pass.through w (path :: paths) := by
  have hyoung : ¬pass.Stale w path := fun h => absurd (h.1.symm.trans hpending) (by decide)
  unfold Pass.record
  split
  · rename_i hnone
    have hreplay : ¬pass.Unscored path := fun ⟨_, scoreId, hscore, _⟩ => by
      rw [hnone] at hscore
      cases hscore
    simp only [Pass.through, List.filter_cons, decide_eq_false hyoung, decide_eq_false hreplay,
      List.filterMap_cons, diskId, hpending, hnone]
    rfl
  · rename_i scoreId hscore
    have hunscored : pass.Unscored path ↔ ¬∃ id ∈ pass.scoreIds, (id : Int) = scoreId := by
      refine ⟨fun ⟨_, other, hother, hnone⟩ ⟨id, hid, heq⟩ => ?_, fun hnone => ?_⟩
      · rw [hscore] at hother
        exact hnone id hid (heq.trans (Option.some.inj hother))
      · exact ⟨hpending, scoreId, hscore, fun id hid heq => hnone ⟨id, hid, heq⟩⟩
    simp only [Pass.through, List.filter_cons, decide_eq_false hyoung, List.filterMap_cons, diskId,
      hpending, hscore]
    split
    · rename_i hknown
      rw [decide_eq_false fun h => hunscored.mp h hknown]
      simp only [List.append_assoc, List.singleton_append]
      rfl
    · rename_i hnone
      rw [decide_eq_true (hunscored.mpr hnone)]
      simp only [List.append_assoc, List.singleton_append]
      rfl

theorem unlinks_alone : Tasks.Alone (Line.perform collate replaysPath order) w
    (paths.map Line.unlink) { w with store := paths.foldl World.unlink w.store } := by
  induction paths generalizing w with
  | nil => exact .nil w
  | cons path paths ih => exact .cons ih

-- The loop over the files, with nothing else going on.
theorem inspect_alone (hpaths : ∀ path ∈ paths, w.store.files path ≠ none) :
    Tasks.Alone (Line.perform collate replaysPath order) w [.inspect pass paths]
      ((pass.through w paths).finish w) := by
  induction paths generalizing pass with
  | nil =>
    refine .cons ?_
    change Tasks.Alone _ { w with reports := w.reports ++ [pass.report] }
      (pass.doomed.map Line.unlink ++ []) _
    rw [List.append_nil]
    have hnil : pass.through w [] = pass := by simp [Pass.through]
    rw [hnil]
    exact unlinks_alone
  | cons path paths ih =>
    have hrest : ∀ path ∈ paths, w.store.files path ≠ none :=
      fun path hpath => hpaths path (List.mem_cons_of_mem _ hpath)
    have hfile := hpaths path List.mem_cons_self
    refine .cons ?_
    simp only [Line.perform, if_neg hfile]
    split
    · rename_i hpending
      refine .cons ?_
      simp only [Line.perform, if_neg hfile]
      split
      · rename_i hold
        rw [← through_stale ⟨hpending, hold⟩]
        exact ih hrest
      · rename_i hyoung
        rw [← through_young (fun h => hyoung h.2) hpending]
        exact ih hrest
    · rename_i hreplay
      rw [← through_record (Bool.eq_false_iff.mpr hreplay)]
      exact ih hrest

theorem files_unlinks : (paths.foldl World.unlink store).files path =
    if path ∈ paths then none else store.files path := by
  induction paths generalizing store with
  | nil => rfl
  | cons first paths ih =>
    rw [List.foldl_cons, ih]
    by_cases hrest : path ∈ paths
    · rw [if_pos hrest, if_pos (List.mem_cons_of_mem _ hrest)]
    · rw [if_neg hrest]
      by_cases hfirst : path = first
      · rw [if_pos (List.mem_cons.mpr (Or.inl hfirst)), hfirst]
        exact Function.update_self ..
      · rw [if_neg (List.not_mem_cons_of_ne_of_not_mem hfirst hrest)]
        exact Function.update_of_ne hfirst _ _

theorem rows_unlinks : (paths.foldl World.unlink store).rows = store.rows := by
  induction paths generalizing store with
  | nil => rfl
  | cons first paths ih => exact ih

theorem mem_missing {id : Nat} : id ∈ pass.missingReplays ↔
    id ∈ pass.scoreIds ∧ (id : Int) ∉ pass.onDisk := by
  rw [Pass.missingReplays, (List.perm_insertionSort _ _).mem_iff, List.mem_filter,
    decide_eq_true_iff]

theorem missing_sorted (hnodup : pass.scoreIds.Nodup) : pass.missingReplays.Pairwise (· < ·) := by
  have hle : pass.missingReplays.Pairwise (· ≤ ·) := List.pairwise_insertionSort _ _
  have hne : pass.missingReplays.Nodup :=
    (List.perm_insertionSort _ _).nodup_iff.mpr (hnodup.filter _)
  exact hle.imp₂ (fun _ _ hle hne => lt_of_le_of_ne hle hne) hne

theorem mem_listing : path ∈ w.listing replaysPath ↔
    (path ∈ w.entries ∨ path ∈ w.store.touched) ∧ path.IsChild replaysPath ∧
      w.store.files path ≠ none := by
  rw [Disk.listing, List.mem_filter, List.mem_dedup, List.mem_append, decide_eq_true_iff,
    Option.isSome_iff_ne_none]

theorem swept_alone {args : Args} (horder : ∀ paths, (order paths).Perm paths) :
    Tasks.Alone (Line.perform collate replaysPath order) w (Request.reconcile args).lines
      (w.swept replaysPath order args) := by
  refine .cons (.cons (.cons ?_))
  exact inspect_alone fun path hpath => (mem_listing.mp ((horder _).mem_iff.mp hpath)).2.2

theorem mem_doomed_through {args : Args} (horder : ∀ paths, (order paths).Perm paths) :
    path ∈ ((w.firstPass args).through w (order (w.listing replaysPath))).doomed ↔
      args.delete ∧ w.Reclaimable replaysPath args path := by
  rw [mem_doomed]
  refine and_congr_right fun _ => ?_
  change path ∈ [] ++ List.filter _ _ ∨ path ∈ [] ++ List.filter _ _ ↔ _
  rw [List.nil_append, List.nil_append, List.mem_filter, List.mem_filter, (horder _).mem_iff,
    decide_eq_true_iff, decide_eq_true_iff, ← and_or_left]
  rfl

theorem files_swept {args : Args} (horder : ∀ paths, (order paths).Perm paths) :
    (w.swept replaysPath order args).store.files path =
      if args.delete ∧ w.Reclaimable replaysPath args path then none
      else w.store.files path := by
  refine files_unlinks.trans ?_
  exact if_congr (mem_doomed_through horder) rfl rfl

theorem not_mem_onDisk {args : Args} {id : Nat} (horder : ∀ paths, (order paths).Perm paths) :
    (id : Int) ∉ ((w.firstPass args).through w (order (w.listing replaysPath))).onDisk ↔
      ∀ path ∈ w.listing replaysPath, diskId path ≠ some (id : Int) := by
  change (id : Int) ∉ [] ++ List.filterMap diskId _ ↔ _
  rw [List.nil_append, List.mem_filterMap, not_exists]
  exact forall_congr' fun path => by rw [not_and, (horder _).mem_iff]

-- A removed file was the replay of no score.
theorem replay_swept {args : Args} {row : Row} (horder : ∀ paths, (order paths).Perm paths)
    (hrow : row ∈ w.store.rows) :
    (w.swept replaysPath order args).store.files (replayPath replaysPath row.id) =
      w.store.files (replayPath replaysPath row.id) := by
  rw [files_swept horder, if_neg]
  rintro ⟨-, -, hstale | ⟨-, scoreId, hscore, hnone⟩⟩
  · exact absurd (hstale.1.symm.trans isPending_replayPath) (by decide)
  · rw [scoreIdOf_replayPath] at hscore
    exact hnone row.id (List.mem_map_of_mem hrow) (Option.some.inj hscore)

theorem touched_unlinks : (paths.foldl World.unlink store).touched = store.touched ++ paths := by
  induction paths generalizing store with
  | nil => exact (List.append_nil _).symm
  | cons first paths ih =>
    rw [List.foldl_cons, ih, World.unlink, List.append_assoc]
    rfl

-- What is left in the directory.
theorem mem_listing_swept {args : Args} (horder : ∀ paths, (order paths).Perm paths) :
    path ∈ (w.swept replaysPath order args).listing replaysPath ↔
      path ∈ w.listing replaysPath ∧ ¬(args.delete ∧ w.Reclaimable replaysPath args path) := by
  have htouched : (w.swept replaysPath order args).store.touched =
      w.store.touched ++ ((w.firstPass args).through w (order (w.listing replaysPath))).doomed :=
    touched_unlinks
  rw [mem_listing, mem_listing, files_swept horder, htouched, List.mem_append,
    mem_doomed_through horder]
  by_cases hgone : args.delete ∧ w.Reclaimable replaysPath args path
  · rw [if_pos hgone]
    exact ⟨fun h => absurd rfl h.2.2, fun h => absurd hgone h.2⟩
  · simp only [hgone, if_false, or_false, not_false_eq_true, and_true]
    rfl

-- Once it has been deleted, nothing is found again, unless what was too young has come of age.
theorem swept_again {args again : Args} {later : Int} (horder : ∀ paths, (order paths).Perm paths)
    (hdelete : args.delete) (hage : later - again.pendingAge ≤ w.clock - args.pendingAge)
    (hpath : ((w.swept replaysPath order args).atTime later).Reclaimable replaysPath again path) :
    False := by
  obtain ⟨hlisted, hfound⟩ := hpath
  obtain ⟨hold, hkept⟩ := (mem_listing_swept horder).mp hlisted
  refine hkept ⟨hdelete, hold, hfound.imp (fun hstale => ?_) fun hunscored => ?_⟩
  · exact ⟨hstale.1, hstale.2.trans_le hage⟩
  · have hrows : (w.swept replaysPath order args).store.rows = w.store.rows := rows_unlinks
    obtain ⟨hreplay, scoreId, hscore, hnone⟩ := hunscored
    refine ⟨hreplay, scoreId, hscore, fun id hid => hnone id ?_⟩
    change id ∈ (w.swept replaysPath order args).store.rows.map Row.id
    rw [hrows]
    exact hid

-- A file that is some score's is not removed.
theorem diskId_swept {args : Args} {id : Nat} (horder : ∀ paths, (order paths).Perm paths)
    (hid : id ∈ w.store.rows.map Row.id) :
    (∀ path ∈ (w.swept replaysPath order args).listing replaysPath, diskId path ≠ some (id : Int)) ↔
      ∀ path ∈ w.listing replaysPath, diskId path ≠ some (id : Int) := by
  refine ⟨fun h path hpath hdisk => ?_,
    fun h path hpath => h path ((mem_listing_swept horder).mp hpath).1⟩
  refine h path ((mem_listing_swept horder).mpr ⟨hpath, ?_⟩) hdisk
  unfold diskId at hdisk
  split at hdisk
  · cases hdisk
  · rename_i hreplay
    rintro ⟨-, -, hstale | ⟨-, scoreId, hscore, hnone⟩⟩
    · exact hreplay hstale.1
    · exact hnone id hid (Option.some.inj (hdisk.symm.trans hscore))

theorem report_again {args again : Args} {later : Int} (horder : ∀ paths, (order paths).Perm paths)
    (hdelete : args.delete) (hage : later - again.pendingAge ≤ w.clock - args.pendingAge) :
    ((((w.swept replaysPath order args).atTime later).firstPass again).through
      ((w.swept replaysPath order args).atTime later)
      (order (((w.swept replaysPath order args).atTime later).listing replaysPath))).report =
        { orphanedPending := []
          orphanedReplays := []
          missingReplays :=
            ((w.firstPass args).through w (order (w.listing replaysPath))).missingReplays } := by
  have hrows : (w.swept replaysPath order args).store.rows = w.store.rows := rows_unlinks
  have hgone : ∀ path ∈ order (((w.swept replaysPath order args).atTime later).listing replaysPath),
      ¬(((w.swept replaysPath order args).atTime later).firstPass again).Stale
          ((w.swept replaysPath order args).atTime later) path ∧
        ¬(((w.swept replaysPath order args).atTime later).firstPass again).Unscored path := by
    intro path hpath
    have hlisted := (horder _).mem_iff.mp hpath
    exact ⟨fun h => swept_again horder hdelete hage ⟨hlisted, Or.inl h⟩,
      fun h => swept_again horder hdelete hage ⟨hlisted, Or.inr h⟩⟩
  refine Report.ext ?_ ?_ ?_
  · refine (List.nil_append _).trans (List.filter_eq_nil_iff.mpr fun path hpath => ?_)
    rw [decide_eq_true_iff]
    exact (hgone path hpath).1
  · refine (List.nil_append _).trans (List.filter_eq_nil_iff.mpr fun path hpath => ?_)
    rw [decide_eq_true_iff]
    exact (hgone path hpath).2
  · change List.insertionSort _ (List.filter _ ((w.swept replaysPath order args).store.rows.map
      Row.id)) = List.insertionSort _ (List.filter _ (w.store.rows.map Row.id))
    rw [hrows]
    refine congrArg _ (List.filter_congr fun id hid => ?_)
    rw [decide_eq_decide]
    exact (not_mem_onDisk horder).trans
      ((diskId_swept horder hid).trans (not_mem_onDisk horder).symm)

end Sweeping

-- The tool with nothing else going on: the files that it removes and what it reports, that it
-- leaves the replays of the scores, and that a run after it whose cutoff is no later finds what it
-- has found missing and nothing to remove.
theorem swept_exactly (collate : Str → Str) (replaysPath : Path) (order : List Path → List Path)
    (w : Disk) (args : Args) (horder : ∀ paths, (order paths).Perm paths)
    (hnodup : (w.store.rows.map Row.id).Nodup) :
    (∀ w', Tasks.Alone (Line.perform collate replaysPath order) w
        (Request.reconcile args).lines w' ↔ w' = w.swept replaysPath order args) ∧
      (∀ path, (w.swept replaysPath order args).store.files path =
        if args.delete ∧ w.Reclaimable replaysPath args path then none
        else w.store.files path) ∧
      (∀ row ∈ w.store.rows,
        (w.swept replaysPath order args).store.files (replayPath replaysPath row.id) =
          w.store.files (replayPath replaysPath row.id)) ∧
      ∃ report, (w.swept replaysPath order args).reports = w.reports ++ [report] ∧
        report.missingReplays.Pairwise (· < ·) ∧
        (∀ id, id ∈ report.missingReplays ↔ id ∈ w.store.rows.map Row.id ∧
          ∀ path ∈ w.listing replaysPath, diskId path ≠ some (id : Int)) ∧
        ∀ again later, args.delete → later - again.pendingAge ≤ w.clock - args.pendingAge →
          (((w.swept replaysPath order args).atTime later).swept replaysPath order again).reports =
            w.reports ++
              [report, { report with orphanedPending := [], orphanedReplays := [] }] := by
  refine ⟨fun w' => ⟨fun h => h.deterministic (swept_alone horder), fun h => ?_⟩,
    fun path => files_swept horder, fun row => replay_swept horder,
    _, rfl, missing_sorted hnodup,
    fun id => mem_missing.trans (and_congr_right fun _ => not_mem_onDisk horder),
    fun again later hdelete hage => ?_⟩
  · rw [h]
    exact swept_alone horder
  · change (w.reports ++ [_]) ++ [_] = _
    rw [report_again horder hdelete hage, List.append_assoc]
    rfl

instance (replaysPath : Path) (line : Line) (w : Disk) (others : List Line) :
    Decidable (line.Heeds replaysPath w others) :=
  match line with
  | .listDirectory pass =>
      inferInstanceAs (Decidable
        (∀ row ∈ w.store.rows, w.store.files (replayPath replaysPath row.id) ≠ none →
          row.id ∈ pass.scoreIds))
  | .stat pass path _ =>
      inferInstanceAs (Decidable
        (w.modified path < pass.cutoff → ∀ other ∈ others.filterMap Line.inner,
          ∀ sub ∈ other.holder, pendingReplayPath replaysPath sub.clientChecksum ≠ path))
  | .submission (.stage sub _) =>
      inferInstanceAs (Decidable
        (∀ other ∈ others, pendingReplayPath replaysPath sub.clientChecksum ∉ other.dooms))
  | .submission (.acquire _) | .submission (.fetchDuplicate _) | .submission (.calculateStatus _)
  | .submission (.readReplay _) | .submission (.persist _ _) | .submission (.finish _ _ _)
  | .fetchAllScoreIds _ | .readClock _ _ | .inspect _ _ | .unlink _ | .wait _ => isTrue trivial

-- A score and its replay, one whose score is gone, and what a crash has left.
def stocked : Disk :=
  { store :=
      { fresh with
        files := fun path =>
          if path = replayPath REPLAYS_PATH 3 then some [3]
          else if path = replayPath REPLAYS_PATH 7 then some [7]
          else if path = pendingReplayPath REPLAYS_PATH "old".toList then some [0]
          else none
        rows := [⟨3, "cc".toList, some [3]⟩]
        nextId := 9 }
    entries := [replayPath REPLAYS_PATH 3, replayPath REPLAYS_PATH 7,
      pendingReplayPath REPLAYS_PATH "old".toList]
    modified := fun _ => 0
    clock := 100000 }

theorem stocked_ready : stocked.store.Ready REPLAYS_PATH where
  replays row hrow data hdata := by
    cases List.mem_singleton.mp hrow
    cases hdata
    decide
  ids_lt row hrow := by
    cases List.mem_singleton.mp hrow
    decide
  ids_nodup := List.nodup_singleton _
  untouched := rfl
  unlocked := rfl

theorem stocked_free (id : Nat) (hid : 9 ≤ id) :
    stocked.store.files (replayPath REPLAYS_PATH id) = none := by
  have hthree : replayPath REPLAYS_PATH id ≠ replayPath REPLAYS_PATH 3 :=
    fun h => by have := replayPath_injective h; omega
  have hseven : replayPath REPLAYS_PATH id ≠ replayPath REPLAYS_PATH 7 :=
    fun h => by have := replayPath_injective h; omega
  exact (if_neg hthree).trans ((if_neg hseven).trans (if_neg replayPath_ne_pending))

def daily : Args := { delete := true, pendingAge := 86400 }

-- A submission that is staged when the files are listed, and stored while they are gone through.
def cleaning : List Event :=
  .begin (.submit (passedScore "aa" 1 .committed)) :: (List.replicate 5 0).map .resume ++
    .begin (.reconcile daily) :: [1, 1, 1, 0, 0, 1, 1, 1, 1, 1, 1, 1, 1].map .resume

theorem replays_kept_cleaning :
    (reconciled id REPLAYS_PATH id stocked cleaning).world.store.files
        (replayPath REPLAYS_PATH 3) = some [3] ∧
      (reconciled id REPLAYS_PATH id stocked cleaning).world.store.files
        (replayPath REPLAYS_PATH 9) = some (List.replicate 24 1) := by
  have h := replays_kept id REPLAYS_PATH id stocked cleaning (fun _ => List.Perm.refl _)
    stocked_ready stocked_free (by decide) (by decide +kernel)
  refine ⟨(h ⟨3, "cc".toList, some [3]⟩ ?_ [3] rfl).resolve_right ?_,
    (h ⟨9, "aa".toList, some (List.replicate 24 1)⟩ ?_ _ rfl).resolve_right ?_⟩
  all_goals decide +kernel

def storedBetween : List Event :=
  .begin (.reconcile daily) :: .resume 0 :: .begin (.submit (passedScore "aa" 1 .committed)) ::
    (List.replicate 7 1 ++ List.replicate 11 0).map .resume

-- One that is stored between the rows and the listing loses its replay.
example : ∃ row ∈ (reconciled id REPLAYS_PATH id stocked storedBetween).world.store.rows,
    row.replay = some (List.replicate 24 1) ∧
      (reconciled id REPLAYS_PATH id stocked storedBetween).world.store.files
        (replayPath REPLAYS_PATH row.id) = none := by
  decide +kernel

theorem swept_exactly_stocked :
    (stocked.swept REPLAYS_PATH id daily).store.files (replayPath REPLAYS_PATH 7) = none ∧
      (stocked.swept REPLAYS_PATH id daily).store.files (replayPath REPLAYS_PATH 3) = some [3] := by
  have h := swept_exactly id REPLAYS_PATH id stocked daily (fun _ => List.Perm.refl _) (by decide)
  refine ⟨(h.2.1 _).trans (if_pos ?_), (h.2.2.1 ⟨3, "cc".toList, some [3]⟩ ?_).trans ?_⟩
  · decide +kernel
  · exact List.mem_singleton_self _
  · decide

end Reconciling

end BanchoPrism.Scores
