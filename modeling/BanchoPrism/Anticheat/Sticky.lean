import BanchoPrism.Anticheat.Flags

namespace BanchoPrism.Anticheat

open Library

theorem fetchFlag_of_mem {flags : List AnticheatFlag}
    (hnodup : (flags.map AnticheatFlag.scoreId).Nodup) {flag : AnticheatFlag} (h : flag ∈ flags) :
    fetchFlag flags flag.scoreId = some flag := fetchBy_of_mem hnodup h

-- What a statement makes of the flag of one score.
def Statement.effect (scoreId : Int) (flag : Option AnticheatFlag) :
    Statement → Option AnticheatFlag
  | .upsert id d now =>
      if id = scoreId then
        match flag with
        | some flag => some (flag.refreshed d now)
        | none => some (AnticheatFlag.fresh id d now)
      else flag
  | .update d now =>
      if d.scoreId = scoreId then
        flag.map fun flag => { flag with resolution := d.resolution now }
      else flag
  | _ => flag

def Statement.resolution (scoreId : Int) : Statement → Option Resolution
  | .update d now => if d.scoreId = scoreId then some (d.resolution now) else none
  | _ => none

def Statement.detection (scoreId : Int) : Statement → Option (Detection × Int)
  | .upsert id d now => if id = scoreId then some (d.trimmed, now) else none
  | _ => none

def Statement.entry : Statement → Option Log
  | .createLog entry _ => some entry
  | _ => none

section Effects

variable {desk : Desk} {scoreId : Int}

theorem fetchFlag_upsert (flags : List AnticheatFlag) (id : Int) (d : Detection) (now : Int) :
    fetchFlag (upsert flags id d now) scoreId =
      (Statement.upsert id d now).effect scoreId (fetchFlag flags scoreId) := by
  have hfetch : fetchFlag (upsert flags id d now) scoreId =
      if id = scoreId then
        some (((fetchFlag flags scoreId).map fun flag => flag.refreshed d now).getD
          (AnticheatFlag.fresh id d now))
      else fetchFlag flags scoreId := fetchBy_upsertBy fun _ => rfl
  rw [hfetch]
  simp only [Statement.effect]
  cases fetchFlag flags scoreId <;> rfl

theorem fetchFlag_decide (flags : List AnticheatFlag) (d : Decision) (now : Int) :
    fetchFlag (decideFlag flags d now) scoreId =
      (Statement.update d now).effect scoreId (fetchFlag flags scoreId) :=
  @fetchBy_update _ _ _ AnticheatFlag.scoreId flags scoreId
    (fun flag => { flag with resolution := d.resolution now }) (fun _ => rfl) d.scoreId

-- Each statement does to the flag of a score what it does to that flag alone.
theorem fetchFlag_perform (statement : Statement) (desk : Desk) :
    fetchFlag (statement.perform desk).1.flags scoreId =
      statement.effect scoreId (fetchFlag desk.flags scoreId) := by
  cases statement with
  | fetchScoreUser result report top now =>
    simp only [Statement.perform, Statement.effect]
    split <;> rfl
  | upsert id d now => exact fetchFlag_upsert desk.flags id d now
  | fetchRecorded id =>
    simp only [Statement.perform, Statement.effect]
    split <;> rfl
  | update d now => exact fetchFlag_decide desk.flags d now
  | fetchResolved d =>
    simp only [Statement.perform, Statement.effect]
    split
    · split <;> rfl
    · rfl
  | createLog entry flag => rfl
  | purge id => rfl

theorem logs_perform (statement : Statement) (desk : Desk) :
    (statement.perform desk).1.logs = desk.logs ++ statement.entry.toList := by
  cases statement with
  | fetchScoreUser result report top now =>
    simp only [Statement.perform, Statement.entry]
    split <;> simp [Desk.answer]
  | upsert id d now => simp [Statement.perform, Statement.entry]
  | fetchRecorded id =>
    simp only [Statement.perform, Statement.entry]
    split <;> simp [Desk.answer]
  | update d now => simp [Statement.perform, Statement.entry]
  | fetchResolved d =>
    simp only [Statement.perform, Statement.entry]
    split
    · split <;> simp [Desk.answer]
    · simp [Desk.answer]
  | createLog entry flag => simp [Statement.perform, Statement.entry, Desk.answer]
  | purge id => simp [Statement.perform, Statement.entry]

theorem nodup_perform (statement : Statement) {desk : Desk}
    (h : (desk.flags.map AnticheatFlag.scoreId).Nodup) :
    ((statement.perform desk).1.flags.map AnticheatFlag.scoreId).Nodup := by
  cases statement with
  | fetchScoreUser result report top now =>
    simp only [Statement.perform]
    split <;> exact h
  | upsert id d now => exact nodup_upsertBy (fun _ => rfl) h
  | fetchRecorded id =>
    simp only [Statement.perform]
    split <;> exact h
  | update d now => exact nodup_map_of_same h fun flag => by split <;> rfl
  | fetchResolved d =>
    simp only [Statement.perform]
    split
    · split <;> exact h
    · exact h
  | createLog entry flag => exact h
  | purge id => exact h

theorem effect_some (statement : Statement) (flag : AnticheatFlag) :
    ∃ after, statement.effect scoreId (some flag) = some after ∧
      after.scoreId = flag.scoreId ∧ after.firstFlaggedAt = flag.firstFlaggedAt ∧
      after.resolution = (statement.resolution scoreId).getD flag.resolution ∧
      (after.detection, after.lastFlaggedAt) =
        (statement.detection scoreId).getD (flag.detection, flag.lastFlaggedAt) := by
  cases statement with
  | upsert id d now =>
    simp only [Statement.effect, Statement.resolution, Statement.detection]
    split
    · exact ⟨flag.refreshed d now, rfl, rfl, rfl, rfl, rfl⟩
    · exact ⟨flag, rfl, rfl, rfl, rfl, rfl⟩
  | update d now =>
    simp only [Statement.effect, Statement.resolution, Statement.detection]
    split
    · exact ⟨{ flag with resolution := d.resolution now }, rfl, rfl, rfl, rfl, rfl⟩
    · exact ⟨flag, rfl, rfl, rfl, rfl, rfl⟩
  | _ => exact ⟨flag, rfl, rfl, rfl, rfl, rfl⟩

theorem getLast?_filterMap_cons {α β : Type} (f : α → Option β) (a : α) (rest : List α) (b : β) :
    ((a :: rest).filterMap f).getLast?.getD b =
      (rest.filterMap f).getLast?.getD ((f a).getD b) := by
  cases h : f a with
  | none => rw [List.filterMap_cons_none h, Option.getD_none]
  | some c => rw [List.filterMap_cons_some h, List.getLast?_cons, Option.getD_some, Option.getD_some]

-- The flag of a score through some statements: where each of its columns is from.
theorem foldl_effect (flag : AnticheatFlag) (statements : List Statement) :
    ∃ after, statements.foldl (Statement.effect scoreId) (some flag) = some after ∧
      after.scoreId = flag.scoreId ∧ after.firstFlaggedAt = flag.firstFlaggedAt ∧
      after.resolution =
        (statements.filterMap (Statement.resolution scoreId)).getLast?.getD flag.resolution ∧
      (after.detection, after.lastFlaggedAt) =
        (statements.filterMap (Statement.detection scoreId)).getLast?.getD
          (flag.detection, flag.lastFlaggedAt) := by
  induction statements generalizing flag with
  | nil => exact ⟨flag, rfl, rfl, rfl, rfl, rfl⟩
  | cons statement rest ih =>
    obtain ⟨next, hnext, hid, hfirst, hresolution, hdetection⟩ :=
      @effect_some scoreId statement flag
    obtain ⟨after, hafter, hid', hfirst', hresolution', hdetection'⟩ := ih next
    refine ⟨after, ?_, hid'.trans hid, hfirst'.trans hfirst, ?_, ?_⟩
    · rw [List.foldl_cons, hnext, hafter]
    · rw [getLast?_filterMap_cons, ← hresolution, hresolution']
    · rw [getLast?_filterMap_cons, ← hdetection, hdetection']

-- A score that had no flag has got it from the first record of it.
theorem foldl_effect_none {statements : List Statement} {flag : AnticheatFlag}
    (h : statements.foldl (Statement.effect scoreId) none = some flag) :
    ∃ before d now after, statements = before ++ Statement.upsert scoreId d now :: after ∧
      after.foldl (Statement.effect scoreId) (some (AnticheatFlag.fresh scoreId d now)) =
        some flag := by
  induction statements with
  | nil => cases h
  | cons statement rest ih =>
    rw [List.foldl_cons] at h
    cases heffect : statement.effect scoreId none with
    | none =>
      rw [heffect] at h
      obtain ⟨before, d, now, after, hsplit, hafter⟩ := ih h
      exact ⟨statement :: before, d, now, after, by rw [hsplit, List.cons_append], hafter⟩
    | some first =>
      cases statement with
      | upsert id d now =>
        simp only [Statement.effect] at heffect
        split at heffect
        · rename_i hid
          subst hid
          cases heffect
          refine ⟨[], d, now, rest, rfl, ?_⟩
          rwa [Statement.effect, if_pos rfl] at h
        · cases heffect
      | update d now =>
        simp only [Statement.effect] at heffect
        split at heffect <;> cases heffect
      | _ => cases heffect

end Effects

section Runs

theorem ran_statement (t : Reviews) (e : Event) (scoreId : Int) :
    fetchFlag (t.step e).world.flags scoreId =
        ((Tasks.ranBy t e).map Tasks.Ran.line).foldl (Statement.effect scoreId)
          (fetchFlag t.world.flags scoreId) ∧
      (t.step e).world.logs =
        t.world.logs ++ ((Tasks.ranBy t e).map Tasks.Ran.line).filterMap Statement.entry := by
  cases e with
  | begin op => exact ⟨rfl, (List.append_nil _).symm⟩
  | resume i =>
    change fetchFlag (t.resume Statement.perform i).world.flags scoreId = _ ∧
      (t.resume Statement.perform i).world.logs = _
    cases hnext : Tasks.next t.running i with
    | none =>
      rw [Tasks.resume_of_none hnext, Tasks.ranBy_of_none hnext]
      exact ⟨rfl, (List.append_nil _).symm⟩
    | some found =>
      obtain ⟨statement, rest⟩ := found
      rw [Tasks.resume_of_next hnext, Tasks.ranBy_of_next hnext]
      refine ⟨fetchFlag_perform statement t.world, ?_⟩
      simp only [logs_perform, List.map_cons, List.map_nil, List.filterMap_cons, List.filterMap_nil]
      cases statement.entry <;> rfl

-- The table, one flag at a time, and the logs.
theorem ran_statements (t : Reviews) (run : List Event) (scoreId : Int) :
    fetchFlag (runFrom Reviews.step t run).world.flags scoreId =
        ((Tasks.ran Reviews.step t run).map Tasks.Ran.line).foldl (Statement.effect scoreId)
          (fetchFlag t.world.flags scoreId) ∧
      (runFrom Reviews.step t run).world.logs = t.world.logs ++
        ((Tasks.ran Reviews.step t run).map Tasks.Ran.line).filterMap Statement.entry := by
  induction run generalizing t with
  | nil => exact ⟨rfl, (List.append_nil _).symm⟩
  | cons e rest ih =>
    obtain ⟨hflag, hlogs⟩ := ran_statement t e scoreId
    obtain ⟨hflag', hlogs'⟩ := ih (t.step e)
    simp only [Tasks.ran, runFrom, List.map_append, List.foldl_append, List.filterMap_append]
    exact ⟨by rw [hflag', hflag], by rw [hlogs', hlogs, List.append_assoc]⟩

theorem nodup_run {t : Reviews} (h : (t.world.flags.map AnticheatFlag.scoreId).Nodup)
    (run : List Event) :
    ((runFrom Reviews.step t run).world.flags.map AnticheatFlag.scoreId).Nodup := by
  induction run generalizing t with
  | nil => exact h
  | cons e rest ih =>
    refine ih ?_
    cases e with
    | begin op => exact h
    | resume i =>
      exact @Tasks.resume_keeps Desk Statement Statement.perform t
        (fun t : Reviews => (t.world.flags.map AnticheatFlag.scoreId).Nodup) h i
        fun statement _ _ => nodup_perform statement h

end Runs

-- A verdict on a score that is between its update and the read that follows.
def Statement.awaits (scoreId : Int) : Statement → Bool
  | .fetchResolved d => d.status.terminal && d.scoreId = scoreId
  | _ => false

-- No score gets its first flag while a verdict on it awaits that read.
def Statement.Settles (statement : Statement) (desk : Desk) (others : List (List Statement)) :
    Prop :=
  match statement with
  | .upsert scoreId _ _ =>
      fetchFlag desk.flags scoreId = none → ¬Tasks.Owed (Statement.awaits scoreId) others
  | _ => True

instance (statement : Statement) (desk : Desk) (others : List (List Statement)) :
    Decidable (statement.Settles desk others) := by
  unfold Statement.Settles
  split <;> infer_instance

-- How far a decision has come: what is left of it, and what it has run.
inductive Deciding (desk : Desk) (d : Decision) (now : Int) :
    List Statement → List (Desk × Statement) → Prop
  | begun : Deciding desk d now [.update d now] []
  | updated (w : Desk)
      (same : d.status.terminal →
        (fetchFlag desk.flags d.scoreId).isSome = (fetchFlag w.flags d.scoreId).isSome) :
      Deciding desk d now [.fetchResolved d] [(w, .update d now)]
  | found (w w' : Desk) (flag : AnticheatFlag)
      (flagged : (fetchFlag w.flags d.scoreId).isSome) :
      Deciding desk d now [.createLog (d.entry flag) flag]
        [(w, .update d now), (w', .fetchResolved d)]
  | silent (w w' : Desk)
      (unflagged : d.status.terminal → (fetchFlag w.flags d.scoreId).isSome = false) :
      Deciding desk d now [] [(w, .update d now), (w', .fetchResolved d)]
  | logged (w w' w'' : Desk) (flag : AnticheatFlag)
      (flagged : (fetchFlag w.flags d.scoreId).isSome) :
      Deciding desk d now []
        [(w, .update d now), (w', .fetchResolved d), (w'', .createLog (d.entry flag) flag)]

def Op.Stage (op : Op) (desk : Desk) (task : List Statement) (past : List (Desk × Statement)) :
    Prop :=
  match op with
  | .resolve d now => Deciding desk d now task past
  | _ => True

section Deciding

variable {desk : Desk} {d : Decision} {now : Int} {task rest : List Statement}
  {past : List (Desk × Statement)} {statement : Statement}

theorem isSome_update (desk : Desk) (d : Decision) (now scoreId : Int) :
    (fetchFlag ((Statement.update d now).perform desk).1.flags scoreId).isSome =
      (fetchFlag desk.flags scoreId).isSome := by
  rw [fetchFlag_perform]
  simp only [Statement.effect]
  split
  · exact Option.isSome_map
  · rfl

theorem Deciding.own (h : Deciding desk d now (statement :: rest) past) :
    Deciding (statement.perform desk).1 d now ((statement.perform desk).2 ++ rest)
      (past ++ [(desk, statement)]) := by
  cases h with
  | begun => exact Deciding.updated desk fun _ => isSome_update desk d now d.scoreId
  | updated w same =>
    simp only [Statement.perform]
    cases hfetch : fetchFlag desk.flags d.scoreId with
    | none =>
      refine Deciding.silent w desk fun hterminal => ?_
      rw [← same hterminal, hfetch]
      rfl
    | some flag =>
      dsimp only
      split
      · rename_i hterminal
        refine Deciding.found w desk flag ?_
        rw [← same hterminal, hfetch]
        rfl
      · rename_i hterminal
        exact Deciding.silent w desk fun h => absurd h hterminal
  | found w w' flag flagged => exact Deciding.logged w w' desk flag flagged

-- A statement of another task leaves it to a verdict whether the score has a flag.
theorem isSome_perform (scoreId : Int)
    (hsettles : ∀ d now, statement = .upsert scoreId d now →
      (fetchFlag desk.flags scoreId).isSome) :
    (fetchFlag (statement.perform desk).1.flags scoreId).isSome =
      (fetchFlag desk.flags scoreId).isSome := by
  cases statement with
  | upsert id d now =>
    rw [fetchFlag_perform]
    simp only [Statement.effect]
    split
    · rename_i hid
      subst hid
      rw [hsettles d now rfl]
      split <;> rfl
    · rfl
  | update d now => exact isSome_update desk d now scoreId
  | _ => rw [fetchFlag_perform]; rfl

theorem Deciding.other (h : Deciding desk d now task past) {others : List (List Statement)}
    (hsettles : statement.Settles desk others) (htask : task ∈ others) :
    Deciding (statement.perform desk).1 d now task past := by
  cases h with
  | begun => exact Deciding.begun
  | updated w same =>
    refine Deciding.updated w fun hterminal => ?_
    rw [← same hterminal]
    refine isSome_perform d.scoreId fun d' now' heq => ?_
    subst heq
    cases hfetch : fetchFlag desk.flags d.scoreId with
    | some flag => rfl
    | none =>
      refine absurd ⟨_, htask, .fetchResolved d, List.mem_cons_self, ?_⟩ (hsettles hfetch)
      simp [Statement.awaits, hterminal]
  | found w w' flag flagged => exact Deciding.found w w' flag flagged
  | silent w w' unflagged => exact Deciding.silent w w' unflagged
  | logged w w' w'' flag flagged => exact Deciding.logged w w' w'' flag flagged

end Deciding

section Stages

variable {desk : Desk} {op : Op} {task rest : List Statement} {past : List (Desk × Statement)}
  {statement : Statement}

theorem Op.stage_begin (desk : Desk) (op : Op) : op.Stage desk op.statements [] := by
  cases op with
  | resolve d now => exact Deciding.begun
  | _ => trivial

theorem Op.Stage.own (h : op.Stage desk (statement :: rest) past) :
    op.Stage (statement.perform desk).1 ((statement.perform desk).2 ++ rest)
      (past ++ [(desk, statement)]) := by
  cases op with
  | resolve d now => exact Deciding.own h
  | _ => trivial

theorem Op.Stage.other (h : op.Stage desk task past) {others : List (List Statement)}
    (hsettles : statement.Settles desk others) (htask : task ∈ others) :
    op.Stage (statement.perform desk).1 task past := by
  cases op with
  | resolve d now => exact Deciding.other h hsettles htask
  | _ => trivial

end Stages

section Decisions

def opened (flags : List AnticheatFlag) (logs : List Log) (owners : Int → Option Int) : Reviews where
  world := { flags := flags, logs := logs, owners := owners, answers := [] }
  running := []

-- What some statements of one task write to the logs.
def written (past : List (Desk × Statement)) : List Log :=
  past.filterMap fun entry => entry.2.entry

-- Each column of a flag that there was is from where it has to be.
def Sticky (before after : List AnticheatFlag) (statements : List Statement) : Prop :=
  ∀ flag ∈ before, ∃ later ∈ after, later.scoreId = flag.scoreId ∧
    later.firstFlaggedAt = flag.firstFlaggedAt ∧
    later.resolution =
      (statements.filterMap (Statement.resolution flag.scoreId)).getLast?.getD flag.resolution ∧
    (later.detection, later.lastFlaggedAt) =
      (statements.filterMap (Statement.detection flag.scoreId)).getLast?.getD
        (flag.detection, flag.lastFlaggedAt)

-- A flag that there was not is from the first record of its score and what came after it.
def FirstRecorded (before after : List AnticheatFlag) (statements : List Statement) : Prop :=
  ∀ flag ∈ after, (∀ other ∈ before, other.scoreId ≠ flag.scoreId) →
    ∃ first d now rest, statements = first ++ Statement.upsert flag.scoreId d now :: rest ∧
      Sticky [AnticheatFlag.fresh flag.scoreId d now] [flag] rest

-- A verdict that is through has one entry in the logs if the score had a flag when it was
-- written, and none otherwise.
def Audited (ops : List Op) (t : Reviews) (trace : List (Tasks.Ran Desk Statement)) : Prop :=
  ∀ i d now, ops[i]? = some (.resolve d now) → t.running[i]? = some [] → d.status.terminal →
    ∃ w, (Tasks.own i trace).head? = some (w, .update d now) ∧
      if (fetchFlag w.flags d.scoreId).isSome then
        ∃ flag, written (Tasks.own i trace) = [d.entry flag]
      else written (Tasks.own i trace) = []

-- What has to hold of a desk that is opened, after any run and again after more of it.
structure Reviewed (t₀ : Reviews) (first second : List Event) : Prop where
  unique : ((runFrom Reviews.step t₀ (first ++ second)).world.flags.map
    AnticheatFlag.scoreId).Nodup
  sticky : Sticky (runFrom Reviews.step t₀ first).world.flags
    (runFrom Reviews.step t₀ (first ++ second)).world.flags
    ((Tasks.ran Reviews.step (runFrom Reviews.step t₀ first) second).map Tasks.Ran.line)
  recorded : FirstRecorded (runFrom Reviews.step t₀ first).world.flags
    (runFrom Reviews.step t₀ (first ++ second)).world.flags
    ((Tasks.ran Reviews.step (runFrom Reviews.step t₀ first) second).map Tasks.Ran.line)
  logs : (runFrom Reviews.step t₀ (first ++ second)).world.logs = t₀.world.logs ++
    ((Tasks.ran Reviews.step t₀ (first ++ second)).map Tasks.Ran.line).filterMap Statement.entry
  audited : Audited (Tasks.begun (first ++ second)) (runFrom Reviews.step t₀ (first ++ second))
    (Tasks.ran Reviews.step t₀ (first ++ second))

theorem sticky_run {t : Reviews} (h : (t.world.flags.map AnticheatFlag.scoreId).Nodup)
    (run : List Event) :
    Sticky t.world.flags (runFrom Reviews.step t run).world.flags
      ((Tasks.ran Reviews.step t run).map Tasks.Ran.line) := by
  intro flag hflag
  obtain ⟨later, hlater, hid, hfirst, hresolution, hdetection⟩ :=
    @foldl_effect flag.scoreId flag ((Tasks.ran Reviews.step t run).map Tasks.Ran.line)
  have hfetch := (ran_statements t run flag.scoreId).1
  rw [fetchFlag_of_mem h hflag, hlater] at hfetch
  exact ⟨later, mem_of_fetchBy hfetch, hid, hfirst, hresolution, hdetection⟩

theorem firstRecorded_run {t : Reviews} (h : (t.world.flags.map AnticheatFlag.scoreId).Nodup)
    (run : List Event) :
    FirstRecorded t.world.flags (runFrom Reviews.step t run).world.flags
      ((Tasks.ran Reviews.step t run).map Tasks.Ran.line) := by
  intro flag hflag hnew
  have hnone : fetchFlag t.world.flags flag.scoreId = none := by
    exact fetchBy_eq_none.mpr hnew
  have hfetch := (ran_statements t run flag.scoreId).1
  rw [fetchFlag_of_mem (nodup_run h run) hflag, hnone] at hfetch
  obtain ⟨first, d, now, rest, hsplit, hrest⟩ := foldl_effect_none hfetch.symm
  refine ⟨first, d, now, rest, hsplit, fun other hother => ?_⟩
  rw [List.mem_singleton.mp hother]
  obtain ⟨later, hlater, hcolumns⟩ :=
    @foldl_effect flag.scoreId (AnticheatFlag.fresh flag.scoreId d now) rest
  rw [hrest] at hlater
  cases hlater
  exact ⟨flag, List.mem_singleton_self flag, hcolumns⟩

theorem Deciding.audited {desk : Desk} {d : Decision} {now : Int}
    {past : List (Desk × Statement)} (h : Deciding desk d now [] past)
    (hterminal : d.status.terminal) :
    ∃ w, past.head? = some (w, .update d now) ∧
      if (fetchFlag w.flags d.scoreId).isSome then ∃ flag, written past = [d.entry flag]
      else written past = [] := by
  cases h with
  | silent w w' unflagged =>
    refine ⟨w, rfl, ?_⟩
    rw [if_neg (by rw [unflagged hterminal]; simp)]
    rfl
  | logged w w' w'' flag flagged =>
    refine ⟨w, rfl, ?_⟩
    rw [if_pos flagged]
    exact ⟨flag, rfl⟩

-- Decisions stick in every run in which no score gets its first flag between the update and the
-- read of a verdict on it.
theorem reviewed_of_settles {flags : List AnticheatFlag}
    (hflags : (flags.map AnticheatFlag.scoreId).Nodup) (logs : List Log)
    (owners : Int → Option Int) {first second : List Event}
    (hg : Guarded Reviews.step (Tasks.Meets Statement.Settles) (opened flags logs owners)
      (first ++ second)) :
    Reviewed (opened flags logs owners) first second := by
  have hnodup := @nodup_run (opened flags logs owners) hflags
  refine ⟨hnodup _, ?_, ?_, (ran_statements _ _ 0).2, ?_⟩
  · rw [runFrom_append]
    exact sticky_run (hnodup first) second
  · rw [runFrom_append]
    exact firstRecorded_run (hnodup first) second
  · intro i d now hop htask hterminal
    have hstages := @Tasks.Stages.invariant Desk Statement Op Op.statements Statement.perform
      (opened flags logs owners) (fun desk op => op.Stage desk) Statement.Settles Op.stage_begin
      (fun _ _ _ _ _ h => h.own) (fun _ _ _ _ _ _ hsettles htask h => h.other hsettles htask)
      rfl _ hg
    have hstage : Deciding _ d now [] _ := hstages.stage i _ [] hop htask
    exact hstage.audited hterminal

def robotic : AnalysisResult where
  scoreId := 5
  mode := 0
  outcome := .ANALYZED
  report := some (runDetectors
    [{ code := "B1_HOLD"
       title := "holds"
       severity := .HIGH
       confidence := 1 / 2
       flagged := true
       detail := "equal holds"
       evidence := [("cov", 1 / 50)] }])
  errorDetail := none

def verdict (scoreId : Int) : Decision where
  scoreId := scoreId
  status := .ACTIONED
  resolvedBy := 3
  note := some "seen"

def ownedBySeven : Int → Option Int := fun _ => some 7

-- Score 5 is flagged, dealt with and flagged again, and there is nothing to deal with on score 6.
def dealtWith : List Event :=
  [.begin (.observe robotic 10), .resume 0, .resume 0, .resume 0,
    .begin (.resolve (verdict 5) 20), .resume 1, .begin (.observe robotic 30), .resume 2,
    .resume 2, .resume 1, .resume 1, .resume 2]

def notFlagged : List Event := [.begin (.resolve (verdict 6) 40), .resume 3, .resume 3]

theorem reviewed_dealtWith :
    Reviewed (opened [] [] ownedBySeven) dealtWith notFlagged ∧
      (runFrom Reviews.step (opened [] [] ownedBySeven) (dealtWith ++ notFlagged)).world.logs =
        [{ _from := 3, _to := 7, action := "ac_flag_actioned"
           msg := "score 5 [high/B1_HOLD]: seen" }] :=
  ⟨reviewed_of_settles (by simp) [] ownedBySeven (by decide +kernel), by decide +kernel⟩

-- The first flag of the score comes between the update and the read.
def flaggedBetween : List Event :=
  [.begin (.resolve (verdict 5) 10), .resume 0, .begin (.observe robotic 20), .resume 1,
    .resume 1, .resume 0, .resume 0]

theorem not_reviewed_flaggedBetween :
    ¬∀ (flags : List AnticheatFlag) (logs : List Log) (owners : Int → Option Int)
      (first second : List Event), (flags.map AnticheatFlag.scoreId).Nodup →
        Reviewed (opened flags logs owners) first second := by
  intro h
  have haudited := (h [] [] ownedBySeven flaggedBetween [] (by simp)).audited
  obtain ⟨w, hw, hwritten⟩ :=
    haudited 0 (verdict 5) 10 (by decide +kernel) (by decide +kernel) (by decide)
  have hflags : w.flags = [] := by
    have hhead : (Tasks.own 0 (Tasks.ran Reviews.step (opened [] [] ownedBySeven)
        (flaggedBetween ++ []))).head?.map (fun entry => entry.1.flags) = some [] := by
      decide
    rw [hw] at hhead
    exact Option.some.inj hhead
  rw [hflags, if_neg (by decide)] at hwritten
  exact absurd hwritten (by decide +kernel)

end Decisions

end BanchoPrism.Anticheat
