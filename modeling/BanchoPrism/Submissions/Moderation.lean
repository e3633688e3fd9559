import BanchoPrism.Library.Traces
import BanchoPrism.Submissions.Reviewing

namespace BanchoPrism.Submissions

open Library
open Scores (RankedStatus)

abbrev Reviews := Tasks Server Update.Line

abbrev Review := Tasks.Event Update

abbrev Reviewed := Tasks.Ran Server Update.Line

def Update.lines (u : Update) : List Update.Line := [.fetchSubmission u]

def Reviews.step (t : Reviews) (e : Review) : Reviews :=
  Tasks.step Update.lines Update.Line.perform t e

def Store.reviewState (st : Store) (setId : Int) : Option ReviewState :=
  (st.fetchSubmission setId).map MapSubmission.reviewState

namespace Update

-- The call that a line is of.
def Line.call : Line → Update
  | fetchSubmission u | review u _ | fetchReviewed u _ | fetchMaps u _ | setStatus u _ _ _ _
  | refetch u _ => u

-- The status that a line gives to a map, and its call.
def Line.sets (id : Int) : Line → Option (Update × RankedStatus)
  | setStatus u _ status row _ => if row.id = id then some (u, status) else none
  | _ => none

-- Someone who does not review asks for Loved.
def wantsLoved (u : Update) : Prop := u.actor.reviews = false ∧ u.status = some .Loved

-- A line past the checks of a call that wants Loved.
def Line.Loves : Line → Prop
  | fetchSubmission _ => False
  | line => line.call.wantsLoved

-- A review that takes an approval back.
def Line.withdraws (setId : Int) : Line → Bool
  | review u _ => u.setId = setId && u.reviewState.isSome && u.reviewState ≠ some .APPROVED
  | _ => false

-- What the checks have let through.
def Permitted (u : Update) : Prop :=
  u.actor.reviews ∨ u.writesReview = false ∧ ∀ status ∈ u.status, status ∈ ownerAssignableStatuses

def Line.Formed : Line → Prop
  | fetchSubmission _ => True
  | review u _ | fetchReviewed u _ => u.actor.reviews
  | setStatus u _ status _ _ => u.Permitted ∧ u.effectiveStatus = some status
  | fetchMaps u _ | refetch u _ => u.Permitted

-- A line of a call that has still to set a map of a set to Pending.
def Line.settles (setId id : Int) : Line → Bool
  | fetchReviewed u _ | fetchMaps u _ => u.setId = setId && u.reviewState = some .REJECTED
  | setStatus _ _ status row left => status = .Pending && id ∈ (row :: left).map Beatmaps.Beatmap.id
  | _ => false

-- The maps that a line and those after it give a status to.
def Line.targets : Line → List Beatmaps.Beatmap
  | setStatus _ _ _ row left => row :: left
  | _ => []

def Line.touch (line : Line) (row : Beatmaps.Beatmap) : Beatmaps.Beatmap :=
  match line.sets row.id with
  | some (_, status) => { row with status := status }
  | none => row

end Update

-- The line of a run that was the last to give a status to a map.
def lastSet (trace : List Reviewed) (id : Int) : Option Reviewed :=
  (trace.filter fun r => (r.line.sets id).isSome).getLast?

-- When the call of a task read its submission the set was approved, and it is still, unless
-- someone who reviews has taken that back since.
def ApprovedFor (i : Nat) (u : Update) (trace : List Reviewed) (st : Store) : Prop :=
  ∃ (before : List Reviewed) (read : Reviewed) (after : List Reviewed),
    trace = before ++ read :: after ∧ read.task = i ∧
    read.line = .fetchSubmission u ∧ read.world.store.reviewState u.setId = some .APPROVED ∧
      (st.reviewState u.setId = some .APPROVED ∨
        ∃ r ∈ after, r.line.withdraws u.setId ∧ r.line.call.actor.reviews)

-- No set is rejected while a call that has passed its checks has still to write Loved to it.
def Uncrossed (line : Update.Line) (_ : Server) (others : List (List Update.Line)) : Prop :=
  match line with
  | .review u _ =>
      u.reviewState = some .REJECTED →
        ∀ task ∈ others, ∀ other ∈ task, ¬(other.Loves ∧ other.call.setId = u.setId)
  | _ => True

instance (u : Update) : Decidable u.wantsLoved :=
  inferInstanceAs (Decidable (u.actor.reviews = false ∧ u.status = some .Loved))

instance (line : Update.Line) : Decidable line.Loves := by
  cases line <;> unfold Update.Line.Loves <;> infer_instance

instance (line : Update.Line) (s : Server) (others : List (List Update.Line)) :
    Decidable (Uncrossed line s others) := by
  cases line <;> unfold Uncrossed <;> infer_instance

section Checks

variable {u : Update} {submission : MapSubmission} {st : Store}

theorem permitted_of_refusal (h : u.refusal submission = none) :
    u.Permitted ∧ (u.writesReview → u.actor.reviews) ∧
      (u.actor.reviews = false → u.status = some .Loved → submission.reviewState = .APPROVED) := by
  unfold Update.refusal at h
  split at h
  · cases h
  · split at h
    · cases h
    · split at h
      · cases h
      · rename_i hreview
        cases hactor : u.actor.reviews with
        | true => exact ⟨Or.inl hactor, fun _ => rfl, fun hfalse => by cases hfalse⟩
        | false =>
          rw [hactor] at hreview h
          have hwrites : u.writesReview = false := by simpa using hreview
          refine ⟨Or.inr ⟨hwrites, fun status hstatus => ?_⟩, fun htrue => ?_, fun _ hloved => ?_⟩
          · rw [Option.mem_def.mp hstatus] at h
            by_contra hout
            simp only [Option.bind_some, checkStatusPermitted, hout, Bool.false_eq_true, if_false,
              not_false_eq_true, if_true] at h
            split at h <;> cases h
          · rw [hwrites] at htrue
            cases htrue
          · rw [hloved] at h
            by_contra hstate
            simp [checkStatusPermitted, hstate, staffOnlyStatuses, ownerAssignableStatuses] at h

theorem effectiveStatus_of_owner (h : u.Permitted) (hactor : u.actor.reviews = false) :
    u.effectiveStatus = u.status := by
  rcases h with hreviews | ⟨hwrites, -⟩
  · rw [hactor] at hreviews
    cases hreviews
  · have hnone : u.reviewState = none := by
      simpa [Update.writesReview] using (Bool.or_eq_false_iff.mp hwrites).1
    rw [Update.effectiveStatus, hnone]
    simp

theorem reviewState_reviewSet (setId : Int) :
    (st.reviewSet u).reviewState setId =
      if u.setId = setId then (st.reviewState setId).map u.reviewState.getD
      else st.reviewState setId := by
  have hfetch : (st.reviewSet u).fetchSubmission setId =
      if u.setId = setId then (st.fetchSubmission setId).map fun row => row.review u
      else st.fetchSubmission setId :=
    @fetchBy_update _ _ _ MapSubmission.setId st.submissions setId (fun row => row.review u)
      (fun _ => rfl) u.setId
  rw [Store.reviewState, hfetch]
  split
  · rw [Option.map_map, Store.reviewState, Option.map_map]
    rfl
  · rfl

-- The review state changes by a review of the set, and by nothing else.
theorem reviewState_effect (line : Update.Line) (setId : Int) :
    (line.effect st).reviewState setId = st.reviewState setId ∨
      ∃ u submission, line = .review u submission ∧ u.setId = setId ∧ u.reviewState.isSome ∧
        (line.effect st).reviewState setId = (st.reviewState setId).bind fun _ => u.reviewState := by
  cases line with
  | review u submission =>
    simp only [Update.Line.effect, reviewState_reviewSet]
    by_cases hset : u.setId = setId
    · rw [if_pos hset]
      cases hstate : u.reviewState with
      | none =>
        left
        cases st.reviewState setId <;> rfl
      | some state =>
        refine Or.inr ⟨u, submission, rfl, hset, by rw [hstate]; rfl, ?_⟩
        rw [hstate]
        cases st.reviewState setId <;> rfl
    · rw [if_neg hset]
      exact Or.inl rfl
  | _ => exact Or.inl rfl

theorem maps_effect (line : Update.Line) : (line.effect st).maps = st.maps.map line.touch := by
  have hsame (line : Update.Line) (hnone : ∀ id, line.sets id = none) :
      st.maps.map line.touch = st.maps := by
    have hid : line.touch = id := funext fun row => by simp [Update.Line.touch, hnone]
    rw [hid, List.map_id]
  cases line with
  | setStatus u submission status row left =>
    refine List.map_congr_left fun other _ => ?_
    simp only [Update.Line.touch, Update.Line.sets]
    by_cases hid : other.id = row.id
    · rw [if_pos hid, if_pos hid.symm]
    · rw [if_neg hid, if_neg (Ne.symm hid)]
  | _ => exact (hsame _ fun _ => rfl).symm

section Touch

variable (line : Update.Line) (row : Beatmaps.Beatmap)

@[simp] theorem touch_id : (line.touch row).id = row.id := by
  unfold Update.Line.touch
  split <;> rfl

@[simp] theorem touch_setId : (line.touch row).setId = row.setId := by
  unfold Update.Line.touch
  split <;> rfl

@[simp] theorem touch_server : (line.touch row).server = row.server := by
  unfold Update.Line.touch
  split <;> rfl

end Touch

theorem mem_fetchMaps_effect {line : Update.Line} {setId : Int} {row : Beatmaps.Beatmap}
    (h : row ∈ (line.effect st).fetchMaps setId) :
    ∃ old ∈ st.fetchMaps setId, row = line.touch old := by
  obtain ⟨hrow, hset, hserver⟩ := mem_fetchMaps.mp h
  rw [maps_effect] at hrow
  obtain ⟨old, hold, rfl⟩ := List.mem_map.mp hrow
  rw [touch_setId] at hset
  rw [touch_server] at hserver
  exact ⟨old, mem_fetchMaps.mpr ⟨hold, hset, hserver⟩, rfl⟩

theorem lastSet_append (trace : List Reviewed) (r : Reviewed) (id : Int) :
    lastSet (trace ++ [r]) id = if (r.line.sets id).isSome then some r else lastSet trace id := by
  rw [lastSet, List.filter_append, List.getLast?_append, List.filter_cons, List.filter_nil]
  split <;> rfl

theorem mem_of_lastSet {trace : List Reviewed} {id : Int} {r : Reviewed}
    (h : lastSet trace id = some r) : r ∈ trace :=
  (List.mem_filter.mp (List.mem_of_getLast? h)).1

end Checks

section Steps

variable {s : Server} {trace : List Reviewed} {u : Update}

theorem ApprovedFor.ran {j : Nat} {line : Update.Line} (h : ApprovedFor j u trace s.store)
    (hformed : line.Formed) (i : Nat) :
    ApprovedFor j u (trace ++ [{ task := i, world := s, line := line }]) (line.effect s.store) := by
  obtain ⟨before, read, after, rfl, htask, hread, hseen, hnow⟩ := h
  refine ⟨before, read, after ++ [{ task := i, world := s, line := line }], by simp, htask, hread,
    hseen, ?_⟩
  rcases hnow with hstate | ⟨r, hr, hwithdraws⟩
  · rcases @reviewState_effect s.store line u.setId with
      hsame | ⟨u', submission, rfl, hset, hsome, hafter⟩
    · exact Or.inl (hsame.trans hstate)
    · by_cases happroved : u'.reviewState = some .APPROVED
      · left
        rw [hafter, hstate, happroved]
        rfl
      · right
        refine ⟨_, List.mem_append_right _ List.mem_cons_self, ?_, hformed⟩
        simp [Update.Line.withdraws, hset, hsome, happroved]
  · exact Or.inr ⟨r, List.mem_append_left _ hr, hwithdraws⟩

theorem formed_each (submission : MapSubmission) {status : RankedStatus} (maps : List Beatmaps.Beatmap)
    (hpermitted : u.Permitted) (hstatus : u.effectiveStatus = some status) :
    (Update.Line.each u submission status maps).Formed := by
  cases maps with
  | nil => exact hpermitted
  | cons row left => exact ⟨hpermitted, hstatus⟩

@[simp] theorem call_each (submission : MapSubmission) (status : RankedStatus)
    (maps : List Beatmaps.Beatmap) : (Update.Line.each u submission status maps).call = u := by
  cases maps <;> rfl

@[simp] theorem loves_each (submission : MapSubmission) (status : RankedStatus)
    (maps : List Beatmaps.Beatmap) :
    (Update.Line.each u submission status maps).Loves ↔ u.wantsLoved := by
  cases maps <;> exact Iff.rfl

-- What a line goes on with is of the same call, and has passed the same checks.
theorem formed_perform {line : Update.Line} (h : line.Formed) {next : Update.Line}
    (hnext : next ∈ (line.perform s).2) :
    next.Formed ∧ next.call = line.call ∧
      (next.Loves → line.Loves ∨ line = .fetchSubmission line.call ∧
        s.store.reviewState line.call.setId = some .APPROVED) := by
  cases line with
  | fetchSubmission u =>
    simp only [Update.Line.perform] at hnext
    split at hnext
    · cases hnext
    · rename_i submission hfetch
      split at hnext
      · cases hnext
      · rename_i hrefusal
        obtain ⟨hpermitted, hwrites, happroved⟩ := permitted_of_refusal hrefusal
        have hstate : s.store.reviewState u.setId = some submission.reviewState := by
          rw [Store.reviewState, hfetch]
          rfl
        rw [List.mem_singleton] at hnext
        split at hnext
        · rename_i hreview
          subst hnext
          refine ⟨hwrites hreview, rfl, fun hloves => ?_⟩
          have hactor : u.actor.reviews = false := hloves.1
          rw [hwrites hreview] at hactor
          cases hactor
        · subst hnext
          refine ⟨hpermitted, rfl, fun hloves => Or.inr ⟨rfl, ?_⟩⟩
          exact hstate.trans (congrArg some (happroved hloves.1 hloves.2))
  | review u submission =>
    cases List.mem_singleton.mp hnext
    exact ⟨h, rfl, Or.inl⟩
  | fetchReviewed u submission =>
    cases List.mem_singleton.mp hnext
    exact ⟨Or.inl h, rfl, Or.inl⟩
  | fetchMaps u submission =>
    simp only [Update.Line.perform] at hnext
    split at hnext
    · cases hnext
    · rename_i status hstatus
      cases List.mem_singleton.mp hnext
      exact ⟨formed_each submission _ h hstatus, call_each submission status _,
        fun hloves => Or.inl ((loves_each submission status _).mp hloves)⟩
  | setStatus u submission status row left =>
    cases List.mem_singleton.mp hnext
    exact ⟨formed_each submission left h.1 h.2, call_each submission status left,
      fun hloves => Or.inl ((loves_each submission status left).mp hloves)⟩
  | refetch u submission => cases hnext

end Steps

theorem targets_each (submission : MapSubmission) (status : RankedStatus) (maps : List Beatmaps.Beatmap) :
    (Update.Line.each u submission status maps).targets = maps := by
  cases maps <;> rfl

-- What a line goes on to give a status to are maps of its set.
theorem targets_perform {line next : Update.Line} (hnext : next ∈ (line.perform s).2)
    {target : Beatmaps.Beatmap} (htarget : target ∈ next.targets) :
    target ∈ s.store.fetchMaps line.call.setId ∨ target ∈ line.targets := by
  cases line with
  | fetchSubmission u =>
    simp only [Update.Line.perform] at hnext
    split at hnext
    · cases hnext
    · split at hnext
      · cases hnext
      · rw [List.mem_singleton] at hnext
        split at hnext <;> (subst hnext; cases htarget)
  | fetchMaps u submission =>
    simp only [Update.Line.perform] at hnext
    split at hnext
    · cases hnext
    · cases List.mem_singleton.mp hnext
      rw [targets_each] at htarget
      exact Or.inl htarget
  | setStatus u submission status row left =>
    cases List.mem_singleton.mp hnext
    rw [targets_each] at htarget
    exact Or.inr (List.mem_cons_of_mem row htarget)
  | refetch u submission => cases hnext
  | _ =>
    cases List.mem_singleton.mp hnext
    cases htarget

-- A call that has still to set a map to Pending either does so now, or goes on to.
theorem settles_perform {line : Update.Line} {setId id : Int} (h : line.settles setId id)
    (hsets : line.sets id = none) (hid : id ∈ (s.store.fetchMaps setId).map Beatmaps.Beatmap.id) :
    ∃ next ∈ (line.perform s).2, next.settles setId id := by
  have heach {u : Update} (submission : MapSubmission) {maps : List Beatmaps.Beatmap}
      (hmem : id ∈ maps.map Beatmaps.Beatmap.id) :
      (Update.Line.each u submission .Pending maps).settles setId id := by
    cases maps with
    | nil => cases hmem
    | cons row left => simpa [Update.Line.each, Update.Line.settles] using hmem
  cases line with
  | fetchReviewed u submission => exact ⟨_, List.mem_cons_self, h⟩
  | fetchMaps u submission =>
    simp only [Update.Line.settles, Bool.and_eq_true, decide_eq_true_eq] at h
    obtain ⟨hset, hstate⟩ := h
    have hstatus : u.effectiveStatus = some .Pending := if_pos hstate
    simp only [Update.Line.perform, hstatus]
    subst hset
    exact ⟨_, List.mem_cons_self, heach submission hid⟩
  | setStatus u submission status row left =>
    simp only [Update.Line.settles, Bool.and_eq_true, decide_eq_true_eq] at h
    obtain ⟨rfl, hmem⟩ := h
    refine ⟨_, List.mem_cons_self, heach submission ?_⟩
    rcases List.mem_cons.mp hmem with rfl | hleft
    · simp [Update.Line.sets] at hsets
    · exact hleft
  | _ => cases h

section Runs

-- What every run keeps, in whatever order its calls go on.
structure Checked (t : Reviews) (trace : List Reviewed) : Prop where
  formed : ∀ task ∈ t.running, ∀ line ∈ task, line.Formed
  ran : ∀ r ∈ trace, r.line.Formed
  approved : ∀ i task, t.running[i]? = some task → ∀ line ∈ task, line.Loves →
    ApprovedFor i line.call trace t.world.store
  loved : ∀ r ∈ trace, r.line.Loves → ApprovedFor r.task r.line.call trace t.world.store

variable {t : Reviews} {trace : List Reviewed}

theorem Checked.begin (h : Checked t trace) (u : Update) :
    Checked { t with running := t.running ++ [u.lines] } trace := by
  refine ⟨fun task htask line hline => ?_, h.ran, fun i task htask line hline hloves => ?_, h.loved⟩
  · rcases List.mem_append.mp htask with hold | hnew
    · exact h.formed task hold line hline
    · rw [List.mem_singleton.mp hnew] at hline
      rw [List.mem_singleton.mp hline]
      trivial
  · rcases Nat.lt_or_ge i t.running.length with hi | hi
    · rw [List.getElem?_append_left hi] at htask
      exact h.approved i task htask line hline hloves
    · rw [List.getElem?_append_right hi] at htask
      rw [List.mem_singleton.mp (List.mem_of_getElem? htask)] at hline
      rw [List.mem_singleton.mp hline] at hloves
      exact hloves.elim

theorem Checked.resume (h : Checked t trace) {i : Nat} {line : Update.Line}
    {rest : List Update.Line} (hnext : Tasks.next t.running i = some (line, rest)) :
    Checked
      { world := (line.perform t.world).1
        running := t.running.set i ((line.perform t.world).2 ++ rest) }
      (trace ++ [{ task := i, world := t.world, line := line }]) := by
  have hmem := Tasks.mem_of_next hnext
  have hformed := h.formed _ hmem line List.mem_cons_self
  have hstill {j : Nat} {u : Update} (happroved : ApprovedFor j u trace t.world.store) :
      ApprovedFor j u (trace ++ [{ task := i, world := t.world, line := line }])
        (line.perform t.world).1.store := by
    rw [Update.store_perform]
    exact happroved.ran hformed i
  refine ⟨fun task htask other hother => ?_, fun r hr => ?_,
    fun j task htask other hother hloves => ?_, fun r hr hloves => ?_⟩
  · rcases Tasks.mem_lines_set hnext htask hother with hnew | ⟨task', htask', hother'⟩
    · exact (formed_perform hformed hnew).1
    · obtain ⟨task'', htask'', hother''⟩ := Tasks.mem_lines_of_rest hnext htask' hother'
      exact h.formed task'' htask'' other hother''
  · rcases List.mem_append.mp hr with hold | hnew
    · exact h.ran r hold
    · rw [List.mem_singleton.mp hnew]
      exact hformed
  · have hown := h.approved i _ (Tasks.next_eq_some.mp hnext) line List.mem_cons_self
    rcases Tasks.getElem?_lines_set hnext htask hother with ⟨rfl, hnew⟩ | ⟨old, hold, hother'⟩
    · obtain ⟨-, hcall, hfrom⟩ := formed_perform hformed hnew
      rw [hcall]
      rcases hfrom hloves with hsame | ⟨hfetch, hstate⟩
      · exact hstill (hown hsame)
      · refine ⟨trace, _, [], rfl, rfl, hfetch, hstate, Or.inl ?_⟩
        rw [hfetch] at hstate ⊢
        dsimp only
        rw [Update.store_perform]
        exact hstate
    · exact hstill (h.approved j old hold other hother' hloves)
  · rcases List.mem_append.mp hr with hold | hnew
    · exact hstill (h.loved r hold hloves)
    · rw [List.mem_singleton.mp hnew] at hloves ⊢
      exact hstill (h.approved i _ (Tasks.next_eq_some.mp hnext) line List.mem_cons_self hloves)

-- The status of a map is one that someone who reviews has passed.
def ChosenByReviewer (trace : List Reviewed) (row : Beatmaps.Beatmap) : Prop :=
  ∃ r u, lastSet trace row.id = some r ∧ r.line.sets row.id = some (u, row.status) ∧
    u.actor.reviews ∧ u.status = some row.status

-- What the runs keep in which no rejection crosses a call that wants Loved.
structure Settled (t : Reviews) (trace : List Reviewed) : Prop where
  ids : (t.world.store.maps.map Beatmaps.Beatmap.id).Nodup
  rejected : ∀ setId, t.world.store.reviewState setId = some .REJECTED →
    ∀ row ∈ t.world.store.fetchMaps setId,
      row.status = .Pending ∨ ChosenByReviewer trace row ∨
        Tasks.Owed (Update.Line.settles setId row.id) t.running
  unrejected : ∀ task ∈ t.running, ∀ line ∈ task, line.Loves →
    t.world.store.reviewState line.call.setId ≠ some .REJECTED
  targets : ∀ task ∈ t.running, ∀ line ∈ task, ∀ target ∈ line.targets,
    ∀ row ∈ t.world.store.maps, row.id = target.id → row.setId = line.call.setId

theorem Settled.begin (h : Settled t trace) (u : Update) :
    Settled { t with running := t.running ++ [u.lines] } trace := by
  refine ⟨h.ids, fun setId hstate row hrow => ?_, fun task htask line hline hloves => ?_,
    fun task htask line hline target htarget => ?_⟩
  · rcases h.rejected setId hstate row hrow with hpending | hchosen | howed
    · exact Or.inl hpending
    · exact Or.inr (Or.inl hchosen)
    · exact Or.inr (Or.inr (howed.append u.lines))
  · rcases List.mem_append.mp htask with hold | hnew
    · exact h.unrejected task hold line hline hloves
    · rw [List.mem_singleton.mp hnew] at hline
      rw [List.mem_singleton.mp hline] at hloves
      exact hloves.elim
  · rcases List.mem_append.mp htask with hold | hnew
    · exact h.targets task hold line hline target htarget
    · rw [List.mem_singleton.mp hnew] at hline
      rw [List.mem_singleton.mp hline] at htarget
      cases htarget

-- A status that is set to a map of a rejected set is Pending, or someone's who reviews.
theorem chosen_of_sets (hchecked : Checked t trace) (h : Settled t trace) {i : Nat}
    {line : Update.Line} {rest : List Update.Line}
    (hnext : Tasks.next t.running i = some (line, rest)) {row : Beatmaps.Beatmap} {setId : Int}
    (hrow : row ∈ t.world.store.fetchMaps setId)
    (hstate : t.world.store.reviewState setId = some .REJECTED) {u : Update}
    {status : RankedStatus} (hsets : line.sets row.id = some (u, status)) :
    status = .Pending ∨ u.actor.reviews ∧ u.status = some status := by
  have hmem := Tasks.mem_of_next hnext
  have hformed := hchecked.formed _ hmem line List.mem_cons_self
  cases line with
  | setStatus u' submission status' target left =>
    simp only [Update.Line.sets] at hsets
    split at hsets
    · rename_i hid
      cases hsets
      obtain ⟨hpermitted, heffective⟩ := hformed
      by_cases hpending : status = .Pending
      · exact Or.inl hpending
      · right
        cases hactor : u.actor.reviews with
        | true =>
          refine ⟨rfl, ?_⟩
          unfold Update.effectiveStatus at heffective
          split at heffective
          · cases heffective
            exact absurd rfl hpending
          · exact heffective
        | false =>
          have hstatus := (effectiveStatus_of_owner hpermitted hactor).symm.trans heffective
          have hloved : status = .Loved := by
            rcases hpermitted with hreviews | ⟨-, hassignable⟩
            · rw [hactor] at hreviews
              cases hreviews
            · have hmem := hassignable status hstatus
              simpa [ownerAssignableStatuses, hpending] using hmem
          subst hloved
          have hset : row.setId = u.setId := h.targets _ hmem _ List.mem_cons_self target
            List.mem_cons_self row (mem_fetchMaps.mp hrow).1 hid.symm
          rw [← (mem_fetchMaps.mp hrow).2.1, hset] at hstate
          exact absurd hstate (h.unrejected _ hmem _ List.mem_cons_self ⟨hactor, hstatus⟩)
    · cases hsets
  | _ => cases hsets

theorem Settled.resume (hchecked : Checked t trace) (h : Settled t trace) {i : Nat}
    {line : Update.Line} {rest : List Update.Line}
    (hnext : Tasks.next t.running i = some (line, rest))
    (huncrossed : Uncrossed line t.world (t.running.set i rest)) :
    Settled
      { world := (line.perform t.world).1
        running := t.running.set i ((line.perform t.world).2 ++ rest) }
      (trace ++ [{ task := i, world := t.world, line := line }]) := by
  have hmem := Tasks.mem_of_next hnext
  have hformed := hchecked.formed _ hmem line List.mem_cons_self
  refine ⟨?_, fun setId hstate row hrow => ?_, fun task htask other hother hloves hstate => ?_,
    fun task htask other hother target htarget row hrow hid => ?_⟩
  · dsimp only
    rw [Update.store_perform, maps_effect]
    exact nodup_map_of_same h.ids (touch_id line)
  · dsimp only at hstate hrow ⊢
    rw [Update.store_perform] at hstate hrow
    obtain ⟨old, hold, rfl⟩ := mem_fetchMaps_effect hrow
    rcases @reviewState_effect t.world.store line setId with
      hsame | ⟨u, submission, rfl, rfl, -, hafter⟩
    · rw [hsame] at hstate
      cases hsets : line.sets old.id with
      | some x =>
        obtain ⟨u, status⟩ := x
        have htouch : (line.touch old).status = status := by simp [Update.Line.touch, hsets]
        rcases chosen_of_sets hchecked h hnext hold hstate hsets with hpending | hchosen
        · exact Or.inl (htouch.trans hpending)
        · refine Or.inr (Or.inl ⟨{ task := i, world := t.world, line := line }, u, ?_, ?_,
            hchosen.1, htouch ▸ hchosen.2⟩)
          · rw [lastSet_append, touch_id, hsets]
            rfl
          · rw [touch_id, hsets, htouch]
      | none =>
        have htouch : line.touch old = old := by simp [Update.Line.touch, hsets]
        rw [htouch]
        rcases h.rejected setId hstate old hold with hpending | ⟨r, u, hlast, hchosen⟩ | howed
        · exact Or.inl hpending
        · refine Or.inr (Or.inl ⟨r, u, ?_, hchosen⟩)
          rw [lastSet_append, hsets]
          exact hlast
        · rcases howed.of_next hnext with hsettles | hothers
          · obtain ⟨next, hnextmem, hnextsettles⟩ :=
              settles_perform (s := t.world) hsettles hsets (List.mem_map_of_mem hold)
            exact Or.inr (Or.inr
              (Tasks.Owed.of_lines hnext (List.mem_append_left rest hnextmem) hnextsettles))
          · exact Or.inr (Or.inr (hothers.extend _))
    · right
      right
      refine Tasks.Owed.of_lines hnext (List.mem_append_left rest List.mem_cons_self) ?_
      have hrejected : u.reviewState = some .REJECTED := by
        rw [hafter] at hstate
        obtain ⟨-, -, hu⟩ := Option.bind_eq_some_iff.mp hstate
        exact hu
      simp [Update.Line.settles, hrejected]
  · dsimp only at hstate
    rw [Update.store_perform] at hstate
    rcases @reviewState_effect t.world.store line other.call.setId with
      hsame | ⟨u, submission, rfl, hset, -, hafter⟩
    · rw [hsame] at hstate
      rcases Tasks.mem_lines_set hnext htask hother with hnew | ⟨task', htask', hother'⟩
      · obtain ⟨-, hcall, hfrom⟩ := formed_perform hformed hnew
        rw [hcall] at hstate
        rcases hfrom hloves with hline | ⟨-, happroved⟩
        · exact h.unrejected _ hmem line List.mem_cons_self hline hstate
        · rw [happroved] at hstate
          cases hstate
      · obtain ⟨task'', htask'', hother''⟩ := Tasks.mem_lines_of_rest hnext htask' hother'
        exact h.unrejected task'' htask'' other hother'' hloves hstate
    · rcases Tasks.mem_lines_set hnext htask hother with hnew | ⟨task', htask', hother'⟩
      · obtain ⟨-, -, hfrom⟩ := formed_perform hformed hnew
        rcases hfrom hloves with hline | ⟨hfetch, -⟩
        · have hactor : u.actor.reviews = false := hline.1
          have hreviews : u.actor.reviews := hformed
          rw [hactor] at hreviews
          cases hreviews
        · cases hfetch
      · rw [hafter] at hstate
        obtain ⟨-, -, hrejected⟩ := Option.bind_eq_some_iff.mp hstate
        exact huncrossed hrejected task' htask' other hother' ⟨hloves, hset.symm⟩
  · dsimp only at hrow
    rw [Update.store_perform, maps_effect] at hrow
    obtain ⟨old, hold, rfl⟩ := List.mem_map.mp hrow
    rw [touch_id] at hid
    rw [touch_setId]
    rcases Tasks.mem_lines_set hnext htask hother with hnew | ⟨task', htask', hother'⟩
    · rw [(formed_perform hformed hnew).2.1]
      rcases targets_perform hnew htarget with hread | htarget
      · obtain ⟨hmaps, hset, -⟩ := mem_fetchMaps.mp hread
        rw [List.inj_on_of_nodup_map h.ids hold hmaps hid]
        exact hset
      · exact h.targets _ hmem line List.mem_cons_self target htarget old hold hid
    · obtain ⟨task'', htask'', hother''⟩ := Tasks.mem_lines_of_rest hnext htask' hother'
      exact h.targets task'' htask'' other hother'' target htarget old hold hid

variable {s : Server} {run : List Review}

theorem checked_run (s : Server) (run : List Review) :
    Checked (runFrom Reviews.step { world := s, running := [] } run)
      (Tasks.ran Reviews.step { world := s, running := [] } run) := by
  have hstart : Checked { world := s, running := [] } [] :=
    ⟨fun _ htask => absurd htask List.not_mem_nil, fun _ hr => absurd hr List.not_mem_nil,
      fun _ _ htask => by simp at htask, fun _ hr => absurd hr List.not_mem_nil⟩
  have hany : Guarded Reviews.step (Tasks.Meets fun _ _ _ => True) { world := s, running := [] } run :=
    Guarded.mono (fun t e _ => Tasks.Meets.of_forall (fun _ _ _ => trivial) t e)
      (Guarded.of_forall fun _ _ => trivial)
  exact Tasks.ran_invariant Checked (fun _ _ u h => h.begin u)
    (fun _ _ _ _ _ h hnext _ => h.resume hnext) hstart hany

theorem settled_run (hids : (s.store.maps.map Beatmaps.Beatmap.id).Nodup)
    (hrejected : ∀ setId, s.store.reviewState setId = some .REJECTED →
      ∀ row ∈ s.store.fetchMaps setId, row.status = .Pending)
    (hg : Guarded Reviews.step (Tasks.Meets Uncrossed) { world := s, running := [] } run) :
    Settled (runFrom Reviews.step { world := s, running := [] } run)
      (Tasks.ran Reviews.step { world := s, running := [] } run) := by
  have hstart : Checked { world := s, running := [] } [] ∧ Settled { world := s, running := [] } [] :=
    ⟨checked_run s [], hids, fun setId hstate row hrow => Or.inl (hrejected setId hstate row hrow),
      fun _ htask => absurd htask List.not_mem_nil, fun _ htask => absurd htask List.not_mem_nil⟩
  have hrun := Tasks.ran_invariant (fun t trace => Checked t trace ∧ Settled t trace)
    (fun _ _ u h => ⟨h.1.begin u, h.2.begin u⟩)
    (fun _ _ _ _ _ h hnext huncrossed =>
      ⟨h.1.resume hnext, h.2.resume h.1 hnext huncrossed⟩) hstart hg
  exact hrun.2

-- What is asked of the calls that update submissions, after a run.
structure Moderated (s : Server) (run : List Review) : Prop where
  -- Someone who does not review sets no map to a status for those who do.
  unranked : ∀ r ∈ Tasks.ran Reviews.step { world := s, running := [] } run,
    r.line.call.actor.reviews = false → ∀ row ∈ (r.line.perform r.world).1.store.maps,
      row.status ∈ staffOnlyStatuses → row ∈ r.world.store.maps
  loved : ∀ id r u, lastSet (Tasks.ran Reviews.step { world := s, running := [] } run) id =
      some r → r.line.sets id = some (u, .Loved) → u.actor.reviews = false →
    ApprovedFor r.task u (Tasks.ran Reviews.step { world := s, running := [] } run)
      (runFrom Reviews.step { world := s, running := [] } run).world.store
  rejected : Guarded Reviews.step (Tasks.Meets Uncrossed) { world := s, running := [] } run →
    let t := runFrom Reviews.step { world := s, running := [] } run
    Tasks.Idle t.running → ∀ setId, t.world.store.reviewState setId = some .REJECTED →
      ∀ row ∈ t.world.store.fetchMaps setId,
        row.status = .Pending ∨
          ChosenByReviewer (Tasks.ran Reviews.step { world := s, running := [] } run) row

theorem call_of_sets {line : Update.Line} {id : Int} {u : Update} {status : RankedStatus}
    (hsets : line.sets id = some (u, status)) : line.call = u := by
  cases line with
  | setStatus u' submission status' row left =>
    simp only [Update.Line.sets] at hsets
    split at hsets <;> cases hsets
    rfl
  | _ => cases hsets

-- Someone who does not review sets a map to Pending or to Loved.
theorem owner_sets {line : Update.Line} (h : line.Formed) {id : Int} {u : Update}
    {status : RankedStatus} (hsets : line.sets id = some (u, status))
    (hactor : u.actor.reviews = false) :
    status ∈ ownerAssignableStatuses ∧ (status = .Loved → line.Loves) := by
  cases line with
  | setStatus u' submission status' row left =>
    simp only [Update.Line.sets] at hsets
    split at hsets
    · cases hsets
      have hstatus := (effectiveStatus_of_owner h.1 hactor).symm.trans h.2
      rcases h.1 with hreviews | ⟨-, hassignable⟩
      · rw [hactor] at hreviews
        cases hreviews
      · exact ⟨hassignable status hstatus, fun hloved => ⟨hactor, hloved ▸ hstatus⟩⟩
    · cases hsets
  | _ => cases hsets

theorem moderated_run (hids : (s.store.maps.map Beatmaps.Beatmap.id).Nodup)
    (hrejected : ∀ setId, s.store.reviewState setId = some .REJECTED →
      ∀ row ∈ s.store.fetchMaps setId, row.status = .Pending) (run : List Review) :
    Moderated s run := by
  have hchecked := checked_run s run
  refine ⟨fun r hr hactor row hrow hstaff => ?_, fun id r u hlast hsets hactor => ?_,
    fun hg hidle setId hstate row hrow => ?_⟩
  · rw [Update.store_perform, maps_effect] at hrow
    obtain ⟨old, hold, rfl⟩ := List.mem_map.mp hrow
    unfold Update.Line.touch at hstaff ⊢
    split at hstaff
    · rename_i u status hsets
      rw [call_of_sets hsets] at hactor
      have hassignable := (owner_sets (hchecked.ran r hr) hsets hactor).1
      exact absurd hstaff (not_staffOnly hassignable)
    · exact hold
  · have hr := mem_of_lastSet hlast
    have hloved := hchecked.loved r hr ((owner_sets (hchecked.ran r hr) hsets hactor).2 rfl)
    rwa [call_of_sets hsets] at hloved
  · rcases (settled_run hids hrejected hg).rejected setId hstate row hrow with
      hpending | hchosen | howed
    · exact Or.inl hpending
    · exact Or.inr hchosen
    · exact absurd howed hidle.not_owed

theorem fetchSubmission_hostedSet {setId : Int} {submission : MapSubmission}
    (h : hostedSet.fetchSubmission setId = some submission) : submission.reviewState = .APPROVED := by
  have hmem := mem_of_fetchBy h
  rw [hostedSet, List.mem_singleton] at hmem
  rw [hmem]

theorem not_rejected_hostedSet (setId : Int) : hostedSet.reviewState setId ≠ some .REJECTED := by
  intro hstate
  obtain ⟨submission, hfetch, hrejected⟩ := Option.map_eq_some_iff.mp hstate
  rw [fetchSubmission_hostedSet hfetch] at hrejected
  cases hrejected

-- A moderator rejects a set, and then ranks it in a call of its own.
def rejectedThenRanked : List Review :=
  List.flatten
    [[.begin { actor := moderator, setId := 2000000000, reviewState := some .REJECTED }],
    List.replicate 6 (.resume 0),
    [.begin { actor := moderator, setId := 2000000000, status := some .Ranked }],
    List.replicate 4 (.resume 1)]

theorem moderated_rejectedThenRanked :
    Moderated { store := hostedSet, ended := [] } rejectedThenRanked :=
  moderated_run (by decide) (fun setId hstate => absurd hstate (not_rejected_hostedSet setId)) _

theorem not_rejected_pending :
    ¬∀ (s : Server) (run : List Review), (s.store.maps.map Beatmaps.Beatmap.id).Nodup →
      (∀ setId, s.store.reviewState setId = some .REJECTED →
        ∀ row ∈ s.store.fetchMaps setId, row.status = .Pending) →
        let t := runFrom Reviews.step { world := s, running := [] } run
        Tasks.Idle t.running → ∀ setId, t.world.store.reviewState setId = some .REJECTED →
          ∀ row ∈ t.world.store.fetchMaps setId, row.status = .Pending := by
  intro h
  have hpending := h { store := hostedSet, ended := [] } rejectedThenRanked (by decide)
    (fun setId hstate => absurd hstate (not_rejected_hostedSet setId)) (by decide)
    2000000000 (by decide)
  exact absurd hpending (by decide)

end Runs

end BanchoPrism.Submissions
