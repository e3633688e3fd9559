import BanchoPrism.Submissions.Service

namespace BanchoPrism.Submissions

open Library
open Scores (ScoreRow Table)

-- The players of the scores on a map.
def players (scores : Table) (md5 : String) : List Nat :=
  (scores.rows.filter fun row => row.mapMd5 = md5).map ScoreRow.userid

section Players

variable {scores : Table} {md5 : String}

theorem mem_players {userId : Nat} :
    userId ∈ players scores md5 ↔ ∃ row ∈ scores.rows, row.mapMd5 = md5 ∧ row.userid = userId := by
  simp only [players, List.mem_map, List.mem_filter, decide_eq_true_eq, and_assoc]

-- fetch_count(map_md5)
theorem countP_total (scores : Table) (md5 : String) :
    (scores.rows.countP fun row => row.mapMd5 = md5) = (players scores md5).length := by
  rw [players, List.length_map, List.countP_eq_length_filter]

-- fetch_count(map_md5, user_id)
theorem countP_owned (scores : Table) (md5 : String) (userId : Nat) :
    (scores.rows.countP fun row => row.mapMd5 = md5 && row.userid = userId) =
      (players scores md5).count userId := by
  rw [players, List.count, List.countP_map, List.countP_filter]
  refine List.countP_congr fun row _ => ?_
  simp [and_comm]

theorem count_lt_players {userId other : Nat} (h : other ∈ players scores md5)
    (hne : other ≠ userId) :
    (players scores md5).count userId < (players scores md5).length := by
  refine lt_of_le_of_ne List.count_le_length fun heq => ?_
  exact hne (List.count_eq_length.mp heq other h).symm

theorem players_markSubmitted (scores : Table) (board : Scores.Board) :
    players (scores.markPreviousBestScoresSubmitted board) md5 = players scores md5 := by
  have hmd5 (row : ScoreRow) : (Table.demote board row).mapMd5 = row.mapMd5 := by
    unfold Table.demote
    split <;> rfl
  have huser (row : ScoreRow) : (Table.demote board row).userid = row.userid := by
    unfold Table.demote
    split <;> rfl
  have hfilter : ((fun row => decide (ScoreRow.mapMd5 row = md5)) ∘ Table.demote board) =
      fun row => decide (row.mapMd5 = md5) := funext fun row => by simp [hmd5]
  have hmap : ScoreRow.userid ∘ Table.demote board = ScoreRow.userid := funext huser
  rw [players, Table.markPreviousBestScoresSubmitted, List.filter_map, List.map_map, hfilter, hmap]
  rfl

theorem players_create (scores : Table) (row : ScoreRow) :
    players (scores.create row) md5 =
      players scores md5 ++ if row.mapMd5 = md5 then [row.userid] else [] := by
  rw [players, Table.create, List.filter_append, List.map_append]
  congr 1
  by_cases hmd5 : row.mapMd5 = md5 <;> simp [hmd5]

theorem players_persistScore (st : Store) (row : ScoreRow) :
    players (st.persistScore row).scores md5 =
      players st.scores md5 ++ if row.mapMd5 = md5 then [row.userid] else [] := by
  unfold Store.persistScore
  rw [players_create]
  split
  · rw [players_markSubmitted]
  · rfl

theorem players_delete (scores : Table) (md5s : List String) :
    players (scores.deleteManyByMapMd5s md5s) md5 =
      if md5 ∈ md5s then [] else players scores md5 := by
  simp only [players, Table.deleteManyByMapMd5s, List.filter_filter]
  split
  · rename_i hmem
    rw [List.map_eq_nil_iff, List.filter_eq_nil_iff]
    intro row _ hrow
    simp only [Bool.and_eq_true, decide_eq_true_eq] at hrow
    exact hrow.2 (hrow.1 ▸ hmem)
  · rename_i hmem
    congr 1
    refine List.filter_congr fun row _ => ?_
    by_cases hmd5 : row.mapMd5 = md5
    · simp [hmd5, hmem]
    · simp [hmd5]

-- What a line of the service makes of the players of a map.
def Line.playersAfter (md5 : String) (players : List Nat) : Line → List Nat
  | .score row => players ++ if row.mapMd5 = md5 then [row.userid] else []
  | .delete (.deleteRows d) => if md5 ∈ d.mapMd5s then [] else players
  | _ => players

theorem submit_scores (host : Host) (line : Submit.Line) (s : Server) :
    (line.perform host s).1.store.scores = s.store.scores := by
  rcases @Submit.tables_perform host s line with
    hsame | ⟨p, written, archive, store, rfl, hcommit, hstore⟩
  · exact congrArg Tables.scores hsame
  · obtain ⟨mapsets, mapset, maps, -, -, -, -, -, rfl⟩ := commitSubmission_eq_some hcommit
    rw [hstore]

theorem update_scores (line : Update.Line) (st : Store) : (line.effect st).scores = st.scores := by
  cases line <;> rfl

theorem players_perform (host : Host) (line : Line) (s : Server) :
    players (line.perform host s).1.store.scores md5 =
      line.playersAfter md5 (players s.store.scores md5) := by
  cases line with
  | submit line =>
    change players (line.perform host s).1.store.scores md5 = players s.store.scores md5
    rw [submit_scores]
  | update line =>
    change players (line.perform s).1.store.scores md5 = players s.store.scores md5
    rw [Update.store_perform, update_scores]
  | delete line =>
    change players (line.perform s).1.store.scores md5 = _
    rw [Delete.store_perform]
    cases line with
    | deleteRows d => exact players_delete s.store.scores d.mapMd5s
    | _ => rfl
  | score row => exact players_persistScore s.store row

end Players

def Deletion.owner (d : Deletion) : Nat := d.submission.submitterUserId

-- A score that a deletion does not see any more, or that it takes for another one: another
-- player's, once the total of its map is counted, or any on the map between its two counts.
def Delete.Line.blindTo (row : ScoreRow) : Delete.Line → Bool
  | countTotal d md5 left =>
      row.userid ≠ d.owner && row.mapMd5 ∈ d.mapMd5s && row.mapMd5 ∉ md5 :: left
  | countOwned d md5 left _ =>
      row.mapMd5 ∉ left && (row.mapMd5 = md5 || row.userid ≠ d.owner && row.mapMd5 ∈ d.mapMd5s)
  | deleteRows d => !d.actor.isStaff && row.userid ≠ d.owner && row.mapMd5 ∈ d.mapMd5s
  | _ => false

def Line.blindTo (row : ScoreRow) : Line → Bool
  | delete line => line.blindTo row
  | _ => false

-- No score is stored that a deletion which is under way is blind to.
def Seen (line : Line) (_ : Server) (others : List (List Line)) : Prop :=
  match line with
  | .score row => ∀ task ∈ others, ∀ other ∈ task, other.blindTo row = false
  | _ => True

instance (line : Line) (s : Server) (others : List (List Line)) : Decidable (Seen line s others) :=
  match line with
  | .score row =>
      inferInstanceAs (Decidable (∀ task ∈ others, ∀ other ∈ task, other.blindTo row = false))
  | .submit _ | .update _ | .delete _ => isTrue trivial

section Stages

variable (host : Host)

-- What a line that was run has deleted of scores is one player's.
def Spares (userId : Nat) (x : Server × Line) : Prop :=
  ∀ row ∈ x.1.store.scores.rows,
    row ∉ (x.2.perform host x.1).1.store.scores.rows → row.userid = userId

def Untouched (x : Server × Line) : Prop := (x.2.perform host x.1).1.store = x.1.store

-- What a call has answered with a line that was run.
def answerOf (x : Server × Line) : Option BeatmapSubmissionResult :=
  ((x.2.perform host x.1).1.ended.drop x.1.ended.length).head?.bind Ended.result

def AnswersDeleted (x : Server × Line) : Prop :=
  (answerOf host x).map BeatmapSubmissionResult.code = some .DELETED

variable {host} {actor : User} {s : Server} {d : Deletion} {md5 : String} {left : List String}

-- The maps whose scores have been counted have none of another player.
def Clear (userId : Nat) (d : Deletion) (left : List String) (scores : Table) : Prop :=
  ∀ md5 ∈ d.mapMd5s, md5 ∉ left → ∀ player ∈ players scores md5, player = userId

def Deletion.By (actor : User) (d : Deletion) : Prop := d.actor = actor ∧ d.owner = actor.id

-- How far the deletion of a submitter has come, and what it knows.
def Delete.Line.Knows (actor : User) (scores : Table) (line : Delete.Line) : Prop :=
  match line with
  | fetchSubmission a _ => a = actor
  | fetchMaps a submission => a = actor ∧ submission.submitterUserId = actor.id
  | countTotal d md5 left => d.By actor ∧ Clear actor.id d (md5 :: left) scores
  | countOwned d md5 left total =>
      d.By actor ∧ Clear actor.id d (md5 :: left) scores ∧
        (md5 ∉ left →
          (∀ player ∈ players scores md5, player = actor.id) ∨
            (players scores md5).count actor.id < total)
  | deleteRows d => d.By actor ∧ Clear actor.id d [] scores
  | removeOsu d _ _ | removeArchive d => d.By actor

-- The lines until the transaction is through.
def Delete.Line.early : Delete.Line → Bool
  | fetchSubmission _ _ | fetchMaps _ _ | countTotal _ _ _ | countOwned _ _ _ _ | deleteRows _ => true
  | _ => false

inductive Deleting (host : Host) (actor : User) (scores : Table) :
    List Line → List (Server × Line) → Prop
  | under {line : Delete.Line} {past : List (Server × Line)} (hknows : line.Knows actor scores)
      (hspares : ∀ x ∈ past, Spares host actor.id x)
      (hearly : line.early → ∀ x ∈ past, Untouched host x) :
      Deleting host actor scores [.delete line] past
  | done {past : List (Server × Line)} (hspares : ∀ x ∈ past, Spares host actor.id x)
      (hanswered : (∃ x ∈ past, AnswersDeleted host x) ∨ ∀ x ∈ past, Untouched host x) :
      Deleting host actor scores [] past

theorem spares_of_scores {x : Server × Line} (userId : Nat)
    (h : (x.2.perform host x.1).1.store.scores = x.1.store.scores) : Spares host userId x := by
  intro row hrow hgone
  rw [h] at hgone
  exact absurd hrow hgone

theorem Untouched.spares {x : Server × Line} (h : Untouched host x) (userId : Nat) :
    Spares host userId x := spares_of_scores userId (congrArg (fun st : Store => st.scores) h)

theorem untouched_of_early {line : Delete.Line} (h : line.early)
    (hrows : ∀ d, line ≠ .deleteRows d) : Untouched host (s, .delete line) := by
  change (line.perform s).1.store = s.store
  rw [Delete.store_perform]
  cases line with
  | deleteRows d => exact absurd rfl (hrows d)
  | removeOsu | removeArchive => cases h
  | _ => rfl

-- The lines that a deletion has come to when it goes on reading.
theorem Deleting.read {line line' : Delete.Line} {past : List (Server × Line)} {scores : Table}
    (hspares : ∀ x ∈ past, Spares host actor.id x) (hpast : ∀ x ∈ past, Untouched host x)
    (hthis : Untouched host (s, .delete line)) (hknows : line'.Knows actor scores) :
    Deleting host actor scores [.delete line'] (past ++ [(s, .delete line)]) := by
  refine .under hknows (fun x hx => ?_) fun _ x hx => ?_
  · rcases List.mem_append.mp hx with hold | hnew
    · exact hspares x hold
    · rw [List.mem_singleton.mp hnew]
      exact hthis.spares actor.id
  · rcases List.mem_append.mp hx with hold | hnew
    · exact hpast x hold
    · rw [List.mem_singleton.mp hnew]
      exact hthis

theorem Deleting.refuse {line : Delete.Line} {past : List (Server × Line)} {scores : Table}
    (hspares : ∀ x ∈ past, Spares host actor.id x) (hpast : ∀ x ∈ past, Untouched host x)
    (hthis : Untouched host (s, .delete line)) :
    Deleting host actor scores [] (past ++ [(s, .delete line)]) := by
  refine .done (fun x hx => ?_) (Or.inr fun x hx => ?_)
  · rcases List.mem_append.mp hx with hold | hnew
    · exact hspares x hold
    · rw [List.mem_singleton.mp hnew]
      exact hthis.spares actor.id
  · rcases List.mem_append.mp hx with hold | hnew
    · exact hpast x hold
    · rw [List.mem_singleton.mp hnew]
      exact hthis

theorem knows_count (hby : d.By actor) {scores : Table} (hclear : Clear actor.id d left scores) :
    (Delete.Line.count d left).Knows actor scores := by
  cases left with
  | nil => exact ⟨hby, hclear⟩
  | cons md5 left => exact ⟨hby, hclear⟩

theorem Deleting.remove {line : Delete.Line} {past : List (Server × Line)} {scores : Table}
    (hspares : ∀ x ∈ past, Spares host actor.id x)
    (hthis : Spares host actor.id (s, .delete line)) (hby : d.By actor) (left : List Beatmaps.Beatmap) :
    Deleting host actor scores [.delete (.remove d left)] (past ++ [(s, .delete line)]) := by
  have hknows : (Delete.Line.remove d left).Knows actor scores := by
    cases left <;> exact hby
  refine .under hknows (fun x hx => ?_) fun hearly => ?_
  · rcases List.mem_append.mp hx with hold | hnew
    · exact hspares x hold
    · rw [List.mem_singleton.mp hnew]
      exact hthis
  · cases left <;> cases hearly

theorem Deleting.own {line : Line} {rest : List Line} {past : List (Server × Line)}
    (hstaff : actor.isStaff = false)
    (h : Deleting host actor s.store.scores (line :: rest) past) :
    Deleting host actor (line.perform host s).1.store.scores ((line.perform host s).2 ++ rest)
      (past ++ [(s, line)]) := by
  cases h with
  | @under line _ hknows hspares hearly =>
    rw [List.append_nil]
    cases line with
    | fetchSubmission a setId =>
      cases hknows
      have hthis : Untouched host (s, .delete (.fetchSubmission actor setId)) :=
        untouched_of_early rfl (by simp)
      simp only [Line.perform, Delete.Line.perform]
      cases hfetch : s.store.fetchSubmission setId with
      | none => exact Deleting.refuse hspares (hearly rfl) hthis
      | some submission =>
        dsimp only
        split
        · exact Deleting.refuse hspares (hearly rfl) hthis
        · split
          · exact Deleting.refuse hspares (hearly rfl) hthis
          · rename_i howner
            refine Deleting.read hspares (hearly rfl) hthis ⟨rfl, ?_⟩
            simpa [hstaff] using howner
    | fetchMaps a submission =>
      obtain ⟨rfl, howner⟩ := hknows
      have hthis : Untouched host (s, .delete (.fetchMaps a submission)) :=
        untouched_of_early rfl (by simp)
      simp only [Line.perform, Delete.Line.perform, hstaff]
      have hby : Deletion.By a
          { actor := a
            submission := submission
            maps := s.store.fetchMaps submission.setId } := ⟨rfl, howner⟩
      refine Deleting.read hspares (hearly rfl) hthis (knows_count hby fun md5 hmem hleft => ?_)
      exact absurd hmem hleft
    | countTotal d md5 left =>
      obtain ⟨hby, hclear⟩ := hknows
      have hthis : Untouched host (s, .delete (.countTotal d md5 left)) :=
        untouched_of_early rfl (by simp)
      simp only [Line.perform, Delete.Line.perform]
      refine Deleting.read hspares (hearly rfl) hthis ⟨hby, hclear, fun _ => ?_⟩
      rw [countP_total]
      by_cases hall : ∀ player ∈ players s.store.scores md5, player = actor.id
      · exact Or.inl hall
      · right
        push Not at hall
        obtain ⟨player, hplayer, hne⟩ := hall
        exact count_lt_players hplayer hne
    | countOwned d md5 left total =>
      obtain ⟨hby, hclear, hcounted⟩ := hknows
      have hthis : Untouched host (s, .delete (.countOwned d md5 left total)) :=
        untouched_of_early rfl (by simp)
      have howner : d.submission.submitterUserId = actor.id := hby.2
      simp only [Line.perform, Delete.Line.perform, countP_owned, howner]
      split
      · exact Deleting.refuse hspares (hearly rfl) hthis
      · rename_i htotal
        refine Deleting.read hspares (hearly rfl) hthis (knows_count hby fun md5' hmem hleft => ?_)
        by_cases hmd5 : md5' = md5
        · subst hmd5
          exact (hcounted hleft).resolve_right htotal
        · exact hclear md5' hmem (List.not_mem_cons_of_ne_of_not_mem hmd5 hleft)
    | deleteRows d =>
      obtain ⟨hby, hclear⟩ := hknows
      refine Deleting.remove hspares (fun row hrow hgone => ?_) hby d.maps
      have hmem : row.mapMd5 ∈ d.mapMd5s := by
        by_contra hout
        exact hgone (List.mem_filter.mpr ⟨hrow, decide_eq_true hout⟩)
      exact hclear row.mapMd5 hmem List.not_mem_nil row.userid (mem_players.mpr ⟨row, hrow, rfl, rfl⟩)
    | removeOsu d row left =>
      exact Deleting.remove hspares (spares_of_scores actor.id rfl) hknows left
    | removeArchive d =>
      have hanswers : AnswersDeleted host (s, .delete (.removeArchive d)) := by
        simp [AnswersDeleted, answerOf, Line.perform, Delete.Line.perform, Server.answer,
          Server.endWith, Delete.deleted]
      refine .done (fun x hx => ?_) (Or.inl ⟨_, List.mem_append_right _ List.mem_cons_self, hanswers⟩)
      rcases List.mem_append.mp hx with hold | hnew
      · exact hspares x hold
      · rw [List.mem_singleton.mp hnew]
        exact spares_of_scores actor.id rfl

-- A map gets a player by a score, and loses all of them or none by anything else.
theorem playersAfter_cases (md5 : String) (players : List Nat) (line : Line) :
    (∃ row, line = .score row ∧ row.mapMd5 = md5 ∧
        line.playersAfter md5 players = players ++ [row.userid]) ∨
      line.playersAfter md5 players = players ∨ line.playersAfter md5 players = [] := by
  cases line with
  | score row =>
    by_cases hmd5 : row.mapMd5 = md5
    · exact Or.inl ⟨row, rfl, hmd5, by simp [Line.playersAfter, hmd5]⟩
    · exact Or.inr (Or.inl (by simp [Line.playersAfter, hmd5]))
  | delete line =>
    cases line with
    | deleteRows d =>
      simp only [Line.playersAfter]
      split
      · exact Or.inr (Or.inr rfl)
      · exact Or.inr (Or.inl rfl)
    | _ => exact Or.inr (Or.inl rfl)
  | _ => exact Or.inr (Or.inl rfl)

theorem Clear.other {userId : Nat} (h : Clear userId d left s.store.scores)
    (line : Line)
    (hscore : ∀ row, line = .score row → row.mapMd5 ∈ d.mapMd5s → row.mapMd5 ∉ left →
      row.userid = userId) :
    Clear userId d left (line.perform host s).1.store.scores := by
  intro md5 hmem hleft player hplayer
  rw [players_perform] at hplayer
  rcases playersAfter_cases md5 (players s.store.scores md5) line with
    ⟨row, hline, rfl, hafter⟩ | hafter | hafter
  · rw [hafter] at hplayer
    rcases List.mem_append.mp hplayer with hold | hnew
    · exact h row.mapMd5 hmem hleft player hold
    · rw [List.mem_singleton.mp hnew]
      exact hscore row hline hmem hleft
  · rw [hafter] at hplayer
    exact h md5 hmem hleft player hplayer
  · rw [hafter] at hplayer
    cases hplayer

theorem knows_other {own : Delete.Line} (h : own.Knows actor s.store.scores)
    (hstaff : actor.isStaff = false) (line : Line)
    (hseen : ∀ row, line = .score row → own.blindTo row = false) :
    own.Knows actor (line.perform host s).1.store.scores := by
  cases own with
  | countTotal d md5 left =>
    obtain ⟨hby, hclear⟩ := h
    refine ⟨hby, hclear.other line fun row hline hmem hleft => ?_⟩
    have hblind := hseen row hline
    by_contra hne
    rw [← hby.2] at hne
    simp [Delete.Line.blindTo, hne, hmem, hleft] at hblind
  | countOwned d md5 left total =>
    obtain ⟨hby, hclear, hcounted⟩ := h
    refine ⟨hby, hclear.other line fun row hline hmem hleft => ?_, fun hleft => ?_⟩
    · have hblind := hseen row hline
      by_contra hne
      rw [← hby.2] at hne
      have hout : row.mapMd5 ∉ left := fun hin => hleft (List.mem_cons_of_mem md5 hin)
      simp [Delete.Line.blindTo, hne, hmem, hout] at hblind
    · rw [players_perform]
      rcases playersAfter_cases md5 (players s.store.scores md5) line with
        ⟨row, hline, hmd5, -⟩ | hafter | hafter
      · have hblind := hseen row hline
        simp [Delete.Line.blindTo, hmd5, hleft] at hblind
      · rw [hafter]
        exact hcounted hleft
      · rw [hafter]
        exact Or.inl fun player hplayer => absurd hplayer List.not_mem_nil
  | deleteRows d =>
    obtain ⟨hby, hclear⟩ := h
    refine ⟨hby, hclear.other line fun row hline hmem _ => ?_⟩
    have hblind := hseen row hline
    by_contra hne
    rw [← hby.2] at hne
    simp [Delete.Line.blindTo, hne, hmem, hby.1, hstaff] at hblind
  | _ => exact h

theorem Deleting.other {task : List Line} {past : List (Server × Line)}
    (hstaff : actor.isStaff = false) (h : Deleting host actor s.store.scores task past)
    {line : Line} {others : List (List Line)} (hseen : Seen line s others) (htask : task ∈ others) :
    Deleting host actor (line.perform host s).1.store.scores task past := by
  cases h with
  | under hknows hspares hearly =>
    refine .under (knows_other hknows hstaff line fun row hline => ?_) hspares hearly
    subst hline
    exact hseen _ htask _ List.mem_cons_self
  | done hspares hanswered => exact .done hspares hanswered

end Stages

section Runs

variable (host : Host)

def Op.Stage (s : Server) (op : Op) (task : List Line) (past : List (Server × Line)) : Prop :=
  match op with
  | .delete actor _ => actor.isStaff = false → Deleting host actor s.store.scores task past
  | _ => True

theorem stages_run {s : Server} {run : List Event}
    (hg : Guarded (Service.step host) (Tasks.Meets Seen) { world := s, running := [] } run) :
    Tasks.Stages (Op.Stage host) (runFrom (Service.step host) { world := s, running := [] } run)
      (Tasks.begun run) (Tasks.ran (Service.step host) { world := s, running := [] } run) := by
  refine Tasks.Stages.invariant (fun s op => ?_)
    (fun s op line rest past h => ?_) (fun s op task past line others hseen htask h => ?_) rfl hg
  · cases op with
    | delete actor setId =>
      exact fun _ => .under rfl (fun x hx => absurd hx List.not_mem_nil)
        fun _ x hx => absurd hx List.not_mem_nil
    | _ => trivial
  · cases op with
    | delete actor setId => exact fun hstaff => (h hstaff).own hstaff
    | _ => trivial
  · cases op with
    | delete actor setId => exact fun hstaff => (h hstaff).other hstaff hseen htask
    | _ => trivial

variable {host}

-- What is asked of a call that deletes the set of the one who calls.
structure DeletesOwn (host : Host) (actor : User) (task : List Line)
    (own : List (Server × Line)) : Prop where
  deleted : (∃ x ∈ own, AnswersDeleted host x) → ∀ x ∈ own, Spares host actor.id x
  otherwise : task = [] → (∃ x ∈ own, AnswersDeleted host x) ∨ ∀ x ∈ own, Untouched host x

-- In every run in which no score is stored that a deletion is blind to, a submitter deletes no
-- score of another player, and what is not deleted is left as it was.
theorem deletesOwn_of_seen {s : Server} {run : List Event}
    (hg : Guarded (Service.step host) (Tasks.Meets Seen) { world := s, running := [] } run) :
    ∀ i actor setId task, (Tasks.begun run)[i]? = some (.delete actor setId) →
      actor.isStaff = false →
        (runFrom (Service.step host) { world := s, running := [] } run).running[i]? = some task →
          DeletesOwn host actor task
            (Tasks.own i (Tasks.ran (Service.step host) { world := s, running := [] } run)) := by
  intro i actor setId task hop hstaff htask
  have hstage := (stages_run host hg).stage i _ task hop htask hstaff
  cases hstage with
  | under hknows hspares hearly => exact ⟨fun _ => hspares, fun hdone => absurd hdone (by simp)⟩
  | done hspares hanswered => exact ⟨fun _ => hspares, fun _ => hanswered⟩

def foreignScore : ScoreRow where
  id := 0
  mapMd5 := "a"
  score := 1000
  pp := 0
  acc := 100
  grade := .S
  status := .BEST
  mode := .VANILLA_OSU
  userid := 4
  onlineChecksum := "c"

-- Another player's score comes first, or between the counts and the transaction.
def playedFirst : List Event :=
  [.begin (.score foreignScore), .begin (.delete submitter 2000000000), .resume 0] ++
    List.replicate 4 (.resume 1)

def playedBetween : List Event :=
  List.flatten [[.begin (.delete submitter 2000000000)], List.replicate 4 (.resume 0),
    [.begin (.score foreignScore), .resume 1], List.replicate 3 (.resume 0)]

theorem deletesOwn_playedFirst :
    let start : Service := { world := { store := hostedSet, ended := [] }, running := [] }
    DeletesOwn plainHost submitter []
        (Tasks.own 1 (Tasks.ran (Service.step plainHost) start playedFirst)) ∧
      (runFrom (Service.step plainHost) start playedFirst).world.ended.map Ended.result =
        [some Delete.hasForeignScores] := by
  refine ⟨deletesOwn_of_seen ?_ 1 submitter 2000000000 [] rfl ?_ ?_, ?_⟩
  · decide
  · decide
  · rfl
  · decide

instance (userId : Nat) (x : Server × Line) : Decidable (Spares host userId x) :=
  inferInstanceAs (Decidable (∀ row ∈ x.1.store.scores.rows,
    row ∉ (x.2.perform host x.1).1.store.scores.rows → row.userid = userId))

instance (x : Server × Line) : Decidable (AnswersDeleted host x) :=
  inferInstanceAs (Decidable ((answerOf host x).map BeatmapSubmissionResult.code = some .DELETED))

theorem not_deletesOwn_playedBetween :
    ¬∀ (s : Server) (run : List Event) (i : Nat) (actor : User) (setId : Int) (task : List Line),
      (Tasks.begun run)[i]? = some (.delete actor setId) → actor.isStaff = false →
        (∀ op ∈ Tasks.begun run,
          op = .delete actor setId ∨ ∃ row, op = .score row ∧ row.userid ≠ actor.id) →
          (runFrom (Service.step plainHost) { world := s, running := [] } run).running[i]? =
              some task →
            DeletesOwn plainHost actor task
              (Tasks.own i (Tasks.ran (Service.step plainHost) { world := s, running := [] } run)) := by
  intro h
  have hown := h { store := hostedSet, ended := [] } playedBetween 0 submitter 2000000000 [] rfl
    (by decide) (fun op hop => ?_) rfl
  · exact absurd (hown.deleted (by decide)) (by decide)
  · rcases List.mem_cons.mp hop with rfl | hop
    · exact Or.inl rfl
    · rw [List.mem_singleton.mp hop]
      exact Or.inr ⟨foreignScore, rfl, by decide⟩

end Runs

end BanchoPrism.Submissions
