import BanchoPrism.Multiplayer.Lenient.Events
import BanchoPrism.Multiplayer.Points
import BanchoPrism.Multiplayer.SeatsAgree

namespace BanchoPrism

open Library Prog Relation

section Writers

-- The scrims change as the commands change them.
def KeepsScrims (s t : Server) : Prop :=
  ∀ r, ReflTransGen Scrim.Step (s.matchAt r).scrim (t.matchAt r).scrim

instance : Std.Refl KeepsScrims := ⟨fun _ _ => .refl⟩
instance : IsTrans Server KeepsScrims := ⟨fun _ _ _ h h' r => (h r).trans (h' r)⟩

theorem keepsScrims_modifyMatch {s : Server} {r : MatchRef} {f : Match → Match}
    (h : ReflTransGen Scrim.Step (s.matchAt r).scrim (f (s.matchAt r)).scrim) :
    KeepsScrims s (s.modifyMatch r f) := by
  intro r'
  by_cases hr : r' = r
  · subst hr
    simpa [Server.modifyMatch] using h
  · simpa [Server.modifyMatch, hr] using ReflTransGen.refl

theorem keepsScrims_lenient : Lenient (fun _ => True) KeepsScrims where
  cleared := trivial
  work h _ := h.matchAt ▸ .refl
  plain h := keepsScrims_modifyMatch h.scrim
  player _ _ := .refl
  players _ _ := .refl
  matchList _ _ _ := .refl
  seat _ _ _ := keepsScrims_modifyMatch .refl
  reset _ _ := keepsScrims_modifyMatch .refl
  copy _ _ _ _ := keepsScrims_modifyMatch .refl

theorem keepsScrims_sideless : Sideless KeepsScrims where
  work h _ := h.matchAt ▸ .refl
  sides h := keepsScrims_modifyMatch (h.scrim ▸ .refl)

theorem MpCommand.run_scrims (ctx : Context) (r : MatchRef) (command : MpCommand) :
    Within KeepsScrims (command.run ctx r) := by
  by_cases hmods : command = .mods
  · subst hmods
    exact mpMods_sideless keepsScrims_sideless ctx r
  by_cases hfreemods : command = .freemods
  · subst hfreemods
    exact mpFreemods_sideless keepsScrims_sideless ctx r
  · exact MpCommand.run_lenient keepsScrims_lenient ctx r hmods hfreemods

theorem newMatch_scrim {data : MultiplayerMatch} {id : Fin 64} {chat : ChannelRef} {m : Match}
    (h : newMatch data id chat = .ok m) : m.scrim = {} := by
  obtain ⟨mode, -, h⟩ := of_bind_ok h
  obtain ⟨winCondition, -, h⟩ := of_bind_ok h
  obtain ⟨teamType, -, h⟩ := of_bind_ok h
  cases h
  rfl

theorem matchCreate_scrims (p : PlayerRef) (data : MultiplayerMatch) (now : Int) :
    Within KeepsScrims (matchCreate p data now) := by
  intro s
  refine matchCreate_lenient keepsScrims_lenient.tolerant p now fun m hm id => ?_
  obtain ⟨k, hnew⟩ := created_eq_some hm
  refine registerMatch_lenient keepsScrims_lenient.tolerant fun t r => ?_
  by_cases hr : r = t.nextMatch
  · subst hr
    have hscrim := newMatch_scrim hnew
    simpa [hscrim] using ReflTransGen.single (Scrim.Step.create _)
  · simpa [hr] using ReflTransGen.refl

theorem Packet.handle_scrims (packet : Packet) (p : PlayerRef) (clock : Clock) :
    Within KeepsScrims (packet.handle p clock) := by
  have hR := keepsScrims_lenient
  cases hmodding : packet.modding with
  | false => exact packet.handle_lenient hR hmodding p clock
  | true =>
    cases packet with
    | createMatch data => exact finished_within (matchCreate_scrims p data clock.now)
    | changeSettings data =>
      refine Within.bind (fun s => ?_) fun _ => Within.pure _
      exact matchChangeSettings_restating hR.toRestating p data fun r _ _ _ _ =>
        changeFreemods_sideless keepsScrims_sideless r _ s
    | changeMods mods =>
      exact finished_within (matchChangeMods_sideless keepsScrims_sideless p mods)
    | sendMessage text recipient mp =>
      intro s
      refine sendMessage_lenient hR p text recipient mp clock ?_
      exact fun _ given _ _ ctx _ _ => MpCommand.run_scrims ctx given.2.2 given.1 _
    | _ => cases hmodding

theorem login_scrims (profile : Profile) : Within KeepsScrims (login profile) := by
  intro s r
  obtain ⟨players, h⟩ := playersAppend_eq s.nextPlayer (freshSession s profile)
  rw [login_run, h]
  exact .refl

theorem step_scrims (w : World) (event : Event) : KeepsScrims w.server (w.step event).server := by
  refine keepsScrims_lenient.step (fun profile _ => login_scrims profile w.server) ?_ ?_
  · exact fun p packet clock _ _ => packet.handle_scrims p clock w.server
  · rintro i found elapsed next - -
    exact next.resume_lenient keepsScrims_lenient (fun _ _ _ => trivial) (fun _ _ => trivial)
      (fun _ r modsSlot mods _ _ =>
        resumePickMap_sideless keepsScrims_sideless r modsSlot mods found.beatmap) elapsed

end Writers

section Awards

variable {σ : Type} {P : Scrim → Scrim → Prop} {r : MatchRef} {s t u : Server} {k : Contestant}

-- What becomes of the scrim of one match, and of no other.
structure Alters (P : Scrim → Scrim → Prop) (r : MatchRef) (s t : Server) : Prop where
  scrim : P (s.matchAt r).scrim (t.matchAt r).scrim
  others : ∀ r', r' ≠ r → (t.matchAt r').scrim = (s.matchAt r').scrim

theorem Alters.same (h : ∀ b, P b b) (s : Server) : Alters P r s s := ⟨h _, fun _ _ => rfl⟩

theorem Alters.modifyMatch {f : Match → Match}
    (h : P (s.matchAt r).scrim (f (s.matchAt r)).scrim) : Alters P r s (s.modifyMatch r f) := by
  refine ⟨?_, fun r' hr => ?_⟩
  · simpa [Server.modifyMatch] using h
  · simp [Server.modifyMatch, hr]

-- An update of the match, and what becomes of its scrim then.
theorem Alters.afterUpdate {Q : Scrim → Scrim → Prop} {f : Match → Match}
    (hf : ∀ m b, P (f m).scrim b → Q m.scrim b) (h : Alters P r (s.modifyMatch r f) t) :
    Alters Q r s t := by
  refine ⟨hf _ _ ?_, fun r' hr => ?_⟩
  · simpa [Server.modifyMatch] using h.scrim
  · simpa [Server.modifyMatch, hr] using h.others r' hr

theorem Alters.after (h : ChannelWork s t) (h' : Alters P r t u) : Alters P r s u := by
  obtain ⟨hscrim, hothers⟩ := h'
  rw [h.matchAt] at hscrim hothers
  exact ⟨hscrim, hothers⟩

theorem Alters.before (h : Alters P r s t) (h' : ChannelWork t u) : Alters P r s u := by
  obtain ⟨hscrim, hothers⟩ := h
  rw [← h'.matchAt] at hscrim hothers
  exact ⟨hscrim, hothers⟩

theorem Alters.bind_work {α β : Type} {x : Handler α} {f : α → Handler β}
    (hx : Moves (Alters P r) s x) (hf : ∀ a, Within ChannelWork (f a)) :
    Moves (Alters P r) s (x >>= f) :=
  Moves.bind_left (R := Alters P r) (S := ChannelWork) Alters.before hx fun a t _ => hf a t

theorem Alters.work_bind {α β : Type} (hP : ∀ b, P b b) {x : Handler α} {f : α → Handler β}
    (hx : Within ChannelWork x)
    (hf : ∀ a t, t.matchAt = s.matchAt → Moves (Alters P r) t (f a)) :
    Moves (Alters P r) s (x >>= f) := by
  refine Moves.bind_right (R := Alters P r) (S := ChannelWork) Alters.after ?_ (hx s) ?_
  · exact fun hwork => Alters.before (.same hP _) hwork
  · exact fun a t hrun => hf a t (hx.run hrun).matchAt

-- Whether the point of k was the last one that k needed.
inductive Scrim.Judged (k : Contestant) (b : Scrim) : Scrim → Prop
  | more (points : List (Contestant × Int))
      (hpoints : ∀ c, pointsOf points c = pointsOf b.matchPoints c)
      (hmore : ¬(b.winningPts ≠ 0 ∧ pointsOf points k = b.winningPts)) :
      Judged k b { b with matchPoints := points }
  | won (hlast : b.winningPts ≠ 0 ∧ pointsOf b.matchPoints k = b.winningPts) :
      Judged k b { b with isScrimming := false, matchPoints := [], winners := [] }

-- A contestant that a match of this type can have.
def Contestant.Suits (teamType : MatchTeamTypes) : Contestant → Prop
  | .player _ => teamType.ffa
  | .team t => !teamType.ffa ∧ t ≠ .neutral

instance Contestant.Suits.decidable (teamType : MatchTeamTypes) (k : Contestant) :
    Decidable (k.Suits teamType) :=
  match k with
  | .player _ => inferInstanceAs (Decidable (_ = true))
  | .team _ => inferInstanceAs (Decidable (_ ∧ _))

theorem Match.decided_iff {m : Match} {k : Contestant} :
    m.decided k ↔ m.winningPts ≠ 0 ∧ pointsOf m.matchPoints k = m.winningPts := by
  simp [Match.decided]

variable {num : Numbers σ} {scores : List (Contestant × σ)}

theorem decided_judged (won more : List String) : Moves (Alters (Scrim.Judged k) r) s
    (if (s.matchAt r).decided k then do
      updateMatch r Match.endScrim
      pure won
    else pure more) := by
  refine Moves.ite (fun hwon => ?_) fun hmore => ?_
  · exact Alters.modifyMatch (.won (Match.decided_iff.mp hwon))
  · rw [Match.decided_iff] at hmore
    exact ⟨.more _ (fun _ => rfl) hmore, fun _ _ => rfl⟩

theorem takeFfaPoint_judged (p : PlayerRef) :
    Moves (Alters (Scrim.Judged (.player p)) r) s (takeFfaPoint num r scores p) :=
  Moves.read_bind (decided_judged _ _)

-- The entry of the loser changes nobody's points.
theorem Scrim.Judged.touched {b b' : Scrim} {loser : Contestant}
    (h : Scrim.Judged k { b with matchPoints := addPoints b.matchPoints loser 0 } b') :
    Scrim.Judged k b b' := by
  have hsame : ∀ c, pointsOf (addPoints b.matchPoints loser 0) c = pointsOf b.matchPoints c := by
    intro c
    rw [pointsOf_addPoints]
    split <;> omega
  cases h with
  | more points hpoints hmore => exact .more points (fun c => (hpoints c).trans (hsame c)) hmore
  | won hlast => exact .won ⟨hlast.1, (hsame k).symm.trans hlast.2⟩

theorem settleTeams_judged (winner loser : MatchTeams) (wname lname : String) :
    Moves (Alters (Scrim.Judged (.team winner)) r) s
      (settleTeams num r scores winner loser wname lname) := by
  unfold settleTeams Moves
  rw [updateMatch_bind_run, read_bind_run]
  refine Alters.afterUpdate (fun m b hjudged => ?_) (decided_judged _ _)
  exact @Scrim.Judged.touched (.team winner) m.scrim b (.team loser) hjudged

theorem Match.teamName_ok (m : Match) {team : MatchTeams} (h : team ≠ .neutral) :
    ∃ name, m.teamName team = .ok name := by
  cases team with
  | neutral => exact absurd rfl h
  | blue => exact ⟨_, rfl⟩
  | red => exact ⟨_, rfl⟩

theorem takeTeamPoint_judged {winner : MatchTeams} (hteam : winner ≠ .neutral) :
    Moves (Alters (Scrim.Judged (.team winner)) r) s (takeTeamPoint num r scores winner) := by
  have hloser : (if winner = .blue then MatchTeams.red else .blue) ≠ .neutral := by
    split <;> exact nofun
  obtain ⟨wname, hwname⟩ := (s.matchAt r).teamName_ok hteam
  obtain ⟨lname, hlname⟩ := (s.matchAt r).teamName_ok hloser
  unfold takeTeamPoint Moves
  rw [read_bind_run, hwname, bind_run_ok (lift_ok_run _ _), hlname,
    bind_run_ok (lift_ok_run _ _)]
  exact settleTeams_judged winner _ wname lname

theorem takePoint_judged {winner : Contestant} (hsuits : winner.Suits (s.matchAt r).teamType) :
    Moves (Alters (Scrim.Judged winner) r) s (takePoint num r scores winner) := by
  refine Moves.read_bind ?_
  cases winner with
  | player p =>
    have hffa : (s.matchAt r).teamType.ffa = true := hsuits
    rw [hffa]
    exact takeFfaPoint_judged p
  | team t =>
    obtain ⟨hffa, hteam⟩ := hsuits
    rw [Bool.not_eq_true'] at hffa
    rw [hffa]
    exact takeTeamPoint_judged hteam

-- A point that was counted and then judged.
theorem Scrim.Judged.outcome {b b' : Scrim} {k : Contestant}
    (h : Scrim.Judged k { b with
      winners := b.winners ++ [some k], matchPoints := addPoints b.matchPoints k 1 } b') :
    Scrim.Outcome b b' := by
  cases h with
  | more points hpoints hmore =>
    exact .point k points (fun c => (hpoints c).trans (pointsOf_addPoints _ _ _ _)) hmore
  | won hlast =>
    have hpoints := pointsOf_addPoints b.matchPoints k k 1
    rw [if_pos rfl] at hpoints
    exact .won k ⟨hlast.1, hpoints.symm.trans hlast.2⟩

theorem leading_mem (first : Contestant × σ) (rest : List (Contestant × σ)) :
    leading num first rest ∈ first :: rest := by
  unfold leading
  induction rest generalizing first with
  | nil => exact List.mem_cons_self
  | cons entry rest ih =>
    rw [List.foldl_cons]
    split
    · exact List.mem_cons_of_mem _ (ih entry)
    · rcases List.mem_cons.mp (ih first) with hfirst | hrest
      · rw [hfirst]
        exact List.mem_cons_self
      · exact List.mem_cons_of_mem _ (List.mem_cons_of_mem _ hrest)

def countPoint (k : Contestant) (m : Match) : Match :=
  { m with winners := m.winners ++ [some k], matchPoints := addPoints m.matchPoints k 1 }

-- The point is counted before it is judged; what comes after is only messages.
theorem countPoint_outcome {body : List String → Handler Unit}
    (hsuits : k.Suits (s.matchAt r).teamType) (hbody : ∀ msg, Within ChannelWork (body msg)) :
    Moves (Alters Scrim.Outcome r) s (do
      updateMatch r (countPoint k)
      let msg ← takePoint num r scores k
      body msg) := by
  have hjudged : Moves (Alters (Scrim.Judged k) r) (s.modifyMatch r (countPoint k))
      (takePoint num r scores k >>= body) := by
    refine Alters.bind_work (takePoint_judged ?_) hbody
    simpa [Server.modifyMatch, countPoint] using hsuits
  exact Alters.afterUpdate (fun m b h => h.outcome) hjudged

theorem awardPoint_none (didntSubmit : List (Option PlayerRef)) :
    Within ChannelWork (awardPoint num r [] didntSubmit) := by
  refine Within.read_bind fun s => Within.moves ?_
  exact Within.bind (Within.each (fun _ => sendBot_work _ _) _) fun _ => sendBot_work _ _

theorem awardPoint_outcome {didntSubmit : List (Option PlayerRef)}
    (hsuits : ∀ entry ∈ scores, entry.1.Suits (s.matchAt r).teamType) :
    Moves (Alters Scrim.Outcome r) s (awardPoint num r scores didntSubmit) := by
  refine Moves.read_bind (Alters.work_bind (fun _ => .nothing)
    (Within.each (fun _ => sendBot_work _ _) _) fun _ t ht => ?_)
  rw [← ht] at hsuits
  cases scores with
  | nil => exact Alters.before (.same (fun _ => .nothing) t) (sendBot_work _ _ t)
  | cons first rest =>
    refine Moves.ite (fun _ => ?_) fun _ => ?_
    · refine Alters.bind_work (Moves.update (Alters.modifyMatch ?_)) fun _ => sendBot_work _ _
      exact Scrim.Outcome.tie
    · refine countPoint_outcome (hsuits _ (leading_mem first rest)) fun msg => ?_
      refine Within.bind (Within.onlyIf (sendBot_work _ _)) fun _ => ?_
      exact Within.each (fun _ => sendBot_work _ _) msg

end Awards

section Updates

variable {σ : Type} {num : Numbers σ} {m : Match} {seen : Sighting σ} {s : Server}

theorem count_counted (w : Waiting σ) (k : Contestant) (score : σ) :
    (w.count num k score).counted num m seen = w.counted num m seen := by
  funext i
  unfold Waiting.count
  split <;> rfl

theorem mem_count {w : Waiting σ} {k c : Contestant} {score : σ}
    (h : c ∈ (w.count num k score).scores.map Prod.fst) :
    c ∈ w.scores.map Prod.fst ∨ num.truthy score ∧ c = k := by
  unfold Waiting.count at h
  split at h
  · rename_i htruthy
    obtain ⟨entry, hentry, rfl⟩ := List.mem_map.mp h
    rcases mem_dictSet hentry with hold | rfl
    · exact .inl (List.mem_map_of_mem hold)
    · exact .inr ⟨htruthy, rfl⟩
  · exact .inl h

-- Somebody is in the slot and has submitted a score.
def Waiting.scored (m : Match) (seen : Sighting σ) (w : Waiting σ) (i : Fin 16) : Bool :=
  ((m.slots i).player.bind (w.submitted m seen)).isSome

theorem count_scored (w : Waiting σ) (k : Contestant) (score : σ) :
    (w.count num k score).scored m seen = w.scored m seen := by
  funext i
  unfold Waiting.count
  split <;> rfl

-- Whoever has a score after the poll had one before or is counted in one of the slots, up to the
-- first without a score.
theorem mem_poll {slots : List (Fin 16)} {w w' : Waiting σ} {c : Contestant}
    (h : w.poll num m seen slots = .ok w') (hc : c ∈ w'.scores.map Prod.fst) :
    c ∈ w.scores.map Prod.fst ∨
      c ∈ (slots.takeWhile (w.scored m seen)).filterMap (w.counted num m seen) := by
  induction slots generalizing w with
  | nil =>
    cases h
    exact .inl hc
  | cons i rest ih =>
    unfold Waiting.poll at h
    cases hp : (m.slots i).player with
    | none =>
      rw [hp] at h
      cases h
    | some p =>
      rw [hp] at h
      dsimp only at h
      cases hscore : w.submitted m seen p with
      | none =>
        rw [hscore] at h
        cases h
        exact .inl hc
      | some score =>
        have hscored : w.scored m seen i := by simp [Waiting.scored, hp, hscore]
        rw [List.takeWhile_cons_of_pos hscored]
        rw [hscore] at h
        rcases ih h with hcounted | hrest
        · rcases mem_count hcounted with hold | ⟨htruthy, rfl⟩
          · exact .inl hold
          · refine .inr (List.mem_filterMap.mpr ⟨i, List.mem_cons_self, ?_⟩)
            simp [Waiting.counted, hp, hscore, htruthy]
        · rw [count_counted, count_scored] at hrest
          obtain ⟨j, hj, hkey⟩ := List.mem_filterMap.mp hrest
          exact .inr (List.mem_filterMap.mpr ⟨j, List.mem_cons_of_mem i hj, hkey⟩)

theorem poll_contestants {u : Update σ} {w w' : Waiting σ} (hw : u.waiting m seen = some w)
    (h : w.poll num m seen w.slots = .ok w') {c : Contestant}
    (hc : c ∈ w'.scores.map Prod.fst) : c ∈ u.contestants num m seen := by
  unfold Update.contestants
  rw [hw]
  have hsub : (w.slots.takeWhile (w.scored m seen)).Sublist w.slots := List.takeWhile_sublist _
  exact List.mem_append.mpr ((mem_poll h hc).imp_right fun hmem => (hsub.filterMap _).subset hmem)

-- An update that counts nobody only talks; the others put one point into their match.
theorem Update.resume_outcome {u : Update σ}
    (hsuits : ∀ k ∈ u.contestants num (s.matchAt u.target) seen,
      k.Suits (s.matchAt u.target).teamType) :
    Moves (Alters (fun b b' => Scrim.Outcome b b' ∧
      (u.contestants num (s.matchAt u.target) seen = [] → b' = b)) u.target) s
      (u.resume num seen) := by
  have hnothing : ∀ b : Scrim, Scrim.Outcome b b ∧
      (u.contestants num (s.matchAt u.target) seen = [] → b = b) :=
    fun _ => ⟨.nothing, fun _ => rfl⟩
  refine Moves.read_bind ?_
  dsimp only
  split
  · exact Alters.same hnothing s
  · refine Alters.bind_work ?_ fun _ => Within.pure none
    exact Alters.before (.same hnothing s) (awardPoint_none _ s)
  · rename_i w _ hw
    cases hpoll : w.poll num (s.matchAt u.target) seen w.slots with
    | error e => exact Alters.same hnothing s
    | ok w' =>
      have hcounted := fun {c} => poll_contestants (c := c) hw hpoll
      unfold Moves
      rw [bind_run_ok (lift_ok_run _ _)]
      refine Moves.ite (fun _ => ?_) fun _ => Alters.same hnothing s
      refine Alters.bind_work ?_ fun _ => Within.pure none
      have houtcome : Moves (Alters Scrim.Outcome u.target) s
          (awardPoint num u.target w'.scores w'.didntSubmit) :=
        awardPoint_outcome fun entry hentry => hsuits _ (hcounted (List.mem_map_of_mem hentry))
      refine ⟨⟨houtcome.scrim, fun hnobody => ?_⟩, houtcome.others⟩
      have hnone : w'.scores = [] := by
        refine List.eq_nil_iff_forall_not_mem.mpr fun entry hentry => ?_
        have hmem := hcounted (List.mem_map_of_mem hentry)
        rw [hnobody] at hmem
        cases hmem
      rw [hnone, (awardPoint_none w'.didntSubmit s).matchAt]

end Updates

end BanchoPrism
