import BanchoPrism.Login.Handler
import BanchoPrism.Login.Sessions
import BanchoPrism.Multiplayer.SeatsAgree

namespace BanchoPrism.Login

open Library Prog

section Fading

-- What a logout does after the match is left: lists get shorter, queues longer.
structure Fading (p : PlayerRef) (s t : Server) : Prop where
  spectating : (t.player p).spectating = (s.player p).spectating
  channels : (t.player p).channels.length ≤ (s.player p).channels.length
  list : t.players.list.length ≤ s.players.list.length
  sent : s.sent.length ≤ t.sent.length

variable {p : PlayerRef} {s t : Server}

instance : Std.Refl (Fading p) := ⟨fun _ => ⟨rfl, Nat.le_refl _, Nat.le_refl _, Nat.le_refl _⟩⟩

instance : IsTrans Server (Fading p) :=
  ⟨fun _ _ _ h h' => ⟨h'.spectating.trans h.spectating, h'.channels.trans h.channels,
    h'.list.trans h.list, h.sent.trans h'.sent⟩⟩

theorem Fading.refl (p : PlayerRef) (s : Server) : Fading p s s := refl_of (Fading p) s

theorem Fading.trans {u : Server} (h : Fading p s t) (h' : Fading p t u) : Fading p s u :=
  trans_of (Fading p) h h'

theorem Fading.enqueue (s : Server) (q : PlayerRef) (packet : ServerPacket) :
    Fading p s (s.enqueue q packet) := by
  unfold Server.enqueue
  split
  · exact Fading.refl p s
  · exact ⟨rfl, Nat.le_refl _, Nat.le_refl _, by simp⟩

theorem Fading.enqueueAll (s : Server) (qs : List PlayerRef) (packet : ServerPacket) :
    Fading p s (s.enqueueAll qs packet) := by
  unfold Server.enqueueAll
  induction qs generalizing s with
  | nil => exact Fading.refl p s
  | cons q rest ih => exact (Fading.enqueue s q packet).trans (ih _)

theorem sendAll_fading (qs : List PlayerRef) (packet : ServerPacket) :
    Within (Fading p) (sendAll qs packet) :=
  Within.update fun s => Fading.enqueueAll s qs packet

theorem announceCount_fading (c : ChannelRef) : Within (Fading p) (announceCount c) := by
  refine Within.read_bind fun s => Moves.lift_bind fun packet _ => ?_
  exact Moves.ite (fun _ => sendAll_fading _ _ s) fun _ => sendAll_fading _ _ s

theorem channelRemove_fading (c : ChannelRef) (q : PlayerRef) :
    Within (Fading p) (channelRemove c q) := by
  have hsame : ∀ {s : Server} {channels channel}, Fading p s
      { s with channels := channels, channel := channel } :=
    ⟨rfl, Nat.le_refl _, Nat.le_refl _, Nat.le_refl _⟩
  refine Within.bind (Within.update fun s => hsame) fun _ => Within.read_bind fun s => ?_
  refine Moves.ite (fun _ => ?_) fun _ => Moves.pure ()
  refine Moves.read_bind (Moves.ite (fun _ => Moves.update ?_) fun _ => Moves.raise _)
  exact hsame

theorem forgetChannel_fading (c : ChannelRef) : Within (Fading p) (forgetChannel p c) := by
  refine Within.read_bind fun s => Moves.ite (fun _ => Moves.update ?_) fun _ => Moves.raise _
  refine ⟨by simp [Server.modifyPlayer], ?_, Nat.le_refl _, Nat.le_refl _⟩
  simpa [Server.modifyPlayer] using List.length_erase_le

theorem leaveChannel_fading (c : ChannelRef) (kick : Bool) :
    Within (Fading p) (leaveChannel p c kick) := by
  refine Within.read_bind fun s => Moves.ite (fun _ => ?_) fun _ => Moves.pure ()
  refine Within.moves (Within.bind (channelRemove_fading c p) fun _ => ?_)
  refine Within.bind (forgetChannel_fading c) fun _ => ?_
  refine Within.bind (Within.onlyIf ?_) fun _ => announceCount_fading c
  exact Within.update fun s => Fading.enqueue s _ _

theorem leaveChannels_fading (passes : Nat) : Within (Fading p) (leaveChannels p passes) := by
  induction passes with
  | zero => exact Within.pure ()
  | succ passes ih =>
    refine Within.read_bind fun s => ?_
    split
    · exact Moves.pure ()
    · refine Moves.ite (fun _ => ?_) fun _ => Moves.raise _
      exact Within.moves (Within.bind (leaveChannel_fading _ false) fun _ => ih)

theorem deleteKey_fading {κ : Type} [DecidableEq κ] (index : Players → κ → Option PlayerRef)
    (write : Players → (κ → Option PlayerRef) → Players)
    (hwrite : ∀ players f, (write players f).list = players.list) (key : κ) :
    Within (Fading p) (deleteKey index write key) := by
  refine Within.read_bind fun s => Moves.ite (fun _ => Moves.raise _) fun _ => Moves.update ?_
  exact ⟨rfl, Nat.le_refl _, by rw [hwrite], Nat.le_refl _⟩

-- The rest of playersRemove, once the player is off the list.
def forgetKeys (player : Player) : Handler Unit := do
  deleteKey Players.byToken (fun ps f => { ps with byToken := f }) player.token
  deleteKey Players.byId (fun ps f => { ps with byId := f }) player.id
  deleteKey Players.byName (fun ps f => { ps with byName := f }) player.safeName

theorem forgetKeys_fading (player : Player) : Within (Fading p) (forgetKeys player) :=
  Within.bind (deleteKey_fading _ (fun ps f => { ps with byToken := f }) (fun _ _ => rfl) _)
    fun _ => Within.bind
      (deleteKey_fading _ (fun ps f => { ps with byId := f }) (fun _ _ => rfl) _)
    fun _ => deleteKey_fading _ (fun ps f => { ps with byName := f }) (fun _ _ => rfl) _

def unlisted (s : Server) (p : PlayerRef) : Server :=
  { s with players := { s.players with list := s.players.list.erase p } }

theorem playersRemove_run_listed {s : Server} {q : PlayerRef} (hq : q ∈ s.players.list) :
    playersRemove q s = forgetKeys (s.player q) (unlisted s q) := by
  unfold playersRemove
  rw [read_bind_run, if_pos hq]
  rfl

theorem playersRemove_fading (q : PlayerRef) : Within (Fading p) (playersRemove q) := by
  intro s
  unfold Moves
  by_cases hq : q ∈ s.players.list
  · rw [playersRemove_run_listed hq]
    have hunlisted : Fading p s (unlisted s q) :=
      ⟨rfl, Nat.le_refl _, List.length_erase_le, Nat.le_refl _⟩
    exact hunlisted.trans (forgetKeys_fading (s.player q) _)
  · rw [playersRemove_run_absent hq]
    exact Fading.refl p s

-- The last lines of a logout.
def signOff (p : PlayerRef) : Handler Unit := do
  Prog.update fun s => s.modifyPlayer p fun player => { player with token := "" }
  let s ← Prog.read
  Prog.onlyIf (!(s.player p).restricted) (sendAll s.players.list (.logout (s.player p).id))

theorem signOff_fading : Within (Fading p) (signOff p) := by
  refine Within.bind (Within.update fun s => ?_) fun _ => Within.read_bind fun s => ?_
  · exact ⟨by simp [Server.modifyPlayer], by simp [Server.modifyPlayer], Nat.le_refl _,
      Nat.le_refl _⟩
  · exact Within.onlyIf (sendAll_fading _ _) s

end Fading

section Logout

variable {p : PlayerRef} {s t : Server}

theorem leaveMatch_ok_place (h : leaveMatch p s = (.ok (), t)) :
    (t.player p).matchRef = none := by
  rcases hr : (s.player p).matchRef with _ | r
  · rw [leaveMatch_run_none hr] at h
    cases h
    exact hr
  rcases hi : (s.matchAt r).getSlotId p with _ | i
  · rw [leaveMatch_run_unseated hr hi] at h
    cases h
  rw [leaveMatch_run hr hi] at h
  obtain ⟨_, u, -, h⟩ := bind_eq_ok h
  obtain ⟨_, v, -, h⟩ := bind_eq_ok h
  cases h
  rw [standUp_player]
  exact if_pos rfl

theorem leaveMatch_of_logout (h : logout p s = (.ok (), s)) :
    (s.player p).matchRef = none ∧ closeSession p s = (.ok (), s) := by
  obtain ⟨_, u, hleave, hclose⟩ := bind_eq_ok h
  have hcalm := (closeSession_calm p).run hclose
  have hr : (s.player p).matchRef = none := (hcalm.place p).trans (leaveMatch_ok_place hleave)
  rw [leaveMatch_run_none hr] at hleave
  cases hleave
  exact ⟨hr, hclose⟩

def closeChannels (p : PlayerRef) : Handler Unit := do
  let s ← Prog.read
  leaveChannels p (s.player p).channels.length
  playersRemove p
  signOff p

theorem closeChannels_fading : Within (Fading p) (closeChannels p) := by
  refine Within.read_bind fun s => Within.moves (Within.bind (leaveChannels_fading _) fun _ => ?_)
  exact Within.bind (playersRemove_fading p) fun _ => signOff_fading

theorem removeSpectator_ok_spectating {host : PlayerRef} (h : removeSpectator host p s = (.ok (), t)) :
    (t.player p).spectating = none := by
  unfold removeSpectator at h
  rw [read_bind_run] at h
  split at h
  swap
  · cases h
  rw [update_bind_run, update_bind_run] at h
  let u := (s.modifyPlayer host fun player =>
    { player with spectators := player.spectators.erase p }).modifyPlayer p fun player =>
      { player with spectating := none }
  have hu : (u.player p).spectating = none := by simp [u, Server.modifyPlayer]
  rcases hc : s.channelByName (spectatorChannelName s host) with _ | c
  · simp only [hc] at h
    cases h
  simp only [hc] at h
  have hrest : ∀ (x : Handler Unit), Within ChannelWork x → x u = (.ok (), t) →
      (t.player p).spectating = none := by
    intro x hx hrun
    rw [(hx.run hrun).player p]
    exact hu
  refine hrest _ ?_ h
  refine Within.bind (leaveChannel_work p c true) fun _ => Within.read_bind fun v => ?_
  refine Within.moves (Within.bind (Within.onlyIf (leaveChannel_work host c true)) fun _ => ?_)
  refine Within.bind (Within.onlyIf ?_) fun _ => send_work host _
  refine Within.bind (Within.lift _) fun info => Within.bind (send_work host info) fun _ => ?_
  exact Within.bind (sendAll_work _ _) fun _ => sendAll_work _ _

theorem quitSpectating_of_closeSession (h : closeSession p s = (.ok (), s)) :
    (s.player p).spectating = none ∧ closeChannels p s = (.ok (), s) := by
  obtain ⟨_, u, hquit, hclose⟩ := bind_eq_ok h
  have hclose' : closeChannels p u = (.ok (), s) := hclose
  have hfading := closeChannels_fading.run hclose'
  have hnone : (u.player p).spectating = none := by
    unfold quitSpectating at hquit
    rw [read_bind_run] at hquit
    rcases hs : (s.player p).spectating with _ | host
    · simp only [hs] at hquit
      cases hquit
      exact hs
    · simp only [hs] at hquit
      exact removeSpectator_ok_spectating hquit
  have hs : (s.player p).spectating = none := hfading.spectating.trans hnone
  unfold quitSpectating at hquit
  rw [read_bind_run] at hquit
  simp only [hs] at hquit
  cases hquit
  exact ⟨hs, hclose'⟩

-- A pass over a channel makes the list of channels shorter.
theorem leaveChannel_ok_length {c : ChannelRef} {kick : Bool} (hp : p ∈ (s.channel c).players)
    (h : leaveChannel p c kick s = (.ok (), t)) :
    (t.player p).channels.length < (s.player p).channels.length := by
  unfold leaveChannel at h
  rw [read_bind_run, if_pos hp] at h
  obtain ⟨_, u, hremove, h⟩ := bind_eq_ok h
  obtain ⟨_, v, hforget, h⟩ := bind_eq_ok h
  have hu : (u.player p).channels.length ≤ (s.player p).channels.length :=
    ((channelRemove_fading c p).run hremove).channels
  have hv : (v.player p).channels.length < (s.player p).channels.length := by
    unfold forgetChannel at hforget
    rw [read_bind_run] at hforget
    split at hforget
    · rename_i hmem
      cases hforget
      have hpos := List.length_pos_of_mem hmem
      have herase := List.length_erase_of_mem hmem
      simp only [Server.modifyPlayer, Function.update_self]
      omega
    · cases hforget
  have ht : (t.player p).channels.length ≤ (v.player p).channels.length := by
    have hrest : Within (Fading p) (do
        Prog.onlyIf kick (send p (.channelKick (s.channel c).name))
        announceCount c) :=
      Within.bind (Within.onlyIf (Within.update fun w => Fading.enqueue w _ _)) fun _ =>
        announceCount_fading c
    exact (hrest.run h).channels
  omega

theorem leaveChannels_cons_ok {c : ChannelRef} {rest : List ChannelRef} {passes : Nat}
    (hc : (s.player p).channels = c :: rest) (h : leaveChannels p (passes + 1) s = (.ok (), t)) :
    p ∈ (s.channel c).players ∧
      (leaveChannel p c false >>= fun _ => leaveChannels p passes) s = (.ok (), t) := by
  unfold leaveChannels at h
  rw [read_bind_run] at h
  simp only [hc] at h
  split at h
  · exact ⟨‹_›, h⟩
  · cases h

theorem channels_of_closeChannels (h : closeChannels p s = (.ok (), s)) :
    (s.player p).channels = [] ∧ (playersRemove p >>= fun _ => signOff p) s = (.ok (), s) := by
  unfold closeChannels at h
  rw [read_bind_run] at h
  rcases hc : (s.player p).channels with _ | ⟨c, rest⟩
  · rw [hc] at h
    exact ⟨rfl, h⟩
  exfalso
  rw [hc] at h
  obtain ⟨_, u, hleave, h⟩ := bind_eq_ok h
  have hafter : (s.player p).channels.length ≤ (u.player p).channels.length := by
    have hrest : Within (Fading p) (playersRemove p >>= fun _ => signOff p) :=
      Within.bind (playersRemove_fading p) fun _ => signOff_fading
    exact (hrest.run h).channels
  obtain ⟨hp, hpasses⟩ := leaveChannels_cons_ok hc hleave
  obtain ⟨_, v, hfirst, hothers⟩ := bind_eq_ok hpasses
  have hshort := leaveChannel_ok_length hp hfirst
  have hle : (u.player p).channels.length ≤ (v.player p).channels.length :=
    ((leaveChannels_fading rest.length).run hothers).channels
  omega

theorem listed_of_playersRemove (h : (playersRemove p >>= fun _ => signOff p) s = (.ok (), s)) :
    p ∉ s.players.list ∧ signOff p s = (.ok (), s) := by
  obtain ⟨_, u, hremove, h⟩ := bind_eq_ok h
  by_cases hp : p ∈ s.players.list
  swap
  · rw [playersRemove_run_absent hp] at hremove
    cases hremove
    exact ⟨hp, h⟩
  exfalso
  have hu : u.players.list.length < s.players.list.length := by
    rw [playersRemove_run_listed hp] at hremove
    have hle := ((forgetKeys_fading (p := p) (s.player p)).run hremove).list
    have herase := List.length_erase_of_mem hp
    have hpos := List.length_pos_of_mem hp
    have hunlisted : (unlisted s p).players.list = s.players.list.erase p := rfl
    rw [hunlisted] at hle
    omega
  have hle : s.players.list.length ≤ u.players.list.length := (signOff_fading.run h).list
  omega

theorem enqueueAll_sent_lt {qs : List PlayerRef} {packet : ServerPacket} {q : PlayerRef}
    (hq : q ∈ qs) (hbot : (s.player q).isBotClient = false) :
    s.sent.length < (s.enqueueAll qs packet).sent.length := by
  unfold Server.enqueueAll
  induction qs generalizing s with
  | nil => cases hq
  | cons q' rest ih =>
    have hplayer : (s.enqueue q' packet).player = s.player := by
      unfold Server.enqueue
      split <;> rfl
    rcases List.mem_cons.mp hq with rfl | hrest
    · have hgrown : s.sent.length < (s.enqueue q packet).sent.length := by
        simp [Server.enqueue, hbot]
      have hafter := (Fading.enqueueAll (p := q) (s.enqueue q packet) rest packet).sent
      exact Nat.lt_of_lt_of_le hgrown hafter
    · have hbefore := (Fading.enqueue (p := q) s q' packet).sent
      have hafter := ih (s := s.enqueue q' packet) hrest (by rw [hplayer]; exact hbot)
      exact Nat.lt_of_le_of_lt hbefore hafter

theorem enqueueAll_bots {qs : List PlayerRef} (packet : ServerPacket)
    (h : ∀ q ∈ qs, (s.player q).isBotClient) : s.enqueueAll qs packet = s := by
  unfold Server.enqueueAll
  induction qs with
  | nil => rfl
  | cons q rest ih =>
    have hq : s.enqueue q packet = s := if_pos (h q List.mem_cons_self)
    rw [List.foldl_cons, hq]
    exact ih fun q' hq' => h q' (List.mem_cons_of_mem q hq')

theorem token_of_signOff (h : signOff p s = (.ok (), s)) :
    (s.player p).token = "" ∧
      ((s.player p).restricted ∨ ∀ q ∈ s.players.list, (s.player q).isBotClient) := by
  unfold signOff at h
  rw [update_bind_run, read_bind_run] at h
  let u := s.modifyPlayer p fun player => { player with token := "" }
  have hu : (u.player p).token = "" := by simp [u, Server.modifyPlayer]
  have hrestricted : (u.player p).restricted = (s.player p).restricted := by
    simp [u, Server.modifyPlayer, Player.restricted]
  have hbots : ∀ q, (u.player q).isBotClient = (s.player q).isBotClient := by
    intro q
    by_cases hq : q = p
    · subst hq
      simp [u, Server.modifyPlayer]
    · simp [u, Server.modifyPlayer, hq]
  have hrun : (Prog.onlyIf (!(u.player p).restricted)
      (sendAll u.players.list (.logout (u.player p).id)) : Handler Unit) u = (.ok (), s) := h
  unfold Prog.onlyIf at hrun
  split at hrun
  · rename_i hfree
    have hs : u.enqueueAll u.players.list (.logout (u.player p).id) = s := congrArg Prod.snd hrun
    have hquiet : ∀ q ∈ u.players.list, (u.player q).isBotClient := by
      intro q hq
      by_contra hbot
      have hgrown := @enqueueAll_sent_lt _ _ (.logout (u.player p).id) _ hq
        (Bool.not_eq_true _ ▸ hbot)
      rw [hs] at hgrown
      exact Nat.lt_irrefl _ hgrown
    rw [enqueueAll_bots _ hquiet] at hs
    refine ⟨by rw [← hs]; exact hu, Or.inr fun q hq => ?_⟩
    rw [← hbots]
    exact hquiet q hq
  · rename_i hrest
    have hs : u = s := congrArg Prod.snd hrun
    refine ⟨by rw [← hs]; exact hu, Or.inl ?_⟩
    rw [← hrestricted]
    simpa using hrest

theorem logout_eq_self_iff : logout p s = (.ok (), s) ↔ Gone s p := by
  constructor
  · intro h
    obtain ⟨hmatch, hclose⟩ := leaveMatch_of_logout h
    obtain ⟨hspectating, hchannels⟩ := quitSpectating_of_closeSession hclose
    obtain ⟨hempty, hremove⟩ := channels_of_closeChannels hchannels
    obtain ⟨hlisted, hsign⟩ := listed_of_playersRemove hremove
    obtain ⟨htoken, hquiet⟩ := token_of_signOff hsign
    exact ⟨hmatch, hspectating, hempty, hlisted, htoken, hquiet⟩
  · intro h
    have htoken : s.modifyPlayer p (fun player => { player with token := "" }) = s := by
      have hplayer : { s.player p with token := "" } = s.player p := by rw [← h.token]
      show { s with player := Function.update s.player p { s.player p with token := "" } } = s
      rw [hplayer, Function.update_eq_self]
    have hquit : quitSpectating p s = (.ok (), s) := by
      unfold quitSpectating
      rw [read_bind_run]
      simp only [h.spectating]
      rfl
    have hsign : signOff p s = (.ok (), s) := by
      unfold signOff
      rw [update_bind_run, htoken, read_bind_run]
      unfold Prog.onlyIf
      split
      · rename_i hfree
        have hquiet := h.quiet.resolve_left (by simpa using hfree)
        exact congrArg (Prod.mk _) (enqueueAll_bots _ hquiet)
      · rfl
    unfold logout
    rw [bind_run_ok (leaveMatch_run_none h.match_)]
    unfold closeSession
    rw [bind_run_ok hquit, read_bind_run]
    have hnone : leaveChannels p (s.player p).channels.length s = (.ok (), s) := by
      rw [h.channels]
      rfl
    rw [bind_run_ok hnone, bind_run_ok (playersRemove_run_absent h.listed)]
    exact hsign

end Logout

section Request

variable {o : Outside} {body : List UInt8} {s : Server} {refusal : Refusal}

theorem session_not_refused (x : Handler Unit) (token : String) :
    ((x >>= fun _ => pure (LoginResponse.session token)) s).1 ≠
      .ok (LoginResponse.refused refusal) := by
  rw [bind_run]
  intro h
  split at h
  · cases h
  · cases h

theorem finishLogin_refused {request : Request}
    (h : (finishLogin o request s).1 = .ok (.refused refusal)) :
    (finishLogin o request s).2 = s := by
  unfold finishLogin at h ⊢
  rw [read_bind_run] at h ⊢
  rcases hcheck : checkAccount o s.domain request with e | refused | user
  · rfl
  · rfl
  rw [hcheck] at h
  let profile : Profile :=
    { id := user.id
      name := user.name
      token := o.token
      priv := user.priv
      silenceEnd := user.silenceEnd
      loginTime := o.loginTime }
  exact absurd h (session_not_refused (login profile) o.token)

theorem replaceSession_cases (o : Outside) (request : Request) (s : Server) :
    (inactive o s request = none ∧ ∃ free, replaceSession o.lastRecvTime request.data.username
        (request.version.stream == .tourney) o.loginTime s = (.ok free, s)) ∨
      ∃ p, inactive o s request = some p ∧ replaceSession o.lastRecvTime request.data.username
        (request.version.stream == .tourney) o.loginTime s =
          (logout p >>= fun _ => pure true) s := by
  unfold inactive replaceSession
  rw [read_bind_run]
  rcases hfound : s.getByName request.data.username with _ | p
  · exact Or.inl ⟨by simp, true, rfl⟩
  dsimp only
  by_cases htourney : request.version.stream = .tourney
  · rw [if_pos htourney, if_pos (beq_iff_eq.mpr htourney)]
    exact Or.inl ⟨rfl, true, rfl⟩
  rw [if_neg htourney, if_neg (fun h => htourney (beq_iff_eq.mp h))]
  by_cases hactive : o.loginTime - o.lastRecvTime p < 10
  · rw [if_pos hactive, Option.filter_some_neg (by simpa using hactive)]
    exact Or.inl ⟨rfl, false, rfl⟩
  · rw [if_neg hactive]
    exact Or.inr ⟨p, Option.filter_some_pos (decide_eq_true hactive), rfl⟩

-- Login that refuses leaves everything as it was exactly when it has replaced no
-- session, or one that was gone already.
theorem refused_unchanged_iff (o : Outside) (body : List UInt8) (s : Server) (refusal : Refusal)
    (h : (handleOsuLoginRequest o body s).1 = .ok (.refused refusal)) :
    (handleOsuLoginRequest o body s).2 = s ↔ ∀ p ∈ replaced o s body, Gone s p := by
  have hnone : replaced o s body = none → (handleOsuLoginRequest o body s).2 = s →
      ((handleOsuLoginRequest o body s).2 = s ↔ ∀ p ∈ replaced o s body, Gone s p) := by
    intro hreplaced hsame
    rw [hreplaced]
    exact ⟨fun _ _ hp => (Option.not_mem_none _ hp).elim, fun _ => hsame⟩
  rcases hcheck : checkClient o body with e | refused | request
  · unfold handleOsuLoginRequest at h
    rw [hcheck] at h
    cases h
  · refine hnone (by simp [replaced, hcheck]) ?_
    unfold handleOsuLoginRequest
    rw [hcheck]
    rfl
  have hreplaced : replaced o s body = inactive o s request := by
    unfold replaced
    rw [hcheck]
  have hrun : handleOsuLoginRequest o body s = (replaceSession o.lastRecvTime request.data.username
      (request.version.stream == .tourney) o.loginTime >>= fun free =>
        if free then finishLogin o request
        else pure (.refused Refusal.alreadyLoggedIn) : Handler LoginResponse) s := by
    unfold handleOsuLoginRequest
    rw [hcheck]
    rfl
  rcases replaceSession_cases o request s with ⟨hinactive, free, hfree⟩ | ⟨p, hinactive, hreplace⟩
  · refine hnone (hreplaced.trans hinactive) ?_
    rw [hrun, bind_run_ok hfree] at h ⊢
    cases free with
    | true => exact finishLogin_refused h
    | false => rfl
  rw [hreplaced, hinactive]
  have hiff := logout_eq_self_iff (p := p) (s := s)
  rcases hlogout : logout p s with ⟨e | _, u⟩
  · rw [bind_run_error hlogout] at hreplace
    rw [hrun, bind_run_error hreplace] at h
    cases h
  rw [bind_run_ok hlogout] at hreplace
  rw [hrun, bind_run_ok hreplace] at h ⊢
  have hsame : (finishLogin o request u).2 = u := finishLogin_refused h
  simp only [if_true]
  rw [hsame]
  rw [hlogout] at hiff
  constructor
  · rintro rfl q hq
    obtain rfl : p = q := Option.some.inj hq
    exact hiff.mp rfl
  · intro hgone
    exact congrArg Prod.snd (hiff.mpr (hgone p rfl))

def asciiDigit (c : Char) : Option Nat := if c.isDigit then some (c.toNat - 48) else none

-- Nobody's password is right, and all sessions were last heard of at 0.
def wrongPassword (loginTime : Int) : Outside :=
  { numerals :=
      { digit := asciiDigit
        int := fun text => (text.toList.mapM asciiDigit).map fun digits => ofDigits digits }
    disallowOldClients := false
    allowedVersions := fun _ => .ok none
    loginTime := loginTime
    lastRecvTime := fun _ => 0
    authenticate := fun _ _ => .ok none
    recordLogin := fun _ _ => .ok ()
    recordClientHashes := fun _ _ => .ok ()
    hardwareMatches := fun _ _ _ _ => .ok []
    geoloc := .ok none
    updateCountry := fun _ _ => .ok ()
    passwordHash := fun _ => .ok none
    token := "" }

-- A player named 11 is online, and somebody tries to log in as 11.
def oneOnline : Server := (runFrom World.step (Setup.start {}) [visit 11]).server

def guess : List UInt8 := "11\nguess\nb20250101|0|0|p:1.:a:u:d:|0\n".toUTF8.data.toList

-- An active session is left alone.
theorem refused_unchanged_iff_active :
    (handleOsuLoginRequest (wrongPassword 5) guess oneOnline).2 = oneOnline ↔
      ∀ p ∈ replaced (wrongPassword 5) oneOnline guess, Gone oneOnline p :=
  refused_unchanged_iff (wrongPassword 5) guess oneOnline Refusal.alreadyLoggedIn
    (by decide)

-- The session of somebody who was silent for 100 seconds ends with the guess.
theorem refused_changes_inactive :
    (handleOsuLoginRequest (wrongPassword 100) guess oneOnline).1 =
        .ok (.refused (Refusal.incorrectCredentials "")) ∧
      (handleOsuLoginRequest (wrongPassword 100) guess oneOnline).2 ≠ oneOnline := by
  constructor
  · decide
  · intro h
    have hlist := congrArg (fun s : Server => s.players.list) h
    revert hlist
    decide

end Request

end BanchoPrism.Login
