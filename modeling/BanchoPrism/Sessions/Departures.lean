import BanchoPrism.Login.Registry
import BanchoPrism.Multiplayer.Lenient.Events
import BanchoPrism.Sessions.Thinning

namespace BanchoPrism

open Library Prog

-- What a handler comes to: the two sides of the channels and of spectating agree, everyone is in
-- the match and watches whom they should, and only some exceptions are raised.
structure Ends {α : Type} (seats : PlayerRef → Option MatchRef) (raised : PyError → Prop)
    (watched : PlayerRef → Option PlayerRef) (outcome : Except PyError α × Server) : Prop where
  rostered : RosteredIn seats outcome.2
  spectating : ∀ q, (outcome.2.player q).spectating = watched q
  raised : ∀ e, outcome.1 = .error e → raised e

section Rules

variable {α β : Type} {seats : PlayerRef → Option MatchRef} {raised raised' : PyError → Prop}
  {watched : PlayerRef → Option PlayerRef} {s : Server}

theorem Ends.mono {outcome : Except PyError α × Server} (h : Ends seats raised watched outcome)
    (hraised : ∀ e, raised e → raised' e) : Ends seats raised' watched outcome :=
  ⟨h.rostered, h.spectating, fun e he => hraised e (h.raised e he)⟩

theorem Ends.bind {x : Handler α} {f : α → Handler β} (hx : Ends seats raised watched (x s))
    (hf : ∀ a t, x s = (.ok a, t) → RosteredIn seats t →
      (∀ q, (t.player q).spectating = watched q) → Ends seats raised watched (f a t)) :
    Ends seats raised watched ((x >>= f) s) := by
  rcases hrun : x s with ⟨e | a, t⟩
  · rw [hrun] at hx
    rw [bind_run_error hrun]
    refine ⟨hx.rostered, hx.spectating, fun e' he => ?_⟩
    cases he
    exact hx.raised e rfl
  · rw [hrun] at hx
    rw [bind_run_ok hrun]
    exact hf a t hrun hx.rostered hx.spectating

theorem Ends.of_told {x : Handler α} (hx : Within Told x)
    (hraised : ∀ e, (x s).1 = .error e → raised e) (h : RosteredIn seats s)
    (hwatched : ∀ q, (s.player q).spectating = watched q) :
    Ends seats raised watched (x s) := by
  obtain ⟨sent, hsent⟩ := hx s
  exact ⟨hsent ▸ RosteredBut.sent h sent, fun q => hsent ▸ hwatched q, hraised⟩

theorem Ends.send (p : PlayerRef) (packet : ServerPacket) (h : RosteredIn seats s)
    (hwatched : ∀ q, (s.player q).spectating = watched q) :
    Ends seats raised watched (send p packet s) :=
  Ends.of_told (send_told p packet) (fun _ he => by cases he) h hwatched

theorem Ends.sendAll (ps : List PlayerRef) (packet : ServerPacket) (h : RosteredIn seats s)
    (hwatched : ∀ q, (s.player q).spectating = watched q) :
    Ends seats raised watched (sendAll ps packet s) :=
  Ends.of_told (sendAll_told ps packet) (fun _ he => by cases he) h hwatched

-- Only a count that was too large before is too large after.
theorem Ends.leaveChannel {p : PlayerRef} {c : ChannelRef}
    (hoverflow : 2 ^ 16 ≤ (s.channel c).players.length → raised .overflow) (kick : Bool)
    (h : RosteredIn seats s) (hwatched : ∀ q, (s.player q).spectating = watched q) :
    Ends seats raised watched (leaveChannel p c kick s) := by
  by_cases hp : p ∈ (s.channel c).players
  · obtain ⟨result, sent, hrun, hresult⟩ := leaveChannel_run h hp kick
    rw [hrun]
    refine ⟨RosteredBut.sent (h.leaving hp) sent, fun q => ?_, fun e he => ?_⟩
    · change ((left s c p).player q).spectating = _
      rw [left_player]
      exact hwatched q
    · rcases hresult with rfl | ⟨rfl, hcount⟩
      · cases he
      · cases he
        rw [left, parted_members] at hcount
        exact hoverflow (hcount.trans (List.length_erase_le ..))
  · rw [leaveChannel_absent hp]
    exact ⟨h, hwatched, fun e he => by cases he⟩

end Rules

-- What stops a spectator from leaving: the channel of the host is gone, or its count is too large.
inductive Stuck (s : Server) (host : PlayerRef) : PyError → Prop
  | gone (h : s.channelByName (spectatorChannelName s host) = none) : Stuck s host .assertion
  | crowded {c : ChannelRef} (h : s.channelByName (spectatorChannelName s host) = some c)
      (hcount : 2 ^ 16 ≤ (s.channel c).players.length) : Stuck s host .overflow

-- What stops the player p from leaving all channels: one of them counts too many.
def Crowded (s : Server) (p : PlayerRef) (e : PyError) : Prop :=
  e = .overflow ∧ ∃ c, p ∈ (s.channel c).players ∧ 2 ^ 16 ≤ (s.channel c).players.length

section Quitting

variable {seats : PlayerRef → Option MatchRef} {s : Server} {p host : PlayerRef}

theorem channelInfo_error {channel : Channel} {e : PyError} (h : channelInfo channel = .error e) :
    e = .overflow ∧ 2 ^ 16 ≤ channel.players.length := by
  unfold channelInfo require at h
  split at h
  · cases h
  · rename_i hfits
    cases h
    refine ⟨rfl, ?_⟩
    simp only [fitsUnsigned, Bool.and_eq_true, decide_eq_true_eq, not_and, not_lt] at hfits
    have hcount := hfits (Int.natCast_nonneg _)
    omega

theorem removeSpectator_ends (h : RosteredIn seats s)
    (hsome : (s.player p).spectating = some host) :
    Ends seats (Stuck s host) (fun q => if q = p then none else (s.player q).spectating)
      (removeSpectator host p s) := by
  have hunwatched := h.unwatch hsome
  have hwatched : ∀ q, ((watching s host p (·.erase p) none).player q).spectating =
      if q = p then none else (s.player q).spectating := fun _ => watching_spectating
  unfold removeSpectator
  rw [read_bind_run, if_pos ((h.watches host p).mpr hsome), update_bind_run, update_bind_run]
  cases hfound : s.channelByName (spectatorChannelName s host) with
  | none =>
    refine ⟨hunwatched, hwatched, fun e he => ?_⟩
    cases he
    exact .gone hfound
  | some c =>
    refine Ends.bind (Ends.leaveChannel (.crowded hfound) true hunwatched hwatched)
      fun _ t hleave ht hwt => ?_
    have hfewer : (t.channel c).players.length ≤ (s.channel c).players.length :=
      (((leaveChannel_own p c true).run hleave).fewer c).length_le
    rw [read_bind_run]
    refine Ends.bind ?_ fun _ u _ hu hwu => Ends.bind ?_ fun _ v _ hv hwv => ?_
    · unfold onlyIf
      split
      · exact Ends.leaveChannel (fun hcount => .crowded hfound (hcount.trans hfewer)) true ht hwt
      · exact ⟨ht, hwt, fun e he => by cases he⟩
    · unfold onlyIf
      split
      · cases hinfo : channelInfo (t.channel c) with
        | error e =>
          refine ⟨hu, hwu, fun e' he => ?_⟩
          cases he
          obtain ⟨rfl, hcount⟩ := channelInfo_error hinfo
          exact .crowded hfound (hcount.trans hfewer)
        | ok info =>
          rw [bind_run_ok (lift_ok_run info u)]
          refine Ends.bind (Ends.send host info hu hwu) fun _ v _ hv hwv => ?_
          refine Ends.bind (Ends.sendAll _ _ hv hwv) fun _ v _ hv hwv => ?_
          exact Ends.sendAll _ _ hv hwv
      · exact ⟨hu, hwu, fun e he => by cases he⟩
    · exact Ends.send host _ hv hwv

-- The loop of logout ends: a pass takes one channel off the list of the player.
theorem leaveChannels_run {passes : Nat} (h : RosteredIn seats s)
    (hpasses : (s.player p).channels.length ≤ passes) :
    Ends seats (Crowded s p) (fun q => (s.player q).spectating) (leaveChannels p passes s) ∧
      ((leaveChannels p passes s).1 = .ok () →
        ((leaveChannels p passes s).2.player p).channels = []) := by
  induction passes generalizing s with
  | zero => exact ⟨⟨h, fun _ => rfl, fun e he => by cases he⟩,
      fun _ => List.eq_nil_of_length_eq_zero (Nat.le_zero.mp hpasses)⟩
  | succ passes ih =>
    unfold leaveChannels
    rw [read_bind_run]
    cases hchannels : (s.player p).channels with
    | nil => exact ⟨⟨h, fun _ => rfl, fun e he => by cases he⟩, fun _ => hchannels⟩
    | cons c rest =>
      have hp : p ∈ (s.channel c).players :=
        (h.roster.mem_iff c p).mpr (by
          change c ∈ (s.player p).channels
          rw [hchannels]
          exact List.mem_cons_self)
      dsimp only
      rw [if_pos hp]
      have hcrowded : 2 ^ 16 ≤ (s.channel c).players.length → Crowded s p .overflow :=
        fun hcount => ⟨rfl, c, hp, hcount⟩
      obtain ⟨result, sent, hrun, hresult⟩ := leaveChannel_run h hp false
      have hleft : RosteredIn seats { left s c p with sent := sent } :=
        RosteredBut.sent (h.leaving hp) sent
      have hsame : ∀ q, ((left s c p).player q).spectating = (s.player q).spectating := by
        intro q
        rw [left_player]
      rcases hresult with rfl | ⟨rfl, hcount⟩
      · rw [bind_run_ok hrun]
        have hshorter : ((left s c p).player p).channels = rest := by
          simp [left, parted, Server.modifyPlayer, Server.withoutMember, Server.modifyChannel,
            hchannels]
        obtain ⟨hends, hempty⟩ := ih hleft (by
          change ((left s c p).player p).channels.length ≤ passes
          rw [hshorter]
          rw [hchannels, List.length_cons] at hpasses
          omega)
        have hfewer := ((leaveChannel_own p c false).run hrun).fewer
        refine ⟨⟨hends.rostered, fun q => (hends.spectating q).trans (hsame q), ?_⟩, hempty⟩
        intro e he
        obtain ⟨rfl, g, hin, hcount⟩ := hends.raised e he
        exact ⟨rfl, g, (hfewer g).subset hin, hcount.trans (hfewer g).length_le⟩
      · rw [bind_run_error hrun]
        rw [left, parted_members] at hcount
        refine ⟨⟨hleft, hsame, fun e he => ?_⟩, fun hok => by cases hok⟩
        cases he
        exact hcrowded (hcount.trans (List.length_erase_le ..))

end Quitting

-- What keeps a session from its end.
inductive Logout (s : Server) (p : PlayerRef) : PyError → Prop
  | gone {host : PlayerRef} (hwatched : (s.player p).spectating = some host)
      (h : s.channelByName (spectatorChannelName s host) = none) : Logout s p .assertion
  -- a channel that p is in, or that p watches the host of, has more members than fit
  | crowded {c : ChannelRef}
      (hleft : p ∈ (s.channel c).players ∨ ∃ host ∈ (s.player p).spectating,
        s.channelByName (spectatorChannelName s host) = some c)
      (hcount : 2 ^ 16 ≤ (s.channel c).players.length) : Logout s p .overflow
  -- a key of the player list that another session of the same user has taken along
  | key (honline : p ∈ s.players.list) (hlost : ¬Login.Indexes s p) : Logout s p .key

-- The session is in no channel and off the list.
structure Gone (p : PlayerRef) (t : Server) : Prop where
  channels : (t.player p).channels = []
  offline : p ∉ t.players.list

section LoggingOut

variable {seats : PlayerRef → Option MatchRef} {s : Server} {p : PlayerRef}

theorem Gone.of_told {t : Server} (h : Gone p s) (htold : Told s t) : Gone p t := by
  obtain ⟨sent, rfl⟩ := htold
  exact ⟨h.channels, h.offline⟩

-- The players change, and nothing else.
theorem RosteredBut.of_players (h : RosteredIn seats s) {players : Players}
    (hnodup : players.list.Nodup) : RosteredIn seats { s with players := players } :=
  h.congr (fun _ => rfl) (fun _ => rfl) (fun _ => rfl) (fun _ => rfl) rfl rfl rfl hnodup

theorem playersRemove_outcome (p : PlayerRef) (s : Server) :
    ∃ result players, playersRemove p s = (result, { s with players := players }) ∧
      players.list = s.players.list.erase p ∧
        ∀ e, result = .error e → e = .key ∧ p ∈ s.players.list ∧ ¬Login.Indexes s p := by
  by_cases hp : p ∈ s.players.list
  · by_cases hkeys : Login.Indexes s p
    · exact ⟨.ok (), _, Login.playersRemove_run hp hkeys, rfl, fun e he => by cases he⟩
    · obtain ⟨players, hrun, hlist⟩ := Login.playersRemove_run_missing hp hkeys
      exact ⟨_, players, hrun, hlist, fun e he => by cases he; exact ⟨rfl, hp, hkeys⟩⟩
  · exact ⟨.ok (), s.players, Login.playersRemove_run_absent hp,
      (List.erase_of_not_mem hp).symm, fun e he => by cases he⟩

theorem quitSpectating_ends (h : RosteredIn seats s) :
    Ends seats (Logout s p) (fun q => if q = p then none else (s.player q).spectating)
      (quitSpectating p s) := by
  unfold quitSpectating
  rw [read_bind_run]
  cases hwatched : (s.player p).spectating with
  | none =>
    refine ⟨h, fun q => ?_, fun e he => by cases he⟩
    by_cases hq : q = p
    · subst hq
      rw [if_pos rfl]
      exact hwatched
    · rw [if_neg hq]
      rfl
  | some host =>
    refine (removeSpectator_ends h hwatched).mono fun e hstuck => ?_
    cases hstuck with
    | gone hgone => exact .gone hwatched hgone
    | crowded hfound hcount => exact .crowded (.inr ⟨host, hwatched, hfound⟩) hcount

-- The session p without its token, once the players are these.
def signedOff (s : Server) (p : PlayerRef) (players : Players) : Server :=
  { s with players := players }.modifyPlayer p fun player => { player with token := "" }

theorem signedOff_rostered {players : Players}
    (h : RosteredIn seats { s with players := players }) :
    RosteredIn seats (signedOff s p players) :=
  RosteredBut.modifyPlayer (f := fun player => { player with token := "" }) h (fun _ => rfl)
    (fun _ => rfl) (fun _ => rfl) (fun _ => rfl) p

theorem signedOff_spectating {players : Players} (q : PlayerRef) :
    ((signedOff s p players).player q).spectating = (s.player q).spectating := by
  by_cases hq : q = p <;> simp [signedOff, Server.modifyPlayer, hq]

theorem signedOff_channels {players : Players} (q : PlayerRef) :
    ((signedOff s p players).player q).channels = (s.player q).channels := by
  by_cases hq : q = p <;> simp [signedOff, Server.modifyPlayer, hq]

-- Nothing is left to raise but what the state before already had in the way of p.
theorem closeSession_run (h : RosteredIn seats s) (p : PlayerRef) :
    Ends seats (Logout s p) (fun q => if q = p then none else (s.player q).spectating)
        (closeSession p s) ∧
      ((closeSession p s).1 = .ok () → Gone p (closeSession p s).2) := by
  have hquit := quitSpectating_ends (p := p) h
  unfold closeSession
  rcases hfirst : quitSpectating p s with ⟨e | _, t⟩
  · rw [hfirst] at hquit
    rw [bind_run_error hfirst]
    exact ⟨⟨hquit.rostered, hquit.spectating, fun e' he => by cases he; exact hquit.raised e rfl⟩,
      fun hok => by cases hok⟩
  rw [hfirst] at hquit
  rw [bind_run_ok hfirst, read_bind_run]
  have hfewer : ∀ c, (t.channel c).players.Sublist (s.channel c).players := by
    have hthins := quitSpectating_thins p s
    unfold Moves at hthins
    rw [hfirst] at hthins
    exact hthins.fewer
  have hquitSame : SameRegistry s t := (quitSpectating_registry p).run hfirst
  obtain ⟨hleft, hempty⟩ := @leaveChannels_run _ t p _ hquit.rostered (Nat.le_refl _)
  rcases hsecond : leaveChannels p (t.player p).channels.length t with ⟨e | _, u⟩
  · rw [hsecond] at hleft
    rw [bind_run_error hsecond]
    refine ⟨⟨hleft.rostered, fun q => (hleft.spectating q).trans (hquit.spectating q),
      fun e' he => ?_⟩, fun hok => by cases hok⟩
    cases he
    obtain ⟨rfl, c, hin, hcount⟩ := hleft.raised e rfl
    exact .crowded (.inl ((hfewer c).subset hin)) (hcount.trans (hfewer c).length_le)
  rw [hsecond] at hleft hempty
  rw [bind_run_ok hsecond]
  have hsame : SameRegistry s u := hquitSame.trans ((leaveChannels_registry p _).run hsecond)
  obtain ⟨result, players, hthird, hlist, herror⟩ := playersRemove_outcome p u
  have hnodup : players.list.Nodup := hlist ▸ hleft.rostered.online.erase p
  have hwatched := fun q => (hleft.spectating q).trans (hquit.spectating q)
  rcases result with e | _
  · rw [bind_run_error hthird]
    refine ⟨⟨hleft.rostered.of_players hnodup, hwatched, fun e' he => ?_⟩, fun hok => by cases hok⟩
    cases he
    obtain ⟨rfl, honline, hlost⟩ := herror e rfl
    exact .key (hsame.players ▸ honline) ((Login.Indexes.of_same hsame).not.mp hlost)
  rw [bind_run_ok hthird, update_bind_run, read_bind_run]
  have hclosed : RosteredIn seats (signedOff u p players) :=
    signedOff_rostered (hleft.rostered.of_players hnodup)
  have hends : ∀ q, ((signedOff u p players).player q).spectating =
      if q = p then none else (s.player q).spectating :=
    fun q => (signedOff_spectating q).trans (hwatched q)
  change Ends seats _ _ (onlyIf _ (sendAll _ _) (signedOff u p players)) ∧
    (_ → Gone p (onlyIf _ (sendAll _ _) (signedOff u p players)).2)
  unfold onlyIf
  have hgone : Gone p (signedOff u p players) := by
    refine ⟨?_, ?_⟩
    · rw [signedOff_channels]
      exact hempty rfl
    · change p ∉ players.list
      rw [hlist]
      exact hleft.rostered.online.not_mem_erase
  split
  · exact ⟨Ends.sendAll _ _ hclosed hends, fun _ => hgone.of_told (sendAll_told _ _ _)⟩
  · exact ⟨⟨hclosed, hends, fun e he => by cases he⟩, fun _ => hgone⟩

-- A session that logs out takes nobody's host away but its own, and if nothing stops it, it is in
-- no channel and off the list. No exception is that of a list, and no loop runs on.
theorem logout_run (h : Rostered s) (p : PlayerRef) :
    Ends (fun _ => none) (Logout s p)
        (fun q => if q = p then none else (s.player q).spectating) (logout p s) ∧
      ((logout p s).1 = .ok () → Gone p (logout p s).2) := by
  have hrun : logout p s = closeSession p s := by
    unfold logout
    rw [bind_run_ok (leaveMatch_run_none (h.place p))]
  rw [hrun]
  exact closeSession_run h p

end LoggingOut

-- What clients do outside of matches.
def Packet.social : Packet → Bool
  | logout | partLobby | joinLobby | channelJoin _ | channelPart _ | startSpectating _
  | stopSpectating | cantSpectate | sendMessage _ _ none => true
  | _ => false

def Event.social : Event → Bool
  | login _ | disconnect _ | silence _ _ _ => true
  | packet _ asked _ => asked.social
  | resume _ _ _ | startTimer _ => false

section Handling

variable {s : Server} {p host : PlayerRef}

theorem modifyPlayer_rosters {f : Player → Player}
    (hmatch : ∀ player, (f player).matchRef = player.matchRef)
    (hchannels : ∀ player, (f player).channels = player.channels)
    (hspectators : ∀ player, (f player).spectators = player.spectators)
    (hspectating : ∀ player, (f player).spectating = player.spectating) (p : PlayerRef) :
    Within Rosters (Prog.update fun s => s.modifyPlayer p f : Handler Unit) :=
  fun _ h => RosteredBut.modifyPlayer h hmatch hchannels hspectators hspectating p

theorem login_rosters (profile : Profile) : Within Rosters (BanchoPrism.login profile) := by
  intro s h
  unfold BanchoPrism.login
  rw [read_bind_run, update_bind_run, update_bind_run]
  refine (?_ : Within Rosters (playersAppend s.nextPlayer)) _ ?_
  · intro t ht
    unfold playersAppend
    rw [update_run]
    dsimp only
    split
    · exact ht
    · rename_i hout
      refine RosteredBut.of_players ht ?_
      rw [← List.concat_eq_append]
      exact ht.online.concat hout
  · exact RosteredBut.modifyPlayer (s := { s with nextPlayer := s.nextPlayer + 1 })
      (f := fun blank => { blank with
        id := profile.id, name := profile.name, safeName := s.makeSafeName profile.name,
        token := profile.token, priv := profile.priv, silenceEnd := profile.silenceEnd,
        loginTime := profile.loginTime, blocks := profile.blocks })
      (h.congr (fun _ => rfl) (fun _ => rfl) (fun _ => rfl) (fun _ => rfl) rfl rfl rfl h.online)
      (fun _ => rfl) (fun _ => rfl) (fun _ => rfl) (fun _ => rfl) s.nextPlayer

theorem logout_rosters (p : PlayerRef) : Within Rosters (BanchoPrism.logout p) :=
  fun _ h => (logout_run h p).1.rostered

theorem lobbyJoin_rosters (p : PlayerRef) : Within Rosters (lobbyJoin p) := by
  have hannounce (r : MatchRef) : Within Told (announceMatch p r) := by
    refine Within.read_bind fun s => Within.moves (Within.attempt ?_ fun e => ?_)
    · exact Within.bind (Within.lift _) fun _ => send_told p _
    · exact Within.ite (Within.pure ()) (Within.raise e)
  refine Within.bind (modifyPlayer_rosters (f := fun player => { player with inLobby := true })
    (fun _ => rfl) (fun _ => rfl) (fun _ => rfl) (fun _ => rfl) p) fun _ => ?_
  exact Within.read_bind fun s => (Within.each hannounce _).rosters s

theorem channelJoin_rosters (p : PlayerRef) (name : String) :
    Within Rosters (channelJoin p name) := by
  refine Within.read_bind fun s => Moves.ite (fun _ => Moves.pure ()) fun _ => ?_
  split
  · rename_i c hfound
    exact Moves.bind (joinChannel_rosters (channelByName_mem hfound)) fun _ _ _ => Moves.pure ()
  · exact Moves.pure ()

theorem channelPart_rosters (p : PlayerRef) (name : String) :
    Within Rosters (channelPart p name) := by
  refine Within.read_bind fun s => Moves.ite (fun _ => Moves.pure ()) fun _ => ?_
  split
  · exact leaveChannel_rosters p _ true s
  · exact Moves.pure ()

-- The packet and the logout do the same.
theorem stopSpectating_eq (p : PlayerRef) : stopSpectating p = quitSpectating p := by
  unfold stopSpectating quitSpectating
  refine congrArg _ (funext fun s => ?_)
  cases (s.player p).spectating <;> rfl

theorem stopSpectating_rosters (p : PlayerRef) : Within Rosters (stopSpectating p) := by
  intro s h
  rw [stopSpectating_eq]
  exact (quitSpectating_ends h).rostered

theorem startSpectating_rosters (p : PlayerRef) (targetId : Int) :
    Within Rosters (startSpectating p targetId) := by
  refine Within.read_bind fun s => ?_
  split
  · exact Moves.pure ()
  rename_i newHost _
  split
  · rename_i hnone
    exact addSpectator_rosters hnone newHost
  · rename_i host hsome
    refine Moves.ite (fun _ => Moves.ite (fun _ => Moves.pure ()) fun _ => ?_) fun _ h => ?_
    · refine Within.moves (Within.rosters ?_)
      exact Within.bind (send_told _ _) fun _ => sendAll_told _ _
    · have hends := removeSpectator_ends h hsome
      rcases hrun : removeSpectator host p s with ⟨e | _, t⟩
      · rw [hrun] at hends
        rw [bind_run_error hrun]
        exact hends.rostered
      · rw [hrun] at hends
        rw [bind_run_ok hrun]
        refine addSpectator_rosters ?_ newHost hends.rostered
        rw [hends.spectating p, if_pos rfl]

theorem cantSpectate_rosters (p : PlayerRef) : Within Rosters (cantSpectate p) := by
  refine Within.rosters (Within.read_bind fun s => ?_)
  split
  · exact Moves.pure ()
  · refine Within.moves (Within.ite (Within.pure ()) ?_)
    exact Within.bind (send_told _ _) fun _ => sendAll_told _ _

theorem sendMessage_rosters (p : PlayerRef) (text recipient : String) (clock : Clock) :
    Within Rosters (sendMessage p text recipient none clock) := by
  refine Within.rosters (Within.read_bind fun s => Moves.ite (fun _ => Moves.pure none) fun _ => ?_)
  split
  · exact Moves.pure none
  · refine Moves.ite (fun _ => Moves.pure none) fun _ => Within.moves ?_
    refine Within.bind (Within.ite ?_ (Within.pure text)) fun msg => ?_
    · exact Within.bind (send_told p _) fun _ => Within.pure _
    · exact Within.bind (Within.read_bind fun t => sendAll_told _ _ t) fun _ => Within.pure none

theorem silence_rosters (p : PlayerRef) (now duration : Int) :
    Within Rosters (silence p now duration) := by
  refine Within.bind (modifyPlayer_rosters
    (f := fun player => { player with silenceEnd := now + duration }) (fun _ => rfl)
    (fun _ => rfl) (fun _ => rfl) (fun _ => rfl) p) fun _ => ?_
  refine Within.read_bind fun s => Within.moves ?_
  refine Within.bind (send_rosters p _) fun _ => Within.bind (sendAll_rosters _ _) fun _ => ?_
  refine Within.ite (fun t ht => ?_) (Within.pure ())
  rw [leaveMatch_run_none (ht.place p)]
  exact ht

theorem Packet.social_rosters {packet : Packet} (hsocial : packet.social) (p : PlayerRef)
    (clock : Clock) : Within Rosters (packet.handle p clock) := by
  cases packet with
  | logout =>
    exact finished_within (Within.read_bind fun s =>
      Moves.ite (fun _ => Moves.pure ()) fun _ => logout_rosters p s)
  | partLobby =>
    exact finished_within (modifyPlayer_rosters
      (f := fun player => { player with inLobby := false }) (fun _ => rfl) (fun _ => rfl)
      (fun _ => rfl) (fun _ => rfl) p)
  | joinLobby => exact finished_within (lobbyJoin_rosters p)
  | channelJoin name => exact finished_within (channelJoin_rosters p name)
  | channelPart name => exact finished_within (channelPart_rosters p name)
  | startSpectating targetId => exact finished_within (startSpectating_rosters p targetId)
  | stopSpectating => exact finished_within (stopSpectating_rosters p)
  | cantSpectate => exact finished_within (cantSpectate_rosters p)
  | sendMessage text recipient mp =>
    cases mp with
    | none => exact sendMessage_rosters p text recipient clock
    | some given => cases hsocial
  | _ => cases hsocial

theorem step_rosters {w : World} {event : Event} (hsocial : event.social)
    (h : Rostered w.server) : Rostered (w.step event).server := by
  have hrun {handler : Handler (Option Suspended)} (hhandler : Within Rosters handler) :
      Rostered (w.runHandler handler).server := by
    rw [runHandler_server]
    exact hhandler w.server h
  have hrunFor {p : PlayerRef} {handler : Handler (Option Suspended)}
      (hhandler : Within Rosters handler) : Rostered (w.runFor p handler).server := by
    unfold World.runFor
    split
    · exact hrun hhandler
    · exact h
  cases event with
  | login profile => exact hrun (finished_within (login_rosters profile))
  | packet p packet clock => exact hrunFor (packet.social_rosters hsocial p clock)
  | disconnect p => exact hrunFor (finished_within (logout_rosters p))
  | silence p now duration => exact hrunFor (finished_within (silence_rosters p now duration))
  | _ => cases hsocial

end Handling

section Runs

theorem start_watching (setup : Setup) (q : PlayerRef) :
    (setup.start.server.player q).spectators = [] ∧
      (setup.start.server.player q).spectating = none := by
  unfold Setup.start
  extract_lets server bot
  obtain ⟨players, h⟩ := playersAppend_eq botRef (server.modifyPlayer botRef fun _ => bot)
  rw [h]
  by_cases hq : q = botRef
  · subst hq
    simp [Server.modifyPlayer, bot]
  · simp [Server.modifyPlayer, hq, server]

theorem start_channels (setup : Setup) :
    setup.start.server.channels = List.range setup.rows.length ∧
      setup.start.server.nextChannel = setup.rows.length := by
  unfold Setup.start
  extract_lets server bot
  obtain ⟨players, h⟩ := playersAppend_eq botRef (server.modifyPlayer botRef fun _ => bot)
  rw [h]
  exact ⟨rfl, rfl⟩

theorem start_online (setup : Setup) : setup.start.server.players.list = [botRef] := by
  rfl

theorem start_rostered (setup : Setup) : Rostered setup.start.server := by
  have hmembers := start_members setup
  have hgroups := fun q => (start_players setup q).2
  obtain ⟨hlist, hnext⟩ := start_channels setup
  have hspectators := fun q => (start_watching setup q).1
  have hspectating := fun q => (start_watching setup q).2
  exact {
    place := fun q => (start_players setup q).1
    roster := {
      mem_iff := fun c q => by simp [Server.roster, hmembers, hgroups]
      members_nodup := fun c => by simp [Server.roster, hmembers]
      groups_nodup := fun q => by simp [Server.roster, hgroups] }
    audience := {
      mem_iff := fun host q => by simp [Server.audience, hspectators, hspectating]
      members_nodup := fun host => by simp [Server.audience, hspectators]
      groups_nodup := fun q => by simp [Server.audience, hspectating] }
    listed := fun c _ hsome => absurd (hmembers c) hsome
    blank := fun c _ => hmembers c
    channels_lt := fun c hc => by
      rw [hlist] at hc
      rw [hnext]
      exact List.mem_range.mp hc
    online := by
      rw [start_online]
      exact List.nodup_singleton botRef }

theorem rostered_of_social (setup : Setup) {run : List Event} (h : ∀ event ∈ run, event.social) :
    Rostered (runFrom World.step setup.start run).server := by
  have hguard : Guarded World.step (fun _ event => event.social) setup.start run :=
    Guarded.of_forall h
  exact Guarded.invariant (fun w => Rostered w.server)
    (fun _ _ hrostered hsocial => step_rosters hsocial hrostered) (start_rostered setup) hguard

-- Players and channels tell the same story, and so do spectators and their hosts.
structure SidesAgree (s : Server) : Prop where
  channels : ∀ p c, c ∈ (s.player p).channels ↔ p ∈ (s.channel c).players
  channels_nodup : ∀ p, (s.player p).channels.Nodup
  players_nodup : ∀ c, (s.channel c).players.Nodup
  listed : ∀ c, (s.channel c).instanced → (s.channel c).players ≠ [] → c ∈ s.channels
  spectators : ∀ p host, p ∈ (s.player host).spectators ↔ (s.player p).spectating = some host
  spectators_nodup : ∀ host, (s.player host).spectators.Nodup

theorem RosteredBut.sidesAgree {s : Server} (h : Rostered s) : SidesAgree s where
  channels p c := (h.roster.mem_iff c p).symm
  channels_nodup p := h.roster.groups_nodup p
  players_nodup c := h.roster.members_nodup c
  listed c hinstanced hsome := (h.listed c hinstanced hsome).resolve_right id
  spectators p host := (h.watches host p)
  spectators_nodup host := h.audience.members_nodup host

-- Along any run outside of matches the two sides agree.
theorem sidesAgree_of_social (setup : Setup) (run : List Event)
    (h : ∀ event ∈ run, event.social) :
    SidesAgree (runFrom World.step setup.start run).server :=
  (rostered_of_social setup h).sidesAgree

-- How a logout ends: only p stops watching, and with nothing in its way p is nowhere any more.
structure SignsOff (s : Server) (p : PlayerRef) (outcome : Except PyError Unit × Server) :
    Prop where
  sides : SidesAgree outcome.2
  watching : ∀ q, (outcome.2.player q).spectating =
    if q = p then none else (s.player q).spectating
  raised : ∀ e, outcome.1 = .error e → Logout s p e
  left : outcome.1 = .ok () → ∀ c, p ∉ (outcome.2.channel c).players
  offline : outcome.1 = .ok () → p ∉ outcome.2.players.list

-- Wherever such a run has led, a session can log out.
theorem signsOff_of_social (setup : Setup) (run : List Event) (h : ∀ event ∈ run, event.social)
    (p : PlayerRef) :
    SignsOff (runFrom World.step setup.start run).server p
      (logout p (runFrom World.step setup.start run).server) := by
  obtain ⟨hends, hgone⟩ := logout_run (rostered_of_social setup h) p
  refine ⟨hends.rostered.sidesAgree, hends.spectating, hends.raised, fun hok c hin => ?_,
    fun hok => (hgone hok).offline⟩
  have hchannel := (hends.rostered.sidesAgree.channels p c).mpr hin
  rw [(hgone hok).channels] at hchannel
  cases hchannel

-- Three sign in, 1 and 2 join #osu, 2 and 3 watch 1.
def twoWatchOne : List Event :=
  [visit 11, visit 12, visit 13, .packet 1 (.channelJoin "#osu") { now := 10 },
    .packet 2 (.channelJoin "#osu") { now := 10 }, .packet 2 (.startSpectating 11) { now := 10 },
    .packet 3 (.startSpectating 11) { now := 10 }]

def oneChannel : Setup :=
  { rows := [{ name := "#osu", topic := "", readPriv := 1, writePriv := 1, autoJoin := true }] }

theorem sidesAgree_of_social_twoWatchOne :
    SidesAgree (runFrom World.step oneChannel.start (twoWatchOne ++ [.disconnect 1])).server :=
  sidesAgree_of_social oneChannel _ (by decide)

theorem signsOff_of_social_twoWatchOne :
    SignsOff (runFrom World.step oneChannel.start twoWatchOne).server 2
      (logout 2 (runFrom World.step oneChannel.start twoWatchOne).server) :=
  signsOff_of_social oneChannel twoWatchOne (by decide) 2

end Runs

end BanchoPrism
