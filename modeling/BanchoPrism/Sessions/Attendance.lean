import BanchoPrism.Library.Rosters
import BanchoPrism.Multiplayer.SeatsAgree

namespace BanchoPrism

open Library Prog

namespace Server

-- Who is in which channel.
def roster (s : Server) : Roster ChannelRef PlayerRef :=
  { members := fun c => (s.channel c).players
    groups := fun p => (s.player p).channels }

-- Who watches whom.
def audience (s : Server) : Roster PlayerRef PlayerRef :=
  { members := fun host => (s.player host).spectators
    groups := fun p => (s.player p).spectating.toList }

end Server

-- What holds while everyone is in the match that seats says, but for the listing of a channel that
-- is being made.
structure RosteredBut (seats : PlayerRef → Option MatchRef) (made : ChannelRef → Prop)
    (s : Server) : Prop where
  place : ∀ p, (s.player p).matchRef = seats p
  roster : s.roster.Paired
  audience : s.audience.Paired
  listed : ∀ c, (s.channel c).instanced → (s.channel c).players ≠ [] → c ∈ s.channels ∨ made c
  blank : ∀ c, s.nextChannel ≤ c → (s.channel c).players = []
  channels_lt : ∀ c ∈ s.channels, c < s.nextChannel
  online : s.players.list.Nodup

-- Both sides of the channels and of spectating agree, and a channel that somebody is in and that
-- goes with its last member is on the list.
abbrev RosteredIn (seats : PlayerRef → Option MatchRef) : Server → Prop :=
  RosteredBut seats fun _ => False

-- The same outside of matches.
abbrev Rostered : Server → Prop := RosteredIn fun _ => none

-- A state that is rostered stays so.
def Rosters (s t : Server) : Prop := Rostered s → Rostered t

instance : Std.Refl Rosters := ⟨fun _ h => h⟩
instance : IsTrans Server Rosters := ⟨fun _ _ _ h h' hs => h' (h hs)⟩

section Updates

variable {seats : PlayerRef → Option MatchRef} {made : ChannelRef → Prop} {s t : Server}
  {p host : PlayerRef} {c : ChannelRef}

theorem RosteredBut.congr (h : RosteredBut seats made s)
    (hmatch : ∀ q, (t.player q).matchRef = (s.player q).matchRef)
    (hchannels : ∀ q, (t.player q).channels = (s.player q).channels)
    (hspectators : ∀ q, (t.player q).spectators = (s.player q).spectators)
    (hspectating : ∀ q, (t.player q).spectating = (s.player q).spectating)
    (hchannel : t.channel = s.channel) (hlist : t.channels = s.channels)
    (hnext : t.nextChannel = s.nextChannel) (honline : t.players.list.Nodup) :
    RosteredBut seats made t := by
  have hroster : t.roster = s.roster :=
    Roster.ext (by simp only [Server.roster, hchannel]) (funext hchannels)
  have haudience : t.audience = s.audience :=
    Roster.ext (funext hspectators) (funext fun q => congrArg Option.toList (hspectating q))
  exact {
    place := fun q => (hmatch q).trans (h.place q)
    roster := hroster ▸ h.roster
    audience := haudience ▸ h.audience
    listed := by
      rw [hchannel, hlist]
      exact h.listed
    blank := by
      rw [hchannel, hnext]
      exact h.blank
    channels_lt := by
      rw [hlist, hnext]
      exact h.channels_lt
    online := honline }

theorem RosteredBut.sent (h : RosteredBut seats made s) (sent : List (PlayerRef × ServerPacket)) :
    RosteredBut seats made { s with sent := sent } :=
  h.congr (fun _ => rfl) (fun _ => rfl) (fun _ => rfl) (fun _ => rfl) rfl rfl rfl h.online

-- A player keeps where they are.
theorem RosteredBut.modifyPlayer (h : RosteredBut seats made s) {f : Player → Player}
    (hmatch : ∀ player, (f player).matchRef = player.matchRef)
    (hchannels : ∀ player, (f player).channels = player.channels)
    (hspectators : ∀ player, (f player).spectators = player.spectators)
    (hspectating : ∀ player, (f player).spectating = player.spectating) (p : PlayerRef) :
    RosteredBut seats made (s.modifyPlayer p f) := by
  have hkept {α : Type} (field : Player → α) (hfield : ∀ player, field (f player) = field player)
      (q : PlayerRef) : field ((s.modifyPlayer p f).player q) = field (s.player q) := by
    by_cases hq : q = p
    · subst hq
      simp [Server.modifyPlayer, hfield]
    · simp [Server.modifyPlayer, hq]
  exact h.congr (hkept _ hmatch) (hkept _ hchannels) (hkept _ hspectators) (hkept _ hspectating)
    rfl rfl rfl h.online

theorem send_rosters (p : PlayerRef) (packet : ServerPacket) :
    Within Rosters (send p packet) := by
  intro s h
  obtain ⟨sent, hrun⟩ := send_run p packet s
  rw [hrun]
  exact h.sent sent

theorem sendAll_rosters (ps : List PlayerRef) (packet : ServerPacket) :
    Within Rosters (sendAll ps packet) := by
  intro s h
  obtain ⟨sent, hrun⟩ := sendAll_run ps packet s
  rw [hrun]
  exact h.sent sent

-- A count that does not fit is not sent.
theorem announceCount_run (c : ChannelRef) (s : Server) : ∃ result sent,
    announceCount c s = (result, { s with sent := sent }) ∧
      (result = .ok () ∨
        result = .error .overflow ∧ 2 ^ 16 ≤ (s.channel c).players.length) := by
  unfold announceCount
  rw [read_bind_run]
  unfold channelInfo require
  split
  · split
    · obtain ⟨sent, hrun⟩ := sendAll_run (s.channel c).players _ s
      exact ⟨.ok (), sent, hrun, Or.inl rfl⟩
    · obtain ⟨sent, hrun⟩ := sendAll_run
        (s.players.list.filter fun p => (s.channel c).canRead (s.player p).priv) _ s
      exact ⟨.ok (), sent, hrun, Or.inl rfl⟩
  · rename_i hfits
    refine ⟨.error .overflow, s.sent, rfl, Or.inr ⟨rfl, ?_⟩⟩
    simp only [fitsUnsigned, Bool.and_eq_true, decide_eq_true_eq, not_and, not_lt] at hfits
    have hcount := hfits (Int.natCast_nonneg _)
    omega

end Updates

-- The channel c with p on both lists.
def joined (s : Server) (c : ChannelRef) (p : PlayerRef) : Server :=
  (s.modifyChannel c fun channel => { channel with players := channel.players ++ [p] }).modifyPlayer
    p fun player => { player with channels := player.channels ++ [c] }

-- The channel list once p has left c.
def remaining (s : Server) (c : ChannelRef) (p : PlayerRef) : List ChannelRef :=
  if (s.channel c).players.erase p = [] ∧ (s.channel c).instanced then s.channels.erase c
  else s.channels

section Joining

variable {seats : PlayerRef → Option MatchRef} {made : ChannelRef → Prop} {s t : Server}
  {p q : PlayerRef} {c : ChannelRef}

theorem joined_roster : (joined s c p).roster = s.roster.join c p := by
  refine Roster.ext (funext fun g => ?_) (funext fun q => ?_)
  · by_cases hg : g = c
    · subst hg
      simp [joined, Server.roster, Roster.join, Server.modifyPlayer, Server.modifyChannel]
    · simp [joined, Server.roster, Roster.join, Server.modifyPlayer, Server.modifyChannel, hg]
  · by_cases hq : q = p
    · subst hq
      simp [joined, Server.roster, Roster.join, Server.modifyPlayer, Server.modifyChannel]
    · simp [joined, Server.roster, Roster.join, Server.modifyPlayer, Server.modifyChannel, hq]

theorem joined_player : (joined s c p).player q =
    { s.player q with channels := ((joined s c p).player q).channels } := by
  by_cases hq : q = p
  · subst hq
    simp [joined, Server.modifyPlayer, Server.modifyChannel]
  · simp [joined, Server.modifyPlayer, Server.modifyChannel, hq]

theorem joined_channel {g : ChannelRef} : (joined s c p).channel g =
    { s.channel g with players := ((joined s c p).channel g).players } := by
  by_cases hg : g = c
  · subst hg
    simp [joined, Server.modifyPlayer, Server.modifyChannel]
  · simp [joined, Server.modifyPlayer, Server.modifyChannel, hg]

theorem RosteredBut.joined (h : RosteredBut seats made s) (hp : p ∉ (s.channel c).players)
    (hc : (s.channel c).instanced → c ∈ s.channels ∨ made c) (hlt : c < s.nextChannel) :
    RosteredBut seats made (joined s c p) where
  place q := by
    rw [joined_player]
    exact h.place q
  roster := joined_roster ▸ h.roster.join hp
  audience := by
    have hsame : (BanchoPrism.joined s c p).audience = s.audience := by
      refine Roster.ext (funext fun q => ?_) (funext fun q => ?_)
      · change ((BanchoPrism.joined s c p).player q).spectators = _
        rw [joined_player]
        rfl
      · change ((BanchoPrism.joined s c p).player q).spectating.toList = _
        rw [joined_player]
        rfl
    exact hsame ▸ h.audience
  listed g hg hne := by
    rw [joined_channel] at hg
    by_cases hgc : g = c
    · subst hgc
      exact hc hg
    · refine h.listed g hg fun hempty => hne ?_
      have hsame : ((BanchoPrism.joined s c p).channel g).players = (s.channel g).players := by
        simp [BanchoPrism.joined, Server.modifyPlayer, Server.modifyChannel, hgc]
      rw [hsame, hempty]
  blank g hg := by
    have hgc : g ≠ c := fun heq => absurd (heq ▸ hg) (Nat.not_le_of_lt hlt)
    have hsame : ((BanchoPrism.joined s c p).channel g).players = (s.channel g).players := by
      simp [BanchoPrism.joined, Server.modifyPlayer, Server.modifyChannel, hgc]
    exact hsame.trans (h.blank g hg)
  channels_lt := h.channels_lt
  online := h.online

-- A player who may not join changes nothing.
theorem joinChannel_run (p : PlayerRef) (c : ChannelRef) (s : Server) :
    joinChannel p c s = (.ok false, s) ∨
      p ∉ (s.channel c).players ∧ ∃ result sent,
        joinChannel p c s = (result, { joined s c p with sent := sent }) ∧
          (result = .ok true ∨
            result = .error .overflow ∧ 2 ^ 16 ≤ (s.channel c).players.length + 1) := by
  unfold joinChannel
  rw [read_bind_run]
  by_cases hmay : p ∈ (s.channel c).players ∨ !(s.channel c).canRead (s.player p).priv ∨
      ((s.channel c).realName = "#lobby" ∧ !(s.player p).inLobby)
  · rw [if_pos hmay]
    exact Or.inl rfl
  · rw [if_neg hmay, update_bind_run, update_bind_run]
    refine Or.inr ⟨fun hp => hmay (Or.inl hp), ?_⟩
    obtain ⟨sent, hsend⟩ := send_run p (.channelJoin (s.channel c).name) (joined s c p)
    obtain ⟨result, sent', hcount, hresult⟩ :=
      announceCount_run c { joined s c p with sent := sent }
    have hrest : (send p (.channelJoin (s.channel c).name) >>= fun _ => announceCount c >>=
        fun _ => (pure true : Handler Bool)) (joined s c p) =
          (result.map fun _ => true, { joined s c p with sent := sent' }) := by
      rw [bind_run_ok hsend]
      rcases hresult with rfl | ⟨rfl, -⟩
      · rw [bind_run_ok hcount]
        rfl
      · rw [bind_run_error hcount]
        rfl
    refine ⟨_, sent', hrest, ?_⟩
    rcases hresult with rfl | ⟨rfl, hlong⟩
    · exact Or.inl rfl
    · refine Or.inr ⟨rfl, ?_⟩
      have hmembers : ((joined s c p).channel c).players = (s.channel c).players ++ [p] := by
        simp [joined, Server.modifyPlayer, Server.modifyChannel]
      change 2 ^ 16 ≤ ((joined s c p).channel c).players.length at hlong
      rwa [hmembers, List.length_append] at hlong

theorem joinChannel_rosters (hlisted : c ∈ s.channels) : Moves Rosters s (joinChannel p c) := by
  intro h
  rcases joinChannel_run p c s with hrun | ⟨hp, result, sent, hrun, -⟩
  · rw [hrun]
    exact h
  · rw [hrun]
    exact (h.joined hp (fun _ => Or.inl hlisted) (h.channels_lt c hlisted)).sent sent

end Joining

-- The state once p has left c.
def left (s : Server) (c : ChannelRef) (p : PlayerRef) : Server := parted s c p (remaining s c p)

section Leaving

variable {seats : PlayerRef → Option MatchRef} {s t : Server} {p q : PlayerRef} {c g : ChannelRef}

theorem left_channel : (left s c p).channel g =
    { s.channel g with players := ((left s c p).channel g).players } := by
  by_cases hg : g = c
  · subst hg
    simp [left, parted, Server.modifyPlayer, Server.withoutMember, Server.modifyChannel]
  · simp [left, parted, Server.modifyPlayer, Server.withoutMember, Server.modifyChannel, hg]

theorem left_members_ne (hg : g ≠ c) :
    ((left s c p).channel g).players = (s.channel g).players := by
  simp [left, parted, Server.modifyPlayer, Server.withoutMember, Server.modifyChannel, hg]

theorem left_player : (left s c p).player q =
    { s.player q with channels := ((left s c p).player q).channels } := by
  by_cases hq : q = p
  · subst hq
    simp [left, parted, Server.modifyPlayer, Server.withoutMember, Server.modifyChannel]
  · simp [left, parted, Server.modifyPlayer, Server.withoutMember, Server.modifyChannel, hq]

theorem left_roster : (left s c p).roster = s.roster.part c p := by
  refine Roster.ext (funext fun g => ?_) (funext fun q => ?_)
  · by_cases hg : g = c
    · subst hg
      simp only [Roster.part, Function.update_self]
      exact parted_members s g p _
    · simp only [Roster.part, Function.update_of_ne hg]
      exact left_members_ne hg
  · by_cases hq : q = p
    · subst hq
      simp [left, parted, Server.roster, Roster.part, Server.modifyPlayer, Server.withoutMember,
        Server.modifyChannel]
    · simp [left, parted, Server.roster, Roster.part, Server.modifyPlayer, Server.withoutMember,
        Server.modifyChannel, hq]

theorem left_audience : (left s c p).audience = s.audience := by
  refine Roster.ext (funext fun q => ?_) (funext fun q => ?_)
  · change ((left s c p).player q).spectators = _
    rw [left_player]
    rfl
  · change ((left s c p).player q).spectating.toList = _
    rw [left_player]
    rfl

theorem RosteredBut.leaving (h : RosteredIn seats s) (hp : p ∈ (s.channel c).players) :
    RosteredIn seats (left s c p) where
  place q := by
    rw [left_player]
    exact h.place q
  roster := left_roster ▸ h.roster.part c p
  audience := by
    rw [left_audience]
    exact h.audience
  listed g hg hne := by
    rw [left_channel] at hg
    by_cases hgc : g = c
    · subst hgc
      have hkept : remaining s g p = s.channels := by
        refine if_neg fun hlast => hne ?_
        exact (parted_members s g p _).trans hlast.1
      have hlisted := h.listed g hg (List.ne_nil_of_mem hp)
      change g ∈ remaining s g p ∨ False
      exact hkept.symm ▸ hlisted
    · rw [left_members_ne hgc] at hne
      refine (h.listed g hg hne).imp_left fun hmem => ?_
      change g ∈ remaining s c p
      unfold remaining
      split
      · exact (List.mem_erase_of_ne hgc).mpr hmem
      · exact hmem
  blank g hg := by
    have hold := h.blank g hg
    have hgc : g ≠ c := by
      rintro rfl
      rw [hold] at hp
      exact List.not_mem_nil hp
    exact (left_members_ne hgc).trans hold
  channels_lt g hg := by
    refine h.channels_lt g ?_
    have hmem : g ∈ remaining s c p := hg
    unfold remaining at hmem
    split at hmem
    · exact List.mem_of_mem_erase hmem
    · exact hmem
  online := h.online

-- The channel of a last member is on the list, so nothing raises but the count.
theorem leaveChannel_run (h : RosteredIn seats s) (hp : p ∈ (s.channel c).players) (kick : Bool) :
    ∃ result sent, leaveChannel p c kick s = (result, { left s c p with sent := sent }) ∧
      (result = .ok () ∨
        result = .error .overflow ∧ 2 ^ 16 ≤ ((left s c p).channel c).players.length) := by
  have hremove : channelRemove c p s = (.ok (), s.withoutMember c p (remaining s c p)) := by
    have hrun : channelRemove c p s =
        (if ((s.withoutMember c p s.channels).channel c).players = [] ∧
            ((s.withoutMember c p s.channels).channel c).instanced
          then channelsRemove c else pure ()) (s.withoutMember c p s.channels) := rfl
    have hlast : (((s.withoutMember c p s.channels).channel c).players = [] ∧
        ((s.withoutMember c p s.channels).channel c).instanced) ↔
          (s.channel c).players.erase p = [] ∧ (s.channel c).instanced := by
      simp [Server.withoutMember, Server.modifyChannel]
    rw [hrun]
    unfold remaining
    by_cases hgone : (s.channel c).players.erase p = [] ∧ (s.channel c).instanced
    · have hlisted : c ∈ (s.withoutMember c p s.channels).channels :=
        (h.listed c hgone.2 (List.ne_nil_of_mem hp)).resolve_right id
      rw [if_pos (hlast.mpr hgone), if_pos hgone]
      unfold channelsRemove
      rw [read_bind_run, if_pos hlisted]
      rfl
    · rw [if_neg (fun hboth => hgone (hlast.mp hboth)), if_neg hgone]
      rfl
  have hforget : forgetChannel p c (s.withoutMember c p (remaining s c p)) =
      (.ok (), left s c p) := forgetChannel_ok ((h.roster.mem_iff c p).mp hp)
  unfold leaveChannel
  rw [read_bind_run, if_pos hp, bind_run_ok hremove, bind_run_ok hforget]
  obtain ⟨sent, hkick⟩ : ∃ sent, onlyIf (kick = true) (send p (.channelKick (s.channel c).name))
      (left s c p) = (.ok (), { left s c p with sent := sent }) := by
    cases kick with
    | false => exact ⟨(left s c p).sent, rfl⟩
    | true => exact send_run p _ _
  obtain ⟨result, sent', hcount, hresult⟩ := announceCount_run c { left s c p with sent := sent }
  rw [bind_run_ok hkick, hcount]
  exact ⟨result, sent', rfl, hresult⟩

theorem leaveChannel_absent (hp : p ∉ (s.channel c).players) (kick : Bool) :
    leaveChannel p c kick s = (.ok (), s) := by
  unfold leaveChannel
  rw [read_bind_run, if_neg hp]
  rfl

theorem leaveChannel_rosters (p : PlayerRef) (c : ChannelRef) (kick : Bool) :
    Within Rosters (leaveChannel p c kick) := by
  intro s h
  by_cases hp : p ∈ (s.channel c).players
  · obtain ⟨result, sent, hrun, -⟩ := leaveChannel_run h hp kick
    rw [hrun]
    exact RosteredBut.sent (h.leaving hp) sent
  · rw [leaveChannel_absent hp]
    exact h

end Leaving

-- The state once the spectators of host and whom p watches are changed.
def watching (s : Server) (host p : PlayerRef) (spectators : List PlayerRef → List PlayerRef)
    (watched : Option PlayerRef) : Server :=
  (s.modifyPlayer host fun player =>
    { player with spectators := spectators player.spectators }).modifyPlayer p fun player =>
      { player with spectating := watched }

section Spectating

variable {seats : PlayerRef → Option MatchRef} {s : Server} {p q host : PlayerRef} {c : ChannelRef}
  {spectators : List PlayerRef → List PlayerRef} {watched : Option PlayerRef}

theorem watching_spectators : ((watching s host p spectators watched).player q).spectators =
    if q = host then spectators (s.player host).spectators else (s.player q).spectators := by
  by_cases hq : q = p <;> by_cases hh : q = host <;>
    simp_all [watching, Server.modifyPlayer, Function.update_apply]

theorem watching_spectating : ((watching s host p spectators watched).player q).spectating =
    if q = p then watched else (s.player q).spectating := by
  by_cases hq : q = p <;> by_cases hh : q = host <;>
    simp_all [watching, Server.modifyPlayer, Function.update_apply]

theorem watching_kept :
    ((watching s host p spectators watched).player q).matchRef = (s.player q).matchRef ∧
      ((watching s host p spectators watched).player q).channels = (s.player q).channels := by
  by_cases hq : q = p <;> by_cases hh : q = host <;>
    simp_all [watching, Server.modifyPlayer, Function.update_apply]

theorem RosteredBut.watching {made : ChannelRef → Prop} (h : RosteredBut seats made s)
    (haudience : (watching s host p spectators watched).audience.Paired) :
    RosteredBut seats made (watching s host p spectators watched) := by
  have hroster : (BanchoPrism.watching s host p spectators watched).roster = s.roster :=
    Roster.ext rfl (funext fun q => (watching_kept (q := q)).2)
  exact {
    place := fun q => watching_kept.1.trans (h.place q)
    roster := hroster ▸ h.roster
    audience := haudience
    listed := h.listed
    blank := h.blank
    channels_lt := h.channels_lt
    online := h.online }

theorem watching_join (hnone : (s.player p).spectating = none) :
    (watching s host p (· ++ [p]) (some host)).audience = s.audience.join host p := by
  refine Roster.ext (funext fun q => ?_) (funext fun q => ?_)
  · change ((watching s host p _ _).player q).spectators = _
    rw [watching_spectators]
    simp [Roster.join, Function.update_apply, Server.audience]
  · change ((watching s host p _ _).player q).spectating.toList = _
    rw [watching_spectating]
    by_cases hq : q = p <;> simp [Roster.join, Server.audience, hq, hnone]

theorem watching_part (hsome : (s.player p).spectating = some host) :
    (watching s host p (·.erase p) none).audience = s.audience.part host p := by
  refine Roster.ext (funext fun q => ?_) (funext fun q => ?_)
  · change ((watching s host p _ _).player q).spectators = _
    rw [watching_spectators]
    simp [Roster.part, Function.update_apply, Server.audience]
  · change ((watching s host p _ _).player q).spectating.toList = _
    rw [watching_spectating]
    by_cases hq : q = p <;> simp [Roster.part, Server.audience, hq, hsome]

theorem RosteredBut.watches (h : RosteredIn seats s) (host p : PlayerRef) :
    p ∈ (s.player host).spectators ↔ (s.player p).spectating = some host := by
  have hpair := h.audience.mem_iff host p
  change p ∈ (s.player host).spectators ↔ host ∈ (s.player p).spectating.toList at hpair
  rw [hpair]
  simp

theorem RosteredBut.watch (h : RosteredIn seats s) (hnone : (s.player p).spectating = none) :
    RosteredIn seats (BanchoPrism.watching s host p (· ++ [p]) (some host)) := by
  refine RosteredBut.watching h ?_
  rw [watching_join hnone]
  refine h.audience.join fun hmem => ?_
  have hsome := (h.watches host p).mp hmem
  rw [hnone] at hsome
  cases hsome

theorem RosteredBut.unwatch (h : RosteredIn seats s)
    (hsome : (s.player p).spectating = some host) :
    RosteredIn seats (BanchoPrism.watching s host p (·.erase p) none) := by
  refine RosteredBut.watching h ?_
  rw [watching_part hsome]
  exact h.audience.part host p

end Spectating

-- Only packets are sent.
def Told (s t : Server) : Prop := ∃ sent, t = { s with sent := sent }

instance : Std.Refl Told := ⟨fun s => ⟨s.sent, rfl⟩⟩
instance : IsTrans Server Told := ⟨fun s _ _ ⟨_, h⟩ ⟨sent, h'⟩ => ⟨sent, by rw [h', h]⟩⟩

section Handlers

variable {seats : PlayerRef → Option MatchRef} {s : Server} {p host : PlayerRef} {c : ChannelRef}

theorem send_told (p : PlayerRef) (packet : ServerPacket) : Within Told (send p packet) := by
  intro s
  obtain ⟨sent, hrun⟩ := send_run p packet s
  exact ⟨sent, by rw [hrun]⟩

theorem sendAll_told (ps : List PlayerRef) (packet : ServerPacket) :
    Within Told (sendAll ps packet) := by
  intro s
  obtain ⟨sent, hrun⟩ := sendAll_run ps packet s
  exact ⟨sent, by rw [hrun]⟩

theorem Library.Prog.Within.rosters {α : Type} {x : Handler α} (h : Within Told x) :
    Within Rosters x := by
  intro s hs
  obtain ⟨sent, hsent⟩ := h s
  rw [hsent]
  exact RosteredBut.sent hs sent

-- What makes a player watch host, if nobody is watched yet.
def Watches (p : PlayerRef) (s t : Server) : Prop :=
  Rostered s → (s.player p).spectating = none → Rostered t

theorem Watches.bind {α β : Type} {x : Handler α} {f : α → Handler β} (hx : Within Told x)
    (hf : ∀ a, Within (Watches p) (f a)) : Within (Watches p) (x >>= f) := by
  intro s
  refine Moves.bind_right (S := Told) ?_ ?_ (hx s) fun a t _ => hf a t
  · rintro s t u ⟨sent, rfl⟩ hwatch h hnone
    exact hwatch (RosteredBut.sent h sent) hnone
  · rintro s t ⟨sent, rfl⟩ h -
    exact RosteredBut.sent h sent

theorem channelByName_mem {name : String} (h : s.channelByName name = some c) : c ∈ s.channels :=
  List.mem_of_find?_eq_some h

-- A channel that is made for a host has the host in it, if anyone, before it is listed.
theorem RosteredBut.alloc (h : RosteredIn seats s) {channel : Channel}
    (hempty : channel.players = []) :
    RosteredBut seats (· = s.nextChannel)
      { s with
        channel := Function.update s.channel s.nextChannel channel
        nextChannel := s.nextChannel + 1 } := by
  have hplayers : ∀ g, (Function.update s.channel s.nextChannel channel g).players =
      (s.channel g).players := by
    intro g
    by_cases hg : g = s.nextChannel
    · subst hg
      rw [Function.update_self, hempty, h.blank _ (Nat.le_refl _)]
    · rw [Function.update_of_ne hg]
  have hroster : Server.roster { s with
      channel := Function.update s.channel s.nextChannel channel
      nextChannel := s.nextChannel + 1 } = s.roster := Roster.ext (funext hplayers) rfl
  exact {
    place := h.place
    roster := by
      rw [hroster]
      exact h.roster
    audience := h.audience
    listed := fun g hg hne => by
      by_cases hnew : g = s.nextChannel
      · exact Or.inr hnew
      · dsimp only at hg hne
        rw [Function.update_of_ne hnew] at hg hne
        exact Or.inl ((h.listed g hg hne).resolve_right id)
    blank := fun g hg => (hplayers g).trans (h.blank g (Nat.le_of_succ_le hg))
    channels_lt := fun g hg => Nat.lt_succ_of_lt (h.channels_lt g hg)
    online := h.online }

theorem RosteredBut.list {made : ChannelRef} (h : RosteredBut seats (· = made) s)
    (hmade : made < s.nextChannel) :
    RosteredIn seats { s with channels := s.channels ++ [made] } where
  place := h.place
  roster := h.roster
  audience := h.audience
  listed g hg hne := by
    refine Or.inl ?_
    rcases h.listed g hg hne with hmem | rfl
    · exact List.mem_append_left _ hmem
    · exact List.mem_append_right _ (List.mem_singleton_self g)
  blank := h.blank
  channels_lt g hg := by
    rcases List.mem_append.mp hg with hold | hnew
    · exact h.channels_lt g hold
    · exact List.mem_singleton.mp hnew ▸ hmade
  online := h.online

-- The channel is found or made, and nobody comes to watch anyone.
theorem spectatorChannel_run (h : Rostered s) (host : PlayerRef) :
    ∃ c t, spectatorChannel host s = (.ok c, t) ∧ Rostered t ∧ c ∈ t.channels ∧
      ∀ q, (t.player q).spectating = (s.player q).spectating := by
  unfold spectatorChannel
  rw [read_bind_run]
  cases hfound : s.channelByName (spectatorChannelName s host) with
  | some c => exact ⟨c, s, rfl, h, channelByName_mem hfound, fun _ => rfl⟩
  | none =>
    let channel : Channel :=
      { realName := spectatorChannelName s host
        topic := (s.player host).name ++ "'s spectator channel."
        autoJoin := false
        instanced := true }
    let t : Server :=
      { s with
        channel := Function.update s.channel s.nextChannel channel
        nextChannel := s.nextChannel + 1 }
    have ht : RosteredBut _ (· = s.nextChannel) t := RosteredBut.alloc h rfl
    have halloc : allocChannel channel s = (.ok s.nextChannel, t) := rfl
    have hempty : (t.channel s.nextChannel).players = [] := by
      change (Function.update s.channel s.nextChannel channel s.nextChannel).players = []
      rw [Function.update_self]
    refine ⟨s.nextChannel, ?_⟩
    change ∃ u, (allocChannel channel >>= fun c => joinChannel host c >>= fun _ =>
      channelsAppend c >>= fun _ => pure c) s = _ ∧ _
    rw [bind_run_ok halloc]
    rcases joinChannel_run host s.nextChannel t with hrun | ⟨hout, result, sent, hrun, hresult⟩
    · rw [bind_run_ok hrun]
      exact ⟨_, rfl, ht.list (Nat.lt_succ_self _),
        List.mem_append_right _ (List.mem_singleton_self _), fun _ => rfl⟩
    · have hok : result = .ok true := by
        refine hresult.resolve_right fun hlong => ?_
        rw [hempty] at hlong
        exact absurd hlong.2 (by decide)
      subst hok
      rw [bind_run_ok hrun]
      have hjoined := (ht.joined hout (fun _ => Or.inr rfl) (Nat.lt_succ_self _)).sent sent
      refine ⟨_, rfl, hjoined.list (Nat.lt_succ_self _),
        List.mem_append_right _ (List.mem_singleton_self _), fun q => ?_⟩
      change ((joined t s.nextChannel host).player q).spectating = _
      rw [joined_player]

theorem addSpectator_rosters (hnone : (s.player p).spectating = none) (host : PlayerRef) :
    Moves Rosters s (addSpectator host p) := by
  intro h
  obtain ⟨c, t, hrun, ht, hlisted, hsame⟩ := spectatorChannel_run h host
  unfold addSpectator
  rw [bind_run_ok hrun]
  rcases joinChannel_run p c t with hjoin | ⟨hout, result, sent, hjoin, hresult⟩
  · rw [bind_run_ok hjoin]
    exact ht
  · have hjoined := (ht.joined hout (fun _ => Or.inl hlisted) (ht.channels_lt c hlisted)).sent sent
    rcases hresult with rfl | ⟨rfl, -⟩
    · rw [bind_run_ok hjoin]
      refine (Within.read_bind fun u => Within.moves ?_ : Within (Watches p) _) _ hjoined ?_
      · refine Watches.bind (Within.onlyIf (sendAll_told _ _)) fun _ => ?_
        refine Watches.bind (Within.each (fun q => send_told p _) _) fun _ => ?_
        refine Watches.bind (Within.onlyIf (send_told host _)) fun _ v hv hwatched => ?_
        exact hv.watch hwatched
      · change ((joined t c p).player p).spectating = none
        rw [joined_player]
        exact (hsame p).trans hnone
    · rw [bind_run_error hjoin]
      exact hjoined

end Handlers

end BanchoPrism
