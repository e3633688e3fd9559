import BanchoPrism.Library.Mapping
import BanchoPrism.Multiplayer.Orderly

namespace BanchoPrism

open Library Prog

section Encoding

-- The id of a host that match.host finds and write_match can write.
def Resolves (s : Server) (id : Nat) : Prop :=
  ∃ host ∈ s.players.byId id, fitsUnsigned 4 (s.player host).id

instance (s : Server) (id : Nat) : Decidable (Resolves s id) := by
  unfold Resolves
  infer_instance

-- The numbers of a match are in the ranges of their fields on the wire.
structure Writable (s : Server) (m : Match) : Prop where
  id : fitsUnsigned 2 m.id
  mods : fitsUnsigned 4 m.mods
  mapId : fitsI32 m.mapId
  seed : fitsUnsigned 4 m.seed
  slotMods : m.freemods → ∀ i, fitsUnsigned 4 (m.slots i).mods
  slotIds : ∀ i, ∀ q ∈ (m.slots i).player, fitsUnsigned 4 (s.player q).id
  occupied : ∀ i, (m.slots i).status.hasPlayer → (m.slots i).player.isSome

theorem ok_bind {α β : Type} {x : Except PyError α} {a : α} {f : α → Except PyError β}
    (h : x = .ok a) : (x >>= f) = f a := by
  rw [h]
  rfl

theorem writeSlotId_ok {s : Server} {slot : Slot}
    (hs : slot.status.hasPlayer → slot.player.isSome)
    (hid : ∀ q ∈ slot.player, fitsUnsigned 4 (s.player q).id) :
    ∃ id, writeSlotId s slot = .ok id := by
  unfold writeSlotId
  by_cases h : slot.status.hasPlayer
  · obtain ⟨q, hq⟩ := Option.isSome_iff_exists.mp (hs h)
    rw [if_pos h, hq]
    dsimp only
    rw [require_true _ (hid q hq)]
    exact ⟨some (s.player q).id, rfl⟩
  · rw [if_neg h]
    exact ⟨none, rfl⟩

theorem writeMatch_ok {s : Server} {m : Match} (hw : Writable s m) (hh : Resolves s m.hostId)
    (sendPw : Bool) : ∃ w, writeMatch s m sendPw = .ok w := by
  obtain ⟨host, hhost, hhid⟩ := hh
  obtain ⟨ids, hwrite⟩ := exists_mapM_of_forall (f := fun i => writeSlotId s (m.slots i))
    (l := List.finRange 16) fun i _ => writeSlotId_ok (hw.occupied i) (hw.slotIds i)
  have hmods : (!m.freemods || (List.finRange 16).all fun i => fitsUnsigned 4 (m.slots i).mods) := by
    cases hf : m.freemods with
    | false => rfl
    | true => simpa using hw.slotMods hf
  have hhead : (fitsUnsigned 2 m.id && fitsUnsigned 4 m.mods) := by
    rw [hw.id, hw.mods]
    rfl
  refine ⟨wireMatch s m sendPw ids host, ?_⟩
  unfold writeMatch
  rw [ok_bind (require_true _ hhead), ok_bind (require_true _ hw.mapId), ok_bind hwrite,
    ok_bind (matchHost_ok.mpr hhost), ok_bind (require_true _ hhid),
    ok_bind (require_true _ hmods), ok_bind (require_true _ hw.seed)]
  rfl

end Encoding

section LeavingChannels

-- leave_channel can let p go: the last member of an instanced channel finds the
-- channel on the list, and the new member count fits its field.
def Releases (s : Server) (p : PlayerRef) (c : ChannelRef) : Prop :=
  p ∈ (s.channel c).players →
    ((s.channel c).players.erase p = [] ∧ (s.channel c).instanced → c ∈ s.channels) ∧
      ((s.channel c).players.erase p).length < 2 ^ 16

instance (s : Server) (p : PlayerRef) (c : ChannelRef) : Decidable (Releases s p c) := by
  unfold Releases
  infer_instance

theorem enqueue_eq (s : Server) (p : PlayerRef) (packet : ServerPacket) :
    ∃ sent, s.enqueue p packet = { s with sent := sent } := by
  unfold Server.enqueue
  split
  · exact ⟨s.sent, rfl⟩
  · exact ⟨_, rfl⟩

theorem enqueueAll_eq (s : Server) (ps : List PlayerRef) (packet : ServerPacket) :
    ∃ sent, s.enqueueAll ps packet = { s with sent := sent } := by
  unfold Server.enqueueAll
  induction ps generalizing s with
  | nil => exact ⟨s.sent, rfl⟩
  | cons p rest ih =>
    obtain ⟨sent, h⟩ := enqueue_eq s p packet
    obtain ⟨sent', h'⟩ := ih (s.enqueue p packet)
    exact ⟨sent', by rw [List.foldl_cons, h', h]⟩

theorem send_run (p : PlayerRef) (packet : ServerPacket) (s : Server) :
    ∃ sent, send p packet s = (.ok (), { s with sent := sent }) := by
  obtain ⟨sent, h⟩ := enqueue_eq s p packet
  exact ⟨sent, by rw [send, update_run, h]⟩

theorem sendAll_run (ps : List PlayerRef) (packet : ServerPacket) (s : Server) :
    ∃ sent, sendAll ps packet s = (.ok (), { s with sent := sent }) := by
  obtain ⟨sent, h⟩ := enqueueAll_eq s ps packet
  exact ⟨sent, by rw [sendAll, update_run, h]⟩

theorem enqueueState_ok {s : Server} {r : MatchRef} {lobby : Bool}
    (h : ∀ sendPw, ∃ w, writeMatch s (s.matchAt r) sendPw = .ok w) :
    ∃ sent, enqueueState r lobby s = (.ok (), { s with sent := sent }) := by
  obtain ⟨shown, hshown⟩ := h true
  obtain ⟨hidden, hhidden⟩ := h false
  obtain ⟨sent, hsend⟩ := sendAll_run (s.channel (s.matchAt r).chat).players (.updateMatch shown) s
  unfold enqueueState
  rw [read_bind_run]
  simp only [hshown, hhidden]
  rw [bind_run_ok (lift_ok_run shown s), bind_run_ok hsend]
  cases s.channelByName "#lobby" with
  | none => exact ⟨sent, rfl⟩
  | some l =>
    dsimp only
    by_cases hl : lobby = true ∧ (s.channel l).players ≠ []
    · rw [if_pos hl, bind_run_ok (lift_ok_run hidden _)]
      exact sendAll_run _ _ { s with sent := sent }
    · rw [if_neg hl]
      exact ⟨sent, rfl⟩

theorem announceCount_ok {s : Server} {c : ChannelRef}
    (h : (s.channel c).players.length < 2 ^ 16) :
    ∃ sent, announceCount c s = (.ok (), { s with sent := sent }) := by
  have hinfo : channelInfo (s.channel c) = .ok (.channelInfo (s.channel c).name
      (s.channel c).topic (s.channel c).players.length) := by
    unfold channelInfo
    rw [require_true _ (by simp only [fitsUnsigned]; simp; omega)]
    rfl
  unfold announceCount
  rw [read_bind_run]
  simp only [hinfo]
  rw [bind_run_ok (lift_ok_run _ s)]
  split <;> exact sendAll_run _ _ s

theorem channelRemove_ok {s : Server} {p : PlayerRef} {c : ChannelRef}
    (h : (s.channel c).players.erase p = [] ∧ (s.channel c).instanced → c ∈ s.channels) :
    ∃ channels, channelRemove c p s = (.ok (), s.withoutMember c p channels) := by
  have hrun : channelRemove c p s =
      (if ((s.withoutMember c p s.channels).channel c).players = [] ∧
          ((s.withoutMember c p s.channels).channel c).instanced
        then channelsRemove c else pure ()) (s.withoutMember c p s.channels) := rfl
  rw [hrun]
  split
  · rename_i hlast
    have hc : c ∈ (s.withoutMember c p s.channels).channels := h (by
      simpa [Server.withoutMember, Server.modifyChannel] using hlast)
    refine ⟨s.channels.erase c, ?_⟩
    unfold channelsRemove
    rw [read_bind_run, if_pos hc]
    rfl
  · exact ⟨s.channels, rfl⟩

-- The channel c without p on either list.
def parted (s : Server) (c : ChannelRef) (p : PlayerRef) (channels : List ChannelRef) : Server :=
  (s.withoutMember c p channels).modifyPlayer p fun player =>
    { player with channels := player.channels.erase c }

theorem parted_members (s : Server) (c : ChannelRef) (p : PlayerRef) (channels : List ChannelRef) :
    ((parted s c p channels).channel c).players = (s.channel c).players.erase p := by
  simp [parted, Server.modifyPlayer, Server.withoutMember, Server.modifyChannel]

theorem forgetChannel_ok {s : Server} {c : ChannelRef} {p : PlayerRef} {channels : List ChannelRef}
    (h : c ∈ (s.player p).channels) :
    forgetChannel p c (s.withoutMember c p channels) = (.ok (), parted s c p channels) := by
  have hc : c ∈ ((s.withoutMember c p channels).player p).channels := h
  unfold forgetChannel
  rw [read_bind_run, if_pos hc, update_run, parted]

theorem leaveChannel_ok {s : Server} {p : PlayerRef} {c : ChannelRef} (hl : s.Listed)
    (h : Releases s p c) (kick : Bool) : ∃ t, leaveChannel p c kick s = (.ok (), t) := by
  unfold leaveChannel
  rw [read_bind_run]
  by_cases hp : p ∈ (s.channel c).players
  · obtain ⟨hlast, hcount⟩ := h hp
    obtain ⟨channels, hrun⟩ := channelRemove_ok hlast
    rw [if_pos hp, bind_run_ok hrun, bind_run_ok (forgetChannel_ok ((hl c).2 p hp))]
    have hmembers := parted_members s c p channels
    obtain ⟨sent, hkick⟩ : ∃ sent, onlyIf (kick = true) (send p (.channelKick (s.channel c).name))
        (parted s c p channels) = (.ok (), { parted s c p channels with sent := sent }) := by
      cases kick with
      | false => exact ⟨(parted s c p channels).sent, rfl⟩
      | true => exact send_run p _ _
    obtain ⟨sent', hcounted⟩ := announceCount_ok (s := { parted s c p channels with sent := sent })
      (c := c) (by rw [hmembers]; exact hcount)
    rw [bind_run_ok hkick, hcounted]
    exact ⟨_, rfl⟩
  · rw [if_neg hp]
    exact ⟨s, rfl⟩

end LeavingChannels

section Departing

-- No player, no channel and no match but r changes.
structure Beside (s t : Server) (r : MatchRef) : Prop where
  players : t.players = s.players
  player : t.player = s.player
  channel : t.channel = s.channel
  channels : t.channels = s.channels
  nextChannel : t.nextChannel = s.nextChannel
  others : ∀ r', r' ≠ r → t.matchAt r' = s.matchAt r'
  chat : (t.matchAt r).chat = (s.matchAt r).chat

-- What write_match reads of the match stays as well, but for the host.
structure SameText (s t : Server) (r : MatchRef) : Prop extends Beside s t r where
  matchAt : ∃ referees, t.matchAt r =
    { s.matchAt r with hostId := (t.matchAt r).hostId, referees := referees }

theorem Beside.trans {s t u : Server} {r : MatchRef} (h : Beside s t r) (h' : Beside t u r) :
    Beside s u r where
  players := h'.players.trans h.players
  player := h'.player.trans h.player
  channel := h'.channel.trans h.channel
  channels := h'.channels.trans h.channels
  nextChannel := h'.nextChannel.trans h.nextChannel
  others r' hr := (h'.others r' hr).trans (h.others r' hr)
  chat := h'.chat.trans h.chat

theorem Beside.of_sent {s : Server} {r : MatchRef} (sent : List (PlayerRef × ServerPacket)) :
    Beside s { s with sent := sent } r := by
  constructor <;> intros <;> rfl

theorem Beside.of_modifyMatch {s : Server} {r : MatchRef} {f : Match → Match}
    (hchat : (f (s.matchAt r)).chat = (s.matchAt r).chat) : Beside s (s.modifyMatch r f) r where
  players := rfl
  player := rfl
  channel := rfl
  channels := rfl
  nextChannel := rfl
  others r' hr := by simp [Server.modifyMatch, hr]
  chat := by simpa [Server.modifyMatch] using hchat

theorem SameText.trans {s t u : Server} {r : MatchRef} (h : SameText s t r) (h' : SameText t u r) :
    SameText s u r := by
  obtain ⟨referees, hm⟩ := h.matchAt
  obtain ⟨referees', hm'⟩ := h'.matchAt
  exact ⟨h.toBeside.trans h'.toBeside, referees', by rw [hm', hm]⟩

-- The match r changes so, and packets are sent.
theorem SameText.of_modifyMatch {s : Server} {r : MatchRef} {f : Match → Match}
    (hf : ∃ referees, f (s.matchAt r) =
      { s.matchAt r with hostId := (f (s.matchAt r)).hostId, referees := referees })
    (sent : List (PlayerRef × ServerPacket)) :
    SameText s { s.modifyMatch r f with sent := sent } r where
  toBeside := by
    obtain ⟨referees, hf⟩ := hf
    exact (Beside.of_modifyMatch (by rw [hf])).trans (Beside.of_sent sent)
  matchAt := by simpa [Server.modifyMatch] using hf

theorem SameText.writable {s t : Server} {r : MatchRef} (h : SameText s t r)
    (hw : Writable s (s.matchAt r)) : Writable t (t.matchAt r) := by
  obtain ⟨referees, hm⟩ := h.matchAt
  rw [hm]
  exact {
    id := hw.id
    mods := hw.mods
    mapId := hw.mapId
    seed := hw.seed
    slotMods := hw.slotMods
    slotIds := by
      rw [h.player]
      exact hw.slotIds
    occupied := hw.occupied }

theorem SameText.resolves {s t : Server} {r : MatchRef} (h : SameText s t r) {id : Nat}
    (hr : Resolves s id) : Resolves t id := by
  unfold Resolves
  rwa [h.players, h.player]

theorem passHost_ok {s : Server} {r : MatchRef} {q : PlayerRef}
    (hq : (s.matchAt r).firstPlayer = some q) (hr : Resolves s (s.player q).id) :
    ∃ t, passHost r s = (.ok (), t) ∧ SameText s t r ∧ (t.matchAt r).hostId = (s.player q).id := by
  obtain ⟨host, hhost, -⟩ := hr
  let t := s.modifyMatch r fun m => { m with hostId := (s.player q).id }
  have hmatch : t.matchAt r = { s.matchAt r with hostId := (s.player q).id } := by
    simp [t, Server.modifyMatch]
  have hfound : matchHost t (t.matchAt r) = .ok host := matchHost_ok.mpr (by rw [hmatch]; exact hhost)
  obtain ⟨sent, hsend⟩ := send_run host .matchTransferHost t
  refine ⟨{ t with sent := sent }, ?_, SameText.of_modifyMatch ⟨_, rfl⟩ sent, by rw [hmatch]⟩
  unfold passHost
  rw [read_bind_run]
  simp only [hq]
  unfold setHost
  rw [update_bind_run, read_bind_run, bind_run_ok (s := t) (t := t) (a := host)]
  · exact hsend
  · show lift (matchHost t (t.matchAt r)) t = _
    rw [hfound]
    rfl

theorem sendBot_run (c : ChannelRef) (msg : String) (s : Server) :
    ∃ sent, sendBot c msg s = (.ok (), { s with sent := sent }) := by
  unfold sendBot
  rw [read_bind_run]
  exact sendAll_run _ _ s

theorem SameText.of_sent {s : Server} {r : MatchRef} (sent : List (PlayerRef × ServerPacket)) :
    SameText s { s with sent := sent } r where
  toBeside := Beside.of_sent sent
  matchAt := ⟨(s.matchAt r).referees, rfl⟩

theorem SameText.refl (s : Server) (r : MatchRef) : SameText s s r := SameText.of_sent s.sent

theorem dropReferee_ok (s : Server) (p : PlayerRef) (r : MatchRef) (m : Match) (name : String) :
    ∃ t, onlyIf (p ∈ m.referees) (updateMatch r (fun m => { m with referees := m.referees.erase p }) >>=
        fun _ => sendBot m.chat (name ++ " removed from match referees.")) s = (.ok (), t) ∧
      SameText s t r ∧ (t.matchAt r).hostId = (s.matchAt r).hostId := by
  by_cases hp : p ∈ m.referees
  · let t := s.modifyMatch r fun m => { m with referees := m.referees.erase p }
    have hmatch : t.matchAt r = { s.matchAt r with referees := (s.matchAt r).referees.erase p } := by
      simp [t, Server.modifyMatch]
    obtain ⟨sent, hsend⟩ := sendBot_run m.chat (name ++ " removed from match referees.") t
    refine ⟨{ t with sent := sent }, ?_, SameText.of_modifyMatch ⟨_, rfl⟩ sent, ?_⟩
    · rw [onlyIf, if_pos hp, updateMatch, update_bind_run]
      exact hsend
    · show (t.matchAt r).hostId = _
      rw [hmatch]
  · rw [onlyIf, if_neg hp]
    exact ⟨s, rfl, SameText.refl s r, rfl⟩

-- If p is the host, the first player left takes over and can be written.
theorem departMatch_ok {s : Server} {p host : PlayerRef} {r : MatchRef}
    (hw : Writable s (s.matchAt r)) (hh : s.players.byId (s.matchAt r).hostId = some host)
    (hstay : p ≠ host → fitsUnsigned 4 (s.player host).id)
    (hpass : p = host → ∃ q, (s.matchAt r).firstPlayer = some q ∧ Resolves s (s.player q).id) :
    ∃ t, departMatch p r s = (.ok (), t) ∧ SameText s t r ∧
      (p ≠ host → (t.matchAt r).hostId = (s.matchAt r).hostId) ∧
        (p = host → ∃ q, (s.matchAt r).firstPlayer = some q ∧
          (t.matchAt r).hostId = (s.player q).id) := by
  obtain ⟨t, hrun, hsame, hres, hkept, hpassed⟩ : ∃ t,
      onlyIf (p = host) (passHost r) s = (.ok (), t) ∧ SameText s t r ∧
        Resolves s (t.matchAt r).hostId ∧
          (p ≠ host → (t.matchAt r).hostId = (s.matchAt r).hostId) ∧
            (p = host → ∃ q, (s.matchAt r).firstPlayer = some q ∧
              (t.matchAt r).hostId = (s.player q).id) := by
    by_cases hp : p = host
    · obtain ⟨q, hq, hr⟩ := hpass hp
      obtain ⟨t, hrun, hsame, hid⟩ := passHost_ok hq hr
      refine ⟨t, ?_, hsame, hid ▸ hr, fun hne => absurd hp hne, fun _ => ⟨q, hq, hid⟩⟩
      rw [onlyIf, if_pos hp]
      exact hrun
    · refine ⟨s, ?_, SameText.refl s r, ⟨host, hh, hstay hp⟩, fun _ => rfl, fun he => absurd he hp⟩
      rw [onlyIf, if_neg hp]
      rfl
  obtain ⟨u, hdrop, hsame', hid⟩ := dropReferee_ok t p r (s.matchAt r) (s.player p).name
  have hsu := hsame.trans hsame'
  obtain ⟨sent, hstate⟩ : ∃ sent, enqueueState r true u = (.ok (), { u with sent := sent }) :=
    enqueueState_ok fun sendPw =>
      writeMatch_ok (hsu.writable hw) (hsu.resolves (hid ▸ hres)) sendPw
  refine ⟨{ u with sent := sent }, ?_, hsu.trans (SameText.of_sent sent),
    fun hne => hid.trans (hkept hne), fun he => ?_⟩
  · unfold departMatch
    rw [read_bind_run]
    rw [matchHost_ok.mpr hh, bind_run_ok (lift_ok_run host s), bind_run_ok hrun, bind_run_ok hdrop]
    exact hstate
  · obtain ⟨q, hq, hhost⟩ := hpassed he
    exact ⟨q, hq, hid.trans hhost⟩

end Departing

end BanchoPrism
