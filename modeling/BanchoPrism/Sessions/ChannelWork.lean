import BanchoPrism.Sessions.Channels
import Mathlib.Data.List.Nodup

namespace BanchoPrism

open Library

-- A channel lists nobody twice, and only players who list the channel.
def Server.Listed (s : Server) : Prop :=
  ∀ c, (s.channel c).players.Nodup ∧ ∀ p ∈ (s.channel c).players, c ∈ (s.player p).channels

theorem Server.Listed.congr {s t : Server} (h : s.Listed) (hc : t.channel = s.channel)
    (hp : ∀ q, (t.player q).channels = (s.player q).channels) : t.Listed := by
  intro c
  rw [hc]
  exact ⟨(h c).1, fun q hq => hp q ▸ (h c).2 q hq⟩

-- Only channels, the channels players are in, and packets change.
structure ChannelWork (s t : Server) : Prop where
  player : ∀ q, t.player q = { s.player q with channels := (t.player q).channels }
  players : t.players = s.players
  matchAt : t.matchAt = s.matchAt
  matchList : t.matchList = s.matchList
  nextMatch : t.nextMatch = s.nextMatch
  nextPlayer : t.nextPlayer = s.nextPlayer
  listed : s.Listed → t.Listed

theorem ChannelWork.refl (s : Server) : ChannelWork s s := by
  constructor <;> intros <;> first | rfl | assumption

theorem ChannelWork.trans {s t u : Server} (h : ChannelWork s t) (h' : ChannelWork t u) :
    ChannelWork s u where
  player q := by rw [h'.player q, h.player q]
  players := h'.players.trans h.players
  matchAt := h'.matchAt.trans h.matchAt
  matchList := h'.matchList.trans h.matchList
  nextMatch := h'.nextMatch.trans h.nextMatch
  nextPlayer := h'.nextPlayer.trans h.nextPlayer
  listed hs := h'.listed (h.listed hs)

instance : Std.Refl ChannelWork := ⟨ChannelWork.refl⟩
instance : IsTrans Server ChannelWork := ⟨fun _ _ _ => ChannelWork.trans⟩

section Rules

open Prog

theorem ChannelWork.of_sent (s : Server) (sent : List (PlayerRef × ServerPacket)) :
    ChannelWork s { s with sent := sent } := by
  constructor <;> intros <;> first | rfl | assumption

theorem ChannelWork.of_channels (s : Server) (channels : List ChannelRef) :
    ChannelWork s { s with channels := channels } := by
  constructor <;> intros <;> first | rfl | assumption

theorem ChannelWork.enqueue (s : Server) (p : PlayerRef) (packet : ServerPacket) :
    ChannelWork s (s.enqueue p packet) := by
  unfold Server.enqueue
  split
  · exact ChannelWork.refl s
  · exact ChannelWork.of_sent s _

theorem ChannelWork.enqueueAll (s : Server) (ps : List PlayerRef) (packet : ServerPacket) :
    ChannelWork s (s.enqueueAll ps packet) := by
  unfold Server.enqueueAll
  induction ps generalizing s with
  | nil => exact ChannelWork.refl s
  | cons p rest ih => exact (ChannelWork.enqueue s p packet).trans (ih _)

theorem send_work (p : PlayerRef) (packet : ServerPacket) : Within ChannelWork (send p packet) :=
  Within.update fun s => ChannelWork.enqueue s p packet

theorem sendAll_work (ps : List PlayerRef) (packet : ServerPacket) :
    Within ChannelWork (sendAll ps packet) :=
  Within.update fun s => ChannelWork.enqueueAll s ps packet

theorem sendChannel_work (c : ChannelRef) (sender : PlayerRef) (msg : String) :
    Within ChannelWork (sendChannel c sender msg) :=
  Within.read_bind fun s => sendAll_work _ _ s

theorem sendBot_work (c : ChannelRef) (msg : String) : Within ChannelWork (sendBot c msg) :=
  Within.read_bind fun s => sendAll_work _ _ s

theorem sendPlayerBot_work (p : PlayerRef) (msg : String) :
    Within ChannelWork (sendPlayerBot p msg) :=
  Within.read_bind fun s => send_work _ _ s

theorem announceCount_work (c : ChannelRef) : Within ChannelWork (announceCount c) := by
  refine Within.read_bind fun s => Moves.lift_bind fun packet _ => ?_
  exact Moves.ite (fun _ => sendAll_work _ _ s) fun _ => sendAll_work _ _ s

-- The two halves of joining a channel leave the lists consistent only together.
theorem ChannelWork.join {s : Server} {p : PlayerRef} {c : ChannelRef}
    (hp : p ∉ (s.channel c).players) :
    ChannelWork s ((s.modifyChannel c fun channel =>
      { channel with players := channel.players ++ [p] }).modifyPlayer p fun player =>
        { player with channels := player.channels ++ [c] }) where
  player q := by
    by_cases hq : q = p
    · subst hq
      simp [Server.modifyPlayer, Server.modifyChannel]
    · simp [Server.modifyPlayer, Server.modifyChannel, hq]
  players := rfl
  matchAt := rfl
  matchList := rfl
  nextMatch := rfl
  nextPlayer := rfl
  listed hl c' := by
    obtain ⟨hnodup, hmem⟩ := hl c'
    by_cases hc : c' = c
    · subst hc
      simp only [Server.modifyPlayer, Server.modifyChannel, Function.update_self]
      refine ⟨List.nodup_append.mpr ⟨hnodup, List.nodup_singleton p, ?_⟩, ?_⟩
      · intro q hq q' hq' he
        rw [List.mem_singleton.mp hq'] at he
        exact hp (he ▸ hq)
      intro q hq
      by_cases hqp : q = p
      · subst hqp
        simp
      · simpa [hqp] using hmem q (by simpa [hqp] using hq)
    · simp only [Server.modifyPlayer, Server.modifyChannel, Function.update_of_ne hc]
      refine ⟨hnodup, fun q hq => ?_⟩
      by_cases hqp : q = p
      · subst hqp
        simpa using .inl (hmem q hq)
      · simpa [hqp] using hmem q hq

theorem joinChannel_work (p : PlayerRef) (c : ChannelRef) :
    Within ChannelWork (joinChannel p c) := by
  refine Within.read_bind fun s => Moves.ite (fun _ => Moves.pure _) fun h => ?_
  simp only [not_or] at h
  refine Moves.update_update_bind (ChannelWork.join h.1) ?_
  refine Within.bind (send_work _ _) (fun _ => Within.bind (announceCount_work c) fun _ => ?_) _
  exact Within.pure true

-- The channel c without p in it, the channel list as channels.
def Server.withoutMember (s : Server) (c : ChannelRef) (p : PlayerRef)
    (channels : List ChannelRef) : Server :=
  { s.modifyChannel c (fun channel => { channel with players := channel.players.erase p }) with
    channels := channels }

theorem ChannelWork.withoutMember (s : Server) (c : ChannelRef) (p : PlayerRef)
    (channels : List ChannelRef) : ChannelWork s (s.withoutMember c p channels) where
  player _ := rfl
  players := rfl
  matchAt := rfl
  matchList := rfl
  nextMatch := rfl
  nextPlayer := rfl
  listed hl c' := by
    obtain ⟨hnodup, hmem⟩ := hl c'
    by_cases hc : c' = c
    · subst hc
      simp only [Server.withoutMember, Server.modifyChannel, Function.update_self]
      exact ⟨hnodup.erase p, fun q hq => hmem q (List.mem_of_mem_erase hq)⟩
    · simpa [Server.withoutMember, Server.modifyChannel, hc] using ⟨hnodup, hmem⟩

-- Once p is off the list of c, c can go off the list of p.
theorem ChannelWork.part (s : Server) (c : ChannelRef) (p : PlayerRef)
    (channels : List ChannelRef) :
    ChannelWork s ((s.withoutMember c p channels).modifyPlayer p fun player =>
      { player with channels := player.channels.erase c }) where
  player q := by
    by_cases hq : q = p
    · subst hq
      simp [Server.withoutMember, Server.modifyPlayer, Server.modifyChannel]
    · simp [Server.withoutMember, Server.modifyPlayer, Server.modifyChannel, hq]
  players := rfl
  matchAt := rfl
  matchList := rfl
  nextMatch := rfl
  nextPlayer := rfl
  listed hl c' := by
    have hl' := (ChannelWork.withoutMember s c p channels).listed hl c'
    refine ⟨hl'.1, fun q hq => ?_⟩
    by_cases hqp : q = p
    · subst hqp
      have hc : c' ≠ c := by
        rintro rfl
        simp only [Server.withoutMember, Server.modifyPlayer, Server.modifyChannel,
          Function.update_self] at hq
        exact (hl c').1.not_mem_erase hq
      simpa [Server.modifyPlayer, List.mem_erase_of_ne hc] using hl'.2 q hq
    · simpa [Server.modifyPlayer, hqp] using hl'.2 q hq

theorem channelsRemove_run (c : ChannelRef) (s : Server) :
    ∃ channels, (channelsRemove c s).2 = { s with channels := channels } := by
  have hrun : channelsRemove c s =
      (if c ∈ s.channels then Prog.update fun s => { s with channels := s.channels.erase c }
        else Prog.raise .value) s := rfl
  rw [hrun]
  split
  · exact ⟨s.channels.erase c, rfl⟩
  · exact ⟨s.channels, rfl⟩

theorem channelRemove_run (c : ChannelRef) (p : PlayerRef) (s : Server) :
    ∃ channels, (channelRemove c p s).2 = s.withoutMember c p channels := by
  have hrun : channelRemove c p s =
      (if ((s.withoutMember c p s.channels).channel c).players = [] ∧
          ((s.withoutMember c p s.channels).channel c).instanced
        then channelsRemove c else pure ()) (s.withoutMember c p s.channels) := rfl
  rw [hrun]
  split
  · exact channelsRemove_run c _
  · exact ⟨s.channels, rfl⟩

theorem leaveChannel_work (p : PlayerRef) (c : ChannelRef) (kick : Bool) :
    Within ChannelWork (leaveChannel p c kick) := by
  refine Within.read_bind fun s => Moves.ite (fun _ => ?_) fun _ => Moves.pure _
  obtain ⟨channels, hrun⟩ := channelRemove_run c p s
  rcases hr : channelRemove c p s with ⟨e | _, t⟩
  · rw [Moves, bind_run_error hr]
    rw [hr] at hrun
    exact hrun ▸ ChannelWork.withoutMember s c p channels
  · rw [hr] at hrun
    obtain rfl : t = s.withoutMember c p channels := hrun
    rw [Moves, bind_run_ok hr]
    -- forget_channel raises or erases the channel, and only packets follow
    by_cases hc : c ∈ ((s.withoutMember c p channels).player p).channels
    · have hforget : forgetChannel p c (s.withoutMember c p channels) = (.ok (),
          (s.withoutMember c p channels).modifyPlayer p fun player =>
            { player with channels := player.channels.erase c }) := by
        simp only [forgetChannel, read_bind_run, hc, if_true, update_run]
      rw [bind_run_ok hforget]
      refine trans_of ChannelWork (ChannelWork.part s c p channels) ?_
      exact Within.bind (Within.onlyIf (send_work _ _)) (fun _ => announceCount_work c) _
    · have hforget : forgetChannel p c (s.withoutMember c p channels) =
          (.error .value, s.withoutMember c p channels) := by
        simp only [forgetChannel, read_bind_run, hc, if_false, raise_run]
      rw [bind_run_error hforget]
      exact ChannelWork.withoutMember s c p channels

theorem leaveChannels_work (p : PlayerRef) (passes : Nat) :
    Within ChannelWork (leaveChannels p passes) := by
  induction passes with
  | zero => exact Within.pure ()
  | succ passes ih =>
    refine Within.read_bind fun s => ?_
    split
    · exact Moves.pure ()
    · refine Moves.ite (fun _ => ?_) fun _ => Moves.raise _
      exact Within.bind (leaveChannel_work p _ false) (fun _ => ih) s

-- A channel object that is not used yet has no members.
theorem allocChannel_work {channel : Channel} (h : channel.players = []) :
    Within ChannelWork (allocChannel channel) := by
  refine Within.read_bind fun s => trans_of ChannelWork ?_ (Moves.pure _)
  constructor
  case listed =>
    intro hl c
    by_cases hc : c = s.nextChannel
    · subst hc
      simp [h]
    · simpa [hc] using hl c
  all_goals intros; rfl

theorem channelsAppend_work (c : ChannelRef) : Within ChannelWork (channelsAppend c) :=
  Within.update fun s => ChannelWork.of_channels s _

end Rules

end BanchoPrism
