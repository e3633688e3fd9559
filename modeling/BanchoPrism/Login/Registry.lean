import BanchoPrism.Library.Indexed
import BanchoPrism.Multiplayer.Membership

namespace BanchoPrism

open Library Prog

-- What Players is indexed by.
structure Keys where
  token : String
  id : Nat
  safeName : String

def Player.keys (player : Player) : Keys :=
  { token := player.token, id := player.id, safeName := player.safeName }

-- The player list, its indexes and the keys of all players stay as they are.
structure SameRegistry (s t : Server) : Prop where
  lower : t.lower = s.lower
  players : t.players = s.players
  nextPlayer : t.nextPlayer = s.nextPlayer
  keys : ∀ q, (t.player q).keys = (s.player q).keys

instance : Std.Refl SameRegistry := ⟨fun _ => ⟨rfl, rfl, rfl, fun _ => rfl⟩⟩

instance : IsTrans Server SameRegistry :=
  ⟨fun _ _ _ h h' => ⟨h'.lower.trans h.lower, h'.players.trans h.players,
    h'.nextPlayer.trans h.nextPlayer, fun q => (h'.keys q).trans (h.keys q)⟩⟩

theorem SameRegistry.refl (s : Server) : SameRegistry s s := refl_of SameRegistry s

theorem SameRegistry.trans {s t u : Server} (h : SameRegistry s t) (h' : SameRegistry t u) :
    SameRegistry s u := trans_of SameRegistry h h'

theorem SameRegistry.enqueue (s : Server) (p : PlayerRef) (packet : ServerPacket) :
    SameRegistry s (s.enqueue p packet) := by
  unfold Server.enqueue
  split
  · exact SameRegistry.refl s
  · exact ⟨rfl, rfl, rfl, fun _ => rfl⟩

theorem SameRegistry.enqueueAll (s : Server) (ps : List PlayerRef) (packet : ServerPacket) :
    SameRegistry s (s.enqueueAll ps packet) := by
  unfold Server.enqueueAll
  induction ps generalizing s with
  | nil => exact SameRegistry.refl s
  | cons p rest ih => exact (SameRegistry.enqueue s p packet).trans (ih _)

theorem SameRegistry.modifyPlayerAt {s : Server} {p : PlayerRef} {f : Player → Player}
    (h : (f (s.player p)).keys = (s.player p).keys) : SameRegistry s (s.modifyPlayer p f) where
  lower := rfl
  players := rfl
  nextPlayer := rfl
  keys q := by
    by_cases hq : q = p
    · subst hq
      simp only [Server.modifyPlayer, Function.update_self, h]
    · simp only [Server.modifyPlayer, Function.update_of_ne hq]

theorem SameRegistry.modifyPlayer {s : Server} {p : PlayerRef} {f : Player → Player}
    (h : ∀ player, (f player).keys = player.keys) : SameRegistry s (s.modifyPlayer p f) :=
  SameRegistry.modifyPlayerAt (h _)

theorem send_registry (p : PlayerRef) (packet : ServerPacket) :
    Within SameRegistry (send p packet) :=
  Within.update fun s => SameRegistry.enqueue s p packet

theorem sendAll_registry (ps : List PlayerRef) (packet : ServerPacket) :
    Within SameRegistry (sendAll ps packet) :=
  Within.update fun s => SameRegistry.enqueueAll s ps packet

theorem sendBot_registry (c : ChannelRef) (msg : String) : Within SameRegistry (sendBot c msg) :=
  Within.read_bind fun s => sendAll_registry _ _ s

section Channels

theorem announceCount_registry (c : ChannelRef) : Within SameRegistry (announceCount c) := by
  refine Within.read_bind fun s => Moves.lift_bind fun packet _ => ?_
  exact Moves.ite (fun _ => sendAll_registry _ _ s) fun _ => sendAll_registry _ _ s

theorem channelsRemove_registry (c : ChannelRef) : Within SameRegistry (channelsRemove c) := by
  refine Within.read_bind fun s => Moves.ite (fun _ => ?_) fun _ => Moves.raise _
  exact ⟨rfl, rfl, rfl, fun _ => rfl⟩

theorem channelRemove_registry (c : ChannelRef) (p : PlayerRef) :
    Within SameRegistry (channelRemove c p) := by
  refine Within.bind (Within.update fun s => ⟨rfl, rfl, rfl, fun _ => rfl⟩) fun _ => ?_
  refine Within.read_bind fun s => Moves.ite (fun _ => channelsRemove_registry c s) fun _ => ?_
  exact Moves.pure ()

theorem forgetChannel_registry (p : PlayerRef) (c : ChannelRef) :
    Within SameRegistry (forgetChannel p c) := by
  refine Within.read_bind fun s => Moves.ite (fun _ => ?_) fun _ => Moves.raise _
  exact Moves.update (SameRegistry.modifyPlayer fun _ => rfl)

theorem leaveChannel_registry (p : PlayerRef) (c : ChannelRef) (kick : Bool) :
    Within SameRegistry (leaveChannel p c kick) := by
  refine Within.read_bind fun s => Moves.ite (fun _ => ?_) fun _ => Moves.pure ()
  refine Within.moves (Within.bind (channelRemove_registry c p) fun _ => ?_)
  refine Within.bind (forgetChannel_registry p c) fun _ => ?_
  exact Within.bind (Within.onlyIf (send_registry p _)) fun _ => announceCount_registry c

theorem leaveChannels_registry (p : PlayerRef) (passes : Nat) :
    Within SameRegistry (leaveChannels p passes) := by
  induction passes with
  | zero => exact Within.pure ()
  | succ passes ih =>
    refine Within.read_bind fun s => ?_
    split
    · exact Moves.pure ()
    · refine Moves.ite (fun _ => ?_) fun _ => Moves.raise _
      exact Within.moves (Within.bind (leaveChannel_registry p _ false) fun _ => ih)

end Channels

section Matches

theorem updateMatch_registry (r : MatchRef) (f : Match → Match) :
    Within SameRegistry (updateMatch r f) :=
  Within.update fun _ => ⟨rfl, rfl, rfl, fun _ => rfl⟩

theorem updateSlot_registry (r : MatchRef) (i : Fin 16) (f : Slot → Slot) :
    Within SameRegistry (updateSlot r i f) :=
  Within.update fun _ => ⟨rfl, rfl, rfl, fun _ => rfl⟩

theorem enqueueState_registry (r : MatchRef) (lobby : Bool) :
    Within SameRegistry (enqueueState r lobby) := by
  refine Within.read_bind fun s => Moves.lift_bind fun shown _ => ?_
  refine Within.moves (Within.bind (sendAll_registry _ _) fun _ => ?_)
  split
  · refine Within.ite (Within.bind (Within.lift _) fun _ => sendAll_registry _ _) (Within.pure ())
  · exact Within.pure ()

theorem matchesRemove_registry (r : MatchRef) : Within SameRegistry (matchesRemove r) := by
  refine Within.update fun s => ?_
  unfold Server.removeMatch
  split
  · exact ⟨rfl, rfl, rfl, fun _ => rfl⟩
  · exact SameRegistry.refl s

theorem disposeMatch_registry (r : MatchRef) : Within SameRegistry (disposeMatch r) := by
  refine Within.read_bind fun s => ?_
  split
  · exact sendAll_registry _ _ s
  · exact Moves.pure ()

theorem closeMatch_registry (r : MatchRef) : Within SameRegistry (closeMatch r) := by
  refine Within.bind (updateMatch_registry r _) fun _ => ?_
  exact Within.bind (matchesRemove_registry r) fun _ => disposeMatch_registry r

theorem passHost_registry (r : MatchRef) : Within SameRegistry (passHost r) := by
  refine Within.read_bind fun s => ?_
  split
  · refine Within.moves (Within.bind (Within.update fun _ => ⟨rfl, rfl, rfl, fun _ => rfl⟩)
      fun _ => ?_)
    exact Within.read_bind fun t => Moves.lift_bind fun host _ => send_registry host _ t
  · exact Moves.pure ()

theorem departMatch_registry (p : PlayerRef) (r : MatchRef) :
    Within SameRegistry (departMatch p r) := by
  refine Within.read_bind fun s => Moves.lift_bind fun host _ => ?_
  refine Within.moves (Within.bind (Within.onlyIf (passHost_registry r)) fun _ => ?_)
  refine Within.bind (Within.onlyIf ?_) fun _ => enqueueState_registry r true
  exact Within.bind (updateMatch_registry r _) fun _ => sendBot_registry _ _

theorem afterLeaving_registry (p : PlayerRef) (r : MatchRef) :
    Within SameRegistry (afterLeaving p r) :=
  Within.read_bind fun s =>
    Moves.ite (fun _ => closeMatch_registry r s) fun _ => departMatch_registry p r s

theorem leaveMatch_registry (p : PlayerRef) : Within SameRegistry (leaveMatch p) := by
  refine Within.read_bind fun s => ?_
  split
  · exact Moves.pure ()
  rename_i r hr
  split
  · exact Moves.raise _
  refine Within.moves (Within.bind (updateSlot_registry _ _ _) fun _ => ?_)
  refine Within.bind (leaveChannel_registry p _ true) fun _ => ?_
  refine Within.bind (afterLeaving_registry p r) fun _ => ?_
  exact Within.update fun _ => SameRegistry.modifyPlayer fun _ => rfl

end Matches

section Spectators

theorem removeSpectator_registry (host p : PlayerRef) :
    Within SameRegistry (removeSpectator host p) := by
  refine Within.read_bind fun s => Moves.ite (fun _ => ?_) fun _ => Moves.raise _
  refine Within.moves (Within.bind ?_ fun _ => Within.bind ?_ fun _ => ?_)
  · exact Within.update fun _ => SameRegistry.modifyPlayer fun _ => rfl
  · exact Within.update fun _ => SameRegistry.modifyPlayer fun _ => rfl
  split
  · exact Within.raise _
  refine Within.bind (leaveChannel_registry p _ true) fun _ => Within.read_bind fun t => ?_
  refine Within.moves (Within.bind (Within.onlyIf (leaveChannel_registry host _ true)) fun _ => ?_)
  refine Within.bind (Within.onlyIf ?_) fun _ => send_registry host _
  refine Within.bind (Within.lift _) fun info => Within.bind (send_registry host info) fun _ => ?_
  exact Within.bind (sendAll_registry _ _) fun _ => sendAll_registry _ _

theorem quitSpectating_registry (p : PlayerRef) : Within SameRegistry (quitSpectating p) := by
  refine Within.read_bind fun s => ?_
  split
  · exact removeSpectator_registry _ p s
  · exact Moves.pure ()

end Spectators

section Removing

namespace Login

-- The three indexes have an entry under each key of p, whoever it is for.
structure Indexes (s : Server) (p : PlayerRef) : Prop where
  token : (s.players.byToken (s.player p).token).isSome
  id : (s.players.byId (s.player p).id).isSome
  name : (s.players.byName (s.player p).safeName).isSome

theorem Indexes.of_same {s t : Server} {p : PlayerRef} (hst : SameRegistry s t) :
    Indexes t p ↔ Indexes s p := by
  have htoken : (t.player p).token = (s.player p).token := congrArg Keys.token (hst.keys p)
  have hid : (t.player p).id = (s.player p).id := congrArg Keys.id (hst.keys p)
  have hname : (t.player p).safeName = (s.player p).safeName := congrArg Keys.safeName (hst.keys p)
  constructor
  · rintro ⟨ht, hi, hn⟩
    rw [hst.players] at ht hi hn
    exact ⟨htoken ▸ ht, hid ▸ hi, hname ▸ hn⟩
  · rintro ⟨ht, hi, hn⟩
    rw [← htoken] at ht
    rw [← hid] at hi
    rw [← hname] at hn
    rw [← hst.players] at ht hi hn
    exact ⟨ht, hi, hn⟩

-- What players.remove leaves when nothing raises.
def dropped (s : Server) (p : PlayerRef) : Server :=
  { s with
    players :=
      { list := s.players.list.erase p
        byToken := Function.update s.players.byToken (s.player p).token none
        byId := Function.update s.players.byId (s.player p).id none
        byName := Function.update s.players.byName (s.player p).safeName none } }

section Keys

variable {κ : Type} [DecidableEq κ] {index : Players → κ → Option PlayerRef}
  {write : Players → (κ → Option PlayerRef) → Players} {key : κ} {s : Server}

theorem deleteKey_run (h : (index s.players key).isSome) :
    deleteKey index write key s =
      (.ok (), { s with players := write s.players (Function.update (index s.players) key none) }) := by
  have hsome : ¬(index s.players key).isNone := by
    rw [Option.isSome_iff_ne_none] at h
    simpa using h
  unfold deleteKey
  rw [read_bind_run, if_neg hsome, update_run]

theorem deleteKey_run_missing (h : ¬(index s.players key).isSome) :
    deleteKey index write key s = (.error .key, s) := by
  unfold deleteKey
  rw [read_bind_run, if_pos (by simpa using h)]
  rfl

end Keys

variable {s t : Server} {p : PlayerRef}

-- The three deletions, each in what the ones before it have left.
theorem playersRemove_stages (hp : p ∈ s.players.list) : playersRemove p s =
    (deleteKey Players.byToken (fun ps f => { ps with byToken := f }) (s.player p).token >>= fun _ =>
      deleteKey Players.byId (fun ps f => { ps with byId := f }) (s.player p).id >>= fun _ =>
        deleteKey Players.byName (fun ps f => { ps with byName := f }) (s.player p).safeName)
      { s with players := { s.players with list := s.players.list.erase p } } := by
  unfold playersRemove
  rw [read_bind_run, if_pos hp, update_bind_run]

theorem playersRemove_run (hp : p ∈ s.players.list) (h : Indexes s p) :
    playersRemove p s = (.ok (), dropped s p) := by
  let listed := { s with players := { s.players with list := s.players.list.erase p } }
  let untoken := { listed with players := { listed.players with
    byToken := Function.update s.players.byToken (s.player p).token none } }
  let unid := { untoken with players := { untoken.players with
    byId := Function.update s.players.byId (s.player p).id none } }
  rw [playersRemove_stages hp]
  refine (bind_run_ok (t := untoken) (deleteKey_run (s := listed) h.token)).trans ?_
  refine (bind_run_ok (t := unid) (deleteKey_run (s := untoken) h.id)).trans ?_
  exact deleteKey_run (s := unid) h.name

-- A key that is missing stops players.remove once the list is shorter.
theorem playersRemove_run_missing (hp : p ∈ s.players.list) (h : ¬Indexes s p) :
    ∃ players, playersRemove p s = (.error .key, { s with players := players }) ∧
      players.list = s.players.list.erase p := by
  let listed := { s with players := { s.players with list := s.players.list.erase p } }
  let untoken := { listed with players := { listed.players with
    byToken := Function.update s.players.byToken (s.player p).token none } }
  let unid := { untoken with players := { untoken.players with
    byId := Function.update s.players.byId (s.player p).id none } }
  rw [playersRemove_stages hp]
  by_cases htoken : (s.players.byToken (s.player p).token).isSome
  case neg => exact ⟨_, bind_run_error (deleteKey_run_missing (s := listed) htoken), rfl⟩
  rw [bind_run_ok (t := untoken) (deleteKey_run (s := listed) htoken)]
  by_cases hid : (s.players.byId (s.player p).id).isSome
  case neg => exact ⟨_, bind_run_error (deleteKey_run_missing (s := untoken) hid), rfl⟩
  rw [bind_run_ok (t := unid) (deleteKey_run (s := untoken) hid)]
  have hname : ¬(s.players.byName (s.player p).safeName).isSome := fun hname =>
    h ⟨htoken, hid, hname⟩
  exact ⟨_, deleteKey_run_missing (s := unid) hname, rfl⟩

theorem playersRemove_run_absent (hp : p ∉ s.players.list) : playersRemove p s = (.ok (), s) := by
  unfold playersRemove
  rw [read_bind_run, if_neg hp]
  rfl

end Login

end Removing

end BanchoPrism
