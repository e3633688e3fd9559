import BanchoPrism.History.Matches

namespace BanchoPrism.History

open Library

structure ParticipantScoreFrame where
  userId : Nat
  team : Nat
  mods : Mods
  passed : Bool
  rawFrame : List UInt8
  deriving DecidableEq

-- What persist_game_completed is given, but for the time of the start.
structure CompletedGame where
  matchDbId : Nat
  mapMd5 : String
  mapId : Int
  mapName : String
  mode : Nat
  mods : Mods
  winCondition : Nat
  teamType : Nat
  freemods : Bool
  scrim : Bool
  participants : List Nat
  scoreFrames : List ParticipantScoreFrame
  deriving DecidableEq

section Completing

-- The ids of those in the room who have not been playing the map.
def notPlaying (s : Server) (m : Match) : List Nat :=
  (List.finRange 16).filterMap fun i =>
    if (m.slots i).status ≠ .complete then (m.slots i).player.map fun q => (s.player q).id
    else none

def wasPlaying (s : Server) (m : Match) : List (PlayerRef × Slot) :=
  (List.finRange 16).filterMap fun i =>
    (m.slots i).player.bind fun q =>
      if (s.player q).id ∈ notPlaying s m then none else some (q, m.slots i)

def scoreFrame (s : Server) (m : Match) (q : PlayerRef) (slot : Slot) :
    Option ParticipantScoreFrame :=
  slot.lastScoreFrame.map fun rawFrame =>
    { userId := (s.player q).id
      team := slot.team.value
      mods := if m.freemods then m.mods ||| slot.mods else m.mods
      passed := slot.passed
      rawFrame := rawFrame }

def completedGame (s : Server) (m : Match) (matchDbId : Nat) : CompletedGame :=
  let playing := wasPlaying s m
  { matchDbId := matchDbId
    mapMd5 := m.mapMd5
    mapId := m.mapId
    mapName := m.mapName
    mode := m.mode.value
    mods := m.mods
    winCondition := m.winCondition.value
    teamType := m.teamType.value
    freemods := m.freemods
    scrim := m.isScrimming
    participants := playing.map fun (q, _) => (s.player q).id
    scoreFrames := playing.filterMap fun (q, slot) => scoreFrame s m q slot }

-- The match with the slot of the player who sent MATCH_COMPLETE complete.
def completing (m : Match) (i : Fin 16) : Match :=
  { m with slots := Function.update m.slots i { m.slots i with status := .complete } }

-- The match whose game a MATCH_COMPLETE of p ends, and the slot of p: the handler
-- comes to its last lines.
def ends (s : Server) (p : PlayerRef) : Option (MatchRef × Fin 16) :=
  (s.player p).matchRef.bind fun r => ((s.matchAt r).getSlotId p).bind fun i =>
    if (completing (s.matchAt r) i).anySlot fun slot => decide (slot.status = .playing) then none
    else
      match matchComplete p s with
      | (.ok _, _) => some (r, i)
      | (.error _, _) => none

end Completing

-- What happened in a match since Match.start was last called: how many starts
-- there were, who was set to playing, and what they sent.
structure Round where
  number : Nat
  started : List PlayerRef
  frame : PlayerRef → Option (List UInt8)
  failed : PlayerRef → Bool

def Round.blank : Round :=
  { number := 0, started := [], frame := fun _ => none, failed := fun _ => false }

-- The players Match.start sets to playing.
def startedPlayers (m : Match) : List PlayerRef :=
  (List.finRange 16).filterMap fun i =>
    if (m.slots i).status ≠ .noMap then (m.slots i).player else none

def Round.start (round : Round) (m : Match) : Round :=
  { number := round.number + 1
    started := startedPlayers m
    frame := fun _ => none
    failed := fun _ => false }

def Round.sendFrame (p : PlayerRef) (playData : List UInt8) (round : Round) : Round :=
  { round with frame := Function.update round.frame p (some playData) }

def Round.sendFailed (p : PlayerRef) (round : Round) : Round :=
  { round with failed := Function.update round.failed p true }

-- A game that was recorded, and what its match was like at the time.
structure Recorded where
  game : CompletedGame
  matchRef : MatchRef
  round : Round
  inProgress : Bool
  players : List PlayerRef
  userId : PlayerRef → Nat

structure Games where
  matches_ : Matches
  rounds : MatchRef → Round
  games : List Recorded

namespace Games

def start (setup : Setup) : Games :=
  { matches_ := Matches.start setup, rounds := fun _ => Round.blank, games := [] }

def server (s : Games) : Server := s.matches_.world.server

def sender (s : Games) (p : PlayerRef) : Option MatchRef :=
  if p < s.server.nextPlayer then (s.server.player p).matchRef else none

def tell (rounds : MatchRef → Round) (f : Round → Round) : Option MatchRef → MatchRef → Round
  | some r => Function.update rounds r (f (rounds r))
  | none => rounds

def begun (s : Games) : Option (MatchRef × Play) → MatchRef → Round
  | some (r, .start _) => tell s.rounds (fun round => round.start (s.server.matchAt r)) (some r)
  | _ => s.rounds

-- The rounds after an event: what is sent counts for the match the sender is in.
def heard (s : Games) : BanchoPrism.Event → MatchRef → Round
  | .packet p (.scoreUpdate playData) _ =>
      tell s.rounds (Round.sendFrame p playData) (s.sender p)
  | .packet p .failed _ => tell s.rounds (Round.sendFailed p) (s.sender p)
  | event => s.begun (eventPlay s.matches_.world event)

-- persist_game_completed records nothing when the match has no row.
def record (s : Games) (r : MatchRef) (i : Fin 16) : Option Recorded :=
  (s.matches_.dbId r).map fun matchDbId =>
    let m := completing (s.server.matchAt r) i
    { game := completedGame s.server m matchDbId
      matchRef := r
      round := s.rounds r
      inProgress := m.inProgress
      players := (wasPlaying s.server m).map Prod.fst
      userId := fun q => (s.server.player q).id }

def recorded (s : Games) : BanchoPrism.Event → Option Recorded
  | .packet p .complete _ =>
      if p < s.server.nextPlayer then
        (ends s.server p).bind fun (r, i) => s.record r i
      else none
  | _ => none

def step (s : Games) : Matches.Event → Games
  | .world event =>
      { matches_ := s.matches_.live event
        rounds := s.heard event
        games := s.games ++ (s.recorded event).toList }
  | event => { s with matches_ := s.matches_.step event }

end Games

-- The participants were set to playing by the start of the round, and each has the
-- frame and the flag that this player sent since.
structure Recorded.Faithful (g : Recorded) : Prop where
  inProgress : g.inProgress
  started : ∀ p ∈ g.players, p ∈ g.round.started
  participants : g.game.participants = g.players.map g.userId
  scoreFrames : g.game.scoreFrames.map (fun frame => (frame.userId, frame.rawFrame, frame.passed)) =
    g.players.filterMap fun p => (g.round.frame p).map fun rawFrame =>
      (g.userId p, rawFrame, !g.round.failed p)

section Guard

-- Only who was set to playing in a game that is in progress completes it, and who
-- was set to playing comes into a slot only if it has what they sent.
def Play.Fair (round : Round) (g : Game) : Play → Prop
  | .complete i => g.inProgress ∧ ∃ p ∈ (g.seats i).player, p ∈ round.started
  | .move i j => g.inProgress → ∀ p ∈ (g.seats i).player, p ∈ round.started →
      (g.seats j).frame = (g.seats i).frame ∧ (g.seats j).passed = (g.seats i).passed
  | .sit p i => g.inProgress → p ∈ round.started →
      (g.seats i).frame = round.frame p ∧ (g.seats i).passed = !round.failed p
  | _ => True

instance Play.Fair.decidable (round : Round) (g : Game) (play : Play) :
    Decidable (Play.Fair round g play) := by
  unfold Play.Fair
  split <;> infer_instance

end Guard

namespace Games

def Event.Fair (s : Games) : Matches.Event → Prop
  | .world event =>
      (∀ made ∈ eventPlay s.matches_.world event,
        Play.Fair (s.rounds made.1) (s.server.game made.1) made.2) ∧
      ∀ asked ∈ eventJoin s.matches_.world event, ∀ i ∈ asked.slot s.server,
        Play.Fair (s.rounds asked.target) (s.server.game asked.target) (.sit asked.player i)
  | _ => True

instance Event.Fair.decidable (s : Games) (event : Matches.Event) :
    Decidable (Event.Fair s event) := by
  unfold Event.Fair
  split <;> infer_instance

-- Every recorded game is faithful, and a start has one game at most.
structure Faithful (s : Games) : Prop where
  each : ∀ g ∈ s.games, g.Faithful
  once : (s.games.map fun g => (g.matchRef, g.round.number)).Nodup

instance (g : Recorded) : Decidable g.Faithful :=
  decidable_of_iff (g.inProgress ∧ (∀ p ∈ g.players, p ∈ g.round.started) ∧
    g.game.participants = g.players.map g.userId ∧
    g.game.scoreFrames.map (fun frame => (frame.userId, frame.rawFrame, frame.passed)) =
      g.players.filterMap fun p => (g.round.frame p).map fun rawFrame =>
        (g.userId p, rawFrame, !g.round.failed p))
    ⟨fun ⟨h1, h2, h3, h4⟩ => ⟨h1, h2, h3, h4⟩, fun ⟨h1, h2, h3, h4⟩ => ⟨h1, h2, h3, h4⟩⟩

instance (s : Games) : Decidable s.Faithful :=
  decidable_of_iff ((∀ g ∈ s.games, g.Faithful) ∧
    (s.games.map fun g => (g.matchRef, g.round.number)).Nodup)
    ⟨fun ⟨h1, h2⟩ => ⟨h1, h2⟩, fun ⟨h1, h2⟩ => ⟨h1, h2⟩⟩

end Games

end BanchoPrism.History
