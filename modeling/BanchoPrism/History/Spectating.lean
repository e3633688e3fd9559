import BanchoPrism.Library.Ledger
import BanchoPrism.Library.Run
import BanchoPrism.Sessions.State

namespace BanchoPrism.History

open Library

-- One call of add_spectator that got through.
structure Watching where
  host : PlayerRef
  spectator : PlayerRef
  deriving DecidableEq

-- The spectators of each player, with the rows of spectator_sessions. A watching
-- is known by its number; rows, inserts and closings are told apart by it.
structure Spectating where
  spectators : PlayerRef → List PlayerRef
  spectating : PlayerRef → Option PlayerRef
  -- spectating_session_db_id
  sessionDbId : PlayerRef → Option Nat
  watchings : List Watching
  -- the watching a player is in
  current : PlayerRef → Option Nat
  sessions : Ledger Nat

namespace Spectating

def empty : Spectating :=
  { spectators := fun _ => []
    spectating := fun _ => none
    sessionDbId := fun _ => none
    watchings := []
    current := fun _ => none
    sessions := Ledger.empty }

-- Player.add_spectator; joined is what player.join_channel(spec_chan) answered
def addSpectator (s : Spectating) (host player : PlayerRef) (joined : Bool) : Spectating :=
  if joined then
    { s with
      spectators := Function.update s.spectators host (s.spectators host ++ [player])
      spectating := Function.update s.spectating player (some host)
      watchings := s.watchings ++ [{ host := host, spectator := player }]
      current := Function.update s.current player (some s.watchings.length)
      -- persist_spectator_started
      sessions := s.sessions.begin_ s.watchings.length }
  else s

-- Player.remove_spectator; none is the ValueError of list.remove
def removeSpectator (s : Spectating) (host player : PlayerRef) : Option Spectating :=
  if player ∈ s.spectators host then
    some
      { s with
        spectators := Function.update s.spectators host ((s.spectators host).erase player)
        spectating := Function.update s.spectating player none
        sessionDbId := Function.update s.sessionDbId player none
        current := Function.update s.current player none
        -- persist_spectator_ended, with the id captured before it was cleared
        sessions := s.sessions.finish (fun k => decide (s.current player = some k))
          fun _ => s.sessionDbId player }
  else none

-- StartSpectating.handle, for a target that is online
def startSpectating (s : Spectating) (player newHost : PlayerRef) (joined : Bool) : Spectating :=
  match s.spectating player with
  | none => s.addSpectator newHost player joined
  | some host =>
      if host = newHost then s
      else
        match s.removeSpectator host player with
        | some s' => s'.addSpectator newHost player joined
        | none => s

-- StopSpectating.handle, and what logout does about spectating
def stopSpectating (s : Spectating) (player : PlayerRef) : Spectating :=
  match s.spectating player with
  | none => s
  | some host => (s.removeSpectator host player).getD s

-- _stash_session_db_id, with the id of the row that watching k opened
def stash (s : Spectating) (k id : Nat) : Spectating :=
  match s.watchings[k]? with
  | some w =>
      { s with
        sessionDbId := Function.update s.sessionDbId w.spectator (some id)
        sessions := s.sessions.arrive k }
  | none => s

-- persist_spectator_started once the insert has returned
def arrive (s : Spectating) (k : Nat) : Spectating :=
  match s.sessions.opening k with
  | .returning id => s.stash k id
  | _ => s

inductive Event
  | start (player newHost : PlayerRef) (joined : Bool)
  | stop (player : PlayerRef)
  -- the INSERT of watching k runs, and later its task goes on with the id
  | insert (k : Nat)
  | arrive (k : Nat)
  -- the UPDATE of watching k's end runs
  | stamp (k : Nat)

def step (s : Spectating) : Event → Spectating
  | .start player newHost joined => s.startSpectating player newHost joined
  | .stop player => s.stopSpectating player
  | .insert k => { s with sessions := s.sessions.insert k }
  | .arrive k => s.arrive k
  | .stamp k => { s with sessions := s.sessions.stamp k }

-- The end time is set, or the update that sets it is under way.
def Ended (s : Spectating) (id : Nat) (entry : Entry Nat) : Prop :=
  entry.closer.isSome ∨ s.sessions.closing entry.opener = some id

-- A row is of the watching that opened it.
def Watched (s : Spectating) (k : Nat) : Prop :=
  ∃ w, s.watchings[k]? = some w ∧ s.spectating w.spectator = some w.host ∧
    s.current w.spectator = some k

-- Sessions and spectating are paired: an end time is stamped by the watching
-- that opened the row; with no insert pending the open rows are those of the
-- players who are spectating; and a stashed id is that of the open row of the
-- watching its player is in.
structure Paired (s : Spectating) : Prop where
  stamped : ∀ entry ∈ s.sessions.rows, ∀ k, entry.closer = some k → k = entry.opener
  open_iff : (∀ k, (s.sessions.opening k).pending = false) → ∀ id entry,
    s.sessions.rows[id]? = some entry → (¬s.Ended id entry ↔ s.Watched entry.opener)
  kept : (∀ k, (s.sessions.opening k).pending = false) → ∀ player host,
    s.spectating player = some host → ∃ (id : Nat) (entry : Entry Nat) (w : Watching),
      s.sessions.rows[id]? = some entry ∧ entry.closer = none ∧
        s.watchings[entry.opener]? = some w ∧ w.host = host ∧ w.spectator = player
  stashed : ∀ player id, s.sessionDbId player = some id → ∃ entry,
    s.sessions.rows[id]? = some entry ∧ entry.closer = none ∧
      s.current player = some entry.opener ∧ s.Watched entry.opener

-- The insert of the watching that a player is in is not under way.
def Landed (s : Spectating) (player : PlayerRef) : Prop :=
  ∀ k, s.current player = some k → (s.sessions.opening k).pending = false

-- Nobody stops spectating before the insert has returned.
def Event.Waits (s : Spectating) : Event → Prop
  | .start player newHost _ => s.spectating player = some newHost ∨ s.Landed player
  | .stop player => s.Landed player
  | _ => True

end Spectating

end BanchoPrism.History
