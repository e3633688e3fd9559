import BanchoPrism.Library.Ledger
import BanchoPrism.Multiplayer.Outcomes

namespace BanchoPrism.History

open Library

-- The multiplayer server with the rows of mp_matches and the db_id of each match.
structure Matches where
  world : World
  dbId : MatchRef → Option Nat
  rows : Ledger MatchRef

namespace Matches

inductive Event
  | world (event : BanchoPrism.Event)
  -- the INSERT for match r runs, and later its task goes on with the id
  | insert (r : MatchRef)
  | arrive (r : MatchRef)
  -- the UPDATE that sets disbanded_at of match r's row runs
  | stamp (r : MatchRef)

def start (setup : Setup) : Matches :=
  { world := setup.start, dbId := fun _ => none, rows := Ledger.empty }

def registered (w : World) (r : MatchRef) : Bool :=
  (Fin.find? fun k => w.server.matchList k == some r).isSome

-- The match for which the last lines of MATCH_CREATE spawn persist_match_created.
def created (w : World) : BanchoPrism.Event → Option MatchRef
  | .packet p (.createMatch data) clock =>
      if p < w.server.nextPlayer then
        match matchCreate p data clock.now w.server with
        | (.ok _, s) =>
            if w.server.nextMatch < s.nextMatch then some w.server.nextMatch else none
        | (.error _, _) => none
      else none
  | _ => none

-- leave_match spawns persist_match_disbanded where it takes the match off the list.
def live (s : Matches) (event : BanchoPrism.Event) : Matches :=
  let w := s.world.step event
  let rows := s.rows.finish (fun r => registered s.world r && !registered w r) s.dbId
  { s with
    world := w
    rows :=
      match created s.world event with
      | some r => rows.begin_ r
      | none => rows }

-- _stash_db_id
def arrive (s : Matches) (r : MatchRef) : Matches :=
  match s.rows.opening r with
  | .returning id =>
      { s with
        dbId := Function.update s.dbId r (some id)
        rows := s.rows.arrive r }
  | _ => s

def step (s : Matches) : Event → Matches
  | .world event => s.live event
  | .insert r => { s with rows := s.rows.insert r }
  | .arrive r => s.arrive r
  | .stamp r => { s with rows := s.rows.stamp r }

-- All background work has finished.
def Finished (s : Matches) : Prop :=
  ∀ r < s.world.server.nextMatch,
    (s.rows.opening r).pending = false ∧ s.rows.closing r = none

instance (s : Matches) : Decidable s.Finished := by
  unfold Finished
  infer_instance

-- disbanded_at is set on the rows whose match is gone, by that match's teardown,
-- and on no others.
def Disbanded (s : Matches) : Prop :=
  s.Finished → ∀ row ∈ s.rows.rows,
    row.closer = if registered s.world row.opener then none else some row.opener

instance (s : Matches) : Decidable s.Disbanded := by
  unfold Disbanded
  infer_instance

-- disbanded_at is written at most once.
def StampedOnce (s t : Matches) : Prop :=
  ∀ (id : Nat) (row : Entry MatchRef), s.rows.rows[id]? = some row → row.closer.isSome →
    t.rows.rows[id]? = some row

-- Nobody else is left in a match that p is in.
def LastIn (s : Server) (p : PlayerRef) (r : MatchRef) : Prop :=
  (s.player p).matchRef = some r ∧ ∀ i, ∀ q ∈ ((s.matchAt r).slots i).player, q = p

instance (s : Server) (p : PlayerRef) (r : MatchRef) : Decidable (LastIn s p r) := by
  unfold LastIn
  infer_instance

-- The last player of a match stays until its insert has returned.
def Event.Waits (s : Matches) : Event → Prop
  | .world event => ∀ p ∈ leaver s.world.server event, ∀ r ∈ (s.world.server.player p).matchRef,
      LastIn s.world.server p r → (s.rows.opening r).pending = false
  | _ => True

instance Event.Waits.decidable (s : Matches) (event : Event) : Decidable (event.Waits s) :=
  match event with
  | .world event => inferInstanceAs (Decidable (∀ p ∈ leaver s.world.server event,
      ∀ r ∈ (s.world.server.player p).matchRef,
        LastIn s.world.server p r → (s.rows.opening r).pending = false))
  | .insert _ | .arrive _ | .stamp _ => isTrue trivial

end Matches

end BanchoPrism.History
