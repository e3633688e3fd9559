import BanchoPrism.Leaderboards.Ranks
import BanchoPrism.Library.Tasks

namespace BanchoPrism.Leaderboards

open Library

def Account.restricted (a : Account) : Bool := !a.priv.has Privileges.UNRESTRICTED

namespace Accounts

def find (s : Accounts) (id : Nat) : Option Account := s.rows.find? fun a => a.id = id

-- users.partial_update and stats.partial_update: the id of a row stays.
def partialUpdate (id : Nat) (f : Account → Account) (a : Account) : Account :=
  if a.id = id then { f a with id := a.id } else a

@[simp] theorem partialUpdate_id (id : Nat) (f : Account → Account) (a : Account) :
    (partialUpdate id f a).id = a.id := by
  unfold partialUpdate
  split <;> rfl

def modify (s : Accounts) (id : Nat) (f : Account → Account) : Accounts where
  rows := s.rows.map (partialUpdate id f)
  sorted := by
    rw [List.pairwise_map]
    simpa only [partialUpdate_id] using s.sorted
  positive := by
    intro a ha
    obtain ⟨b, hb, rfl⟩ := List.mem_map.mp ha
    simpa only [partialUpdate_id] using s.positive b hb

end Accounts

-- The modes that an account has stats rows for.
def statModes : List Nat := [0, 1, 2, 3, 4, 5, 6, 8]

-- The rows that stats.fetch_many answers with.
def Account.stats (a : Account) : List (Nat × Nat) := statModes.map fun mode => (mode, a.pp mode)

-- One of the Player objects that were made for an account.
structure Ref where
  id : Nat
  number : Nat
  deriving DecidableEq

structure Player where
  priv : Privileges
  -- geoloc["country"]["acronym"]
  country : String
  -- the pp of self.stats, by mode
  stats : List (Nat × Nat)
  isOnline : Bool

def Player.restricted (player : Player) : Bool := !player.priv.has Privileges.UNRESTRICTED

def Player.setPp (player : Player) (mode pp : Nat) : Player :=
  { player with
    stats := player.stats.map fun entry => if entry.1 = mode then (mode, pp) else entry }

structure Server where
  stores : Stores
  players : Ref → Player
  made : Nat
  -- the _by_id of the players
  byId : Nat → Option Ref

namespace Server

def modifyRedis (s : Server) (f : Redis → Redis) : Server :=
  { s with stores := s.stores.modifyRedis f }

def modifyAccount (s : Server) (id : Nat) (f : Account → Account) : Server :=
  { s with stores := { s.stores with accounts := s.stores.accounts.modify id f } }

def modifyPlayer (s : Server) (p : Ref) (f : Player → Player) : Server :=
  { s with players := Function.update s.players p (f (s.players p)) }

def make (s : Server) (id : Nat) (player : Player) : Ref × Server :=
  let p : Ref := { id := id, number := s.made }
  (p, { s with players := Function.update s.players p player, made := s.made + 1 })

def logout (s : Server) (p : Ref) : Server :=
  let s := s.modifyPlayer p fun player => { player with isOnline := false }
  if s.byId p.id = some p then { s with byId := Function.update s.byId p.id none } else s

end Server

inductive Moderation
  | restrict
  | unrestrict

inductive Op
  -- with the country of the ip
  | login (id : Nat) (country : String) (tourney : Bool)
  | logout (p : Ref)
  -- a score that is its player's new best on a ranked map: pp is what the weighted
  -- performances make of it
  | submit (p : Ref) (mode pp : Nat)
  -- by the checks of the client and of its scores
  | restrict (p : Ref)
  -- !restrict and !unrestrict
  | moderate (id : Nat) (moderation : Moderation)
  | updateProfile (id : Nat) (country : String)

-- What a task runs between two awaits, or a command that it awaits.
inductive Line
  | op (op : Op)
  | writePriv (id : Nat) (priv : Privileges)
  | writeCountry (id : Nat) (country : String)
  | writePp (id mode pp : Nat)
  | zadd (board : Board) (id pp : Nat)
  | zrem (board : Board) (id : Nat)
  -- login
  | readUser (id : Nat) (country : String)
  | createPlayer (id : Nat) (priv : Privileges) (country : String)
  | statsFromSql (p : Ref)
  | append (p : Ref)
  -- update_rank, and its second zadd
  | updateRank (p : Ref) (mode : Nat)
  | rank (p : Ref) (mode : Nat) (country : Option String)
  -- get_sql
  | getSql (id : Nat) (moderation : Moderation)
  | gotPlayer (id : Nat) (priv : Privileges) (country : String) (moderation : Moderation)
  -- restrict: the country's zrem as it is called, and as it is served
  | unrankHome (p : Ref) (mode : Nat)
  | unrankCountry (mode : Nat) (country : String) (id : Nat)
  | refresh (p : Ref)
  -- unrestrict
  | restoreRanks (p : Ref)
  | rankEach (p : Ref)
  | rankHome (p : Ref) (mode : Nat)
  -- update_profile
  | relocate (id : Nat) (country : String)
  | moveCountries (id : Nat) (priv : Privileges) (old new : String)

open Line

-- The tuple in restrict.
def restrictedModes : List Nat := [0, 1, 2, 3, 4, 5, 6, 8]

-- Player.restrict: remove_privs changes the object at once, and awaits the row.
def restrict (s : Server) (p : Ref) : Server × List Line :=
  let priv := (s.players p).priv ^^^ ((s.players p).priv &&& Privileges.UNRESTRICTED)
  (s.modifyPlayer p fun player => { player with priv := priv },
    writePriv p.id priv ::
      (restrictedModes.flatMap fun mode => [zrem (globalBoard mode) p.id, unrankHome p mode]) ++
        [refresh p])

-- Player.unrestrict
def unrestrict (s : Server) (p : Ref) : Server × List Line :=
  let priv := (s.players p).priv ||| Privileges.UNRESTRICTED
  (s.modifyPlayer p fun player => { player with priv := priv },
    [writePriv p.id priv, restoreRanks p, refresh p])

-- What the command does to the player that from_cache_or_sql gave.
def moderate (s : Server) (p : Ref) : Moderation → Server × List Line
  | .restrict => if (s.players p).restricted then (s, []) else restrict s p
  | .unrestrict => if (s.players p).restricted then unrestrict s p else (s, [])

def Op.perform (s : Server) : Op → Server × List Line
  | login id country tourney =>
      match s.byId id with
      | some p => if tourney then (s, [readUser id country]) else (s.logout p, [readUser id country])
      | none => (s, [readUser id country])
  | logout p => (s.logout p, [])
  | submit p mode pp =>
      match (s.players p).stats.lookup mode with
      -- KeyError
      | none => (s, [])
      | some _ =>
          (s.modifyPlayer p fun player => player.setPp mode pp,
            [writePp p.id mode pp, updateRank p mode])
  | restrict p => Leaderboards.restrict s p
  | moderate id moderation =>
      match s.byId id with
      | some p => Leaderboards.moderate s p moderation
      | none => (s, [getSql id moderation])
  | updateProfile id country =>
      match s.stores.accounts.find id with
      | none => (s, [])
      | some user =>
          (s, [writeCountry id country, relocate id country] ++
            if country = user.country then []
            else [moveCountries id user.priv user.country country])

def Line.perform (s : Server) : Line → Server × List Line
  | op o => o.perform s
  | writePriv id priv => (s.modifyAccount id fun a => { a with priv := priv }, [])
  | writeCountry id country => (s.modifyAccount id fun a => { a with country := country }, [])
  | writePp id mode pp =>
      if mode ∈ statModes then
        (s.modifyAccount id fun a => { a with pp := Function.update a.pp mode pp }, [])
      else (s, [])
  | zadd board id pp => (s.modifyRedis (SortedSets.zadd (.live board) [(id, pp)]), [])
  | zrem board id => (s.modifyRedis (SortedSets.zrem (.live board) id), [])
  | readUser id country =>
      match s.stores.accounts.find id with
      | none => (s, [])
      | some user =>
          (s, (if user.country = "xx" then [writeCountry id country] else []) ++
            [createPlayer id user.priv country])
  | createPlayer id priv country =>
      let (p, s) := s.make id { priv := priv, country := country, stats := [], isOnline := true }
      (s, [statsFromSql p, append p])
  | statsFromSql p =>
      match s.stores.accounts.find p.id with
      | none => (s, [])
      | some a => (s.modifyPlayer p fun player => { player with stats := a.stats }, [])
  | append p => ({ s with byId := Function.update s.byId p.id (some p) }, [])
  | updateRank p mode =>
      let player := s.players p
      match player.stats.lookup mode with
      | none => (s, [])
      | some pp =>
          if player.restricted then (s, [])
          else (s, [zadd (globalBoard mode) p.id pp, rank p mode (some player.country)])
  | rank p mode country =>
      match (s.players p).stats.lookup mode with
      | none => (s, [])
      | some pp => (s, [zadd { mode := mode, country := country } p.id pp])
  | getSql id moderation =>
      match s.stores.accounts.find id with
      | none => (s, [])
      | some user => (s, [gotPlayer id user.priv user.country moderation])
  | gotPlayer id priv country moderation =>
      -- get_sql gives it a token
      let (p, s) := s.make id { priv := priv, country := country, stats := [], isOnline := true }
      moderate s p moderation
  | unrankHome p mode => (s, [unrankCountry mode (s.players p).country p.id])
  | unrankCountry mode country id =>
      (s.modifyRedis (SortedSets.zrem (.live (countryBoard mode country)) id), [])
  | refresh p => if (s.players p).isOnline then (s.logout p, []) else (s, [])
  | restoreRanks p =>
      if (s.players p).isOnline then (s, [rankEach p]) else (s, [statsFromSql p, rankEach p])
  | rankEach p =>
      (s, (s.players p).stats.flatMap fun entry => [rank p entry.1 none, rankHome p entry.1])
  | rankHome p mode =>
      let player := s.players p
      match player.stats.lookup mode with
      | none => (s, [])
      | some pp => (s, [zadd (countryBoard mode player.country) p.id pp])
  | relocate id country =>
      match s.byId id with
      | none => (s, [])
      | some p => (s.modifyPlayer p fun player => { player with country := country }, [])
  | moveCountries id priv old new =>
      match s.stores.accounts.find id with
      | none => (s, [])
      | some a =>
          (s, a.stats.flatMap fun entry =>
            zrem (countryBoard entry.1 old) id ::
              if priv.has Privileges.UNRESTRICTED then [zadd (countryBoard entry.1 new) id entry.2]
              else [])

-- The server and its tasks, while they are served in any order.
abbrev Traffic := Tasks Server Line

abbrev Event := Tasks.Event Op

def Traffic.step (t : Traffic) (e : Event) : Traffic :=
  Tasks.step (fun op => [Line.op op]) (fun line s => line.perform s) t e

end BanchoPrism.Leaderboards
