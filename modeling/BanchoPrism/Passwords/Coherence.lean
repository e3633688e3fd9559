import BanchoPrism.Library.Tasks
import Mathlib.Logic.Function.Basic

namespace BanchoPrism.Passwords

open Library

abbrev Md5 := String

-- What a bcrypt hash is made from. gensalt gives no salt twice, so no two hashes that
-- are made are equal.
structure Hash where
  md5 : Md5
  salt : Nat
  deriving DecidableEq

def checkpw (password : Md5) (hash : Hash) : Bool := hash.md5 = password

-- A Player object that is logged in, or about to be.
structure Player where
  name : String
  number : Nat
  pwBcrypt : Hash
  deriving DecidableEq

structure Server where
  -- the pw_bcrypt column, by safe name
  users : String → Option Hash
  passwordCache : Hash → Option Md5
  -- the players, and their _by_name
  online : List Player
  byName : String → Option Player
  made : Nat
  salts : Nat

namespace Server

-- What authenticate_login_credentials does with the hash that it fetched.
def verify (s : Server) (untrusted : Md5) (trusted : Hash) : Option Server :=
  match s.passwordCache trusted with
  | some known => if untrusted = known then some s else none
  | none =>
      if checkpw untrusted trusted then
        some { s with passwordCache := Function.update s.passwordCache trusted (some untrusted) }
      else none

def authenticateLoginCredentials (s : Server) (name : String) (untrusted : Md5) : Option Server :=
  match s.users name with
  | none => none
  | some hash => s.verify untrusted hash

def authenticateOnlinePlayer (s : Server) (name : String) (md5 : Md5) : Option Player :=
  match s.byName name with
  | none => none
  | some player => if s.passwordCache player.pwBcrypt = some md5 then some player else none

-- Player.logout, as far as the players go
def logout (s : Server) (player : Player) : Server :=
  if player ∈ s.online then
    { s with
      online := s.online.erase player
      byName := Function.update s.byName player.name none }
  else s

end Server

inductive Op
  | login (name : String) (md5 : Md5) (tourney : Bool)
  | logout (player : Player)
  -- to a password that passes validate_password
  | changePassword (name : String) (current new : Md5)
  -- a login to the web api
  | authenticate (name : String) (md5 : Md5)
  -- an in-game web request
  | request (name : String) (md5 : Md5)

-- Who authenticate_login_credentials was called by.
inductive Caller
  | login
  | changePassword (new : Md5)
  | api

inductive Line
  | op (op : Op)
  -- authenticate_login_credentials
  | fetchHash (name : String) (md5 : Md5) (caller : Caller)
  | verify (name : String) (md5 : Md5) (hash : Hash) (caller : Caller)
  -- login
  | readPassword (name : String)
  | createPlayer (name : String) (hash : Hash)
  | append (player : Player)
  -- change_password
  | fetchOld (name : String) (new : Hash)
  | write (name : String) (old new : Hash)
  | evict (old new : Hash)

open Line

-- What the caller goes on with.
def Caller.proceed (s : Server) (name : String) : Caller → Server × List Line
  | login => (s, [readPassword name])
  | changePassword new =>
      ({ s with salts := s.salts + 1 }, [fetchOld name { md5 := new, salt := s.salts }])
  | api => (s, [])

def Op.perform (s : Server) : Op → Server × List Line
  | login name md5 tourney =>
      match s.byName name with
      | some player =>
          if tourney then (s, [fetchHash name md5 .login])
          else (s.logout player, [fetchHash name md5 .login])
      | none => (s, [fetchHash name md5 .login])
  | logout player => (s.logout player, [])
  | changePassword name current new => (s, [fetchHash name current (.changePassword new)])
  | authenticate name md5 => (s, [fetchHash name md5 .api])
  -- authenticate_online_player writes nothing
  | request _ _ => (s, [])

def Line.perform (s : Server) : Line → Server × List Line
  | op o => o.perform s
  | fetchHash name md5 caller =>
      match s.users name with
      | none => (s, [])
      | some hash => (s, [verify name md5 hash caller])
  | verify name md5 hash caller =>
      match s.verify md5 hash with
      | none => (s, [])
      | some s => caller.proceed s name
  | readPassword name =>
      match s.users name with
      | none => (s, [])
      | some hash => (s, [createPlayer name hash])
  | createPlayer name hash =>
      ({ s with made := s.made + 1 }, [append { name := name, number := s.made, pwBcrypt := hash }])
  | append player =>
      if player ∈ s.online then (s, [])
      else
        ({ s with
            online := s.online ++ [player]
            byName := Function.update s.byName player.name (some player) }, [])
  | fetchOld name new =>
      match s.users name with
      | none => (s, [])
      | some old => (s, [write name old new])
  | write name old new =>
      ({ s with users := Function.update s.users name (some new) }, [evict old new])
  | evict old new =>
      ({ s with
          passwordCache :=
            Function.update (Function.update s.passwordCache old none) new (some new.md5) }, [])

abbrev Traffic := Tasks Server Line

abbrev Event := Tasks.Event Op

def Traffic.step (t : Traffic) (e : Event) : Traffic :=
  Tasks.step (fun o => [op o]) (fun line s => line.perform s) t e

section Statement

def Server.IsPassword (s : Server) (name : String) (md5 : Md5) : Prop :=
  ∃ hash, s.users name = some hash ∧ hash.md5 = md5

def Server.IsOnline (s : Server) (name : String) : Prop := ∃ player ∈ s.online, player.name = name

-- The two ways to authenticate go by the password that is stored.
structure Server.Coherent (s : Server) : Prop where
  login : ∀ name md5,
    (s.authenticateLoginCredentials name md5).isSome ↔ s.IsPassword name md5
  online : ∀ name md5,
    (s.authenticateOnlinePlayer name md5).isSome ↔ s.IsOnline name ∧ s.IsPassword name md5

-- What the server is started with: nobody is online, no two accounts have the same hash,
-- and the cache holds what its hashes were made from.
structure Traffic.Starts (t : Traffic) : Prop where
  idle : Tasks.Idle t.running
  online : t.world.online = []
  byName : ∀ name, t.world.byName name = none
  cache : ∀ hash md5, t.world.passwordCache hash = some md5 → md5 = hash.md5
  salts : ∀ name hash, t.world.users name = some hash → hash.salt < t.world.salts
  distinct : ∀ name name' hash, t.world.users name = some hash → t.world.users name' = some hash →
    name = name'

-- A login that has read the hash of the account, and has not yet appended its player.
def Line.enters (name : String) : Line → Bool
  | createPlayer n _ => n = name
  | append player => player.name = name
  | _ => false

-- The only player of its account.
def Server.Sole (s : Server) (player : Player) : Prop :=
  player ∈ s.online → ∀ other ∈ s.online, other.name = player.name → other = player

-- No hash is written while a player has the one before it, and no player is logged out
-- while another one of the account stays.
def Line.Heeds (line : Line) (s : Server) (others : List (List Line)) : Prop :=
  match line with
  | write name _ _ => ¬s.IsOnline name ∧ ¬Tasks.Owed (enters name) others
  | op (.logout player) => s.Sole player
  | op (.login name _ tourney) => tourney = false → ∀ player ∈ s.byName name, s.Sole player
  | _ => True

instance (s : Server) (name : String) : Decidable (s.IsOnline name) :=
  inferInstanceAs (Decidable (∃ player ∈ s.online, _))

instance (s : Server) (player : Player) : Decidable (s.Sole player) :=
  inferInstanceAs (Decidable (_ → ∀ other ∈ s.online, _ → _))

instance (line : Line) (s : Server) (others : List (List Line)) :
    Decidable (line.Heeds s others) := by
  unfold Line.Heeds
  split <;> infer_instance

def Traffic.Heeds (t : Traffic) (e : Event) : Prop :=
  Tasks.Meets (fun line s others => line.Heeds s others) t e

instance (t : Traffic) (e : Event) : Decidable (t.Heeds e) :=
  inferInstanceAs (Decidable (Tasks.Meets _ t e))

end Statement

section Invariant

-- The hash that a password change has made and not yet written.
def Line.unwritten : Line → Option Hash
  | fetchOld _ new => some new
  | write _ _ new => some new
  | _ => none

def Line.caches (hash : Hash) : Line → Bool
  | evict _ new => new = hash
  | _ => false

-- The hash of the account is in the cache, or a password change is about to put it there.
def Stored (s : Server) (running : List (List Line)) (name : String) : Prop :=
  ∀ hash, s.users name = some hash →
    (∃ md5, s.passwordCache hash = some md5) ∨ Tasks.Owed (caches hash) running

-- An old hash is written back by nobody.
structure Retired (s : Server) (running : List (List Line)) (old : Hash) : Prop where
  salt : old.salt < s.salts
  unwritten : old ∉ Tasks.gather Line.unwritten running

def Line.Fits (s : Server) (running : List (List Line)) : Line → Prop
  | verify name _ hash _ => s.users name = some hash ∨ Stored s running name
  | readPassword name => Stored s running name
  | createPlayer name hash => s.users name = some hash ∧ Stored s running name
  | append player => s.users player.name = some player.pwBcrypt ∧ Stored s running player.name
  | write name old _ => Retired s running old ∧ ∀ n, s.users n = some old → n = name
  | evict old _ => Retired s running old ∧ ∀ n, s.users n ≠ some old
  | _ => True

-- The players and their index.
structure Server.Listed (s : Server) : Prop where
  nodup : s.online.Nodup
  byName : ∀ name player, s.byName name = some player → player ∈ s.online ∧ player.name = name
  indexed : ∀ player ∈ s.online, ∃ other, s.byName player.name = some other

structure Sound (t : Traffic) : Prop where
  cache : ∀ hash md5, t.world.passwordCache hash = some md5 → md5 = hash.md5
  distinct : ∀ name name' hash, t.world.users name = some hash → t.world.users name' = some hash →
    name = name'
  salts : ∀ name hash, t.world.users name = some hash → hash.salt < t.world.salts
  newSalts : ∀ hash ∈ Tasks.gather Line.unwritten t.running, hash.salt < t.world.salts
  fresh : ∀ hash ∈ Tasks.gather Line.unwritten t.running, ∀ name, t.world.users name ≠ some hash
  nodup : (Tasks.gather Line.unwritten t.running).Nodup
  lines : ∀ task ∈ t.running, ∀ line ∈ task, line.Fits t.world t.running
  players : ∀ player ∈ t.world.online, t.world.users player.name = some player.pwBcrypt ∧
    Stored t.world t.running player.name
  listed : t.world.Listed

theorem gather_idle {running : List (List Line)} (h : Tasks.Idle running) :
    Tasks.gather Line.unwritten running = [] := by
  refine List.flatMap_eq_nil_iff.mpr fun task htask => ?_
  rw [h task htask]
  rfl

theorem Traffic.Starts.sound {t : Traffic} (h : t.Starts) : Sound t where
  cache := h.cache
  distinct := h.distinct
  salts := h.salts
  newSalts hash hmem := by
    rw [gather_idle h.idle] at hmem
    cases hmem
  fresh hash hmem := by
    rw [gather_idle h.idle] at hmem
    cases hmem
  nodup := by
    rw [gather_idle h.idle]
    exact List.nodup_nil
  lines task htask line hline := by
    rw [h.idle task htask] at hline
    cases hline
  players player hmem := by
    rw [h.online] at hmem
    cases hmem
  listed := by
    refine ⟨?_, fun name player hname => ?_, fun player hmem => ?_⟩
    · rw [h.online]
      exact List.nodup_nil
    · rw [h.byName name] at hname
      cases hname
    · rw [h.online] at hmem
      cases hmem

end Invariant

end BanchoPrism.Passwords
