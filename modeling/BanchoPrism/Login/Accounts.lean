import BanchoPrism.Login.Registry
import BanchoPrism.Library.Run
import BanchoPrism.Multiplayer.Step

namespace BanchoPrism.Login

open Library

-- A row of the users table.
structure UserRow where
  id : Nat
  name : String
  priv : Privileges := Privileges.UNRESTRICTED
  silenceEnd : Int := 0

-- A login request between its first await and players.append, with the row that
-- authenticate gave once it has.
structure Entering where
  username : String
  tourney : Bool
  loginTime : Int
  user : Option UserRow

-- The server with the users table and what it keeps of sessions besides.
structure Accounts where
  server : Server
  users : List UserRow
  -- is_tourney_client and last_recv_time
  tourney : PlayerRef → Bool
  lastRecv : PlayerRef → Int
  -- the tokens that generate_token gives, one for each session
  generateToken : Nat → String
  -- Names of the column safe_name are equal to the database if they are the same under this.
  collate : String → String
  entering : List Entering

-- Logs out a session of this name that has been quiet for ten seconds; false if
-- there is one that has not. Tourney clients are let through.
def replaceSession (lastRecv : PlayerRef → Int) (username : String) (tourney : Bool) (now : Int) :
    Handler Bool := do
  let s ← Prog.read
  match s.getByName username with
  | none => pure true
  | some p =>
      if tourney then pure true
      else if now - lastRecv p < 10 then pure false
      else do
        logout p
        pure true

namespace Accounts

-- users.fetch_one(name=...)
def findUser (s : Accounts) (name : String) : Option UserRow :=
  s.users.find? fun row =>
    s.collate (s.server.makeSafeName row.name) == s.collate (s.server.makeSafeName name)

def arrive (s : Accounts) (username : String) (tourney : Bool) (now : Int) : Accounts :=
  match replaceSession s.lastRecv username tourney now s.server with
  | (.ok true, server) =>
      let e : Entering := { username := username, tourney := tourney, loginTime := now, user := none }
      { s with server := server, entering := s.entering ++ [e] }
  | (_, server) => { s with server := server }

-- authenticate; passes says that the password is right
def authenticate (s : Accounts) (i : Nat) (passes : Bool) : Accounts :=
  match s.entering[i]? with
  | none => s
  | some e =>
      match s.findUser e.username with
      | some row =>
          if passes then { s with entering := s.entering.set i { e with user := some row } }
          else { s with entering := s.entering.eraseIdx i }
      | none => { s with entering := s.entering.eraseIdx i }

-- players.append(player), with the player built from the row
def enterAs (s : Accounts) (e : Entering) (row : UserRow) (blocks : List Nat) : Accounts :=
  let p := s.server.nextPlayer
  { s with
    server := (BanchoPrism.login
      { id := row.id
        name := row.name
        token := s.generateToken p
        priv := row.priv
        silenceEnd := row.silenceEnd
        loginTime := e.loginTime
        blocks := blocks } s.server).2
    tourney := Function.update s.tourney p e.tourney
    lastRecv := Function.update s.lastRecv p e.loginTime }

def enter (s : Accounts) (i : Nat) (blocks : List Nat) : Accounts :=
  match s.entering[i]? with
  | none => s
  | some e =>
      match e.user with
      | none => s
      | some row => { s.enterAs e row blocks with entering := s.entering.eraseIdx i }

-- The name of the session in memory, if there is one.
def renameSession (s : Server) (id : Nat) (name : String) : Server :=
  match s.players.byId id with
  | none => s
  | some p => s.modifyPlayer p fun player =>
      { player with name := name, safeName := s.makeSafeName name }

def renameRow (id : Nat) (name : String) (row : UserRow) : UserRow :=
  if row.id = id then { row with name := name } else row

-- update_profile with a username, if validate_profile_update lets it through
def rename (s : Accounts) (id : Nat) (name : String) : Accounts :=
  match s.users.find? fun row => row.id == id with
  | none => s
  | some row =>
      if name ≠ row.name ∧ (s.findUser name).isSome then s
      else
        { s with
          users := s.users.map (renameRow id name)
          server := renameSession s.server id name }

inductive Event
  | arrive (username : String) (tourney : Bool) (now : Int)
  | authenticate (i : Nat) (passes : Bool)
  -- a later exit of login, without a session
  | fail (i : Nat)
  | enter (i : Nat) (blocks : List Nat)
  -- a LOGOUT packet, or a ghost that is disconnected
  | logout (p : PlayerRef)
  | heard (p : PlayerRef) (now : Int)
  | rename (id : Nat) (name : String)

def step (s : Accounts) : Event → Accounts
  | .arrive username tourney now => s.arrive username tourney now
  | .authenticate i passes => s.authenticate i passes
  | .fail i => { s with entering := s.entering.eraseIdx i }
  | .enter i blocks => s.enter i blocks
  | .logout p => { s with server := (BanchoPrism.logout p s.server).2 }
  | .heard p now => { s with lastRecv := Function.update s.lastRecv p now }
  | .rename id name => s.rename id name

end Accounts

-- Python's lower, the database's collation, the rows of the two tables, whose ids and
-- safe names are unique, and tokens that never repeat.
structure Deployment where
  lower : String → String
  collate : String → String
  rows : List ChannelRow
  bot : UserRow
  others : List UserRow
  generateToken : Nat → String
  bot_id : bot.id = 1
  ids : ((bot :: others).map (·.id)).Nodup
  names : ((bot :: others).map fun row => collate
    (({ lower := lower, decimal := fun _ => none, domain := "" } : Server).makeSafeName
      row.name)).Nodup
  fresh : Function.Injective generateToken

-- initialize_ram_caches: the bot is online.
def Deployment.start (deployment : Deployment) : Accounts :=
  { server := (Setup.start
      { lower := deployment.lower
        rows := deployment.rows
        botName := deployment.bot.name
        botToken := deployment.generateToken 0 }).server
    users := deployment.bot :: deployment.others
    tourney := fun _ => false
    lastRecv := fun _ => 0x7FFFFFFF
    generateToken := deployment.generateToken
    collate := deployment.collate
    entering := [] }

-- Accounts are renamed only while they have no session and no login that has read
-- their row.
def RenamesOffline (s : Accounts) (id : Nat) (name : String) : Prop :=
  ∀ row ∈ s.users, row.id = id → row.name ≠ name →
    s.server.players.byId id = none ∧ ∀ e ∈ s.entering, ∀ row' ∈ e.user, row'.id ≠ id

instance (s : Accounts) (id : Nat) (name : String) : Decidable (RenamesOffline s id name) :=
  inferInstanceAs (Decidable (∀ row ∈ s.users, row.id = id → row.name ≠ name →
    s.server.players.byId id = none ∧ ∀ e ∈ s.entering, ∀ row' ∈ e.user, row'.id ≠ id))

-- players.append gets a player whose id the list does not have.
def Accounts.Event.Vacant (s : Accounts) : Accounts.Event → Prop
  | .enter i _ => ∀ e ∈ s.entering[i]?, ∀ row ∈ e.user, s.server.players.byId row.id = none
  | .rename id name => RenamesOffline s id name
  | _ => True

instance Accounts.Event.Vacant.decidable (s : Accounts) (event : Accounts.Event) :
    Decidable (event.Vacant s) :=
  match event with
  | .enter i _ => inferInstanceAs (Decidable (∀ e ∈ s.entering[i]?, ∀ row ∈ e.user,
      s.server.players.byId row.id = none))
  | .rename id name => inferInstanceAs (Decidable (RenamesOffline s id name))
  | .arrive _ _ _ | .authenticate _ _ | .fail _ | .logout _ | .heard _ _ => isTrue trivial

-- A login ends when no other request for the account is under way, and tourney
-- clients, and names that only the database takes for the account's, come to accounts
-- that have no session.
def Accounts.Event.Single (s : Accounts) : Accounts.Event → Prop
  | .arrive username tourney _ => ∀ q ∈ s.server.players.list,
      s.collate (s.server.player q).safeName = s.collate (s.server.makeSafeName username) →
        tourney = false ∧ (s.server.player q).safeName = s.server.makeSafeName username
  | .enter i _ => ∀ e ∈ s.entering[i]?, ∀ e' ∈ s.entering.eraseIdx i,
      s.collate (s.server.makeSafeName e'.username) ≠ s.collate (s.server.makeSafeName e.username)
  | .rename id name => RenamesOffline s id name
  | _ => True

instance Accounts.Event.Single.decidable (s : Accounts) (event : Accounts.Event) :
    Decidable (event.Single s) :=
  match event with
  | .arrive username tourney _ =>
      inferInstanceAs (Decidable (∀ q ∈ s.server.players.list,
        s.collate (s.server.player q).safeName = s.collate (s.server.makeSafeName username) →
          tourney = false ∧ (s.server.player q).safeName = s.server.makeSafeName username))
  | .enter i _ => inferInstanceAs (Decidable (∀ e ∈ s.entering[i]?, ∀ e' ∈ s.entering.eraseIdx i,
      s.collate (s.server.makeSafeName e'.username) ≠
        s.collate (s.server.makeSafeName e.username)))
  | .rename id name => inferInstanceAs (Decidable (RenamesOffline s id name))
  | .authenticate _ _ | .fail _ | .logout _ | .heard _ _ => isTrue trivial

-- players.get by each of its three keys, and players.remove, which leaves the
-- entries of others.
structure IndexesAgree (s : Server) : Prop where
  token_found : ∀ token, (s.getByToken token).isSome ↔
    ∃ p ∈ s.players.list, (s.player p).token = token
  token_key : ∀ token p, s.getByToken token = some p →
    p ∈ s.players.list ∧ (s.player p).token = token
  id_found : ∀ id, (s.getById id).isSome ↔ ∃ p ∈ s.players.list, ((s.player p).id : Int) = id
  id_key : ∀ id p, s.getById id = some p → p ∈ s.players.list ∧ ((s.player p).id : Int) = id
  name_found : ∀ name, (s.getByName name).isSome ↔
    ∃ p ∈ s.players.list, (s.player p).safeName = s.makeSafeName name
  name_key : ∀ name p, s.getByName name = some p →
    p ∈ s.players.list ∧ (s.player p).safeName = s.makeSafeName name
  removes : ∀ p ∈ s.players.list, ∃ t, playersRemove p s = (.ok (), t) ∧
    t.player = s.player ∧ t.players.list = s.players.list.erase p ∧
    (∀ token, s.getByToken token ≠ some p → t.getByToken token = s.getByToken token) ∧
    (∀ id, s.getById id ≠ some p → t.getById id = s.getById id) ∧
    ∀ name, s.getByName name ≠ some p → t.getByName name = s.getByName name

-- At most one session of a user that is no tourney client, found by id and name.
structure SingleSession (s : Accounts) : Prop where
  single : ∀ p ∈ s.server.players.list, ∀ q ∈ s.server.players.list, s.tourney p = false →
    s.tourney q = false → (s.server.player p).id = (s.server.player q).id → p = q
  id_found : ∀ p ∈ s.server.players.list, s.tourney p = false →
    s.server.getById (s.server.player p).id = some p
  name_found : ∀ p ∈ s.server.players.list, s.tourney p = false →
    s.server.players.byName (s.server.player p).safeName = some p

end BanchoPrism.Login
