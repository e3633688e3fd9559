import BanchoPrism.Constants.Privileges
import BanchoPrism.Library.Rows
import BanchoPrism.Library.Tasks

namespace BanchoPrism.Clans

open Library

inductive ClanPrivileges
  | Member
  | Officer
  | Owner
  deriving DecidableEq

def ClanPrivileges.value : ClanPrivileges → Int
  | .Member => 1
  | .Officer => 2
  | .Owner => 3

structure User where
  id : Int
  name : String
  safeName : String
  priv : Privileges
  clanId : Int := 0
  clanPriv : Int := 0
  deriving DecidableEq

structure Clan where
  id : Int
  name : String
  tag : String
  owner : Int
  createdAt : Int
  deriving DecidableEq

-- What a session has of the clan of its player.
structure ClanState where
  clanId : Option Int := none
  clanPriv : Option ClanPrivileges := none
  deriving DecidableEq

inductive CreateClanResultCode
  | CREATED
  | INVALID_TAG
  | INVALID_NAME
  | ALREADY_IN_CLAN
  | TAG_TAKEN
  | NAME_TAKEN
  deriving DecidableEq

inductive LeaveClanResultCode
  | LEFT
  | NOT_IN_CLAN
  | OWNER_MUST_TRANSFER
  deriving DecidableEq

inductive TransferClanResultCode
  | TRANSFERRED
  | NOT_CLAN_OWNER
  | TARGET_NOT_FOUND
  | TARGET_ALREADY_OWNER
  deriving DecidableEq

-- What the calls return, or raise: the assert on the user, and a unique index of clans.
inductive Result
  | create (code : CreateClanResultCode) (clan : Option Clan := none)
      (currentClan : Option Clan := none)
  | disband (clan : Option Clan)
  | leave (code : LeaveClanResultCode) (clan : Option Clan := none) (disbanded : Bool := false)
  | transfer (code : TransferClanResultCode) (clan : Option Clan := none)
      (target : Option User := none)
  | AssertionError
  | IntegrityError
  deriving DecidableEq

-- The tables, and the id that clans has next.
structure Db where
  users : List User
  clans : List Clan
  nextId : Int
  deriving DecidableEq

-- The sessions of a user: the one that players.get(id=...) finds, and those beside it, such as one
-- that a tourney client has joined.
structure Sessions where
  found : Option ClanState := none
  others : List ClanState := []
  deriving DecidableEq

def Sessions.all (sessions : Sessions) : List ClanState := sessions.found.toList ++ sessions.others

structure World where
  db : Db
  online : Int → Sessions
  results : List Result := []

-- str.upper, str.lower, and the collation of the names and tags of clans.
structure ClansService where
  upper : String → String
  lower : String → String
  collate : String → String

namespace Db

variable (db : Db)

def fetchUser (id : Int) : Option User := fetchBy User.id db.users id

def fetchUserByName (safeName : String) : Option User := fetchBy User.safeName db.users safeName

def fetchMembers (clanId : Int) : List User := db.users.filter fun u => u.clanId = clanId

def fetchClan (id : Int) : Option Clan := fetchBy Clan.id db.clans id

-- UPDATE users ... WHERE id = ...
def updateUser (id : Int) (change : User → User) : Db :=
  { db with users := db.users.map fun u => if u.id = id then change u else u }

def setClan (id clanId clanPriv : Int) : Db :=
  db.updateUser id fun u => { u with clanId := clanId, clanPriv := clanPriv }

def setClanPriv (id clanPriv : Int) : Db :=
  db.updateUser id fun u => { u with clanPriv := clanPriv }

def deleteClan (id : Int) : Db := { db with clans := deleteBy Clan.id db.clans id }

-- UPDATE clans SET owner = ... WHERE id = ..., none where another clan has the owner.
def setOwner (id owner : Int) : Option Db :=
  (enforce Clan.id Clan.owner
      (db.clans.map fun c => if c.id = id then { c with owner := owner } else c)).map
    fun clans => { db with clans := clans }

-- INSERT INTO clans, none where another clan has the name, the tag or the owner.
def insertClan (collate : String → String) (name tag : String) (owner now : Int) :
    Option (Clan × Db) :=
  let clan : Clan := { id := db.nextId, name := name, tag := tag, owner := owner, createdAt := now }
  if db.clans.any fun c =>
      collate c.name = collate name || collate c.tag = collate tag || c.owner = owner then none
  else some (clan, { db with clans := db.clans ++ [clan], nextId := db.nextId + 1 })

-- The transactions; none where one is rolled back.

def create (collate : String → String) (playerId : Int) (tag name : String) (now : Int) :
    Option (Clan × Db) := do
  let (clan, after) ← db.insertClan collate name tag playerId now
  some (clan, after.setClan playerId clan.id ClanPrivileges.Owner.value)

def disband (clanId : Int) (members : List User) : Db :=
  members.foldl (fun db member => db.setClan member.id 0 0) (db.deleteClan clanId)

def leave (playerId clanId : Int) (remaining : List User) : Db :=
  let after := db.setClan playerId 0 0
  if remaining.isEmpty then after.deleteClan clanId else after

def transfer (clanId targetId ownerId : Int) : Option Db := do
  let after ← db.setOwner clanId targetId
  some ((after.setClanPriv targetId ClanPrivileges.Owner.value).setClanPriv ownerId
    ClanPrivileges.Officer.value)

end Db

-- The calls; a clan that is created gets the time of its creation from func.now().
inductive Op
  | createClan (playerId : Int) (tag name : String) (now : Int)
  | disbandClan (clanId : Int)
  | leaveClan (playerId : Int)
  | transferClanOwnership (ownerId : Int) (targetName : String)

-- What a call awaits next, with what it has read so far. The sessions are synced when the
-- transaction is done.
inductive Line
  | createClan (playerId : Int) (tag name : String) (now : Int)
  | currentClan (playerId : Int) (tag name : String) (now clanId : Int)
  | findName (playerId : Int) (tag name : String) (now : Int)
  | findTag (playerId : Int) (tag name : String) (now : Int)
  | create (playerId : Int) (tag name : String) (now : Int)
  | disbandClan (clanId : Int)
  | disbandMembers (clan : Clan)
  | disband (clan : Clan) (members : List User)
  | leaveClan (playerId : Int)
  | leftClan (playerId clanId : Int)
  | leftMembers (playerId : Int) (clan : Clan)
  | leave (playerId : Int) (clan : Clan) (remaining : List User)
  | transferClanOwnership (ownerId : Int) (targetName : String)
  | ownedClan (owner : User) (targetName : String)
  | findTarget (owner : User) (clan : Clan) (targetName : String)
  | transfer (ownerId : Int) (clan : Clan) (target : User)
  | sync (sessions : List (Int × ClanState)) (result : Result)

def Op.lines : Op → List Line
  | .createClan playerId tag name now => [.createClan playerId tag name now]
  | .disbandClan clanId => [.disbandClan clanId]
  | .leaveClan playerId => [.leaveClan playerId]
  | .transferClanOwnership ownerId targetName => [.transferClanOwnership ownerId targetName]

def World.answer (w : World) (result : Result) : World × List Line :=
  ({ w with results := w.results ++ [result] }, [])

-- _sync_online_clan_state
def syncOnlineClanState (online : Int → Sessions) (session : Int × ClanState) : Int → Sessions :=
  match (online session.1).found with
  | some _ =>
      Function.update online session.1 { online session.1 with found := some session.2 }
  | none => online

namespace ClansService

variable (v : ClansService)

def makeSafeName (name : String) : String :=
  String.ofList ((v.lower name).toList.map fun c => if c = ' ' then '_' else c)

def perform (line : Line) (w : World) : World × List Line :=
  match line with
  | .createClan playerId tag name now =>
      let tag := v.upper tag
      if ¬(1 ≤ tag.length ∧ tag.length ≤ 6) then w.answer (.create .INVALID_TAG)
      else if ¬(2 ≤ name.length ∧ name.length ≤ 16) then w.answer (.create .INVALID_NAME)
      else
        match w.db.fetchUser playerId with
        | none => w.answer .AssertionError
        | some player =>
            if player.clanId ≠ 0 then (w, [.currentClan playerId tag name now player.clanId])
            else (w, [.findName playerId tag name now])
  | .currentClan playerId tag name now clanId =>
      match w.db.fetchClan clanId with
      | some currentClan => w.answer (.create .ALREADY_IN_CLAN none (some currentClan))
      | none => (w, [.findName playerId tag name now])
  | .findName playerId tag name now =>
      if w.db.clans.any fun c => v.collate c.name = v.collate name then
        w.answer (.create .NAME_TAKEN)
      else (w, [.findTag playerId tag name now])
  | .findTag playerId tag name now =>
      if w.db.clans.any fun c => v.collate c.tag = v.collate tag then w.answer (.create .TAG_TAKEN)
      else (w, [.create playerId tag name now])
  | .create playerId tag name now =>
      match w.db.create v.collate playerId tag name now with
      | none => w.answer .IntegrityError
      | some (clan, after) =>
          let state := { clanId := some clan.id, clanPriv := some .Owner }
          ({ w with db := after }, [.sync [(playerId, state)] (.create .CREATED (some clan))])
  | .disbandClan clanId =>
      match w.db.fetchClan clanId with
      | none => w.answer (.disband none)
      | some clan => (w, [.disbandMembers clan])
  | .disbandMembers clan => (w, [.disband clan (w.db.fetchMembers clan.id)])
  | .disband clan members =>
      ({ w with db := w.db.disband clan.id members },
        [.sync (members.map fun member => (member.id, {})) (.disband (some clan))])
  | .leaveClan playerId =>
      match w.db.fetchUser playerId with
      | none => w.answer .AssertionError
      | some player =>
          if player.clanId = 0 then w.answer (.leave .NOT_IN_CLAN)
          else if player.clanPriv = ClanPrivileges.Owner.value then
            w.answer (.leave .OWNER_MUST_TRANSFER)
          else (w, [.leftClan playerId player.clanId])
  | .leftClan playerId clanId =>
      match w.db.fetchClan clanId with
      | none => w.answer (.leave .NOT_IN_CLAN)
      | some clan => (w, [.leftMembers playerId clan])
  | .leftMembers playerId clan =>
      let remaining := (w.db.fetchMembers clan.id).filter fun member => member.id ≠ playerId
      (w, [.leave playerId clan remaining])
  | .leave playerId clan remaining =>
      ({ w with db := w.db.leave playerId clan.id remaining },
        [.sync [(playerId, {})] (.leave .LEFT (some clan) remaining.isEmpty)])
  | .transferClanOwnership ownerId targetName =>
      match w.db.fetchUser ownerId with
      | none => w.answer .AssertionError
      | some owner =>
          if owner.clanId = 0 ∨ owner.clanPriv ≠ ClanPrivileges.Owner.value then
            w.answer (.transfer .NOT_CLAN_OWNER)
          else (w, [.ownedClan owner targetName])
  | .ownedClan owner targetName =>
      match w.db.fetchClan owner.clanId with
      | none => w.answer (.transfer .NOT_CLAN_OWNER)
      | some clan => (w, [.findTarget owner clan targetName])
  | .findTarget owner clan targetName =>
      match w.db.fetchUserByName (v.makeSafeName targetName) with
      | none => w.answer (.transfer .TARGET_NOT_FOUND)
      | some target =>
          if target.clanId ≠ clan.id ∨
              ¬canViewPlayer (some { id := owner.id, priv := owner.priv }) target.id target.priv then
            w.answer (.transfer .TARGET_NOT_FOUND)
          else if target.id = owner.id then w.answer (.transfer .TARGET_ALREADY_OWNER)
          else (w, [.transfer owner.id clan target])
  | .transfer ownerId clan target =>
      match w.db.transfer clan.id target.id ownerId with
      | none => w.answer .IntegrityError
      | some after =>
          let owner := { clanId := some clan.id, clanPriv := some .Owner }
          let officer := { clanId := some clan.id, clanPriv := some .Officer }
          ({ w with db := after },
            [.sync [(target.id, owner), (ownerId, officer)]
              (.transfer .TRANSFERRED (some clan) (some target))])
  | .sync sessions result =>
      World.answer { w with online := sessions.foldl syncOnlineClanState w.online } result

end ClansService

abbrev Calls := Tasks World Line

abbrev Event := Tasks.Event Op

def Calls.step (v : ClansService) : Calls → Event → Calls := Tasks.step Op.lines v.perform

end BanchoPrism.Clans
