import BanchoPrism.Constants.Privileges
import BanchoPrism.Library.Keyed
import BanchoPrism.Library.Run
import BanchoPrism.Sessions.Channels
import Mathlib.Data.Finset.Basic

namespace BanchoPrism.Relationships

open Library

inductive RelationshipType
  | friend
  | block
  deriving DecidableEq

structure Relationship where
  user1 : Int
  user2 : Int
  type : RelationshipType
  deriving DecidableEq

-- The primary key of the table.
def Relationship.pair (r : Relationship) : Int × Int := (r.user1, r.user2)

-- What a Player object has of its relationships.
structure Session where
  id : Int
  friends : Finset Int := ∅
  blocks : Finset Int := ∅

-- The table, the Player objects by reference, those that are online, players._by_id, and the next
-- reference. The bot is the session botRef, of the user botId.
structure Server where
  relationships : List Relationship
  session : PlayerRef → Session
  online : List PlayerRef
  byId : Int → Option PlayerRef
  next : PlayerRef

def botId : Int := 1

-- A server that has just put the bot online.
def started (relationships : List Relationship) : Server where
  relationships := relationships
  session := fun _ => { id := botId }
  online := [botRef]
  byId := Function.update (fun _ => none) botId (some botRef)
  next := botRef + 1

-- A user that from_cache_or_sql has found, with the session if it is one that is online.
structure Found where
  ref : Option PlayerRef
  id : Int
  name : String

inductive AddFriendResult
  | added
  | alreadyFriends
  | targetNotFound
  | cannotFriendSelf
  deriving DecidableEq

def Session.addFriend (me : Session) (u : Int) : Session :=
  { me with friends := insert u me.friends }

def Session.dropFriend (me : Session) (u : Int) : Session :=
  { me with friends := me.friends.erase u }

def Session.addBlock (me : Session) (u : Int) : Session :=
  { me with blocks := insert u me.blocks }

def Session.dropBlock (me : Session) (u : Int) : Session :=
  { me with blocks := me.blocks.erase u }

def Session.loadRow (me : Session) (r : Relationship) : Session :=
  match r.type with
  | .friend => me.addFriend r.user2
  | .block => me.addBlock r.user2

namespace Server

def update (s : Server) (p : PlayerRef) (f : Session → Session) : Server :=
  { s with session := Function.update s.session p (f (s.session p)) }

def fetchOne (s : Server) (user1 user2 : Int) : Option Relationship :=
  fetchBy Relationship.pair s.relationships (user1, user2)

def replace (s : Server) (row : Relationship) : Server :=
  { s with relationships := replaceBy Relationship.pair s.relationships row }

def delete (s : Server) (user1 user2 : Int) : Server :=
  { s with relationships := deleteBy Relationship.pair s.relationships (user1, user2) }

-- An INSERT, of a pair that has no row.
def create (s : Server) (row : Relationship) : Server :=
  { s with relationships := s.relationships ++ [row] }

-- Player.add_friend
def playerAddFriend (s : Server) (p : PlayerRef) (target : Int) : Server :=
  if target ∈ (s.session p).friends then s
  else (s.update p (·.addFriend target)).replace ⟨(s.session p).id, target, .friend⟩

-- Player.remove_friend
def playerRemoveFriend (s : Server) (p : PlayerRef) (target : Int) : Server :=
  if target ∈ (s.session p).friends then
    (s.update p (·.dropFriend target)).delete (s.session p).id target
  else s

-- Player.add_block
def playerAddBlock (s : Server) (p : PlayerRef) (target : Int) : Server :=
  if target ∈ (s.session p).blocks then s
  else (s.update p (·.addBlock target)).replace ⟨(s.session p).id, target, .block⟩

-- Player.remove_block
def playerRemoveBlock (s : Server) (p : PlayerRef) (target : Int) : Server :=
  if target ∈ (s.session p).blocks then
    (s.update p (·.dropBlock target)).delete (s.session p).id target
  else s

-- Player.relationships_from_sql
def relationshipsFromSql (s : Server) (me : Session) : Session :=
  ((s.relationships.filter fun r => r.user1 = me.id).foldl Session.loadRow me).addFriend botId

-- The end of a login: the new session is online.
def login (s : Server) (userId : Int) : Server :=
  { s with
    session := Function.update s.session s.next (s.relationshipsFromSql { id := userId })
    online := s.online ++ [s.next]
    byId := Function.update s.byId userId (some s.next)
    next := s.next + 1 }

def logout (s : Server) (p : PlayerRef) : Server :=
  { s with
    online := s.online.erase p
    byId := Function.update s.byId (s.session p).id none }

-- FriendAdd.handle
def friendAdd (s : Server) (p : PlayerRef) (userId : Int) : Server :=
  match s.byId userId with
  | none => s
  | some target =>
    if target = botRef then s
    else
      let targetId := (s.session target).id
      let s := if targetId ∈ (s.session p).blocks then s.update p (·.dropBlock targetId) else s
      s.playerAddFriend p targetId

-- FriendRemove.handle
def friendRemove (s : Server) (p : PlayerRef) (userId : Int) : Server :=
  match s.byId userId with
  | none => s
  | some target => if target = botRef then s else s.playerRemoveFriend p (s.session target).id

-- !block
def block (s : Server) (p : PlayerRef) (target : Option Found) : Server × String :=
  match target with
  | none => (s, "User not found.")
  | some target =>
    if target.ref = some botRef ∨ target.ref = some p then (s, "What?")
    else if target.id ∈ (s.session p).blocks then (s, target.name ++ " already blocked!")
    else
      let s :=
        if target.id ∈ (s.session p).friends then s.update p (·.dropFriend target.id) else s
      (s.playerAddBlock p target.id, "Added " ++ target.name ++ " to blocked users.")

-- !unblock
def unblock (s : Server) (p : PlayerRef) (target : Option Found) : Server × String :=
  match target with
  | none => (s, "User not found.")
  | some target =>
    if target.ref = some botRef ∨ target.ref = some p then (s, "What?")
    else if target.id ∉ (s.session p).blocks then (s, target.name ++ " not blocked!")
    else (s.playerRemoveBlock p target.id, "Removed " ++ target.name ++ " from blocked users.")

-- online_player, and what is done with it if there is one
def updateOnline (s : Server) (userId : Int) (f : Session → Session) : Server :=
  match s.byId userId with
  | none => s
  | some p => s.update p f

-- The user that the service finds under the id of the target, if the viewer may see it.
def finds (viewer : PlayerIdentity) (target : Option PlayerIdentity) : Bool :=
  match target with
  | none => false
  | some target => canViewPlayer (some viewer) target.id target.priv

-- RelationshipsService.add_friend
def addFriend (s : Server) (viewer : PlayerIdentity) (targetId : Int)
    (target : Option PlayerIdentity) : Server × AddFriendResult :=
  if targetId = viewer.id then (s, .cannotFriendSelf)
  else if !finds viewer target then (s, .targetNotFound)
  else
    let befriend (s : Server) : Server :=
      (s.create ⟨viewer.id, targetId, .friend⟩).updateOnline viewer.id (·.addFriend targetId)
    match s.fetchOne viewer.id targetId with
    | none => (befriend s, .added)
    | some existing =>
      match existing.type with
      | .friend => (s, .alreadyFriends)
      | .block => (befriend (s.delete viewer.id targetId), .added)

-- RelationshipsService.remove_friend
def removeFriend (s : Server) (playerId targetId : Int) : Server :=
  match s.fetchOne playerId targetId with
  | none => s
  | some existing =>
    if existing.type ≠ .friend then s
    else (s.delete playerId targetId).updateOnline playerId (·.dropFriend targetId)

end Server

-- A completed operation. The users that are looked up are what the lookup answers.
inductive Op
  | login (userId : Int)
  | logout (p : PlayerRef)
  | friendAdd (p : PlayerRef) (userId : Int)
  | friendRemove (p : PlayerRef) (userId : Int)
  | block (p : PlayerRef) (target : Option Found)
  | unblock (p : PlayerRef) (target : Option Found)
  | addFriend (viewer : PlayerIdentity) (targetId : Int) (target : Option PlayerIdentity)
  | removeFriend (playerId targetId : Int)

-- Only a session that is online sends anything, and the bot does not.
def Server.step (s : Server) : Op → Server
  | .login userId => s.login userId
  | .logout p => if p ∈ s.online ∧ p ≠ botRef then s.logout p else s
  | .friendAdd p userId => if p ∈ s.online ∧ p ≠ botRef then s.friendAdd p userId else s
  | .friendRemove p userId => if p ∈ s.online ∧ p ≠ botRef then s.friendRemove p userId else s
  | .block p target => if p ∈ s.online ∧ p ≠ botRef then (s.block p target).1 else s
  | .unblock p target => if p ∈ s.online ∧ p ≠ botRef then (s.unblock p target).1 else s
  | .addFriend viewer targetId target => (s.addFriend viewer targetId target).1
  | .removeFriend playerId targetId => s.removeFriend playerId targetId

end BanchoPrism.Relationships
