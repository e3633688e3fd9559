import BanchoPrism.Login.Theorems

namespace BanchoPrism.Login

open Library

-- A packet that tells of a player.
inductive UserPacket
  | userStats (target : PlayerRef)
  | botStats (target : PlayerRef)
  | userPresence (target : PlayerRef)
  | botPresence (target : PlayerRef)
  deriving DecidableEq

def UserPacket.target : UserPacket → PlayerRef
  | .userStats target => target
  | .botStats target => target
  | .userPresence target => target
  | .botPresence target => target

-- The server, with what is queued for each player of these packets.
structure Roll where
  server : Server
  queue : PlayerRef → List UserPacket

-- What is enqueued at once may be several packets, or none.
def Roll.enqueue (roll : Roll) (player : PlayerRef) (data : List UserPacket) : Roll :=
  if (roll.server.player player).isBotClient then roll
  else { roll with queue := Function.update roll.queue player (roll.queue player ++ data) }

-- players.unrestricted is a set, which is gone through in some order.
structure Unrestricted (s : Server) (order : List PlayerRef) : Prop where
  nodup : order.Nodup
  mem_iff : ∀ p, p ∈ order ↔ p ∈ s.players.list ∧ (s.player p).restricted = false

inductive PresenceRequest
  | stats (userIds : List Int)
  | presence (userIds : List Int)
  | presenceAll

section Handlers

variable (order : List PlayerRef) (player : PlayerRef)

def statsOf (target : PlayerRef) : UserPacket :=
  if target = botRef then .botStats target else .userStats target

def presenceOf (target : PlayerRef) : UserPacket :=
  if target = botRef then .botPresence target else .userPresence target

-- For each of some ids a packet on the player who is online under it.
def answerIds (packet : PlayerRef → UserPacket) (userIds : List Int) (roll : Roll) : Roll :=
  userIds.foldl (fun roll userId =>
    match roll.server.getById userId with
    | some target => roll.enqueue player [packet target]
    | none => roll) roll

-- StatsRequest.handle
def statsRequest (userIds : List Int) (roll : Roll) : Roll :=
  let unrestrictedIds := order.map fun p => ((roll.server.player p).id : Int)
  let isOnline (o : Int) : Bool := o ∈ unrestrictedIds ∧ o ≠ (roll.server.player player).id
  answerIds player statsOf (userIds.filter isOnline) roll

-- UserPresenceRequest.handle
def userPresenceRequest (userIds : List Int) (roll : Roll) : Roll :=
  answerIds player presenceOf userIds roll

-- UserPresenceRequestAll.handle, whose loop is over the name of the player it was called with.
def userPresenceRequestAll (roll : Roll) : Roll :=
  let (player, buffer) := order.foldl
    (fun (_, buffer) player => (player, buffer ++ [UserPacket.userPresence player])) (player, [])
  roll.enqueue player buffer

def PresenceRequest.handle (request : PresenceRequest) (roll : Roll) : Roll :=
  match request with
  | .stats userIds => statsRequest order player userIds roll
  | .presence userIds => userPresenceRequest player userIds roll
  | .presenceAll => userPresenceRequestAll order player roll

end Handlers

section Answers

variable (s : Server) (order : List PlayerRef) (player : PlayerRef)

-- Who may be told about to the player.
def Shown (target : PlayerRef) : Prop := (s.player target).restricted = false ∧ target ≠ player

instance : DecidablePred (Shown s player) := fun _ => inferInstanceAs (Decidable (_ ∧ _))

-- Those a request is about, in its order: an id is that of one who is online, or of nobody.
def PresenceRequest.targets : PresenceRequest → List PlayerRef
  | .stats userIds => userIds.filterMap s.getById
  | .presence userIds => userIds.filterMap s.getById
  | .presenceAll => order

-- One packet each on those of them that may be shown, and nothing for anybody else.
structure Answered (request : PresenceRequest) (roll roll' : Roll) : Prop where
  server : roll'.server = roll.server
  others : ∀ p, p ≠ player → roll'.queue p = roll.queue p
  answer : ∃ packets, roll'.queue player = roll.queue player ++ packets ∧
    packets.map UserPacket.target =
      (request.targets roll.server order).filter fun target => Shown roll.server player target

-- No id that is asked for is that of a restricted player or of the one who asks; and nobody asks
-- for all players where there is one that is not restricted.
def PresenceRequest.Modest : PresenceRequest → Prop
  | .stats _ => True
  | .presence userIds =>
      ∀ userId ∈ userIds, ∀ target ∈ s.getById userId, Shown s player target
  | .presenceAll => order = []

end Answers

section Answering

variable {order : List PlayerRef} {player : PlayerRef} {roll : Roll} {userIds : List Int}

theorem enqueue_queue (hbot : (roll.server.player player).isBotClient = false)
    (data : List UserPacket) :
    roll.enqueue player data =
      { roll with queue := Function.update roll.queue player (roll.queue player ++ data) } := by
  rw [Roll.enqueue, if_neg (by simp [hbot])]

-- All answers to some ids go to the one who asks.
theorem answerIds_eq (packet : PlayerRef → UserPacket)
    (hbot : (roll.server.player player).isBotClient = false) :
    answerIds player packet userIds roll =
      { roll with
        queue := Function.update roll.queue player
          (roll.queue player ++ (userIds.filterMap roll.server.getById).map packet) } := by
  unfold answerIds
  induction userIds generalizing roll with
  | nil => simp
  | cons userId rest ih =>
    rw [List.foldl_cons]
    cases htarget : roll.server.getById userId with
    | none =>
      simp only [List.filterMap_cons, htarget]
      exact ih hbot
    | some target =>
      simp only [List.filterMap_cons, htarget]
      rw [enqueue_queue hbot]
      have hrest := @ih { roll with
        queue := Function.update roll.queue player (roll.queue player ++ [packet target]) } hbot
      refine hrest.trans ?_
      simp [List.append_assoc]

theorem target_statsOf (target : PlayerRef) : (statsOf target).target = target := by
  unfold statsOf
  split <;> rfl

theorem target_presenceOf (target : PlayerRef) : (presenceOf target).target = target := by
  unfold presenceOf
  split <;> rfl

-- What is queued for the one who asks is all that there is of an answer.
theorem answered_update_iff {request : PresenceRequest} {packets : List UserPacket} :
    Answered order player request roll
        { roll with queue := Function.update roll.queue player (roll.queue player ++ packets) } ↔
      packets.map UserPacket.target = (request.targets roll.server order).filter fun target =>
        Shown roll.server player target := by
  constructor
  · rintro ⟨-, -, other, hqueue, htargets⟩
    have hpackets : packets = other := by
      simpa only [Function.update_self, List.append_cancel_left_eq] using hqueue
    rw [hpackets, htargets]
  · intro htargets
    refine ⟨rfl, fun p hp => Function.update_of_ne hp _ _, packets, Function.update_self _ _ _,
      htargets⟩

theorem filterMap_target (packet : PlayerRef → UserPacket) (targets : List PlayerRef)
    (htarget : ∀ target, (packet target).target = target) :
    (targets.map packet).map UserPacket.target = targets := by
  rw [List.map_map]
  exact (List.map_congr_left fun target _ => htarget target).trans (List.map_id _)

-- The id of a player who is online is in the list of ids exactly if the player may be shown.
theorem isOnline_iff (hlisting : Listing roll.server) (horder : Unrestricted roll.server order)
    (hplayer : player ∈ roll.server.players.list) {userId : Int} {target : PlayerRef}
    (htarget : roll.server.getById userId = some target) :
    (userId ∈ order.map (fun p => ((roll.server.player p).id : Int)) ∧
      userId ≠ (roll.server.player player).id) ↔ Shown roll.server player target := by
  obtain ⟨honline, hid⟩ := hlisting.indexesAgree.id_key userId target htarget
  have hself : userId = (roll.server.player player).id ↔ target = player := by
    constructor
    · intro hown
      rw [← hid] at hown
      exact hlisting.id.unique honline hplayer (Int.ofNat_inj.mp hown)
    · rintro rfl
      exact hid.symm
  have hlisted : userId ∈ order.map (fun p => ((roll.server.player p).id : Int)) ↔
      (roll.server.player target).restricted = false := by
    rw [List.mem_map]
    constructor
    · rintro ⟨p, hp, hpid⟩
      obtain ⟨hponline, hrestricted⟩ := (horder.mem_iff p).mp hp
      have hsame : p = target :=
        hlisting.id.unique hponline honline (Int.ofNat_inj.mp (hpid.trans hid.symm))
      rwa [← hsame]
    · intro hrestricted
      exact ⟨target, (horder.mem_iff target).mpr ⟨honline, hrestricted⟩, hid⟩
  rw [hlisted, Ne, hself, Shown]

-- Asking only for the ids of others leaves those who may be shown.
theorem filterMap_isOnline (hlisting : Listing roll.server)
    (horder : Unrestricted roll.server order) (hplayer : player ∈ roll.server.players.list) :
    (userIds.filter fun userId =>
        userId ∈ order.map (fun p => ((roll.server.player p).id : Int)) ∧
          userId ≠ (roll.server.player player).id).filterMap roll.server.getById =
      (userIds.filterMap roll.server.getById).filter fun target =>
        Shown roll.server player target := by
  induction userIds with
  | nil => rfl
  | cons userId rest ih =>
    rw [List.filter_cons, List.filterMap_cons]
    cases htarget : roll.server.getById userId with
    | none =>
      split
      · rw [List.filterMap_cons, htarget]
        exact ih
      · exact ih
    | some target =>
      have honline := isOnline_iff hlisting horder hplayer htarget
      rw [List.filter_cons]
      by_cases hshown : Shown roll.server player target
      · rw [if_pos (decide_eq_true (honline.mpr hshown)), if_pos (decide_eq_true hshown),
          List.filterMap_cons, htarget]
        exact congrArg (List.cons target) ih
      · rw [if_neg (by simpa using fun h => hshown (honline.mp h)),
          if_neg (by simpa using hshown)]
        exact ih

end Answering

section Requests

variable {order : List PlayerRef} {player : PlayerRef} {roll : Roll}

theorem statsRequest_answered (hlisting : Listing roll.server)
    (horder : Unrestricted roll.server order) (hplayer : player ∈ roll.server.players.list)
    (hbot : (roll.server.player player).isBotClient = false) (userIds : List Int) :
    Answered order player (.stats userIds) roll (statsRequest order player userIds roll) := by
  unfold statsRequest
  rw [answerIds_eq statsOf hbot, answered_update_iff, filterMap_target _ _ target_statsOf]
  exact filterMap_isOnline hlisting horder hplayer

theorem userPresenceRequest_answered_iff
    (hbot : (roll.server.player player).isBotClient = false) (userIds : List Int) :
    Answered order player (.presence userIds) roll (userPresenceRequest player userIds roll) ↔
      (PresenceRequest.presence userIds).Modest roll.server order player := by
  unfold userPresenceRequest
  rw [answerIds_eq presenceOf hbot, answered_update_iff, filterMap_target _ _ target_presenceOf,
    eq_comm]
  change (userIds.filterMap roll.server.getById).filter _ = userIds.filterMap roll.server.getById ↔
    ∀ userId ∈ userIds, ∀ target ∈ roll.server.getById userId, Shown roll.server player target
  rw [List.filter_eq_self]
  constructor
  · intro hall userId huserId target htarget
    exact of_decide_eq_true (hall target (List.mem_filterMap.mpr ⟨userId, huserId, htarget⟩))
  · intro hall target htarget
    obtain ⟨userId, huserId, hfound⟩ := List.mem_filterMap.mp htarget
    exact decide_eq_true (hall userId huserId target hfound)

-- The loop ends with its last player, and has gathered a packet on everybody.
theorem foldl_presence (player : PlayerRef) (buffer : List UserPacket) (order : List PlayerRef) :
    order.foldl (fun (_, buffer) player => (player, buffer ++ [UserPacket.userPresence player]))
        (player, buffer) =
      (order.getLastD player, buffer ++ order.map .userPresence) := by
  induction order generalizing player buffer with
  | nil => simp
  | cons first rest ih =>
    rw [List.foldl_cons, ih]
    rw [List.getLastD_cons, List.map_cons, List.append_assoc]
    rfl

-- The answer to a request for all goes to the last of them, unless there are none.
theorem userPresenceRequestAll_answered_iff (horder : Unrestricted roll.server order)
    (hbot : (roll.server.player player).isBotClient = false) :
    Answered order player .presenceAll roll (userPresenceRequestAll order player roll) ↔
      PresenceRequest.presenceAll.Modest roll.server order player := by
  unfold userPresenceRequestAll
  rw [foldl_presence, List.nil_append]
  change Answered order player .presenceAll roll
    (roll.enqueue (order.getLastD player) (order.map .userPresence)) ↔ order = []
  constructor
  · rintro ⟨-, hothers, packets, hqueue, htargets⟩
    by_contra hsome
    obtain ⟨last, hlast⟩ : ∃ last, order.getLast? = some last :=
      ⟨order.getLast hsome, List.getLast?_eq_some_getLast hsome⟩
    have hmem : last ∈ order := List.mem_of_getLast? hlast
    rw [List.getLastD_eq_getLast?, hlast, Option.getD_some] at hothers hqueue
    cases hlastBot : (roll.server.player last).isBotClient with
    | true =>
      -- the bot keeps nothing of it
      have hne : last ≠ player := fun h => by simp [h, hbot] at hlastBot
      rw [Roll.enqueue, if_pos hlastBot, List.self_eq_append_right] at hqueue
      rw [hqueue, List.map_nil, eq_comm, List.filter_eq_nil_iff] at htargets
      exact htargets last hmem
        (decide_eq_true ⟨((horder.mem_iff last).mp hmem).2, hne⟩)
    | false =>
      rw [enqueue_queue hlastBot] at hothers hqueue
      by_cases hlastOwn : last = player
      · -- among the players is then the one who asks
        subst hlastOwn
        have hpackets : order.map UserPacket.userPresence = packets := by
          simpa only [Function.update_self, List.append_cancel_left_eq] using hqueue
        rw [← hpackets, filterMap_target _ _ fun _ => rfl, eq_comm] at htargets
        exact (of_decide_eq_true (List.filter_eq_self.mp htargets last hmem)).2 rfl
      · have hnothing := hothers last hlastOwn
        simp only [Function.update_self, List.append_right_eq_self, List.map_eq_nil_iff] at hnothing
        exact hsome hnothing
  · rintro rfl
    rw [List.getLastD_nil, enqueue_queue hbot, answered_update_iff]
    rfl

-- The bot, two players, and one who is restricted.
def company : List Player :=
  [{ id := 1, name := "BanchoBot", safeName := "banchobot", token := "a",
      priv := Privileges.UNRESTRICTED, isBotClient := true },
    { id := 3, name := "asks", safeName := "asks", token := "b", priv := Privileges.UNRESTRICTED },
    { id := 4, name := "other", safeName := "other", token := "c",
      priv := Privileges.UNRESTRICTED },
    { id := 5, name := "hidden", safeName := "hidden", token := "d" }]

def companyServer : Server :=
  let player (p : PlayerRef) := company.getD p {}
  { lower := id
    decimal := fun _ => none
    domain := "example.com"
    player := player
    players :=
      { list := [0, 1, 2, 3]
        byToken := fun token => [0, 1, 2, 3].find? fun p => (player p).token = token
        byId := fun id => [0, 1, 2, 3].find? fun p => (player p).id = id
        byName := fun name => [0, 1, 2, 3].find? fun p => (player p).safeName = name } }

def companyRoll : Roll := ⟨companyServer, fun _ => []⟩

theorem listing_company : Listing companyServer where
  nodup := by decide
  token := Indexed.find (by decide)
  id := Indexed.find (by decide)
  name := Indexed.find (by decide)

theorem unrestricted_company : Unrestricted companyServer [0, 1, 2] where
  nodup := by decide
  mem_iff := by
    have hlist : ∀ p ∈ companyServer.players.list,
        p ∈ [0, 1, 2] ↔ (companyServer.player p).restricted = false := by decide
    have hin : ∀ p ∈ [0, 1, 2], p ∈ companyServer.players.list := by decide
    exact fun p => ⟨fun hp => ⟨hin p hp, (hlist p (hin p hp)).mp hp⟩,
      fun hp => (hlist p hp.1).mpr hp.2⟩

end Requests

end BanchoPrism.Login
