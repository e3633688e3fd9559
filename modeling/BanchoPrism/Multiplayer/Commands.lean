import BanchoPrism.Multiplayer.Packets

namespace BanchoPrism

open Library

-- Context: who gave the command, and its arguments.
structure Context where
  player : PlayerRef
  args : List String
  now : Int
  -- secrets.token_hex(8)
  secret : String

structure TourneyPool where
  id : Nat
  name : String

-- The awaits of the commands, with what each goes on with.
inductive Pause
  | map (mapId : Nat)
  | loadpool
  | ban (modsSlot : String) (mods : Mods) (slot : Nat) (poolId : Nat)
  | unban (modsSlot : String) (mods : Mods) (slot : Nat) (poolId : Nat)
  | pick (modsSlot : String) (mods : Mods) (slot : Nat) (poolId : Nat)
  | pickMap (modsSlot : String) (mods : Mods) (mapId : Int)

inductive Reply
  | silent
  | text (msg : String)
  | await (pause : Pause)

def answer (msg : String) : Handler Reply := pure (.text msg)

-- Player.__repr__
def playerRepr (s : Server) (p : PlayerRef) : String :=
  "<" ++ (s.player p).name ++ " (" ++ toString (s.player p).id ++ ")>"

-- The one argument of a command that takes exactly one.
def oneArg (ctx : Context) (usage : String) (body : String → Handler Reply) : Handler Reply :=
  match ctx.args with
  | [arg] => body arg
  | _ => answer usage

def onlinePlayer (name : String) (body : PlayerRef → Handler Reply) : Handler Reply := do
  let s ← Prog.read
  match s.getByName name with
  | some target => body target
  | none => answer "Could not find a user by that name."

-- match.refs
def matchRefs (s : Server) (m : Match) : Except PyError (List PlayerRef) :=
  (matchHost s m).map fun host => m.referees.insert host

def inASlot (m : Match) (p : PlayerRef) : Bool := (m.getSlotId p).isSome

def timeRemaining (now time : Int) : String :=
  "Match starting in " ++ toString (time - now) ++ " seconds."

def startNow (r : MatchRef) : Handler Reply := do
  startMatch r
  answer "Good luck!"

def mpStart (ctx : Context) (r : MatchRef) : Handler Reply := do
  let s ← Prog.read
  let m := s.matchAt r
  match ctx.args with
  | [] =>
      match m.starting with
      | some (_, time) => answer (timeRemaining ctx.now time)
      | none =>
          if m.anySlot fun slot => decide (slot.status = .notReady) then
            answer "Not all players are ready (`!mp start force` to override)."
          else startNow r
  | [arg] =>
      match s.decimal arg with
      | some duration =>
          match m.starting with
          | some (_, time) => answer (timeRemaining ctx.now time)
          | none =>
              if 0 < duration ∧ duration ≤ 300 then do
                updateMatch r fun m => { m with starting := some (ctx.player, ctx.now + duration) }
                answer ("Match will start in " ++ toString duration ++ " seconds.")
              else answer "Timer range is 1-300 seconds."
      | none =>
          if arg = "cancel" ∨ arg = "c" then
            if m.starting.isNone then answer "Match timer not active!"
            else do
              updateMatch r fun m => { m with starting := none }
              answer "Match timer cancelled."
          else if arg = "force" ∨ arg = "f" then startNow r
          else answer "Invalid syntax: !mp start <force/seconds>"
  | _ => answer "Invalid syntax: !mp start <force/seconds>"

-- _start, what the timer of !mp start runs
def startTimerFires (r : MatchRef) : Handler Unit := do
  let s ← Prog.read
  let m := s.matchAt r
  match m.starting with
  | none => pure ()
  | some (p, _) => do
      updateMatch r fun m => { m with starting := none }
      if inASlot m p then do
        startMatch r
        sendBot m.chat "Starting match."
      else sendBot m.chat "Player left match? (cancelled)"

def mpAbort (r : MatchRef) : Handler Reply := do
  let s ← Prog.read
  if (s.matchAt r).inProgress then do
    updateMatch r fun m => m.unreadyPlayers .playing
    updateMatch r Match.resetPlayersLoadedStatus
    updateMatch r fun m => { m with inProgress := false }
    enqueueMatch r .matchAbort true []
    enqueueState r true
    answer "Match aborted."
  else answer "Abort what?"

def mpMap (ctx : Context) (r : MatchRef) : Handler Reply :=
  oneArg ctx "Invalid syntax: !mp map <beatmapid>" fun arg => do
    let s ← Prog.read
    match s.decimal arg with
    | none => answer "Invalid syntax: !mp map <beatmapid>"
    | some mapId =>
        if (s.matchAt r).mapId = mapId then answer "Map already selected."
        else pure (.await (.map mapId))

def resumeMap (r : MatchRef) (found : Option Beatmap) : Handler Reply := do
  match found with
  | none => answer "Beatmap not found."
  | some bmap => do
      updateMatch r fun m =>
        { m with mapId := bmap.id, mapMd5 := bmap.md5, mapName := bmap.fullName, mode := bmap.mode }
      enqueueState r true
      let s ← Prog.read
      answer ("Selected: " ++ mapEmbed s bmap.id bmap.fullName ++ ".")

def setCommandMods (p : PlayerRef) (r : MatchRef) (mods : Mods) : Handler Unit := do
  let s ← Prog.read
  let m := s.matchAt r
  if m.freemods then do
    let host ← Prog.lift (matchHost s m)
    Prog.onlyIf (p = host) <|
      updateMatch r fun m => { m with mods := mods &&& Mods.SPEED_CHANGING_MODS }
    setSlotMods p r (mods.without Mods.SPEED_CHANGING_MODS)
  else updateMatch r fun m => { m with mods := mods }

def mpMods (ctx : Context) (r : MatchRef) : Handler Reply :=
  oneArg ctx "Invalid syntax: !mp mods <mods>" fun arg => do
    if arg.length % 2 ≠ 0 then answer "Invalid syntax: !mp mods <mods>"
    else do
      let s ← Prog.read
      let m := s.matchAt r
      let mods := (Mods.fromModstr arg).filterInvalidCombos m.mode.asVanilla
      setCommandMods ctx.player r mods
      enqueueState r true
      answer "Match mods updated."

-- Unlike the packet, the command changes the mods also when freemods stay as they are.
def mpFreemods (ctx : Context) (r : MatchRef) : Handler Reply :=
  oneArg ctx "Invalid syntax: !mp freemods <on/off>" fun arg => do
    if arg = "on" ∨ arg = "off" then do
      changeFreemods r (arg = "on")
      enqueueState r true
      answer "Match freemod status updated."
    else answer "Invalid syntax: !mp freemods <on/off>"

def mpHost (ctx : Context) (r : MatchRef) : Handler Reply :=
  oneArg ctx "Invalid syntax: !mp host <name>" fun arg => onlinePlayer arg fun target => do
    let s ← Prog.read
    let m := s.matchAt r
    let host ← Prog.lift (matchHost s m)
    if target = host then answer "They're already host, silly!"
    else if inASlot m target then do
      setHost r target
      enqueueState r true
      answer "Match host updated."
    else answer "Found no such player in the match."

def mpRandpw (ctx : Context) (r : MatchRef) : Handler Reply := do
  updateMatch r fun m => { m with passwd := ctx.secret }
  answer "Match password randomized."

def mpInvite (ctx : Context) (r : MatchRef) : Handler Reply :=
  oneArg ctx "Invalid syntax: !mp invite <name>" fun arg => onlinePlayer arg fun target => do
    if target = botRef then answer "I'm too busy!"
    else if target = ctx.player then answer "You can't invite yourself!"
    else do
      sendInvite ctx.player target r
      let s ← Prog.read
      answer ("Invited " ++ playerRepr s target ++ " to the match.")

def mpAddref (ctx : Context) (r : MatchRef) : Handler Reply :=
  oneArg ctx "Invalid syntax: !mp addref <name>" fun arg => onlinePlayer arg fun target => do
    let s ← Prog.read
    let m := s.matchAt r
    if inASlot m target then do
      let refs ← Prog.lift (matchRefs s m)
      if target ∈ refs then answer (playerRepr s target ++ " is already a match referee!")
      else do
        updateMatch r fun m => { m with referees := m.referees.insert target }
        answer ((s.player target).name ++ " added to match referees.")
    else answer "User must be in the current match!"

def mpRmref (ctx : Context) (r : MatchRef) : Handler Reply :=
  oneArg ctx "Invalid syntax: !mp addref <name>" fun arg => onlinePlayer arg fun target => do
    let s ← Prog.read
    let m := s.matchAt r
    let refs ← Prog.lift (matchRefs s m)
    let host ← Prog.lift (matchHost s m)
    if target ∈ refs then
      if target = host then answer "The host is always a referee!"
      else do
        updateMatch r fun m => { m with referees := m.referees.erase target }
        answer ((s.player target).name ++ " removed from match referees.")
    else answer (playerRepr s target ++ " is not a match referee!")

def mpListref (r : MatchRef) : Handler Reply := do
  let s ← Prog.read
  let refs ← Prog.lift (matchRefs s (s.matchAt r))
  answer (String.intercalate ", " (refs.map (playerRepr s)) ++ ".")

-- The slots in one status all change to another.
def convertSlots (r : MatchRef) (old new : SlotStatus) : Handler Unit := do
  updateMatch r fun m => m.mapSlots fun slot =>
    if slot.status = old then { slot with status := new } else slot
  enqueueState r true

def mpLock (r : MatchRef) : Handler Reply := do
  convertSlots r .open_ .locked
  answer "All unused slots locked."

def mpUnlock (r : MatchRef) : Handler Reply := do
  convertSlots r .locked .open_
  answer "All locked slots unlocked."

def teamTypeNamed (name : String) : Option MatchTeamTypes :=
  if name ∈ ["ffa", "freeforall", "head-to-head"] then some .headToHead
  else if name ∈ ["tag", "coop", "co-op", "tag-coop"] then some .tagCoop
  else if name ∈ ["teams", "team-vs", "teams-vs"] then some .teamVs
  else if name ∈ ["tag-teams", "tag-team-vs", "tag-teams-vs"] then some .tagTeamVs
  else none

def mpTeams (ctx : Context) (r : MatchRef) : Handler Reply :=
  oneArg ctx "Invalid syntax: !mp teams <type>" fun arg =>
    match teamTypeNamed arg with
    | none => answer "Unknown team type. (ffa, tag, teams, tag-teams)"
    | some teamType => do
        updateMatch r fun m => { m with teamType := teamType }
        updateMatch r fun m => m.mapPlayers fun slot => { slot with team := teamType.defaultTeam }
        updateMatch r fun m => if m.isScrimming then m.resetScrim else m
        enqueueState r true
        answer "Match team type updated."

def winConditionNamed (name : String) : Option MatchWinConditions :=
  if name = "score" then some .score
  else if name ∈ ["accuracy", "acc"] then some .accuracy
  else if name = "combo" then some .combo
  else if name ∈ ["scorev2", "v2"] then some .scorev2
  else none

def mpCondition (ctx : Context) (r : MatchRef) : Handler Reply :=
  oneArg ctx "Invalid syntax: !mp condition <type>" fun arg => do
    let s ← Prog.read
    let m := s.matchAt r
    if arg = "pp" then
      if !m.isScrimming then answer "PP is only useful as a win condition during scrims."
      else if m.usePpScoring then answer "PP scoring already enabled."
      else do
        updateMatch r fun m => { m with usePpScoring := true }
        enqueueState r false
        answer "Match win condition updated."
    else do
      updateMatch r fun m => { m with usePpScoring := false }
      match winConditionNamed arg with
      | none => answer "Invalid win condition. (score, acc, combo, scorev2, *pp)"
      | some winCondition => do
          updateMatch r fun m => { m with winCondition := winCondition }
          enqueueState r false
          answer "Match win condition updated."

-- regexes.BEST_OF
def bestOf (s : Server) (text : String) : Option Nat :=
  let digits := if startsWith text "bo" then String.ofList (text.toList.drop 2) else text
  if digits.length = 1 ∨ digits.length = 2 then s.decimal digits else none

def mpScrim (ctx : Context) (r : MatchRef) : Handler Reply :=
  oneArg ctx "Invalid syntax: !mp scrim <bo#>" fun arg => do
    let s ← Prog.read
    let m := s.matchAt r
    match bestOf s arg with
    | none => answer "Invalid syntax: !mp scrim <bo#>"
    | some best =>
        if best < 16 then
          let winningPts := best / 2 + 1
          if winningPts ≠ 0 then
            if m.isScrimming then answer "Already scrimming!"
            else if best % 2 = 0 then answer "Best of must be an odd number!"
            else do
              updateMatch r fun m => { m with isScrimming := true, winningPts := winningPts }
              answer <| "A scrimmage has been started by " ++ (s.player ctx.player).name ++
                "; first to " ++ toString winningPts ++ " points wins. Best of luck!"
          else if !m.isScrimming then answer "Not currently scrimming!"
          else do
            updateMatch r fun m =>
              { m.resetScrim with isScrimming := false, winningPts := winningPts }
            answer "Scrimming cancelled."
        else answer "Best of must be in range 0-15."

def mpEndscrim (r : MatchRef) : Handler Reply := do
  let s ← Prog.read
  if (s.matchAt r).isScrimming then do
    updateMatch r fun m => { m.resetScrim with isScrimming := false }
    answer "Scrimmage ended."
  else answer "Not currently scrimming!"

-- match_points[winner] += delta, on a defaultdict(int)
def addPoints (points : List (Contestant × Int)) (winner : Contestant) (delta : Int) :
    List (Contestant × Int) :=
  match points with
  | [] => [(winner, delta)]
  | (c, n) :: rest => if c = winner then (c, n + delta) :: rest else (c, n) :: addPoints rest winner delta

def contestantRepr (s : Server) : Contestant → String
  | .player p => playerRepr s p
  | .team .neutral => "0"
  | .team .blue => "1"
  | .team .red => "2"

def mpRematch (ctx : Context) (r : MatchRef) : Handler Reply := do
  let s ← Prog.read
  let m := s.matchAt r
  if ctx.args ≠ [] then answer "Invalid syntax: !mp rematch"
  else do
    let host ← Prog.lift (matchHost s m)
    if ctx.player ≠ host then answer "Only available to the host."
    else if !m.isScrimming then
      if m.winningPts = 0 then answer "No scrim to rematch; to start one, use !mp scrim."
      else do
        updateMatch r fun m => { m with isScrimming := true }
        answer <| "A rematch has been started by " ++ (s.player ctx.player).name ++ "; first to " ++
          toString m.winningPts ++ " points wins. Best of luck!"
    else
      match m.winners.getLast? with
      | none => answer "No match points have yet been awarded!"
      | some none => answer "The last point was a tie!"
      | some (some winner) => do
          updateMatch r fun m =>
            { m with
              matchPoints := addPoints m.matchPoints winner (-1)
              winners := m.winners.dropLast }
          answer ("A point has been deducted from " ++ contestantRepr s winner ++ ".")

def mpForce (ctx : Context) (r : MatchRef) : Handler Reply :=
  oneArg ctx "Invalid syntax: !mp force <name>" fun arg => onlinePlayer arg fun target => do
    let s ← Prog.read
    let _ ← joinMatch target r (s.matchAt r).passwd
    answer "Welcome."

def mpLoadpool (ctx : Context) (r : MatchRef) : Handler Reply :=
  oneArg ctx "Invalid syntax: !mp loadpool <name>" fun _ => do
    let s ← Prog.read
    let host ← Prog.lift (matchHost s (s.matchAt r))
    if ctx.player = host then pure (.await .loadpool) else answer "Only available to the host."

def resumeLoadpool (r : MatchRef) (found : Option TourneyPool) : Handler Reply := do
  let s ← Prog.read
  match found with
  | none => answer "Could not find a pool by that name!"
  | some pool =>
      if (s.matchAt r).tourneyPool = some pool.id then answer (pool.name ++ " already selected!")
      else do
        updateMatch r fun m => { m with tourneyPool := some pool.id }
        answer (pool.name ++ " selected.")

def mpUnloadpool (ctx : Context) (r : MatchRef) : Handler Reply := do
  let s ← Prog.read
  let m := s.matchAt r
  if ctx.args ≠ [] then answer "Invalid syntax: !mp unloadpool"
  else do
    let host ← Prog.lift (matchHost s m)
    if ctx.player ≠ host then answer "Only available to the host."
    else if m.tourneyPool.isNone then answer "No mappool currently selected!"
    else do
      updateMatch r fun m => { m with tourneyPool := none }
      answer "Mappool unloaded."

-- regexes.MAPPOOL_PICK
def mappoolPick (text : String) : Option (Mods × Nat) :=
  let letters := text.toList.takeWhile Char.isAlpha
  let digits := text.toList.dropWhile Char.isAlpha
  if letters ≠ [] ∧ digits ≠ [] ∧ digits.all Char.isDigit then
    some (Mods.fromModChars letters, digits.foldl (fun n c => 10 * n + (c.toNat - 48)) 0)
  else none

-- The pick a mappool command names, looked up in the loaded pool.
def withPick (ctx : Context) (r : MatchRef) (usage noPool : String)
    (pause : String → Mods → Nat → Nat → Pause) : Handler Reply :=
  oneArg ctx usage fun arg => do
    let s ← Prog.read
    match (s.matchAt r).tourneyPool with
    | none => answer noPool
    | some poolId =>
        match mappoolPick arg with
        | none => answer "Invalid pick syntax; correct example: HD2"
        | some (mods, slot) => pure (.await (pause arg mods slot poolId))

def mpBan (ctx : Context) (r : MatchRef) : Handler Reply :=
  withPick ctx r "Invalid syntax: !mp ban <pick>" "No pool currently selected!" .ban

def mpUnban (ctx : Context) (r : MatchRef) : Handler Reply :=
  withPick ctx r "Invalid syntax: !mp unban <pick>" "No pool currently selected!" .unban

def mpPick (ctx : Context) (r : MatchRef) : Handler Reply :=
  withPick ctx r "Invalid syntax: !mp pick <pick>" "No pool currently loaded!" .pick

def noPick (modsSlot : String) : Handler Reply :=
  answer ("Found no " ++ modsSlot ++ " pick in the pool.")

def resumeBan (r : MatchRef) (modsSlot : String) (mods : Mods) (slot : Nat)
    (found : Option Int) : Handler Reply := do
  let s ← Prog.read
  if found.isNone then noPick modsSlot
  else if (mods, slot) ∈ (s.matchAt r).bans then answer "That pick is already banned!"
  else do
    updateMatch r fun m => { m with bans := m.bans.insert (mods, slot) }
    answer (modsSlot ++ " banned.")

def resumeUnban (r : MatchRef) (modsSlot : String) (mods : Mods) (slot : Nat)
    (found : Option Int) : Handler Reply := do
  let s ← Prog.read
  if found.isNone then noPick modsSlot
  else if (mods, slot) ∈ (s.matchAt r).bans then do
    updateMatch r fun m => { m with bans := m.bans.erase (mods, slot) }
    answer (modsSlot ++ " unbanned.")
  else answer "That pick is not currently banned!"

def resumePick (r : MatchRef) (modsSlot : String) (mods : Mods) (slot : Nat)
    (found : Option Int) : Handler Reply := do
  let s ← Prog.read
  match found with
  | none => noPick modsSlot
  | some mapId =>
      if (mods, slot) ∈ (s.matchAt r).bans then
        answer (modsSlot ++ " has been banned from being picked.")
      else pure (.await (.pickMap modsSlot mods mapId))

def resumePickMap (r : MatchRef) (modsSlot : String) (mods : Mods) (found : Option Beatmap) :
    Handler Reply := do
  match found with
  | none => answer ("Found no beatmap for " ++ modsSlot ++ " pick.")
  | some bmap => do
      updateMatch r fun m =>
        { m with mapMd5 := bmap.md5, mapId := bmap.id, mapName := bmap.fullName }
      updateMatch r fun m =>
        if m.freemods then
          { m.mapPlayers fun slot => { slot with mods := Mods.NOMOD } with freemods := false }
        else m
      updateMatch r fun m => { m with mods := mods }
      enqueueState r true
      let s ← Prog.read
      answer ("Picked " ++ mapEmbed s bmap.id bmap.fullName ++ ". (" ++ modsSlot ++ ")")

inductive MpCommand
  | start
  | abort
  | map
  | mods
  | freemods
  | host
  | randpw
  | invite
  | addref
  | rmref
  | listref
  | lock
  | unlock
  | teams
  | condition
  | scrim
  | endscrim
  | rematch
  | force
  | loadpool
  | unloadpool
  | ban
  | unban
  | pick
  deriving DecidableEq

namespace MpCommand

-- mp_commands, in the order they are added
def all : List (MpCommand × List String) :=
  [(start, ["start", "st"]), (abort, ["abort", "a"]), (map, ["map"]), (mods, ["mods"]),
    (freemods, ["freemods", "fm", "fmods"]), (host, ["host"]), (randpw, ["randpw"]),
    (invite, ["invite", "inv"]), (addref, ["addref"]), (rmref, ["rmref"]),
    (listref, ["listref"]), (lock, ["lock"]), (unlock, ["unlock"]), (teams, ["teams"]),
    (condition, ["condition", "cond"]), (scrim, ["scrim", "autoref"]),
    (endscrim, ["endscrim", "end"]), (rematch, ["rematch", "rm"]), (force, ["force", "f"]),
    (loadpool, ["loadpool", "lp"]), (unloadpool, ["unloadpool", "ulp"]), (ban, ["ban"]),
    (unban, ["unban"]), (pick, ["pick"])]

def priv : MpCommand → Privileges
  | force => Privileges.ADMINISTRATOR
  | _ => Privileges.UNRESTRICTED

def hidden : MpCommand → Bool
  | force => true
  | _ => false

-- The command a trigger names, if the player may use it.
def find (trigger : String) (priv' : Privileges) : Option MpCommand :=
  (all.find? fun (command, triggers) =>
    triggers.contains trigger && priv' &&& command.priv == command.priv).map Prod.fst

def run (ctx : Context) (r : MatchRef) : MpCommand → Handler Reply
  | start => mpStart ctx r
  | abort => mpAbort r
  | map => mpMap ctx r
  | mods => mpMods ctx r
  | freemods => mpFreemods ctx r
  | host => mpHost ctx r
  | randpw => mpRandpw ctx r
  | invite => mpInvite ctx r
  | addref => mpAddref ctx r
  | rmref => mpRmref ctx r
  | listref => mpListref r
  | lock => mpLock r
  | unlock => mpUnlock r
  | teams => mpTeams ctx r
  | condition => mpCondition ctx r
  | scrim => mpScrim ctx r
  | endscrim => mpEndscrim r
  | rematch => mpRematch ctx r
  | force => mpForce ctx r
  | loadpool => mpLoadpool ctx r
  | unloadpool => mpUnloadpool ctx r
  | ban => mpBan ctx r
  | unban => mpUnban ctx r
  | pick => mpPick ctx r

end MpCommand

-- What the database and the beatmap API answer to an await.
structure Lookup where
  beatmap : Option Beatmap := none
  pool : Option TourneyPool := none
  mapPick : Option Int := none

def Pause.resume (r : MatchRef) (found : Lookup) : Pause → Handler Reply
  | .map _ => resumeMap r found.beatmap
  | .loadpool => resumeLoadpool r found.pool
  | .ban modsSlot mods slot _ => resumeBan r modsSlot mods slot found.mapPick
  | .unban modsSlot mods slot _ => resumeUnban r modsSlot mods slot found.mapPick
  | .pick modsSlot mods slot _ => resumePick r modsSlot mods slot found.mapPick
  | .pickMap modsSlot mods _ => resumePickMap r modsSlot mods found.beatmap

-- ensure_match
def ensureMatch (ctx : Context) (recipient : ChannelRef) (command : MpCommand) :
    Handler (Option MatchRef × Reply) := do
  let s ← Prog.read
  match (s.player ctx.player).matchRef with
  | none => pure (none, .silent)
  | some r =>
      if (s.matchAt r).chat ≠ recipient then pure (none, .silent)
      else do
        let refs ← Prog.lift (matchRefs s (s.matchAt r))
        if ctx.player ∈ refs ∨ (s.player ctx.player).priv.has Privileges.TOURNEY_MANAGER then do
          let reply ← command.run ctx r
          pure (some r, reply)
        else pure (none, .silent)

end BanchoPrism
