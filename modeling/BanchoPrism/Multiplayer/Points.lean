import BanchoPrism.Library.Rows
import BanchoPrism.Multiplayer.Scrims
import Mathlib.Data.List.Sort

namespace BanchoPrism

open Library

variable {σ : Type}

-- What is asked of Python's numbers: average is sum(values) / len(values), and
-- fixed is the format .2f.
structure Numbers (σ : Type) where
  zero : σ
  add : σ → σ → σ
  less : σ → σ → Bool
  equal : σ → σ → Bool
  truthy : σ → Bool
  average : List σ → σ
  str : σ → String
  fixed : σ → String

section Texts

def MatchTeamTypes.ffa : MatchTeamTypes → Bool
  | .headToHead | .tagCoop => true
  | .teamVs | .tagTeamVs => false

-- The IGNORECASE flag lets four letters in that are not ASCII.
def isNameChar (c : Char) : Bool :=
  c.isAlphanum || c == '_' || c == ' ' || c ∈ ['\u0130', '\u0131', '\u017f', '\u212a']

def nameChars (text : List Char) : Option (List Char × List Char) :=
  match text.span isNameChar with
  | ([], _) => none
  | taken => some taken

def afterText (start : String) (text : List Char) : Option (List Char) :=
  if start.toList.isPrefixOf text then some (text.drop start.length) else none

-- " vs", or the same in capitals, and an optional dot
def afterVersus : List Char → Option (List Char)
  | ' ' :: v :: s :: rest =>
      if v ∈ ['v', 'V'] ∧ s ∈ ['s', 'S', '\u017f'] then
        some (if rest.head? = some '.' then rest.tail else rest)
      else none
  | _ => none

-- regexes.TOURNEY_MATCHNAME: the name and the two teams
def tourneyMatchname (text : String) : Option (String × String × String) := do
  let (name, rest) ← nameChars text.toList
  let rest ← afterText ": (" rest
  let (first, rest) ← nameChars rest
  let rest ← afterText ")" rest
  let rest ← afterVersus rest
  let rest ← afterText " (" rest
  let (second, rest) ← nameChars rest
  let rest ← afterText ")" rest
  if rest = [] ∨ rest = ['\n'] then
    some (String.ofList name, String.ofList first, String.ofList second)
  else none

def contestantName (s : Server) : Contestant → String
  | .player p => (s.player p).name
  | .team .neutral => "neutral"
  | .team .blue => "blue"
  | .team .red => "red"

def addSuffix (num : Numbers σ) (m : Match) (score : σ) : String :=
  if m.usePpScoring then num.fixed score ++ "pp"
  else
    match m.winCondition with
    | .accuracy => num.fixed score ++ "%"
    | .combo => num.str score ++ "x"
    | .score | .scorev2 => num.str score

-- the points of everyone, the fewest first
def totalScore (s : Server) (points : List (Contestant × Int)) : String :=
  "Total Score: " ++ String.intercalate " | "
    ((points.insertionSort fun a b => a.2 ≤ b.2).map fun (k, v) =>
      contestantName s k ++ " - " ++ toString v)

end Texts

section Awarding

def Match.endScrim (m : Match) : Match := { m.resetScrim with isScrimming := false }

-- self.winning_pts and wmp == self.winning_pts
def Match.decided (m : Match) (k : Contestant) : Bool :=
  m.winningPts ≠ 0 && pointsOf m.matchPoints k = m.winningPts

-- max(scores, key=...) keeps the first of equals.
def leading (num : Numbers σ) (first : Contestant × σ) (rest : List (Contestant × σ)) :
    Contestant × σ :=
  rest.foldl (fun best entry => if num.less best.2 entry.2 then entry else best) first

def scoreOf (num : Numbers σ) (scores : List (Contestant × σ)) (k : Contestant) : σ :=
  (scores.lookup k).getD num.zero

def takeFfaPoint (num : Numbers σ) (r : MatchRef) (scores : List (Contestant × σ))
    (p : PlayerRef) : Handler (List String) := do
  let s ← Prog.read
  let m := s.matchAt r
  let name := (s.player p).name
  let taken := name ++ " takes the point! (" ++
    addSuffix num m (scoreOf num scores (.player p)) ++ " [Match avg. " ++
    addSuffix num m (num.average (scores.map Prod.snd)) ++ "])"
  if m.decided (.player p) then do
    updateMatch r Match.endScrim
    pure [taken, name ++ " takes the match! Congratulations!"]
  else pure [taken, totalScore s m.matchPoints]

-- The name of the match and the names of its teams.
def Match.teams (m : Match) : String × String × String :=
  (tourneyMatchname m.name).getD (m.name, "Blue", "Red")

-- team_names[team]
def Match.teamName (m : Match) : MatchTeams → Except PyError String
  | .blue => .ok m.teams.2.1
  | .red => .ok m.teams.2.2
  | .neutral => .error .key

def settleTeams (num : Numbers σ) (r : MatchRef) (scores : List (Contestant × σ))
    (winner loser : MatchTeams) (wname lname : String) : Handler (List String) := do
  -- reading the points of the loser puts them on the defaultdict
  updateMatch r fun m => { m with matchPoints := addPoints m.matchPoints (.team loser) 0 }
  let s ← Prog.read
  let m := s.matchAt r
  let wmp := toString (pointsOf m.matchPoints (.team winner))
  let lmp := toString (pointsOf m.matchPoints (.team loser))
  let taken := wname ++ " takes the point! (" ++
    addSuffix num m (scoreOf num scores (.team winner)) ++ " vs. " ++
    addSuffix num m (scoreOf num scores (.team loser)) ++ ")"
  if m.decided (.team winner) then do
    updateMatch r Match.endScrim
    pure [taken, wname ++ " takes the match, finishing " ++ m.teams.1 ++ " with a score of " ++
      wmp ++ " - " ++ lmp ++ "! Congratulations!"]
  else pure [taken, "Total Score: " ++ wname ++ " | " ++ wmp ++ " - " ++ lmp ++ " | " ++ lname]

def takeTeamPoint (num : Numbers σ) (r : MatchRef) (scores : List (Contestant × σ))
    (winner : MatchTeams) : Handler (List String) := do
  let s ← Prog.read
  let m := s.matchAt r
  let loser : MatchTeams := if winner = .blue then .red else .blue
  let wname ← Prog.lift (m.teamName winner)
  let lname ← Prog.lift (m.teamName loser)
  settleTeams num r scores winner loser wname lname

def takePoint (num : Numbers σ) (r : MatchRef) (scores : List (Contestant × σ))
    (winner : Contestant) : Handler (List String) := do
  let s ← Prog.read
  match (s.matchAt r).teamType.ffa, winner with
  | true, .player p => takeFfaPoint num r scores p
  | false, .team t => takeTeamPoint num r scores t
  | _, _ => Prog.raise .assertion

-- Match.update_matchpoints from the scores on
def awardPoint (num : Numbers σ) (r : MatchRef) (scores : List (Contestant × σ))
    (didntSubmit : List (Option PlayerRef)) : Handler Unit := do
  let s ← Prog.read
  let chat := (s.matchAt r).chat
  Prog.each (fun p => sendBot chat
    ((p.map (playerRepr s)).getD "None" ++ " didn't submit a score (timeout: 10s).")) didntSubmit
  match scores with
  | [] => sendBot chat "Scores could not be calculated."
  | first :: rest =>
      if rest ≠ [] ∧ rest.all fun entry => num.equal entry.2 first.2 then do
        updateMatch r fun m => { m with winners := m.winners ++ [none] }
        sendBot chat "The point has ended in a tie!"
      else do
        let winner := (leading num first rest).1
        updateMatch r fun m =>
          { m with
            winners := m.winners ++ [some winner]
            matchPoints := addPoints m.matchPoints winner 1 }
        let msg ← takePoint num r scores winner
        Prog.onlyIf (didntSubmit ≠ []) <| sendBot chat
          "If you'd like to perform a rematch, please use the `!mp rematch` command."
        Prog.each (sendBot chat) msg

end Awarding

section Waiting

-- A score that a player has submitted; the time is in microseconds.
structure RecentScore (σ : Type) where
  mapMd5 : Option String
  serverTime : Int
  score : σ
  acc : σ
  maxCombo : σ
  pp : σ

inductive WinCond
  | score
  | acc
  | maxCombo
  | pp

def RecentScore.get (score : RecentScore σ) : WinCond → σ
  | .score => score.score
  | .acc => score.acc
  | .maxCombo => score.maxCombo
  | .pp => score.pp

def Match.winCond (m : Match) : WinCond :=
  if m.usePpScoring then .pp
  else
    match m.winCondition with
    | .score | .scorev2 => .score
    | .accuracy => .acc
    | .combo => .maxCombo

-- What an update finds when it goes on: the length of the map, if there is
-- one, and what the players have submitted by now.
structure Sighting (σ : Type) where
  totalLength : Option Int
  recentScore : PlayerRef → Option (RecentScore σ)
  now : Int

-- await_submissions in its loop; the time is in halves of a second.
structure Waiting (σ : Type) where
  ffa : Bool
  winCond : WinCond
  totalLength : Int
  slots : List (Fin 16)
  scores : List (Contestant × σ) := []
  didntSubmit : List (Option PlayerRef) := []
  timeWaited : Nat := 0

namespace Waiting

variable (num : Numbers σ) (m : Match) (seen : Sighting σ)

-- The score of a player that is for this map and not too old.
def submitted (w : Waiting σ) (p : PlayerRef) : Option σ := do
  let score ← seen.recentScore p
  let md5 ← score.mapMd5
  let maxAge := seen.now - 500000 * (2 * w.totalLength + w.timeWaited + 1)
  if md5 = m.mapMd5 ∧ maxAge < score.serverTime then some (score.get w.winCond) else none

def key (w : Waiting σ) (slot : Slot) (p : PlayerRef) : Contestant :=
  if w.ffa then .player p else .team slot.team

-- scores[key] += score, if there is a score
def count (w : Waiting σ) (k : Contestant) (score : σ) : Waiting σ :=
  if num.truthy score then
    { w with scores := dictSet w.scores (k, num.add (scoreOf num w.scores k) score) }
  else w

-- From slot to slot, up to the first without a score.
def poll (w : Waiting σ) : List (Fin 16) → Except PyError (Waiting σ)
  | [] => .ok { w with slots := [] }
  | i :: rest =>
      match (m.slots i).player with
      | none => .error .assertion
      | some p =>
          match w.submitted m seen p with
          | some score => (w.count num (w.key (m.slots i) p) score).poll rest
          | none => .ok { w with slots := i :: rest }

-- After asyncio.sleep(0.5): in the end the update goes on without the player.
def slept (w : Waiting σ) : Waiting σ :=
  let timeWaited := w.timeWaited + 1
  match w.slots with
  | i :: rest =>
      if 20 < timeWaited then
        { w with
          slots := rest
          didntSubmit := w.didntSubmit ++ [(m.slots i).player]
          timeWaited := timeWaited }
      else { w with timeWaited := timeWaited }
  | [] => { w with timeWaited := timeWaited }

end Waiting

-- Where update_matchpoints stands: not started, waiting for the map, or in the loop.
inductive Stage (σ : Type)
  | spawned
  | fetching (ffa : Bool) (winCond : WinCond)
  | waiting (w : Waiting σ)

structure Update (σ : Type) where
  target : MatchRef
  wasPlaying : List (Fin 16)
  stage : Stage σ := .spawned

-- The loop as the update enters it again.
def Update.waiting (m : Match) (seen : Sighting σ) (u : Update σ) : Option (Waiting σ) :=
  match u.stage with
  | .spawned => none
  | .fetching ffa winCond => seen.totalLength.map fun totalLength =>
      { ffa := ffa, winCond := winCond, totalLength := totalLength, slots := u.wasPlaying }
  | .waiting w => some (w.slept m)

def Update.start (m : Match) (u : Update σ) : Option (Update σ) :=
  match u.stage with
  | .spawned => some { u with stage := .fetching m.teamType.ffa m.winCond }
  | _ => none

-- The contestant that the update counts a score for in this slot.
def Waiting.counted (num : Numbers σ) (m : Match) (seen : Sighting σ) (w : Waiting σ)
    (i : Fin 16) : Option Contestant := do
  let p ← (m.slots i).player
  let score ← w.submitted m seen p
  if num.truthy score then some (w.key (m.slots i) p) else none

-- Whom the update has counted a score for, or can count one for now.
def Update.contestants (num : Numbers σ) (m : Match) (seen : Sighting σ) (u : Update σ) :
    List Contestant :=
  match u.waiting m seen with
  | none => []
  | some w => w.scores.map Prod.fst ++ w.slots.filterMap (w.counted num m seen)

-- update_matchpoints to its end or to its next await
def Update.resume (num : Numbers σ) (seen : Sighting σ) (u : Update σ) :
    Handler (Option (Update σ)) := do
  let s ← Prog.read
  let m := s.matchAt u.target
  match u.start m, u.waiting m seen with
  | some started, _ => pure (some started)
  | none, none => do
      awardPoint num u.target [] []
      pure none
  | none, some w => do
      let w ← Prog.lift (w.poll num m seen w.slots)
      if w.slots = [] then do
        awardPoint num u.target w.scores w.didntSubmit
        pure none
      else pure (some { u with stage := .waiting w })

end Waiting

end BanchoPrism
