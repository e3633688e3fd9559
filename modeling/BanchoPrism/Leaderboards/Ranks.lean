import BanchoPrism.Constants.Privileges
import BanchoPrism.Library.Coroutine
import BanchoPrism.Library.SortedSets
import BanchoPrism.Library.Select
import Mathlib.Data.Char
import Mathlib.Data.List.Lex

namespace BanchoPrism.Leaderboards

open Library

-- A leaderboard of a mode: the global one, or that of a country.
structure Board where
  mode : Nat
  country : Option String
  deriving DecidableEq

-- bancho:leaderboard:{mode}, bancho:leaderboard:{mode}:{country}, and each of them
-- with :rebuilding behind it. The country column is two letters wide, so no country's
-- key is that of another board's staging set.
inductive Key
  | live (board : Board)
  | staging (board : Board)
  deriving DecidableEq

abbrev Redis := SortedSets Key Nat Nat

-- What the users and stats tables say of a user. A mode without a stats row has no pp.
structure Account where
  id : Nat
  priv : Privileges
  country : String
  pp : Nat → Nat

-- The accounts, in the order of the primary key, which counts from 1.
structure Accounts where
  rows : List Account
  sorted : rows.Pairwise fun a b => a.id < b.id
  positive : ∀ a ∈ rows, 0 < a.id

structure Stores where
  redis : Redis
  accounts : Accounts

inductive RedisError
  -- ERR no such key
  | noSuchKey
  deriving DecidableEq

abbrev Task := Coro Stores RedisError

def globalBoard (mode : Nat) : Board := { mode := mode, country := none }

def countryBoard (mode : Nat) (country : String) : Board := { mode := mode, country := some country }

-- The predicate that fetch_ranked_pp_for_mode and the SQL leaderboard share.
def Account.isRanked (mode : Nat) (a : Account) : Bool :=
  a.priv &&& (Privileges.UNRESTRICTED ||| Privileges.VERIFIED) ==
      (Privileges.UNRESTRICTED ||| Privileges.VERIFIED) &&
    0 < a.pp mode

structure RankedPlayerPP where
  playerId : Nat
  country : String
  pp : Nat

def Account.toRanked (mode : Nat) (a : Account) : RankedPlayerPP :=
  { playerId := a.id, country := a.country, pp := a.pp mode }

-- fetch_ranked_pp_for_mode: ordered by id, as the table is.
def fetchRankedPpForMode (mode batchSize afterPlayerId : Nat) : Task (List RankedPlayerPP) :=
  Coro.query fun s =>
    ((s.accounts.rows.filter fun a => a.isRanked mode && afterPlayerId < a.id).take batchSize).map
      (Account.toRanked mode)

def Stores.modifyRedis (s : Stores) (f : Redis → Redis) : Stores := { s with redis := f s.redis }

def stageScores (board : Board) (scores : List (Nat × Nat)) : Task Unit :=
  if scores = [] then pure ()
  else Coro.update fun s => s.modifyRedis (SortedSets.zadd (.staging board) scores)

def discardStaging (boards : List Board) : Task Unit :=
  if boards = [] then pure ()
  else Coro.update fun s =>
    s.modifyRedis fun redis =>
      boards.foldl (fun redis board => SortedSets.delete (.staging board) redis) redis

-- What SCAN answers for a pattern.
abbrev Scan := (Key → Bool) → Redis → List Key

-- It answers with every key that matches, with some of them more than once.
def Scan.Answers (scan : Scan) (pattern : Key → Bool) (redis : Redis) : Prop :=
  ∀ key, key ∈ scan pattern redis ↔ pattern key ∧ redis.keyExists key

-- bancho:leaderboard:{mode}:* matches the countries' keys and every staging key.
def belowGlobal (mode : Nat) : Key → Bool
  | .live board => board.mode = mode && board.country.isSome
  | .staging board => board.mode = mode

def liveBoard : Key → Option Board
  | .live board => some board
  | .staging _ => none

def fetchExistingKeys (scan : Scan) (mode : Nat) : Task (List Board) :=
  Coro.query fun s =>
    (scan (belowGlobal mode) s.redis).filterMap liveBoard ++ [globalBoard mode]

-- A command in the pipeline.
inductive Buffered
  | rename (board : Board)
  | delete (board : Board)

-- A RENAME whose source is missing changes nothing and is an error.
def Buffered.execute (redis : Redis) : Buffered → Bool × Redis
  | rename board =>
      if redis.keyExists (.staging board) then
        (true, SortedSets.rename (.staging board) (.live board) redis)
      else (false, redis)
  | delete board => (true, SortedSets.delete (.live board) redis)

-- EXEC runs all of them; an error in one does not stop the others.
def executeAll (redis : Redis) : List Buffered → Bool × Redis
  | [] => (true, redis)
  | buffered :: rest =>
      let (ok, redis) := buffered.execute redis
      let (allOk, redis) := executeAll redis rest
      (ok && allOk, redis)

def execute (pipe : List Buffered) : Task Unit :=
  Coro.command fun s =>
    let (ok, redis) := executeAll s.redis pipe
    (if ok then .ok () else .error .noSuchKey, { s with redis := redis })

def buffer (board : Board) : Task Buffered :=
  Coro.query fun s =>
    if s.redis.keyExists (.staging board) then .rename board else .delete board

def commitStaged (boards : List Board) : Task Unit := do
  let pipe ← Coro.collect buffer boards
  execute pipe

-- str(id), the member of a sorted set that stands for a player
def memberText (id : Nat) : List Char := Nat.toDigits 10 id

def members (set : SortedSet Nat Nat) : List (Nat × Nat) := set.entries.map fun e => (e.1, e.2)

-- By score, and where it is the same by member, both from high to low.
def memberOrder (entry : Nat × Nat) : Nat ×ₗ List Char := toLex (entry.2, memberText entry.1)

def zrevrank (k : Key) (id : Nat) (redis : Redis) : Option Nat :=
  (redis.scores k id).map fun score =>
    ((members (redis k)).mergeSort (before memberOrder Prod.fst)).idxOf (id, score)

def fetchGlobalRank (redis : Redis) (playerId mode : Nat) : Option Nat :=
  (zrevrank (.live (globalBoard mode)) playerId redis).map (· + 1)

def fetchCountryRank (redis : Redis) (playerId mode : Nat) (country : String) : Option Nat :=
  (zrevrank (.live (countryBoard mode country)) playerId redis).map (· + 1)

-- Player.get_global_rank and get_country_rank
def liveRank (restricted : Bool) (rank : Option Nat) : Nat := if restricted then 0 else rank.getD 0

theorem memberText_injective : Function.Injective memberText := by
  intro a b h
  have hvalue := congrArg (fun digits => Nat.ofDigitChars 10 digits 0) h
  simpa only [memberText, Nat.ofDigitChars_ten_toDigits] using hvalue

section Members

variable {redis : Redis} {k : Key}

theorem members_nodup (set : SortedSet Nat Nat) : ((members set).map Prod.fst).Nodup := by
  have hkeys : (members set).map Prod.fst = set.keys := by
    unfold members AList.keys List.keys
    rw [List.map_map]
    rfl
  rw [hkeys]
  exact set.keys_nodup

theorem mem_members {id score : Nat} :
    (id, score) ∈ members (redis k) ↔ redis.scores k id = some score := by
  unfold members SortedSets.scores
  rw [← Option.mem_def, AList.mem_lookup_iff, List.mem_map]
  constructor
  · rintro ⟨e, he, heq⟩
    cases heq
    exact he
  · exact fun he => ⟨_, he, rfl⟩

-- A member is placed behind those with a higher score, and of those with its own behind
-- the ones with a greater text.
theorem zrevrank_eq {entries : List (Nat × Nat)} (hperm : (members (redis k)).Perm entries)
    {id score : Nat} (h : (id, score) ∈ entries) :
    zrevrank k id redis = some (placesBefore (weight memberOrder Prod.fst) entries (id, score)) := by
  have hmem := hperm.mem_iff.mpr h
  unfold zrevrank
  rw [mem_members.mp hmem, Option.map_some, idxOf_mergeSort (members_nodup _) hmem,
    placesBefore_perm hperm]

end Members

end BanchoPrism.Leaderboards
