import BanchoPrism.Library.Struct
import BanchoPrism.Library.Text
import Mathlib.Data.Nat.Bitwise

namespace BanchoPrism.Replays

open Library

-- A sample of the cursor, with coordinates that are floats.
structure ReplayFrame (φ : Type) where
  timeDelta : Int
  x : φ
  y : φ
  keys : Nat

structure Replay (φ : Type) where
  mode : Nat
  version : Nat := 0
  beatmapMd5 : String := ""
  playerName : String := ""
  replayMd5 : String := ""
  n300 : Nat := 0
  n100 : Nat := 0
  n50 : Nat := 0
  ngeki : Nat := 0
  nkatu : Nat := 0
  nmiss : Nat := 0
  score : Nat := 0
  maxCombo : Nat := 0
  perfect : Bool := false
  mods : Nat := 0
  lifeBarGraph : String := ""
  timestamp : Int := 0
  frames : List (ReplayFrame φ)
  rngSeed : Option Int
  onlineScoreId : Int := 0

-- What the parser takes from Python: none where int() and float() raise a ValueError, the text
-- of its LZMAError where lzma.decompress raises one, and what decode(errors="replace") makes of
-- bytes that are not UTF-8.
structure Builtins (φ : Type) where
  int : List Char → Option Int
  float : List Char → Option φ
  decompress : List UInt8 → Except String (List UInt8)
  replaceInvalid : List UInt8 → String

-- The parser raises a ReplayParseError, which is its text here.
abbrev Reader (α : Type) : Type := Cursor UInt8 String α

def seedFrameTime : Int := -12345

section Reading

-- total is the length of the data, of which the reader has what is left.
variable (total : Nat)

def truncated (n : Nat) (what : String) (left : List UInt8) : String :=
  "truncated replay: needed " ++ toString n ++ " byte(s) for " ++ what ++ " at offset " ++
    toString (total - left.length) ++ ", only " ++ toString left.length ++ " remain"

-- _require
def demand (n : Nat) (what : String) : Reader Unit := fun left =>
  if left.length < n then (.error (truncated total n what left), left) else (.ok (), left)

def readBytes (n : Nat) (what : String) : Reader (List UInt8) := do
  demand total n what
  Cursor.take n

def unpackUnsigned (size : Nat) (what : String) : Reader Nat := do
  let raw ← readBytes total size what
  return LittleEndian.ofBytes raw

def readByte (what : String) : Reader Nat := unpackUnsigned total 1 what

def readInt16 (what : String) : Reader Nat := unpackUnsigned total 2 what

def readInt32 (what : String) : Reader Nat := unpackUnsigned total 4 what

def readInt64 (what : String) : Reader Int := do
  let raw ← readBytes total 8 what
  return LittleEndian.ofBytesSigned raw

def readUleb128 (what : String) (result shift : Nat) : Reader Nat
  | [] => (.error (truncated total 1 (what ++ " length") []), [])
  | byte :: left =>
    let result := result ||| ((byte.toNat &&& 0x7F) <<< shift)
    if byte.toNat &&& 0x80 = 0 then (.ok result, left)
    else if 63 < shift + 7 then (.error ("overlong ULEB128 length for " ++ what), left)
    else readUleb128 what result (shift + 7) left

def badFlag (flag : Nat) (what : String) (left : List UInt8) : String :=
  "bad string flag 0x" ++ String.ofList (Nat.toDigits 16 flag) ++ " for " ++ what ++
    " at offset " ++ toString (total - left.length - 1)

end Reading

namespace Builtins

variable {φ : Type} (builtins : Builtins φ)

-- decode("utf-8", errors="replace")
def decode (raw : List UInt8) : String :=
  (String.fromUTF8? ⟨raw.toArray⟩).getD (builtins.replaceInvalid raw)

def readString (total : Nat) (what : String) : Reader String := do
  let flag ← readByte total (what ++ " string flag")
  if flag = 0x00 then return ""
  else if flag ≠ 0x0B then
    let left ← Prog.read
    Prog.raise (badFlag total flag what left)
  else
    let length ← readUleb128 total what 0 0
    let raw ← readBytes total length (what ++ " string body")
    return builtins.decode raw

-- decode("ascii", errors="replace")
def decodeAscii (raw : List UInt8) : List Char :=
  raw.map fun byte => if byte < 128 then Char.ofNat byte.toNat else Char.ofNat 0xFFFD

-- The numbers of a token, or none where it is skipped, as an empty one is: it has one part.
def decodeToken (token : List Char) : Option (Int × φ × φ × Int) :=
  match token.splitOn '|' with
  | [timeDelta, x, y, keys] => do
    return (← builtins.int timeDelta, ← builtins.float x, ← builtins.float y, ← builtins.int keys)
  | _ => none

-- One turn of the loop of _decode_frames.
def addToken (decoded : List (ReplayFrame φ) × Option Int) (token : List Char) :
    List (ReplayFrame φ) × Option Int :=
  match builtins.decodeToken (Text.strip token) with
  | none => decoded
  | some (timeDelta, x, y, keys) =>
    if timeDelta = seedFrameTime then (decoded.1, some keys)
    else
      -- ReplayKeys(keys & 0x1F)
      let frame := { timeDelta := timeDelta, x := x, y := y, keys := (keys % 32).toNat }
      (decoded.1 ++ [frame], decoded.2)

def decodeFrames (raw : List UInt8) : List (ReplayFrame φ) × Option Int :=
  ((decodeAscii raw).splitOn ',').foldl builtins.addToken ([], none)

def decodeReplayFrames (compressed : List UInt8) :
    Except String (List (ReplayFrame φ) × Option Int) :=
  if compressed = [] then .ok ([], none)
  else
    match builtins.decompress compressed with
    | .ok raw => .ok (builtins.decodeFrames raw)
    | .error exc => .error ("could not decompress replay frames: " ++ exc)

-- The body of parse_osr, of data with so many bytes in all.
def readOsr (total : Nat) : Reader (Replay φ) := do
  let mode ← readByte total "game mode"
  let version ← readInt32 total "client version"
  let beatmapMd5 ← builtins.readString total "beatmap md5"
  let playerName ← builtins.readString total "player name"
  let replayMd5 ← builtins.readString total "replay md5"
  let n300 ← readInt16 total "n300"
  let n100 ← readInt16 total "n100"
  let n50 ← readInt16 total "n50"
  let ngeki ← readInt16 total "ngeki"
  let nkatu ← readInt16 total "nkatu"
  let nmiss ← readInt16 total "nmiss"
  let score ← readInt32 total "score"
  let maxCombo ← readInt16 total "max combo"
  let perfect ← readByte total "perfect"
  let mods ← readInt32 total "mods"
  let lifeBarGraph ← builtins.readString total "life bar graph"
  let timestamp ← readInt64 total "timestamp"
  let compressedLength ← readInt32 total "compressed replay length"
  let compressed ← readBytes total compressedLength "compressed replay data"
  let left ← Prog.read
  let onlineScoreId ← if 8 ≤ left.length then readInt64 total "online score id" else pure 0
  let (frames, rngSeed) ← Prog.lift (builtins.decodeReplayFrames compressed)
  return {
    mode, version, beatmapMd5, playerName, replayMd5, n300, n100, n50, ngeki, nkatu, nmiss, score,
    maxCombo, mods, lifeBarGraph, timestamp, frames, rngSeed, onlineScoreId
    perfect := perfect = 1 }

def parseOsr (data : List UInt8) : Except String (Replay φ) :=
  (builtins.readOsr data.length data).1

def parseReplayFrameData (compressed : List UInt8) (mode : Nat) : Except String (Replay φ) := do
  let (frames, rngSeed) ← builtins.decodeReplayFrames compressed
  return { mode := mode, frames := frames, rngSeed := rngSeed }

end Builtins

end BanchoPrism.Replays
