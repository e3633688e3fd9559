import BanchoPrism.Library.Struct
import BanchoPrism.Sessions.State

namespace BanchoPrism

open Library

-- What one read_* method does to the reader's body_view.
abbrev Reading (α : Type) : Type := Cursor UInt8 PyError α

-- The bits of a float as they stand on the wire.
abbrev FloatBits := Nat

structure Message where
  sender : String
  text : String
  recipient : String
  senderId : Int

-- A channel as it stands on the wire.
structure PacketChannel where
  name : String
  topic : String
  players : Int

inductive ReplayAction
  | Standard
  | NewSong
  | Skip
  | Completion
  | Fail
  | Pause
  | Unpause
  | SongSelect
  | WatchingOther
  deriving DecidableEq, Repr

def ReplayAction.ofValue : Nat → Option ReplayAction
  | 0 => some .Standard
  | 1 => some .NewSong
  | 2 => some .Skip
  | 3 => some .Completion
  | 4 => some .Fail
  | 5 => some .Pause
  | 6 => some .Unpause
  | 7 => some .SongSelect
  | 8 => some .WatchingOther
  | _ => none

structure ScoreFrame where
  time : Int
  id : Nat
  num300 : Nat
  num100 : Nat
  num50 : Nat
  numGeki : Nat
  numKatu : Nat
  numMiss : Nat
  totalScore : Int
  maxCombo : Nat
  currentCombo : Nat
  perfect : Bool
  currentHp : Nat
  tagByte : Nat
  scoreV2 : Bool
  comboPortion : Option FloatBits := none
  bonusPortion : Option FloatBits := none

structure ReplayFrame where
  buttonState : Nat
  taikoByte : Nat
  x : FloatBits
  y : FloatBits
  time : Int

structure ReplayFrameBundle where
  replayFrames : List ReplayFrame
  scoreFrame : ScoreFrame
  action : ReplayAction
  extra : Int
  sequence : Nat
  rawData : List UInt8

structure MultiplayerMatch where
  id : Int := 0
  inProgress : Bool := false
  powerplay : Int := 0
  mods : Int := 0
  name : String := ""
  passwd : String := ""
  mapName : String := ""
  mapId : Int := 0
  mapMd5 : String := ""
  slotStatuses : List Int := []
  slotTeams : List Int := []
  slotIds : List Int := []
  hostId : Int := 0
  mode : Int := 0
  winCondition : Int := 0
  teamType : Int := 0
  freemods : Bool := false
  slotMods : List Int := []
  seed : Int := 0

def ofOption {α : Type} (e : PyError) : Option α → Except PyError α
  | some a => .ok a
  | none => .error e

def readRaw (currentLen : Nat) : Reading (List UInt8) := Cursor.take currentLen

-- int.from_bytes of what is left of the view, up to the width of the field; a
-- short view gives a number and no error.
def readUnsigned (size : Nat) : Reading Nat := do
  let val ← Cursor.take size
  return LittleEndian.ofBytes val

def readSigned (size : Nat) : Reading Int := do
  let val ← Cursor.take size
  return LittleEndian.ofBytesSigned val

def readU8 : Reading Nat := do
  let val ← Cursor.head .index
  return val.toNat

def readI8 : Reading Int := do
  let val ← Cursor.head .index
  return if val.toNat > 127 then (val.toNat : Int) - 256 else val.toNat

def readI16 : Reading Int := readSigned 2

def readU16 : Reading Nat := readUnsigned 2

def readI32 : Reading Int := readSigned 4

def readU32 : Reading Nat := readUnsigned 4

def readFloat (size : Nat) : Reading FloatBits := do
  let val ← Cursor.exactly size .struct
  return LittleEndian.ofBytes val

def readF32 : Reading FloatBits := readFloat 4

def readF64 : Reading FloatBits := readFloat 8

-- The items of a list of four-byte integers, read as unsigned ones.
def chunksOfFour : List UInt8 → List Nat
  | a :: b :: c :: d :: rest => LittleEndian.ofBytes [a, b, c, d] :: chunksOfFour rest
  | _ => []

def readI32ListI16l : Reading (List Nat) := do
  let length ← readU16
  let val ← Cursor.exactly (length * 4) .struct
  return chunksOfFour val

-- The while loop of read_string: seven bits of the length a byte.
def readUleb128 (length shift : Nat) : Reading Nat
  | [] => (.error .index, [])
  | byte :: view =>
      let length := length ||| ((byte.toNat &&& 0x7F) <<< shift)
      if byte.toNat &&& 0x80 = 0 then (.ok length, view) else readUleb128 length (shift + 7) view

-- bytes.decode()
def decode (bytes : List UInt8) : Except PyError String :=
  ofOption .unicode (String.fromUTF8? ⟨bytes.toArray⟩)

def readString : Reading String := do
  let exists_ ← Cursor.head .index
  if exists_ ≠ 0x0B then return ""
  else
    let length ← readUleb128 0 0
    -- the view moves on after the decoding, so not at all when that fails
    let view ← Prog.read
    let val ← Prog.lift (decode (view.take length))
    Prog.update fun view => view.drop length
    return val

def readMessage : Reading Message := do
  let sender ← readString
  let text ← readString
  let recipient ← readString
  let senderId ← readI32
  return { sender, text, recipient, senderId }

def readChannel : Reading PacketChannel := do
  let name ← readString
  let topic ← readString
  let players ← readI32
  return { name, topic, players }

-- status & 124 != 0 for an i8: slot has a player
def slotIsTaken (status : Int) : Bool := (status % 256).toNat &&& 124 != 0

def readMatch : Reading MultiplayerMatch := do
  let id ← readI16
  let inProgress ← readI8
  let powerplay ← readI8
  let mods ← readI32
  let name ← readString
  let passwd ← readString
  let mapName ← readString
  let mapId ← readI32
  let mapMd5 ← readString
  let slotStatuses ← Cursor.times 16 readI8
  let slotTeams ← Cursor.times 16 readI8
  let slotIds ← Cursor.times (slotStatuses.filter slotIsTaken).length readI32
  let hostId ← readI32
  let mode ← readI8
  let winCondition ← readI8
  let teamType ← readI8
  let freemods ← readI8
  let slotMods ← Cursor.times (if freemods = 1 then 16 else 0) readI32
  let seed ← readI32
  return {
    id, powerplay, mods, name, passwd, mapName, mapId, mapMd5, slotStatuses, slotTeams, slotIds,
    hostId, mode, winCondition, teamType, slotMods, seed
    inProgress := inProgress = 1
    freemods := freemods = 1 }

def field (bytes : List UInt8) (start size : Nat) : Nat :=
  LittleEndian.ofBytes ((bytes.drop start).take size)

def signedField (bytes : List UInt8) (start size : Nat) : Int :=
  LittleEndian.ofBytesSigned ((bytes.drop start).take size)

-- struct.Struct("<iBHHHHHHiHH?BB?")
def unpackScoreFrame (bytes : List UInt8) : ScoreFrame :=
  { time := signedField bytes 0 4
    id := field bytes 4 1
    num300 := field bytes 5 2
    num100 := field bytes 7 2
    num50 := field bytes 9 2
    numGeki := field bytes 11 2
    numKatu := field bytes 13 2
    numMiss := field bytes 15 2
    totalScore := signedField bytes 17 4
    maxCombo := field bytes 21 2
    currentCombo := field bytes 23 2
    perfect := field bytes 25 1 ≠ 0
    currentHp := field bytes 26 1
    tagByte := field bytes 27 1
    scoreV2 := field bytes 28 1 ≠ 0 }

def readScoreframe : Reading ScoreFrame := do
  let bytes ← Cursor.exactly 29 .struct
  let sf := unpackScoreFrame bytes
  if sf.scoreV2 then do
    let comboPortion ← readF64
    let bonusPortion ← readF64
    return { sf with comboPortion := some comboPortion, bonusPortion := some bonusPortion }
  else return sf

-- struct.unpack_from at the front of what there is
def unpackFrom (size : Nat) (view : List UInt8) : Except PyError (List UInt8) :=
  if view.length < size then .error .struct else .ok (view.take size)

-- A frame that is too short, or claims the version 2 without the rest of it, is none.
def decodeScoreframe (raw : List UInt8) : Except PyError (Option ScoreFrame) :=
  if raw.length < 29 then .ok none
  else
    match unpackFrom 29 raw with
    | .error _ => .ok none
    | .ok bytes =>
        let sf := unpackScoreFrame bytes
        if sf.scoreV2 then
          let left := raw.drop 29
          if left.length < 16 then .ok none
          else do
            let portions ← unpackFrom 16 left
            return some { sf with
              comboPortion := some (field portions 0 8)
              bonusPortion := some (field portions 8 8) }
        else .ok (some sf)

def readReplayframe : Reading ReplayFrame := do
  let buttonState ← readU8
  let taikoByte ← readU8
  let x ← readF32
  let y ← readF32
  let time ← readI32
  return { buttonState, taikoByte, x, y, time }

def readReplayframeBundle (currentLen : Nat) : Reading ReplayFrameBundle := do
  let view ← Prog.read
  let rawData := view.take currentLen
  let extra ← readI32
  let framecount ← readU16
  let replayFrames ← Cursor.times framecount readReplayframe
  let action ← readU8
  let action ← Prog.lift (ofOption .value (ReplayAction.ofValue action))
  let scoreFrame ← readScoreframe
  let sequence ← readU16
  return { replayFrames, scoreFrame, action, extra, sequence, rawData }

-- No read_* method moves the view back or changes what it has not read.
section Advances

open Cursor

@[simp] theorem advances_readUnsigned (size : Nat) :
    Prog.Within Advances (readUnsigned size) := by simp [readUnsigned]

@[simp] theorem advances_readSigned (size : Nat) :
    Prog.Within Advances (readSigned size) := by simp [readSigned]

@[simp] theorem advances_readU8 : Prog.Within Advances readU8 := by simp [readU8]

@[simp] theorem advances_readI8 : Prog.Within Advances readI8 := by simp [readI8]

@[simp] theorem advances_readFloat (size : Nat) : Prog.Within Advances (readFloat size) := by
  simp [readFloat]

@[simp] theorem advances_readI32ListI16l : Prog.Within Advances readI32ListI16l := by
  simp [readI32ListI16l, readU16]

@[simp] theorem advances_readUleb128 (length shift : Nat) :
    Prog.Within Advances (readUleb128 length shift) := by
  intro view
  induction view generalizing length shift with
  | nil => exact List.suffix_rfl
  | cons byte view ih =>
      unfold Prog.Moves readUleb128
      dsimp only
      split
      · exact List.suffix_cons byte view
      · exact (ih _ _).trans (List.suffix_cons byte view)

@[simp] theorem advances_readString : Prog.Within Advances readString := by
  unfold readString
  apply Prog.Within.bind (advances_head _)
  intro exists_
  apply Prog.Within.ite
  · simp
  · apply advances_bind (advances_readUleb128 0 0)
    intro length
    apply advances_read_bind
    intro view
    simp

@[simp] theorem advances_readMessage : Prog.Within Advances readMessage := by
  unfold readMessage
  apply advances_bind advances_readString
  intro sender
  apply advances_bind advances_readString
  intro text
  apply advances_bind advances_readString
  intro recipient
  apply advances_bind (advances_readSigned 4)
  intro senderId
  exact advances_pure _

@[simp] theorem advances_readMatch : Prog.Within Advances readMatch := by
  unfold readMatch
  apply advances_bind (advances_readSigned 2)
  intro id
  apply advances_bind advances_readI8
  intro inProgress
  apply advances_bind advances_readI8
  intro powerplay
  apply advances_bind (advances_readSigned 4)
  intro mods
  apply advances_bind advances_readString
  intro name
  apply advances_bind advances_readString
  intro passwd
  apply advances_bind advances_readString
  intro mapName
  apply advances_bind (advances_readSigned 4)
  intro mapId
  apply advances_bind advances_readString
  intro mapMd5
  apply advances_bind (advances_times advances_readI8 _)
  intro slotStatuses
  apply advances_bind (advances_times advances_readI8 _)
  intro slotTeams
  apply advances_bind (advances_times (advances_readSigned 4) _)
  intro slotIds
  apply advances_bind (advances_readSigned 4)
  intro hostId
  apply advances_bind advances_readI8
  intro mode
  apply advances_bind advances_readI8
  intro winCondition
  apply advances_bind advances_readI8
  intro teamType
  apply advances_bind advances_readI8
  intro freemods
  apply advances_bind (advances_times (advances_readSigned 4) _)
  intro slotMods
  apply advances_bind (advances_readSigned 4)
  intro seed
  exact advances_pure _

@[simp] theorem advances_readScoreframe : Prog.Within Advances readScoreframe := by
  unfold readScoreframe
  apply Prog.Within.bind (advances_exactly _ _)
  intro bytes
  apply Prog.Within.ite
  · simp [readF64]
  · simp

@[simp] theorem advances_readReplayframe : Prog.Within Advances readReplayframe := by
  unfold readReplayframe
  apply advances_bind advances_readU8
  intro buttonState
  apply advances_bind advances_readU8
  intro taikoByte
  apply advances_bind (advances_readFloat 4)
  intro x
  apply advances_bind (advances_readFloat 4)
  intro y
  apply advances_bind (advances_readSigned 4)
  intro time
  exact advances_pure _

@[simp] theorem advances_readReplayframeBundle (currentLen : Nat) :
    Prog.Within Advances (readReplayframeBundle currentLen) := by
  unfold readReplayframeBundle
  apply advances_read_bind
  intro view
  apply advances_bind (advances_readSigned 4)
  intro extra
  apply advances_bind (advances_readUnsigned 2)
  intro framecount
  apply advances_bind (advances_times advances_readReplayframe _)
  intro replayFrames
  apply advances_bind advances_readU8
  intro action
  apply advances_bind (advances_lift _)
  intro action
  apply advances_bind advances_readScoreframe
  intro scoreFrame
  apply advances_bind (advances_readUnsigned 2)
  intro sequence
  exact advances_pure _

end Advances

end BanchoPrism
