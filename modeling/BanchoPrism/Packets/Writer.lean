import BanchoPrism.Library.Struct
import BanchoPrism.Packets.Reader
import BanchoPrism.Sessions.Channels

namespace BanchoPrism

open Library

def SlotStatus.value : SlotStatus → Nat
  | .open_ => 1
  | .locked => 2
  | .notReady => 4
  | .ready => 8
  | .noMap => 16
  | .playing => 32
  | .complete => 64
  | .quit => 128

-- The loop of write_uleb128: seven bits a byte, with the high bit on all but the last.
def writeGroups (num : Nat) : List UInt8 :=
  if num = 0 then []
  else
    let low := num &&& 0x7F
    let left := num >>> 7
    UInt8.ofNat (if left ≠ 0 then low ||| 0x80 else low) :: writeGroups left
termination_by num
decreasing_by
  rw [Nat.shiftRight_eq_div_pow]
  omega

def writeUleb128 (num : Nat) : List UInt8 := if num = 0 then [0] else writeGroups num

-- s.encode()
def encode (s : String) : List UInt8 := s.toUTF8.data.toList

def writeString (s : String) : List UInt8 :=
  if s = "" then [0x00] else 0x0B :: (writeUleb128 (encode s).length ++ encode s)

-- One byte of a bool.
def writeFlag (flag : Bool) : UInt8 := if flag then 1 else 0

def WirePassword.bytes : WirePassword → List UInt8
  | .absent => [0x00]
  | .hidden => [0x0B, 0x00]
  | .shown passwd => writeString passwd

-- The bytes of write_match.
def WireMatch.bytes (m : WireMatch) : List UInt8 :=
  LittleEndian.toBytes 2 m.id ++ [writeFlag m.inProgress] ++ [0] ++ LittleEndian.toBytes 4 m.mods ++
    writeString m.name ++ m.passwd.bytes ++ writeString m.mapName ++
    LittleEndian.toBytesSigned 4 m.mapId ++ writeString m.mapMd5 ++
    (m.slotStatuses.map fun status => UInt8.ofNat status.value) ++
    (m.slotTeams.map fun team => UInt8.ofNat team.value) ++
    m.slotIds.flatMap (LittleEndian.toBytes 4) ++ LittleEndian.toBytes 4 m.hostId ++
    [UInt8.ofNat m.mode.value] ++ [UInt8.ofNat m.winCondition.value] ++
    [UInt8.ofNat m.teamType.value] ++ [writeFlag m.freemods] ++
    m.slotMods.flatMap (LittleEndian.toBytes 4) ++ LittleEndian.toBytes 4 m.seed.toNat

def writeI32List (l : List Int) : Except PyError (List UInt8) := do
  require (fitsUnsigned 2 l.length) .overflow
  require (l.all fitsI32) .overflow
  return LittleEndian.toBytes 2 l.length ++ l.flatMap (LittleEndian.toBytesSigned 4)

def writeMessage (sender msg recipient : String) (senderId : Int) : Except PyError (List UInt8) := do
  require (fitsI32 senderId) .overflow
  return writeString sender ++ writeString msg ++ writeString recipient ++
    LittleEndian.toBytesSigned 4 senderId

def writeChannel (name topic : String) (count : Int) : Except PyError (List UInt8) := do
  require (fitsUnsigned 2 count) .overflow
  return writeString name ++ writeString topic ++ LittleEndian.toBytes 2 count.toNat

-- The arguments of SCOREFRAME_FMT.pack, each with its character of the format; a bool is a byte.
def ScoreFrame.fields (s : ScoreFrame) : List (Struct.Code × Int) :=
  [(.i, s.time), (.B, s.id), (.H, s.num300), (.H, s.num100), (.H, s.num50), (.H, s.numGeki),
    (.H, s.numKatu), (.H, s.numMiss), (.i, s.totalScore), (.H, s.maxCombo), (.H, s.currentCombo),
    (.B, s.perfect.toNat), (.B, s.currentHp), (.B, s.tagByte), (.B, s.scoreV2.toNat)]

def writeScoreframe (s : ScoreFrame) : Except PyError (List UInt8) :=
  Struct.pack PyError.struct s.fields

end BanchoPrism
