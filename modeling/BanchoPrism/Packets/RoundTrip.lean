import BanchoPrism.Library.Cursor
import BanchoPrism.Packets.Reader
import BanchoPrism.Packets.Writer
import Mathlib.Data.Nat.Bitwise

namespace BanchoPrism

open Library Cursor

section Numbers

theorem reads_readSigned {size n : Nat} (h : 2 * n < 256 ^ size) :
    Reads (readSigned size) (LittleEndian.toBytes size n) (n : Int) := by
  have htake := @Reads.take _ PyError (LittleEndian.toBytes size n)
  rw [LittleEndian.length_toBytes] at htake
  refine htake.map ?_
  rw [LittleEndian.ofBytesSigned_toBytes h]
  exact Reads.pure _

theorem reads_readI32_signed {v : Int} (h : fitsI32 v) :
    Reads readI32 (LittleEndian.toBytesSigned 4 v) v := by
  have htake := @Reads.take _ PyError (LittleEndian.toBytesSigned 4 v)
  rw [LittleEndian.length_toBytesSigned] at htake
  refine htake.map ?_
  simp only [fitsI32, Bool.and_eq_true, decide_eq_true_eq] at h
  rw [LittleEndian.ofBytesSigned_toBytesSigned (by omega) (by omega)]
  exact Reads.pure _

theorem reads_readI8 {n : Nat} (h : n < 128) : Reads readI8 [UInt8.ofNat n] (n : Int) := by
  refine (Reads.head PyError.index (UInt8.ofNat n)).map ?_
  have hbyte : (UInt8.ofNat n).toNat = n := by
    rw [UInt8.toNat_ofNat']
    omega
  rw [hbyte, if_neg (by omega)]
  exact Reads.pure _

theorem reads_writeFlag (flag : Bool) : Reads readI8 [writeFlag flag] (if flag then 1 else 0) := by
  cases flag <;> exact fun _ => rfl

end Numbers

section Strings

-- Seven bits and those above them are all the bits.
theorem low_or_left (num shift : Nat) :
    ((num &&& 0x7F) <<< shift) ||| ((num >>> 7) <<< (shift + 7)) = num <<< shift := by
  apply Nat.eq_of_testBit_eq
  intro bit
  have hmask : (0x7F : Nat) = 2 ^ 7 - 1 := rfl
  simp only [Nat.testBit_or, Nat.testBit_shiftLeft, Nat.testBit_shiftRight, Nat.testBit_and, hmask,
    Nat.testBit_two_pow_sub_one]
  by_cases hlow : shift ≤ bit
  · by_cases hmid : shift + 7 ≤ bit
    · have hsum : 7 + (bit - (shift + 7)) = bit - shift := by omega
      have hhigh : ¬bit - shift < 7 := by omega
      simp [hlow, hmid, hhigh, hsum]
    · have hsmall : bit - shift < 7 := by omega
      simp [hlow, hmid, hsmall]
  · have hmid : ¬shift + 7 ≤ bit := by omega
    simp [hlow, hmid]

theorem marked_group : ∀ low < 128, ((low ||| 0x80) % 256) &&& 0x7F = low ∧
    ((low ||| 0x80) % 256) &&& 0x80 ≠ 0 := by
  decide

theorem last_group : ∀ low < 128, (low % 256) &&& 0x7F = low ∧ (low % 256) &&& 0x80 = 0 := by
  decide

-- By strong induction on the number that is left: the bits read so far are length,
-- and the next group belongs at shift.
theorem readUleb128_writeGroups (num : Nat) (hnum : num ≠ 0) (length shift : Nat)
    (rest : List UInt8) :
    readUleb128 length shift (writeGroups num ++ rest) = (.ok (length ||| num <<< shift), rest) := by
  induction num using Nat.strongRecOn generalizing length shift with
  | ind num ih =>
    have hlow : num &&& 0x7F < 128 := Nat.lt_of_le_of_lt Nat.and_le_right (by decide)
    rw [writeGroups, if_neg hnum]
    by_cases hleft : num >>> 7 = 0
    · obtain ⟨hvalue, hlast⟩ := last_group _ hlow
      have hnil : writeGroups 0 = [] := by
        rw [writeGroups, if_pos rfl]
      have hall : (num &&& 0x7F) <<< shift = num <<< shift := by
        have hsplit := low_or_left num shift
        rwa [hleft, Nat.zero_shiftLeft, Nat.or_zero] at hsplit
      simp only [hnil, hleft, ne_eq, not_true_eq_false, if_false, List.cons_append,
        List.nil_append, readUleb128, UInt8.toNat_ofNat', hvalue, hlast, if_true, hall]
    · obtain ⟨hvalue, hmore⟩ := marked_group _ hlow
      have hsmaller : num >>> 7 < num := by
        rw [Nat.shiftRight_eq_div_pow]
        omega
      simp only [hleft, ne_eq, not_false_eq_true, if_true, List.cons_append, readUleb128,
        UInt8.toNat_ofNat', hvalue, hmore, if_false]
      rw [ih _ hsmaller hleft, Nat.or_assoc, low_or_left]

theorem reads_writeUleb128 (num : Nat) : Reads (readUleb128 0 0) (writeUleb128 num) num := by
  intro rest
  unfold writeUleb128
  by_cases hnum : num = 0
  · subst hnum
    rfl
  · rw [if_neg hnum, readUleb128_writeGroups num hnum, Nat.zero_or, Nat.shiftLeft_zero]

theorem decode_encode (s : String) : decode (encode s) = .ok s := by
  have hbytes : (⟨(encode s).toArray⟩ : ByteArray) = s.toByteArray := by
    simp [encode]
  unfold decode String.fromUTF8?
  rw [hbytes, dif_pos s.isValidUTF8]
  rfl

theorem reads_writeString (s : String) : Reads readString (writeString s) s := by
  intro rest
  unfold writeString
  by_cases hs : s = ""
  · subst hs
    rfl
  · have hlength := reads_writeUleb128 (encode s).length (encode s ++ rest)
    rw [if_neg hs, List.cons_append, List.append_assoc]
    refine (Prog.bind_run_ok (Reads.head PyError.index 0x0B _)).trans ?_
    rw [if_neg (by decide)]
    refine (Prog.bind_run_ok hlength).trans ?_
    rw [Prog.read_bind_run, List.take_left, decode_encode]
    change (Except.ok s, (encode s ++ rest).drop (encode s).length) = _
    rw [List.drop_left]

end Strings

section Matches

variable {m : WireMatch}

-- The fields of a match that its bytes can hold: each as wide as its reader takes it,
-- and as many items as the reader counts.
structure WireMatch.Fits (m : WireMatch) : Prop where
  id : m.id < 2 ^ 15
  mods : m.mods < 2 ^ 31
  mapId : fitsI32 m.mapId
  statusCount : m.slotStatuses.length = 16
  statuses : ∀ status ∈ m.slotStatuses, status ≠ .quit
  teamCount : m.slotTeams.length = 16
  idCount : m.slotIds.length = (m.slotStatuses.filter SlotStatus.hasPlayer).length
  ids : ∀ id ∈ m.slotIds, id < 2 ^ 31
  hostId : m.hostId < 2 ^ 31
  modCount : m.slotMods.length = if m.freemods then 16 else 0
  slotMods : ∀ mods ∈ m.slotMods, mods < 2 ^ 31
  seed : 0 ≤ m.seed ∧ m.seed < 2 ^ 31

def WirePassword.text : WirePassword → String
  | .absent => ""
  | .hidden => ""
  | .shown passwd => passwd

-- What read_match makes of the bytes.
def WireMatch.read (m : WireMatch) : MultiplayerMatch :=
  { id := m.id
    inProgress := m.inProgress
    powerplay := 0
    mods := m.mods
    name := m.name
    passwd := m.passwd.text
    mapName := m.mapName
    mapId := m.mapId
    mapMd5 := m.mapMd5
    slotStatuses := m.slotStatuses.map fun status => (status.value : Int)
    slotTeams := m.slotTeams.map fun team => (team.value : Int)
    slotIds := m.slotIds.map Nat.cast
    hostId := m.hostId
    mode := m.mode.value
    winCondition := m.winCondition.value
    teamType := m.teamType.value
    freemods := m.freemods
    slotMods := m.slotMods.map Nat.cast
    seed := m.seed }

theorem reads_passwd (passwd : WirePassword) : Reads readString passwd.bytes passwd.text := by
  cases passwd with
  | absent => exact fun _ => rfl
  | hidden => exact fun _ => rfl
  | shown passwd => exact reads_writeString passwd

-- A list of bytes of the same width each.
theorem reads_bytes {γ : Type} {items : List γ} {value : γ → Nat} {count : Nat}
    (hcount : items.length = count) (h : ∀ item ∈ items, value item < 128) :
    Reads (Cursor.times count readI8) (items.map fun item => UInt8.ofNat (value item))
      (items.map fun item => (value item : Int)) := by
  subst hcount
  have htimes := @Reads.times _ _ _ _ readI8 (fun item => [UInt8.ofNat (value item)])
    (fun item => (value item : Int)) items fun item hitem => reads_readI8 (h item hitem)
  rwa [← List.map_eq_flatMap] at htimes

theorem reads_i32s {items : List Nat} {count : Nat} (hcount : items.length = count)
    (h : ∀ item ∈ items, item < 2 ^ 31) :
    Reads (Cursor.times count readI32) (items.flatMap (LittleEndian.toBytes 4))
      (items.map (Nat.cast : Nat → Int)) := by
  subst hcount
  exact Reads.times fun item hitem => reads_readSigned (by have hlt := h item hitem; omega)

theorem SlotStatus.isTaken (status : SlotStatus) :
    slotIsTaken (status.value : Int) = status.hasPlayer := by
  cases status <;> rfl

theorem takenCount (statuses : List SlotStatus) :
    ((statuses.map fun status => (status.value : Int)).filter slotIsTaken).length =
      (statuses.filter SlotStatus.hasPlayer).length := by
  rw [List.filter_map, List.length_map]
  congr 2
  funext status
  exact status.isTaken

theorem SlotStatus.value_lt {status : SlotStatus} (h : status ≠ .quit) : status.value < 128 := by
  cases status with
  | quit => exact absurd rfl h
  | _ => decide

theorem MatchTeams.value_lt (team : MatchTeams) : team.value < 128 := by
  cases team <;> decide

theorem GameMode.value_lt (mode : GameMode) : mode.value < 128 := by
  cases mode <;> decide

theorem MatchWinConditions.value_lt (winCondition : MatchWinConditions) :
    winCondition.value < 128 := by
  cases winCondition <;> decide

theorem MatchTeamTypes.value_lt (teamType : MatchTeamTypes) : teamType.value < 128 := by
  cases teamType <;> decide

theorem flag_eq_one (flag : Bool) : decide ((if flag then (1 : Int) else 0) = 1) = flag := by
  cases flag <;> rfl

-- read_match gives back a match that fits, field by field in the order of the bytes.
theorem WireMatch.Fits.reads (h : m.Fits) : Reads readMatch m.bytes m.read := by
  have hpowerplay : Reads readI8 [0] (0 : Int) := fun _ => rfl
  have hwide : ∀ n : Nat, n < 2 ^ 31 → 2 * n < 256 ^ 4 := fun n hn => by omega
  have hseed := @reads_readSigned 4 m.seed.toNat (by have hfits := h.seed; omega)
  rw [Int.toNat_of_nonneg h.seed.1] at hseed
  unfold WireMatch.bytes readMatch
  simp only [List.append_assoc]
  refine (reads_readSigned (by have hid := h.id; omega)).bind ?_
  refine (reads_writeFlag m.inProgress).bind ?_
  refine hpowerplay.bind ?_
  refine (reads_readSigned (hwide _ h.mods)).bind ?_
  refine (reads_writeString m.name).bind ?_
  refine (reads_passwd m.passwd).bind ?_
  refine (reads_writeString m.mapName).bind ?_
  refine (reads_readI32_signed h.mapId).bind ?_
  refine (reads_writeString m.mapMd5).bind ?_
  refine (reads_bytes h.statusCount fun status hs => SlotStatus.value_lt (h.statuses status hs)).bind ?_
  refine (reads_bytes h.teamCount fun team _ => team.value_lt).bind ?_
  refine (reads_i32s (h.idCount.trans (takenCount _).symm) h.ids).bind ?_
  refine (reads_readSigned (hwide _ h.hostId)).bind ?_
  refine (reads_readI8 m.mode.value_lt).bind ?_
  refine (reads_readI8 m.winCondition.value_lt).bind ?_
  refine (reads_readI8 m.teamType.value_lt).bind ?_
  refine (reads_writeFlag m.freemods).bind ?_
  refine (reads_i32s ?_ h.slotMods).bind ?_
  · rw [h.modCount]
    cases m.freemods <;> rfl
  refine hseed.map ?_
  simp only [flag_eq_one]
  exact Reads.pure m.read

end Matches

-- What the numbers of a match that a client sent can be.
structure MultiplayerMatch.OnWire (data : MultiplayerMatch) : Prop where
  mods : fitsI32 data.mods
  mapId : fitsI32 data.mapId
  seed : fitsI32 data.seed

end BanchoPrism
