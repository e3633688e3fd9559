import BanchoPrism.Packets.RoundTrip

namespace BanchoPrism

open Library Cursor

section Messages

theorem undoes_writeMessage (message : Message) (h : fitsI32 message.senderId) :
    Undoes readMessage
      (writeMessage message.sender message.text message.recipient message.senderId) message := by
  have hwritten : writeMessage message.sender message.text message.recipient message.senderId =
      .ok (writeString message.sender ++ writeString message.text ++
        writeString message.recipient ++ LittleEndian.toBytesSigned 4 message.senderId) := by
    rw [writeMessage, require_true _ h]
    rfl
  refine ⟨_, hwritten, ?_⟩
  unfold readMessage
  simp only [List.append_assoc]
  apply (reads_writeString message.sender).bind
  apply (reads_writeString message.text).bind
  apply (reads_writeString message.recipient).bind
  exact (reads_readI32_signed h).map (Reads.pure message)

-- Strings of any length, the numbers before them and messages are all read back as they
-- were written, whatever follows them.
theorem stringsAndMessages_readBack :
    (∀ s, Reads readString (writeString s) s) ∧
      (∀ num, Reads (readUleb128 0 0) (writeUleb128 num) num) ∧
        ∀ message : Message, fitsI32 message.senderId →
          Undoes readMessage
            (writeMessage message.sender message.text message.recipient message.senderId)
            message := by
  refine ⟨reads_writeString, reads_writeUleb128, ?_⟩
  intro message h
  exact undoes_writeMessage message h

theorem stringsAndMessages_readBack_greeting :
    Undoes readMessage (writeMessage "cmyui" "" "#osu" (-3)) ⟨"cmyui", "", "#osu", -3⟩ :=
  stringsAndMessages_readBack.2.2 ⟨"cmyui", "", "#osu", -3⟩ (by decide)

end Messages

section Decoded

variable {raw : List UInt8} {size : Nat}

theorem readF64_short (h : raw.length < 8) : readF64 raw = (.error .struct, raw) :=
  Prog.bind_run_error (exactly_short PyError.struct h)

theorem readF64_enough (h : 8 ≤ raw.length) :
    readF64 raw = (.ok (LittleEndian.ofBytes (raw.take 8)), raw.drop 8) :=
  Prog.bind_run_ok (exactly_enough PyError.struct h)

-- Both portions, or an error at the one that is cut off.
theorem portions_run (sf : ScoreFrame) :
    ((do
      let comboPortion ← readF64
      let bonusPortion ← readF64
      return { sf with comboPortion := some comboPortion, bonusPortion := some bonusPortion }
        : Reading ScoreFrame) raw).1 =
      if raw.length < 16 then .error .struct
      else .ok { sf with
        comboPortion := some (field (raw.take 16) 0 8)
        bonusPortion := some (field (raw.take 16) 8 8) } := by
  by_cases hcombo : raw.length < 8
  · rw [Prog.bind_run_error (readF64_short hcombo), if_pos (by omega)]
  · rw [Prog.bind_run_ok (readF64_enough (by omega))]
    by_cases hbonus : raw.length < 16
    · have hshort : (raw.drop 8).length < 8 := by
        rw [List.length_drop]
        omega
      rw [Prog.bind_run_error (readF64_short hshort), if_pos hbonus]
    · have henough : 8 ≤ (raw.drop 8).length := by
        rw [List.length_drop]
        omega
      rw [Prog.bind_run_ok (readF64_enough henough), if_neg hbonus]
      simp [field, List.take_take, List.drop_take]

-- One reads from the packet and one from a frame that was kept: where one raises the other
-- has none.
theorem decodeScoreframe_agrees (raw : List UInt8) :
    decodeScoreframe raw = .ok (readScoreframe raw).1.toOption := by
  unfold decodeScoreframe readScoreframe
  by_cases hbase : raw.length < 29
  · rw [if_pos hbase, Prog.bind_run_error (exactly_short PyError.struct hbase)]
    rfl
  · rw [if_neg hbase, Prog.bind_run_ok (exactly_enough PyError.struct (by omega))]
    have hunpack : unpackFrom 29 raw = .ok (raw.take 29) := if_neg hbase
    simp only [hunpack]
    split
    case isFalse => rfl
    case isTrue =>
      rw [portions_run]
      split
      case isTrue => rfl
      case isFalse hportions =>
        have hrest : unpackFrom 16 (raw.drop 29) = .ok ((raw.drop 29).take 16) := if_neg hportions
        rw [hrest]
        rfl

end Decoded

section Ids

-- The four bytes of an id, read without their sign.
theorem chunksOfFour_ids (l : List Int) :
    chunksOfFour (l.flatMap (LittleEndian.toBytesSigned 4)) =
      l.map fun id => (id % 2 ^ 32).toNat := by
  induction l with
  | nil => rfl
  | cons id rest ih =>
    have hmod := Int.emod_nonneg id (by decide : (2 ^ 32 : Int) ≠ 0)
    have hlt := Int.emod_lt_of_pos id (by decide : (0 : Int) < 2 ^ 32)
    have hread := @LittleEndian.ofBytes_toBytes 4 (id % 2 ^ 32).toNat (by omega)
    rw [List.flatMap_cons, List.map_cons, ← ih]
    exact congrArg (· :: _) hread

theorem length_ids (l : List Int) :
    (l.flatMap (LittleEndian.toBytesSigned 4)).length = l.length * 4 := by
  induction l with
  | nil => rfl
  | cons id rest ih =>
    rw [List.flatMap_cons, List.length_append, LittleEndian.length_toBytesSigned, ih,
      List.length_cons]
    omega

theorem writeI32List_fits {l : List Int} (hlength : l.length < 2 ^ 16) (h : ∀ id ∈ l, fitsI32 id) :
    writeI32List l =
      .ok (LittleEndian.toBytes 2 l.length ++ l.flatMap (LittleEndian.toBytesSigned 4)) := by
  have hcount : fitsUnsigned 2 l.length := by
    simp [fitsUnsigned]
    omega
  have hall : l.all fitsI32 := List.all_eq_true.mpr h
  rw [writeI32List, require_true _ hcount]
  show (do require (l.all fitsI32) .overflow; pure _) = _
  rw [require_true _ hall]
  rfl

-- What the reader makes of the ids: those below zero come out as large ones.
theorem reads_ids {l : List Int} (hlength : l.length < 2 ^ 16) :
    Reads readI32ListI16l
      (LittleEndian.toBytes 2 l.length ++ l.flatMap (LittleEndian.toBytesSigned 4))
      (l.map fun id => (id % 2 ^ 32).toNat) := by
  have hcount : Reads readU16 (LittleEndian.toBytes 2 l.length) l.length := by
    have htake := @Reads.take _ PyError (LittleEndian.toBytes 2 l.length)
    rw [LittleEndian.length_toBytes] at htake
    apply htake.map
    rw [LittleEndian.ofBytes_toBytes (by omega)]
    exact Reads.pure _
  have hitems := Reads.exactly PyError.struct (l.flatMap (LittleEndian.toBytesSigned 4))
  rw [length_ids] at hitems
  apply hcount.bind
  apply hitems.map
  rw [chunksOfFour_ids]
  exact Reads.pure _

theorem unsigned_eq_self {l : List Int} (h : ∀ id ∈ l, fitsI32 id) :
    (l.map fun id => ((id % 2 ^ 32).toNat : Int)) = l ↔ ∀ id ∈ l, 0 ≤ id := by
  constructor
  · intro hsame id hid
    have hsame : l.map (fun id => ((id % 2 ^ 32).toNat : Int)) = l.map fun id => id := by
      rw [hsame, List.map_id']
    have hone := List.map_inj_left.mp hsame id hid
    omega
  · intro hpos
    have hsame : ∀ id ∈ l, ((id % 2 ^ 32).toNat : Int) = id := by
      intro id hid
      have hfits := h id hid
      have hlow := hpos id hid
      simp only [fitsI32, Bool.and_eq_true, decide_eq_true_eq] at hfits
      omega
    exact (List.map_inj_left.mpr hsame).trans (List.map_id' l)

end Ids

section Frames

variable {s : ScoreFrame}

-- Every field in the range of its type; the portions are there in the version 2 alone.
structure ScoreFrame.Declared (s : ScoreFrame) : Prop where
  fields : ∀ f ∈ s.fields, f.1.Takes f.2
  comboPortion : s.comboPortion.isSome = s.scoreV2
  bonusPortion : s.bonusPortion.isSome = s.scoreV2
  wide : ∀ portion, some portion = s.comboPortion ∨ some portion = s.bonusPortion →
    portion < 2 ^ 64

def ScoreFrame.base (s : ScoreFrame) : ScoreFrame :=
  { s with comboPortion := none, bonusPortion := none }

def ScoreFrame.written (s : ScoreFrame) : List UInt8 := s.fields.flatMap fun f => f.1.bytes f.2

-- SCOREFRAME_FMT, with a byte for each "?"
def ScoreFrame.format : List Struct.Code := [.i, .B, .H, .H, .H, .H, .H, .H, .i, .H, .H, .B, .B, .B, .B]

theorem ScoreFrame.fields_format (s : ScoreFrame) : s.fields.map Prod.fst = ScoreFrame.format := rfl

-- What stands at a place of the format, read at the offset of that place.
theorem ScoreFrame.Declared.field_at (h : s.Declared) (place : Nat) (hplace : place < 15)
    {start size n : Nat} (hstart : Struct.offset ScoreFrame.format place = start)
    (hfield : ∀ hlt, (s.fields.get ⟨place, hlt⟩).1.size = size ∧ (s.fields.get ⟨place, hlt⟩).2 = n) :
    field s.written start size = n := by
  have hlt : place < s.fields.length := hplace
  obtain ⟨hsize, hn⟩ := hfield hlt
  rw [List.get_eq_getElem] at hsize hn
  have hpart := Struct.part_bytes hlt
  have htakes := h.fields _ (List.getElem_mem hlt)
  rw [s.fields_format, hstart, hsize, hn] at hpart
  rw [hn] at htakes
  unfold field ScoreFrame.written
  rw [hpart]
  exact Struct.ofBytes_bytes htakes

theorem ScoreFrame.Declared.signedField_at (h : s.Declared) (place : Nat) (hplace : place < 15)
    {start : Nat} {v : Int} (hstart : Struct.offset ScoreFrame.format place = start)
    (hfield : ∀ hlt, s.fields.get ⟨place, hlt⟩ = (.i, v)) :
    signedField s.written start 4 = v := by
  have hlt : place < s.fields.length := hplace
  have hv := hfield hlt
  rw [List.get_eq_getElem] at hv
  have hpart := Struct.part_bytes hlt
  have htakes := h.fields _ (List.getElem_mem hlt)
  rw [s.fields_format, hstart, hv] at hpart
  rw [hv] at htakes
  unfold signedField ScoreFrame.written
  refine (congrArg LittleEndian.ofBytesSigned hpart).trans ?_
  exact LittleEndian.ofBytesSigned_toBytesSigned htakes.1 htakes.2

theorem toNat_ne_zero (flag : Bool) : decide (flag.toNat ≠ 0) = flag := by
  cases flag <;> rfl

theorem ScoreFrame.Declared.unpack (h : s.Declared) : unpackScoreFrame s.written = s.base := by
  have htime : signedField s.written 0 4 = s.time :=
    h.signedField_at 0 (by decide) (by decide) fun _ => rfl
  have hid : field s.written 4 1 = s.id :=
    h.field_at 1 (by decide) (by decide) fun _ => ⟨rfl, rfl⟩
  have hnum300 : field s.written 5 2 = s.num300 :=
    h.field_at 2 (by decide) (by decide) fun _ => ⟨rfl, rfl⟩
  have hnum100 : field s.written 7 2 = s.num100 :=
    h.field_at 3 (by decide) (by decide) fun _ => ⟨rfl, rfl⟩
  have hnum50 : field s.written 9 2 = s.num50 :=
    h.field_at 4 (by decide) (by decide) fun _ => ⟨rfl, rfl⟩
  have hnumGeki : field s.written 11 2 = s.numGeki :=
    h.field_at 5 (by decide) (by decide) fun _ => ⟨rfl, rfl⟩
  have hnumKatu : field s.written 13 2 = s.numKatu :=
    h.field_at 6 (by decide) (by decide) fun _ => ⟨rfl, rfl⟩
  have hnumMiss : field s.written 15 2 = s.numMiss :=
    h.field_at 7 (by decide) (by decide) fun _ => ⟨rfl, rfl⟩
  have htotalScore : signedField s.written 17 4 = s.totalScore :=
    h.signedField_at 8 (by decide) (by decide) fun _ => rfl
  have hmaxCombo : field s.written 21 2 = s.maxCombo :=
    h.field_at 9 (by decide) (by decide) fun _ => ⟨rfl, rfl⟩
  have hcurrentCombo : field s.written 23 2 = s.currentCombo :=
    h.field_at 10 (by decide) (by decide) fun _ => ⟨rfl, rfl⟩
  have hperfect : field s.written 25 1 = s.perfect.toNat :=
    h.field_at 11 (by decide) (by decide) fun _ => ⟨rfl, rfl⟩
  have hcurrentHp : field s.written 26 1 = s.currentHp :=
    h.field_at 12 (by decide) (by decide) fun _ => ⟨rfl, rfl⟩
  have htagByte : field s.written 27 1 = s.tagByte :=
    h.field_at 13 (by decide) (by decide) fun _ => ⟨rfl, rfl⟩
  have hscoreV2 : field s.written 28 1 = s.scoreV2.toNat :=
    h.field_at 14 (by decide) (by decide) fun _ => ⟨rfl, rfl⟩
  unfold unpackScoreFrame
  simp only [htime, hid, hnum300, hnum100, hnum50, hnumGeki, hnumKatu, hnumMiss, htotalScore,
    hmaxCombo, hcurrentCombo, hperfect, hcurrentHp, htagByte, hscoreV2, toNat_ne_zero]
  rfl

theorem ScoreFrame.length_written (s : ScoreFrame) : s.written.length = 29 := by
  simp [ScoreFrame.written, ScoreFrame.fields, Struct.Code.size]

theorem ScoreFrame.Declared.readScoreframe_run (h : s.Declared) (rest : List UInt8) :
    readScoreframe (s.written ++ rest) =
      if s.scoreV2 then
        (do
          let comboPortion ← readF64
          let bonusPortion ← readF64
          return { s.base with comboPortion := some comboPortion, bonusPortion := some bonusPortion }
            : Reading ScoreFrame) rest
      else (.ok s.base, rest) := by
  have hbase := Reads.exactly PyError.struct s.written
  rw [s.length_written] at hbase
  unfold readScoreframe
  rw [Prog.bind_run_ok (hbase rest), h.unpack]
  show (if s.scoreV2 then _ else _ : Reading ScoreFrame) rest = _
  split
  · rfl
  · rfl

theorem ScoreFrame.base_eq (hcombo : s.comboPortion = none) (hbonus : s.bonusPortion = none) :
    s.base = s := by
  cases s
  cases hcombo
  cases hbonus
  rfl

-- The portions are not written, so a frame is read back just when it has none.
theorem ScoreFrame.Declared.undoes_iff (h : s.Declared) :
    Undoes readScoreframe (writeScoreframe s) s ↔ s.scoreV2 = false := by
  have hwritten : writeScoreframe s = .ok s.written := Struct.pack_of_takes h.fields
  rw [hwritten]
  constructor
  · intro hundoes
    have hread := hundoes.reads []
    rw [h.readScoreframe_run] at hread
    cases hv2 : s.scoreV2 with
    | false => rfl
    | true =>
      rw [hv2, if_pos rfl, Prog.bind_run_error (readF64_short (by decide))] at hread
      cases hread
  · intro hv2
    have hcombo := h.comboPortion
    have hbonus := h.bonusPortion
    rw [hv2, Option.isSome_eq_false_iff, Option.isNone_iff_eq_none] at hcombo hbonus
    have hsame := ScoreFrame.base_eq hcombo hbonus
    refine ⟨s.written, rfl, ?_⟩
    intro rest
    rw [h.readScoreframe_run, hv2, hsame]
    rfl

end Frames

section Channels

theorem writeChannel_fits {name topic : String} {count : Int} (h : fitsUnsigned 2 count) :
    writeChannel name topic count =
      .ok (writeString name ++ writeString topic ++ LittleEndian.toBytes 2 count.toNat) := by
  rw [writeChannel, require_true _ h]
  rfl

-- The count is read in four bytes where two were written, so two of what follows go with it.
theorem not_undoes_writeChannel {channel : PacketChannel} (h : fitsUnsigned 2 channel.players) :
    ¬Undoes readChannel (writeChannel channel.name channel.topic channel.players) channel := by
  rw [writeChannel_fits h]
  intro hundoes
  have hread := hundoes.reads [0]
  unfold readChannel at hread
  rw [List.append_assoc, List.append_assoc, Prog.bind_run_ok (reads_writeString _ _),
    Prog.bind_run_ok (reads_writeString _ _)] at hread
  cases congrArg Prod.snd hread

end Channels

-- The values that have a writer and a reader both.
inductive Value
  | ids (l : List Int)
  | channel (c : PacketChannel)
  | frame (s : ScoreFrame)

namespace Value

def written : Value → Except PyError (List UInt8)
  | ids l => writeI32List l
  | channel c => writeChannel c.name c.topic c.players
  | frame s => writeScoreframe s

def reader : Value → Reading Value
  | ids _ => do
    let l ← readI32ListI16l
    return ids (l.map fun (id : Nat) => (id : Int))
  | channel _ => do
    let c ← readChannel
    return channel c
  | frame _ => do
    let s ← readScoreframe
    return frame s

-- Every number in the range that it is declared with.
def InRange : Value → Prop
  | ids l => l.length < 2 ^ 16 ∧ ∀ id ∈ l, fitsI32 id
  | channel c => fitsUnsigned 2 c.players
  | frame s => s.Declared

def ReadBack (v : Value) : Prop := Undoes v.reader v.written v

-- Where reader and writer agree: no id below zero, no portions, and no channel at all.
def Agrees : Value → Prop
  | ids l => ∀ id ∈ l, 0 ≤ id
  | channel _ => False
  | frame s => s.scoreV2 = false

end Value

theorem ids_readBack_iff {l : List Int} (h : (Value.ids l).InRange) :
    (Value.ids l).ReadBack ↔ (Value.ids l).Agrees := by
  obtain ⟨hlength, hfits⟩ := h
  have hread : Reads (Value.ids l).reader _ (Value.ids _) := (reads_ids hlength).map (Reads.pure _)
  rw [List.map_map] at hread
  have hwritten : (Value.ids l).written = .ok _ := writeI32List_fits hlength hfits
  unfold Value.ReadBack
  rw [hwritten]
  constructor
  · intro hundoes
    have hsame := Value.ids.inj (hread.unique hundoes.reads)
    exact (unsigned_eq_self hfits).mp hsame
  · intro hpos
    have hsame := (unsigned_eq_self hfits).mpr hpos
    refine ⟨_, rfl, ?_⟩
    exact (congrArg (fun ids => Reads _ _ (Value.ids ids)) hsame).mp hread

-- What is written is read back, whatever follows it, just where reader and writer agree.
theorem readBack_iff (v : Value) (h : v.InRange) : v.ReadBack ↔ v.Agrees := by
  cases v with
  | ids l => exact ids_readBack_iff h
  | channel c =>
    have hinjective : Function.Injective Value.channel := fun _ _ hc => Value.channel.inj hc
    refine iff_of_false ?_ id
    intro hback
    exact not_undoes_writeChannel h ((undoes_wrap_iff hinjective).mp hback)
  | frame s =>
    have hinjective : Function.Injective Value.frame := fun _ _ hs => Value.frame.inj hs
    exact (undoes_wrap_iff hinjective).trans h.undoes_iff

theorem readBack_iff_friends : (Value.ids [1, 3]).ReadBack := by
  have hpos : ∀ id ∈ [(1 : Int), 3], 0 ≤ id := by decide
  exact (readBack_iff (.ids [1, 3]) ⟨by decide, by decide⟩).mpr hpos

-- The id below zero comes back as 4294967295.
theorem not_readBack_belowZero : (Value.ids [3, -1]).InRange ∧ ¬(Value.ids [3, -1]).ReadBack := by
  have hrange : (Value.ids [3, -1]).InRange := ⟨by decide, by decide⟩
  refine ⟨hrange, ?_⟩
  intro hback
  have hpos := (ids_readBack_iff hrange).mp hback (-1) (by decide)
  exact absurd hpos (by decide)

end BanchoPrism
