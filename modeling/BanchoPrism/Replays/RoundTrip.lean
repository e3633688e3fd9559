import BanchoPrism.Constants.GameMode
import BanchoPrism.Constants.Privileges
import BanchoPrism.Library.Rounding
import BanchoPrism.Library.Struct
import BanchoPrism.Packets.Writer
import BanchoPrism.Replays.Osr
import BanchoPrism.Packets.RoundTrip

namespace BanchoPrism.Replays

open Library Library.Struct
open Cursor (Reads)

section Export

-- A datetime of whole seconds, in one of the years 1 to 9999 of some time zone: its timestamp()
-- and what %Y-%m-%d makes of it.
structure PlayTime where
  timestamp : Int
  date : String
  lower : -62135683200 ≤ timestamp
  upper : timestamp < 253402387200

-- The texts are ones that Python can hold: the length of a bytes object is below 2 ** 63.
structure ReplayHeader where
  userId : Int
  userPriv : Privileges
  username : String
  mapMd5 : String
  artist : String
  title : String
  version : String
  mode : Int
  n300 : Nat
  n100 : Nat
  n50 : Nat
  ngeki : Nat
  nkatu : Nat
  nmiss : Nat
  score : Nat
  maxCombo : Nat
  perfect : Nat
  mods : Mods
  playTime : PlayTime
  username_size : (encode username).length < 2 ^ 63
  mapMd5_size : (encode mapMd5).length < 2 ^ 63

structure FullReplay where
  data : List UInt8
  filename : String

inductive Raised
  | valueError
  | structError
  deriving DecidableEq

-- hashlib.md5(data).hexdigest() beside what the parser takes.
structure Host (φ : Type) extends Builtins φ where
  md5 : List UInt8 → String
  md5_size : ∀ data, (encode (md5 data)).length = 32

-- The directory of the replays and fetch_replay_header.
structure ReplayService where
  replays : Nat → Option (List UInt8)
  headers : Nat → Option ReplayHeader

def datetimeOffset : Int := 0x89F7FF5F7B58000

-- int(play_time.timestamp() * 1e7), a product of two floats.
def PlayTime.ticks (time : PlayTime) : Int := nearestFloat (time.timestamp * 10 ^ 7)

namespace ReplayHeader

-- The text that replay_md5 is the hash of.
def checksumText (row : ReplayHeader) : String :=
  toString (row.n100 + row.n300) ++ "p" ++ toString row.n50 ++ "o" ++ toString row.ngeki ++ "o" ++
    toString row.nkatu ++ "t" ++ toString row.nmiss ++ "a" ++ row.mapMd5 ++ "r" ++
    toString row.maxCombo ++ "e" ++ (if row.perfect = 1 then "True" else "False") ++ "y" ++
    row.username ++ "o" ++ toString row.score ++ "u" ++ "0" ++ toString row.mods ++ "True"

-- The fields of the format <hhhhhhihBi.
def results (row : ReplayHeader) : List (Struct.Code × Int) :=
  [(.h, row.n300), (.h, row.n100), (.h, row.n50), (.h, row.ngeki), (.h, row.nkatu),
    (.h, row.nmiss), (.i, row.score), (.h, row.maxCombo), (.B, row.perfect), (.i, row.mods)]

def filename (row : ReplayHeader) : String :=
  row.username ++ " - " ++ row.artist ++ " - " ++ row.title ++ " [" ++ row.version ++ "] (" ++
    row.playTime.date ++ ").osr"

end ReplayHeader

variable {φ : Type}

namespace Host

def replayMd5 (host : Host φ) (row : ReplayHeader) : String := host.md5 (encode row.checksumText)

-- replay_data of build_full_replay.
def replayData (host : Host φ) (scoreId : Nat) (row : ReplayHeader) (raw : List UInt8) :
    Except Raised (List UInt8) := do
  match GameMode.ofValue row.mode with
  | none => .error .valueError
  | some mode =>
    let opening ← Struct.pack .structError [(.B, mode.asVanilla), (.i, 20200207)]
    let results ← Struct.pack .structError row.results
    let timestamp ← Struct.pack .structError [(.q, row.playTime.ticks + datetimeOffset)]
    let length ← Struct.pack .structError [(.i, raw.length)]
    let onlineScoreId ← Struct.pack .structError [(.q, scoreId)]
    return opening ++ writeString row.mapMd5 ++ writeString row.username ++
      writeString (host.replayMd5 row) ++ results ++ [0x00] ++ timestamp ++ length ++ raw ++
      onlineScoreId

def buildFullReplay (host : Host φ) (service : ReplayService) (scoreId : Nat)
    (viewer : Option PlayerIdentity) : Except Raised (Option FullReplay) := do
  match service.replays scoreId with
  | none => return none
  | some raw =>
    match service.headers scoreId with
    | none => return none
    | some row =>
      if canViewPlayer viewer row.userId row.userPriv then
        let data ← host.replayData scoreId row raw
        return some { data := data, filename := row.filename }
      else return none

end Host

end Export

section Numbers

variable {total : Nat} {what : String}

theorem reads_readBytes (raw : List UInt8) : Reads (readBytes total raw.length what) raw raw := by
  intro rest
  have hdemand : demand total raw.length what (raw ++ rest) = (.ok (), raw ++ rest) := by
    unfold demand
    rw [List.length_append, if_neg (by omega)]
  exact (Prog.bind_run_ok hdemand).trans (Reads.take raw rest)

theorem reads_readBytes_code (code : Code) (v : Int) :
    Reads (readBytes total code.size what) (code.bytes v) (code.bytes v) := by
  have hread := @reads_readBytes total what (code.bytes v)
  rwa [length_bytes] at hread

theorem reads_unpackUnsigned {code : Code} {n : Nat} (h : code.Takes n) :
    Reads (unpackUnsigned total code.size what) (code.bytes n) n := by
  apply (reads_readBytes_code code n).map
  rw [ofBytes_bytes h]
  exact Reads.pure n

theorem reads_readByte {n : Nat} (h : Code.B.Takes n) :
    Reads (readByte total what) (Code.B.bytes n) n := reads_unpackUnsigned h

theorem reads_readInt16 {n : Nat} (h : Code.h.Takes n) :
    Reads (readInt16 total what) (Code.h.bytes n) n := reads_unpackUnsigned h

theorem reads_readInt32 {n : Nat} (h : Code.i.Takes n) :
    Reads (readInt32 total what) (Code.i.bytes n) n := reads_unpackUnsigned h

theorem reads_readInt64 {v : Int} (h : Code.q.Takes v) :
    Reads (readInt64 total what) (Code.q.bytes v) v := by
  apply (reads_readBytes_code .q v).map
  have hvalue : LittleEndian.ofBytesSigned (Code.q.bytes v) = v :=
    LittleEndian.ofBytesSigned_toBytesSigned h.1 h.2
  rw [hvalue]
  exact Reads.pure v

end Numbers

section Strings

variable {total : Nat} {what : String}

-- By strong induction on the number that is left. As long as all of it is below 2 ** 64 no group
-- that is not the last one stands at the shift 63.
theorem readUleb128_writeGroups (num : Nat) (hnum : num ≠ 0) (length shift : Nat)
    (hbound : num * 2 ^ shift < 2 ^ 64) (rest : List UInt8) :
    readUleb128 total what length shift (writeGroups num ++ rest) =
      (.ok (length ||| num <<< shift), rest) := by
  induction num using Nat.strongRecOn generalizing length shift with
  | ind num ih =>
    have hlow : num &&& 0x7F < 128 := Nat.lt_of_le_of_lt Nat.and_le_right (by decide)
    rw [writeGroups, if_neg hnum]
    by_cases hleft : num >>> 7 = 0
    · obtain ⟨hvalue, hlast⟩ := last_group _ hlow
      have hnil : writeGroups 0 = [] := by
        rw [writeGroups, if_pos rfl]
      have hall : (num &&& 0x7F) <<< shift = num <<< shift := by
        have hsplit := low_or_left num shift
        rwa [hleft, Nat.zero_shiftLeft, Nat.or_zero] at hsplit
      simp only [hnil, hleft, ne_eq, not_true_eq_false, if_false, List.cons_append,
        List.nil_append, readUleb128, UInt8.toNat_ofNat', hvalue, hlast, if_true, hall]
    · obtain ⟨hvalue, hmore⟩ := marked_group _ hlow
      have hdiv : num >>> 7 = num / 128 := by
        rw [Nat.shiftRight_eq_div_pow]
      have hsmaller : num >>> 7 < num := by omega
      have hpow : 2 ^ (shift + 7) = 128 * 2 ^ shift := by
        rw [Nat.pow_add, Nat.mul_comm]
      have hrest : (num >>> 7) * 2 ^ (shift + 7) ≤ num * 2 ^ shift := by
        rw [hpow, ← Nat.mul_assoc, hdiv]
        exact Nat.mul_le_mul_right _ (Nat.div_mul_le_self num 128)
      have hgroup : 2 ^ (shift + 7) ≤ num * 2 ^ shift := by
        calc 2 ^ (shift + 7) = 1 * 2 ^ (shift + 7) := (Nat.one_mul _).symm
          _ ≤ (num >>> 7) * 2 ^ (shift + 7) := Nat.mul_le_mul_right _ (by omega)
          _ ≤ num * 2 ^ shift := hrest
      have hshift : ¬63 < shift + 7 := by
        intro hlarge
        have hpast : 2 ^ 64 ≤ 2 ^ (shift + 7) := Nat.pow_le_pow_right (by decide) hlarge
        omega
      simp only [hleft, ne_eq, not_false_eq_true, if_true, List.cons_append, readUleb128,
        UInt8.toNat_ofNat', hvalue, hmore, if_false, hshift]
      rw [ih _ hsmaller hleft _ _ (by omega), Nat.or_assoc, low_or_left]

theorem reads_readUleb128 {num : Nat} (h : num < 2 ^ 64) :
    Reads (readUleb128 total what 0 0) (writeUleb128 num) num := by
  intro rest
  unfold writeUleb128
  by_cases hnum : num = 0
  · subst hnum
    rfl
  · rw [if_neg hnum, readUleb128_writeGroups num hnum 0 0 (by omega), Nat.zero_or,
      Nat.shiftLeft_zero]

variable {φ : Type} (builtins : Builtins φ)

theorem decode_encode (s : String) : builtins.decode (encode s) = s := by
  have hbytes : (⟨(encode s).toArray⟩ : ByteArray) = s.toByteArray := by
    simp [encode]
  unfold Builtins.decode String.fromUTF8?
  rw [hbytes, dif_pos s.isValidUTF8]
  rfl

theorem reads_readString {s : String} (h : (encode s).length < 2 ^ 63) :
    Reads (builtins.readString total what) (writeString s) s := by
  intro rest
  unfold writeString
  by_cases hs : s = ""
  · subst hs
    rfl
  · rw [if_neg hs, List.cons_append, List.append_assoc]
    have hflag : readByte total (what ++ " string flag")
        (0x0B :: (writeUleb128 (encode s).length ++ (encode s ++ rest))) =
          (.ok 0x0B, writeUleb128 (encode s).length ++ (encode s ++ rest)) :=
      @reads_unpackUnsigned total _ .B 0x0B (by decide) _
    refine (Prog.bind_run_ok hflag).trans ?_
    rw [if_neg (by decide), if_neg (by decide)]
    refine (Prog.bind_run_ok (reads_readUleb128 (by omega) _)).trans ?_
    refine (Prog.bind_run_ok (reads_readBytes (encode s) rest)).trans ?_
    rw [decode_encode]
    rfl

end Strings

-- The ticks are the ten millionths of a second of the timestamp, all of them.
def PlayTime.Exact (time : PlayTime) : Prop :=
  spacing (time.timestamp * 10 ^ 7) ∣ time.timestamp * 10 ^ 7

-- What struct.pack takes of a replay: none of the results needs the sign bit of its format.
structure ReplayHeader.Fits (row : ReplayHeader) (scoreId : Nat) (raw : List UInt8) : Prop where
  mode : (GameMode.ofValue row.mode).isSome
  counts : ∀ n ∈ [row.n300, row.n100, row.n50, row.ngeki, row.nkatu, row.nmiss, row.maxCombo],
    n < 2 ^ 15
  score : row.score < 2 ^ 31
  perfect : row.perfect < 2 ^ 8
  mods : row.mods < 2 ^ 31
  length : raw.length < 2 ^ 31
  scoreId : scoreId < 2 ^ 63

-- A bare replay with the header that the row has for it, and the ticks of its timestamp.
def ReplayHeader.fill {φ : Type} (row : ReplayHeader) (replayMd5 : String) (scoreId : Nat)
    (ticks : Int) (bare : Replay φ) : Replay φ :=
  { bare with
    version := 20200207
    beatmapMd5 := row.mapMd5
    playerName := row.username
    replayMd5 := replayMd5
    n300 := row.n300
    n100 := row.n100
    n50 := row.n50
    ngeki := row.ngeki
    nkatu := row.nkatu
    nmiss := row.nmiss
    score := row.score
    maxCombo := row.maxCombo
    perfect := row.perfect = 1
    mods := row.mods
    timestamp := ticks + datetimeOffset
    onlineScoreId := scoreId }

-- Whoever may see the replay is given data that parse_osr reads as the raw block under the header
-- of the row, and does not read where the raw block is not read.
def RoundTrips {φ : Type} (host : Host φ) (scoreId : Nat) (row : ReplayHeader)
    (raw : List UInt8) : Prop :=
  ∀ (service : ReplayService) (viewer : Option PlayerIdentity),
    service.replays scoreId = some raw → service.headers scoreId = some row →
      canViewPlayer viewer row.userId row.userPriv →
        ∃ mode replay, GameMode.ofValue row.mode = some mode ∧
          host.buildFullReplay service scoreId viewer = .ok (some replay) ∧
            host.parseOsr replay.data = (host.parseReplayFrameData raw mode.asVanilla).map
              (row.fill (host.replayMd5 row) scoreId (row.playTime.timestamp * 10 ^ 7))

section Exports

variable {φ : Type} {host : Host φ} {scoreId : Nat} {row : ReplayHeader} {raw data : List UInt8}

theorem takes_h {n : Nat} : Code.h.Takes n ↔ n < 2 ^ 15 := by
  simp only [Code.Takes, Code.size]
  omega

theorem takes_i {n : Nat} : Code.i.Takes n ↔ n < 2 ^ 31 := by
  simp only [Code.Takes, Code.size]
  omega

theorem takes_q {n : Nat} : Code.q.Takes n ↔ n < 2 ^ 63 := by
  simp only [Code.Takes, Code.size]
  omega

theorem takes_B {n : Nat} : Code.B.Takes n ↔ n < 2 ^ 8 := by
  simp only [Code.Takes]
  omega

theorem takes_asVanilla (mode : GameMode) : Code.B.Takes mode.asVanilla := by
  apply takes_B.mpr
  unfold GameMode.asVanilla
  omega

-- A datetime is far from the ends of the ticks.
theorem takes_timestamp (time : PlayTime) : Code.q.Takes (time.ticks + datetimeOffset) := by
  have hlower := time.lower
  have hupper := time.upper
  have hnear := @nearestFloat_bounds (time.timestamp * 10 ^ 7)
  have hspacing : spacing (time.timestamp * 10 ^ 7) ≤ 2 ^ 9 := spacing_le (by omega)
  simp only [Code.Takes, Code.size, PlayTime.ticks, datetimeOffset]
  omega

theorem results_takes_iff :
    (∀ f ∈ row.results, f.1.Takes f.2) ↔
      (∀ n ∈ [row.n300, row.n100, row.n50, row.ngeki, row.nkatu, row.nmiss, row.maxCombo],
        n < 2 ^ 15) ∧ row.score < 2 ^ 31 ∧ row.perfect < 2 ^ 8 ∧ row.mods < 2 ^ 31 := by
  simp only [ReplayHeader.results, List.forall_mem_cons, takes_h, takes_i, takes_B]
  tauto

-- The bytes of a replay that struct.pack takes.
def Host.bytes (host : Host φ) (scoreId : Nat) (row : ReplayHeader) (raw : List UInt8)
    (mode : GameMode) : List UInt8 :=
  Code.B.bytes mode.asVanilla ++ Code.i.bytes 20200207 ++ writeString row.mapMd5 ++
    writeString row.username ++ writeString (host.replayMd5 row) ++
    (row.results.flatMap fun f => f.1.bytes f.2) ++ [0x00] ++
    Code.q.bytes (row.playTime.ticks + datetimeOffset) ++ Code.i.bytes raw.length ++ raw ++
    Code.q.bytes scoreId

theorem pack_one {code : Code} {v : Int} (h : code.Takes v) :
    pack Raised.structError [(code, v)] = .ok (code.bytes v) := by
  rw [pack_of_takes fun f hf => List.mem_singleton.mp hf ▸ h, List.flatMap_singleton]

theorem takes_of_pack_one {code : Code} {v : Int} {bytes : List UInt8}
    (h : pack Raised.structError [(code, v)] = .ok bytes) : code.Takes v :=
  takes_of_pack h (code, v) List.mem_cons_self

theorem replayData_of_fits {mode : GameMode} (h : row.Fits scoreId raw)
    (hmode : GameMode.ofValue row.mode = some mode) :
    host.replayData scoreId row raw = .ok (host.bytes scoreId row raw mode) := by
  have hopening : ∀ f ∈ [(Code.B, (mode.asVanilla : Int)), (Code.i, 20200207)], f.1.Takes f.2 := by
    simp only [List.forall_mem_cons, takes_asVanilla mode, true_and]
    exact ⟨by decide, nofun⟩
  have hresults := results_takes_iff.mpr ⟨h.counts, h.score, h.perfect, h.mods⟩
  unfold Host.replayData
  rw [hmode]
  dsimp only
  rw [pack_of_takes hopening, pack_of_takes hresults, pack_one (takes_timestamp row.playTime),
    pack_one (takes_i.mpr h.length), pack_one (takes_q.mpr h.scoreId)]
  simp only [bind, Except.bind, pure, Except.pure, Host.bytes, List.flatMap_cons, List.flatMap_nil,
    List.append_nil]

theorem fits_of_replayData (h : host.replayData scoreId row raw = .ok data) :
    row.Fits scoreId raw := by
  unfold Host.replayData at h
  cases hmode : GameMode.ofValue row.mode with
  | none =>
    rw [hmode] at h
    cases h
  | some mode =>
    rw [hmode] at h
    obtain ⟨opening, -, h⟩ := of_bind_ok h
    obtain ⟨results, hresults, h⟩ := of_bind_ok h
    obtain ⟨timestamp, -, h⟩ := of_bind_ok h
    obtain ⟨length, hlength, h⟩ := of_bind_ok h
    obtain ⟨onlineScoreId, hscoreId, -⟩ := of_bind_ok h
    obtain ⟨hcounts, hscore, hperfect, hmods⟩ := results_takes_iff.mp (takes_of_pack hresults)
    exact
      { mode := Option.isSome_of_eq_some hmode
        counts := hcounts
        score := hscore
        perfect := hperfect
        mods := hmods
        length := takes_i.mp (takes_of_pack_one hlength)
        scoreId := takes_q.mp (takes_of_pack_one hscoreId) }

-- Field by field, in the order of the bytes.
theorem parseOsr_bytes {mode : GameMode} (h : row.Fits scoreId raw) :
    host.parseOsr (host.bytes scoreId row raw mode) =
      (host.parseReplayFrameData raw mode.asVanilla).map
        (row.fill (host.replayMd5 row) scoreId row.playTime.ticks) := by
  have hcounts := h.counts
  simp only [List.forall_mem_cons, ← takes_h] at hcounts
  obtain ⟨hn300, hn100, hn50, hngeki, hnkatu, hnmiss, hmaxCombo, -⟩ := hcounts
  have hmd5 : (encode (host.replayMd5 row)).length < 2 ^ 63 := by
    rw [Host.replayMd5, host.md5_size]
    decide
  have hversion : ∀ total what, Reads (readInt32 total what) (Code.i.bytes 20200207) 20200207 :=
    fun total what => @reads_readInt32 total what 20200207 (by decide)
  have hempty : ∀ total what, Reads (host.readString total what) [0x00] "" := fun _ _ _ => rfl
  have hscoreId := fun total what => @reads_readInt64 total what scoreId (takes_q.mpr h.scoreId) []
  simp only [List.append_nil] at hscoreId
  have hleft : 8 ≤ (Code.q.bytes scoreId).length := Nat.le_of_eq (length_bytes .q scoreId).symm
  unfold Builtins.parseOsr
  generalize (host.bytes scoreId row raw mode).length = total
  unfold Host.bytes Builtins.readOsr
  simp only [ReplayHeader.results, List.flatMap_cons, List.flatMap_nil, List.append_nil,
    List.append_assoc]
  rw [Prog.bind_run_ok (reads_readByte (takes_asVanilla mode) _),
    Prog.bind_run_ok (hversion _ _ _),
    Prog.bind_run_ok (reads_readString host.toBuiltins row.mapMd5_size _),
    Prog.bind_run_ok (reads_readString host.toBuiltins row.username_size _),
    Prog.bind_run_ok (reads_readString host.toBuiltins hmd5 _),
    Prog.bind_run_ok (reads_readInt16 hn300 _), Prog.bind_run_ok (reads_readInt16 hn100 _),
    Prog.bind_run_ok (reads_readInt16 hn50 _), Prog.bind_run_ok (reads_readInt16 hngeki _),
    Prog.bind_run_ok (reads_readInt16 hnkatu _), Prog.bind_run_ok (reads_readInt16 hnmiss _),
    Prog.bind_run_ok (reads_readInt32 (takes_i.mpr h.score) _),
    Prog.bind_run_ok (reads_readInt16 hmaxCombo _),
    Prog.bind_run_ok (reads_readByte (takes_B.mpr h.perfect) _),
    Prog.bind_run_ok (reads_readInt32 (takes_i.mpr h.mods) _),
    Prog.bind_run_ok (hempty _ _ _),
    Prog.bind_run_ok (reads_readInt64 (takes_timestamp row.playTime) _),
    Prog.bind_run_ok (reads_readInt32 (takes_i.mpr h.length) _),
    Prog.bind_run_ok (reads_readBytes raw _), Prog.read_bind_run,
    if_pos hleft, Prog.bind_run_ok (hscoreId _ _)]
  unfold Builtins.parseReplayFrameData
  cases host.decodeReplayFrames raw with
  | error e => rfl
  | ok decoded => rfl

theorem buildFullReplay_of_visible {service : ReplayService} {viewer : Option PlayerIdentity}
    (hraw : service.replays scoreId = some raw) (hrow : service.headers scoreId = some row)
    (hview : canViewPlayer viewer row.userId row.userPriv) :
    host.buildFullReplay service scoreId viewer =
      (host.replayData scoreId row raw).map fun data =>
        some { data := data, filename := row.filename } := by
  unfold Host.buildFullReplay
  simp only [hraw, hrow, hview, if_true]
  cases host.replayData scoreId row raw with
  | error e => rfl
  | ok data => rfl

-- The player has access to its own replay.
theorem RoundTrips.own (h : RoundTrips host scoreId row raw) :
    ∃ mode data, GameMode.ofValue row.mode = some mode ∧
      host.replayData scoreId row raw = .ok data ∧
        host.parseOsr data = (host.parseReplayFrameData raw mode.asVanilla).map
          (row.fill (host.replayMd5 row) scoreId (row.playTime.timestamp * 10 ^ 7)) := by
  let service : ReplayService := { replays := fun _ => some raw, headers := fun _ => some row }
  have hown : canViewPlayer (some { id := row.userId, priv := 0 }) row.userId row.userPriv := by
    simp [canViewPlayer]
  obtain ⟨mode, replay, hmode, hbuild, hparse⟩ := h service _ rfl rfl hown
  rw [buildFullReplay_of_visible rfl rfl hown] at hbuild
  obtain ⟨data, hdata, hreplay⟩ := of_map_ok hbuild
  rw [← Option.some.inj hreplay] at hparse
  exact ⟨mode, data, hmode, hdata, hparse⟩

theorem RoundTrips.fits (h : RoundTrips host scoreId row raw) : row.Fits scoreId raw := by
  obtain ⟨mode, data, -, hdata, -⟩ := h.own
  exact fits_of_replayData hdata

-- Where the raw block is read, so is the timestamp.
theorem RoundTrips.exact (h : RoundTrips host scoreId row raw)
    {decoded : List (ReplayFrame φ) × Option Int}
    (hdecoded : host.decodeReplayFrames raw = .ok decoded) : row.playTime.Exact := by
  obtain ⟨mode, data, hmode, hdata, hparse⟩ := h.own
  rw [replayData_of_fits h.fits hmode] at hdata
  rw [← Except.ok.inj hdata, parseOsr_bytes h.fits, Builtins.parseReplayFrameData,
    hdecoded] at hparse
  have hsame := congrArg Replay.timestamp (Except.ok.inj hparse)
  have hticks : row.playTime.ticks = row.playTime.timestamp * 10 ^ 7 := by
    change row.playTime.ticks + datetimeOffset =
      row.playTime.timestamp * 10 ^ 7 + datetimeOffset at hsame
    omega
  exact nearestFloat_eq_self_iff.mp hticks

-- The export of a row is read back just where struct.pack takes it, and the ticks of its timestamp
-- are exact if the raw block is read at all.
theorem osrRoundTrips_iff (host : Host φ) (scoreId : Nat) (row : ReplayHeader) (raw : List UInt8) :
    RoundTrips host scoreId row raw ↔
      row.Fits scoreId raw ∧
        ((∃ decoded, host.decodeReplayFrames raw = .ok decoded) → row.playTime.Exact) := by
  constructor
  · intro h
    exact ⟨h.fits, fun ⟨_, hdecoded⟩ => h.exact hdecoded⟩
  · rintro ⟨hfits, hexact⟩ service viewer hraw hrow hview
    obtain ⟨mode, hmode⟩ := Option.isSome_iff_exists.mp hfits.mode
    have hbuild := @buildFullReplay_of_visible _ host _ _ _ service viewer hraw hrow hview
    rw [replayData_of_fits hfits hmode] at hbuild
    refine ⟨mode, _, hmode, hbuild, ?_⟩
    rw [parseOsr_bytes hfits]
    unfold Builtins.parseReplayFrameData
    cases hdecoded : host.decodeReplayFrames raw with
    | error e => rfl
    | ok decoded =>
      have hticks : row.playTime.ticks = row.playTime.timestamp * 10 ^ 7 :=
        nearestFloat_eq_self_iff.mpr (hexact ⟨decoded, hdecoded⟩)
      rw [hticks]

end Exports

-- A row of the scores table, with the counts, the combo and the score in the unsigned ranges of
-- the format.
structure ReplayHeader.Held (row : ReplayHeader) : Prop where
  mode : (GameMode.ofValue row.mode).isSome
  counts : ∀ n ∈ [row.n300, row.n100, row.n50, row.ngeki, row.nkatu, row.nmiss, row.maxCombo],
    n < 2 ^ 16
  score : row.score < 2 ^ 31
  perfect : row.perfect < 2
  mods : row.mods < 2 ^ 31

-- A perfect play of a map with 40000 circles, and its one frame as LZMA packs it.
def manyCircles : ReplayHeader where
  userId := 3
  userPriv := 3
  username := "player"
  mapMd5 := "cfc1fd49004a6397f82d4b135b7407d1"
  artist := "artist"
  title := "title"
  version := "Hard"
  mode := 0
  n300 := 40000
  n100 := 0
  n50 := 0
  ngeki := 0
  nkatu := 0
  nmiss := 0
  score := 1000000
  maxCombo := 40000
  perfect := 1
  mods := 0
  playTime :=
    { timestamp := 1704067200
      date := "2024-01-01"
      lower := by decide
      upper := by decide }
  username_size := by decide
  mapMd5_size := by decide

def oneFrame : List UInt8 :=
  [93, 0, 0, 128, 0, 255, 255, 255, 255, 255, 255, 255, 255, 0, 24, 31, 2, 67, 81, 3, 180, 0, 85, 87,
    216, 83, 176, 85, 14, 255, 255, 252, 210, 160, 0]

-- The values of Python's functions on what this replay gives them.
def circlesHost : Host Int where
  int text := if text = ['0'] then some 0 else none
  float text :=
    if text = "256".toList then some 256 else if text = "-500".toList then some (-500) else none
  decompress _ := .ok (encode "0|256|-500|0")
  replaceInvalid _ := ""
  md5 _ := "1c71bb4259afa698ba34e6af7019641a"
  md5_size _ := by decide

-- The hits are packed as a signed number, though they are read as an unsigned one.
theorem not_roundTrips_manyCircles :
    ¬∀ (host : Host Int) (scoreId : Nat) (row : ReplayHeader) (raw : List UInt8),
      row.Held → scoreId < 2 ^ 63 → raw.length < 2 ^ 31 → RoundTrips host scoreId row raw := by
  intro h
  have hheld : manyCircles.Held := by
    constructor <;> decide
  have hround := h circlesHost 1 manyCircles oneFrame hheld (by decide) (by decide)
  have hcount : 40000 < 2 ^ 15 := hround.fits.counts 40000 List.mem_cons_self
  omega

end BanchoPrism.Replays
