import BanchoPrism.Multiplayer.Plays
import BanchoPrism.Packets.Framing

namespace BanchoPrism

open Library Prog

section Bytes

-- b"0\x00\x00", then len(play_data) in four bytes
def scoreHeader (length : Nat) : List UInt8 := [0x30, 0, 0] ++ LittleEndian.toBytes 4 length

-- The buffer of MatchScoreUpdate, with slot_id written over buf[11].
def scoreUpdateBytes (playData : List UInt8) (slotId : Fin 16) : Except PyError (List UInt8) :=
  if 2 ^ 32 ≤ playData.length then .error .overflow
  else
    let buf := scoreHeader playData.length ++ playData
    if buf.length ≤ 11 then .error .index else .ok (buf.set 11 (UInt8.ofNat slotId))

-- The packet the buffer is meant to be.
def scorePacket (received : RawPacket) (slotId : Fin 16) : RawPacket where
  id := 48
  pad := 0
  body := received.body.set 4 (UInt8.ofNat slotId)
  fits := by
    rw [List.length_set]
    exact received.fits

theorem scoreHeader_length (length : Nat) : (scoreHeader length).length = 7 := by
  simp [scoreHeader]

theorem scorePacket_wire (received : RawPacket) (slotId : Fin 16) :
    (scorePacket received slotId).wire =
      scoreHeader received.body.length ++ received.body.set 4 (UInt8.ofNat slotId) := by
  have hid : LittleEndian.toBytes 2 (48 : UInt16).toNat = [0x30, 0] := by decide
  unfold RawPacket.wire scorePacket scoreHeader
  rw [List.length_set, hid]
  rfl

-- The header has seven bytes, so that buf[11] is the byte of the body at offset 4.
theorem scoreUpdateBytes_eq (received : RawPacket) (slotId : Fin 16) :
    scoreUpdateBytes received.body slotId =
      if received.body.length < 5 then .error .index
      else .ok (scorePacket received slotId).wire := by
  have hheader := scoreHeader_length received.body.length
  have hshort : (scoreHeader received.body.length ++ received.body).length ≤ 11 ↔
      received.body.length < 5 := by
    rw [List.length_append, hheader]
    omega
  have hset : (scoreHeader received.body.length ++ received.body).set 11 (UInt8.ofNat slotId) =
      (scorePacket received slotId).wire := by
    rw [scorePacket_wire, List.set_append_right _ _ (by omega), hheader]
  unfold scoreUpdateBytes
  rw [if_neg (not_le.mpr received.fits)]
  simp only [hshort, hset]

end Bytes

section Rebroadcasts

theorem enqueueAll_sent (s : Server) (ps : List PlayerRef) (packet : ServerPacket) :
    (s.enqueueAll ps packet).sent =
      s.sent ++ (ps.filter fun p => !(s.player p).isBotClient).map fun p => (p, packet) := by
  unfold Server.enqueueAll
  induction ps generalizing s with
  | nil => simp
  | cons p rest ih =>
    have hplayer : (s.enqueue p packet).player = s.player := by
      unfold Server.enqueue
      split <;> rfl
    rw [List.foldl_cons, ih, hplayer]
    cases hbot : (s.player p).isBotClient <;> simp [Server.enqueue, hbot]

-- Who a packet of the match goes to: the members of its chat, less the bot.
def Server.told (s : Server) (r : MatchRef) : List PlayerRef :=
  (s.channel (s.matchAt r).chat).players.filter fun q => !(s.player q).isBotClient

-- What MATCH_SCORE_UPDATE is for: the handler returns, and when the sender is in
-- a match, everyone there is sent one packet, well formed, of the received body
-- with the sender's slot index at offset 4.
structure Rebroadcast (s : Server) (p : PlayerRef) (received : RawPacket) : Prop where
  returns : (matchScoreUpdate p received.body s).1 = .ok ()
  outside : (s.player p).matchRef = none → (matchScoreUpdate p received.body s).2 = s
  inside : ∀ r, (s.player p).matchRef = some r → ∃ i,
    ((s.matchAt r).slots i).player = some p ∧
    scoreUpdateBytes received.body i = .ok (scorePacket received i).wire ∧
    (matchScoreUpdate p received.body s).2.sent =
      s.sent ++ (s.told r).map fun q => (q, .matchScoreUpdate i (scorePacket received i).body)

variable {s : Server} {p : PlayerRef} {r : MatchRef} {i : Fin 16}

theorem enqueueMatch_run (s : Server) (r : MatchRef) (packet : ServerPacket) :
    (enqueueMatch r packet false [] s).1 = .ok () ∧
      (enqueueMatch r packet false [] s).2.sent =
        s.sent ++ (s.told r).map fun q => (q, packet) := by
  have hrun : enqueueMatch r packet false [] s =
      (.ok (), s.enqueueAll (s.channel (s.matchAt r).chat).players packet) := by
    unfold enqueueMatch
    rw [read_bind_run]
    simp only [List.contains_nil, Bool.not_false, List.filter_true]
    cases s.channelByName "#lobby" <;> rfl
  rw [hrun]
  exact ⟨rfl, enqueueAll_sent _ _ _⟩

-- With the sender in slot i the frame is kept, and then the body has to be long enough.
theorem matchScoreUpdate_run (hr : (s.player p).matchRef = some r)
    (hi : (s.matchAt r).getSlotId p = some i) (playData : List UInt8) :
    matchScoreUpdate p playData s =
      (if playData.length < 5 then Prog.raise .index
        else enqueueMatch r (.matchScoreUpdate i (playData.set 4 (UInt8.ofNat i))) false [])
        (s.modifySlot r i fun slot => { slot with lastScoreFrame := some playData }) := by
  unfold matchScoreUpdate inSlot
  rw [inMatch_run _ hr, read_bind_run]
  simp only [hi]
  rw [updateSlot_bind_run]

theorem told_modifySlot (s : Server) (r : MatchRef) (i : Fin 16) (f : Slot → Slot) :
    (s.modifySlot r i f).told r = s.told r := by
  simp [Server.told, Server.modifySlot, Server.modifyMatch]

theorem rebroadcast_of_none (hr : (s.player p).matchRef = none) (received : RawPacket) :
    Rebroadcast s p received := by
  have hrun : matchScoreUpdate p received.body s = (.ok (), s) := inMatch_run_none _ hr
  exact {
    returns := by rw [hrun]
    outside := fun _ => by rw [hrun]
    inside := fun r h => by
      rw [hr] at h
      cases h }

theorem rebroadcast_of_found (hr : (s.player p).matchRef = some r)
    (hi : (s.matchAt r).getSlotId p = some i) {received : RawPacket}
    (hlong : ¬received.body.length < 5) : Rebroadcast s p received := by
  have hrun := matchScoreUpdate_run hr hi received.body
  rw [if_neg hlong] at hrun
  have henqueue := enqueueMatch_run
    (s.modifySlot r i fun slot => { slot with lastScoreFrame := some received.body }) r
    (.matchScoreUpdate i (received.body.set 4 (UInt8.ofNat i)))
  rw [← hrun, told_modifySlot] at henqueue
  exact {
    returns := henqueue.1
    outside := fun h => by
      rw [hr] at h
      cases h
    inside := fun r' h => by
      cases hr.symm.trans h
      refine ⟨i, getSlotId_player hi, ?_, henqueue.2⟩
      rw [scoreUpdateBytes_eq, if_neg hlong] }

theorem not_returns_of_lost (hr : (s.player p).matchRef = some r)
    (hi : (s.matchAt r).getSlotId p = none) (playData : List UInt8) :
    (matchScoreUpdate p playData s).1 ≠ .ok () := by
  unfold matchScoreUpdate inSlot
  rw [inMatch_run _ hr, read_bind_run]
  simp only [hi]
  exact fun h => by cases h

theorem not_returns_of_short (hr : (s.player p).matchRef = some r) {playData : List UInt8}
    (hshort : playData.length < 5) : (matchScoreUpdate p playData s).1 ≠ .ok () := by
  rcases hi : (s.matchAt r).getSlotId p with _ | i
  · exact not_returns_of_lost hr hi playData
  · rw [matchScoreUpdate_run hr hi, if_pos hshort]
    exact fun h => by cases h

-- In any state, what it takes is a seat to be found and the five bytes that
-- reach up to the slot index.
theorem rebroadcast_iff (s : Server) (p : PlayerRef) (received : RawPacket) :
    Rebroadcast s p received ↔ ∀ r, (s.player p).matchRef = some r →
      (s.matchAt r).getSlotId p ≠ none ∧ 5 ≤ received.body.length := by
  constructor
  · intro h r hr
    constructor
    · exact fun hi => not_returns_of_lost hr hi _ h.returns
    · exact not_lt.mp fun hshort => not_returns_of_short hr hshort h.returns
  · intro h
    rcases hr : (s.player p).matchRef with _ | r
    · exact rebroadcast_of_none hr received
    · obtain ⟨hi, hlong⟩ := h r hr
      obtain ⟨i, hi⟩ := Option.ne_none_iff_exists'.mp hi
      exact rebroadcast_of_found hr hi (not_lt.mpr hlong)

-- Along a run of safe steps a player of a match is found in it, and the length
-- of the body is all that decides.
theorem rebroadcast_of_safe (setup : Setup) (run : List Event) (p : PlayerRef)
    (received : RawPacket) :
    let s := (runFrom World.step setup.start run).server
    (Rebroadcast s p received ↔ ∀ r, (s.player p).matchRef = some r →
      (s.matchAt r).getSlotId p ≠ none ∧ 5 ≤ received.body.length) ∧
    (Guarded World.step (fun w event => event.Safe w) setup.start run →
      (Rebroadcast s p received ↔ (s.player p).matchRef = none ∨ 5 ≤ received.body.length)) := by
  intro s
  refine ⟨rebroadcast_iff s p received, fun h => ?_⟩
  have ho : Orderly s := orderly_of_safe setup h
  rw [rebroadcast_iff]
  constructor
  · intro hall
    rcases hr : (s.player p).matchRef with _ | r
    · exact Or.inl rfl
    · exact Or.inr (hall r hr).2
  · intro hany r hr
    exact ⟨ho.seatsAgree.found p r hr,
      hany.resolve_left fun hnone => by rw [hr] at hnone; cases hnone⟩

-- Player 2 of the match sends a frame of 29 bytes.
theorem rebroadcast_of_safe_twoInAMatch :
    Rebroadcast (runFrom World.step (Setup.start {}) twoInAMatch).server 2
      { id := 47, pad := 0, body := List.replicate 29 7, fits := by decide } :=
  ((rebroadcast_of_safe {} twoInAMatch 2 _).2 (by decide +kernel)).mpr (Or.inr (by decide))

-- The same player sends four bytes: buf[11] is behind the end.
theorem not_rebroadcast :
    ¬Rebroadcast (runFrom World.step (Setup.start {}) twoInAMatch).server 2
      { id := 47, pad := 0, body := [1, 2, 3, 4], fits := by decide } := fun h =>
  not_returns_of_short (r := 0) (by decide +kernel) (by decide) h.returns

end Rebroadcasts

end BanchoPrism
