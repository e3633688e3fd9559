import BanchoPrism.Packets.Framing.Runs

namespace BanchoPrism

open Library

variable {π : Type}

def Iteration.after (log : List (List UInt8)) (it : Iteration π) : Iteration π :=
  { it with headersAt := log ++ it.headersAt }

section Framed

variable {packetMap : PacketMap π} {p : RawPacket} {ps : List RawPacket}

theorem registered_known {packetCls : PacketClass π}
    (h : registered packetMap p = some packetCls) :
    ∃ pType, ClientPackets.ofValue p.id.toNat = some pType ∧
      packetMap pType = some packetCls := Option.bind_eq_some_iff.mp h

theorem registered_none {pType : ClientPackets}
    (h : registered packetMap p = none) (hid : ClientPackets.ofValue p.id.toNat = some pType) :
    packetMap pType = none := by
  unfold registered at h
  rw [hid] at h
  exact h

theorem framed_skip (h : registered packetMap p = none) :
    framed packetMap (p :: ps) =
      { framed packetMap ps with
        headersAt := wire (p :: ps) :: (framed packetMap ps).headersAt } := by
  conv_lhs => unfold framed
  rw [h]

theorem framed_error {packetCls : PacketClass π} {e : PyError} {left : List UInt8}
    (h : registered packetMap p = some packetCls) (ha : p.alone packetCls = (.error e, left)) :
    framed packetMap (p :: ps) = ⟨[], some e, left ++ wire ps, [wire (p :: ps)]⟩ := by
  unfold framed
  rw [h]
  dsimp only
  rw [ha]

theorem framed_ok {packetCls : PacketClass π} {packet : π} {left : List UInt8}
    (h : registered packetMap p = some packetCls) (ha : p.alone packetCls = (.ok packet, left)) :
    framed packetMap (p :: ps) =
      { packets := packet :: (framed packetMap ps).packets
        raised := (framed packetMap ps).raised
        bodyView := (framed packetMap ps).bodyView
        headersAt := wire (p :: ps) :: (framed packetMap ps).headersAt } := by
  conv_lhs => unfold framed
  rw [h]
  dsimp only
  rw [ha]

theorem framed_headersAt (packetMap : PacketMap π) (p : RawPacket) (ps : List RawPacket) :
    ∃ more, (framed packetMap (p :: ps)).headersAt = wire (p :: ps) :: more := by
  rcases h : registered packetMap p with _ | packetCls
  · exact ⟨_, congrArg Iteration.headersAt (framed_skip h)⟩
  rcases ha : p.alone packetCls with ⟨e | packet, left⟩
  · exact ⟨_, congrArg Iteration.headersAt (framed_error h ha)⟩
  · exact ⟨_, congrArg Iteration.headersAt (framed_ok h ha)⟩

theorem run_nil (n : Nat) (log : List (List UInt8)) :
    Reader.run packetMap ⟨[], n, log⟩ = ⟨[], none, [], log⟩ := by
  have hnext : nextPacket packetMap ⟨[], n, log⟩ = (.ok none, ⟨[], n, log⟩) := by
    rw [nextPacket_eq packetMap (Nat.lt_succ_self _)]
    exact Prog.bind_run_ok (nextHeader_empty packetMap rfl)
  exact run_stopped hnext

-- An iteration that goes the framed way starts at the first packet.
theorem view_of_run_eq {view : List UInt8} {n : Nat} {log : List (List UInt8)}
    (h : Reader.run packetMap ⟨view, n, log⟩ = (framed packetMap ps).after log) :
    view = wire ps := by
  have hlog := congrArg Iteration.headersAt h
  by_cases hne : view = []
  · subst hne
    cases ps with
    | nil => rfl
    | cons p ps =>
        obtain ⟨more, hmore⟩ := framed_headersAt packetMap p ps
        rw [run_nil] at hlog
        simp [Iteration.after, hmore] at hlog
  · have hnote := run_notesView packetMap (r := ⟨view, n, log⟩) hne
    rw [hlog] at hnote
    have hhead : [view] <+: (framed packetMap ps).headersAt :=
      (List.prefix_append_right_inj log).mp hnote
    cases ps with
    | nil => simp [framed] at hhead
    | cons p ps =>
        obtain ⟨more, hmore⟩ := framed_headersAt packetMap p ps
        rw [hmore] at hhead
        simpa using hhead

end Framed

section Theorems

variable {packetMap : PacketMap π}

theorem wellRead_skip {p : RawPacket} {ps : List RawPacket} {pType : ClientPackets}
    (hid : ClientPackets.ofValue p.id.toNat = some pType) (h : registered packetMap p = none) :
    WellRead packetMap (p :: ps) ↔ WellRead packetMap ps := by
  conv_lhs => unfold WellRead
  rw [hid, h]
  simp

theorem wellRead_registered {p : RawPacket} {ps : List RawPacket} {packetCls : PacketClass π}
    (h : registered packetMap p = some packetCls) :
    WellRead packetMap (p :: ps) ↔
      KeepsTo packetCls p (wire ps) ∧
        (∀ packet, (p.alone packetCls).1 = .ok packet → WellRead packetMap ps) := by
  obtain ⟨pType, hid, -⟩ := registered_known h
  conv_lhs => unfold WellRead
  rw [hid, h]
  simp

-- An unknown id ends the iteration where the framed one goes on.
theorem run_unknown_ne_framed {p : RawPacket} {ps : List RawPacket} {n : Nat}
    {log : List (List UInt8)} (hid : ClientPackets.ofValue p.id.toNat = none) :
    Reader.run packetMap ⟨wire (p :: ps), n, log⟩ ≠ (framed packetMap (p :: ps)).after log := by
  intro h
  have hreg : registered packetMap p = none := by
    unfold registered
    rw [hid]
    rfl
  rw [wire_cons, run_unknown p (wire ps) n log hid, framed_skip hreg] at h
  cases ps with
  | nil =>
      have hraised := congrArg Iteration.raised h
      cases hraised
  | cons q ps =>
      obtain ⟨more, hmore⟩ := framed_headersAt packetMap q ps
      have hlog := congrArg Iteration.headersAt h
      simp [Iteration.after, hmore] at hlog

theorem run_error_iff {p : RawPacket} {ps : List RawPacket} {n : Nat}
    {log : List (List UInt8)} {packetCls : PacketClass π} {e : PyError} {left : List UInt8}
    (h : registered packetMap p = some packetCls) (ha : p.alone packetCls = (.error e, left)) :
    Reader.run packetMap ⟨wire (p :: ps), n, log⟩ = (framed packetMap (p :: ps)).after log ↔
      KeepsTo packetCls p (wire ps) := by
  obtain ⟨pType, hid, hm⟩ := registered_known h
  rw [framed_error h ha, KeepsTo, ha, wire_cons]
  rcases hc : packetCls.construct p.body.length (p.body ++ wire ps) with ⟨e' | packet, view⟩
  · rw [run_registered_error p (wire ps) n log hid hm hc]
    simp [Iteration.after]
  · rw [run_registered_ok p (wire ps) n log hid hm hc]
    simp [Iteration.after, Iteration.cons]

-- A constructor that returns on its own bytes keeps the iteration framed when
-- it returns the same thing from the shared view and stops at the next packet.
theorem run_ok_iff {p : RawPacket} {ps : List RawPacket} {n : Nat}
    {log : List (List UInt8)} {packetCls : PacketClass π} {packet : π} {left : List UInt8}
    (h : registered packetMap p = some packetCls) (ha : p.alone packetCls = (.ok packet, left)) :
    Reader.run packetMap ⟨wire (p :: ps), n, log⟩ = (framed packetMap (p :: ps)).after log ↔
      KeepsTo packetCls p (wire ps) ∧
        Reader.run packetMap ⟨wire ps, p.body.length, log ++ [wire (p :: ps)]⟩ =
          (framed packetMap ps).after (log ++ [wire (p :: ps)]) := by
  obtain ⟨pType, hid, hm⟩ := registered_known h
  have hlog : (framed packetMap (p :: ps)).after log =
      ((framed packetMap ps).after (log ++ [wire (p :: ps)])).cons packet := by
    rw [framed_ok h ha]
    simp [Iteration.after, Iteration.cons]
  rw [hlog, KeepsTo, ha, wire_cons]
  dsimp only
  rcases hc : packetCls.construct p.body.length (p.body ++ wire ps) with ⟨e | packet', view⟩
  · rw [run_registered_error p (wire ps) n log hid hm hc]
    constructor
    · intro hrun
      have hpackets := congrArg Iteration.packets hrun
      cases hpackets
    · rintro ⟨hkeeps, -⟩
      cases hkeeps
  · rw [run_registered_ok p (wire ps) n log hid hm hc]
    constructor
    · intro hrun
      have hpackets := congrArg Iteration.packets hrun
      have hpacket : packet' = packet := (List.cons.inj hpackets).1
      subst hpacket
      have hrest : Reader.run packetMap ⟨view, p.body.length, log ++ [p.wire ++ wire ps]⟩ =
          (framed packetMap ps).after (log ++ [p.wire ++ wire ps]) := by
        simpa [Iteration.cons, Iteration.ext_iff] using hrun
      have hview := view_of_run_eq hrest
      subst hview
      exact ⟨rfl, hrest⟩
    · rintro ⟨hkeeps, hrest⟩
      obtain ⟨hpacket, hview⟩ := Prod.mk.inj hkeeps
      rw [hview, hrest, Except.ok.inj hpacket]

theorem run_wire_iff (packetMap : PacketMap π) (ps : List RawPacket) (n : Nat) (log : List (List UInt8)) :
    Reader.run packetMap ⟨wire ps, n, log⟩ = (framed packetMap ps).after log ↔
      WellRead packetMap ps := by
  induction ps generalizing n log with
  | nil =>
      have hrun : Reader.run packetMap ⟨wire [], n, log⟩ = (framed packetMap []).after log := by
        rw [wire, run_nil]
        simp [framed, Iteration.after]
      simp [hrun, WellRead]
  | cons p ps ih =>
      rcases hid : ClientPackets.ofValue p.id.toNat with _ | pType
      · have hbad : ¬ WellRead packetMap (p :: ps) := by
          intro hread
          unfold WellRead at hread
          rw [hid] at hread
          exact absurd hread.1 (by simp)
        exact iff_of_false (run_unknown_ne_framed hid) hbad
      rcases hreg : registered packetMap p with _ | packetCls
      · have hm := registered_none hreg hid
        have hlog : (framed packetMap (p :: ps)).after log =
            (framed packetMap ps).after (log ++ [wire (p :: ps)]) := by
          rw [framed_skip hreg]
          simp [Iteration.after]
        rw [wellRead_skip hid hreg, hlog, wire_cons, run_unregistered p (wire ps) n log hid hm]
        exact ih n (log ++ [p.wire ++ wire ps])
      · rw [wellRead_registered hreg]
        rcases ha : p.alone packetCls with ⟨e | packet, left⟩
        · rw [run_error_iff hreg ha]
          simp
        · rw [run_ok_iff hreg ha, ih]
          simp

-- The reader frames a body exactly when its ids are all known and every class
-- reads all of its packet's bytes and no others.
theorem framed_iff_wellRead (packetMap : PacketMap π) (ps : List RawPacket) :
    Framed packetMap ps ↔ WellRead packetMap ps := by
  have h := run_wire_iff packetMap ps 0 []
  simpa [Framed, readPackets, Reader.run, Iteration.after] using h

-- PING has no fields; a client may still give it a body.
def pingWithBody : RawPacket := ⟨4, 0, [0, 0, 0, 0], by decide⟩

def unknownPacket : RawPacket := ⟨5, 0, [], by decide⟩

-- LOGOUT reads a reserved i32, of which only half is here.
def shortLogout : RawPacket := ⟨2, 0, [0, 0], by decide⟩

-- The four bytes of the first are taken for a header, the second is no member
-- of the enumeration, and the third reads into the packet behind it.
theorem framed_pingWithBody :
    ¬ Framed packets.all [pingWithBody] ∧ ¬ Framed packets.all [unknownPacket] ∧
      ¬ Framed packets.all [shortLogout, pingWithBody] := by
  have differ : ∀ {ps : List RawPacket},
      (readPackets packets.all (wire ps)).raised ≠ (framed packets.all ps).raised →
        ¬ Framed packets.all ps :=
    fun hne h => hne (congrArg Iteration.raised h)
  refine ⟨differ ?_, differ ?_, differ ?_⟩
  · decide
  · decide
  · decide

end Theorems

end BanchoPrism
