import BanchoPrism.Packets.Framing

namespace BanchoPrism

open Library

variable {π : Type}

-- A whole iteration from where the reader stands.
def Reader.run (packetMap : PacketMap π) (reader : Reader) : Iteration π :=
  iterate packetMap (reader.bodyView.length + 1) reader

section Run

variable {packetMap : PacketMap π} {reader t : Reader}

theorem run_raised {e : PyError} (h : nextPacket packetMap reader = (.error e, t)) :
    reader.run packetMap = ⟨[], some e, t.bodyView, t.headersAt⟩ := by
  unfold Reader.run iterate
  rw [h]

theorem run_stopped (h : nextPacket packetMap reader = (.ok none, t)) :
    reader.run packetMap = ⟨[], none, t.bodyView, t.headersAt⟩ := by
  unfold Reader.run iterate
  rw [h]

theorem run_packet {packet : π} (h : nextPacket packetMap reader = (.ok (some packet), t)) :
    reader.run packetMap = (t.run packetMap).cons packet := by
  have hlt := nextPacket_some packetMap h
  conv_lhs => unfold Reader.run iterate
  rw [h]
  dsimp only [Reader.run]
  rw [iterate_fuel packetMap hlt (Nat.lt_succ_self _)]

theorem run_congr {reader' : Reader}
    (h : nextPacket packetMap reader = nextPacket packetMap reader') :
    reader.run packetMap = reader'.run packetMap := by
  rcases hn : nextPacket packetMap reader' with ⟨e | _ | packet, t⟩
  · rw [run_raised (h.trans hn), run_raised hn]
  · rw [run_stopped (h.trans hn), run_stopped hn]
  · rw [run_packet (h.trans hn), run_packet hn]

end Run

-- What happens at the first packet of a body, by how its id is mapped.
section FirstPacket

variable {packetMap : PacketMap π} {pType : ClientPackets}
  (p : RawPacket) (rest : List UInt8) (n : Nat) (log : List (List UInt8))

theorem wire_ne_nil : p.wire ++ rest ≠ [] := by
  intro h
  have := congrArg List.length h
  simp [wire_eq_header] at this

theorem readHeader_known (hid : ClientPackets.ofValue p.id.toNat = some pType) :
    readHeader ⟨p.wire ++ rest, n, log⟩ =
      (.ok (pType, p.body.length), ⟨p.body ++ rest, n, log ++ [p.wire ++ rest]⟩) := by
  rw [readHeader_wire, hid]
  rfl

theorem run_unknown (hid : ClientPackets.ofValue p.id.toNat = none) :
    Reader.run packetMap ⟨p.wire ++ rest, n, log⟩ =
      ⟨[], some .value, p.body ++ rest, log ++ [p.wire ++ rest]⟩ := by
  have hne : (Reader.mk (p.wire ++ rest) n log).bodyView ≠ [] := wire_ne_nil p rest
  have hr : readHeader ⟨p.wire ++ rest, n, log⟩ =
      (.error .value, ⟨p.body ++ rest, n, log ++ [p.wire ++ rest]⟩) := by
    rw [readHeader_wire, hid]
    rfl
  have hnext : nextPacket packetMap ⟨p.wire ++ rest, n, log⟩ =
      (.error .value, ⟨p.body ++ rest, n, log ++ [p.wire ++ rest]⟩) := by
    rw [nextPacket_eq packetMap (Nat.lt_succ_self _)]
    exact Prog.bind_run_error (nextHeader_error hne hr)
  exact run_raised hnext

theorem run_unregistered (hid : ClientPackets.ofValue p.id.toNat = some pType)
    (hm : packetMap pType = none) :
    Reader.run packetMap ⟨p.wire ++ rest, n, log⟩ =
      Reader.run packetMap ⟨rest, n, log ++ [p.wire ++ rest]⟩ := by
  have hne : (Reader.mk (p.wire ++ rest) n log).bodyView ≠ [] := wire_ne_nil p rest
  have hr := readHeader_known p rest n log hid
  have hskip : Reader.advance p.body.length ⟨p.body ++ rest, n, log ++ [p.wire ++ rest]⟩ =
      ⟨rest, n, log ++ [p.wire ++ rest]⟩ := by
    simp [Reader.advance]
  have hlen : rest.length < (p.wire ++ rest).length := by
    rw [wire_eq_header]
    simp
    omega
  apply run_congr
  rw [nextPacket_eq packetMap (Nat.lt_succ_self _), nextPacket_eq packetMap hlen, Prog.bind_run,
    Prog.bind_run, nextHeader_skip hne hr hm, hskip]

theorem nextPacket_registered {packetCls : PacketClass π}
    (hid : ClientPackets.ofValue p.id.toNat = some pType)
    (hm : packetMap pType = some packetCls) :
    nextPacket packetMap ⟨p.wire ++ rest, n, log⟩ =
      yieldPacket (some (packetCls, p.body.length))
        ⟨p.body ++ rest, n, log ++ [p.wire ++ rest]⟩ := by
  have hne : (Reader.mk (p.wire ++ rest) n log).bodyView ≠ [] := wire_ne_nil p rest
  have hr := readHeader_known p rest n log hid
  rw [nextPacket_eq packetMap (Nat.lt_succ_self _)]
  exact Prog.bind_run_ok (nextHeader_found hne hr hm)

theorem run_registered_error {packetCls : PacketClass π} {e : PyError} {view : List UInt8}
    (hid : ClientPackets.ofValue p.id.toNat = some pType)
    (hm : packetMap pType = some packetCls)
    (hc : packetCls.construct p.body.length (p.body ++ rest) = (.error e, view)) :
    Reader.run packetMap ⟨p.wire ++ rest, n, log⟩ =
      ⟨[], some e, view, log ++ [p.wire ++ rest]⟩ := by
  have hnext := nextPacket_registered p rest n log hid hm
  rw [yieldPacket_error packetCls p.body.length _ hc] at hnext
  exact run_raised hnext

theorem run_registered_ok {packetCls : PacketClass π} {packet : π} {view : List UInt8}
    (hid : ClientPackets.ofValue p.id.toNat = some pType)
    (hm : packetMap pType = some packetCls)
    (hc : packetCls.construct p.body.length (p.body ++ rest) = (.ok packet, view)) :
    Reader.run packetMap ⟨p.wire ++ rest, n, log⟩ =
      (Reader.run packetMap ⟨view, p.body.length, log ++ [p.wire ++ rest]⟩).cons packet := by
  have hnext := nextPacket_registered p rest n log hid hm
  rw [yieldPacket_ok packetCls p.body.length _ hc] at hnext
  exact run_packet hnext

end FirstPacket

-- The headers noted so far stay, and the next one is where the view stands.
section HeadersAt

def Notes (s t : Reader) : Prop := s.headersAt <+: t.headersAt

instance notes_refl : Std.Refl Notes := ⟨fun _ => List.prefix_rfl⟩

instance notes_trans : IsTrans Reader Notes := ⟨fun _ _ _ h k => h.trans k⟩

def NotesView (s t : Reader) : Prop := s.headersAt ++ [s.bodyView] <+: t.headersAt

theorem NotesView.notes {s t : Reader} (h : NotesView s t) : Notes s t :=
  (List.prefix_append _ _).trans h

variable (packetMap : PacketMap π)

theorem readHeader_notesView : Prog.Within NotesView readHeader := by
  intro reader
  unfold readHeader
  apply Prog.Moves.read_bind
  show NotesView reader _
  have hnote : NotesView reader reader.noteHeader := List.prefix_rfl
  rw [Prog.update_bind_run]
  split
  · exact hnote
  · rw [Prog.update_bind_run]
    cases ClientPackets.ofValue (field (reader.bodyView.take 7) 0 2) <;> exact hnote

theorem Notes.advance (n : Nat) (s : Reader) : Notes s (Reader.advance n s) := List.prefix_rfl

theorem nextHeader_notes (f : Nat) : Prog.Within Notes (nextHeader packetMap f) := by
  induction f with
  | zero => exact Prog.Within.raise PyError.diverges
  | succ f ih =>
      intro reader
      show Notes reader _
      by_cases hne : reader.bodyView = []
      · rw [nextHeader_empty packetMap hne]
        exact refl_of Notes reader
      have hnote := (readHeader_notesView reader).notes
      rcases hr : readHeader reader with ⟨e | header, t⟩
      · rw [hr] at hnote
        rw [nextHeader_error hne hr]
        exact hnote
      rw [hr] at hnote
      rcases hm : packetMap header.1 with _ | packetCls
      · rw [nextHeader_skip hne hr hm]
        exact trans_of Notes hnote (ih (Reader.advance header.2 t))
      · rw [nextHeader_found hne hr hm]
        exact hnote

theorem nextHeader_notesView {f : Nat} {reader : Reader} (hne : reader.bodyView ≠ []) :
    NotesView reader (nextHeader packetMap (f + 1) reader).2 := by
  have hnote : NotesView reader _ := readHeader_notesView reader
  rcases hr : readHeader reader with ⟨e | header, t⟩
  · rw [hr] at hnote
    rw [nextHeader_error hne hr]
    exact hnote
  rw [hr] at hnote
  rcases hm : packetMap header.1 with _ | packetCls
  · rw [nextHeader_skip hne hr hm]
    exact hnote.trans (nextHeader_notes packetMap f (Reader.advance header.2 t))
  · rw [nextHeader_found hne hr hm]
    exact hnote

theorem yieldPacket_notes (found : Option (PacketClass π × Nat)) :
    Prog.Within Notes (yieldPacket found) := by
  intro reader
  show Notes reader _
  rcases found with _ | ⟨packetCls, pLen⟩
  · exact refl_of Notes reader
  rcases hc : packetCls.construct pLen reader.bodyView with ⟨e | packet, view⟩
  · rw [yieldPacket_error packetCls pLen reader hc]
    exact refl_of Notes reader
  · rw [yieldPacket_ok packetCls pLen reader hc]
    exact refl_of Notes reader

theorem nextPacket_notesView {reader : Reader} (hne : reader.bodyView ≠ []) :
    NotesView reader (nextPacket packetMap reader).2 := by
  rw [nextPacket_eq packetMap (Nat.lt_succ_self _), Prog.bind_run]
  have hnote := nextHeader_notesView packetMap (f := reader.bodyView.length) hne
  rcases hr : nextHeader packetMap (reader.bodyView.length + 1) reader with ⟨e | found, t⟩
  · rw [hr] at hnote
    exact hnote
  · rw [hr] at hnote
    exact hnote.trans (yieldPacket_notes found t)

theorem nextPacket_notes : Prog.Within Notes (nextPacket packetMap) := by
  apply Prog.Within.read_bind
  intro reader
  exact (Prog.Within.bind (nextHeader_notes packetMap _) yieldPacket_notes) reader

theorem iterate_notes (f : Nat) (reader : Reader) :
    reader.headersAt <+: (iterate packetMap f reader).headersAt := by
  induction f generalizing reader with
  | zero => exact List.prefix_rfl
  | succ f ih =>
      have hnote : Notes reader _ := nextPacket_notes packetMap reader
      unfold iterate
      rcases hn : nextPacket packetMap reader with ⟨e | _ | packet, t⟩
      · rw [hn] at hnote
        exact hnote
      · rw [hn] at hnote
        exact hnote
      · rw [hn] at hnote
        exact hnote.trans (ih t)

theorem run_notesView {r : Reader} (hne : r.bodyView ≠ []) :
    r.headersAt ++ [r.bodyView] <+: (r.run packetMap).headersAt := by
  have hnote := nextPacket_notesView packetMap hne
  rcases hn : nextPacket packetMap r with ⟨e | _ | packet, t⟩
  · rw [hn] at hnote
    rw [run_raised hn]
    exact hnote
  · rw [hn] at hnote
    rw [run_stopped hn]
    exact hnote
  · rw [hn] at hnote
    rw [run_packet hn]
    exact hnote.trans (iterate_notes packetMap _ t)

end HeadersAt

end BanchoPrism
