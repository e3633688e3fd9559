import BanchoPrism.Packets.Client

namespace BanchoPrism

open Library

-- headersAt is not in the code: it notes the view at every header read.
structure Reader where
  bodyView : List UInt8
  currentLen : Nat := 0
  headersAt : List (List UInt8) := []

namespace Reader

def advance (n : Nat) (reader : Reader) : Reader :=
  { reader with bodyView := reader.bodyView.drop n }

def noteHeader (reader : Reader) : Reader :=
  { reader with headersAt := reader.headersAt ++ [reader.bodyView] }

end Reader

-- _read_header: struct.unpack("<HxI", view[:7]), then the enumeration
def readHeader : Prog Reader PyError (ClientPackets × Nat) := do
  let reader ← Prog.read
  let data := reader.bodyView.take 7
  Prog.update Reader.noteHeader
  if data.length < 7 then Prog.raise .struct
  else
    Prog.update (Reader.advance 7)
    let pType ← Prog.lift (ofOption .value (ClientPackets.ofValue (field data 0 2)))
    return (pType, field data 3 4)

variable {π : Type}

-- The while loop of __next__; none is its else branch, where the view is empty.
def nextHeader (packetMap : PacketMap π) :
    Nat → Prog Reader PyError (Option (PacketClass π × Nat))
  | 0 => Prog.raise .diverges
  | fuel + 1 => do
      let reader ← Prog.read
      if reader.bodyView = [] then return none
      else
        let header ← readHeader
        match packetMap header.1 with
        | some packetCls => return some (packetCls, header.2)
        | none =>
            Prog.onlyIf (header.2 ≠ 0) (Prog.update (Reader.advance header.2))
            nextHeader packetMap fuel

-- packet_cls(self)
def construct (packetCls : PacketClass π) : Prog Reader PyError π := fun reader =>
  let result := packetCls.construct reader.currentLen reader.bodyView
  (result.1, { reader with bodyView := result.2 })

-- What __next__ does with the header its loop ended at; none is StopIteration.
def yieldPacket : Option (PacketClass π × Nat) → Prog Reader PyError (Option π)
  | none => pure none
  | some (packetCls, pLen) => do
      Prog.update fun reader => { reader with currentLen := pLen }
      let packet ← construct packetCls
      return some packet

-- __next__
def nextPacket (packetMap : PacketMap π) : Prog Reader PyError (Option π) := do
  let reader ← Prog.read
  let header ← nextHeader packetMap (reader.bodyView.length + 1)
  yieldPacket header

-- What a whole iteration comes to.
@[ext]
structure Iteration (π : Type) where
  packets : List π
  raised : Option PyError
  bodyView : List UInt8
  headersAt : List (List UInt8)

def Iteration.cons (packet : π) (it : Iteration π) : Iteration π :=
  { it with packets := packet :: it.packets }

-- for packet in BanchoPacketReader(...), from where the reader stands
def iterate (packetMap : PacketMap π) : Nat → Reader → Iteration π
  | 0, reader => ⟨[], some .diverges, reader.bodyView, reader.headersAt⟩
  | fuel + 1, reader =>
      match nextPacket packetMap reader with
      | (.error e, t) => ⟨[], some e, t.bodyView, t.headersAt⟩
      | (.ok none, t) => ⟨[], none, t.bodyView, t.headersAt⟩
      | (.ok (some packet), t) => (iterate packetMap fuel t).cons packet

def readPackets (packetMap : PacketMap π) (body : List UInt8) : Iteration π :=
  iterate packetMap (body.length + 1) { bodyView := body }

-- A well formed packet as a client sends it.
structure RawPacket where
  id : UInt16
  pad : UInt8
  body : List UInt8
  fits : body.length < 2 ^ 32

def RawPacket.wire (p : RawPacket) : List UInt8 :=
  LittleEndian.toBytes 2 p.id.toNat ++ p.pad :: LittleEndian.toBytes 4 p.body.length ++ p.body

def wire : List RawPacket → List UInt8
  | [] => []
  | p :: ps => p.wire ++ wire ps

-- The class registered for a packet, for any id at all.
def registered (packetMap : PacketMap π) (p : RawPacket) : Option (PacketClass π) :=
  (ClientPackets.ofValue p.id.toNat).bind packetMap

-- A constructor given the n bytes of its packet and nothing else.
def RawPacket.alone (p : RawPacket) (packetCls : PacketClass π) : Except PyError π × List UInt8 :=
  packetCls.construct p.body.length p.body

-- The iteration the framing is for: every registered packet is read from its
-- own bytes, every other one is skipped, and a constructor that raises ends it.
def framed (packetMap : PacketMap π) : List RawPacket → Iteration π
  | [] => ⟨[], none, [], []⟩
  | p :: ps =>
      let here := wire (p :: ps)
      match registered packetMap p with
      | none => { framed packetMap ps with headersAt := here :: (framed packetMap ps).headersAt }
      | some packetCls =>
          match p.alone packetCls with
          | (.error e, left) => ⟨[], some e, left ++ wire ps, [here]⟩
          | (.ok packet, _) =>
              { packets := packet :: (framed packetMap ps).packets
                raised := (framed packetMap ps).raised
                bodyView := (framed packetMap ps).bodyView
                headersAt := here :: (framed packetMap ps).headersAt }

def Framed (packetMap : PacketMap π) (ps : List RawPacket) : Prop :=
  readPackets packetMap (wire ps) = framed packetMap ps

-- With the later packets behind its own n bytes, the constructor does what it
-- does on these alone, and when it returns it has read the last of them.
def KeepsTo (packetCls : PacketClass π) (p : RawPacket) (rest : List UInt8) : Prop :=
  packetCls.construct p.body.length (p.body ++ rest) =
    ((p.alone packetCls).1,
      match p.alone packetCls with
      | (.ok _, _) => rest
      | (.error _, left) => left ++ rest)

-- Every id is in the enumeration, and every registered constructor keeps to its
-- packet, up to the first one that raises.
def WellRead (packetMap : PacketMap π) : List RawPacket → Prop
  | [] => True
  | p :: ps =>
      (ClientPackets.ofValue p.id.toNat).isSome ∧
        match registered packetMap p with
        | none => WellRead packetMap ps
        | some packetCls =>
            KeepsTo packetCls p (wire ps) ∧
              (∀ packet, (p.alone packetCls).1 = .ok packet → WellRead packetMap ps)

theorem wire_cons (p : RawPacket) (ps : List RawPacket) : wire (p :: ps) = p.wire ++ wire ps := rfl

section Header

variable (p : RawPacket) (rest : List UInt8)

def RawPacket.header (p : RawPacket) : List UInt8 :=
  LittleEndian.toBytes 2 p.id.toNat ++ p.pad :: LittleEndian.toBytes 4 p.body.length

theorem wire_eq_header : p.wire ++ rest = p.header ++ (p.body ++ rest) := by
  simp [RawPacket.wire, RawPacket.header]

@[simp] theorem length_header : p.header.length = 7 := by simp [RawPacket.header]

theorem take_wire : (p.wire ++ rest).take 7 = p.header := by
  rw [wire_eq_header, List.take_left' (length_header p)]

theorem drop_wire : (p.wire ++ rest).drop 7 = p.body ++ rest := by
  rw [wire_eq_header, List.drop_left' (length_header p)]

theorem header_id : field p.header 0 2 = p.id.toNat := by
  have hid : p.id.toNat < 256 ^ 2 := p.id.toNat_lt
  have htake : p.header.take 2 = LittleEndian.toBytes 2 p.id.toNat := by
    apply List.take_left'
    simp
  rw [field, List.drop_zero, htake, LittleEndian.ofBytes_toBytes hid]

theorem header_length : field p.header 3 4 = p.body.length := by
  have hlen : p.body.length < 256 ^ 4 := by
    have := p.fits
    omega
  have hdrop : p.header.drop 3 = LittleEndian.toBytes 4 p.body.length := by
    have : p.header = (LittleEndian.toBytes 2 p.id.toNat ++ [p.pad]) ++
        LittleEndian.toBytes 4 p.body.length := by
      simp [RawPacket.header]
    rw [this]
    apply List.drop_left'
    simp
  rw [field, hdrop, List.take_of_length_le (by simp), LittleEndian.ofBytes_toBytes hlen]

end Header

section ReadHeader

variable {p : RawPacket} {rest : List UInt8} {n : Nat} {log : List (List UInt8)}

theorem readHeader_wire :
    readHeader ⟨p.wire ++ rest, n, log⟩ =
      ((ofOption .value (ClientPackets.ofValue p.id.toNat)).map fun pType =>
          (pType, p.body.length),
        ⟨p.body ++ rest, n, log ++ [p.wire ++ rest]⟩) := by
  have hlen : ¬ ((p.wire ++ rest).take 7).length < 7 := by simp [take_wire]
  unfold readHeader
  rw [Prog.read_bind_run, Prog.update_bind_run, if_neg hlen, Prog.update_bind_run]
  simp only [Reader.advance, Reader.noteHeader, take_wire, drop_wire, header_id, header_length]
  cases ClientPackets.ofValue p.id.toNat with
  | none => rfl
  | some pType => rfl

theorem readHeader_ok {reader t : Reader} {header : ClientPackets × Nat}
    (h : readHeader reader = (.ok header, t)) : t.bodyView.length < reader.bodyView.length := by
  unfold readHeader at h
  rw [Prog.read_bind_run] at h
  rw [Prog.update_bind_run] at h
  split at h
  · cases h
  · rename_i hlen
    rw [List.length_take] at hlen
    rw [Prog.update_bind_run] at h
    have ht : t = Reader.advance 7 reader.noteHeader := by
      rcases hv : ClientPackets.ofValue (field (reader.bodyView.take 7) 0 2) with _ | pType
      · rw [hv] at h
        cases h
      · rw [hv] at h
        cases h
        rfl
    rw [ht]
    simp only [Reader.advance, Reader.noteHeader, List.length_drop]
    omega

end ReadHeader

section Fuel

variable (packetMap : PacketMap π)

theorem onlyIf_advance (n : Nat) (reader : Reader) :
    (Prog.onlyIf (n ≠ 0) (Prog.update (Reader.advance n)) : Prog Reader PyError Unit) reader =
      (.ok (), Reader.advance n reader) := by
  unfold Prog.onlyIf
  split
  · rfl
  · rename_i hn
    have hn : n = 0 := by omega
    subst hn
    rfl

section NextHeader

variable {packetMap : PacketMap π} {f : Nat} {reader t : Reader}
  {header : ClientPackets × Nat} (hne : reader.bodyView ≠ [])

include hne

theorem nextHeader_error {e : PyError} (h : readHeader reader = (.error e, t)) :
    nextHeader packetMap (f + 1) reader = (.error e, t) := by
  unfold nextHeader
  rw [Prog.read_bind_run, if_neg hne]
  exact Prog.bind_run_error h

theorem nextHeader_skip (h : readHeader reader = (.ok header, t))
    (hm : packetMap header.1 = none) :
    nextHeader packetMap (f + 1) reader = nextHeader packetMap f (Reader.advance header.2 t) := by
  conv_lhs => unfold nextHeader
  rw [Prog.read_bind_run, if_neg hne, Prog.bind_run_ok h, hm]
  dsimp only
  rw [Prog.bind_run_ok (onlyIf_advance header.2 t)]

theorem nextHeader_found {packetCls : PacketClass π} (h : readHeader reader = (.ok header, t))
    (hm : packetMap header.1 = some packetCls) :
    nextHeader packetMap (f + 1) reader = (.ok (some (packetCls, header.2)), t) := by
  unfold nextHeader
  rw [Prog.read_bind_run, if_neg hne, Prog.bind_run_ok h, hm]
  rfl

end NextHeader

theorem nextHeader_empty {f : Nat} {reader : Reader} (h : reader.bodyView = []) :
    nextHeader packetMap (f + 1) reader = (.ok none, reader) := by
  unfold nextHeader
  rw [Prog.read_bind_run, if_pos h]
  rfl

theorem length_advance_le (n : Nat) (reader : Reader) :
    (Reader.advance n reader).bodyView.length ≤ reader.bodyView.length := by
  simp [Reader.advance]

theorem nextHeader_fuel {f g : Nat} {reader : Reader} (hf : reader.bodyView.length < f)
    (hg : reader.bodyView.length < g) :
    nextHeader packetMap f reader = nextHeader packetMap g reader := by
  induction f generalizing g reader with
  | zero => omega
  | succ f ih =>
      cases g with
      | zero => omega
      | succ g =>
          by_cases hne : reader.bodyView = []
          · rw [nextHeader_empty packetMap hne, nextHeader_empty packetMap hne]
          rcases hr : readHeader reader with ⟨e | header, t⟩
          · rw [nextHeader_error hne hr, nextHeader_error hne hr]
          have hlt := readHeader_ok hr
          have hle := length_advance_le header.2 t
          rcases hm : packetMap header.1 with _ | packetCls
          · rw [nextHeader_skip hne hr hm, nextHeader_skip hne hr hm]
            apply ih <;> omega
          · rw [nextHeader_found hne hr hm, nextHeader_found hne hr hm]

theorem nextHeader_some {f : Nat} {reader t : Reader} {found : PacketClass π × Nat}
    (h : nextHeader packetMap f reader = (.ok (some found), t)) :
    t.bodyView.length < reader.bodyView.length := by
  induction f generalizing reader with
  | zero => cases h
  | succ f ih =>
      by_cases hne : reader.bodyView = []
      · rw [nextHeader_empty packetMap hne] at h
        cases h
      rcases hr : readHeader reader with ⟨e | header, u⟩
      · rw [nextHeader_error hne hr] at h
        cases h
      have hlt := readHeader_ok hr
      have hle := length_advance_le header.2 u
      rcases hm : packetMap header.1 with _ | packetCls
      · rw [nextHeader_skip hne hr hm] at h
        have := ih h
        omega
      · rw [nextHeader_found hne hr hm] at h
        cases h
        exact hlt

theorem yieldPacket_ok (packetCls : PacketClass π) (pLen : Nat) (reader : Reader) {packet : π}
    {view : List UInt8} (h : packetCls.construct pLen reader.bodyView = (.ok packet, view)) :
    yieldPacket (some (packetCls, pLen)) reader =
      (.ok (some packet), ⟨view, pLen, reader.headersAt⟩) := by
  have hc : construct packetCls { reader with currentLen := pLen } =
      (.ok packet, ⟨view, pLen, reader.headersAt⟩) := by
    simp only [construct, h]
  unfold yieldPacket
  dsimp only
  rw [Prog.update_bind_run, Prog.bind_run_ok hc]
  rfl

theorem yieldPacket_error (packetCls : PacketClass π) (pLen : Nat) (reader : Reader) {e : PyError}
    {view : List UInt8} (h : packetCls.construct pLen reader.bodyView = (.error e, view)) :
    yieldPacket (some (packetCls, pLen)) reader =
      (.error e, ⟨view, pLen, reader.headersAt⟩) := by
  have hc : construct packetCls { reader with currentLen := pLen } =
      (.error e, ⟨view, pLen, reader.headersAt⟩) := by
    simp only [construct, h]
  unfold yieldPacket
  dsimp only
  rw [Prog.update_bind_run, Prog.bind_run_error hc]

theorem nextPacket_eq {f : Nat} {reader : Reader} (hf : reader.bodyView.length < f) :
    nextPacket packetMap reader = (nextHeader packetMap f >>= yieldPacket) reader := by
  unfold nextPacket
  rw [Prog.read_bind_run, Prog.bind_run, Prog.bind_run,
    nextHeader_fuel packetMap (Nat.lt_succ_self _) hf]

theorem nextPacket_some {reader t : Reader} {packet : π}
    (h : nextPacket packetMap reader = (.ok (some packet), t)) :
    t.bodyView.length < reader.bodyView.length := by
  rw [nextPacket_eq packetMap (Nat.lt_succ_self _), Prog.bind_run] at h
  rcases hr : nextHeader packetMap (reader.bodyView.length + 1) reader with
    ⟨e | _ | ⟨packetCls, pLen⟩, u⟩
  · rw [hr] at h
    cases h
  · rw [hr] at h
    cases h
  have hlt := nextHeader_some packetMap hr
  have hle := (packetCls.advances pLen u.bodyView).length_le
  rw [hr] at h
  dsimp only at h
  rcases hc : packetCls.construct pLen u.bodyView with ⟨e | packet', view⟩
  · rw [yieldPacket_error packetCls pLen u hc] at h
    cases h
  · rw [yieldPacket_ok packetCls pLen u hc] at h
    rw [hc] at hle
    cases h
    exact lt_of_le_of_lt hle hlt

-- Every packet takes at least its header from the view, so the fuel that a
-- request starts with is never used up.
theorem iterate_fuel {f g : Nat} {reader : Reader} (hf : reader.bodyView.length < f)
    (hg : reader.bodyView.length < g) :
    iterate packetMap f reader = iterate packetMap g reader := by
  induction f generalizing g reader with
  | zero => omega
  | succ f ih =>
      cases g with
      | zero => omega
      | succ g =>
          unfold iterate
          rcases hn : nextPacket packetMap reader with ⟨e | _ | packet, t⟩
          · rfl
          · rfl
          · have hlt := nextPacket_some packetMap hn
            dsimp only
            rw [ih (g := g)] <;> omega

end Fuel

end BanchoPrism
