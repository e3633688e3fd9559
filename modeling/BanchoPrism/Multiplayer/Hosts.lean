import BanchoPrism.Multiplayer.SeatsAgree

namespace BanchoPrism

open Library Prog

-- Somebody with the id of the host sits in the match, in a slot other than
-- those excluded.
def HostSits (s : Server) (r : MatchRef) (excluded : Fin 16 → Prop) : Prop :=
  ∃ i, ¬excluded i ∧ ∃ q ∈ ((s.matchAt r).slots i).player, (s.player q).id = (s.matchAt r).hostId

instance (s : Server) (r : MatchRef) (excluded : Fin 16 → Prop) [DecidablePred excluded] :
    Decidable (HostSits s r excluded) := by
  unfold HostSits
  infer_instance

-- The list, the ids and the sessions fit together.
structure Enrolled (s : Server) : Prop where
  id : ∀ {k r}, s.matchList k = some r → (s.matchAt r).id = k
  bounded : ∀ {k r}, s.matchList k = some r → r < s.nextMatch
  sessions : ∀ {r i q}, ((s.matchAt r).slots i).player = some q → q < s.nextPlayer
  known : s.Known
  listed : s.Listed

def Registered (s : Server) (r : MatchRef) : Prop := ∃ k, s.matchList k = some r

instance (s : Server) (r : MatchRef) : Decidable (Registered s r) := by
  unfold Registered
  infer_instance

-- Every match on the list, but for those in doubt, has its host in a slot.
structure AttendedBut (s : Server) (doubt : MatchRef → Prop) : Prop extends Enrolled s where
  host : ∀ {r}, Registered s r → ¬doubt r → HostSits s r fun _ => False

def Attended (s : Server) : Prop := AttendedBut s fun _ => False

theorem Enrolled.distinct {s : Server} (he : Enrolled s) {k l : Fin 64} {r : MatchRef}
    (hk : s.matchList k = some r) (hl : s.matchList l = some r) : k = l :=
  Fin.ext ((he.id hk).symm.trans (he.id hl))

theorem AttendedBut.mono {s : Server} {doubt doubt' : MatchRef → Prop} (ha : AttendedBut s doubt)
    (h : ∀ r, Registered s r → doubt r → ¬doubt' r → HostSits s r fun _ => False) :
    AttendedBut s doubt' where
  toEnrolled := ha.toEnrolled
  host {r} hr hd := by
    by_cases hdr : doubt r
    · exact h r hr hdr hd
    · exact ha.host hr hdr

theorem Hosted.hostSits {s t : Server} (h : Hosted s t) {r : MatchRef} {excluded : Fin 16 → Prop}
    (hs : HostSits s r excluded) : HostSits t r excluded := by
  obtain ⟨i, hi, q, hq, hid⟩ := hs
  refine ⟨i, hi, q, ?_, ?_⟩
  · rw [h.seat]
    exact hq
  · rw [h.playerId, h.hostId]
    exact hid

theorem Still.registered {s t : Server} (h : Still s t) {r : MatchRef} :
    Registered t r ↔ Registered s r := by
  unfold Registered
  rw [h.matchList]

theorem AttendedBut.of_hosted {s t : Server} {doubt : MatchRef → Prop} (ha : AttendedBut s doubt)
    (h : Hosted s t) : AttendedBut t doubt where
  id {k r} hk := by
    rw [h.matchId]
    exact ha.id (h.matchList ▸ hk)
  host {r} hr hd := h.hostSits (ha.host (h.registered.mp hr) hd)
  bounded {k r} hk := by
    rw [h.nextMatch]
    exact ha.bounded (h.matchList ▸ hk)
  sessions {r i q} hq := by
    rw [h.nextPlayer]
    exact ha.sessions (h.seat r i ▸ hq)
  known := h.known ha.known
  listed := h.listed ha.listed

-- What a step may do to the registry.
def Tended (s t : Server) : Prop := Attended s → Attended t

instance : Std.Refl Tended := ⟨fun _ ha => ha⟩
instance : IsTrans Server Tended := ⟨fun _ _ _ h h' ha => h' (h ha)⟩

-- A step that gives r a host in a slot.
def Adopts (r : MatchRef) (s t : Server) : Prop := AttendedBut s (· = r) → Attended t

theorem Hosted.tended {s t : Server} (h : Hosted s t) : Tended s t := fun ha => ha.of_hosted h

theorem Library.Prog.Within.tended {α : Type} {x : Handler α} (h : Within Hosted x) :
    Within Tended x :=
  Within.mono (fun _ _ => Hosted.tended) h

theorem Library.Prog.Within.tendedQuiet {α : Type} {x : Handler α} (h : Within Quiet x) :
    Within Tended x :=
  h.hosted.tended

section OneMatch

-- Only the match r and the matches players are in change; r keeps its id.
structure OnlyMatch (s t : Server) (r : MatchRef) : Prop where
  playerId : ∀ q, (t.player q).id = (s.player q).id
  others : ∀ r', r' ≠ r → t.matchAt r' = s.matchAt r'
  matchId : (t.matchAt r).id = (s.matchAt r).id
  matchList : t.matchList = s.matchList
  nextMatch : t.nextMatch = s.nextMatch
  nextPlayer : t.nextPlayer = s.nextPlayer
  known : s.Known → t.Known
  listed : s.Listed → t.Listed

theorem OnlyMatch.attendedBut {s t : Server} {r : MatchRef} (h : OnlyMatch s t r)
    (ha : AttendedBut s (· = r))
    (hs : ∀ {i q}, ((t.matchAt r).slots i).player = some q → q < s.nextPlayer) :
    AttendedBut t (· = r) := by
  refine
    { id := fun {k r'} hk => ?_
      bounded := fun {k r'} hk => ?_
      sessions := fun {r' i q} hq => ?_
      known := h.known ha.known
      listed := h.listed ha.listed
      host := fun {r'} hreg hr => ?_ }
  · rw [h.matchList] at hk
    by_cases hr : r' = r
    · subst hr
      rw [h.matchId]
      exact ha.id hk
    · rw [h.others r' hr]
      exact ha.id hk
  · rw [h.nextMatch]
    rw [h.matchList] at hk
    exact ha.bounded hk
  · rw [h.nextPlayer]
    by_cases hr : r' = r
    · subst hr
      exact hs hq
    · rw [h.others r' hr] at hq
      exact ha.sessions hq
  · unfold Registered at hreg
    rw [h.matchList] at hreg
    obtain ⟨i, hi, q, hq, hid⟩ := ha.host hreg hr
    refine ⟨i, hi, q, ?_, ?_⟩
    · rw [h.others r' hr]
      exact hq
    · rw [h.playerId, h.others r' hr]
      exact hid

theorem Attended.attendedBut {s : Server} (ha : Attended s) (doubt : MatchRef → Prop) :
    AttendedBut s doubt :=
  ha.mono fun _ _ hno => hno.elim

theorem AttendedBut.attended {s : Server} {r : MatchRef} (ha : AttendedBut s (· = r))
    (h : Registered s r → HostSits s r fun _ => False) : Attended s :=
  ha.mono fun r' hreg hr _ => by
    subst hr
    exact h hreg

-- If whoever is in r has logged in and r, while it is on the list, has its
-- host in a slot, then the registry is as it should be.
theorem OnlyMatch.tended {s t : Server} {r : MatchRef} (h : OnlyMatch s t r)
    (hs : Attended s → ∀ {i q}, ((t.matchAt r).slots i).player = some q → q < s.nextPlayer)
    (hh : Attended s → Registered s r → HostSits t r fun _ => False) : Tended s t := by
  intro ha
  refine (h.attendedBut (ha.attendedBut _) (hs ha)).attended fun hreg => hh ha ?_
  unfold Registered at hreg ⊢
  rwa [h.matchList] at hreg

theorem OnlyMatch.modifyMatch (s : Server) (r : MatchRef) {f : Match → Match}
    (hid : (f (s.matchAt r)).id = (s.matchAt r).id) : OnlyMatch s (s.modifyMatch r f) r where
  playerId _ := rfl
  others r' hr := by simp [Server.modifyMatch, hr]
  matchId := by simpa [Server.modifyMatch] using hid
  matchList := rfl
  nextMatch := rfl
  nextPlayer := rfl
  known := id
  listed := id

end OneMatch

section SetHost

-- The new host is somebody in the match.
theorem setHost_adopts {s : Server} {r : MatchRef} {i : Fin 16} {q : PlayerRef}
    (hq : ((s.matchAt r).slots i).player = some q) : Moves (Adopts r) s (setHost r q) := by
  intro ha
  have hmatch : (s.modifyMatch r fun m => { m with hostId := (s.player q).id }).matchAt r =
      { s.matchAt r with hostId := (s.player q).id } := by
    simp [Server.modifyMatch]
  have hnamed : Attended (s.modifyMatch r fun m => { m with hostId := (s.player q).id }) := by
    refine ((OnlyMatch.modifyMatch s r rfl).attendedBut ha fun {i q} hq => ?_).attended fun _ => ?_
    · rw [hmatch] at hq
      exact ha.sessions (r := r) hq
    · refine ⟨i, fun h => h, q, ?_, ?_⟩
      · rw [hmatch]
        exact hq
      · rw [hmatch]
        rfl
  have hrest : Within Tended (Prog.read >>= fun t => Prog.lift (matchHost t (t.matchAt r)) >>=
      fun host => send host .matchTransferHost) :=
    Within.read_bind fun t => Moves.lift_bind fun host _ => (send_quiet host _).tendedQuiet t
  exact hrest _ hnamed

theorem setHost_tended {s : Server} {r : MatchRef} {i : Fin 16} {q : PlayerRef}
    (hq : ((s.matchAt r).slots i).player = some q) : Moves Tended s (setHost r q) :=
  fun ha => setHost_adopts hq (ha.attendedBut _)

theorem matchTransferHost_tended (p : PlayerRef) (slotId : Int) :
    Within Tended (matchTransferHost p slotId) := by
  refine within_asHost fun r => within_withSlotId fun i => Within.read_bind fun s => ?_
  split
  · rename_i q hq
    exact Moves.bind (setHost_tended hq) fun _ t _ => (enqueueState_quiet r true).tendedQuiet t
  · exact Moves.pure ()

theorem mpHost_tended (ctx : Context) (r : MatchRef) : Within Tended (mpHost ctx r) := by
  refine within_oneArg fun arg => within_onlinePlayer fun target => Within.read_bind fun s => ?_
  refine Moves.lift_bind fun host _ => Moves.ite (fun _ => (within_answer _).moves) fun _ => ?_
  refine Moves.ite (fun hin => ?_) fun _ => (within_answer _).moves
  obtain ⟨i, hi⟩ := Option.isSome_iff_exists.mp hin
  refine Moves.bind (setHost_tended (getSlotId_player hi)) fun _ t _ => Within.moves ?_
  exact Within.bind (enqueueState_quiet r true).tendedQuiet fun _ => within_answer _

-- Locking a slot moves nobody.
theorem matchLock_tended (p : PlayerRef) (slotId : Int) : Within Tended (matchLock p slotId) :=
  (matchLock_hosted p slotId).tended

end SetHost

section ChangeSlot

-- Writing p into slot i leaves the match r its host.
def HostOutlasts (s : Server) (p : PlayerRef) (r : MatchRef) (i : Fin 16) : Prop :=
  Registered s r → HostSits s r (· = i) ∨ (s.player p).id = (s.matchAt r).hostId

instance (s : Server) (p : PlayerRef) (r : MatchRef) (i : Fin 16) :
    Decidable (HostOutlasts s p r i) := by
  unfold HostOutlasts
  infer_instance

-- The slot moved to is not the only one that the host is in; a player who moves
-- to the slot they are in leaves it empty.
def MoveKeepsHost (s : Server) (p : PlayerRef) (slotId : Int) : Prop :=
  ∀ r ∈ (s.player p).matchRef, ∀ j : Fin 16, (j : Int) = slotId →
    ((s.matchAt r).slots j).status = .open_ → HostOutlasts s p r j ∧
      ((s.matchAt r).getSlotId p = some j → Registered s r → HostSits s r (· = j))

instance (s : Server) (p : PlayerRef) (slotId : Int) : Decidable (MoveKeepsHost s p slotId) := by
  unfold MoveKeepsHost
  infer_instance

theorem shift_onlyMatch (s : Server) (r : MatchRef) (i j : Fin 16) :
    OnlyMatch s (shift s r i j) r where
  playerId _ := rfl
  others r' hr := by simp [shift, Server.modifySlot, Server.modifyMatch, hr]
  matchId := by simp [shift, Server.modifySlot, Server.modifyMatch]
  matchList := rfl
  nextMatch := rfl
  nextPlayer := rfl
  known := id
  listed := id

theorem shift_hostId (s : Server) (r : MatchRef) (i j : Fin 16) :
    ((shift s r i j).matchAt r).hostId = (s.matchAt r).hostId := by
  simp [shift, Server.modifySlot, Server.modifyMatch]

theorem shift_tended {s : Server} {r : MatchRef} {i j : Fin 16} {p : PlayerRef}
    (hi : ((s.matchAt r).slots i).player = some p) (hkeep : HostOutlasts s p r j)
    (hown : i = j → Registered s r → HostSits s r (· = j)) : Tended s (shift s r i j) := by
  have hslot : ∀ k, (((shift s r i j).matchAt r).slots k).player =
      if k = i then none else if k = j then some p else ((s.matchAt r).slots k).player := by
    intro k
    rw [(shift_slot s r r i j k).1, hi]
    simp
  refine (shift_onlyMatch s r i j).tended (fun ha {k q} hq => ?_) fun ha hreg => ?_
  · rw [hslot] at hq
    split at hq
    · cases hq
    · split at hq
      · exact ha.sessions (r := r) (hi.trans hq)
      · exact ha.sessions (r := r) hq
  -- whoever else has the id of the host has not moved
  have hstayed : ∀ k q, k ≠ i → k ≠ j → ((s.matchAt r).slots k).player = some q →
      (s.player q).id = (s.matchAt r).hostId → HostSits (shift s r i j) r fun _ => False := by
    intro k q hki hkj hq hid
    refine ⟨k, fun h => h, q, ?_, ?_⟩
    · rw [hslot, if_neg hki, if_neg hkj]
      exact hq
    · rw [shift_hostId]
      exact hid
  by_cases hij : i = j
  · obtain ⟨k, hk, q, hq, hid⟩ := hown hij hreg
    exact hstayed k q (hij ▸ hk) hk hq hid
  have hmoved : (s.player p).id = (s.matchAt r).hostId → HostSits (shift s r i j) r fun _ => False := by
    intro hid
    refine ⟨j, fun h => h, p, ?_, ?_⟩
    · rw [hslot, if_neg (Ne.symm hij), if_pos rfl]
      rfl
    · rw [shift_hostId]
      exact hid
  rcases hkeep hreg with ⟨k, hk, q, hq, hid⟩ | hid
  · by_cases hki : k = i
    · subst hki
      obtain rfl : p = q := Option.some.inj (hi.symm.trans hq)
      exact hmoved hid
    · exact hstayed k q hki hk hq hid
  · exact hmoved hid

theorem matchChangeSlot_tended {s : Server} {p : PlayerRef} {slotId : Int}
    (hkeep : MoveKeepsHost s p slotId) : Moves Tended s (matchChangeSlot p slotId) := by
  unfold matchChangeSlot inMatch withSlotId
  refine Moves.read_bind ?_
  split
  · rename_i r hr
    split
    · rename_i hid
      refine Moves.read_bind (Moves.ite (fun _ => Moves.pure ()) fun hopen => ?_)
      rw [not_not] at hopen
      split
      · exact Moves.raise _
      · rename_i i hi
        obtain ⟨hout, hown⟩ := hkeep r hr ⟨slotId.toNat, by omega⟩
          (by simp only [Int.toNat_of_nonneg hid.1]) hopen
        have hshift := shift_tended (getSlotId_player hi) hout fun he => hown (hi.trans (he ▸ rfl))
        exact Moves.update_update_bind hshift (enqueueState_quiet r true).tendedQuiet.moves
    · exact Moves.pure ()
  · exact Moves.pure ()

end ChangeSlot

section Join

def JoinKeepsHost (s : Server) (p : PlayerRef) (r : MatchRef) (passwd : String) : Prop :=
  Admits s p r → ∀ host ∈ s.players.byId (s.matchAt r).hostId,
    ∀ i ∈ joinSlot s p (s.matchAt r) passwd host, HostOutlasts s p r i

instance (s : Server) (p : PlayerRef) (r : MatchRef) (passwd : String) :
    Decidable (JoinKeepsHost s p r passwd) := by
  unfold JoinKeepsHost
  infer_instance

theorem sitDown_player (s : Server) (p q : PlayerRef) (r : MatchRef) (i : Fin 16) :
    ((sitDown s p r i).player q).id = (s.player q).id ∧
      ((sitDown s p r i).player q).channels = (s.player q).channels := by
  by_cases hq : q = p
  · subst hq
    simp [sitDown, Server.modifyPlayer, Server.modifySlot, Server.modifyMatch]
  · simp [sitDown, Server.modifyPlayer, Server.modifySlot, Server.modifyMatch, hq]

theorem sitDown_onlyMatch (s : Server) (p : PlayerRef) (r : MatchRef) (i : Fin 16) :
    OnlyMatch s (sitDown s p r i) r where
  playerId q := (sitDown_player s p q r i).1
  others r' hr := by simp [sitDown, Server.modifyPlayer, Server.modifySlot, Server.modifyMatch, hr]
  matchId := by simp [sitDown, Server.modifyPlayer, Server.modifySlot, Server.modifyMatch]
  matchList := rfl
  nextMatch := rfl
  nextPlayer := rfl
  known := id
  listed hl := hl.congr rfl fun q => (sitDown_player s p q r i).2

theorem sitDown_player_of_slot (s : Server) (p : PlayerRef) (r : MatchRef) (i k : Fin 16) :
    (((sitDown s p r i).matchAt r).slots k).player =
      if k = i then some p else ((s.matchAt r).slots k).player := by
  rw [(sitDown_slot s p r r i k).1]
  simp

theorem sitDown_hostId (s : Server) (p : PlayerRef) (r : MatchRef) (i : Fin 16) :
    ((sitDown s p r i).matchAt r).hostId = (s.matchAt r).hostId := by
  simp [sitDown, Server.modifyPlayer, Server.modifySlot, Server.modifyMatch]

theorem sitDown_attendedBut {s : Server} {p : PlayerRef} {r : MatchRef} (i : Fin 16)
    (ha : AttendedBut s (· = r)) (hp : p < s.nextPlayer) : AttendedBut (sitDown s p r i) (· = r) := by
  refine (sitDown_onlyMatch s p r i).attendedBut ha fun {k q} hq => ?_
  rw [sitDown_player_of_slot] at hq
  split at hq
  · exact Option.some.inj hq ▸ hp
  · exact ha.sessions (r := r) hq

-- Whoever sits down is the host.
theorem sitDown_adopts {s : Server} {p : PlayerRef} {r : MatchRef} {i : Fin 16}
    (hp : p < s.nextPlayer) (hid : (s.player p).id = (s.matchAt r).hostId) :
    Adopts r s (sitDown s p r i) := by
  intro ha
  refine (sitDown_attendedBut i ha hp).attended fun _ => ⟨i, fun h => h, p, ?_, ?_⟩
  · rw [sitDown_player_of_slot, if_pos rfl]
    rfl
  · rw [(sitDown_player s p p r i).1, sitDown_hostId]
    exact hid

theorem sitDown_tended {s : Server} {p : PlayerRef} {r : MatchRef} {i : Fin 16}
    (hp : p < s.nextPlayer) (hkeep : HostOutlasts s p r i) : Tended s (sitDown s p r i) := by
  intro ha
  by_cases hreg : Registered s r
  · rcases hkeep hreg with ⟨k, hk, q, hq, hid⟩ | hid
    · refine (sitDown_attendedBut i (ha.attendedBut _) hp).attended fun _ =>
        ⟨k, fun h => h, q, ?_, ?_⟩
      · rw [sitDown_player_of_slot, if_neg hk]
        exact hq
      · rw [(sitDown_player s p q r i).1, sitDown_hostId]
        exact hid
    · exact sitDown_adopts hp hid (ha.attendedBut _)
  · exact (sitDown_attendedBut i (ha.attendedBut _) hp).attended fun h => absurd h hreg

theorem joinMatch_tended {s : Server} {p : PlayerRef} {r : MatchRef} {passwd : String}
    (hp : p < s.nextPlayer) (hkeep : JoinKeepsHost s p r passwd) :
    Moves Tended s (joinMatch p r passwd) := by
  rcases joinMatch_cases p r passwd s with hq | ⟨host, i, t, hm, hh, hj, hst, hq⟩
  · exact hq.toHosted.tended
  · have hseated := hst.quiet
    have hsit : Tended t (sitDown t p r i) := by
      refine sitDown_tended (hseated.nextPlayer ▸ hp) fun ⟨k, hk⟩ => ?_
      have hout := hkeep hm host (matchHost_ok.mp hh) i hj ⟨k, hseated.matchList ▸ hk⟩
      refine hout.imp (hseated.toHosted.hostSits) fun hid => ?_
      rw [hseated.playerId, hseated.hostId]
      exact hid
    exact trans_of Tended hseated.toHosted.tended (trans_of Tended hsit hq.toHosted.tended)

end Join

end BanchoPrism
