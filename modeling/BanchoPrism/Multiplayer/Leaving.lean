import BanchoPrism.Multiplayer.Departing

namespace BanchoPrism

open Library Prog

section LeaveMatch

-- The first occupant other than p.
def Match.nextPlayer (m : Match) (p : PlayerRef) : Option PlayerRef :=
  (Fin.find? fun i => (m.slots i).player.isSome && (m.slots i).player != some p).bind fun i =>
    (m.slots i).player

-- The session that is host once p has left.
def nextHost (s : Server) (m : Match) (p : PlayerRef) : Option PlayerRef :=
  (s.players.byId m.hostId).bind fun host =>
    if p = host then (m.nextPlayer p).bind fun q => s.players.byId (s.player q).id else some host

-- Nobody but p is in the match.
def Alone (m : Match) (p : PlayerRef) : Prop :=
  ∀ i, (m.slots i).player = none ∨ (m.slots i).player = some p

-- The match can still be written, and has a host, once p has left.
def Announces (s : Server) (m : Match) (p : PlayerRef) : Prop :=
  fitsUnsigned 2 m.id ∧ fitsUnsigned 4 m.mods ∧ fitsI32 m.mapId ∧ fitsUnsigned 4 m.seed ∧
    (∀ i, (m.slots i).player ≠ some p →
      (m.freemods → fitsUnsigned 4 (m.slots i).mods) ∧
      ∀ q ∈ (m.slots i).player, fitsUnsigned 4 (s.player q).id) ∧
    ∃ host ∈ nextHost s m p, fitsUnsigned 4 (s.player host).id

-- leave_match can run to its end.
def LeaveSafe (s : Server) (p : PlayerRef) : Prop :=
  ∀ r ∈ (s.player p).matchRef, Releases s p (s.matchAt r).chat ∧
    (Alone (s.matchAt r) p ∨ Announces s (s.matchAt r) p)

instance (m : Match) (p : PlayerRef) : Decidable (Alone m p) := by
  unfold Alone
  infer_instance

instance (s : Server) (m : Match) (p : PlayerRef) : Decidable (Announces s m p) := by
  unfold Announces
  infer_instance

instance (s : Server) (p : PlayerRef) : Decidable (LeaveSafe s p) := by
  unfold LeaveSafe
  infer_instance

theorem vacate_matchAt (s : Server) (r : MatchRef) (i : Fin 16) :
    (vacate s r i).matchAt r = { s.matchAt r with
      slots := Function.update (s.matchAt r).slots i
        (Slot.reset (leftStatus ((s.matchAt r).slots i))) } := by
  simp [vacate, Server.modifySlot, Server.modifyMatch]

theorem vacate_slot_self (s : Server) (r : MatchRef) (i : Fin 16) :
    ((vacate s r i).matchAt r).slots i = Slot.reset (leftStatus ((s.matchAt r).slots i)) := by
  simp [vacate_matchAt]

theorem vacate_slot_of_ne (s : Server) (r : MatchRef) {i j : Fin 16} (h : j ≠ i) :
    ((vacate s r i).matchAt r).slots j = (s.matchAt r).slots j := by
  simp [vacate_matchAt, h]

theorem leftStatus_hasPlayer (slot : Slot) : (leftStatus slot).hasPlayer = false := by
  unfold leftStatus
  split <;> rfl

-- In the one slot that p is in, and in no other, the vacated match differs.
theorem firstPlayer_vacate {s : Server} (ho : Orderly s) {p : PlayerRef} {r : MatchRef} {i : Fin 16}
    (hi : ((s.matchAt r).slots i).player = some p) :
    ((vacate s r i).matchAt r).firstPlayer = (s.matchAt r).nextPlayer p := by
  have hplayer : ∀ j, (((vacate s r i).matchAt r).slots j).player =
      if ((s.matchAt r).slots j).player = some p then none else ((s.matchAt r).slots j).player := by
    intro j
    by_cases hj : j = i
    · subst hj
      rw [vacate_slot_self, if_pos hi]
      rfl
    · have hne : ((s.matchAt r).slots j).player ≠ some p := fun h =>
        hj (ho.agrees.unique (r := r) h hi)
      rw [vacate_slot_of_ne s r hj, if_neg hne]
  have hfound : (fun j => (((vacate s r i).matchAt r).slots j).player.isSome) = fun j =>
      ((s.matchAt r).slots j).player.isSome && ((s.matchAt r).slots j).player != some p := by
    funext j
    rw [hplayer]
    split
    · rename_i h
      simp [h]
    · rename_i h
      simp [bne_iff_ne.mpr h]
  unfold Match.firstPlayer Match.nextPlayer
  rw [hfound]
  cases hfind : Fin.find? fun j =>
      ((s.matchAt r).slots j).player.isSome && ((s.matchAt r).slots j).player != some p with
  | none => rfl
  | some j =>
    have hj := Fin.eq_true_of_find?_eq_some hfind
    simp only [Bool.and_eq_true, bne_iff_ne] at hj
    simp only [Option.bind_some, hplayer, if_neg hj.2]

theorem allEmpty_iff (m : Match) : m.allEmpty ↔ ∀ i, (m.slots i).player = none := by
  unfold Match.allEmpty Slot.empty
  simp

theorem allEmpty_vacate {s : Server} (ho : Orderly s) {p : PlayerRef} {r : MatchRef} {i : Fin 16}
    (hi : ((s.matchAt r).slots i).player = some p) (ha : Alone (s.matchAt r) p) :
    ((vacate s r i).matchAt r).allEmpty := by
  refine (allEmpty_iff _).mpr fun j => ?_
  by_cases hj : j = i
  · subst hj
    rw [vacate_slot_self]
    rfl
  · rw [vacate_slot_of_ne s r hj]
    exact (ha j).resolve_right fun h => hj (ho.agrees.unique (r := r) h hi)

theorem fitsUnsigned_NOMOD : fitsUnsigned 4 Mods.NOMOD := by decide

theorem Announces.writable {s : Server} (ho : Orderly s) {p : PlayerRef} {r : MatchRef} {i : Fin 16}
    (hi : ((s.matchAt r).slots i).player = some p) (ha : Announces s (s.matchAt r) p) :
    Writable (vacate s r i) ((vacate s r i).matchAt r) := by
  obtain ⟨hid, hmods, hmap, hseed, hslots, -⟩ := ha
  have hothers : ∀ j, j ≠ i → ((s.matchAt r).slots j).player ≠ some p := fun j hj h =>
    hj (ho.agrees.unique (r := r) h hi)
  have hmatch := vacate_matchAt s r i
  constructor
  case id =>
    rw [hmatch]
    exact hid
  case mods =>
    rw [hmatch]
    exact hmods
  case mapId =>
    rw [hmatch]
    exact hmap
  case seed =>
    rw [hmatch]
    exact hseed
  case slotMods =>
    intro hf j
    have hfree : (s.matchAt r).freemods := by rwa [hmatch] at hf
    by_cases hj : j = i
    · subst hj
      rw [vacate_slot_self]
      exact fitsUnsigned_NOMOD
    · rw [vacate_slot_of_ne s r hj]
      exact (hslots j (hothers j hj)).1 hfree
  case slotIds =>
    intro j q hq
    by_cases hj : j = i
    · subst hj
      rw [vacate_slot_self] at hq
      simp [Slot.reset] at hq
    · rw [vacate_slot_of_ne s r hj] at hq
      exact (hslots j (hothers j hj)).2 q hq
  case occupied =>
    intro j hs
    by_cases hj : j = i
    · subst hj
      rw [vacate_slot_self] at hs
      simp [Slot.reset, leftStatus_hasPlayer] at hs
    · rw [vacate_slot_of_ne s r hj] at hs ⊢
      rwa [ho.status r j] at hs

theorem ChannelWork.writable {s t : Server} (h : ChannelWork s t) {r : MatchRef}
    (hw : Writable s (s.matchAt r)) : Writable t (t.matchAt r) := by
  rw [h.matchAt]
  exact {
    id := hw.id
    mods := hw.mods
    mapId := hw.mapId
    seed := hw.seed
    slotMods := hw.slotMods
    slotIds := fun i q hq => by
      rw [h.quiet.playerId q]
      exact hw.slotIds i q hq
    occupied := hw.occupied }

-- What is left of the match says goodbye without raising.
theorem departVacated_ok {s t : Server} (ho : Orderly s) {p : PlayerRef} {r : MatchRef} {i : Fin 16}
    (hi : ((s.matchAt r).slots i).player = some p) (ha : Announces s (s.matchAt r) p)
    (ht : ChannelWork (vacate s r i) t) :
    ∃ u, departMatch p r t = (.ok (), u) ∧ SameText t u r ∧
      ((s.players.byId (s.matchAt r).hostId ≠ some p ∧
          (u.matchAt r).hostId = (s.matchAt r).hostId) ∨
        ∃ q, (s.matchAt r).nextPlayer p = some q ∧ (u.matchAt r).hostId = (s.player q).id) := by
  have hw := ht.writable (ha.writable ho hi)
  obtain ⟨host, hnext, hfits⟩ := ha.2.2.2.2.2
  have hhostId : (t.matchAt r).hostId = (s.matchAt r).hostId := by
    rw [ht.matchAt, vacate_matchAt]
  have hfirst : (t.matchAt r).firstPlayer = (s.matchAt r).nextPlayer p := by
    rw [ht.matchAt]
    exact firstPlayer_vacate ho hi
  have hids : ∀ q, (t.player q).id = (s.player q).id := fun q => ht.quiet.playerId q
  have hplayers : t.players = s.players := ht.players
  obtain ⟨h, hh, hnext⟩ := Option.mem_bind_iff.mp hnext
  have hfound : t.players.byId (t.matchAt r).hostId = some h := by
    rw [hhostId, hplayers]
    exact hh
  have hstay : p ≠ h → fitsUnsigned 4 (t.player h).id := by
    intro hne
    rw [if_neg hne] at hnext
    obtain rfl := Option.mem_some_iff.mp hnext
    rw [hids]
    exact hfits
  have hpass : p = h → ∃ q, (t.matchAt r).firstPlayer = some q ∧ Resolves t (t.player q).id := by
    intro he
    rw [if_pos he] at hnext
    obtain ⟨q, hq, hnew⟩ := Option.mem_bind_iff.mp hnext
    refine ⟨q, hfirst.trans hq, host, ?_, ?_⟩
    · rw [hids, hplayers]
      exact hnew
    · rw [hids]
      exact hfits
  obtain ⟨u, hrun, hsame, hkept, hpassed⟩ := departMatch_ok hw hfound hstay hpass
  refine ⟨u, hrun, hsame, ?_⟩
  by_cases he : p = h
  · obtain ⟨q, hq, hid⟩ := hpassed he
    exact .inr ⟨q, hfirst.symm.trans hq, hid.trans (hids q)⟩
  · refine .inl ⟨fun hself => he ?_, (hkept he).trans hhostId⟩
    exact (Option.some.inj (hh.symm.trans hself)).symm

theorem standUp_player (s : Server) (p q : PlayerRef) :
    (standUp s p).player q =
      { s.player q with matchRef := if q = p then none else (s.player q).matchRef } := by
  by_cases hq : q = p
  · subst hq
    simp [standUp, Server.modifyPlayer]
  · simp [standUp, Server.modifyPlayer, hq]

theorem Seated.standUp {s t : Server} (h : Seated s t) (p : PlayerRef) :
    Seated (standUp s p) (standUp t p) where
  place q := by rw [standUp_player, standUp_player, h.place q]
  playerId q := by rw [standUp_player, standUp_player, h.playerId q]
  seat := h.seat
  matchId := h.matchId
  matchList := h.matchList
  nextMatch := h.nextMatch
  nextPlayer := h.nextPlayer
  listed hl := by
    have hs : s.Listed := hl.congr rfl fun q => by rw [standUp_player]
    exact (h.listed hs).congr rfl fun q => by rw [standUp_player]
  known := h.known
  status := h.status

theorem standUp_seating (s : Server) (r : MatchRef) (i : Fin 16) (p : PlayerRef) :
    (standUp (vacate s r i) p).seating = s.seating.leave p r i := by
  apply Seating.ext
  · funext q
    rw [Seating.leave, Seating.setPlace_place]
    show ((standUp (vacate s r i) p).player q).matchRef = _
    rw [standUp_player]
    rfl
  · funext r' j
    rw [Seating.leave, Seating.setPlace_seat, Seating.setSeat_seat]
    show (((vacate s r i).matchAt r').slots j).player = _
    by_cases hr : r' = r
    · subst hr
      by_cases hj : j = i
      · subst hj
        rw [vacate_slot_self]
        simp [Slot.reset]
      · rw [vacate_slot_of_ne s r' hj]
        simp [hj, Server.seating]
    · simp [vacate, Server.modifySlot, Server.modifyMatch, hr, Server.seating]

theorem vacate_status {s : Server} (ho : Orderly s) (r r' : MatchRef) (i j : Fin 16) :
    (((vacate s r i).matchAt r').slots j).status.hasPlayer =
      (((vacate s r i).matchAt r').slots j).player.isSome := by
  by_cases hr : r' = r
  · subst hr
    by_cases hj : j = i
    · subst hj
      rw [vacate_slot_self]
      exact leftStatus_hasPlayer _
    · rw [vacate_slot_of_ne s r' hj]
      exact ho.status r' j
  · simpa [vacate, Server.modifySlot, Server.modifyMatch, hr] using ho.status r' j

-- Out of the slot and out of the match.
theorem standUp_proper {s : Server} {r : MatchRef} {i : Fin 16} {p : PlayerRef}
    (hi : ((s.matchAt r).slots i).player = some p) : Proper s (standUp (vacate s r i) p) := by
  intro ho
  refine ⟨?_, ?_⟩
  · exact {
      agrees := by
        rw [standUp_seating]
        exact ho.agrees.leave hi
      status := fun r' j => vacate_status ho r r' i j
      listed := ho.listed.congr rfl fun q => by
        rw [standUp_player]
        rfl
      registered := fun {q r'} hr => by
        rw [standUp_player] at hr
        refine ho.registered (p := q) ?_
        by_cases hq : q = p
        · simp [hq] at hr
        · rw [if_neg hq] at hr
          exact hr
      bounded := ho.bounded
      distinct := ho.distinct }
  · rw [standUp_seating]
    exact Seating.Kept.leave _ p r i

theorem removeMatch_matchList {s : Server} (r r' : MatchRef) (k : Fin 64)
    (hd : ∀ {k l r}, s.matchList k = some r → s.matchList l = some r → k = l) :
    (s.removeMatch r).matchList k = some r' ↔ s.matchList k = some r' ∧ r' ≠ r := by
  unfold Server.removeMatch
  cases hfind : Fin.find? fun i => s.matchList i == some r with
  | none =>
    have hnot : ∀ i, s.matchList i ≠ some r := by simpa using hfind
    refine ⟨fun h => ⟨h, ?_⟩, fun h => h.1⟩
    rintro rfl
    exact hnot k h
  | some i =>
    have hi : s.matchList i = some r := by simpa using Fin.eq_true_of_find?_eq_some hfind
    show Function.update s.matchList i none k = some r' ↔ _
    by_cases hk : k = i
    · subst hk
      simp [hi, eq_comm]
    · rw [Function.update_of_ne hk]
      refine ⟨fun h => ⟨h, ?_⟩, fun h => h.1⟩
      rintro rfl
      exact hk (hd h hi)

theorem removeMatch_eq (s : Server) (r : MatchRef) :
    ∃ matchList, s.removeMatch r = { s with matchList := matchList } := by
  unfold Server.removeMatch
  split
  · exact ⟨_, rfl⟩
  · exact ⟨s.matchList, rfl⟩

-- A match that nobody is in can go off the list.
theorem Orderly.removeMatch {s : Server} (ho : Orderly s) {r : MatchRef}
    (hr : ∀ p, (s.player p).matchRef ≠ some r) : Orderly (s.removeMatch r) := by
  have hlist := fun k r' => removeMatch_matchList r r' k ho.distinct
  obtain ⟨matchList, h⟩ := removeMatch_eq s r
  rw [h] at hlist ⊢
  exact {
    agrees := ho.agrees
    status := ho.status
    listed := ho.listed
    registered := fun {p r'} hp => by
      obtain ⟨k, hk⟩ := ho.registered hp
      exact ⟨k, (hlist k r').mpr ⟨hk, fun he => hr p (he ▸ hp)⟩⟩
    bounded := fun {k r'} hk => ho.bounded ((hlist k r').mp hk).1
    distinct := fun {k l r'} hk hl => ho.distinct ((hlist k r').mp hk).1 ((hlist l r').mp hl).1 }

theorem ChannelWork.vacated_allEmpty {s t : Server} {r : MatchRef} {i : Fin 16}
    (ht : ChannelWork (vacate s r i) t) :
    (t.matchAt r).allEmpty = ((vacate s r i).matchAt r).allEmpty := by
  rw [ht.matchAt]

theorem afterLeaving_closed {p : PlayerRef} {r : MatchRef} {t : Server}
    (he : (t.matchAt r).allEmpty) : afterLeaving p r t = closeMatch r t := by
  unfold afterLeaving
  rw [read_bind_run, if_pos he]

theorem afterLeaving_departed {p : PlayerRef} {r : MatchRef} {t : Server}
    (he : ¬(t.matchAt r).allEmpty) : afterLeaving p r t = departMatch p r t := by
  unfold afterLeaving
  rw [read_bind_run, if_neg he]

-- The last player out closes the match.
theorem closed_proper {s t u v : Server} {r : MatchRef} {i : Fin 16} {p : PlayerRef}
    (hi : ((s.matchAt r).slots i).player = some p) (ht : ChannelWork (vacate s r i) t)
    (he : (t.matchAt r).allEmpty) (htv : Quiet t v) (hvu : Quiet (v.removeMatch r) u) :
    Proper s (standUp u p) := by
  intro ho
  have hsv := ht.quiet.toSeated.trans htv.toSeated
  obtain ⟨hov, hkept⟩ := (standUp_proper hi).trans_seated (hsv.standUp p) ho
  have hgone : ∀ q, ((standUp v p).player q).matchRef ≠ some r := by
    intro q hq
    obtain ⟨j, hj⟩ := hov.agrees.present (g := q) (r := r) hq
    have hnone : ((v.matchAt r).slots j).player = none := by
      rw [htv.seat]
      exact (allEmpty_iff _).mp he j
    rw [show ((v.matchAt r).slots j).player = some q from hj] at hnone
    cases hnone
  have hremove : (standUp v p).removeMatch r = standUp (v.removeMatch r) p := by
    have hlist : (standUp v p).matchList = v.matchList := rfl
    unfold Server.removeMatch
    rw [hlist]
    cases Fin.find? fun i => v.matchList i == some r <;> rfl
  have hou : Orderly (standUp (v.removeMatch r) p) := hremove ▸ hov.removeMatch hgone
  have hseating : (standUp (v.removeMatch r) p).seating = (standUp v p).seating := by
    obtain ⟨matchList, h⟩ := removeMatch_eq v r
    rw [h]
    rfl
  refine ⟨hou.of_seated (hvu.toSeated.standUp p), ?_⟩
  rw [(hvu.toSeated.standUp p).seating_eq, hseating]
  exact hkept

theorem leaveMatch_proper {s : Server} {p : PlayerRef} (hsafe : LeaveSafe s p) :
    Moves Proper s (leaveMatch p) := by
  intro ho
  cases hr : (s.player p).matchRef with
  | none =>
    rw [leaveMatch_run_none hr]
    exact (Seated.refl s).proper ho
  | some r =>
    obtain ⟨hreleases, hleft⟩ := hsafe r hr
    obtain ⟨i, hslot⟩ := ho.getSlotId_isSome hr
    have hi := getSlotId_player hslot
    obtain ⟨t, hleave⟩ := leaveChannel_ok (s := vacate s r i) (ho.listed.congr rfl fun _ => rfl)
      hreleases true
    have ht : ChannelWork (vacate s r i) t := by
      simpa [Moves, hleave] using leaveChannel_work p (s.matchAt r).chat true (vacate s r i)
    rw [leaveMatch_run hr hslot, bind_run_ok hleave]
    by_cases he : (t.matchAt r).allEmpty
    · obtain ⟨v, u, hrun, htv, hvu⟩ := closeMatch_run r t
      rw [bind_run_ok ((afterLeaving_closed he).trans hrun)]
      exact closed_proper hi ht he htv.toQuiet hvu.toQuiet ho
    · have ha : Announces s (s.matchAt r) p := hleft.resolve_left fun ha =>
        he (ht.vacated_allEmpty.trans (allEmpty_vacate ho hi ha))
      obtain ⟨u, hrun, -⟩ := departVacated_ok ho hi ha ht
      have htu : Seated t u := by
        simpa [Moves, hrun] using departMatch_seated p r t
      rw [bind_run_ok ((afterLeaving_departed he).trans hrun)]
      exact (standUp_proper hi).trans_seated ((ht.quiet.toSeated.trans htu).standUp p) ho

end LeaveMatch

section Create

-- The server with a new match object m in place k of the list.
def enrolled (s : Server) (k : Fin 64) (m : Match) : Server :=
  { s with
    matchAt := Function.update s.matchAt s.nextMatch m
    nextMatch := s.nextMatch + 1
    matchList := Function.update s.matchList k (some s.nextMatch)
    channels := s.channels ++ [m.chat] }

theorem registerMatch_run (k : Fin 64) (m : Match) (s : Server) :
    registerMatch k m s = (.ok s.nextMatch, enrolled s k m) := rfl

theorem newMatch_ok {data : MultiplayerMatch} {k : Fin 64} {chat : ChannelRef} {m : Match}
    (h : newMatch data k chat = .ok m) :
    ((GameMode.ofValue data.mode).isSome ∧ (MatchWinConditions.ofValue data.winCondition).isSome ∧
      (MatchTeamTypes.ofValue data.teamType).isSome) ∧
    m.id = k ∧ m.hostId = data.hostId.toNat ∧ m.passwd = removeEnding data.passwd "//private" ∧
      m.chat = chat ∧ m.tourneyClients = [] ∧ ∀ i, m.slots i = {} := by
  unfold newMatch at h
  cases hmode : GameMode.ofValue data.mode with
  | none => simp [hmode, ofOption, bind, Except.bind] at h
  | some mode =>
    cases hwin : MatchWinConditions.ofValue data.winCondition with
    | none => simp [hmode, hwin, ofOption, bind, Except.bind] at h
    | some winCondition =>
      cases hteam : MatchTeamTypes.ofValue data.teamType with
      | none => simp [hmode, hwin, hteam, ofOption, bind, Except.bind] at h
      | some teamType =>
        have hsome : ∀ {α : Type} (a : α), ofOption PyError.value (some a) = .ok a := fun _ => rfl
        rw [hmode, hwin, hteam, ok_bind (hsome mode), ok_bind (hsome winCondition),
          ok_bind (hsome teamType)] at h
        obtain rfl := Except.ok.inj h
        exact ⟨⟨rfl, rfl, rfl⟩, rfl, rfl, rfl, rfl, rfl, fun _ => rfl⟩

def withChat (s : Server) (k : Fin 64) : Server :=
  { s with
    channel := Function.update s.channel s.nextChannel (matchChat k)
    nextChannel := s.nextChannel + 1 }

theorem withChat_work (s : Server) (k : Fin 64) : ChannelWork s (withChat s k) :=
  allocChannel_work (show (matchChat k).players = [] from rfl) s

-- MATCH_CREATE refuses, or registers a match and has its creator join it.
theorem matchCreate_cases (p : PlayerRef) (data : MultiplayerMatch) (now : Int) (s : Server) :
    Calm s (matchCreate p data now s).2 ∨
      ∃ k m, (validateMatchData data (s.player p).id ∧ !(s.player p).restricted ∧
          !(s.player p).silenced now) ∧ s.freeMatchId = some k ∧
        newMatch data k s.nextChannel = .ok m ∧
        Calm (joinMatch p s.nextMatch data.passwd (enrolled (withChat s k) k m)).2
          (matchCreate p data now s).2 := by
  unfold matchCreate
  rw [read_bind_run]
  by_cases hv : validateMatchData data (s.player p).id
  case neg =>
    left
    rw [if_pos (by simpa using hv)]
    exact Calm.refl s
  rw [if_neg (by simpa using hv)]
  by_cases hr : (s.player p).restricted
  · left
    rw [if_pos hr]
    exact refuseMultiplayer_calm p _ s
  rw [if_neg hr]
  by_cases hs : (s.player p).silenced now
  · left
    rw [if_pos hs]
    exact refuseMultiplayer_calm p _ s
  rw [if_neg hs]
  cases hk : s.freeMatchId with
  | none =>
    left
    exact Within.bind (sendPlayerBot_work p _).calm (fun _ => send_calm p _) s
  | some k =>
    dsimp only
    have hc : allocChannel (matchChat k) s = (.ok s.nextChannel, withChat s k) := rfl
    rw [bind_run_ok hc]
    cases hm : newMatch data k s.nextChannel with
    | error e => exact .inl (withChat_work s k).calm
    | ok m =>
      right
      refine ⟨k, m, ⟨hv, by simpa using hr, by simpa using hs⟩, rfl, hm, ?_⟩
      rw [bind_run_ok (lift_ok_run m _), bind_run_ok (registerMatch_run k m _)]
      have hnext : (withChat s k).nextMatch = s.nextMatch := rfl
      rw [hnext]
      rcases hj : joinMatch p s.nextMatch data.passwd (enrolled (withChat s k) k m) with ⟨e | joined, u⟩
      · rw [bind_run_error hj]
        exact Calm.refl u
      · rw [bind_run_ok hj]
        exact (sendBot_work s.nextChannel _).calm u

theorem freeMatchId_free {s : Server} {k : Fin 64} (h : s.freeMatchId = some k) :
    s.matchList k = none := by
  simpa using Fin.eq_true_of_find?_eq_some h

-- The object that the next match gets is in use by nobody yet.
theorem Orderly.fresh {s : Server} (ho : Orderly s) (q : PlayerRef) :
    (s.player q).matchRef ≠ some s.nextMatch := by
  intro h
  obtain ⟨k, hk⟩ := ho.registered h
  exact Nat.lt_irrefl _ (ho.bounded hk)

theorem enrolled_seating {s : Server} (ho : Orderly s) (k : Fin 64) {m : Match}
    (hm : ∀ i, m.slots i = {}) : (enrolled s k m).seating = s.seating := by
  refine Seating.ext rfl (funext fun r => funext fun i => ?_)
  show ((Function.update s.matchAt s.nextMatch m r).slots i).player = _
  by_cases hr : r = s.nextMatch
  · subst hr
    rw [Function.update_self, hm i]
    exact (ho.agrees.seat_eq_none ho.fresh i).symm
  · rw [Function.update_of_ne hr]
    rfl

theorem enrolled_orderly {s : Server} (ho : Orderly s) {k : Fin 64} {m : Match}
    (hk : s.matchList k = none) (hm : ∀ i, m.slots i = {}) : Orderly (enrolled s k m) := by
  have hlist : ∀ l, (enrolled s k m).matchList l =
      if l = k then some s.nextMatch else s.matchList l := fun l => by
    simp [enrolled, Function.update_apply]
  refine
    { agrees := (enrolled_seating ho k hm).symm ▸ ho.agrees
      status := fun r i => ?_
      listed := ho.listed
      registered := fun {q r} hr => ?_
      bounded := fun {l r} hl => ?_
      distinct := fun {l l' r} hl hl' => ?_ }
  · show ((Function.update s.matchAt s.nextMatch m r).slots i).status.hasPlayer =
      ((Function.update s.matchAt s.nextMatch m r).slots i).player.isSome
    by_cases hr : r = s.nextMatch
    · subst hr
      rw [Function.update_self, hm i]
      rfl
    · rw [Function.update_of_ne hr]
      exact ho.status r i
  · obtain ⟨l, hl⟩ := ho.registered hr
    refine ⟨l, ?_⟩
    rw [hlist, if_neg]
    · exact hl
    · rintro rfl
      simp [hk] at hl
  · rw [hlist] at hl
    split at hl
    · obtain rfl := Option.some.inj hl
      exact Nat.lt_succ_self _
    · exact Nat.lt_succ_of_lt (ho.bounded hl)
  · rw [hlist] at hl hl'
    split at hl <;> split at hl'
    · simp_all
    · obtain rfl := Option.some.inj hl
      exact absurd (ho.bounded hl') (Nat.lt_irrefl _)
    · obtain rfl := Option.some.inj hl'
      exact absurd (ho.bounded hl) (Nat.lt_irrefl _)
    · exact ho.distinct hl hl'

theorem matchCreate_proper (p : PlayerRef) (data : MultiplayerMatch) (now : Int) :
    Within Proper (matchCreate p data now) := by
  intro s
  rcases matchCreate_cases p data now s with hq | ⟨k, m, -, hk, hm, hq⟩
  · exact hq.toSeated.proper
  · obtain ⟨-, -, -, -, -, -, hslots⟩ := newMatch_ok hm
    have hwork := withChat_work s k
    refine (hwork.quiet.toSeated.trans_proper fun ho => ?_).trans_seated hq.toSeated
    have hreg : ∃ l, (enrolled (withChat s k) k m).matchList l = some s.nextMatch :=
      ⟨k, by simp [enrolled, hwork.nextMatch]⟩
    have hsafe : JoinSafe (enrolled (withChat s k) k m) p s.nextMatch := fun _ _ => by
      simp [enrolled, hslots, hwork.nextMatch]
    obtain ⟨hou, hkept⟩ := joinMatch_proper data.passwd hreg hsafe
      (enrolled_orderly ho (freeMatchId_free hk) hslots)
    rw [enrolled_seating ho k hslots] at hkept
    exact ⟨hou, hkept⟩

end Create

end BanchoPrism
