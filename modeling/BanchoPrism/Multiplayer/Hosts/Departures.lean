import BanchoPrism.Multiplayer.Hosts

namespace BanchoPrism

open Library Prog

section Depart

theorem firstPlayer_of_not_allEmpty {m : Match} (h : ¬m.allEmpty) :
    ∃ i q, m.firstPlayer = some q ∧ (m.slots i).player = some q := by
  unfold Match.firstPlayer
  cases hfind : Fin.find? fun i => (m.slots i).player.isSome with
  | none =>
    refine absurd ((allEmpty_iff m).mpr fun i => ?_) h
    simpa using Fin.eq_false_of_find?_eq_none hfind i
  | some i =>
    obtain ⟨q, hq⟩ := Option.isSome_iff_exists.mp (Fin.eq_true_of_find?_eq_some hfind)
    exact ⟨i, q, by rw [Option.bind_some, hq], hq⟩

theorem passHost_tended (r : MatchRef) : Within Tended (passHost r) := by
  refine Within.read_bind fun s => ?_
  split
  · rename_i q hq
    obtain ⟨i, hi, hslot⟩ := Option.bind_eq_some_iff.mp hq
    exact setHost_tended hslot
  · exact Moves.pure ()

-- After the host has been handed over.
theorem departRest_tended (s : Server) (p : PlayerRef) (r : MatchRef) : Within Tended
    (onlyIf (p ∈ (s.matchAt r).referees) (updateMatch r (fun m => { m with referees := m.referees.erase p }) >>=
        fun _ => sendBot (s.matchAt r).chat ((s.player p).name ++ " removed from match referees.")) >>=
      fun _ => enqueueState r true) := by
  refine Within.bind (Within.onlyIf (Within.bind ?_ fun _ => (sendBot_work _ _).quiet.tendedQuiet))
    fun _ => (enqueueState_quiet r true).tendedQuiet
  refine Within.tendedQuiet ?_
  exact quiet_of_slots_eq (fun _ => rfl) (fun _ => rfl) fun _ => rfl

theorem departMatch_tended (p : PlayerRef) (r : MatchRef) : Within Tended (departMatch p r) := by
  refine Within.read_bind fun s => Moves.lift_bind fun host _ => Within.moves ?_
  exact Within.bind (Within.onlyIf (passHost_tended r)) fun _ => departRest_tended s p r

-- The host leaves: the first player left is host from now on.
theorem departMatch_adopts {s : Server} {p : PlayerRef} {r : MatchRef}
    (he : ¬(s.matchAt r).allEmpty) (hp : s.players.byId (s.matchAt r).hostId = some p) :
    Moves (Adopts r) s (departMatch p r) := by
  obtain ⟨i, q, hfirst, hslot⟩ := firstPlayer_of_not_allEmpty he
  unfold departMatch
  refine Moves.read_bind ?_
  dsimp only
  rw [matchHost_ok.mpr hp, Moves, bind_run_ok (lift_ok_run p s)]
  have hpass : Moves (Adopts r) s (onlyIf (p = p) (passHost r)) := by
    rw [onlyIf, if_pos rfl]
    unfold passHost
    refine Moves.read_bind ?_
    rw [hfirst]
    exact setHost_adopts hslot
  exact Moves.bind_left (R := Adopts r) (S := Tended) (fun h h' ha => h' (h ha)) hpass
    fun _ t _ => departRest_tended s p r t

theorem AttendedBut.removeMatch {s : Server} {r : MatchRef} (ha : AttendedBut s (· = r)) :
    Attended (s.removeMatch r) := by
  have hlist := fun k r' => removeMatch_matchList r r' k fun hk hl => ha.distinct hk hl
  obtain ⟨matchList, h⟩ := removeMatch_eq s r
  rw [h] at hlist ⊢
  exact {
    id := fun {k r'} hk => ha.id ((hlist k r').mp hk).1
    bounded := fun {k r'} hk => ha.bounded ((hlist k r').mp hk).1
    sessions := ha.sessions
    known := ha.known
    listed := ha.listed
    host := fun {r'} hreg _ => by
      obtain ⟨k, hk⟩ := hreg
      obtain ⟨hk', hr⟩ := (hlist k r').mp hk
      exact ha.host ⟨k, hk'⟩ hr }

-- Once the match is off the list it needs no host.
theorem closeMatch_adopts (r : MatchRef) (s : Server) : Moves (Adopts r) s (closeMatch r) := by
  intro ha
  obtain ⟨t, u, hrun, hst, htu⟩ := closeMatch_run r s
  rw [hrun]
  exact (ha.of_hosted hst.toHosted).removeMatch.of_hosted htu.toHosted

theorem standUp_tended (s : Server) (p : PlayerRef) : Tended s (standUp s p) := by
  have hid : ∀ q, ((standUp s p).player q).id = (s.player q).id := fun q => by rw [standUp_player]
  intro ha
  exact {
    id := ha.id
    bounded := ha.bounded
    sessions := ha.sessions
    known := ha.known
    listed := ha.listed.congr rfl fun q => by rw [standUp_player]
    host := fun {r} hreg hno => by
      obtain ⟨i, hi, q, hq, hhost⟩ := ha.host hreg hno
      exact ⟨i, hi, q, hq, (hid q).trans hhost⟩ }

theorem afterLeaving_adopts {s : Server} {p : PlayerRef} {r : MatchRef}
    (h : (s.matchAt r).allEmpty ∨ s.players.byId (s.matchAt r).hostId = some p) :
    Moves (Adopts r) s (afterLeaving p r) := by
  by_cases he : (s.matchAt r).allEmpty
  · rw [Moves, afterLeaving_closed he]
    exact closeMatch_adopts r s
  · rw [Moves, afterLeaving_departed he]
    exact departMatch_adopts he (h.resolve_left he)

theorem afterLeaving_tended (p : PlayerRef) (r : MatchRef) : Within Tended (afterLeaving p r) := by
  refine Within.read_bind fun s => Moves.ite (fun _ => ?_) fun _ => departMatch_tended p r s
  exact fun ha => closeMatch_adopts r s (ha.attendedBut _)

end Depart

section Leave

-- Whoever leaves is not the only one in the match with the id of the host, or
-- can leave its chat and is its host, or the last to go.
def LeaveKeepsHost (s : Server) (p : PlayerRef) : Prop :=
  ∀ r ∈ (s.player p).matchRef, Registered s r → ∀ i ∈ (s.matchAt r).getSlotId p,
    HostSits s r (· = i) ∨ (Releases s p (s.matchAt r).chat ∧
      ((∀ k, k ≠ i → ((s.matchAt r).slots k).player = none) ∨
        s.players.byId (s.matchAt r).hostId = some p))

instance (s : Server) (p : PlayerRef) : Decidable (LeaveKeepsHost s p) := by
  unfold LeaveKeepsHost
  infer_instance

theorem vacate_onlyMatch (s : Server) (r : MatchRef) (i : Fin 16) :
    OnlyMatch s (vacate s r i) r where
  playerId _ := rfl
  others r' hr := by simp [vacate, Server.modifySlot, Server.modifyMatch, hr]
  matchId := by rw [vacate_matchAt]
  matchList := rfl
  nextMatch := rfl
  nextPlayer := rfl
  known := id
  listed := id

theorem vacate_player (s : Server) (r : MatchRef) (i k : Fin 16) :
    (((vacate s r i).matchAt r).slots k).player =
      if k = i then none else ((s.matchAt r).slots k).player := by
  by_cases hk : k = i
  · subst hk
    rw [vacate_slot_self, if_pos rfl]
    rfl
  · rw [vacate_slot_of_ne s r hk, if_neg hk]

theorem vacate_attendedBut {s : Server} {r : MatchRef} (i : Fin 16) (ha : Attended s) :
    AttendedBut (vacate s r i) (· = r) := by
  refine (vacate_onlyMatch s r i).attendedBut (ha.attendedBut _) fun {k q} hq => ?_
  rw [vacate_player] at hq
  split at hq
  · cases hq
  · exact ha.sessions (r := r) hq

theorem vacate_attended {s : Server} {r : MatchRef} {i : Fin 16} (ha : Attended s)
    (hkeep : Registered s r → HostSits s r (· = i)) : Attended (vacate s r i) := by
  refine (vacate_attendedBut i ha).attended fun hreg => ?_
  obtain ⟨k, hk, q, hq, hid⟩ := hkeep hreg
  refine ⟨k, fun h => h, q, ?_, ?_⟩
  · rw [vacate_player, if_neg hk]
    exact hq
  · rw [vacate_matchAt]
    exact hid

theorem leaveMatch_tended {s : Server} {p : PlayerRef} (hkeep : LeaveKeepsHost s p) :
    Moves Tended s (leaveMatch p) := by
  intro ha
  cases hr : (s.player p).matchRef with
  | none =>
    rw [leaveMatch_run_none hr]
    exact ha
  | some r =>
    cases hslot : (s.matchAt r).getSlotId p with
    | none =>
      rw [leaveMatch_run_unseated hr hslot]
      exact ha
    | some i =>
      rw [leaveMatch_run hr hslot]
      have hstand : Within Tended (Prog.update fun t => standUp t p : Handler Unit) :=
        Within.update fun t => standUp_tended t p
      by_cases hsits : Registered s r → HostSits s r (· = i)
      · -- the host is in another slot, and no later step takes anybody out
        refine (Within.bind (leaveChannel_work p _ true).quiet.tendedQuiet fun _ =>
          Within.bind (afterLeaving_tended p r) fun _ => hstand) _ (vacate_attended ha hsits)
      · simp only [Classical.not_imp] at hsits
        obtain ⟨hreleases, hleft⟩ := (hkeep r hr hsits.1 i hslot).resolve_left hsits.2
        obtain ⟨t, hleave⟩ := leaveChannel_ok (s := vacate s r i) (ha.listed.congr rfl fun _ => rfl)
          hreleases true
        have ht : ChannelWork (vacate s r i) t := by
          simpa [Moves, hleave] using leaveChannel_work p (s.matchAt r).chat true (vacate s r i)
        rw [bind_run_ok hleave]
        have hafter : Moves (Adopts r) t (afterLeaving p r) := by
          refine afterLeaving_adopts (hleft.imp (fun hnone => ?_) fun hp => ?_)
          · rw [ht.matchAt]
            refine (allEmpty_iff _).mpr fun k => ?_
            rw [vacate_player]
            split
            · rfl
            · exact hnone k ‹_›
          · rw [ht.players, ht.matchAt, vacate_matchAt]
            exact hp
        exact Moves.bind_left (R := Adopts r) (S := Tended) (fun h h' hb => h' (h hb)) hafter
          (fun _ u _ => hstand u) ((vacate_attendedBut i ha).of_hosted ht.quiet.toHosted)

end Leave

section Create

-- The channel c with p on both lists.
def attendedChannel (s : Server) (p : PlayerRef) (c : ChannelRef) : Server :=
  (s.modifyChannel c fun channel => { channel with players := channel.players ++ [p] }).modifyPlayer p
    fun player => { player with channels := player.channels ++ [c] }

theorem joinChannel_ok {s : Server} {p : PlayerRef} {c : ChannelRef}
    (hp : p ∉ (s.channel c).players) (hread : (s.channel c).canRead (s.player p).priv)
    (hname : (s.channel c).realName ≠ "#lobby") (hcount : (s.channel c).players.length + 1 < 2 ^ 16) :
    ∃ sent, joinChannel p c s = (.ok true, { attendedChannel s p c with sent := sent }) := by
  have hadmits : ¬(p ∈ (s.channel c).players ∨ !(s.channel c).canRead (s.player p).priv ∨
      ((s.channel c).realName = "#lobby" ∧ !(s.player p).inLobby)) := by
    simp [hp, hread, hname]
  obtain ⟨sent, hsend⟩ := send_run p (.channelJoin (s.channel c).name) (attendedChannel s p c)
  obtain ⟨sent', hcounted⟩ := announceCount_ok (s := { attendedChannel s p c with sent := sent })
    (c := c) (by
      simpa [attendedChannel, Server.modifyPlayer, Server.modifyChannel] using hcount)
  refine ⟨sent', ?_⟩
  unfold joinChannel
  rw [read_bind_run]
  dsimp only
  rw [if_neg hadmits, update_bind_run, update_bind_run]
  exact (bind_run_ok hsend).trans (bind_run_ok hcounted)

-- The lobby of a player who is on its list is small enough for its count.
def LobbySafe (s : Server) (p : PlayerRef) : Prop :=
  ∀ c ∈ (s.player p).channels, (s.channel c).realName = "#lobby" →
    p ∈ (s.channel c).players → ((s.channel c).players.erase p).length < 2 ^ 16

instance (s : Server) (p : PlayerRef) : Decidable (LobbySafe s p) := by
  unfold LobbySafe
  infer_instance

theorem leaveLobby_ok {s : Server} {p : PlayerRef} (hl : s.Listed) (h : LobbySafe s p) :
    ∃ t, leaveLobby p s = (.ok (), t) := by
  unfold leaveLobby
  rw [read_bind_run]
  cases hlobby : s.channelByName "#lobby" with
  | none => exact ⟨s, rfl⟩
  | some l =>
    dsimp only
    by_cases hin : l ∈ (s.player p).channels
    · rw [if_pos hin]
      have hname : (s.channel l).realName = "#lobby" := by simpa using List.find?_some hlobby
      exact leaveChannel_ok hl (fun hp => ⟨fun _ => List.mem_of_find?_eq_some hlobby,
        h l hin hname hp⟩) true
    · rw [if_neg hin]
      exact ⟨s, rfl⟩

-- MATCH_CREATE gets as far as putting a match on the list.
def Registers (s : Server) (p : PlayerRef) (data : MultiplayerMatch) (now : Int) : Prop :=
  validateMatchData data (s.player p).id ∧ !(s.player p).restricted ∧ !(s.player p).silenced now ∧
    s.freeMatchId.isSome ∧ (GameMode.ofValue data.mode).isSome ∧
    (MatchWinConditions.ofValue data.winCondition).isSome ∧
    (MatchTeamTypes.ofValue data.teamType).isSome

-- The creator of a match can then sit down in it.
def CreateKeepsHost (s : Server) (p : PlayerRef) (data : MultiplayerMatch) (now : Int) : Prop :=
  Registers s p data now → (s.player p).matchRef = none ∧ LobbySafe s p ∧
    ∃ host ∈ s.players.byId (s.player p).id,
      p = host ∨ data.passwd = removeEnding data.passwd "//private" ∨ s.isStaff p

instance (s : Server) (p : PlayerRef) (data : MultiplayerMatch) (now : Int) :
    Decidable (CreateKeepsHost s p data now) := by
  unfold CreateKeepsHost Registers
  infer_instance

theorem enrolled_attendedBut {s : Server} (ha : Attended s) {k : Fin 64} {m : Match}
    (hid : m.id = k) (hm : ∀ i, m.slots i = {}) :
    AttendedBut (enrolled s k m) (· = s.nextMatch) := by
  have hlist : ∀ l, (enrolled s k m).matchList l =
      if l = k then some s.nextMatch else s.matchList l := fun l => by
    simp [enrolled, Function.update_apply]
  have hmatch : ∀ r, (enrolled s k m).matchAt r = if r = s.nextMatch then m else s.matchAt r :=
    fun r => by simp [enrolled, Function.update_apply]
  have hold : ∀ {l r}, s.matchList l = some r → r ≠ s.nextMatch := fun hl =>
    Nat.ne_of_lt (ha.bounded hl)
  refine
    { id := fun {l r} hl => ?_
      bounded := fun {l r} hl => ?_
      sessions := fun {r i q} hq => ?_
      known := ha.known
      listed := ha.listed
      host := fun {r} hreg hr => ?_ }
  · rw [hlist] at hl
    rw [hmatch]
    split at hl
    · obtain rfl := Option.some.inj hl
      rw [if_pos rfl, hid, ‹l = k›]
    · rw [if_neg (hold hl)]
      exact ha.id hl
  · rw [hlist] at hl
    split at hl
    · obtain rfl := Option.some.inj hl
      exact Nat.lt_succ_self _
    · exact Nat.lt_succ_of_lt (ha.bounded hl)
  · rw [hmatch] at hq
    split at hq
    · rw [hm i] at hq
      cases hq
    · exact ha.sessions (r := r) hq
  · obtain ⟨l, hl⟩ := hreg
    rw [hlist] at hl
    split at hl
    · exact absurd (Option.some.inj hl).symm hr
    · obtain ⟨i, hi, q, hq, hhost⟩ := ha.host ⟨l, hl⟩ (fun h => h)
      refine ⟨i, hi, q, ?_, ?_⟩
      · rw [hmatch, if_neg hr]
        exact hq
      · rw [hmatch, if_neg hr]
        exact hhost

theorem matchChat_name (k : Fin 64) : (matchChat k).realName ≠ "#lobby" := by
  intro h
  have hlist := congrArg String.toList h
  simp [matchChat] at hlist

theorem validated_hostId {data : MultiplayerMatch} {id : Nat} (h : validateMatchData data id) :
    data.hostId.toNat = id := by
  simp only [validateMatchData, Bool.and_eq_true, decide_eq_true_eq] at h
  omega

-- The creator takes a slot of the new match, and is its host.
theorem created_sits {s : Server} {p : PlayerRef} {data : MultiplayerMatch} {k : Fin 64} {m : Match}
    (hl : s.Listed) (hv : validateMatchData data (s.player p).id)
    (hr : !(s.player p).restricted) (hm : newMatch data k s.nextChannel = .ok m)
    (hfree : (s.player p).matchRef = none) (hlobby : LobbySafe s p)
    (hhost : ∃ host ∈ s.players.byId (s.player p).id,
      p = host ∨ data.passwd = removeEnding data.passwd "//private" ∨ s.isStaff p) :
    ∃ i t, ChannelWork (enrolled (withChat s k) k m) t ∧
      Quiet (sitDown t p s.nextMatch i)
        (joinMatch p s.nextMatch data.passwd (enrolled (withChat s k) k m)).2 := by
  obtain ⟨-, hid, hhostId, hpasswd, hchat, htourney, hslots⟩ := newMatch_ok hm
  obtain ⟨host, hbyId, hallowed⟩ := hhost
  let e := enrolled (withChat s k) k m
  have hmatch : e.matchAt s.nextMatch = m := by simp [e, enrolled, withChat]
  have hname := validated_hostId hv
  have hchannel : e.channel m.chat = matchChat k := by simp [e, enrolled, withChat, hchat]
  obtain ⟨i, hslot⟩ : ∃ i, joinSlot e p (e.matchAt s.nextMatch) data.passwd host = some i := by
    have hopen : ∃ i, m.getFree = some i := Option.isSome_iff_exists.mp
      (Fin.isSome_find?_of_eq_true (i := 0) (by simp [hslots]))
    have hstaff : e.isStaff p = s.isStaff p := rfl
    rw [hmatch]
    unfold joinSlot
    split
    · rename_i hne
      rw [if_neg]
      · exact hopen
      · rintro ⟨hwrong, hno⟩
        rcases hallowed with h | h | h
        · exact hne h
        · exact hwrong (h.trans hpasswd.symm)
        · simp [hstaff, h] at hno
    · exact ⟨createSlot, rfl⟩
  obtain ⟨sent, hjoin⟩ := joinChannel_ok (s := e) (p := p) (c := m.chat)
    (by rw [hchannel]; simp [matchChat])
    (by
      rw [hchannel]
      have hp : (s.player p).priv.has Privileges.UNRESTRICTED := by simpa [Player.restricted] using hr
      have he : (e.player p).priv = (s.player p).priv := rfl
      simp [Channel.canRead, matchChat, he, hp])
    (by rw [hchannel]; exact matchChat_name k)
    (by rw [hchannel]; simp [matchChat])
  let t : Server := { attendedChannel e p m.chat with sent := sent }
  have hwork : ChannelWork e t := by
    simpa [Moves, hjoin] using joinChannel_work p m.chat e
  have hsafe : LobbySafe t p := by
    intro c hc hlobbyName hin
    have hne : c ≠ m.chat := by
      rintro rfl
      have : (t.channel m.chat).realName = (matchChat k).realName := by
        simp [t, attendedChannel, Server.modifyPlayer, Server.modifyChannel, hchannel]
      exact matchChat_name k (this.symm.trans hlobbyName)
    have hsame : t.channel c = s.channel c := by
      simp [t, attendedChannel, Server.modifyPlayer, Server.modifyChannel, hne, e, enrolled,
        withChat, hchat ▸ hne]
    rw [hsame] at hlobbyName hin ⊢
    refine hlobby c ?_ hlobbyName hin
    have hown : e.player p = s.player p := rfl
    have hmem : c ∈ (s.player p).channels ++ [m.chat] := by
      simpa [t, attendedChannel, Server.modifyPlayer, Server.modifyChannel, hown] using hc
    simpa [hne] using hmem
  obtain ⟨u, hleave⟩ := leaveLobby_ok (hwork.listed ((withChat_work s k).listed hl)) hsafe
  have htu : ChannelWork t u := by
    simpa [Moves, hleave] using leaveLobby_work p t
  refine ⟨i, u, hwork.trans htu, Calm.toQuiet ?_⟩
  refine joinMatch_sits hfree ?_ ?_ hslot ?_ hleave
  · rw [hmatch, htourney]
    exact List.not_mem_nil
  · rw [hmatch, hhostId, hname]
    exact hbyId
  · rw [hmatch]
    exact hjoin

theorem matchCreate_tended {s : Server} {p : PlayerRef} {data : MultiplayerMatch} {now : Int}
    (hp : p < s.nextPlayer) (hkeep : CreateKeepsHost s p data now) :
    Moves Tended s (matchCreate p data now) := by
  rcases matchCreate_cases p data now s with hq | ⟨k, m, ⟨hv, hr, hs⟩, hk, hm, hq⟩
  · exact hq.toHosted.tended
  intro ha
  obtain ⟨hvalues, hid, hhostId, -, -, -, hslots⟩ := newMatch_ok hm
  obtain ⟨hfree, hlobby, hhost⟩ := hkeep ⟨hv, hr, hs, by rw [hk]; rfl, hvalues⟩
  obtain ⟨i, t, hwork, hsit⟩ := created_sits (k := k) ha.listed hv hr hm hfree hlobby hhost
  have hbut : AttendedBut t (· = s.nextMatch) :=
    (enrolled_attendedBut (ha.of_hosted (withChat_work s k).quiet.toHosted) hid hslots).of_hosted
      hwork.quiet.toHosted
  have hsat : Attended (sitDown t p s.nextMatch i) := by
    refine sitDown_adopts (hwork.quiet.nextPlayer ▸ hp) ?_ hbut
    have hmatch : (enrolled (withChat s k) k m).matchAt s.nextMatch = m := by
      simp [enrolled, withChat]
    rw [hwork.quiet.playerId, hwork.quiet.hostId, hmatch, hhostId, validated_hostId hv]
    rfl
  exact (hsat.of_hosted hsit.toHosted).of_hosted hq.toHosted

end Create

end BanchoPrism
