import BanchoPrism.Sessions.Departures

namespace BanchoPrism

open Library Prog

-- The match r can be written, everyone in it is who is looked up by their id, and the host is
-- among them.
structure Presentable (s : Server) (r : MatchRef) : Prop where
  writable : Writable s (s.matchAt r)
  found : ∀ i q, ((s.matchAt r).slots i).player = some q →
    s.players.byId (s.player q).id = some q
  host : ∃ i q, ((s.matchAt r).slots i).player = some q ∧ (s.player q).id = (s.matchAt r).hostId

section Leaving

variable {s t : Server} {p : PlayerRef} {r : MatchRef}

theorem Presentable.congr (h : Presentable s r) (hmatch : t.matchAt r = s.matchAt r)
    (hids : ∀ q, (t.player q).id = (s.player q).id)
    (hbyId : ∀ i q, ((s.matchAt r).slots i).player = some q →
      t.players.byId (s.player q).id = s.players.byId (s.player q).id) : Presentable t r where
  writable := by
    rw [hmatch]
    exact { h.writable with slotIds := fun i q hq => hids q ▸ h.writable.slotIds i q hq }
  found i q hq := by
    rw [hmatch] at hq
    rw [hids, hbyId i q hq]
    exact h.found i q hq
  host := by
    obtain ⟨i, q, hq, hid⟩ := h.host
    rw [hmatch]
    exact ⟨i, q, hq, (hids q).trans hid⟩

theorem nextPlayer_of_company {m : Match} (h : ¬Alone m p) :
    ∃ i q, (m.slots i).player = some q ∧ q ≠ p ∧ m.nextPlayer p = some q := by
  unfold Alone at h
  simp only [not_forall, not_or] at h
  obtain ⟨j, hsome, hother⟩ := h
  have hj : (m.slots j).player.isSome && (m.slots j).player != some p := by
    rw [Bool.and_eq_true, Option.isSome_iff_ne_none, bne_iff_ne]
    exact ⟨hsome, hother⟩
  obtain ⟨i, hi⟩ := Option.isSome_iff_exists.mp (Fin.isSome_find?_of_eq_true
    (p := fun j => (m.slots j).player.isSome && (m.slots j).player != some p) hj)
  have hfound := Fin.eq_true_of_find?_eq_some hi
  simp only [Bool.and_eq_true, bne_iff_ne] at hfound
  obtain ⟨q, hq⟩ := Option.isSome_iff_exists.mp hfound.1
  refine ⟨i, q, hq, fun hqp => hfound.2 (hqp ▸ hq), ?_⟩
  unfold Match.nextPlayer
  rw [hi]
  exact hq

theorem Presentable.announces (h : Presentable s r) (hcompany : ¬Alone (s.matchAt r) p) :
    Announces s (s.matchAt r) p := by
  obtain ⟨hid, hmods, hmap, hseed, hslotMods, hslotIds, -⟩ := h.writable
  refine ⟨hid, hmods, hmap, hseed, fun i _ => ⟨fun hfree => hslotMods hfree i, hslotIds i⟩, ?_⟩
  obtain ⟨i, host, hhost, hhostId⟩ := h.host
  have hfound : s.players.byId (s.matchAt r).hostId = some host := hhostId ▸ h.found i host hhost
  unfold nextHost
  rw [hfound, Option.bind_some]
  by_cases hp : p = host
  · obtain ⟨j, q, hq, -, hnext⟩ := nextPlayer_of_company hcompany
    refine ⟨q, ?_, hslotIds j q hq⟩
    rw [if_pos hp, hnext]
    exact h.found j q hq
  · refine ⟨host, ?_, hslotIds i host hhost⟩
    rw [if_neg hp]
    rfl

theorem leaveChannel_settles {seats : PlayerRef → Option MatchRef} {c : ChannelRef}
    (h : RosteredIn seats s)
    (hcount : p ∈ (s.channel c).players → (s.channel c).players.length < 2 ^ 16) (kick : Bool) :
    ∃ t, leaveChannel p c kick s = (.ok (), t) ∧ RosteredIn seats t := by
  by_cases hp : p ∈ (s.channel c).players
  · obtain ⟨result, sent, hrun, rfl | ⟨-, hmany⟩⟩ := leaveChannel_run h hp kick
    · exact ⟨_, hrun, RosteredBut.sent (h.leaving hp) sent⟩
    · rw [left, parted_members] at hmany
      have hfew := hcount hp
      have hless : ((s.channel c).players.erase p).length ≤ (s.channel c).players.length :=
        List.length_erase_le ..
      omega
  · exact ⟨s, leaveChannel_absent hp kick, h⟩

theorem RosteredBut.beside {seats : PlayerRef → Option MatchRef} (h : RosteredIn seats s)
    (hst : Beside s t r) : RosteredIn seats t :=
  h.congr (fun q => by rw [hst.player]) (fun q => by rw [hst.player]) (fun q => by rw [hst.player])
    (fun q => by rw [hst.player]) hst.channel hst.channels hst.nextChannel
    (hst.players ▸ h.online)

-- Whatever the match of each is said to be, the rest of the roster stands.
theorem RosteredBut.standUp {seats : PlayerRef → Option MatchRef} (h : RosteredIn seats s)
    (p : PlayerRef) : RosteredIn (fun q => if q = p then none else seats q) (standUp s p) := by
  have hroster : (BanchoPrism.standUp s p).roster = s.roster :=
    Roster.ext rfl (funext fun q => by simp only [Server.roster, standUp_player])
  have haudience : (BanchoPrism.standUp s p).audience = s.audience :=
    Roster.ext (funext fun q => by simp only [Server.audience, standUp_player])
      (funext fun q => by simp only [Server.audience, standUp_player])
  exact {
    place := fun q => by rw [standUp_player, h.place]
    roster := hroster ▸ h.roster
    audience := haudience ▸ h.audience
    listed := h.listed
    blank := h.blank
    channels_lt := h.channels_lt
    online := h.online }

theorem Beside.removeMatch (s : Server) (r : MatchRef) : Beside s (s.removeMatch r) r := by
  obtain ⟨matchList, hremove⟩ := removeMatch_eq s r
  rw [hremove]
  constructor <;> intros <;> rfl

theorem closeMatch_beside (r : MatchRef) (s : Server) :
    ∃ t, closeMatch r s = (.ok (), t) ∧ Beside s t r := by
  let u := s.modifyMatch r fun m => { m with starting := none }
  have hclosed : Beside s (u.removeMatch r) r :=
    (Beside.of_modifyMatch rfl).trans (Beside.removeMatch u r)
  have hrun : closeMatch r s = disposeMatch r (u.removeMatch r) := rfl
  rw [hrun]
  unfold disposeMatch
  rw [read_bind_run]
  cases (u.removeMatch r).channelByName "#lobby" with
  | none => exact ⟨_, rfl, hclosed⟩
  | some lobby =>
    obtain ⟨sent, hsend⟩ := sendAll_run ((u.removeMatch r).channel lobby).players
      (.disposeMatch ((u.removeMatch r).matchAt r).id) (u.removeMatch r)
    exact ⟨_, hsend, hclosed.trans (Beside.of_sent sent)⟩

-- What p leaves behind in leaving the match.
structure LeavesMatch (p : PlayerRef) (s t : Server) : Prop where
  orderly : Orderly t
  rostered : RosteredIn (fun q => if q = p then none else (s.player q).matchRef) t
  registry : SameRegistry s t
  spectating : ∀ q, (t.player q).spectating = (s.player q).spectating
  thins : Thins
    (fun q c => q = p ∧ ∃ r, (s.player p).matchRef = some r ∧ (s.matchAt r).chat = c) s t
  chat : ∀ r, (t.matchAt r).chat = (s.matchAt r).chat
  presentable : ∀ q r, (t.player q).matchRef = some r → Presentable s r → Presentable t r

theorem SameRegistry.playerId (h : SameRegistry s t) (q : PlayerRef) :
    (t.player q).id = (s.player q).id := congrArg Keys.id (h.keys q)

-- Whoever is in the match after p was there before, in the same slot.
theorem vacate_company (ho : Orderly s) {i j : Fin 16} {q : PlayerRef}
    (hi : ((s.matchAt r).slots i).player = some p) :
    (((vacate s r i).matchAt r).slots j).player = some q ↔
      q ≠ p ∧ ((s.matchAt r).slots j).player = some q := by
  by_cases hj : j = i
  · subst hj
    rw [vacate_slot_self, hi]
    constructor
    · intro h
      cases h
    · rintro ⟨hqp, h⟩
      exact absurd (Option.some.inj h).symm hqp
  · rw [vacate_slot_of_ne s r hj]
    refine ⟨fun h => ⟨?_, h⟩, And.right⟩
    rintro rfl
    exact hj (ho.agrees.unique (r := r) h hi)

-- The match that p departs from stays fit to be shown, with a host from among those left.
theorem Presentable.departed {u : Server} {i : Fin 16} (h : Presentable s r) (ho : Orderly s)
    (hi : ((s.matchAt r).slots i).player = some p) (hcompany : ¬Alone (s.matchAt r) p)
    (ht : ChannelWork (vacate s r i) t) (hu : SameText t u r)
    (hhost : (s.players.byId (s.matchAt r).hostId ≠ some p ∧
        (u.matchAt r).hostId = (s.matchAt r).hostId) ∨
      ∃ q, (s.matchAt r).nextPlayer p = some q ∧ (u.matchAt r).hostId = (s.player q).id) :
    Presentable u r := by
  have hwritable : Writable u (u.matchAt r) :=
    hu.writable (ht.writable ((h.announces hcompany).writable ho hi))
  obtain ⟨referees, hm⟩ := hu.matchAt
  have hslots : (u.matchAt r).slots = ((vacate s r i).matchAt r).slots := by
    rw [hm, ht.matchAt]
  have hids : ∀ q, (u.player q).id = (s.player q).id := fun q => by
    rw [hu.player]
    exact ht.quiet.playerId q
  have hplayers : u.players = s.players := hu.players.trans ht.players
  refine ⟨hwritable, fun j q hq => ?_, ?_⟩
  · rw [hslots, vacate_company ho hi] at hq
    rw [hplayers, hids]
    exact h.found j q hq.2
  · rw [hslots]
    rcases hhost with ⟨hother, hkept⟩ | ⟨q, hnext, hid⟩
    · obtain ⟨j, host, hseat, hid⟩ := h.host
      refine ⟨j, host, (vacate_company ho hi).mpr ⟨?_, hseat⟩, ?_⟩
      · rintro rfl
        exact hother (hid ▸ h.found j host hseat)
      · rw [hids, hkept, hid]
    · obtain ⟨j, q', hseat, hne, hnext'⟩ := nextPlayer_of_company hcompany
      obtain rfl := Option.some.inj (hnext.symm.trans hnext')
      exact ⟨j, q, (vacate_company ho hi).mpr ⟨hne, hseat⟩, (hids q).trans hid.symm⟩

theorem alone_of_allEmpty (ho : Orderly s) {i : Fin 16}
    (hi : ((s.matchAt r).slots i).player = some p) (he : ((vacate s r i).matchAt r).allEmpty) :
    Alone (s.matchAt r) p := by
  intro j
  cases hq : ((s.matchAt r).slots j).player with
  | none => exact .inl rfl
  | some q =>
    by_cases hqp : q = p
    · exact .inr (congrArg some hqp)
    · have hseat := (vacate_company ho hi).mpr ⟨hqp, hq⟩
      rw [(allEmpty_iff _).mp he j] at hseat
      cases hseat

-- Once p is out of the slot and the chat, the match is closed or goes on without p.
theorem afterLeaving_settles (ho : Orderly s) {i : Fin 16}
    (hi : ((s.matchAt r).slots i).player = some p) (ht : ChannelWork (vacate s r i) t)
    (hfit : Presentable s r) :
    ∃ u, afterLeaving p r t = (.ok (), u) ∧ Beside t u r ∧
      (¬Alone (s.matchAt r) p → Presentable u r) := by
  by_cases he : (t.matchAt r).allEmpty
  · obtain ⟨u, hclose, hbeside⟩ := closeMatch_beside r t
    have halone := alone_of_allEmpty ho hi (ht.vacated_allEmpty ▸ he)
    exact ⟨u, (afterLeaving_closed he).trans hclose, hbeside,
      fun hcompany => absurd halone hcompany⟩
  · have hcompany : ¬Alone (s.matchAt r) p := fun halone =>
      he (ht.vacated_allEmpty.trans (allEmpty_vacate ho hi halone))
    obtain ⟨u, hdepart, hsame, hhost⟩ := departVacated_ok ho hi (hfit.announces hcompany) ht
    exact ⟨u, (afterLeaving_departed he).trans hdepart, hsame.toBeside,
      fun _ => hfit.departed ho hi hcompany ht hsame hhost⟩

theorem RosteredBut.releases {seats : PlayerRef → Option MatchRef} (h : RosteredIn seats s)
    {c : ChannelRef}
    (hcount : p ∈ (s.channel c).players → (s.channel c).players.length < 2 ^ 16) :
    Releases s p c := by
  intro hp
  refine ⟨fun hlast => (h.listed c hlast.2 (List.ne_nil_of_mem hp)).resolve_right id, ?_⟩
  exact (List.length_erase_le ..).trans_lt (hcount hp)

theorem leaveMatch_leaves (ho : Orderly s)
    (h : RosteredIn (fun q => (s.player q).matchRef) s)
    (hcounts : ∀ c, p ∈ (s.channel c).players → (s.channel c).players.length < 2 ^ 16)
    (hmatch : ∀ r, (s.player p).matchRef = some r → Presentable s r) :
    ∃ t, leaveMatch p s = (.ok (), t) ∧ LeavesMatch p s t := by
  cases hr : (s.player p).matchRef with
  | none =>
    refine ⟨s, leaveMatch_run_none hr, ?_⟩
    have hplace : ∀ q, (s.player q).matchRef = if q = p then none else (s.player q).matchRef := by
      intro q
      split
      · rename_i hq
        rw [hq, hr]
      · rfl
    exact {
      orderly := ho
      rostered := { h with place := hplace }
      registry := SameRegistry.refl s
      spectating := fun _ => rfl
      thins := refl_of (Thins _) s
      chat := fun _ => rfl
      presentable := fun _ _ _ hfit => hfit }
  | some r =>
    obtain ⟨i, hslot⟩ := ho.getSlotId_isSome hr
    have hi := getSlotId_player hslot
    have hfit := hmatch r hr
    have hvacated : RosteredIn (fun q => (s.player q).matchRef) (vacate s r i) :=
      h.congr (fun _ => rfl) (fun _ => rfl) (fun _ => rfl) (fun _ => rfl) rfl rfl rfl h.online
    obtain ⟨t, hleave, hrostered⟩ := leaveChannel_settles hvacated
      (hcounts (s.matchAt r).chat) true
    have ht : ChannelWork (vacate s r i) t := (leaveChannel_work p _ true).run hleave
    have hthins := (leaveChannel_own p _ true).run hleave
    obtain ⟨u, hafter, hbeside, hkept⟩ := afterLeaving_settles ho hi ht hfit
    have hrun : leaveMatch p s = (.ok (), standUp u p) := by
      rw [leaveMatch_run hr hslot, bind_run_ok hleave, bind_run_ok hafter]
      rfl
    have hsafe : LeaveSafe s p := by
      intro r' hr'
      obtain rfl := Option.some.inj (hr.symm.trans hr')
      refine ⟨h.releases (hcounts _), ?_⟩
      by_cases halone : Alone (s.matchAt r) p
      · exact .inl halone
      · exact .inr (hfit.announces halone)
    have hproper := leaveMatch_proper hsafe
    unfold Moves at hproper
    rw [hrun] at hproper
    have hplayer : ∀ q, (u.player q).matchRef = (s.player q).matchRef ∧
        (u.player q).spectating = (s.player q).spectating ∧ (u.player q).id = (s.player q).id := by
      intro q
      rw [hbeside.player, ht.player q]
      exact ⟨rfl, rfl, rfl⟩
    refine ⟨standUp u p, hrun, ?_⟩
    constructor
    case orderly => exact (hproper ho).1
    case rostered => exact (hrostered.beside hbeside).standUp p
    case registry => exact (leaveMatch_registry p).run hrun
    case spectating =>
      intro q
      rw [standUp_player]
      exact (hplayer q).2.1
    case thins =>
      have hfirst : Thins (fun q c => q = p ∧ c = (s.matchAt r).chat) s (vacate s r i) :=
        Thins.of_same rfl rfl
      have hlast : Thins (fun q c => q = p ∧ c = (s.matchAt r).chat) t (standUp u p) :=
        Thins.of_same hbeside.channel hbeside.channels
      refine (trans_of _ hfirst (trans_of _ hthins hlast)).mono ?_
      rintro q c ⟨hq, hc⟩
      exact ⟨hq, r, hr, hc.symm⟩
    case chat =>
      intro r'
      have hvacate : ((vacate s r i).matchAt r').chat = (s.matchAt r').chat := by
        by_cases hr' : r' = r
        · subst hr'
          rw [vacate_matchAt]
        · simp [vacate, Server.modifySlot, Server.modifyMatch, hr']
      change (u.matchAt r').chat = _
      rw [← hvacate, ← ht.matchAt]
      by_cases hr' : r' = r
      · rw [hr']
        exact hbeside.chat
      · rw [hbeside.others r' hr']
    case presentable =>
      intro q r' hq hbefore
      have hids : ∀ q, ((standUp u p).player q).id = (s.player q).id := fun q => by
        rw [standUp_player]
        exact (hplayer q).2.2
      rw [standUp_player] at hq
      have hqp : q ≠ p := by
        rintro rfl
        rw [if_pos rfl] at hq
        cases hq
      rw [if_neg hqp, (hplayer q).1] at hq
      by_cases hr' : r' = r
      · subst hr'
        have hcompany : ¬Alone (s.matchAt r') p := by
          intro halone
          obtain ⟨j, hj⟩ := ho.agrees.present (g := q) (r := r') hq
          have hseat : ((s.matchAt r').slots j).player = some q := hj
          rcases halone j with hnone | hself
          · rw [hnone] at hseat
            cases hseat
          · rw [hself] at hseat
            exact hqp (Option.some.inj hseat).symm
        refine (hkept hcompany).congr rfl (fun q => ?_) fun _ _ _ => rfl
        rw [hids, (hplayer q).2.2]
      · have hothers : (standUp u p).matchAt r' = s.matchAt r' := by
          refine (hbeside.others r' hr').trans ?_
          rw [ht.matchAt]
          simp [vacate, Server.modifySlot, Server.modifyMatch, hr']
        have hplayers : (standUp u p).players = s.players := hbeside.players.trans ht.players
        exact hbefore.congr hothers hids fun _ _ _ => by rw [hplayers]

end Leaving

section Closing

variable {s t : Server} {p : PlayerRef}

def SameMatches (s t : Server) : Prop := t.matchAt = s.matchAt

instance : Std.Refl SameMatches := ⟨fun _ => rfl⟩

instance : IsTrans Server SameMatches := ⟨fun _ _ _ h h' => Eq.trans h' h⟩

theorem Library.Prog.Within.sameMatches {α : Type} {x : Handler α} (h : Within ChannelWork x) :
    Within SameMatches x :=
  h.mono fun _ _ hwork => hwork.matchAt

theorem modifyPlayer_matches (p : PlayerRef) (f : Player → Player) :
    Within SameMatches (Prog.update fun s => s.modifyPlayer p f : Handler Unit) :=
  Within.update fun _ => rfl

theorem removeSpectator_matches (host p : PlayerRef) :
    Within SameMatches (removeSpectator host p) := by
  refine Within.read_bind fun s => Moves.ite (fun _ => ?_) fun _ => Moves.raise _
  refine Within.moves (Within.bind (modifyPlayer_matches host _) fun _ => ?_)
  refine Within.bind (modifyPlayer_matches p _) fun _ => ?_
  split
  · exact Within.raise _
  refine Within.bind (leaveChannel_work p _ true).sameMatches fun _ => Within.read_bind fun t => ?_
  refine Within.moves (Within.bind (Within.onlyIf (leaveChannel_work host _ true).sameMatches)
    fun _ => ?_)
  refine Within.bind (Within.onlyIf (Within.bind (Within.lift _) fun info => ?_)) fun _ => ?_
  · refine Within.bind (send_work host info).sameMatches fun _ => ?_
    exact Within.bind (sendAll_work _ _).sameMatches fun _ => (sendAll_work _ info).sameMatches
  · exact (send_work host _).sameMatches

theorem playersRemove_matches (p : PlayerRef) : Within SameMatches (playersRemove p) := by
  intro s
  obtain ⟨result, players, hrun, -⟩ := playersRemove_outcome p s
  unfold Moves
  rw [hrun]
  rfl

theorem closeSession_matches (p : PlayerRef) : Within SameMatches (closeSession p) := by
  refine Within.bind (Within.read_bind fun s => ?_) fun _ => Within.read_bind fun s => ?_
  · split
    · exact removeSpectator_matches _ p s
    · exact Moves.pure ()
  refine Within.moves (Within.bind (leaveChannels_work p _).sameMatches fun _ => ?_)
  refine Within.bind (playersRemove_matches p) fun _ => ?_
  refine Within.bind (modifyPlayer_matches p _) fun _ => ?_
  exact Within.read_bind fun t => (Within.onlyIf (sendAll_work _ _)).sameMatches t

-- Of the player list and the keys, a logout changes what players.remove does, and a token.
theorem logout_parts (h : logout p s = (.ok (), t)) :
    ∃ silent removed, SameRegistry s silent ∧ playersRemove p silent = (.ok (), removed) ∧
      SameRegistry (removed.modifyPlayer p fun player => { player with token := "" }) t := by
  obtain ⟨_, left, hleave, hclose⟩ := bind_eq_ok h
  obtain ⟨_, quit, hquit, hrest⟩ := bind_eq_ok hclose
  rw [read_bind_run] at hrest
  obtain ⟨_, silent, hchannels, hrest⟩ := bind_eq_ok hrest
  obtain ⟨_, removed, hremove, hrest⟩ := bind_eq_ok hrest
  rw [update_bind_run, read_bind_run] at hrest
  have hleft := (leaveMatch_registry p).run hleave
  have hquit := (quitSpectating_registry p).run hquit
  have hsilent := (leaveChannels_registry p _).run hchannels
  exact ⟨silent, removed, hleft.trans (hquit.trans hsilent), hremove,
    (Within.onlyIf (sendAll_registry _ _)).run hrest⟩

-- A logout that goes through takes the player off the list, and no one else.
theorem logout_list (h : logout p s = (.ok (), t)) :
    t.players.list = s.players.list.erase p := by
  obtain ⟨silent, removed, hsilent, hremove, hremoved⟩ := logout_parts h
  obtain ⟨result, players, hrun, hlist, -⟩ := playersRemove_outcome p silent
  obtain ⟨-, rfl⟩ := Prod.mk.inj (hrun.symm.trans hremove)
  have hplayers : t.players = players := hremoved.players
  rw [hplayers, hlist, hsilent.players]

-- It finds an entry under each key of the player, and deletes these.
theorem logout_keys (h : logout p s = (.ok (), t)) (hp : p ∈ s.players.list) :
    Login.Indexes s p ∧ t.players = (Login.dropped s p).players ∧
      ∀ q, q ≠ p → (t.player q).keys = (s.player q).keys := by
  obtain ⟨silent, removed, hsilent, hremove, hremoved⟩ := logout_parts h
  rw [← hsilent.players] at hp
  by_cases hindexes : Login.Indexes silent p
  case neg =>
    obtain ⟨players, hrun, -⟩ := Login.playersRemove_run_missing hp hindexes
    rw [hrun] at hremove
    cases hremove
  have hrun := Login.playersRemove_run hp hindexes
  obtain ⟨-, rfl⟩ := Prod.mk.inj (hrun.symm.trans hremove)
  have hkeys := hsilent.keys p
  refine ⟨(Login.Indexes.of_same hsilent).mp hindexes, ?_, fun q hq => ?_⟩
  · have hplayers : t.players = (Login.dropped silent p).players := hremoved.players
    have htoken : (silent.player p).token = (s.player p).token := congrArg Keys.token hkeys
    have hid : (silent.player p).id = (s.player p).id := congrArg Keys.id hkeys
    have hname : (silent.player p).safeName = (s.player p).safeName :=
      congrArg Keys.safeName hkeys
    rw [hplayers]
    unfold Login.dropped
    rw [hsilent.players, htoken, hid, hname]
  · refine (hremoved.keys q).trans (Eq.trans ?_ (hsilent.keys q))
    simp [Server.modifyPlayer, Login.dropped, hq]

end Closing

namespace Background

section Order

-- Before one of the ghosts logs out: the two sides of channels, spectating and matches agree, who
-- watches is in the one channel for it, no count is too large for its field, and the matches that
-- ghosts are in can be shown.
structure InOrder (ghosts : List PlayerRef) (s : Server) : Prop where
  orderly : Orderly s
  rostered : RosteredIn (fun q => (s.player q).matchRef) s
  watching : ∀ p ∈ ghosts, ∀ host, (s.player p).spectating = some host →
    spectatorChannelName s p ≠ spectatorChannelName s host ∧
      ∃ c, s.channelByName (spectatorChannelName s host) = some c ∧ p ∈ (s.channel c).players ∧
        ∀ r, (s.player p).matchRef = some r → (s.matchAt r).chat ≠ c
  counts : ∀ p ∈ ghosts, ∀ c, p ∈ (s.channel c).players → (s.channel c).players.length < 2 ^ 16
  presentable : ∀ p ∈ ghosts, ∀ r, (s.player p).matchRef = some r → Presentable s r
  alone : ∀ p ∈ ghosts, ∀ r, (s.player p).matchRef = some r →
    ∀ q, (s.player q).matchRef = some r → ∀ g ∈ ghosts, (s.player g).id = (s.player q).id → g = q

variable {s t : Server} {p : PlayerRef} {ghosts rest : List PlayerRef}

-- Outside of matches the channels are all there is to ask for.
theorem InOrder.of_rostered (ho : Orderly s) (h : Rostered s)
    (hwatching : ∀ p ∈ ghosts, ∀ host, (s.player p).spectating = some host →
      spectatorChannelName s p ≠ spectatorChannelName s host ∧
        ∃ c, s.channelByName (spectatorChannelName s host) = some c ∧ p ∈ (s.channel c).players)
    (hcounts : ∀ p ∈ ghosts, ∀ c ∈ (s.player p).channels,
      (s.channel c).players.length < 2 ^ 16) : InOrder ghosts s := by
  have hnone : ∀ {p r}, (s.player p).matchRef ≠ some r := fun {p r} hr => by
    rw [h.place] at hr
    cases hr
  constructor
  case orderly => exact ho
  case rostered => exact { h with place := fun _ => rfl }
  case watching =>
    intro p hp host hsome
    obtain ⟨hnames, c, hfound, hin⟩ := hwatching p hp host hsome
    exact ⟨hnames, c, hfound, hin, fun _ hr => absurd hr hnone⟩
  case counts => exact fun p hp c hin => hcounts p hp c ((h.roster.mem_iff c p).mp hin)
  case presentable => exact fun _ _ _ hr => absurd hr hnone
  case alone => exact fun _ _ _ hr => absurd hr hnone

theorem spectatorChannelName_congr (hids : ∀ q, (t.player q).id = (s.player q).id)
    (host : PlayerRef) : spectatorChannelName t host = spectatorChannelName s host := by
  unfold spectatorChannelName
  rw [hids]

-- Out of the match, p is still in the channel of the spectators, which is still found.
theorem InOrder.watched (h : InOrder (p :: rest) s) (ht : LeavesMatch p s t) {host : PlayerRef}
    (hsome : (t.player p).spectating = some host) :
    ∃ c, t.channelByName (spectatorChannelName t host) = some c ∧ p ∈ (s.channel c).players := by
  rw [ht.spectating] at hsome
  obtain ⟨-, c, hfound, hin, hchat⟩ := h.watching p List.mem_cons_self host hsome
  rw [spectatorChannelName_congr (ht.registry.playerId)]
  have hstays : p ∈ (t.channel c).players := by
    refine ht.thins.stays p c ?_ hin
    rintro ⟨-, r, hr, rfl⟩
    exact hchat r hr rfl
  exact ⟨c, ht.thins.named _ c hfound (List.ne_nil_of_mem hstays), hin⟩

-- With its keys in the indexes, nothing keeps such a session from its end.
theorem InOrder.closes (h : InOrder (p :: rest) s) (ht : LeavesMatch p s t)
    (hkeys : Login.Indexes s p) : ∃ u, closeSession p t = (.ok (), u) := by
  have hcounts : ∀ c, p ∈ (s.channel c).players → (t.channel c).players.length < 2 ^ 16 :=
    fun c hin => (ht.thins.fewer c).length_le.trans_lt (h.counts p List.mem_cons_self c hin)
  rcases hrun : closeSession p t with ⟨e | _, u⟩
  case ok => exact ⟨u, rfl⟩
  have hends := (closeSession_run ht.rostered p).1
  rw [hrun] at hends
  exfalso
  cases hends.raised e rfl with
  | gone hsome hgone =>
    obtain ⟨c, hfound, -⟩ := h.watched ht hsome
    rw [hgone] at hfound
    cases hfound
  | @crowded c hleft hcount =>
    have hin : p ∈ (s.channel c).players := by
      rcases hleft with hin | ⟨host, hsome, hfound⟩
      · exact (ht.thins.fewer c).subset hin
      · obtain ⟨c', hfound', hin⟩ := h.watched ht hsome
        exact Option.some.inj (hfound'.symm.trans hfound) ▸ hin
    exact absurd hcount (Nat.not_le_of_lt (hcounts c hin))
  | key honline hlost => exact hlost ((Login.Indexes.of_same ht.registry).mpr hkeys)

-- One logout leaves the rest in order.
theorem InOrder.logout (h : InOrder (p :: rest) s) (hp : p ∈ s.players.list) (hrest : p ∉ rest)
    (hkeys : Login.Indexes s p) :
    ∃ u, BanchoPrism.logout p s = (.ok (), u) ∧ InOrder rest u := by
  have hself : p ∈ p :: rest := List.mem_cons_self
  obtain ⟨t, hleave, ht⟩ := leaveMatch_leaves h.orderly h.rostered (h.counts p hself)
    (h.presentable p hself)
  obtain ⟨u, hclose⟩ := h.closes ht hkeys
  have hrun : BanchoPrism.logout p s = (.ok (), u) := by
    unfold BanchoPrism.logout
    rw [bind_run_ok hleave]
    exact hclose
  obtain ⟨-, hplayers, -⟩ := logout_keys hrun hp
  have hcalm : Calm t u := (closeSession_calm p).run hclose
  have hmatches : u.matchAt = t.matchAt := (closeSession_matches p).run hclose
  have hends := (closeSession_run ht.rostered p).1
  have hthins := closeSession_thins p t
  unfold Moves at hthins
  rw [hclose] at hends hthins
  have hids : ∀ q, (u.player q).id = (s.player q).id := fun q =>
    (hcalm.playerId q).trans (ht.registry.playerId q)
  have hfewer : ∀ c, (u.channel c).players.Sublist (s.channel c).players := fun c =>
    (hthins.fewer c).trans (ht.thins.fewer c)
  have hplace : ∀ q r, (u.player q).matchRef = some r ↔ q ≠ p ∧ (s.player q).matchRef = some r := by
    intro q r
    rw [hcalm.place q, ht.rostered.place q]
    split
    · rename_i hq
      simp [hq]
    · rename_i hq
      simp [hq]
  refine ⟨u, hrun, ?_⟩
  constructor
  case orderly => exact ht.orderly.of_seated hcalm.toSeated
  case rostered => exact { hends.rostered with place := fun _ => rfl }
  case watching =>
    intro g hg host hsome
    have hgp : g ≠ p := fun hgp => hrest (hgp ▸ hg)
    have hsome' : (s.player g).spectating = some host := by
      have hspectating := hends.spectating g
      rw [if_neg hgp] at hspectating
      exact (ht.spectating g).symm.trans (hspectating.symm.trans hsome)
    obtain ⟨hnames, c, hfound, hin, hchat⟩ := h.watching g (List.mem_cons_of_mem p hg) host hsome'
    have hint : g ∈ (t.channel c).players := ht.thins.stays g c (fun hleaves => hgp hleaves.1) hin
    have hfoundt := ht.thins.named _ c hfound (List.ne_nil_of_mem hint)
    have hinu : g ∈ (u.channel c).players := by
      refine hthins.stays g c ?_ hint
      rintro (hself | ⟨-, hown⟩)
      · exact hgp hself
      -- the channel has one name only
      have hname : spectatorChannelName t g = spectatorChannelName s host := by
        have hfirst := List.find?_some hown
        have hsecond := List.find?_some hfoundt
        rw [beq_iff_eq] at hfirst hsecond
        exact hfirst.symm.trans hsecond
      rw [spectatorChannelName_congr (ht.registry.playerId)] at hname
      exact hnames hname
    rw [spectatorChannelName_congr hids, spectatorChannelName_congr hids]
    refine ⟨hnames, c, hthins.named _ c hfoundt (List.ne_nil_of_mem hinu), hinu, fun r hr => ?_⟩
    rw [hmatches, ht.chat]
    exact hchat r ((hplace g r).mp hr).2
  case counts =>
    intro g hg c hin
    have hbefore := h.counts g (List.mem_cons_of_mem p hg) c ((hfewer c).subset hin)
    exact (hfewer c).length_le.trans_lt hbefore
  case presentable =>
    intro g hg r hr
    have hr' := ((hplace g r).mp hr).2
    have hfit := ht.presentable g r ((hcalm.place g).symm.trans hr)
      (h.presentable g (List.mem_cons_of_mem p hg) r hr')
    refine hfit.congr (congrFun hmatches r) hcalm.playerId fun i q hq => ?_
    -- who is still in the match has another id than p
    have hqr : (t.player q).matchRef = some r := ht.orderly.agrees.seated (r := r) hq
    obtain ⟨hqp, hqr'⟩ := (hplace q r).mp ((hcalm.place q).trans hqr)
    have hother : (s.player q).id ≠ (s.player p).id := fun hid =>
      hqp (h.alone g (List.mem_cons_of_mem p hg) r hr' q hqr' p hself hid.symm).symm
    rw [hplayers, ht.registry.players, ht.registry.playerId]
    exact Function.update_of_ne hother _ _
  case alone =>
    intro g hg r hr q hq g' hg' hid
    rw [hids, hids] at hid
    exact h.alone g (List.mem_cons_of_mem p hg) r ((hplace g r).mp hr).2 q ((hplace q r).mp hq).2
      g' (List.mem_cons_of_mem p hg') hid

-- Every ghost has entries under its keys, and no two of them share a key: the session of a player
-- and a tourney client beside it do.
structure Keyed (ghosts : List PlayerRef) (s : Server) : Prop where
  indexes : ∀ p ∈ ghosts, Login.Indexes s p
  distinct : ghosts.Pairwise fun p q => (s.player p).token ≠ (s.player q).token ∧
    (s.player p).id ≠ (s.player q).id ∧ (s.player p).safeName ≠ (s.player q).safeName

instance (s : Server) (p : PlayerRef) : Decidable (Login.Indexes s p) :=
  decidable_of_iff (_ ∧ _ ∧ _) ⟨fun h => ⟨h.1, h.2.1, h.2.2⟩, fun h => ⟨h.token, h.id, h.name⟩⟩

instance (ghosts : List PlayerRef) (s : Server) : Decidable (Keyed ghosts s) :=
  decidable_of_iff (_ ∧ _) ⟨fun h => ⟨h.1, h.2⟩, fun h => ⟨h.indexes, h.distinct⟩⟩

theorem update_isSome {κ : Type} [DecidableEq κ] {index : κ → Option PlayerRef} {key k : κ} :
    (Function.update index key none k).isSome ↔ key ≠ k ∧ (index k).isSome := by
  by_cases hk : k = key
  · subst hk
    simp
  · simp [Function.update_of_ne hk, Ne.symm hk]

-- Once p is out of the indexes, the others are where they were unless p took an entry along.
theorem indexes_of_dropped (hplayers : t.players = (Login.dropped s p).players) {q : PlayerRef}
    (hkeys : (t.player q).keys = (s.player q).keys) :
    Login.Indexes t q ↔ Login.Indexes s q ∧ (s.player p).token ≠ (s.player q).token ∧
      (s.player p).id ≠ (s.player q).id ∧ (s.player p).safeName ≠ (s.player q).safeName := by
  have htoken : (t.player q).token = (s.player q).token := congrArg Keys.token hkeys
  have hid : (t.player q).id = (s.player q).id := congrArg Keys.id hkeys
  have hname : (t.player q).safeName = (s.player q).safeName := congrArg Keys.safeName hkeys
  have hparts : Login.Indexes t q ↔
      (Function.update s.players.byToken (s.player p).token none (s.player q).token).isSome ∧
        (Function.update s.players.byId (s.player p).id none (s.player q).id).isSome ∧
          (Function.update s.players.byName (s.player p).safeName none
            (s.player q).safeName).isSome := by
    rw [← htoken, ← hid, ← hname]
    constructor
    · rintro ⟨ht, hi, hn⟩
      rw [hplayers] at ht hi hn
      exact ⟨ht, hi, hn⟩
    · rintro ⟨ht, hi, hn⟩
      constructor <;> rw [hplayers] <;> assumption
  rw [hparts, update_isSome, update_isSome, update_isSome]
  constructor
  · rintro ⟨⟨ht, ht'⟩, ⟨hi, hi'⟩, hn, hn'⟩
    exact ⟨⟨ht', hi', hn'⟩, ht, hi, hn⟩
  · rintro ⟨⟨ht', hi', hn'⟩, ht, hi, hn⟩
    exact ⟨⟨ht, ht'⟩, ⟨hi, hi'⟩, hn, hn'⟩

theorem keyed_cons_iff (hplayers : t.players = (Login.dropped s p).players)
    (hkeys : ∀ q ∈ rest, (t.player q).keys = (s.player q).keys) :
    Keyed (p :: rest) s ↔ Login.Indexes s p ∧ Keyed rest t := by
  have hindexes := fun q hq => indexes_of_dropped hplayers (hkeys q hq)
  have hpairs : rest.Pairwise (fun q q' => (s.player q).token ≠ (s.player q').token ∧
        (s.player q).id ≠ (s.player q').id ∧ (s.player q).safeName ≠ (s.player q').safeName) ↔
      rest.Pairwise fun q q' => (t.player q).token ≠ (t.player q').token ∧
        (t.player q).id ≠ (t.player q').id ∧ (t.player q).safeName ≠ (t.player q').safeName := by
    refine List.Pairwise.iff_of_mem fun {q q'} hq hq' => ?_
    have hsame : ∀ {g}, g ∈ rest → (t.player g).token = (s.player g).token ∧
        (t.player g).id = (s.player g).id ∧ (t.player g).safeName = (s.player g).safeName :=
      fun hg => ⟨congrArg Keys.token (hkeys _ hg), congrArg Keys.id (hkeys _ hg),
        congrArg Keys.safeName (hkeys _ hg)⟩
    rw [(hsame hq).1, (hsame hq).2.1, (hsame hq).2.2, (hsame hq').1, (hsame hq').2.1,
      (hsame hq').2.2]
  constructor
  · rintro ⟨hall, hdistinct⟩
    obtain ⟨hfirst, hrest⟩ := List.pairwise_cons.mp hdistinct
    refine ⟨hall p List.mem_cons_self, fun q hq => ?_, hpairs.mp hrest⟩
    exact (hindexes q hq).mpr ⟨hall q (List.mem_cons_of_mem p hq), hfirst q hq⟩
  · rintro ⟨hp, hall, hrest⟩
    refine ⟨fun q hq => ?_, List.pairwise_cons.mpr ⟨fun q hq => ?_, hpairs.mpr hrest⟩⟩
    · rcases List.mem_cons.mp hq with rfl | hq
      · exact hp
      · exact ((hindexes q hq).mp (hall q hq)).1
    · exact ((hindexes q hq).mp (hall q hq)).2

-- All can be logged out one after the other just where they are keyed. By induction on the list:
-- a logout leaves the rest in order, and keyed unless it takes one of their keys along.
theorem eachLogout_ok_iff (h : InOrder ghosts s) (honline : ∀ g ∈ ghosts, g ∈ s.players.list)
    (hnodup : ghosts.Nodup) :
    (Prog.each BanchoPrism.logout ghosts s).1 = .ok () ↔ Keyed ghosts s := by
  induction ghosts generalizing s with
  | nil => exact iff_of_true rfl ⟨fun p hp => absurd hp List.not_mem_nil, List.Pairwise.nil⟩
  | cons p rest ih =>
    obtain ⟨hrest, hnodup⟩ := List.nodup_cons.mp hnodup
    have hp := honline p List.mem_cons_self
    change ((BanchoPrism.logout p >>= fun _ => Prog.each BanchoPrism.logout rest) s).1 = _ ↔ _
    by_cases hkeys : Login.Indexes s p
    · obtain ⟨u, hrun, hu⟩ := h.logout hp hrest hkeys
      obtain ⟨-, hplayers, hother⟩ := logout_keys hrun hp
      have hne : ∀ q ∈ rest, q ≠ p := fun q hq hqp => hrest (hqp ▸ hq)
      have hstay : ∀ g ∈ rest, g ∈ u.players.list := by
        intro g hg
        rw [logout_list hrun]
        exact (List.mem_erase_of_ne (hne g hg)).mpr (honline g (List.mem_cons_of_mem p hg))
      rw [bind_run_ok hrun, keyed_cons_iff hplayers fun q hq => hother q (hne q hq),
        ih hu hstay hnodup]
      exact (and_iff_right hkeys).symm
    · refine iff_of_false (fun hok => ?_) fun hkeyed => hkeys (hkeyed.indexes p List.mem_cons_self)
      obtain ⟨_, t, hrun, -⟩ := bind_eq_ok (Prod.ext hok rfl)
      exact hkeys (logout_keys hrun hp).1

end Order

end Background

end BanchoPrism
