import BanchoPrism.History.Spectating

namespace BanchoPrism.History.Spectating

open Library

variable {s : Spectating}

def Live (s : Spectating) (k : Nat) : Prop :=
  ∃ w, s.watchings[k]? = some w ∧ s.current w.spectator = some k

def held (s : Spectating) (k : Nat) : Option Nat :=
  (s.watchings[k]?).bind fun w => s.sessionDbId w.spectator

-- What guarded steps keep: a player who spectates is in a watching, which alone
-- has the stashed id, and the ledger follows the watchings players are in.
structure Kept (s : Spectating) : Prop where
  tracks : s.sessions.Tracks s.Live s.held
  current : ∀ player k, s.current player = some k →
    ∃ w, s.watchings[k]? = some w ∧ w.spectator = player ∧ s.spectating player = some w.host
  idle : ∀ player, s.current player = none →
    s.spectating player = none ∧ s.sessionDbId player = none
  begun : ∀ k, s.sessions.opening k = .idle ↔ s.watchings.length ≤ k

theorem Kept.empty : Kept empty where
  tracks := Ledger.Tracks.empty _
  current _ _ h := by cases h
  idle _ _ := ⟨rfl, rfl⟩
  begun k := by simp [Spectating.empty, Ledger.empty]

theorem Kept.current_of_spectating (h : s.Kept) {player host : PlayerRef}
    (hp : s.spectating player = some host) : ∃ k, s.current player = some k := by
  rcases hk : s.current player with _ | k
  · rw [(h.idle player hk).1] at hp
    cases hp
  · exact ⟨k, rfl⟩

theorem Kept.held_eq (h : s.Kept) {player : PlayerRef} {k : Nat}
    (hk : s.current player = some k) : s.held k = s.sessionDbId player := by
  obtain ⟨w, hw, hplayer, -⟩ := h.current player k hk
  unfold held
  rw [hw, ← hplayer]
  rfl

theorem Kept.live_iff (h : s.Kept) {k : Nat} :
    s.Live k ↔ ∃ player, s.current player = some k := by
  constructor
  · rintro ⟨w, -, hw⟩
    exact ⟨w.spectator, hw⟩
  · rintro ⟨player, hk⟩
    obtain ⟨w, hw, rfl, -⟩ := h.current player k hk
    exact ⟨w, hw, hk⟩

theorem Kept.addSpectator (h : s.Kept) (host player : PlayerRef) (joined : Bool)
    (hplayer : s.current player = none) : (s.addSpectator host player joined).Kept := by
  cases joined with
  | false => exact h
  | true =>
    have hfree : s.sessionDbId player = none := (h.idle player hplayer).2
    have hlength : ∀ q k, s.current q = some k → k < s.watchings.length := fun q k hk => by
      obtain ⟨w, hw, -, -⟩ := h.current q k hk
      exact (List.getElem?_eq_some_iff.mp hw).1
    -- the numbers below the new one mean what they meant
    have hold : ∀ k, k < s.watchings.length →
        (s.watchings ++ [⟨host, player⟩])[k]? = s.watchings[k]? := fun k hk =>
      List.getElem?_append_left hk
    have hnew : (s.watchings ++ [(⟨host, player⟩ : Watching)])[s.watchings.length]? =
        some ⟨host, player⟩ := by simp
    have hlive : ∀ j, (s.addSpectator host player true).Live j ↔
        s.Live j ∨ j = s.watchings.length := by
      intro j
      simp only [Live, Spectating.addSpectator, if_pos]
      rcases Nat.lt_trichotomy j s.watchings.length with hj | rfl | hj
      · rw [hold j hj]
        constructor
        · rintro ⟨w, hw, hcur⟩
          refine Or.inl ⟨w, hw, ?_⟩
          by_cases hq : w.spectator = player
          · rw [hq, Function.update_self, Option.some.injEq] at hcur
            omega
          · rwa [Function.update_of_ne hq] at hcur
        · rintro (⟨w, hw, hcur⟩ | rfl)
          · refine ⟨w, hw, ?_⟩
            have hq : w.spectator ≠ player := by
              rintro hq
              rw [hq, hplayer] at hcur
              cases hcur
            rwa [Function.update_of_ne hq]
          · omega
      · constructor
        · exact fun _ => Or.inr rfl
        · exact fun _ => ⟨⟨host, player⟩, hnew, Function.update_self _ _ _⟩
      · constructor
        · rintro ⟨w, hw, -⟩
          obtain ⟨hlt, -⟩ := List.getElem?_eq_some_iff.mp hw
          simp only [List.length_append, List.length_singleton] at hlt
          omega
        · rintro (⟨w, -, hcur⟩ | rfl)
          · have hlt := hlength _ _ hcur
            omega
          · omega
    have hheld : ∀ j, j ≠ s.watchings.length →
        (s.addSpectator host player true).held j = s.held j := by
      intro j hj
      simp only [held, Spectating.addSpectator, if_pos]
      rcases Nat.lt_or_gt_of_ne hj with hj | hj
      · rw [hold j hj]
      · rw [List.getElem?_eq_none (by simp only [List.length_append, List.length_singleton]; omega),
          List.getElem?_eq_none (by omega)]
    have hnone : (s.addSpectator host player true).held s.watchings.length = none := by
      simp only [held, Spectating.addSpectator, if_pos, hnew, Option.bind_some]
      exact hfree
    constructor
    case tracks =>
      exact h.tracks.begin_ ((h.begun _).mpr (Nat.le_refl _)) hlive hheld hnone
    case current =>
      intro q k hk
      simp only [Spectating.addSpectator, if_pos] at hk ⊢
      by_cases hq : q = player
      · subst hq
        rw [Function.update_self, Option.some.injEq] at hk
        subst hk
        exact ⟨_, hnew, rfl, Function.update_self _ _ _⟩
      · rw [Function.update_of_ne hq] at hk
        rw [hold k (hlength q k hk), Function.update_of_ne hq]
        exact h.current q k hk
    case idle =>
      intro q hq
      simp only [Spectating.addSpectator, if_pos] at hq ⊢
      have hne : q ≠ player := by
        rintro rfl
        rw [Function.update_self] at hq
        cases hq
      rw [Function.update_of_ne hne] at hq ⊢
      exact h.idle q hq
    case begun =>
      intro k
      simp only [Spectating.addSpectator, if_pos, Ledger.begin_, List.length_append,
        List.length_singleton]
      by_cases hk : k = s.watchings.length
      · subst hk
        simp
      · rw [Function.update_of_ne hk, h.begun k]
        omega

theorem removeSpectator_eq {host player : PlayerRef} {s' : Spectating}
    (h : s.removeSpectator host player = some s') :
    s' = { s with
      spectators := Function.update s.spectators host ((s.spectators host).erase player)
      spectating := Function.update s.spectating player none
      sessionDbId := Function.update s.sessionDbId player none
      current := Function.update s.current player none
      sessions := s.sessions.finish (fun k => decide (s.current player = some k))
        fun _ => s.sessionDbId player } := by
  unfold removeSpectator at h
  split at h
  · exact (Option.some.inj h).symm
  · cases h

theorem Kept.removeSpectator (h : s.Kept) {host player : PlayerRef} {s' : Spectating}
    (hlanded : s.Landed player) (hs' : s.removeSpectator host player = some s') :
    s'.Kept ∧ s'.current player = none := by
  obtain rfl := removeSpectator_eq hs'
  refine ⟨?_, Function.update_self _ _ _⟩
  have hlive : ∀ j, (∃ w, s.watchings[j]? = some w ∧
      Function.update s.current player none w.spectator = some j) ↔
        s.Live j ∧ decide (s.current player = some j) = false := by
    intro j
    simp only [decide_eq_false_iff_not]
    constructor
    · rintro ⟨w, hw, hcur⟩
      have hne : w.spectator ≠ player := by
        intro hq
        rw [hq, Function.update_self] at hcur
        cases hcur
      rw [Function.update_of_ne hne] at hcur
      refine ⟨⟨w, hw, hcur⟩, fun hj => hne ?_⟩
      obtain ⟨w', hw', rfl, -⟩ := h.current player j hj
      rw [Option.some.inj (hw.symm.trans hw')]
    · rintro ⟨⟨w, hw, hcur⟩, hj⟩
      have hne : w.spectator ≠ player := fun hq => hj (hq ▸ hcur)
      exact ⟨w, hw, by rwa [Function.update_of_ne hne]⟩
  have hheld : ∀ j, decide (s.current player = some j) = false → s.Live j →
      ((s.watchings[j]?).bind fun w => Function.update s.sessionDbId player none w.spectator) =
        s.held j := by
    rintro j hj ⟨w, hw, hcur⟩
    simp only [decide_eq_false_iff_not] at hj
    have hne : w.spectator ≠ player := fun hq => hj (hq ▸ hcur)
    simp only [held, hw, Option.bind_some, Function.update_of_ne hne]
  have hclosing : s.sessions.finish (fun k => decide (s.current player = some k))
      (fun _ => s.sessionDbId player) =
        s.sessions.finish (fun k => decide (s.current player = some k)) s.held := by
    unfold Ledger.finish
    congr 1
    funext k
    split
    · rename_i hk
      exact (h.held_eq (of_decide_eq_true hk)).symm
    · rfl
  constructor
  case tracks =>
    rw [hclosing]
    refine h.tracks.finish (fun j hj => ?_) hlive hheld
    have hcur := of_decide_eq_true hj
    exact ⟨h.live_iff.mpr ⟨player, hcur⟩, hlanded j hcur⟩
  case current =>
    intro q k hk
    dsimp only at hk ⊢
    have hne : q ≠ player := by
      rintro rfl
      rw [Function.update_self] at hk
      cases hk
    rw [Function.update_of_ne hne] at hk
    obtain ⟨w, hw, hq, hhost⟩ := h.current q k hk
    exact ⟨w, hw, hq, by rwa [Function.update_of_ne hne]⟩
  case idle =>
    intro q hq
    by_cases hne : q = player
    · subst hne
      simp
    · simp only [Function.update_of_ne hne] at hq ⊢
      exact h.idle q hq
  case begun => exact h.begun

theorem Kept.startSpectating (h : s.Kept) {player newHost : PlayerRef} (joined : Bool)
    (hwaits : s.spectating player = some newHost ∨ s.Landed player) :
    (s.startSpectating player newHost joined).Kept := by
  unfold Spectating.startSpectating
  rcases hhost : s.spectating player with _ | host
  · refine h.addSpectator newHost player joined ?_
    rcases hk : s.current player with _ | k
    · rfl
    · obtain ⟨w, -, -, hw⟩ := h.current player k hk
      rw [hhost] at hw
      cases hw
  dsimp only
  by_cases hsame : host = newHost
  · rw [if_pos hsame]
    exact h
  rw [if_neg hsame]
  have hlanded : s.Landed player := hwaits.resolve_left fun h' =>
    hsame (Option.some.inj (hhost.symm.trans h'))
  rcases hs' : s.removeSpectator host player with _ | s'
  · exact h
  · obtain ⟨hkept, hnone⟩ := h.removeSpectator hlanded hs'
    exact hkept.addSpectator newHost player joined hnone

theorem Kept.stopSpectating (h : s.Kept) {player : PlayerRef} (hlanded : s.Landed player) :
    (s.stopSpectating player).Kept := by
  unfold Spectating.stopSpectating
  rcases s.spectating player with _ | host
  · exact h
  dsimp only
  rcases hs' : s.removeSpectator host player with _ | s'
  · exact h
  · exact (h.removeSpectator hlanded hs').1

theorem Kept.stash (h : s.Kept) {k id : Nat} (hk : s.sessions.opening k = .returning id) :
    (s.stash k id).Kept := by
  have hlive : s.Live k := h.tracks.pending k (by rw [hk]; rfl)
  obtain ⟨w, hw, hcur⟩ := hlive
  have heq : s.stash k id =
      { s with
        sessionDbId := Function.update s.sessionDbId w.spectator (some id)
        sessions := s.sessions.arrive k } := by
    unfold Spectating.stash
    rw [hw]
  rw [heq]
  constructor
  case tracks =>
    refine h.tracks.arrive hk (fun j hj hlive => ?_) ?_
    · obtain ⟨w', hw', hcur'⟩ := hlive
      have hne : w'.spectator ≠ w.spectator := fun hq =>
        hj (Option.some.inj (hcur'.symm.trans ((congrArg s.current hq).trans hcur)))
      simp only [held, hw', Option.bind_some, Function.update_of_ne hne]
    · simp only [held, hw, Option.bind_some, Function.update_self]
  case current => exact h.current
  case idle =>
    intro q hq
    have hne : q ≠ w.spectator := by
      rintro rfl
      rw [hcur] at hq
      cases hq
    simp only [Function.update_of_ne hne]
    exact h.idle q hq
  case begun =>
    intro j
    by_cases hj : j = k
    · subst hj
      have hlt := (List.getElem?_eq_some_iff.mp hw).1
      simp only [Ledger.arrive, Function.update_self]
      simp only [reduceCtorEq, false_iff]
      omega
    · simp only [Ledger.arrive, Function.update_of_ne hj]
      exact h.begun j

theorem Kept.arrive (h : s.Kept) (k : Nat) : (s.arrive k).Kept := by
  unfold Spectating.arrive
  split
  · exact h.stash ‹_›
  · exact h

theorem Kept.insert (h : s.Kept) (k : Nat) :
    Kept { s with sessions := s.sessions.insert k } where
  tracks := h.tracks.insert k
  current := h.current
  idle := h.idle
  begun j := by
    rw [← h.begun j]
    dsimp only
    unfold Ledger.insert
    split
    · rename_i hk
      by_cases hj : j = k
      · subst hj
        simp [hk]
      · simp [Function.update_of_ne hj]
    · rfl

theorem Kept.stamp (h : s.Kept) (k : Nat) : Kept { s with sessions := s.sessions.stamp k } where
  tracks := h.tracks.stamp k
  current := h.current
  idle := h.idle
  begun j := by
    rw [← h.begun j]
    dsimp only
    unfold Ledger.stamp
    split <;> rfl

theorem Kept.step (h : s.Kept) {event : Event} (hwaits : event.Waits s) : (s.step event).Kept := by
  cases event with
  | start player newHost joined => exact h.startSpectating joined hwaits
  | stop player => exact h.stopSpectating hwaits
  | insert k => exact h.insert k
  | stamp k => exact h.stamp k
  | arrive k => exact h.arrive k

-- A player in a watching is the one it is of.
theorem Kept.watched_iff (h : s.Kept) {k : Nat} : s.Watched k ↔ s.Live k := by
  constructor
  · rintro ⟨w, hw, -, hcur⟩
    exact ⟨w, hw, hcur⟩
  · rintro ⟨w, hw, hcur⟩
    obtain ⟨w', hw', -, hspec⟩ := h.current _ _ hcur
    obtain rfl := Option.some.inj (hw.symm.trans hw')
    exact ⟨w, hw, hspec, hcur⟩

theorem Kept.ended_iff (h : s.Kept) (hquiet : ∀ k, (s.sessions.opening k).pending = false)
    {id : Nat} {entry : Entry Nat} (hrow : s.sessions.rows[id]? = some entry) :
    ¬s.Ended id entry ↔ s.Live entry.opener := by
  obtain ⟨k, closer⟩ := entry
  cases closer with
  | some j =>
    have hdead := (h.tracks.closed id k j hrow).2
    simp [Ended, hdead]
  | none =>
    constructor
    · intro hopen
      rcases h.tracks.opened id k hrow with hk | ⟨hlive, -⟩ | hk
      · exact absurd (hquiet k) (by rw [hk]; simp [Opening.pending])
      · exact hlive
      · exact absurd (Or.inr hk) hopen
    · rintro hlive (hclosed | hclosing)
      · cases hclosed
      · exact (h.tracks.closing k id hclosing).1 hlive

theorem Kept.paired (h : s.Kept) : s.Paired where
  stamped := by
    rintro ⟨j, closer⟩ hentry k rfl
    obtain ⟨id, hrow⟩ := List.getElem?_of_mem hentry
    exact (h.tracks.closed id j k hrow).1
  open_iff hquiet id entry hrow := (h.ended_iff hquiet hrow).trans h.watched_iff.symm
  kept hquiet player host hhost := by
    obtain ⟨k, hk⟩ := h.current_of_spectating hhost
    obtain ⟨w, hw, hplayer, hspec⟩ := h.current player k hk
    have hdone : s.sessions.opening k = .done := by
      have hlt := (List.getElem?_eq_some_iff.mp hw).1
      have hbegun := h.begun k
      have hpending := hquiet k
      rcases hopening : s.sessions.opening k with _ | _ | id | _
      · have hge := hbegun.mp hopening
        omega
      · rw [hopening] at hpending
        cases hpending
      · rw [hopening] at hpending
        cases hpending
      · rfl
    have hlive : s.Live k := h.live_iff.mpr ⟨player, hk⟩
    obtain ⟨id, hid⟩ := Option.isSome_iff_exists.mp (h.tracks.arrived k hlive hdone)
    refine ⟨id, ⟨k, none⟩, w, (h.tracks.holds k hlive id hid).2, rfl, hw, ?_, hplayer⟩
    exact Option.some.inj (hspec.symm.trans hhost)
  stashed player id hid := by
    rcases hk : s.current player with _ | k
    · rw [(h.idle player hk).2] at hid
      cases hid
    · have hlive : s.Live k := h.live_iff.mpr ⟨player, hk⟩
      have hheld : s.held k = some id := (h.held_eq hk).trans hid
      exact ⟨⟨k, none⟩, (h.tracks.holds k hlive id hheld).2, rfl, rfl, h.watched_iff.mpr hlive⟩

-- When nobody stops before the insert is back, the sessions are paired with the
-- spectating in every state.
theorem paired_of_waits (run : List Event)
    (h : Guarded step (fun s event => event.Waits s) empty run) : (runFrom step empty run).Paired :=
  (Guarded.invariant Kept (fun _ _ hs hwaits => hs.step hwaits) Kept.empty h).paired

-- Player 1 watches 2 and then 3, and each end finds its row.
theorem paired_of_waits_twoHosts :
    (runFrom step empty [.start 1 2 true, .insert 0, .arrive 0, .start 1 3 true, .insert 1,
      .stamp 0, .arrive 1, .stop 1, .stamp 1]).Paired := by
  refine paired_of_waits _ ?_
  have hstart : empty.Landed 1 := fun k hk => by cases hk
  refine ⟨Or.inr hstart, trivial, trivial, Or.inr ?_, trivial, trivial, trivial, ?_, trivial, trivial⟩
  · intro k hk
    obtain rfl := Option.some.inj hk
    rfl
  · intro k hk
    obtain rfl := Option.some.inj hk
    rfl

-- Player 1 stops before the insert is back and watches 3: the id that arrives in
-- between is taken for the new watching's, whose end stamps the old row.
theorem paired_lateInsert :
    ¬(runFrom step empty [.start 1 2 true, .stop 1, .insert 0, .arrive 0, .start 1 3 true,
      .stop 1, .stamp 1]).Paired := by
  intro h
  have hrow : (⟨0, some 1⟩ : Entry Nat) ∈ (runFrom step empty [.start 1 2 true, .stop 1,
      .insert 0, .arrive 0, .start 1 3 true, .stop 1, .stamp 1]).sessions.rows := by decide
  have hsame := h.stamped _ hrow 1 rfl
  cases hsame

end BanchoPrism.History.Spectating
