import BanchoPrism.History.Matches

namespace BanchoPrism.History.Matches

open Library Prog

theorem registered_iff {w : World} {r : MatchRef} :
    registered w r ↔ ∃ k, w.server.matchList k = some r := by
  unfold registered
  rw [← Option.ne_none_iff_isSome, ne_eq, Fin.find?_eq_none_iff]
  simp

-- A step registers at most the next match, and only matches in gone leave the list.
structure Relisted (gone : MatchRef → Prop) (s t : Server) : Prop where
  kept : ∀ r, (∃ k, s.matchList k = some r) → (∃ k, t.matchList k = some r) ∨ gone r
  known : ∀ r, (∃ k, t.matchList k = some r) →
    (∃ k, s.matchList k = some r) ∨ (r = s.nextMatch ∧ s.nextMatch < t.nextMatch)
  next : s.nextMatch ≤ t.nextMatch

variable {gone : MatchRef → Prop} {s t u : Server}

theorem Relisted.of_eq (hl : t.matchList = s.matchList) (hn : t.nextMatch = s.nextMatch) :
    Relisted gone s t where
  kept r hr := Or.inl (by rw [hl]; exact hr)
  known r hr := Or.inl (by rw [← hl]; exact hr)
  next := Nat.le_of_eq hn.symm

theorem removeMatch_kept (s : Server) {r r' : MatchRef} {k : Fin 64}
    (h : s.matchList k = some r') (hr : r' ≠ r) : (s.removeMatch r).matchList k = some r' := by
  unfold Server.removeMatch
  split
  · rename_i i hi
    have hfound : s.matchList i = some r := by simpa using Fin.eq_true_of_find?_eq_some hi
    have hne : k ≠ i := by
      rintro rfl
      exact hr (Option.some.inj (h.symm.trans hfound))
    show Function.update s.matchList i none k = some r'
    rw [Function.update_of_ne hne]
    exact h
  · exact h

theorem removeMatch_known (s : Server) {r r' : MatchRef} {k : Fin 64}
    (h : (s.removeMatch r).matchList k = some r') : s.matchList k = some r' := by
  unfold Server.removeMatch at h
  split at h
  · rename_i i hi
    have hupdate : Function.update s.matchList i none k = some r' := h
    by_cases hk : k = i
    · subst hk
      rw [Function.update_self] at hupdate
      cases hupdate
    · rwa [Function.update_of_ne hk] at hupdate
  · exact h

theorem Relisted.opened {k : Fin 64} (h : Opened k s u) (hl : t.matchList = u.matchList)
    (hn : t.nextMatch = u.nextMatch) : Relisted gone s t := by
  have hlist := hl.trans h.matchList
  have hnext := hn.trans h.nextMatch
  constructor
  · rintro r ⟨l, hlr⟩
    refine Or.inl ⟨l, ?_⟩
    have hne : l ≠ k := by
      rintro rfl
      rw [h.free] at hlr
      cases hlr
    rw [hlist, Function.update_of_ne hne]
    exact hlr
  · rintro r ⟨l, hlr⟩
    rw [hlist] at hlr
    by_cases hlk : l = k
    · subst hlk
      rw [Function.update_self, Option.some.injEq] at hlr
      exact Or.inr ⟨hlr.symm, by rw [hnext]; exact Nat.lt_succ_self _⟩
    · rw [Function.update_of_ne hlk] at hlr
      exact Or.inl ⟨l, hlr⟩
  · rw [hnext]
    exact Nat.le_succ _

-- A match goes off the list only when its last player leaves.
theorem Relisted.left {p : PlayerRef} {r : MatchRef} {i : Fin 16} (h : Left p r i s t)
    (hr : (s.player p).matchRef = some r) (hi : (s.matchAt r).getSlotId p = some i) :
    Relisted (LastIn s p) s t := by
  rcases h.matchList with hl | ⟨hothers, hl⟩
  · exact Relisted.of_eq hl h.nextMatch
  have hlast : LastIn s p r := by
    refine ⟨hr, fun j q hj => ?_⟩
    by_cases hji : j = i
    · subst hji
      exact Option.some.inj (hj.symm.trans (getSlotId_player hi))
    · have hnone : ((s.matchAt r).slots j).player = none := hothers j hji
      rw [hnone] at hj
      cases hj
  constructor
  · rintro r' ⟨k, hk⟩
    by_cases hrr : r' = r
    · exact Or.inr (hrr ▸ hlast)
    · exact Or.inl ⟨k, by rw [hl]; exact removeMatch_kept s hk hrr⟩
  · rintro r' ⟨k, hk⟩
    rw [hl] at hk
    exact Or.inl ⟨k, removeMatch_known s hk⟩
  · exact Nat.le_of_eq h.nextMatch.symm

theorem step_relisted (w : World) (event : BanchoPrism.Event) :
    Relisted (fun r => ∃ p ∈ leaver w.server event, LastIn w.server p r)
      w.server (w.step event).server := by
  cases step_outcome w event with
  | turn h =>
    rcases hturn : eventPlay w event with _ | ⟨r, play⟩
    all_goals rw [hturn] at h
    · exact Relisted.of_eq (Steady.matchList h) (Steady.nextMatch h)
    · exact Relisted.of_eq (Played.matchList h) (Played.nextMatch h)
  | joined asked i _ _ _ _ h => exact Relisted.of_eq h.matchList h.nextMatch
  | left p r i _ hleaver hr hi h _ =>
    have hleft := Relisted.left h hr hi
    exact ⟨fun r' hr' => (hleft.kept r' hr').imp_right fun hlast => ⟨p, hleaver, hlast⟩,
      hleft.known, hleft.next⟩
  | opened k u _ h hsat =>
    rcases hsat with hst | ⟨p, i, -, hsat⟩
    · exact Relisted.opened h hst.matchList hst.nextMatch
    · exact Relisted.opened h hsat.matchList hsat.nextMatch

-- The match whose insert a step spawns is the next one, and on the list.
theorem created_eq_some {w : World} {event : BanchoPrism.Event} {r : MatchRef}
    (h : created w event = some r) :
    r = w.server.nextMatch ∧ w.server.nextMatch < (w.step event).server.nextMatch ∧
      registered (w.step event) r := by
  unfold created at h
  split at h
  swap
  · cases h
  rename_i p data clock
  split at h
  swap
  · cases h
  rename_i hp
  have hserver : (w.step (.packet p (.createMatch data) clock)).server =
      (matchCreate p data clock.now w.server).2 := by
    have hrun : w.step (.packet p (.createMatch data) clock) =
        w.runHandler (finished (matchCreate p data clock.now)) := if_pos hp
    rw [hrun, runHandler_server]
    unfold finished
    rw [bind_run]
    rcases matchCreate p data clock.now w.server with ⟨e | _, s⟩ <;> rfl
  rcases hrun : matchCreate p data clock.now w.server with ⟨e | _, s⟩
  · rw [hrun] at h
    cases h
  rw [hrun] at h hserver
  simp only at h
  split at h
  swap
  · cases h
  rename_i hnext
  obtain rfl := Option.some.inj h
  refine ⟨rfl, hserver ▸ hnext, registered_iff.mpr ?_⟩
  rcases matchCreate_opened p data clock.now w.server with hsame | ⟨k, u, hopened, hsat⟩
  · rw [hrun] at hsame
    exact absurd hsame.nextMatch (Nat.ne_of_gt hnext)
  · have hl : s.matchList = u.matchList := by
      rw [hrun] at hsat
      rcases hsat with hst | ⟨i, -, hsat⟩
      · exact hst.matchList
      · exact hsat.matchList
    refine ⟨k, ?_⟩
    rw [hserver, hl, hopened.matchList, Function.update_self]

-- What guarded steps keep.
structure Kept (s : Matches) : Prop where
  tracks : s.rows.Tracks (fun r => registered s.world r) s.dbId
  idle : ∀ r, s.rows.opening r = .idle → s.dbId r = none
  fresh : ∀ r, s.world.server.nextMatch ≤ r → s.rows.opening r = .idle

theorem Kept.start (setup : Setup) : (start setup).Kept where
  tracks := Ledger.Tracks.empty _
  idle _ _ := rfl
  fresh _ _ := rfl

variable {s : Matches}

theorem Kept.live (h : s.Kept) {event : BanchoPrism.Event}
    (hwaits : Event.Waits s (.world event)) : (s.live event).Kept := by
  have hstep := step_relisted s.world event
  let w := s.world.step event
  let gone := fun r => registered s.world r && !registered w r
  let rows := s.rows.finish gone s.dbId
  -- first the match that is torn down goes, then the new one, if any, comes
  have hfinish : rows.Tracks (fun r => registered s.world r ∧ gone r = false) s.dbId := by
    refine h.tracks.finish (fun r hr => ?_) (fun r => Iff.rfl) fun r _ _ => rfl
    have hparts : registered s.world r = true ∧ registered w r = false := by
      simpa [gone] using hr
    refine ⟨hparts.1, ?_⟩
    rcases hstep.kept r (registered_iff.mp hparts.1) with hr' | ⟨p, hp, hlast⟩
    · exact absurd (registered_iff.mpr hr') (by simp [w] at hparts ⊢; exact hparts.2)
    · exact hwaits p hp r hlast.1 hlast
  have hold : ∀ r, registered s.world r ∧ gone r = false → registered w r := by
    rintro r ⟨hr, hgone⟩
    simpa [gone, hr] using hgone
  have hnew : ∀ r, registered w r → (registered s.world r ∧ gone r = false) ∨
      (r = s.world.server.nextMatch ∧ s.world.server.nextMatch < w.server.nextMatch) := by
    intro r hr
    rcases hstep.known r (registered_iff.mp hr) with hr' | hr'
    · exact Or.inl ⟨registered_iff.mpr hr', by simp [gone, hr]⟩
    · exact Or.inr hr'
  have hidle : s.rows.opening s.world.server.nextMatch = .idle := h.fresh _ (Nat.le_refl _)
  rcases hc : created s.world event with _ | r
  · have heq : s.live event = { s with world := w, rows := rows } := by
      simp only [Matches.live, hc]
      rfl
    rw [heq]
    constructor
    · refine hfinish.accept hold fun r hr => ?_
      rcases hnew r hr with hr | ⟨rfl, -⟩
      · exact Or.inl hr
      · exact Or.inr ⟨hidle, h.idle _ hidle⟩
    · exact h.idle
    · exact fun r hr => h.fresh r (Nat.le_trans hstep.next hr)
  · obtain ⟨rfl, hlt, hreg⟩ := created_eq_some hc
    have heq : s.live event =
        { s with world := w, rows := rows.begin_ s.world.server.nextMatch } := by
      simp only [Matches.live, hc]
      rfl
    rw [heq]
    constructor
    · refine hfinish.begin_ hidle (fun r => ?_) (fun _ _ => rfl) (h.idle _ hidle)
      constructor
      · exact fun hr => (hnew r hr).imp_right And.left
      · rintro (hr | rfl)
        · exact hold r hr
        · exact hreg
    · intro r hr
      by_cases hrr : r = s.world.server.nextMatch
      · subst hrr
        exact h.idle _ hidle
      · simp only [Ledger.begin_, Function.update_of_ne hrr] at hr
        exact h.idle r hr
    · intro r hr
      have hrr : r ≠ s.world.server.nextMatch := by
        rintro rfl
        exact absurd hlt (Nat.not_lt.mpr hr)
      simp only [Ledger.begin_, Function.update_of_ne hrr]
      exact h.fresh r (Nat.le_trans hstep.next hr)

theorem Kept.insert (h : s.Kept) (r : MatchRef) :
    Kept { s with rows := s.rows.insert r } := by
  have hopening : ∀ q, (s.rows.insert r).opening q = .idle ↔ s.rows.opening q = .idle := by
    intro q
    unfold Ledger.insert
    split
    · rename_i hr
      by_cases hq : q = r
      · subst hq
        simp [hr]
      · simp [Function.update_of_ne hq]
    · rfl
  exact ⟨h.tracks.insert r, fun q hq => h.idle q ((hopening q).mp hq),
    fun q hq => (hopening q).mpr (h.fresh q hq)⟩

theorem Kept.stamp (h : s.Kept) (r : MatchRef) : Kept { s with rows := s.rows.stamp r } := by
  have hopening : (s.rows.stamp r).opening = s.rows.opening := by
    unfold Ledger.stamp
    split <;> rfl
  exact ⟨h.tracks.stamp r, fun q hq => h.idle q (hopening ▸ hq),
    fun q hq => by rw [hopening]; exact h.fresh q hq⟩

theorem Kept.arrive (h : s.Kept) (r : MatchRef) : (s.arrive r).Kept := by
  unfold Matches.arrive
  split
  swap
  · exact h
  rename_i id hr
  constructor
  · exact h.tracks.arrive hr (fun q hq _ => Function.update_of_ne hq _ _) (Function.update_self _ _ _)
  · intro q hq
    have hqr : q ≠ r := by
      rintro rfl
      simp [Ledger.arrive] at hq
    simp only [Ledger.arrive, Function.update_of_ne hqr] at hq ⊢
    exact h.idle q hq
  · intro q hq
    have hqr : q ≠ r := by
      rintro rfl
      rw [h.fresh q hq] at hr
      cases hr
    simp only [Ledger.arrive, Function.update_of_ne hqr]
    exact h.fresh q hq

theorem Kept.step (h : s.Kept) {event : Event} (hwaits : event.Waits s) : (s.step event).Kept := by
  cases event with
  | world event => exact h.live hwaits
  | insert r => exact h.insert r
  | arrive r => exact h.arrive r
  | stamp r => exact h.stamp r

theorem Kept.disbanded (h : s.Kept) : s.Disbanded := by
  rintro hfinished ⟨r, closer⟩ hrow
  obtain ⟨id, hid⟩ := List.getElem?_of_mem hrow
  have hr : r < s.world.server.nextMatch := by
    by_contra hge
    exact h.tracks.not_mem_of_idle (h.fresh r (Nat.le_of_not_lt hge)) id closer hid
  obtain ⟨hopening, hclosing⟩ := hfinished r hr
  dsimp only
  cases closer with
  | none =>
    rcases h.tracks.opened id r hid with hr | ⟨hlive, -⟩ | hr
    · rw [hr] at hopening
      cases hopening
    · rw [if_pos hlive]
    · rw [hclosing] at hr
      cases hr
  | some j =>
    obtain ⟨rfl, hdead⟩ := h.tracks.closed id r j hid
    rw [if_neg hdead]

-- The rows are appended to, and closed once: ended_at IS NULL guards the update.
theorem step_stampedOnce (s : Matches) (event : Event) : StampedOnce s (s.step event) := by
  intro id row hrow hclosed
  cases event with
  | world event =>
    have hrows : (s.live event).rows.rows = s.rows.rows := by
      unfold Matches.live
      dsimp only
      split <;> rfl
    exact hrows ▸ hrow
  | insert r => exact Ledger.insert_getElem? hrow r
  | arrive r =>
    have hrows : (s.arrive r).rows.rows = s.rows.rows := by
      unfold Matches.arrive
      split <;> rfl
    exact hrows ▸ hrow
  | stamp r => exact Ledger.stamp_getElem? hrow hclosed r

-- When the last player of a match waits for its insert, every finished state has
-- disbanded exactly the rows whose match is gone.
theorem disbanded_of_waits (setup : Setup) (run : List Event)
    (h : Guarded step (fun s event => event.Waits s) (start setup) run) :
    (runFrom step (start setup) run).Disbanded ∧
      ∀ event, StampedOnce (runFrom step (start setup) run)
        ((runFrom step (start setup) run).step event) :=
  ⟨(Guarded.invariant Kept (fun _ _ hs hwaits => hs.step hwaits) (Kept.start setup) h).disbanded,
    step_stampedOnce _⟩

-- A match is opened and left, and its row is closed.
theorem disbanded_of_waits_oneMatch :
    (runFrom step (start {}) [.world (visit 11),
      .world (.packet 1 (.createMatch (plainMatch 11)) { now := 10 }), .insert 0, .arrive 0,
      .world (.packet 1 .partMatch { now := 10 }), .stamp 0]).Disbanded :=
  (disbanded_of_waits {} _ (by decide)).1

-- The creator leaves before the insert has returned: nothing ever closes the row.
theorem disbanded_lateInsert :
    ¬(runFrom step (start {}) [.world (visit 11),
      .world (.packet 1 (.createMatch (plainMatch 11)) { now := 10 }),
      .world (.packet 1 .partMatch { now := 10 }), .insert 0, .arrive 0]).Disbanded := by
  decide

end BanchoPrism.History.Matches
