import BanchoPrism.History.Games

namespace BanchoPrism.History

open Library

section Seats

-- A slot that takes part in the game, or may do so, has what its player sent.
structure SeatTold (round : Round) (inProgress : Bool) (seat : Seat) : Prop where
  occupied : seat.phase ≠ .idle → seat.player.isSome
  started : inProgress → ∀ p ∈ seat.player, seat.phase ≠ .idle → p ∈ round.started
  sent : inProgress → ∀ p ∈ seat.player, p ∈ round.started →
    seat.frame = round.frame p ∧ seat.passed = !round.failed p

structure Told (round : Round) (g : Game) : Prop where
  seat : ∀ i, SeatTold round g.inProgress (g.seats i)
  alone : ∀ {i j p}, (g.seats i).player = some p → (g.seats j).player = some p → i = j

variable {round : Round} {g : Game}

theorem SeatTold.idle {inProgress : Bool} {seat : Seat} (h : SeatTold round inProgress seat) :
    SeatTold round inProgress { seat with phase := .idle } :=
  ⟨fun hidle => absurd rfl hidle, fun _ _ _ hidle => absurd rfl hidle, h.sent⟩

theorem SeatTold.empty (inProgress : Bool) : SeatTold round inProgress Game.emptySeat :=
  ⟨fun hidle => absurd rfl hidle, fun _ _ hp => (Option.not_mem_none _ hp).elim,
    fun _ _ hp => (Option.not_mem_none _ hp).elim⟩

-- Nothing is asked of the slots of a match that is not in progress but who is in them.
theorem SeatTold.over {inProgress : Bool} {seat : Seat} (h : SeatTold round inProgress seat) :
    SeatTold round false seat where
  occupied := h.occupied
  started hin := by cases hin
  sent hin := by cases hin

-- What p sends concerns the slot of p and no other.
theorem SeatTold.of_ne {inProgress : Bool} {seat : Seat} (h : SeatTold round inProgress seat)
    {p : PlayerRef} (hp : seat.player ≠ some p) {other : Round}
    (hstarted : other.started = round.started)
    (hframe : ∀ q ≠ p, other.frame q = round.frame q)
    (hfailed : ∀ q ≠ p, other.failed q = round.failed q) : SeatTold other inProgress seat := by
  refine ⟨h.occupied, hstarted ▸ h.started, fun hin q hq hstart => ?_⟩
  have hne : q ≠ p := by
    rintro rfl
    exact hp hq
  rw [hframe q hne, hfailed q hne]
  exact h.sent hin q hq (hstarted ▸ hstart)

theorem Told.modifySeat (h : Told round g) {other : Round} {i : Fin 16} {f : Seat → Seat}
    (hplayer : ∀ p, (f (g.seats i)).player = some p → (g.seats i).player = some p)
    (hseat : SeatTold other g.inProgress (f (g.seats i)))
    (hrest : ∀ j ≠ i, SeatTold other g.inProgress (g.seats j)) :
    Told other (g.modifySeat i f) := by
  have hplayers : ∀ {j p}, ((g.modifySeat i f).seats j).player = some p →
      (g.seats j).player = some p := by
    intro j p hj
    rw [Game.modifySeat_seats] at hj
    split at hj
    · rename_i hji
      exact hji ▸ hplayer p hj
    · exact hj
  refine ⟨fun j => ?_, fun hj hk => h.alone (hplayers hj) (hplayers hk)⟩
  rw [Game.modifySeat_seats]
  split
  · exact hseat
  · exact hrest j ‹_›

theorem Told.finish (h : Told round g) (phase : Phase) : Told round (g.finish phase) := by
  have hplayers : ∀ j, ((g.finish phase).seats j).player = (g.seats j).player := by
    intro j
    unfold Game.finish
    dsimp only
    split <;> rfl
  refine ⟨fun j => ?_, fun hj hk => h.alone (hplayers _ ▸ hj) (hplayers _ ▸ hk)⟩
  unfold Game.finish
  dsimp only
  split
  · exact (h.seat j).over.idle
  · exact (h.seat j).over

theorem Told.frame (h : Told round g) {i : Fin 16} {p : PlayerRef}
    (hp : (g.seats i).player = some p) (playData : List UInt8) :
    Told (round.sendFrame p playData) (g.play (.frame i playData)) := by
  refine h.modifySeat (f := fun seat => { seat with frame := some playData })
    (fun _ hq => hq) ⟨(h.seat i).occupied, (h.seat i).started, ?_⟩ fun j hj => ?_
  · intro hin q hq hstart
    obtain rfl : p = q := Option.some.inj (hp.symm.trans hq)
    exact ⟨(Function.update_self p (some playData) round.frame).symm,
      ((h.seat i).sent hin p hq hstart).2⟩
  · refine (h.seat j).of_ne (p := p) (fun hjp => hj (h.alone hjp hp)) rfl (fun q hq => ?_)
      fun _ _ => rfl
    exact Function.update_of_ne hq _ _

theorem Told.fail (h : Told round g) {i : Fin 16} {p : PlayerRef}
    (hp : (g.seats i).player = some p) :
    Told (round.sendFailed p) (g.play (.fail i)) := by
  refine h.modifySeat (f := fun seat => { seat with passed := false })
    (fun _ hq => hq) ⟨(h.seat i).occupied, (h.seat i).started, ?_⟩ fun j hj => ?_
  · intro hin q hq hstart
    obtain rfl : p = q := Option.some.inj (hp.symm.trans hq)
    have hfailed := Function.update_self p true round.failed
    exact ⟨((h.seat i).sent hin p hq hstart).1, by simp only [Round.sendFailed, hfailed, Bool.not_true]⟩
  · refine (h.seat j).of_ne (p := p) (fun hjp => hj (h.alone hjp hp)) rfl (fun _ _ => rfl)
      fun q hq => ?_
    exact Function.update_of_ne hq _ _

theorem Told.complete (h : Told round g) {i : Fin 16} (hfair : Play.Fair round g (.complete i)) :
    Told round (g.play (.complete i)) := by
  obtain ⟨-, p, hp, hstart⟩ := hfair
  have hdone : Told round (g.modifySeat i fun seat => { seat with phase := .complete }) := by
    refine h.modifySeat (fun _ hq => hq) ⟨fun _ => ?_, fun _ q hq _ => ?_, (h.seat i).sent⟩
      fun j _ => h.seat j
    · exact Option.isSome_iff_exists.mpr ⟨p, hp⟩
    · obtain rfl : p = q := Option.some.inj (Option.mem_def.mp hp ▸ hq)
      exact hstart
  simp only [Game.play]
  split
  · exact hdone
  · exact hdone.finish _

theorem Told.sit (h : Told round g) {i : Fin 16} {p : PlayerRef}
    (hnew : ∀ j, (g.seats j).player ≠ some p) (hfair : Play.Fair round g (.sit p i)) :
    Told round (g.play (.sit p i)) := by
  have hseats := Game.modifySeat_seats g i
  have hplayers : ∀ {j q}, ((g.play (.sit p i)).seats j).player = some q →
      j = i ∧ q = p ∨ j ≠ i ∧ (g.seats j).player = some q := by
    intro j q hj
    unfold Game.play at hj
    dsimp only at hj
    rw [hseats] at hj
    split at hj
    · exact Or.inl ⟨‹_›, (Option.some.inj hj).symm⟩
    · exact Or.inr ⟨‹_›, hj⟩
  constructor
  · intro j
    unfold Game.play
    dsimp only
    rw [hseats]
    split
    · refine ⟨fun hidle => absurd rfl hidle, fun _ _ _ hidle => absurd rfl hidle, ?_⟩
      intro hin q hq hstart
      obtain rfl : p = q := Option.some.inj hq
      exact hfair hin hstart
    · exact h.seat j
  · intro j k q hj hk
    rcases hplayers hj with ⟨rfl, rfl⟩ | ⟨-, hj'⟩
    · rcases hplayers hk with ⟨rfl, -⟩ | ⟨-, hk'⟩
      · rfl
      · exact absurd hk' (hnew k)
    · rcases hplayers hk with ⟨-, rfl⟩ | ⟨-, hk'⟩
      · exact absurd hj' (hnew j)
      · exact h.alone hj' hk'

-- Who moves leaves the frame and the flag behind.
theorem Told.move (h : Told round g) {i j : Fin 16} {p : PlayerRef}
    (hp : (g.seats i).player = some p) (hfair : Play.Fair round g (.move i j)) :
    Told round (g.play (.move i j)) := by
  have hseats : ∀ k, (g.play (.move i j)).seats k =
      if k = i then Game.emptySeat
      else if k = j then
        { g.seats j with player := (g.seats i).player, phase := (g.seats i).phase }
      else g.seats k := by
    intro k
    unfold Game.play
    dsimp only
    rw [Game.modifySeat_seats, Game.modifySeat_seats]
  have hplayers : ∀ {k q}, ((g.play (.move i j)).seats k).player = some q →
      k ≠ i ∧ (k = j ∧ q = p ∨ k ≠ j ∧ (g.seats k).player = some q) := by
    intro k q hk
    rw [hseats] at hk
    split at hk
    · cases hk
    · rename_i hki
      split at hk
      · exact ⟨hki, Or.inl ⟨‹_›, Option.some.inj (hk.symm.trans hp)⟩⟩
      · exact ⟨hki, Or.inr ⟨‹_›, hk⟩⟩
  constructor
  · intro k
    rw [hseats]
    split
    · exact SeatTold.empty _
    split
    · refine ⟨(h.seat i).occupied, (h.seat i).started, fun hin q hq hstart => ?_⟩
      obtain ⟨hframe, hpassed⟩ := hfair hin q hq hstart
      have hsent := (h.seat i).sent hin q hq hstart
      exact ⟨hframe.trans hsent.1, hpassed.trans hsent.2⟩
    · exact h.seat k
  · intro k l q hk hl
    obtain ⟨hki, hk⟩ := hplayers hk
    obtain ⟨hli, hl⟩ := hplayers hl
    rcases hk with ⟨rfl, rfl⟩ | ⟨-, hk⟩
    · rcases hl with ⟨rfl, -⟩ | ⟨-, hl⟩
      · rfl
      · exact absurd (h.alone hl hp) hli
    · rcases hl with ⟨-, rfl⟩ | ⟨-, hl⟩
      · exact absurd (h.alone hk hp) hki
      · exact h.alone hk hl

theorem mem_startedPlayers {m : Match} {i : Fin 16} {p : PlayerRef}
    (hp : (m.slots i).player = some p) (hmap : (m.slots i).status ≠ .noMap) :
    p ∈ startedPlayers m := by
  unfold startedPlayers
  refine List.mem_filterMap.mpr ⟨i, List.mem_finRange i, ?_⟩
  rw [if_pos hmap]
  exact hp

-- A start gives every slot a clean slate.
theorem Told.start {m : Match} (h : Told round m.game) :
    Told (round.start m) (m.game.play (.start fun i => decide ((m.slots i).status ≠ .noMap))) := by
  have hmap : ∀ i, (m.game.seats i).phase ≠ .idle → (m.slots i).status ≠ .noMap := by
    intro i hphase hno
    apply hphase
    show (m.slots i).status.phase = .idle
    rw [hno]
    rfl
  refine ⟨fun i => ⟨fun hphase => ?_, fun _ p hp hphase => ?_, fun _ _ _ _ => ⟨rfl, rfl⟩⟩, h.alone⟩
  · simp only [Game.play] at hphase ⊢
    split at hphase
    · rename_i hstarts
      exact hstarts.1
    · exact (h.seat i).occupied hphase
  · simp only [Game.play] at hphase
    split at hphase
    · rename_i hstarts
      exact mem_startedPlayers hp (of_decide_eq_true hstarts.2)
    · exact mem_startedPlayers hp (hmap i hphase)

theorem Told.fresh (round : Round) : Told round Game.fresh :=
  ⟨fun _ => SeatTold.empty _, fun hi => by cases hi⟩

theorem Told.leave (h : Told round g) (i : Fin 16) :
    Told round (g.play (.leave i)) :=
  h.modifySeat (f := fun _ => Game.emptySeat) (fun _ hp => by cases hp) (SeatTold.empty _)
    fun j _ => h.seat j

end Seats

end BanchoPrism.History
