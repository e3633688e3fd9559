import BanchoPrism.History.Games.Told

namespace BanchoPrism.History

open Library

namespace Games

section Steps

variable {s t : Server} {rounds : MatchRef → Round} {w : World} {event : BanchoPrism.Event}

theorem tell_self (rounds : MatchRef → Round) (f : Round → Round) (r : MatchRef) :
    tell rounds f (some r) r = f (rounds r) :=
  Function.update_self _ _ _

theorem tell_of_ne (rounds : MatchRef → Round) (f : Round → Round) {r r' : MatchRef}
    (h : r' ≠ r) : tell rounds f (some r) r' = rounds r' :=
  Function.update_of_ne h _ _

theorem ownPlay_eq_some {p : PlayerRef} {f : Fin 16 → Play} {r : MatchRef} {play : Play}
    (h : ownPlay s p f = some (r, play)) :
    (s.player p).matchRef = some r ∧ ∃ i, (s.matchAt r).getSlotId p = some i ∧ play = f i := by
  obtain ⟨r', hr, h⟩ := Option.bind_eq_some_iff.mp h
  obtain ⟨i, hi, h⟩ := Option.bind_eq_some_iff.mp h
  cases h
  exact ⟨hr, i, hi, rfl⟩

theorem atSlotId_eq_some {α : Type} {slotId : Int} {f : Fin 16 → Option α} {a : α}
    (h : atSlotId slotId f = some a) : ∃ i, f i = some a := by
  unfold atSlotId at h
  split at h
  · exact ⟨_, h⟩
  · cases h

-- What is known of the plays that no MATCH_SCORE_UPDATE and no MATCH_FAILED makes.
def Made (s : Server) (r : MatchRef) : Play → Prop
  | .start hasMap => hasMap = fun i => decide (((s.matchAt r).slots i).status ≠ .noMap)
  | .move i _ => ∃ p, ((s.game r).seats i).player = some p
  | .frame _ _ | .fail _ | .sit _ _ | .leave _ => False
  | .idle _ | .complete _ | .abort => True

def sends : BanchoPrism.Event → Bool
  | .packet _ (.scoreUpdate _) _ | .packet _ .failed _ => true
  | _ => false

theorem startPlay_made (s : Server) (r : MatchRef) : Made s (startPlay s r).1 (startPlay s r).2 :=
  rfl

theorem commandPlay_made {ctx : Context} {r r' : MatchRef} {command : MpCommand} {play : Play}
    (h : commandPlay s ctx r command = some (r', play)) : Made s r' play := by
  unfold commandPlay at h
  split at h
  · split at h
    · cases h
      exact startPlay_made s r
    · cases h
  · split at h
    · cases h
      trivial
    · cases h
  · cases h

theorem requestPlay_made {p : PlayerRef} {request : Packet} {clock : Clock} {r : MatchRef}
    {play : Play} (hsends : sends (.packet p request clock) = false)
    (h : requestPlay s p clock request = some (r, play)) : Made s r play := by
  have hown : ∀ f : Fin 16 → Play, (∀ i, Made s r (f i)) → ownPlay s p f = some (r, play) →
      Made s r play := by
    intro f hf hplay
    obtain ⟨-, i, -, rfl⟩ := ownPlay_eq_some hplay
    exact hf i
  cases request with
  | ready | noBeatmap | notReady | hasBeatmap => exact hown .idle (fun _ => trivial) h
  | complete => exact hown .complete (fun _ => trivial) h
  | start =>
    obtain ⟨r', -, h⟩ := Option.bind_eq_some_iff.mp h
    cases h
    exact startPlay_made s r
  | lock slotId =>
    obtain ⟨r', -, h⟩ := Option.bind_eq_some_iff.mp h
    obtain ⟨i, h⟩ := atSlotId_eq_some h
    split at h
    · cases h
    · cases h
      trivial
  | changeSlot slotId =>
    obtain ⟨r', -, h⟩ := Option.bind_eq_some_iff.mp h
    obtain ⟨j, h⟩ := atSlotId_eq_some h
    split at h
    · cases h
    · obtain ⟨i, hi, h⟩ := Option.bind_eq_some_iff.mp h
      cases h
      exact ⟨p, getSlotId_player hi⟩
  | sendMessage text recipient mp =>
    obtain ⟨given, -, h⟩ := Option.bind_eq_some_iff.mp h
    exact commandPlay_made h
  | scoreUpdate playData => cases hsends
  | failed => cases hsends
  | _ => cases h

theorem eventPlay_made {r : MatchRef} {play : Play} (hsends : sends event = false)
    (h : eventPlay w event = some (r, play)) : Made w.server r play := by
  cases event with
  | packet p request clock =>
    unfold eventPlay at h
    dsimp only at h
    split at h
    · exact requestPlay_made hsends h
    · cases h
  | startTimer r' =>
    obtain ⟨timer, -, h⟩ := Option.bind_eq_some_iff.mp h
    split at h
    · cases h
      exact startPlay_made w.server r
    · cases h
  | _ => cases h

theorem heard_of_not_sends {s : Games} (hsends : sends event = false) :
    s.heard event = s.begun (eventPlay s.matches_.world event) := by
  cases event with
  | packet p request clock => cases request <;> first | rfl | cases hsends
  | _ => rfl

-- What is sent by somebody without a slot concerns nobody.
theorem told_unseated {round other : Round} {g : Game} {p : PlayerRef} (h : Told round g)
    (hp : ∀ i, (g.seats i).player ≠ some p) (hstarted : other.started = round.started)
    (hframe : ∀ q ≠ p, other.frame q = round.frame q)
    (hfailed : ∀ q ≠ p, other.failed q = round.failed q) : Told other g :=
  ⟨fun i => (h.seat i).of_ne (hp i) hstarted hframe hfailed, h.alone⟩

theorem getSlotId_none {m : Match} {p : PlayerRef} (h : m.getSlotId p = none) (i : Fin 16) :
    (m.game.seats i).player ≠ some p := by
  have hne : (m.slots i).player ≠ some p := by simpa using (Fin.find?_eq_none_iff.mp h) i
  exact hne

theorem told_play {round : Round} {r : MatchRef} {play : Play} (h : Told round (s.game r))
    (hmade : Made s r play) (hfair : Play.Fair round (s.game r) play)
    (hstart : ∀ hasMap, play ≠ .start hasMap) : Told round ((s.game r).play play) := by
  cases play with
  | start hasMap => exact absurd rfl (hstart hasMap)
  | idle i =>
    exact h.modifySeat (f := fun seat => { seat with phase := .idle }) (fun _ hp => hp)
      (h.seat i).idle fun j _ => h.seat j
  | complete i => exact h.complete hfair
  | abort => exact h.finish _
  | move i j =>
    obtain ⟨p, hp⟩ := hmade
    exact h.move hp hfair
  | frame i playData => exact hmade.elim
  | fail i => exact hmade.elim
  | sit p i => exact hmade.elim
  | leave i => exact hmade.elim

-- The two packets that are heard: the sender has a slot, or what is sent is lost.
theorem told_sent {p : PlayerRef} {f : Fin 16 → Play} (change : Round → Round)
    (h : ∀ r, Told (rounds r) (s.game r)) (hst : Turn (ownPlay s p f) s t)
    (hother : ∀ round, (change round).started = round.started ∧
      (∀ q ≠ p, (change round).frame q = round.frame q) ∧
      ∀ q ≠ p, (change round).failed q = round.failed q)
    (hseat : ∀ {round g i}, Told round g → (g.seats i).player = some p →
      Told (change round) (g.play (f i))) (r : MatchRef) :
    Told (tell rounds change (s.player p).matchRef r) (t.game r) := by
  unfold ownPlay at hst
  rcases hr : (s.player p).matchRef with _ | r'
  · rw [hr] at hst
    rw [Steady.game hst]
    exact h r
  rw [hr] at hst
  dsimp only [Option.bind_some] at hst
  rcases hi : (s.matchAt r').getSlotId p with _ | i
  · rw [hi] at hst
    rw [Steady.game hst]
    by_cases hrr : r = r'
    · subst hrr
      rw [tell_self]
      exact told_unseated (h r) (getSlotId_none hi) (hother _).1 (hother _).2.1 (hother _).2.2
    · rw [tell_of_ne _ _ hrr]
      exact h r
  · rw [hi] at hst
    rw [Played.game hst]
    by_cases hrr : r = r'
    · subst hrr
      rw [tell_self, if_pos rfl]
      exact hseat (h r) (getSlotId_player hi)
    · rw [tell_of_ne _ _ hrr, if_neg hrr]
      exact h r

end Steps

section Kept

variable {s : Games} {event : BanchoPrism.Event}

-- What fair steps keep.
structure Kept (s : Games) : Prop where
  told : ∀ r, Told (s.rounds r) (s.server.game r)
  placed : ∀ {r i p}, ((s.server.game r).seats i).player = some p →
    (s.server.player p).matchRef = some r
  faithful : s.Faithful
  -- the start that has a game has none in progress any more
  spent : ∀ g ∈ s.games, g.round.number ≤ (s.rounds g.matchRef).number ∧
    (g.round.number = (s.rounds g.matchRef).number →
      (s.server.game g.matchRef).inProgress = false)

theorem told_heard (h : s.Kept) {request : Packet} {p : PlayerRef} {clock : Clock}
    (hsends : sends (.packet p request clock)) (r : MatchRef) :
    Told (s.heard (.packet p request clock) r)
      ((s.matches_.world.step (.packet p request clock)).server.game r) := by
  have hst : request.playing → Turn (eventPlay s.matches_.world (.packet p request clock)) s.server
      (s.matches_.world.step (.packet p request clock)).server := fun hp => step_turn hp p clock
  by_cases hp : p < s.server.nextPlayer
  swap
  · have hsender : s.sender p = none := if_neg hp
    have hnone : eventPlay s.matches_.world (.packet p request clock) = none := if_neg hp
    rw [hnone] at hst
    cases request with
    | scoreUpdate | failed =>
      unfold heard
      dsimp only
      rw [hsender, Steady.game (hst rfl)]
      exact h.told r
    | _ => cases hsends
  have hsender : s.sender p = (s.server.player p).matchRef := if_pos hp
  have hplay : eventPlay s.matches_.world (.packet p request clock) =
      requestPlay s.server p clock request := if_pos hp
  rw [hplay] at hst
  cases request with
  | scoreUpdate playData =>
    unfold heard
    dsimp only
    rw [hsender]
    exact told_sent (Round.sendFrame p playData) h.told (hst rfl) (fun round =>
      ⟨rfl, fun q hq => Function.update_of_ne hq _ _, fun _ _ => rfl⟩)
      (fun hg hi => hg.frame hi playData) r
  | failed =>
    unfold heard
    dsimp only
    rw [hsender]
    exact told_sent (Round.sendFailed p) h.told (hst rfl) (fun round =>
      ⟨rfl, fun _ _ => rfl, fun q hq => Function.update_of_ne hq _ _⟩) (fun hg hi => hg.fail hi) r
  | _ => cases hsends

theorem begun_self (s : Games) (r : MatchRef) (hasMap : Fin 16 → Bool) :
    s.begun (some (r, .start hasMap)) r = (s.rounds r).start (s.server.matchAt r) :=
  tell_self s.rounds (fun round => round.start (s.server.matchAt r)) r

theorem begun_of_ne {r r' : MatchRef} (play : Play) (h : r ≠ r') :
    s.begun (some (r', play)) r = s.rounds r := by
  cases play with
  | start hasMap => exact tell_of_ne s.rounds (fun round => round.start (s.server.matchAt r')) h
  | _ => rfl

theorem told_step (h : s.Kept) (hfair : Event.Fair s (.world event)) (r : MatchRef) :
    Told (s.heard event r) ((s.matches_.world.step event).server.game r) := by
  obtain ⟨hplay, hjoin⟩ := hfair
  cases hsends : sends event with
  | true =>
    cases event with
    | packet p request clock => exact told_heard h hsends r
    | _ => cases hsends
  | false =>
    rw [heard_of_not_sends hsends]
    have hsit : ∀ {p r' i}, (s.server.player p).matchRef = none →
        Play.Fair (s.rounds r') (s.server.game r') (.sit p i) →
        Told (s.rounds r') ((s.server.game r').play (.sit p i)) := by
      intro p r' i hfree hsitFair
      refine (h.told r').sit (fun j hj => ?_) hsitFair
      rw [h.placed hj] at hfree
      cases hfree
    cases step_outcome s.matches_.world event with
    | turn hst =>
      rcases hturn : eventPlay s.matches_.world event with _ | ⟨r', play⟩
      · rw [hturn] at hst
        rw [Steady.game hst]
        exact h.told r
      rw [hturn] at hst
      have hmade := eventPlay_made hsends hturn
      have hplayFair := hplay _ hturn
      rw [Played.game hst]
      by_cases hr : r = r'
      · subst hr
        rw [if_pos rfl]
        cases play with
        | start hasMap =>
          obtain rfl : hasMap = _ := hmade
          rw [begun_self]
          exact Told.start (h.told r)
        | _ => exact told_play (h.told r) hmade hplayFair fun _ hstart => by cases hstart
      · rw [if_neg hr, begun_of_ne play hr]
        exact h.told r
    | joined asked i hturn hasked hslot hfree hsat =>
      rw [hturn, hsat.game]
      split
      · rename_i hr
        subst hr
        exact hsit hfree (hjoin asked hasked i hslot)
      · exact h.told r
    | left p r' i hturn hleaver hr' hi hleft hcloses =>
      rw [hturn, hleft.game]
      split
      · rename_i hr
        subst hr
        exact (h.told r).leave i
      · exact h.told r
    | opened k u hturn hopened hsat =>
      rw [hturn]
      have hu : Told (s.rounds r) (u.game r) := by
        rw [hopened.game]
        split
        · exact Told.fresh _
        · exact h.told r
      rcases hsat with hst | ⟨p, i, hfree, hsat⟩
      · rw [hst.game]
        exact hu
      rw [hsat.game]
      split
      swap
      · exact hu
      rename_i hr
      have hfresh : u.game r = Game.fresh := by rw [hopened.game, if_pos hr]
      rw [← hr, hfresh]
      exact (Told.fresh _).sit (fun j hj => by cases hj) fun hin => by cases hin

-- The players of the slots after a play were there before, but for one who sits down.
theorem play_player {g : Game} {play : Play} {i : Fin 16} {p : PlayerRef}
    (h : ((g.play play).seats i).player = some p) :
    (∃ j, (g.seats j).player = some p) ∨ play = .sit p i := by
  have hmodify : ∀ {j : Fin 16} {f : Seat → Seat},
      ((g.modifySeat j f).seats i).player = some p →
      (f (g.seats j)).player = some p ∨ (g.seats i).player = some p := by
    intro j f hi
    rw [Game.modifySeat_seats] at hi
    split at hi
    · exact Or.inl hi
    · exact Or.inr hi
  have hfinish : ∀ (g' : Game) phase, ((g'.finish phase).seats i).player = (g'.seats i).player := by
    intro g' phase
    unfold Game.finish
    dsimp only
    split <;> rfl
  cases play with
  | start hasMap => exact Or.inl ⟨i, h⟩
  | idle j | frame j playData | fail j =>
    simp only [Game.play] at h
    rcases hmodify h with hj | hi
    · exact Or.inl ⟨j, hj⟩
    · exact Or.inl ⟨i, hi⟩
  | complete j =>
    have hdone : ((g.modifySeat j fun seat => { seat with phase := .complete }).seats i).player =
        some p := by
      simp only [Game.play] at h
      split at h
      · exact h
      · exact (hfinish _ _).symm.trans h
    rcases hmodify hdone with hj | hi
    · exact Or.inl ⟨j, hj⟩
    · exact Or.inl ⟨i, hi⟩
  | abort => exact Or.inl ⟨i, (hfinish g _).symm.trans h⟩
  | sit q j =>
    simp only [Game.play, Game.modifySeat_seats] at h
    split at h
    · rename_i hij
      obtain rfl : q = p := Option.some.inj h
      exact Or.inr (hij ▸ rfl)
    · exact Or.inl ⟨i, h⟩
  | move j k =>
    simp only [Game.play] at h
    rw [Game.modifySeat_seats] at h
    split at h
    · cases h
    · rcases hmodify h with hj | hi
      · exact Or.inl ⟨j, hj⟩
      · exact Or.inl ⟨i, hi⟩
  | leave j =>
    simp only [Game.play] at h
    rcases hmodify h with hj | hi
    · cases hj
    · exact Or.inl ⟨i, hi⟩

theorem eventPlay_sends {w : World} {r : MatchRef} {play : Play} (hsends : sends event)
    (h : eventPlay w event = some (r, play)) :
    (∃ i playData, play = .frame i playData) ∨ ∃ i, play = .fail i := by
  cases event with
  | packet p request clock =>
    unfold eventPlay at h
    dsimp only at h
    split at h
    swap
    · cases h
    cases request with
    | scoreUpdate playData =>
      obtain ⟨-, i, -, hplay⟩ := ownPlay_eq_some h
      exact Or.inl ⟨i, playData, hplay⟩
    | failed =>
      obtain ⟨-, i, -, hplay⟩ := ownPlay_eq_some h
      exact Or.inr ⟨i, hplay⟩
    | _ => cases hsends
  | _ => cases hsends

theorem eventPlay_not_sit {w : World} {r : MatchRef} {p : PlayerRef} {i : Fin 16} :
    eventPlay w event ≠ some (r, .sit p i) := by
  intro h
  cases hsends : sends event with
  | false => exact eventPlay_made hsends h
  | true => rcases eventPlay_sends hsends h with ⟨j, playData, hplay⟩ | ⟨j, hplay⟩ <;> cases hplay

-- Who has a slot is in the match, and who leaves it has no other.
theorem placed_step (h : s.Kept) {r : MatchRef} {i : Fin 16} {p : PlayerRef}
    (hp : (((s.matches_.world.step event).server.game r).seats i).player = some p) :
    ((s.matches_.world.step event).server.player p).matchRef = some r := by
  cases step_outcome s.matches_.world event with
  | turn hst =>
    rcases hturn : eventPlay s.matches_.world event with _ | ⟨r', play⟩
    · rw [hturn] at hst
      rw [Steady.game hst] at hp
      rw [Steady.place hst]
      exact h.placed hp
    rw [hturn] at hst
    rw [Played.game hst] at hp
    rw [Played.place hst]
    split at hp
    · rename_i hr
      subst hr
      rcases play_player hp with ⟨j, hj⟩ | rfl
      · exact h.placed hj
      · exact absurd hturn eventPlay_not_sit
    · exact h.placed hp
  | joined asked j _ _ _ hfree hsat =>
    rw [hsat.game] at hp
    rw [hsat.place]
    have hold : ∀ {k}, ((s.server.game r).seats k).player = some p →
        (if p = asked.player then some asked.target else (s.server.player p).matchRef) = some r := by
      intro k hk
      have hne : p ≠ asked.player := by
        rintro rfl
        have hnone : (s.server.player asked.player).matchRef = none := hfree
        rw [h.placed hk] at hnone
        cases hnone
      rw [if_neg hne]
      exact h.placed hk
    split at hp
    · rename_i hr
      subst hr
      rcases play_player hp with ⟨k, hk⟩ | hsit
      · exact hold hk
      · cases hsit
        exact if_pos rfl
    · exact hold hp
  | left q r' j _ _ hr' hj hleft _ =>
    rw [hleft.game] at hp
    have hold : ∀ {k}, ((s.server.game r).seats k).player = some p →
        (p = q → r ≠ r' ∨ k ≠ j) →
        ((s.matches_.world.step event).server.player p).matchRef = some r := by
      intro k hk hother
      have hplaced := h.placed hk
      rcases hleft.place p with hsame | ⟨rfl, -⟩
      · exact hsame.trans hplaced
      · have hrr : r = r' := Option.some.inj (hplaced.symm.trans hr')
        subst hrr
        have hkj := (h.told r).alone hk (getSlotId_player hj)
        rcases hother rfl with hne | hne
        · exact absurd rfl hne
        · exact absurd hkj hne
    split at hp
    · rename_i hr
      subst hr
      unfold Game.play at hp
      dsimp only at hp
      rw [Game.modifySeat_seats] at hp
      split at hp
      · cases hp
      · exact hold hp fun _ => Or.inr ‹_›
    · rename_i hr
      exact hold hp fun _ => Or.inl hr
  | opened k u _ hopened hsat =>
    have hu : ((u.game r).seats i).player = some p → (s.server.player p).matchRef = some r := by
      intro hi
      rw [hopened.game] at hi
      split at hi
      · cases hi
      · exact h.placed hi
    rcases hsat with hst | ⟨q, j, hfree, hsat⟩
    · rw [hst.game] at hp
      rw [hst.place, hopened.place]
      exact hu hp
    rw [hsat.game] at hp
    rw [hsat.place, hopened.place]
    have hold : ((u.game r).seats i).player = some p →
        (if p = q then some s.matches_.world.server.nextMatch
          else (s.matches_.world.server.player p).matchRef) = some r := by
      intro hi
      have hplaced := hu hi
      have hne : p ≠ q := by
        rintro rfl
        have hnone : (s.server.player p).matchRef = none := hfree
        rw [hplaced] at hnone
        cases hnone
      rw [if_neg hne]
      exact hplaced
    split at hp
    · rename_i hr
      subst hr
      unfold Game.play at hp
      dsimp only at hp
      rw [Game.modifySeat_seats] at hp
      split at hp
      · obtain rfl : q = p := Option.some.inj hp
        exact if_pos rfl
      · exact hold hp
    · exact hold hp

theorem play_inProgress {g : Game} {play : Play} (h : (g.play play).inProgress) :
    g.inProgress ∨ ∃ hasMap, play = .start hasMap := by
  cases play with
  | start hasMap => exact Or.inr ⟨hasMap, rfl⟩
  | abort => cases h
  | complete i =>
    simp only [Game.play] at h
    split at h
    · exact Or.inl h
    · cases h
  | _ => exact Or.inl h

theorem inProgress_step {w : World} {r : MatchRef} (h : ((w.step event).server.game r).inProgress) :
    (w.server.game r).inProgress ∨ ∃ hasMap, eventPlay w event = some (r, .start hasMap) := by
  have hplayed : ∀ {r' play}, (if r = r' then (w.server.game r').play play
      else w.server.game r).inProgress →
      (w.server.game r).inProgress ∨ r = r' ∧ ∃ hasMap, play = .start hasMap := by
    intro r' play hin
    split at hin
    · rename_i hr
      subst hr
      exact (play_inProgress hin).imp_right fun hstart => ⟨rfl, hstart⟩
    · exact Or.inl hin
  cases step_outcome w event with
  | turn hst =>
    rcases hturn : eventPlay w event with _ | ⟨r', play⟩
    · rw [hturn] at hst
      rw [Steady.game hst] at h
      exact Or.inl h
    · rw [hturn] at hst
      rw [Played.game hst] at h
      refine (hplayed h).imp_right ?_
      rintro ⟨rfl, hasMap, rfl⟩
      exact ⟨hasMap, rfl⟩
  | joined asked i _ _ _ _ hsat =>
    rw [hsat.game] at h
    exact (hplayed h).imp_right fun ⟨_, _, hsit⟩ => by cases hsit
  | left p r' i _ _ _ _ hleft _ =>
    rw [hleft.game] at h
    exact (hplayed h).imp_right fun ⟨_, _, hleave⟩ => by cases hleave
  | opened k u _ hopened hsat =>
    have hu : (u.game r).inProgress → (w.server.game r).inProgress := by
      intro hin
      rw [hopened.game] at hin
      split at hin
      · cases hin
      · exact hin
    rcases hsat with hst | ⟨p, i, -, hsat⟩
    · rw [hst.game] at h
      exact Or.inl (hu h)
    · rw [hsat.game] at h
      split at h
      · rename_i hr
        subst hr
        exact Or.inl (hu h)
      · exact Or.inl (hu h)

theorem heard_number (s : Games) (event : BanchoPrism.Event) (r : MatchRef) :
    (s.rounds r).number ≤ (s.heard event r).number := by
  have htell : ∀ (f : Round → Round) (receiver : Option MatchRef),
      (∀ round, round.number ≤ (f round).number) →
      (s.rounds r).number ≤ (tell s.rounds f receiver r).number := by
    intro f receiver hf
    rcases receiver with _ | r'
    · exact Nat.le_refl _
    by_cases hr : r = r'
    · subst hr
      rw [tell_self]
      exact hf _
    · rw [tell_of_ne _ _ hr]
  cases hsends : sends event with
  | true =>
    cases event with
    | packet p request clock =>
      cases request with
      | scoreUpdate playData => exact htell (Round.sendFrame p playData) _ fun _ => Nat.le_refl _
      | failed => exact htell (Round.sendFailed p) _ fun _ => Nat.le_refl _
      | _ => cases hsends
    | _ => cases hsends
  | false =>
    rw [heard_of_not_sends hsends]
    rcases eventPlay s.matches_.world event with _ | ⟨r', play⟩
    · exact Nat.le_refl _
    cases play with
    | start hasMap =>
      exact htell (fun round => round.start (s.server.matchAt r')) (some r') fun _ => Nat.le_succ _
    | _ => exact Nat.le_refl _

theorem heard_start {r : MatchRef} {hasMap : Fin 16 → Bool}
    (h : eventPlay s.matches_.world event = some (r, .start hasMap)) :
    (s.heard event r).number = (s.rounds r).number + 1 := by
  cases hsends : sends event with
  | true => rcases eventPlay_sends hsends h with ⟨j, playData, hplay⟩ | ⟨j, hplay⟩ <;> cases hplay
  | false =>
    rw [heard_of_not_sends hsends, h, begun_self]
    rfl

-- A start that has a game keeps it, and no game of it is in progress again.
theorem spent_step {r : MatchRef} {number : Nat} (hle : number ≤ (s.rounds r).number)
    (hspent : number = (s.rounds r).number → (s.server.game r).inProgress = false) :
    number ≤ (s.heard event r).number ∧ (number = (s.heard event r).number →
      ((s.matches_.world.step event).server.game r).inProgress = false) := by
  have hmono := heard_number s event r
  refine ⟨hle.trans hmono, fun heq => ?_⟩
  by_contra hin
  rw [Bool.not_eq_false] at hin
  rcases inProgress_step hin with hbefore | ⟨hasMap, hstart⟩
  · have hsame : number = (s.rounds r).number := by omega
    have hover := hspent hsame
    have hgoing : (s.server.game r).inProgress = true := hbefore
    rw [hover] at hgoing
    cases hgoing
  · have hnext := heard_start hstart
    omega

end Kept

end Games

end BanchoPrism.History
