import BanchoPrism.Sessions.Attendance

namespace BanchoPrism

open Library Prog

-- Players only leave channels, those in the relation ones they are in, and a channel that anybody
-- is left in is still found by its name.
structure Thins (leaves : PlayerRef → ChannelRef → Prop) (s t : Server) : Prop where
  fewer : ∀ c, (t.channel c).players.Sublist (s.channel c).players
  stays : ∀ q c, ¬leaves q c → q ∈ (s.channel c).players → q ∈ (t.channel c).players
  named : ∀ name c, s.channelByName name = some c → (t.channel c).players ≠ [] →
    t.channelByName name = some c

section Thinning

variable {leaves : PlayerRef → ChannelRef → Prop} {s t : Server} {p host : PlayerRef}
  {c : ChannelRef}

instance : Std.Refl (Thins leaves) :=
  ⟨fun _ => ⟨fun _ => List.Sublist.refl _, fun _ _ _ => id, fun _ _ h _ => h⟩⟩

instance : IsTrans Server (Thins leaves) where
  trans _ _ _ h h' :=
    { fewer := fun c => (h'.fewer c).trans (h.fewer c)
      stays := fun q c hq hin => h'.stays q c hq (h.stays q c hq hin)
      named := fun name c hfound hsome => by
        refine h'.named name c (h.named name c hfound fun hempty => hsome ?_) hsome
        have hnone := h'.fewer c
        rw [hempty] at hnone
        exact List.eq_nil_of_sublist_nil hnone }

theorem Thins.mono {leaves' : PlayerRef → ChannelRef → Prop} (h : Thins leaves s t)
    (hleaves : ∀ q c, leaves q c → leaves' q c) : Thins leaves' s t :=
  { h with stays := fun q c hq => h.stays q c fun hin => hq (hleaves q c hin) }

theorem Thins.of_same (hchannel : t.channel = s.channel) (hlist : t.channels = s.channels) :
    Thins leaves s t where
  fewer c := by rw [hchannel]
  stays q c _ hin := by rwa [hchannel]
  named name c hfound _ := by
    unfold Server.channelByName
    rw [hlist, hchannel]
    exact hfound

theorem modifyPlayer_thins (p : PlayerRef) (f : Player → Player) :
    Within (Thins leaves) (Prog.update fun s => s.modifyPlayer p f : Handler Unit) :=
  Within.update fun _ => Thins.of_same rfl rfl

theorem Library.Prog.Within.toldThins {α : Type} {x : Handler α} (h : Within Told x) :
    Within (Thins leaves) x := by
  refine h.mono ?_
  rintro s _ ⟨sent, rfl⟩
  exact Thins.of_same rfl rfl

-- Another channel keeps its place among those of its name.
theorem find_erase {names : ChannelRef → Bool} {channels : List ChannelRef} {c g : ChannelRef}
    (hfound : channels.find? names = some g) (hg : g ≠ c) :
    (channels.erase c).find? names = some g := by
  induction channels with
  | nil => cases hfound
  | cons first rest ih =>
    by_cases hfirst : first = c
    · subst hfirst
      rw [List.erase_cons_head]
      rw [List.find?_cons] at hfound
      split at hfound
      · exact absurd (Option.some.inj hfound).symm hg
      · exact hfound
    · rw [List.erase_cons_tail (by simpa using hfirst), List.find?_cons]
      rw [List.find?_cons] at hfound
      split at hfound
      · exact hfound
      · exact ih hfound

theorem withoutMember_thins (hleaves : leaves p c) {channels : List ChannelRef}
    (hchannels : channels = s.channels ∨
      channels = s.channels.erase c ∧ (s.channel c).players.erase p = []) :
    Thins leaves s (s.withoutMember c p channels) := by
  have hself : ((s.withoutMember c p channels).channel c).players =
      (s.channel c).players.erase p := by
    simp [Server.withoutMember, Server.modifyChannel]
  have hother {g : ChannelRef} (hg : g ≠ c) :
      (s.withoutMember c p channels).channel g = s.channel g := by
    simp [Server.withoutMember, Server.modifyChannel, hg]
  have hnames : (fun g => ((s.withoutMember c p channels).channel g).realName) =
      fun g => (s.channel g).realName := by
    funext g
    by_cases hg : g = c
    · subst hg
      simp [Server.withoutMember, Server.modifyChannel]
    · rw [hother hg]
  constructor
  case fewer =>
    intro g
    by_cases hg : g = c
    · subst hg
      rw [hself]
      exact List.erase_sublist
    · rw [hother hg]
  case stays =>
    intro q g hq hin
    by_cases hg : g = c
    · subst hg
      rw [hself]
      refine (List.mem_erase_of_ne ?_).mpr hin
      rintro rfl
      exact hq hleaves
    · rwa [hother hg]
  case named =>
    intro name g hfound hsome
    have hsame : (s.withoutMember c p channels).channelByName name =
        channels.find? fun g => (s.channel g).realName == name := by
      unfold Server.channelByName
      simp only [congrFun hnames]
      rfl
    rw [hsame]
    rcases hchannels with rfl | ⟨rfl, hempty⟩
    · exact hfound
    · refine find_erase hfound ?_
      rintro rfl
      exact hsome (hself.trans hempty)

theorem announceCount_told (c : ChannelRef) : Within Told (announceCount c) := by
  intro s
  obtain ⟨result, sent, hrun, -⟩ := announceCount_run c s
  exact ⟨sent, by rw [hrun]⟩

theorem leaveChannel_thins (hleaves : leaves p c) (kick : Bool) :
    Within (Thins leaves) (leaveChannel p c kick) := by
  have hremove : Within (Thins leaves) (channelRemove c p) := by
    intro s
    have hrun : channelRemove c p s =
        (if ((s.withoutMember c p s.channels).channel c).players = [] ∧
            ((s.withoutMember c p s.channels).channel c).instanced
          then channelsRemove c else pure ()) (s.withoutMember c p s.channels) := rfl
    have hkept : Thins leaves s (s.withoutMember c p s.channels) :=
      withoutMember_thins hleaves (.inl rfl)
    unfold Moves
    rw [hrun]
    split
    · rename_i hlast
      unfold channelsRemove
      rw [read_bind_run]
      split
      · refine withoutMember_thins hleaves (.inr ⟨rfl, ?_⟩)
        simpa [Server.withoutMember, Server.modifyChannel] using hlast.1
      · exact hkept
    · exact hkept
  refine Within.read_bind fun s => Moves.ite (fun _ => ?_) fun _ => Moves.pure ()
  refine Within.moves (Within.bind hremove fun _ => ?_)
  refine Within.bind (Within.read_bind fun t => ?_) fun _ => ?_
  · exact Moves.ite (fun _ => modifyPlayer_thins p _ t) fun _ => Moves.raise _
  refine Within.bind (Within.onlyIf (send_told p _).toldThins) fun _ => ?_
  exact (announceCount_told c).toldThins

theorem leaveChannel_own (p : PlayerRef) (c : ChannelRef) (kick : Bool) :
    Within (Thins fun q g => q = p ∧ g = c) (leaveChannel p c kick) := by
  apply leaveChannel_thins
  exact ⟨rfl, rfl⟩

end Thinning

-- Whom the end of p takes out of which channels: p out of all of them, and the host that p watches
-- out of the channel of the spectators.
def Parts (s : Server) (p q : PlayerRef) (c : ChannelRef) : Prop :=
  q = p ∨ (s.player p).spectating = some q ∧ s.channelByName (spectatorChannelName s q) = some c

section Ending

variable {s : Server} {p host : PlayerRef}

theorem removeSpectator_thins (hsome : (s.player p).spectating = some host) :
    Moves (Thins (Parts s p)) s (removeSpectator host p) := by
  refine Moves.read_bind (Moves.ite (fun _ => ?_) fun _ => Moves.raise _)
  refine Moves.bind (modifyPlayer_thins host _ s) fun _ t _ => ?_
  refine Moves.bind (modifyPlayer_thins p _ t) fun _ u _ => ?_
  split
  · exact Moves.raise _
  rename_i c hfound
  refine Within.moves (Within.bind (leaveChannel_thins (.inl rfl) true) fun _ => ?_)
  refine Within.read_bind fun v => Within.moves ?_
  refine Within.bind (Within.onlyIf (leaveChannel_thins (.inr ⟨hsome, hfound⟩) true)) fun _ => ?_
  refine Within.bind (Within.onlyIf (Within.bind (Within.lift _) fun info => ?_)) fun _ => ?_
  · refine Within.bind (send_told host info).toldThins fun _ => ?_
    exact Within.bind (sendAll_told _ _).toldThins fun _ => (sendAll_told _ info).toldThins
  · exact (send_told host _).toldThins

theorem quitSpectating_thins (p : PlayerRef) (s : Server) :
    Moves (Thins (Parts s p)) s (quitSpectating p) := by
  refine Moves.read_bind ?_
  split
  · exact removeSpectator_thins ‹_›
  · exact Moves.pure ()

theorem leaveChannels_thins {leaves : PlayerRef → ChannelRef → Prop} (hleaves : ∀ c, leaves p c)
    (passes : Nat) : Within (Thins leaves) (leaveChannels p passes) := by
  induction passes with
  | zero => exact Within.pure ()
  | succ passes ih =>
    refine Within.read_bind fun s => ?_
    split
    · exact Moves.pure ()
    · refine Moves.ite (fun _ => ?_) fun _ => Moves.raise _
      exact Within.moves (Within.bind (leaveChannel_thins (hleaves _) false) fun _ => ih)

theorem deleteKey_thins {leaves : PlayerRef → ChannelRef → Prop} {κ : Type} [DecidableEq κ]
    (index : Players → κ → Option PlayerRef)
    (write : Players → (κ → Option PlayerRef) → Players) (key : κ) :
    Within (Thins leaves) (deleteKey index write key) :=
  Within.read_bind fun _ => Moves.ite (fun _ => Moves.raise _) fun _ => Thins.of_same rfl rfl

theorem playersRemove_thins {leaves : PlayerRef → ChannelRef → Prop} (p : PlayerRef) :
    Within (Thins leaves) (playersRemove p) := by
  refine Within.read_bind fun s => Moves.ite (fun _ => ?_) fun _ => Moves.pure ()
  refine Moves.update_bind (Thins.of_same rfl rfl) ?_
  refine Within.moves (Within.bind (deleteKey_thins _ _ _) fun _ => ?_)
  exact Within.bind (deleteKey_thins _ _ _) fun _ => deleteKey_thins _ _ _

theorem closeSession_thins (p : PlayerRef) (s : Server) :
    Moves (Thins (Parts s p)) s (closeSession p) := by
  refine Moves.bind (quitSpectating_thins p s) fun _ t _ => ?_
  refine Moves.read_bind (Within.moves ?_)
  refine Within.bind (leaveChannels_thins (fun _ => .inl rfl) _) fun _ => ?_
  refine Within.bind (playersRemove_thins p) fun _ => ?_
  refine Within.bind (modifyPlayer_thins p _) fun _ => ?_
  exact Within.read_bind fun u => (Within.onlyIf (sendAll_told _ _)).toldThins u

end Ending

end BanchoPrism
