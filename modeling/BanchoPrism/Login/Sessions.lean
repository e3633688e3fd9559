import BanchoPrism.Login.Accounts

namespace BanchoPrism.Login

open Library Prog

-- The three indexes find exactly the players on the list.
structure Listing (s : Server) : Prop where
  nodup : s.players.list.Nodup
  token : Indexed s.players.byToken (fun p => (s.player p).token) s.players.list
  id : Indexed s.players.byId (fun p => (s.player p).id) s.players.list
  name : Indexed s.players.byName (fun p => (s.player p).safeName) s.players.list

theorem Listing.of_same {s t : Server} (h : Listing s) (hst : SameRegistry s t) : Listing t := by
  have htoken : ∀ q, (t.player q).token = (s.player q).token := fun q =>
    congrArg Keys.token (hst.keys q)
  have hid : ∀ q, (t.player q).id = (s.player q).id := fun q => congrArg Keys.id (hst.keys q)
  have hname : ∀ q, (t.player q).safeName = (s.player q).safeName := fun q =>
    congrArg Keys.safeName (hst.keys q)
  constructor
  · rw [hst.players]
    exact h.nodup
  · rw [hst.players]
    exact h.token.congr fun q _ => htoken q
  · rw [hst.players]
    exact h.id.congr fun q _ => hid q
  · rw [hst.players]
    exact h.name.congr fun q _ => hname q

theorem Listing.indexes {p : PlayerRef} {s : Server} (h : Listing s) (hp : p ∈ s.players.list) :
    Indexes s p where
  token := (h.token.isSome_iff _).mpr ⟨p, hp, rfl⟩
  id := (h.id.isSome_iff _).mpr ⟨p, hp, rfl⟩
  name := (h.name.isSome_iff _).mpr ⟨p, hp, rfl⟩

theorem Listing.dropped {p : PlayerRef} {s : Server} (h : Listing s) (hp : p ∈ s.players.list) :
    Listing (dropped s p) where
  nodup := h.nodup.erase p
  token := h.token.erase h.nodup hp
  id := h.id.erase h.nodup hp
  name := h.name.erase h.nodup hp

-- A session that is off the list loses its token.
def signedOff (s : Server) (p : PlayerRef) : Server :=
  (if p ∈ s.players.list then dropped s p else s).modifyPlayer p fun player =>
    { player with token := "" }

theorem signedOff_list {p : PlayerRef} {s : Server} (h : Listing s) (q : PlayerRef) :
    q ∈ (signedOff s p).players.list ↔ q ≠ p ∧ q ∈ s.players.list := by
  unfold signedOff
  split
  · exact h.nodup.mem_erase_iff
  · rename_i hp
    constructor
    · exact fun hq => ⟨fun hqp => hp (hqp ▸ hq), hq⟩
    · exact And.right

theorem signedOff_player {p q : PlayerRef} {s : Server} (hq : q ≠ p) :
    (signedOff s p).player q = s.player q := by
  unfold signedOff
  split
  · exact Function.update_of_ne hq _ _
  · exact Function.update_of_ne hq _ _

theorem Listing.signedOff {p : PlayerRef} {s : Server} (h : Listing s) :
    Listing (signedOff s p) := by
  have hplayer : ∀ q ∈ (Login.signedOff s p).players.list,
      (Login.signedOff s p).player q = s.player q := fun q hq =>
    signedOff_player ((signedOff_list h q).mp hq).1
  by_cases hp : p ∈ s.players.list
  · have hplayers : (Login.signedOff s p).players = (Login.dropped s p).players := by
      simp only [Login.signedOff, if_pos hp]
      rfl
    have hd := h.dropped hp
    constructor
    · rw [hplayers]
      exact hd.nodup
    · rw [hplayers] at hplayer ⊢
      exact hd.token.congr fun q hq => congrArg Player.token (hplayer q hq)
    · rw [hplayers] at hplayer ⊢
      exact hd.id.congr fun q hq => congrArg Player.id (hplayer q hq)
    · rw [hplayers] at hplayer ⊢
      exact hd.name.congr fun q hq => congrArg Player.safeName (hplayer q hq)
  · have hplayers : (Login.signedOff s p).players = s.players := by
      simp only [Login.signedOff, if_neg hp]
      rfl
    constructor
    · rw [hplayers]
      exact h.nodup
    · rw [hplayers] at hplayer ⊢
      exact h.token.congr fun q hq => congrArg Player.token (hplayer q hq)
    · rw [hplayers] at hplayer ⊢
      exact h.id.congr fun q hq => congrArg Player.id (hplayer q hq)
    · rw [hplayers] at hplayer ⊢
      exact h.name.congr fun q hq => congrArg Player.safeName (hplayer q hq)

-- A logout raises before it comes to the player list, or takes the session off it.
theorem logout_registry (p : PlayerRef) {s : Server} (h : Listing s) :
    ((logout p s).1 ≠ .ok () ∧ SameRegistry s (logout p s).2) ∨
      ∃ u, SameRegistry s u ∧ SameRegistry (signedOff u p) (logout p s).2 := by
  have hleave := leaveMatch_registry p s
  unfold logout
  rcases hl : leaveMatch p s with ⟨e | _, t⟩
  · rw [bind_run_error hl]
    exact Or.inl ⟨by simp, by simpa [Moves, hl] using hleave⟩
  have ht : SameRegistry s t := by simpa [Moves, hl] using hleave
  rw [bind_run_ok hl]
  have hquit := quitSpectating_registry p t
  unfold closeSession
  rcases hq : quitSpectating p t with ⟨e | _, u⟩
  · rw [bind_run_error hq]
    exact Or.inl ⟨by simp, ht.trans (by simpa [Moves, hq] using hquit)⟩
  have hu : SameRegistry s u := ht.trans (by simpa [Moves, hq] using hquit)
  rw [bind_run_ok hq, read_bind_run]
  have hchannels := leaveChannels_registry p (u.player p).channels.length u
  rcases hc : leaveChannels p (u.player p).channels.length u with ⟨e | _, v⟩
  · rw [bind_run_error hc]
    exact Or.inl ⟨by simp, hu.trans (by simpa [Moves, hc] using hchannels)⟩
  have hv : SameRegistry s v := hu.trans (by simpa [Moves, hc] using hchannels)
  refine Or.inr ⟨v, hv, ?_⟩
  rw [bind_run_ok hc]
  have hrest : ∀ w, SameRegistry (w.modifyPlayer p fun player => { player with token := "" })
      (((Prog.update fun s => s.modifyPlayer p fun player => { player with token := "" }) >>=
        fun _ => Prog.read >>= fun s => Prog.onlyIf (!(s.player p).restricted)
          (sendAll s.players.list (.logout (s.player p).id)) : Handler Unit) w).2 := by
    intro w
    rw [update_bind_run, read_bind_run]
    exact Within.onlyIf (sendAll_registry _ _) _
  by_cases hp : p ∈ v.players.list
  · rw [bind_run_ok (playersRemove_run hp ((h.of_same hv).indexes hp))]
    simp only [signedOff, if_pos hp]
    exact hrest _
  · rw [bind_run_ok (playersRemove_run_absent hp)]
    simp only [signedOff, if_neg hp]
    exact hrest _

theorem Listing.logout (p : PlayerRef) {s : Server} (h : Listing s) :
    Listing (BanchoPrism.logout p s).2 := by
  rcases logout_registry p h with ⟨-, hsame⟩ | ⟨u, hu, hsame⟩
  · exact h.of_same hsame
  · exact ((h.of_same hu).signedOff).of_same hsame

variable {s : Accounts}

-- What logins keep: the indexes, one row of the users table for each session, and
-- requests with a row that the database finds by their name.
structure Sound (s : Accounts) : Prop where
  listing : Listing s.server
  tokens : ∀ q ∈ s.server.players.list, q < s.server.nextPlayer ∧
    (s.server.player q).token = s.generateToken q
  fresh : Function.Injective s.generateToken
  ids : (s.users.map (·.id)).Nodup
  names : (s.users.map fun row => s.collate (s.server.makeSafeName row.name)).Nodup
  rows : ∀ q ∈ s.server.players.list, ∃ row ∈ s.users, row.id = (s.server.player q).id ∧
    s.server.makeSafeName row.name = (s.server.player q).safeName
  user : ∀ e ∈ s.entering, ∀ row ∈ e.user, row ∈ s.users ∧
    s.collate (s.server.makeSafeName row.name) = s.collate (s.server.makeSafeName e.username)

theorem makeSafeName_congr {s t : Server} (h : t.lower = s.lower) (name : String) :
    t.makeSafeName name = s.makeSafeName name := by
  unfold Server.makeSafeName
  rw [h]

theorem Sound.eq_of_id (h : Sound s) {row row' : UserRow} (hr : row ∈ s.users)
    (hr' : row' ∈ s.users) (hid : row.id = row'.id) : row = row' :=
  List.inj_on_of_nodup_map h.ids hr hr' hid

theorem Sound.eq_of_name (h : Sound s) {row row' : UserRow} (hr : row ∈ s.users)
    (hr' : row' ∈ s.users) (hn : s.server.makeSafeName row.name = s.server.makeSafeName row'.name) :
    row = row' := by
  have hinj := List.inj_on_of_nodup_map h.names
  exact hinj hr hr' (congrArg s.collate hn)

-- A state that differs in the server only, which keeps the registry.
theorem Sound.of_same (h : Sound s) {t : Server} (hst : SameRegistry s.server t) :
    Sound { s with server := t } := by
  have hkeys := hst.keys
  have hname : ∀ q, (t.player q).safeName = (s.server.player q).safeName := fun q =>
    congrArg Keys.safeName (hkeys q)
  have hsafe := makeSafeName_congr hst.lower
  constructor
  case listing => exact h.listing.of_same hst
  case fresh => exact h.fresh
  case ids => exact h.ids
  case names =>
    dsimp only
    simp only [hsafe]
    exact h.names
  case tokens =>
    intro q hq
    rw [hst.players] at hq
    have htoken : (t.player q).token = (s.server.player q).token := congrArg Keys.token (hkeys q)
    obtain ⟨hlt, hgen⟩ := h.tokens q hq
    exact ⟨by rw [hst.nextPlayer]; exact hlt, htoken.trans hgen⟩
  case rows =>
    intro q hq
    rw [hst.players] at hq
    have hid : (t.player q).id = (s.server.player q).id := congrArg Keys.id (hkeys q)
    obtain ⟨row, hrow, hi, hn⟩ := h.rows q hq
    exact ⟨row, hrow, hi.trans hid.symm, by rw [hsafe, hname]; exact hn⟩
  case user =>
    dsimp only
    simp only [hsafe]
    exact h.user

theorem Sound.signedOff (h : Sound s) (p : PlayerRef) :
    Sound { s with server := signedOff s.server p } := by
  have hlist := signedOff_list (p := p) h.listing
  have hlower : (Login.signedOff s.server p).lower = s.server.lower := by
    unfold Login.signedOff
    split <;> rfl
  have hnext : (Login.signedOff s.server p).nextPlayer = s.server.nextPlayer := by
    unfold Login.signedOff
    split <;> rfl
  have hsafe := makeSafeName_congr hlower
  constructor
  case listing => exact h.listing.signedOff
  case fresh => exact h.fresh
  case ids => exact h.ids
  case names =>
    dsimp only
    simp only [hsafe]
    exact h.names
  case user =>
    dsimp only
    simp only [hsafe]
    exact h.user
  case tokens =>
    intro q hq
    obtain ⟨hqp, hq'⟩ := (hlist q).mp hq
    dsimp only
    rw [signedOff_player hqp, hnext]
    exact h.tokens q hq'
  case rows =>
    intro q hq
    obtain ⟨hqp, hq'⟩ := (hlist q).mp hq
    obtain ⟨row, hrow, hi, hn⟩ := h.rows q hq'
    dsimp only
    rw [signedOff_player hqp]
    exact ⟨row, hrow, hi, by rw [hsafe]; exact hn⟩

theorem Sound.logout (h : Sound s) (p : PlayerRef) :
    Sound { s with server := (BanchoPrism.logout p s.server).2 } := by
  rcases logout_registry p h.listing with ⟨-, hsame⟩ | ⟨u, hu, hsame⟩
  · exact h.of_same hsame
  · exact ((h.of_same hu).signedOff p).of_same hsame

theorem logout_lower {s : Server} (h : Listing s) (p : PlayerRef) :
    (BanchoPrism.logout p s).2.lower = s.lower := by
  rcases logout_registry p h with ⟨-, hsame⟩ | ⟨u, hu, hsame⟩
  · exact hsame.lower
  · refine hsame.lower.trans (Eq.trans ?_ hu.lower)
    unfold signedOff
    split <;> rfl

-- replaceSession does nothing, or logs one session out.
theorem replaceSession_server (s : Server) (lastRecv : PlayerRef → Int) (username : String)
    (tourney : Bool) (now : Int) :
    (replaceSession lastRecv username tourney now s).2 = s ∨
      ∃ p, (replaceSession lastRecv username tourney now s).2 = (BanchoPrism.logout p s).2 := by
  unfold Login.replaceSession
  rw [read_bind_run]
  rcases s.getByName username with _ | p
  · exact Or.inl rfl
  dsimp only
  split
  · exact Or.inl rfl
  split
  · exact Or.inl rfl
  refine Or.inr ⟨p, ?_⟩
  rcases hl : BanchoPrism.logout p s with ⟨e | _, t⟩
  · rw [bind_run_error hl]
  · rw [bind_run_ok hl]
    rfl

theorem replaceSession_lower {s : Server} (h : Listing s) (lastRecv : PlayerRef → Int)
    (username : String) (tourney : Bool) (now : Int) :
    (replaceSession lastRecv username tourney now s).2.lower = s.lower := by
  rcases replaceSession_server s lastRecv username tourney now with hsame | ⟨p, hlogout⟩
  · rw [hsame]
  · rw [hlogout]
    exact logout_lower h p

-- Who is on the list after a logout was on it, under the same name, and is not the
-- one who logged out, unless the logout raised.
theorem Listing.logout_list {s : Server} (h : Listing s) {p q : PlayerRef}
    (hq : q ∈ (BanchoPrism.logout p s).2.players.list) :
    q ∈ s.players.list ∧
      ((BanchoPrism.logout p s).2.player q).safeName = (s.player q).safeName ∧
      ((BanchoPrism.logout p s).1 = .ok () → q ≠ p) := by
  rcases logout_registry p h with ⟨hno, hsame⟩ | ⟨u, hu, hsame⟩
  · rw [hsame.players] at hq
    exact ⟨hq, congrArg Keys.safeName (hsame.keys q), fun hok => absurd hok hno⟩
  rw [hsame.players] at hq
  obtain ⟨hqp, hq'⟩ := (signedOff_list (h.of_same hu) q).mp hq
  rw [hu.players] at hq'
  have hkeys := hsame.keys q
  rw [signedOff_player hqp] at hkeys
  exact ⟨hq', congrArg Keys.safeName (hkeys.trans (hu.keys q)), fun _ => hqp⟩

theorem replaceSession_list {s : Server} (h : Listing s) {lastRecv : PlayerRef → Int}
    {username : String} {tourney : Bool} {now : Int} {q : PlayerRef}
    (hq : q ∈ (replaceSession lastRecv username tourney now s).2.players.list) :
    q ∈ s.players.list ∧
      ((replaceSession lastRecv username tourney now s).2.player q).safeName =
        (s.player q).safeName := by
  rcases replaceSession_server s lastRecv username tourney now with hsame | ⟨p, hlogout⟩
  · rw [hsame] at hq ⊢
    exact ⟨hq, rfl⟩
  · rw [hlogout] at hq ⊢
    exact ⟨(h.logout_list hq).1, (h.logout_list hq).2.1⟩

theorem Sound.replaceSession (h : Sound s) (username : String) (tourney : Bool) (now : Int) :
    Sound { s with server := (replaceSession s.lastRecv username tourney now s.server).2 } := by
  rcases replaceSession_server s.server s.lastRecv username tourney now with hsame | ⟨p, hlogout⟩
  · rw [hsame]
    exact h
  · rw [hlogout]
    exact h.logout p

-- A request that is let in finds no session of its name any more.
theorem replaceSession_nobody {s : Server} (h : Listing s) {lastRecv : PlayerRef → Int}
    {username : String} {tourney : Bool} {now : Int}
    (hok : (replaceSession lastRecv username tourney now s).1 = .ok true)
    (htourney : tourney = false) {q : PlayerRef}
    (hq : q ∈ (replaceSession lastRecv username tourney now s).2.players.list) :
    (s.player q).safeName ≠ s.makeSafeName username := by
  intro hkey
  obtain ⟨hq', -⟩ := replaceSession_list h hq
  have hfound : s.getByName username = some q := (h.name _ q).mpr ⟨hq', hkey⟩
  subst htourney
  unfold Login.replaceSession at hok hq
  rw [read_bind_run, hfound] at hok hq
  dsimp only at hok hq
  rw [if_neg Bool.false_ne_true] at hok hq
  split at hok
  · simp [pure_run] at hok
  rename_i hquiet
  rw [if_neg hquiet] at hq
  have hlist := h.logout_list (p := q) (q := q)
  rcases hl : BanchoPrism.logout q s with ⟨e | _, t⟩
  · rw [bind_run_error hl] at hok
    simp at hok
  · rw [bind_run_ok hl] at hq
    rw [hl] at hlist
    exact (hlist hq).2.2 rfl rfl

end BanchoPrism.Login
