import BanchoPrism.Login.Sessions
import BanchoPrism.Multiplayer.SeatsAgree

namespace BanchoPrism.Login

open Library Prog Accounts

variable {s : Accounts}

section Steps

theorem Sound.of_entering (h : Sound s) {entering : List Entering}
    (huser : ∀ e ∈ entering, ∀ row ∈ e.user, row ∈ s.users ∧
      s.collate (s.server.makeSafeName row.name) =
        s.collate (s.server.makeSafeName e.username)) :
    Sound { s with entering := entering } :=
  { h with user := huser }

theorem Sound.eraseIdx (h : Sound s) (i : Nat) :
    Sound { s with entering := s.entering.eraseIdx i } :=
  h.of_entering fun e he => h.user e ((List.eraseIdx_sublist s.entering i).subset he)

theorem Sound.arrive (h : Sound s) (username : String) (tourney : Bool) (now : Int) :
    Sound (s.arrive username tourney now) := by
  have hsound := h.replaceSession username tourney now
  unfold Accounts.arrive
  rcases hrun : Login.replaceSession s.lastRecv username tourney now s.server with ⟨e | ok, t⟩
  · rw [hrun] at hsound
    exact hsound
  rw [hrun] at hsound
  cases ok with
  | false => exact hsound
  | true =>
    refine hsound.of_entering fun e he => ?_
    rcases List.mem_append.mp he with he | he
    · exact hsound.user e he
    · rw [List.mem_singleton.mp he]
      exact fun row hrow => by cases hrow

theorem findUser_some {name : String} {row : UserRow} (h : s.findUser name = some row) :
    row ∈ s.users ∧
      s.collate (s.server.makeSafeName row.name) = s.collate (s.server.makeSafeName name) := by
  have hfound := List.find?_some h
  exact ⟨List.mem_of_find?_eq_some h, by simpa using hfound⟩

theorem Sound.authenticate (h : Sound s) (i : Nat) (passes : Bool) :
    Sound (s.authenticate i passes) := by
  unfold Accounts.authenticate
  split
  · exact h
  rename_i e he
  split
  swap
  · exact h.eraseIdx i
  rename_i row hrow
  split
  swap
  · exact h.eraseIdx i
  have hmem : e ∈ s.entering := List.mem_of_getElem? he
  refine h.of_entering fun e' he' => ?_
  rcases List.mem_or_eq_of_mem_set he' with he' | rfl
  · exact h.user e' he'
  · intro row' hrow'
    obtain rfl := Option.some.inj hrow'
    exact findUser_some hrow

-- t is s with a new player on the list, under the given keys.
structure Joined (s t : Server) (keys : Keys) : Prop where
  lower : t.lower = s.lower
  nextPlayer : t.nextPlayer = s.nextPlayer + 1
  old : ∀ q, q ≠ s.nextPlayer → (t.player q).keys = (s.player q).keys
  new : (t.player s.nextPlayer).keys = keys
  list : t.players.list = s.players.list ++ [s.nextPlayer]
  byToken : t.players.byToken = Function.update s.players.byToken keys.token (some s.nextPlayer)
  byId : t.players.byId = Function.update s.players.byId keys.id (some s.nextPlayer)
  byName : t.players.byName = Function.update s.players.byName keys.safeName (some s.nextPlayer)

theorem login_joined (profile : Profile) {s : Server} (hfree : s.nextPlayer ∉ s.players.list) :
    Joined s (BanchoPrism.login profile s).2
      { token := profile.token, id := profile.id, safeName := s.makeSafeName profile.name } := by
  have hself : ((freshSession s profile).player s.nextPlayer).keys =
      { token := profile.token, id := profile.id, safeName := s.makeSafeName profile.name } := by
    simp only [freshSession, Server.modifyPlayer, Function.update_self]
    rfl
  have hother : ∀ q, q ≠ s.nextPlayer → (freshSession s profile).player q = s.player q :=
    fun q hq => Function.update_of_ne hq _ _
  have hrun : (BanchoPrism.login profile s).2 = { freshSession s profile with
      players :=
        { list := s.players.list ++ [s.nextPlayer]
          byToken := Function.update s.players.byToken
            ((freshSession s profile).player s.nextPlayer).keys.token (some s.nextPlayer)
          byId := Function.update s.players.byId
            ((freshSession s profile).player s.nextPlayer).keys.id (some s.nextPlayer)
          byName := Function.update s.players.byName
            ((freshSession s profile).player s.nextPlayer).keys.safeName (some s.nextPlayer) } } := by
    rw [login_run]
    unfold playersAppend
    rw [update_run]
    exact if_neg hfree
  rw [hrun, hself]
  exact ⟨rfl, rfl, fun q hq => congrArg Player.keys (hother q hq), hself, rfl, rfl, rfl, rfl⟩

theorem Listing.joined {s t : Server} {keys : Keys} (h : Listing s) (hj : Joined s t keys)
    (hlast : ∀ q ∈ s.players.list, q ≠ s.nextPlayer)
    (htoken : ∀ q ∈ s.players.list, (s.player q).token ≠ keys.token)
    (hid : ∀ q ∈ s.players.list, (s.player q).id ≠ keys.id)
    (hname : ∀ q ∈ s.players.list, (s.player q).safeName ≠ keys.safeName) : Listing t := by
  have hold : ∀ q ∈ s.players.list, (t.player q).keys = (s.player q).keys := fun q hq =>
    hj.old q (hlast q hq)
  have hnewToken : (t.player s.nextPlayer).token = keys.token := congrArg Keys.token hj.new
  have hnewId : (t.player s.nextPlayer).id = keys.id := congrArg Keys.id hj.new
  have hnewName : (t.player s.nextPlayer).safeName = keys.safeName := congrArg Keys.safeName hj.new
  constructor
  · rw [hj.list]
    refine List.nodup_append.mpr ⟨h.nodup, List.nodup_singleton _, fun q hq q' hq' => ?_⟩
    rw [List.mem_singleton.mp hq']
    exact hlast q hq
  · have hkey : ∀ q ∈ s.players.list, (t.player q).token = (s.player q).token := fun q hq =>
      congrArg Keys.token (hold q hq)
    rw [hj.list, hj.byToken, ← hnewToken]
    refine (h.token.congr hkey).append fun q hq => ?_
    rw [hkey q hq, hnewToken]
    exact htoken q hq
  · have hkey : ∀ q ∈ s.players.list, (t.player q).id = (s.player q).id := fun q hq =>
      congrArg Keys.id (hold q hq)
    rw [hj.list, hj.byId, ← hnewId]
    refine (h.id.congr hkey).append fun q hq => ?_
    rw [hkey q hq, hnewId]
    exact hid q hq
  · have hkey : ∀ q ∈ s.players.list, (t.player q).safeName = (s.player q).safeName := fun q hq =>
      congrArg Keys.safeName (hold q hq)
    rw [hj.list, hj.byName, ← hnewName]
    refine (h.name.congr hkey).append fun q hq => ?_
    rw [hkey q hq, hnewName]
    exact hname q hq

-- No session has the name of a row whose id has none.
theorem Sound.unused (h : Sound s) {row : UserRow} (hrow : row ∈ s.users)
    (hvacant : s.server.players.byId row.id = none) {q : PlayerRef}
    (hq : q ∈ s.server.players.list) :
    (s.server.player q).id ≠ row.id ∧
      (s.server.player q).safeName ≠ s.server.makeSafeName row.name := by
  have hid : (s.server.player q).id ≠ row.id := by
    intro hid
    have hfound := (h.listing.id row.id q).mpr ⟨hq, hid⟩
    rw [hvacant] at hfound
    cases hfound
  obtain ⟨row', hrow', hi, hn⟩ := h.rows q hq
  refine ⟨hid, fun hname => hid ?_⟩
  obtain rfl := h.eq_of_name hrow' hrow (hn.trans hname)
  exact hi.symm

-- A request that was let in becomes a session.
theorem Sound.joined (h : Sound s) {t : Server} {i : Nat} {row : UserRow}
    {tourney : PlayerRef → Bool} {lastRecv : PlayerRef → Int}
    (hrow : row ∈ s.users) (hvacant : s.server.players.byId row.id = none)
    (hj : Joined s.server t
      { token := s.generateToken s.server.nextPlayer
        id := row.id
        safeName := s.server.makeSafeName row.name }) :
    Sound { s with
      server := t
      tourney := tourney
      lastRecv := lastRecv
      entering := s.entering.eraseIdx i } := by
  have hlast : ∀ q ∈ s.server.players.list, q ≠ s.server.nextPlayer := fun q hq =>
    Nat.ne_of_lt (h.tokens q hq).1
  have hsafe : ∀ name, t.makeSafeName name = s.server.makeSafeName name :=
    makeSafeName_congr hj.lower
  have hkeys : ∀ q ∈ s.server.players.list, (t.player q).keys = (s.server.player q).keys :=
    fun q hq => hj.old q (hlast q hq)
  have hlist : ∀ q ∈ t.players.list, q ∈ s.server.players.list ∨ q = s.server.nextPlayer := by
    intro q hq
    rw [hj.list] at hq
    exact (List.mem_append.mp hq).imp_right List.mem_singleton.mp
  have hsub := List.eraseIdx_sublist s.entering i
  constructor
  case listing =>
    refine h.listing.joined hj hlast (fun q hq => ?_) (fun q hq => ?_) fun q hq => ?_
    · rw [(h.tokens q hq).2]
      exact fun hsame => hlast q hq (h.fresh hsame)
    · exact (h.unused hrow hvacant hq).1
    · exact (h.unused hrow hvacant hq).2
  case fresh => exact h.fresh
  case ids => exact h.ids
  case names =>
    dsimp only
    simp only [hsafe]
    exact h.names
  case tokens =>
    intro q hq
    dsimp only
    rw [hj.nextPlayer]
    rcases hlist q hq with hq | rfl
    · obtain ⟨hlt, hgen⟩ := h.tokens q hq
      exact ⟨Nat.lt_succ_of_lt hlt, (congrArg Keys.token (hkeys q hq)).trans hgen⟩
    · exact ⟨Nat.lt_succ_self _, congrArg Keys.token hj.new⟩
  case rows =>
    intro q hq
    dsimp only
    rcases hlist q hq with hq | rfl
    · obtain ⟨row', hrow', hi, hn⟩ := h.rows q hq
      have hid : (t.player q).id = (s.server.player q).id := congrArg Keys.id (hkeys q hq)
      have hname : (t.player q).safeName = (s.server.player q).safeName :=
        congrArg Keys.safeName (hkeys q hq)
      exact ⟨row', hrow', hi.trans hid.symm, by rw [hsafe, hn, hname]⟩
    · have hid : (t.player s.server.nextPlayer).id = row.id := congrArg Keys.id hj.new
      have hname : (t.player s.server.nextPlayer).safeName = s.server.makeSafeName row.name :=
        congrArg Keys.safeName hj.new
      exact ⟨row, hrow, hid.symm, by rw [hsafe, hname]⟩
  case user =>
    intro e' he' row' hrow'
    dsimp only
    rw [hsafe, hsafe]
    exact h.user e' (hsub.subset he') row' hrow'

theorem Sound.enter (h : Sound s) {i : Nat} {blocks : List Nat}
    (hvacant : Event.Vacant s (.enter i blocks)) : Sound (s.enter i blocks) := by
  unfold Accounts.enter
  split
  · exact h
  rename_i e he
  split
  · exact h
  · rename_i row hrow
    have hfree : s.server.nextPlayer ∉ s.server.players.list := fun hq =>
      Nat.lt_irrefl _ (h.tokens _ hq).1
    have huser := h.user e (List.mem_of_getElem? he) row hrow
    exact h.joined huser.1 (hvacant e he row hrow) (login_joined _ hfree)

theorem renameRow_id (id : Nat) (name : String) (row : UserRow) :
    (renameRow id name row).id = row.id := by
  unfold renameRow
  split <;> rfl

theorem renameRow_of_ne {id : Nat} {name : String} {row : UserRow} (h : row.id ≠ id) :
    renameRow id name row = row := if_neg h

-- An account without a session takes a name that is free.
theorem Sound.renameOffline (h : Sound s) {row : UserRow} {name : String} (hrow : row ∈ s.users)
    (hfree : s.findUser name = none) (hoff : s.server.players.byId row.id = none)
    (hentering : ∀ e ∈ s.entering, ∀ row' ∈ e.user, row'.id ≠ row.id) :
    Sound { s with users := s.users.map (renameRow row.id name) } := by
  have hunused : ∀ row' ∈ s.users,
      s.collate (s.server.makeSafeName row'.name) ≠ s.collate (s.server.makeSafeName name) := by
    intro row' hrow' hsame
    have hnone := List.find?_eq_none.mp hfree row' hrow'
    simp [hsame] at hnone
  constructor
  case listing => exact h.listing
  case tokens => exact h.tokens
  case fresh => exact h.fresh
  case ids =>
    dsimp only
    rw [List.map_map]
    have hids : (fun row' : UserRow => row'.id) ∘ renameRow row.id name = fun row' => row'.id :=
      funext fun row' => renameRow_id _ _ row'
    rw [hids]
    exact h.ids
  case names =>
    dsimp only
    rw [List.map_map]
    refine List.Nodup.map_on (fun row₁ h₁ row₂ h₂ hsame => ?_) h.ids.of_map
    simp only [Function.comp_apply, renameRow] at hsame
    by_cases hid₁ : row₁.id = row.id
    · by_cases hid₂ : row₂.id = row.id
      · exact h.eq_of_id h₁ h₂ (hid₁.trans hid₂.symm)
      · rw [if_pos hid₁, if_neg hid₂] at hsame
        exact absurd hsame.symm (hunused row₂ h₂)
    · by_cases hid₂ : row₂.id = row.id
      · rw [if_neg hid₁, if_pos hid₂] at hsame
        exact absurd hsame (hunused row₁ h₁)
      · rw [if_neg hid₁, if_neg hid₂] at hsame
        exact List.inj_on_of_nodup_map h.names h₁ h₂ hsame
  case rows =>
    intro q hq
    obtain ⟨row', hrow', hi, hn⟩ := h.rows q hq
    have hne : row'.id ≠ row.id := fun hid => (h.unused hrow hoff hq).1 (hi.symm.trans hid)
    exact ⟨row', List.mem_map.mpr ⟨row', hrow', renameRow_of_ne hne⟩, hi, hn⟩
  case user =>
    intro e he row' hrow'
    obtain ⟨hmem, hn⟩ := h.user e he row' hrow'
    have hne : row'.id ≠ row.id := hentering e he row' hrow'
    exact ⟨List.mem_map.mpr ⟨row', hmem, renameRow_of_ne hne⟩, hn⟩

-- A rename to the name the account has changes no key.
theorem Sound.renameSame (h : Sound s) {row : UserRow} (hrow : row ∈ s.users) :
    SameRegistry s.server (renameSession s.server row.id row.name) := by
  unfold renameSession
  split
  · exact SameRegistry.refl _
  rename_i p hp
  obtain ⟨hlisted, hid⟩ := (h.listing.id row.id p).mp hp
  obtain ⟨row', hrow', hi, hn⟩ := h.rows p hlisted
  obtain rfl := h.eq_of_id hrow' hrow (hi.trans hid)
  refine SameRegistry.modifyPlayerAt ?_
  simp only [Player.keys, hn]

theorem Sound.rename (h : Sound s) {id : Nat} {name : String}
    (hoffline : RenamesOffline s id name) : Sound (s.rename id name) := by
  unfold Accounts.rename
  split
  · exact h
  rename_i row hfind
  have hrow : row ∈ s.users := List.mem_of_find?_eq_some hfind
  obtain rfl : row.id = id := by simpa using List.find?_some hfind
  by_cases hname : row.name = name
  · subst hname
    rw [if_neg (by simp)]
    have husers : s.users.map (renameRow row.id row.name) = s.users := by
      refine (List.map_congr_left fun row' hrow' => ?_).trans (List.map_id _)
      by_cases hid : row'.id = row.id
      · obtain rfl := h.eq_of_id hrow' hrow hid
        simp [renameRow]
      · exact renameRow_of_ne hid
    rw [husers]
    exact h.of_same (h.renameSame hrow)
  · by_cases hfree : s.findUser name = none
    · obtain ⟨hoff, hentering⟩ := hoffline row hrow rfl hname
      rw [if_neg (by simp [hfree])]
      have hserver : renameSession s.server row.id name = s.server := by
        unfold renameSession
        rw [hoff]
      rw [hserver]
      exact h.renameOffline hrow hfree hoff hentering
    · rw [if_pos ⟨Ne.symm hname, Option.isSome_iff_ne_none.mpr hfree⟩]
      exact h

theorem rename_entering (s : Accounts) (id : Nat) (name : String) :
    (s.rename id name).entering = s.entering := by
  unfold Accounts.rename
  split
  · rfl
  · split <;> rfl

theorem rename_collate (s : Accounts) (id : Nat) (name : String) :
    (s.rename id name).collate = s.collate := by
  unfold Accounts.rename
  split
  · rfl
  · split <;> rfl

theorem Sound.rename_server (h : Sound s) {id : Nat} {name : String}
    (hoffline : RenamesOffline s id name) : SameRegistry s.server (s.rename id name).server := by
  unfold Accounts.rename
  split
  · exact SameRegistry.refl _
  rename_i row hfind
  have hrow : row ∈ s.users := List.mem_of_find?_eq_some hfind
  obtain rfl : row.id = id := by simpa using List.find?_some hfind
  split
  · exact SameRegistry.refl _
  by_cases hname : row.name = name
  · exact hname ▸ h.renameSame hrow
  · have hserver : renameSession s.server row.id name = s.server := by
      unfold renameSession
      rw [(hoffline row hrow rfl hname).1]
    dsimp only
    rw [hserver]
    exact SameRegistry.refl _

theorem Sound.step (h : Sound s) {event : Accounts.Event} (hvacant : event.Vacant s) :
    Sound (s.step event) := by
  cases event with
  | arrive username tourney now => exact h.arrive username tourney now
  | authenticate i passes => exact h.authenticate i passes
  | fail i => exact h.eraseIdx i
  | enter i blocks => exact h.enter hvacant
  | logout p => exact h.logout p
  | heard p now => exact { h with }
  | rename id name => exact h.rename hvacant

end Steps

section Runs

-- Only the bot is online, with the row of the bot.
theorem Sound.start (deployment : Deployment) : Sound deployment.start := by
  have hserver : deployment.start.server.players.list = [botRef] := rfl
  constructor
  case listing =>
    constructor
    · exact List.nodup_singleton _
    · exact Indexed.singleton (fun p => (deployment.start.server.player p).token) botRef
    · exact Indexed.singleton (fun p => (deployment.start.server.player p).id) botRef
    · exact Indexed.singleton (fun p => (deployment.start.server.player p).safeName) botRef
  case tokens =>
    intro q hq
    rw [hserver, List.mem_singleton] at hq
    subst hq
    exact ⟨Nat.one_pos, rfl⟩
  case fresh => exact deployment.fresh
  case ids => exact deployment.ids
  case names => exact deployment.names
  case rows =>
    intro q hq
    rw [hserver, List.mem_singleton] at hq
    subst hq
    exact ⟨deployment.bot, List.mem_cons_self, deployment.bot_id, rfl⟩
  case user => exact fun e he => by cases he

theorem Listing.indexesAgree {s : Server} (h : Listing s) : IndexesAgree s := by
  have hid : ∀ id p, s.getById id = some p →
      p ∈ s.players.list ∧ ((s.player p).id : Int) = id := by
    intro id p hp
    unfold Server.getById at hp
    split at hp
    · rename_i hnonneg
      obtain ⟨hlisted, hkey⟩ := (h.id _ p).mp hp
      have hnat : (s.player p).id = id.toNat := hkey
      exact ⟨hlisted, by omega⟩
    · cases hp
  constructor
  case token_found => exact fun token => h.token.isSome_iff token
  case token_key => exact fun token p hp => (h.token token p).mp hp
  case id_found =>
    intro id
    constructor
    · intro hsome
      obtain ⟨p, hp⟩ := Option.isSome_iff_exists.mp hsome
      exact ⟨p, hid id p hp⟩
    · rintro ⟨p, hp, rfl⟩
      exact (h.id.isSome_iff _).mpr ⟨p, hp, rfl⟩
  case id_key => exact hid
  case name_found => exact fun name => h.name.isSome_iff _
  case name_key => exact fun name p hp => (h.name _ p).mp hp
  case removes =>
    intro p hp
    refine ⟨Login.dropped s p, playersRemove_run hp (h.indexes hp), rfl, rfl, fun token htoken => ?_,
      fun id hother => ?_, fun name hname => ?_⟩
    · exact h.token.delete_eq hp htoken
    · unfold Server.getById at hother ⊢
      split
      · rename_i hnonneg
        rw [if_pos hnonneg] at hother
        exact h.id.delete_eq hp hother
      · rfl
    · exact h.name.delete_eq hp hname

-- When no session joins or renames over another of its account, the indexes agree
-- with the list in every state reached.
theorem indexesAgree_of_vacant (deployment : Deployment) (run : List Accounts.Event)
    (h : Guarded Accounts.step (fun s event => event.Vacant s) deployment.start run) :
    IndexesAgree (runFrom Accounts.step deployment.start run).server := by
  have hsound := Guarded.invariant Sound (fun _ _ hs hvacant => hs.step hvacant)
    (Sound.start deployment) h
  exact hsound.listing.indexesAgree

-- To the database an accent makes no difference.
def unaccented (name : String) : String :=
  String.ofList (name.toList.map fun c => if c = 'ó' then 'o' else c)

-- The bot and two users, with their names in lower case.
def twoUsers : Deployment where
  lower := id
  collate := unaccented
  rows := []
  bot := { id := 1, name := "bot" }
  others := [{ id := 3, name := "cookie" }, { id := 4, name := "rice" }]
  generateToken := fun n => String.ofList (List.replicate n 'x')
  bot_id := rfl
  ids := by decide
  names := by decide
  fresh := fun m n h => by
    simpa using congrArg List.length (String.ofList_injective h)

def signIn (username : String) (now : Int) : List Accounts.Event :=
  [.arrive username false now, .authenticate 0 true, .enter 0 []]

-- Two users log in, one logs in again after a while, is renamed offline and is back.
theorem indexesAgree_of_vacant_twoUsers :
    IndexesAgree (runFrom Accounts.step twoUsers.start
      (signIn "cookie" 10 ++ signIn "rice" 11 ++ signIn "cookie" 30 ++
        [.logout 3, .rename 3 "biscuit"] ++ signIn "biscuit" 40)).server :=
  indexesAgree_of_vacant twoUsers _ (by decide +kernel)

-- A user who is online is renamed: the new name finds nobody.
theorem indexesAgree_renamedOnline :
    ¬IndexesAgree (runFrom Accounts.step twoUsers.start
      (signIn "cookie" 10 ++ [.rename 3 "biscuit"])).server := by
  intro h
  have hlisted : ∃ p ∈ (runFrom Accounts.step twoUsers.start
      (signIn "cookie" 10 ++ [.rename 3 "biscuit"])).server.players.list,
      ((runFrom Accounts.step twoUsers.start
        (signIn "cookie" 10 ++ [.rename 3 "biscuit"])).server.player p).safeName =
      (runFrom Accounts.step twoUsers.start
        (signIn "cookie" 10 ++ [.rename 3 "biscuit"])).server.makeSafeName "biscuit" := by
    decide +kernel
  have hfound := (h.name_found "biscuit").mpr hlisted
  have hnone : ((runFrom Accounts.step twoUsers.start
      (signIn "cookie" 10 ++ [.rename 3 "biscuit"])).server.getByName "biscuit").isNone := by
    decide +kernel
  simp [Option.isNone_iff_eq_none.mp hnone] at hfound

end Runs

section Sessions

-- The account of a login that is under way has no session.
def Absent (s : Accounts) : Prop :=
  ∀ e ∈ s.entering, ∀ q ∈ s.server.players.list,
    s.collate (s.server.player q).safeName ≠ s.collate (s.server.makeSafeName e.username)

theorem Absent.of_fewer {t : Accounts} (h : Absent s) (hcollate : t.collate = s.collate)
    (hlower : t.server.lower = s.server.lower)
    (hentering : ∀ e ∈ t.entering, ∃ e' ∈ s.entering, e'.username = e.username)
    (hlist : ∀ q ∈ t.server.players.list, q ∈ s.server.players.list ∧
      (t.server.player q).safeName = (s.server.player q).safeName) : Absent t := by
  intro e he q hq
  obtain ⟨e', he', hname⟩ := hentering e he
  obtain ⟨hq', hsafe⟩ := hlist q hq
  rw [hcollate, makeSafeName_congr hlower, hsafe, ← hname]
  exact h e' he' q hq'

theorem Absent.arrive (h : Absent s) (hs : Sound s) {username : String} {tourney : Bool}
    {now : Int} (hsingle : Event.Single s (.arrive username tourney now)) :
    Absent (s.arrive username tourney now) := by
  have hlower := replaceSession_lower hs.listing s.lastRecv username tourney now
  have hlist := @replaceSession_list _ hs.listing s.lastRecv username tourney now
  have hnobody := @replaceSession_nobody _ hs.listing s.lastRecv username tourney now
  unfold Accounts.arrive
  rcases hrun : Login.replaceSession s.lastRecv username tourney now s.server with ⟨e | ok, t⟩
  · rw [hrun] at hlower hlist
    exact h.of_fewer rfl hlower (fun e he => ⟨e, he, rfl⟩) fun q hq => hlist hq
  rw [hrun] at hlower hlist hnobody
  cases ok with
  | false => exact h.of_fewer rfl hlower (fun e he => ⟨e, he, rfl⟩) fun q hq => hlist hq
  | true =>
    intro e he q hq
    obtain ⟨hq', hsafe⟩ := hlist hq
    dsimp only at he ⊢
    rw [makeSafeName_congr hlower, hsafe]
    rcases List.mem_append.mp he with he | he
    · exact h e he q hq'
    · rw [List.mem_singleton.mp he]
      intro hsame
      obtain ⟨htourney, hkey⟩ := hsingle q hq' hsame
      exact hnobody rfl htourney hq hkey

theorem Absent.authenticate (h : Absent s) (i : Nat) (passes : Bool) :
    Absent (s.authenticate i passes) := by
  have herase : Absent { s with entering := s.entering.eraseIdx i } :=
    h.of_fewer rfl rfl (fun e he => ⟨e, (List.eraseIdx_sublist s.entering i).subset he, rfl⟩)
      fun q hq => ⟨hq, rfl⟩
  unfold Accounts.authenticate
  split
  · exact h
  rename_i e he
  split
  swap
  · exact herase
  split
  swap
  · exact herase
  refine h.of_fewer rfl rfl (fun e' he' => ?_) fun q hq => ⟨hq, rfl⟩
  rcases List.mem_or_eq_of_mem_set he' with he' | rfl
  · exact ⟨e', he', rfl⟩
  · exact ⟨e, List.mem_of_getElem? he, rfl⟩

theorem Absent.enter (h : Absent s) (hs : Sound s) {i : Nat} {blocks : List Nat}
    (hsingle : Event.Single s (.enter i blocks)) : Absent (s.enter i blocks) := by
  unfold Accounts.enter
  split
  · exact h
  rename_i e he
  split
  · exact h
  rename_i row hrow
  have hfree : s.server.nextPlayer ∉ s.server.players.list := fun hq =>
    Nat.lt_irrefl _ (hs.tokens _ hq).1
  have hj := login_joined
    { id := row.id
      name := row.name
      token := s.generateToken s.server.nextPlayer
      priv := row.priv
      silenceEnd := row.silenceEnd
      loginTime := e.loginTime
      blocks := blocks } hfree
  intro e' he' q hq
  have hsub := (List.eraseIdx_sublist s.entering i).subset he'
  have hq' : q ∈ s.server.players.list ++ [s.server.nextPlayer] := hj.list ▸ hq
  dsimp only [Accounts.enterAs]
  rw [makeSafeName_congr hj.lower]
  rcases List.mem_append.mp hq' with hq' | hq'
  · have hne : q ≠ s.server.nextPlayer := Nat.ne_of_lt (hs.tokens q hq').1
    have hname := congrArg Keys.safeName (hj.old q hne)
    exact fun hsame => h e' hsub q hq' ((congrArg s.collate hname).symm.trans hsame)
  · rw [List.mem_singleton.mp hq']
    have hname := congrArg Keys.safeName hj.new
    have huser := hs.user e (List.mem_of_getElem? he) row hrow
    exact fun hsame =>
      hsingle e he e' he' (hsame.symm.trans ((congrArg s.collate hname).trans huser.2))

theorem Absent.step (h : Absent s) (hs : Sound s) {event : Accounts.Event}
    (hsingle : event.Single s) : Absent (s.step event) := by
  cases event with
  | arrive username tourney now => exact h.arrive hs hsingle
  | authenticate i passes => exact h.authenticate i passes
  | fail i =>
    exact h.of_fewer rfl rfl (fun e he => ⟨e, (List.eraseIdx_sublist s.entering i).subset he, rfl⟩)
      fun q hq => ⟨hq, rfl⟩
  | enter i blocks => exact h.enter hs hsingle
  | logout p =>
    refine h.of_fewer rfl (logout_lower hs.listing p) (fun e he => ⟨e, he, rfl⟩) fun q hq => ?_
    exact ⟨(hs.listing.logout_list hq).1, (hs.listing.logout_list hq).2.1⟩
  | heard p now => exact h
  | rename id name =>
    have hserver := hs.rename_server hsingle
    refine h.of_fewer (rename_collate s id name) hserver.lower
      (fun e he => ⟨e, rename_entering s id name ▸ he, rfl⟩) fun q hq => ⟨hserver.players ▸ hq, congrArg Keys.safeName (hserver.keys q)⟩

-- A request that is alone finds no session when it ends.
theorem Absent.vacant (h : Absent s) (hs : Sound s) {event : Accounts.Event}
    (hsingle : event.Single s) : event.Vacant s := by
  cases event with
  | enter i blocks =>
    intro e he row hrow
    have hmem := List.mem_of_getElem? he
    obtain ⟨huser, hname⟩ := hs.user e hmem row hrow
    rcases hfound : s.server.players.byId row.id with _ | q
    · rfl
    obtain ⟨hq, hid⟩ := (hs.listing.id row.id q).mp hfound
    obtain ⟨row', hrow', hi, hn⟩ := hs.rows q hq
    obtain rfl := hs.eq_of_id hrow' huser (hi.trans hid)
    exact absurd ((congrArg s.collate hn).symm.trans hname) (h e hmem q hq)
  | rename id name => exact hsingle
  | arrive username tourney now => trivial
  | authenticate i passes => trivial
  | fail i => trivial
  | logout p => trivial
  | heard p now => trivial

theorem Sound.singleSession (h : Sound s) : SingleSession s where
  single _ hp _ hq _ _ hid := h.listing.id.unique hp hq hid
  id_found p hp _ := (h.listing.id _ p).mpr ⟨hp, rfl⟩
  name_found p hp _ := (h.listing.name _ p).mpr ⟨hp, rfl⟩

-- When the logins of an account do not overlap, and tourney clients and renames find
-- it without a session, no user has two sessions in any state reached.
theorem singleSession_of_single (deployment : Deployment) (run : List Accounts.Event)
    (h : Guarded Accounts.step (fun s event => event.Single s) deployment.start run) :
    SingleSession (runFrom Accounts.step deployment.start run) := by
  have hboth := Guarded.invariant (fun s => Sound s ∧ Absent s)
    (fun _ _ hs hsingle => ⟨hs.1.step (hs.2.vacant hs.1 hsingle), hs.2.step hs.1 hsingle⟩)
    ⟨Sound.start deployment, fun e he => by cases he⟩ h
  exact hboth.1.singleSession

theorem singleSession_of_single_twoUsers :
    SingleSession (runFrom Accounts.step twoUsers.start
      (signIn "cookie" 10 ++ signIn "rice" 11 ++ signIn "cookie" 30)) :=
  singleSession_of_single twoUsers _ (by decide +kernel)

-- Two requests of one user overlap: neither sees the other's session.
theorem singleSession_overlap :
    ¬SingleSession (runFrom Accounts.step twoUsers.start
      [.arrive "cookie" false 10, .arrive "cookie" false 10, .authenticate 0 true,
        .authenticate 1 true, .enter 0 [], .enter 0 []]) := by
  intro h
  have hsame := h.single 1 (by decide +kernel) 2 (by decide +kernel) (by decide +kernel)
    (by decide +kernel) (by decide +kernel)
  cases hsame

-- A name that only the database takes for the user's finds no session that is in the way.
example : ¬SingleSession (runFrom Accounts.step twoUsers.start
    (signIn "cookie" 10 ++ signIn "cóokie" 11)) := by
  intro h
  have hsame := h.single 1 (by decide +kernel) 2 (by decide +kernel) (by decide +kernel)
    (by decide +kernel) (by decide +kernel)
  cases hsame

end Sessions

end BanchoPrism.Login
