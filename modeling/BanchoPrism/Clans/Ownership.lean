import BanchoPrism.Clans.Tables
import BanchoPrism.Library.Run

namespace BanchoPrism.Clans

open Library

-- A session has what a login would give it for the row of its user.
def Agrees (u : User) (s : ClanState) : Prop :=
  s.clanId = (if u.clanId = 0 then none else some u.clanId) ∧
    s.clanPriv.map ClanPrivileges.value = if u.clanId = 0 then none else some u.clanPriv

def Synced (w : World) : Prop :=
  ∀ id, ∀ s ∈ (w.online id).all, ∀ u ∈ w.db.users, u.id = id → Agrees u s

-- The row is as a transaction has left it that syncs the session to this.
def Unchanged (u : User) (s : ClanState) : Prop :=
  u.clanId = s.clanId.getD 0 ∧ u.clanPriv = (s.clanPriv.map ClanPrivileges.value).getD 0

def Line.syncs (id : Int) : Line → Bool
  | .sync sessions _ => sessions.any fun session => session.1 = id
  | _ => false

-- What a transaction has to find, for what its call has read to hold still: nobody who is made
-- to leave owns a clan that stays, and a clan that is handed over is the caller's, or the
-- target's, who is in it. At a sync a user has no session beside the one that is found, and the row
-- is as the transaction of the call has left it, or there is another sync to come.
def Line.Holds (line : Line) (w : World) (others : List (List Line)) : Prop :=
  match line with
  | .disband clan members =>
      ∀ member ∈ members, ∀ c ∈ w.db.clans, c.owner = member.id → c.id = clan.id
  | .leave playerId clan remaining =>
      ∀ c ∈ w.db.clans, c.owner = playerId → c.id = clan.id ∧ remaining = []
  | .transfer ownerId clan target =>
      (∃ u ∈ w.db.users, u.id = target.id ∧ u.clanId = clan.id) ∧
        (∃ c ∈ w.db.clans, c.id = clan.id ∧ (c.owner = ownerId ∨ c.owner = target.id)) ∧
          ∀ c ∈ w.db.clans, c.owner = ownerId → c.id = clan.id
  | .sync sessions _ => ∀ session ∈ sessions, (w.online session.1).others = [] ∧
      ((w.online session.1).found.isSome → ∀ u ∈ w.db.users, u.id = session.1 →
        Unchanged u session.2 ∨ Tasks.Owed (Line.syncs session.1) others)
  | _ => True

instance (u : User) (s : ClanState) : Decidable (Agrees u s) :=
  inferInstanceAs (Decidable (_ ∧ _))

instance (u : User) (s : ClanState) : Decidable (Unchanged u s) :=
  inferInstanceAs (Decidable (_ ∧ _))

instance (line : Line) (w : World) (others : List (List Line)) :
    Decidable (line.Holds w others) :=
  match line with
  | .disband clan members => inferInstanceAs (Decidable
      (∀ member ∈ members, ∀ c ∈ w.db.clans, c.owner = member.id → c.id = clan.id))
  | .leave playerId clan remaining => inferInstanceAs (Decidable
      (∀ c ∈ w.db.clans, c.owner = playerId → c.id = clan.id ∧ remaining = []))
  | .transfer ownerId clan target => inferInstanceAs (Decidable
      ((∃ u ∈ w.db.users, u.id = target.id ∧ u.clanId = clan.id) ∧
        (∃ c ∈ w.db.clans, c.id = clan.id ∧ (c.owner = ownerId ∨ c.owner = target.id)) ∧
          ∀ c ∈ w.db.clans, c.owner = ownerId → c.id = clan.id))
  | .sync sessions _ => inferInstanceAs (Decidable
      (∀ session ∈ sessions, (w.online session.1).others = [] ∧
        ((w.online session.1).found.isSome → ∀ u ∈ w.db.users, u.id = session.1 →
          Unchanged u session.2 ∨ Tasks.Owed (Line.syncs session.1) others)))
  | .createClan _ _ _ _ | .currentClan _ _ _ _ _ | .findName _ _ _ _ | .findTag _ _ _ _
  | .create _ _ _ _ | .disbandClan _ | .disbandMembers _ | .leaveClan _ | .leftClan _ _
  | .leftMembers _ _ | .transferClanOwnership _ _ | .ownedClan _ _ | .findTarget _ _ _ =>
      isTrue trivial

-- A session is in a clan with a privilege, or in none.
def ClanState.Formed (s : ClanState) : Prop :=
  s.clanPriv.isSome = s.clanId.isSome ∧ s.clanId ≠ some 0

-- What stays true of what a call has read.
def Line.Formed (db : Db) : Line → Prop
  | .currentClan playerId _ _ _ clanId => (db.fetchUser playerId).isSome ∧
      (db.groups.home playerId = some clanId ∨ db.groups.Apart playerId)
  | .findName playerId _ _ _ | .findTag playerId _ _ _ | .create playerId _ _ _ =>
      (db.fetchUser playerId).isSome ∧ db.groups.Apart playerId
  | .disbandMembers clan => clan.id < db.nextId
  | .disband clan members => clan.id < db.nextId ∧
      ∀ k, db.groups.home k = some clan.id → k ∈ members.map User.id
  | .leftMembers _ clan => clan.id < db.nextId
  | .leave playerId clan remaining => clan.id < db.nextId ∧
      ∀ k, db.groups.home k = some clan.id → k = playerId ∨ k ∈ remaining.map User.id
  | .transfer ownerId _ target => target.id ≠ ownerId
  | .sync sessions _ => ∀ session ∈ sessions, session.2.Formed
  | _ => True

-- From db to db' the users stay, and nobody comes to a clan that was there.
structure Advance (db db' : Db) : Prop where
  next : db.nextId ≤ db'.nextId
  users : ∀ id, (db.fetchUser id).isSome → (db'.fetchUser id).isSome
  onward : Groups.Onward (· = db.nextId) db.groups db'.groups

theorem Line.Formed.advance {db db' : Db} {line : Line} (h : line.Formed db)
    (hadvance : Advance db db') : line.Formed db' := by
  have hnext := hadvance.next
  have hhome {k clanId : Int} (hlt : clanId < db.nextId)
      (hk : db'.groups.home k = some clanId) : db.groups.home k = some clanId :=
    hadvance.onward.home (by omega) hk
  cases line with
  | currentClan playerId tag name now clanId =>
    exact ⟨hadvance.users _ h.1, hadvance.onward.home_or_apart h.2⟩
  | findName => exact ⟨hadvance.users _ h.1, hadvance.onward.apart h.2⟩
  | findTag => exact ⟨hadvance.users _ h.1, hadvance.onward.apart h.2⟩
  | create => exact ⟨hadvance.users _ h.1, hadvance.onward.apart h.2⟩
  | disbandMembers clan => exact Int.lt_of_lt_of_le h hnext
  | disband clan members =>
    exact ⟨Int.lt_of_lt_of_le h.1 hnext, fun k hk => h.2 k (hhome h.1 hk)⟩
  | leftMembers playerId clan => exact Int.lt_of_lt_of_le h hnext
  | leave playerId clan remaining =>
    exact ⟨Int.lt_of_lt_of_le h.1 hnext, fun k hk => h.2 k (hhome h.1 hk)⟩
  | transfer => exact h
  | sync => exact h
  | _ => trivial

-- What a line does: it goes on, it commits a transaction that owes some sessions a sync, or it
-- syncs them.
inductive Does (w : World) : Line → World × List Line → Prop
  | goOn (line : Line) (results : List Result) (lines : List Line)
      (silent : ∀ id, line.syncs id = false) (formed : ∀ next ∈ lines, next.Formed w.db) :
      Does w line ({ w with results := results }, lines)
  | commit (line : Line) (db' : Db) (sessions : List (Int × ClanState)) (result : Result)
      (silent : ∀ id, line.syncs id = false) (tables : Tables db') (sound : db'.groups.Sound)
      (advance : Advance w.db db') (formed : ∀ session ∈ sessions, session.2.Formed)
      (users : ∀ id, id ∉ sessions.map Prod.fst → db'.fetchUser id = w.db.fetchUser id) :
      Does w line ({ w with db := db' }, [.sync sessions result])
  | sync (sessions : List (Int × ClanState)) (result : Result) (results : List Result) :
      Does w (.sync sessions result)
        ({ w with online := sessions.foldl syncOnlineClanState w.online, results := results }, [])

section Lines

variable {v : ClansService} {w : World} {line : Line}

theorem Does.answer (silent : ∀ id, line.syncs id = false) (result : Result) :
    Does w line (w.answer result) :=
  Does.goOn line _ [] silent fun _ hnext => absurd hnext List.not_mem_nil

theorem Does.next (silent : ∀ id, line.syncs id = false) {next : Line} (h : next.Formed w.db) :
    Does w line (w, [next]) :=
  Does.goOn line w.results [next] silent fun _ hnext => List.mem_singleton.mp hnext ▸ h

theorem isSome_of_eq_map {db db' : Db} {id : Int} {p : Prop} [Decidable p] {f : User → User}
    (h : db'.fetchUser id = if p then (db.fetchUser id).map f else db.fetchUser id)
    (hsome : (db.fetchUser id).isSome) : (db'.fetchUser id).isSome := by
  rw [h]
  split
  · rw [Option.isSome_map]
    exact hsome
  · exact hsome

theorem mem_clans_of_owner {db : Db} {clanId ownerId : Int}
    (h : db.groups.owner clanId = some ownerId) :
    ∃ c ∈ db.clans, c.id = clanId ∧ c.owner = ownerId := by
  obtain ⟨c, hfetch, howner⟩ := owner_eq_some.mp h
  exact ⟨c, mem_of_fetchBy hfetch, key_of_fetchBy hfetch, howner⟩

theorem does_create (htables : Tables w.db) (hsound : w.db.groups.Sound) {playerId : Int}
    {tag name : String} {now : Int} (hformed : (Line.create playerId tag name now).Formed w.db) :
    Does w (.create playerId tag name now) (v.perform (.create playerId tag name now) w) := by
  simp only [ClansService.perform]
  cases hcreate : w.db.create v.collate playerId tag name now with
  | none => exact Does.answer (fun _ => rfl) _
  | some found =>
    obtain ⟨clan, after⟩ := found
    have hcreated := created_of_create htables hcreate
    have hgroups := hcreated.groups htables hformed.1
    have hfresh : ∀ k, w.db.groups.home k ≠ some w.db.nextId := by
      intro k hk
      obtain ⟨ownerId, howner⟩ := hsound.housed _ k hk
      obtain ⟨c, hc, hid, -⟩ := mem_clans_of_owner howner
      have hlt := (htables.ids c hc).2
      omega
    have hnone : ∀ c, w.db.groups.owner c ≠ some playerId := by
      intro clanId h
      obtain ⟨c, hc, -, howned⟩ := mem_clans_of_owner h
      exact hcreated.unowned c hc howned
    have hid : clan.id = w.db.nextId := hcreated.id
    refine Does.commit _ after _ _ (fun _ => rfl) hcreated.tables ?_ ⟨?_, fun id hid => ?_, ?_⟩
      ?_ ?_
    · rw [hgroups]
      exact hsound.found hformed.2 hnone hfresh
    · rw [hcreated.next]
      omega
    · exact isSome_of_eq_map (hcreated.users id) hid
    · rw [hgroups]
      exact Groups.Onward.found hfresh rfl
    · refine List.forall_mem_singleton.mpr ⟨rfl, fun hzero => ?_⟩
      have hpos := htables.next
      have hclan := Option.some.inj hzero
      omega
    · intro id hid
      rw [hcreated.users, if_neg]
      rintro rfl
      exact hid (List.mem_singleton_self _)

theorem does_disband (htables : Tables w.db) (hsound : w.db.groups.Sound) {clan : Clan}
    {members : List User} {others : List (List Line)}
    (hformed : (Line.disband clan members).Formed w.db)
    (hholds : (Line.disband clan members).Holds w others) :
    Does w (.disband clan members) (v.perform (.disband clan members) w) := by
  refine Does.commit _ _ _ _ (fun _ => rfl) (htables.disband _ _) ?_ ⟨?_, fun id hid => ?_, ?_⟩
    ?_ ?_
  · rw [groups_disband]
    refine hsound.disband hformed.2 fun k hk clanId howner => ?_
    obtain ⟨member, hmember, rfl⟩ := List.mem_map.mp hk
    obtain ⟨c, hc, rfl, howned⟩ := mem_clans_of_owner howner
    exact hholds member hmember c hc howned
  · exact Int.le_of_eq nextId_disband.symm
  · exact isSome_of_eq_map fetchUser_disband hid
  · rw [groups_disband]
    exact Groups.Onward.remove
  · intro session hsession
    obtain ⟨member, -, rfl⟩ := List.mem_map.mp hsession
    exact ⟨rfl, by simp⟩
  · intro id hid
    rw [fetchUser_disband, if_neg]
    intro hmem
    obtain ⟨member, hmember, rfl⟩ := List.mem_map.mp hmem
    exact hid (List.mem_map.mpr ⟨_, List.mem_map_of_mem hmember, rfl⟩)

theorem does_leave (htables : Tables w.db) (hsound : w.db.groups.Sound) {playerId : Int}
    {clan : Clan} {remaining : List User} {others : List (List Line)}
    (hformed : (Line.leave playerId clan remaining).Formed w.db)
    (hholds : (Line.leave playerId clan remaining).Holds w others) :
    Does w (.leave playerId clan remaining) (v.perform (.leave playerId clan remaining) w) := by
  have howner : ∀ k ∈ [playerId], ∀ clanId, w.db.groups.owner clanId = some k →
      clanId = clan.id ∧ remaining = [] := by
    intro k hk clanId h
    obtain ⟨c, hc, rfl, howned⟩ := mem_clans_of_owner h
    exact hholds c hc (howned.trans (List.mem_singleton.mp hk))
  refine Does.commit _ _ _ _ (fun _ => rfl) (htables.leave _ _ _) ?_ ⟨?_, fun id hid => ?_, ?_⟩
    ?_ ?_
  · rw [groups_leave]
    cases remaining with
    | nil =>
      refine hsound.disband (fun k hk => ?_) fun k hk clanId h => (howner k hk clanId h).1
      rcases hformed.2 k hk with rfl | hnil
      · exact List.mem_singleton_self _
      · cases hnil
    | cons fellow rest =>
      exact hsound.remove fun k hk clanId h => nomatch (howner k hk clanId h).2
  · exact Int.le_of_eq nextId_leave.symm
  · exact isSome_of_eq_map fetchUser_leave hid
  · rw [groups_leave]
    split
    · exact Groups.Onward.remove
    · exact Groups.Onward.remove
  · exact List.forall_mem_singleton.mpr ⟨rfl, by simp⟩
  · intro id hid
    rw [fetchUser_leave]
    exact if_neg hid

theorem does_transfer (htables : Tables w.db) (hsound : w.db.groups.Sound) {ownerId : Int}
    {clan : Clan} {target : User} {others : List (List Line)}
    (hformed : (Line.transfer ownerId clan target).Formed w.db)
    (hholds : (Line.transfer ownerId clan target).Holds w others) :
    Does w (.transfer ownerId clan target) (v.perform (.transfer ownerId clan target) w) := by
  simp only [ClansService.perform]
  cases htransfer : w.db.transfer clan.id target.id ownerId with
  | none => exact Does.answer (fun _ => rfl) _
  | some after =>
    obtain ⟨⟨u, hu, hid, hclan⟩, ⟨c, hc, hcid, howner⟩, hsingle⟩ := hholds
    have htransferred := transferred_of_transfer htables htransfer hformed
    have hfetch := (fetchUser_eq_some htables).mpr ⟨hu, hid⟩
    have hfetch' := (fetchClan_eq_some htables).mpr ⟨hc, hcid⟩
    have hgroups := htransferred.groups hformed (by rw [hfetch]; rfl) (by rw [hfetch']; rfl)
    have hpos := (htables.ids c hc).1
    have hhome : w.db.groups.home target.id = some clan.id :=
      home_eq_some.mpr ⟨u, hfetch, hclan, by omega⟩
    refine Does.commit _ after _ _ (fun _ => rfl) htransferred.tables ?_ ⟨?_, fun k hk => ?_, ?_⟩
      ?_ ?_
    · rw [hgroups]
      refine hsound.handOver hhome (owner_eq_some.mpr ⟨c, hfetch', rfl⟩) howner ?_ hformed
      intro clanId h
      obtain ⟨c', hc', rfl, howned⟩ := mem_clans_of_owner h
      exact hsingle c' hc' howned
    · exact Int.le_of_eq htransferred.next.symm
    · rw [htransferred.users]
      split
      · rwa [Option.isSome_map]
      · split
        · rwa [Option.isSome_map]
        · exact hk
    · rw [hgroups]
      exact Groups.Onward.of_home fun _ _ h => h
    · have hne : (some clan.id : Option Int) ≠ some 0 := fun hzero => by
        have hclan := Option.some.inj hzero
        omega
      exact List.forall_mem_cons.mpr ⟨⟨rfl, hne⟩, List.forall_mem_singleton.mpr ⟨rfl, hne⟩⟩
    · intro k hk
      simp only [List.map_cons, List.map_nil, List.mem_cons, List.not_mem_nil, or_false,
        not_or] at hk
      rw [htransferred.users, if_neg (Ne.symm hk.2), if_neg (Ne.symm hk.1)]

theorem mem_fetchMembers {db : Db} {clanId k : Int} (h : db.groups.home k = some clanId) :
    ∃ member ∈ db.fetchMembers clanId, member.id = k := by
  obtain ⟨u, hfetch, hclan, -⟩ := home_eq_some.mp h
  exact ⟨u, List.mem_filter.mpr ⟨mem_of_fetchBy hfetch, decide_eq_true hclan⟩, key_of_fetchBy hfetch⟩

theorem does_perform (htables : Tables w.db) (hsound : w.db.groups.Sound)
    {others : List (List Line)} (hformed : line.Formed w.db) (hholds : line.Holds w others) :
    Does w line (v.perform line w) := by
  cases line with
  | createClan playerId tag name now =>
    simp only [ClansService.perform]
    split
    · exact Does.answer (fun _ => rfl) _
    split
    · exact Does.answer (fun _ => rfl) _
    cases hfetch : w.db.fetchUser playerId with
    | none => exact Does.answer (fun _ => rfl) _
    | some player =>
      have hsome : (w.db.fetchUser playerId).isSome := by
        rw [hfetch]
        rfl
      dsimp only
      split
      case isTrue hne =>
        exact Does.next (fun _ => rfl) ⟨hsome, Or.inl (home_eq_some.mpr ⟨player, hfetch, rfl, hne⟩)⟩
      case isFalse hzero =>
        refine Does.next (fun _ => rfl) ⟨hsome, fun clanId k hhome => ?_⟩
        obtain ⟨u, hu, rfl, hne⟩ := home_eq_some.mp hhome
        rw [hfetch] at hu
        cases hu
        exact absurd hne hzero
  | currentClan playerId tag name now clanId =>
    simp only [ClansService.perform]
    cases hfetch : w.db.fetchClan clanId with
    | some currentClan => exact Does.answer (fun _ => rfl) _
    | none =>
      refine Does.next (fun _ => rfl) ⟨hformed.1, hformed.2.resolve_left fun hhome => ?_⟩
      obtain ⟨ownerId, howner⟩ := hsound.housed _ _ hhome
      obtain ⟨c, hc, -⟩ := owner_eq_some.mp howner
      rw [hfetch] at hc
      cases hc
  | findName playerId tag name now =>
    simp only [ClansService.perform]
    split
    · exact Does.answer (fun _ => rfl) _
    · exact Does.next (fun _ => rfl) hformed
  | findTag playerId tag name now =>
    simp only [ClansService.perform]
    split
    · exact Does.answer (fun _ => rfl) _
    · exact Does.next (fun _ => rfl) hformed
  | create playerId tag name now => exact does_create htables hsound hformed
  | disbandClan clanId =>
    simp only [ClansService.perform]
    cases hfetch : w.db.fetchClan clanId with
    | none => exact Does.answer (fun _ => rfl) _
    | some clan => exact Does.next (fun _ => rfl) (htables.ids clan (mem_of_fetchBy hfetch)).2
  | disbandMembers clan =>
    refine Does.next (fun _ => rfl) ⟨hformed, fun k hk => ?_⟩
    exact List.mem_map.mpr (mem_fetchMembers hk)
  | disband clan members => exact does_disband htables hsound hformed hholds
  | leaveClan playerId =>
    simp only [ClansService.perform]
    cases hfetch : w.db.fetchUser playerId with
    | none => exact Does.answer (fun _ => rfl) _
    | some player =>
      dsimp only
      split
      · exact Does.answer (fun _ => rfl) _
      split
      · exact Does.answer (fun _ => rfl) _
      · exact Does.next (fun _ => rfl) trivial
  | leftClan playerId clanId =>
    simp only [ClansService.perform]
    cases hfetch : w.db.fetchClan clanId with
    | none => exact Does.answer (fun _ => rfl) _
    | some clan => exact Does.next (fun _ => rfl) (htables.ids clan (mem_of_fetchBy hfetch)).2
  | leftMembers playerId clan =>
    refine Does.next (fun _ => rfl) ⟨hformed, fun k hk => ?_⟩
    obtain ⟨member, hmember, rfl⟩ := mem_fetchMembers hk
    by_cases hself : member.id = playerId
    · exact Or.inl hself
    · refine Or.inr (List.mem_map_of_mem ?_)
      exact List.mem_filter.mpr ⟨hmember, decide_eq_true hself⟩
  | leave playerId clan remaining => exact does_leave htables hsound hformed hholds
  | transferClanOwnership ownerId targetName =>
    simp only [ClansService.perform]
    cases hfetch : w.db.fetchUser ownerId with
    | none => exact Does.answer (fun _ => rfl) _
    | some owner =>
      dsimp only
      split
      · exact Does.answer (fun _ => rfl) _
      · exact Does.next (fun _ => rfl) trivial
  | ownedClan owner targetName =>
    simp only [ClansService.perform]
    cases w.db.fetchClan owner.clanId with
    | none => exact Does.answer (fun _ => rfl) _
    | some clan => exact Does.next (fun _ => rfl) trivial
  | findTarget owner clan targetName =>
    simp only [ClansService.perform]
    cases w.db.fetchUserByName (v.makeSafeName targetName) with
    | none => exact Does.answer (fun _ => rfl) _
    | some target =>
      dsimp only
      split
      · exact Does.answer (fun _ => rfl) _
      split
      · exact Does.answer (fun _ => rfl) _
      case isFalse hne => exact Does.next (fun _ => rfl) hne
  | transfer ownerId clan target => exact does_transfer htables hsound hformed hholds
  | sync sessions result => exact Does.sync sessions result _

end Lines

section Syncing

variable {online : Int → Sessions} {id : Int} {s : ClanState}

theorem sync_others {session : Int × ClanState} :
    (syncOnlineClanState online session id).others = (online id).others := by
  unfold syncOnlineClanState
  cases (online session.1).found with
  | none => rfl
  | some old =>
    dsimp only
    by_cases hid : id = session.1
    · rw [hid, Function.update_self]
    · rw [Function.update_of_ne hid]

theorem foldl_sync_others {sessions : List (Int × ClanState)} :
    (sessions.foldl syncOnlineClanState online id).others = (online id).others := by
  induction sessions generalizing online with
  | nil => rfl
  | cons session rest ih => rw [List.foldl_cons, ih, sync_others]

theorem isSome_sync {session : Int × ClanState} :
    (syncOnlineClanState online session id).found.isSome = (online id).found.isSome := by
  unfold syncOnlineClanState
  cases honline : (online session.1).found with
  | none => rfl
  | some old =>
    dsimp only
    by_cases hid : id = session.1
    · rw [hid, Function.update_self, honline]
      rfl
    · rw [Function.update_of_ne hid]

-- What is found has after a sync what was written for it, or what it had.
theorem foldl_sync {sessions : List (Int × ClanState)}
    (h : (sessions.foldl syncOnlineClanState online id).found = some s) :
    ((id, s) ∈ sessions ∧ (online id).found.isSome) ∨
      ((online id).found = some s ∧ id ∉ sessions.map Prod.fst) := by
  induction sessions generalizing online with
  | nil => exact Or.inr ⟨h, List.not_mem_nil⟩
  | cons session rest ih =>
    rcases ih h with ⟨hmem, hsome⟩ | ⟨hfirst, hnot⟩
    · rw [isSome_sync] at hsome
      exact Or.inl ⟨List.mem_cons_of_mem _ hmem, hsome⟩
    · have hsome : (online id).found.isSome := by
        rw [← @isSome_sync online id session, hfirst]
        rfl
      by_cases hid : id = session.1
      · subst hid
        obtain ⟨old, hold⟩ := Option.isSome_iff_exists.mp hsome
        unfold syncOnlineClanState at hfirst
        rw [hold] at hfirst
        dsimp only at hfirst
        rw [Function.update_self] at hfirst
        cases hfirst
        exact Or.inl ⟨List.mem_cons_self, hsome⟩
      · have hsame : syncOnlineClanState online session id = online id := by
          unfold syncOnlineClanState
          cases (online session.1).found with
          | none => rfl
          | some old => exact Function.update_of_ne hid _ _
        rw [hsame] at hfirst
        refine Or.inr ⟨hfirst, fun hmem => ?_⟩
        rcases List.mem_cons.mp hmem with heq | hrest
        · exact hid heq
        · exact hnot hrest

-- A row that no other transaction has changed is what the session is told.
theorem Unchanged.agrees {u : User} (h : Unchanged u s) (hformed : s.Formed) : Agrees u s := by
  obtain ⟨hclan, hpriv⟩ := h
  obtain ⟨hsome, hne⟩ := hformed
  obtain ⟨clanId, clanPriv⟩ := s
  cases clanId with
  | none =>
    cases clanPriv with
    | none => exact ⟨(if_pos hclan).symm, (if_pos hclan).symm⟩
    | some priv => cases hsome
  | some clanId =>
    cases clanPriv with
    | none => cases hsome
    | some priv =>
      have hzero : u.clanId ≠ 0 := fun hzero => hne (congrArg some (hclan.symm.trans hzero))
      exact ⟨(congrArg some hclan.symm).trans (if_neg hzero).symm,
        (congrArg some hpriv.symm).trans (if_neg hzero).symm⟩

theorem syncs_iff {sessions : List (Int × ClanState)} {result : Result} :
    (Line.sync sessions result).syncs id ↔ id ∈ sessions.map Prod.fst := by
  simp only [Line.syncs, List.any_eq_true, decide_eq_true_eq, List.mem_map]

end Syncing

-- What every run keeps: a session that the database is ahead of is to be synced.
structure Kept (t : Calls) : Prop where
  tables : Tables t.world.db
  sound : t.world.db.groups.Sound
  formed : ∀ task ∈ t.running, ∀ line ∈ task, line.Formed t.world.db
  synced : ∀ id, ∀ s ∈ (t.world.online id).all, ∀ u, t.world.db.fetchUser id = some u →
    Agrees u s ∨ Tasks.Owed (Line.syncs id) t.running

namespace Kept

variable {v : ClansService} {t : Calls}

theorem start {w : World} (htables : Tables w.db) (howned : Owned w.db) (hsynced : Synced w) :
    Kept { world := w, running := [] } where
  tables := htables
  sound := sound_of_owned htables howned
  formed := fun _ htask => absurd htask List.not_mem_nil
  synced := by
    intro id s hs u hu
    obtain ⟨hmem, hid⟩ := (fetchUser_eq_some htables).mp hu
    exact Or.inl (hsynced id s hs u hmem hid)

theorem begin (h : Kept t) (op : Op) : Kept { t with running := t.running ++ [op.lines] } := by
  refine { h with formed := ?_, synced := ?_ }
  · intro task htask line hline
    rcases List.mem_append.mp htask with hold | hnew
    · exact h.formed task hold line hline
    · rw [List.mem_singleton.mp hnew] at hline
      cases op <;> (rw [List.mem_singleton.mp hline]; trivial)
  · intro id s hs u hu
    rcases h.synced id s hs u hu with hagrees | howed
    · exact Or.inl hagrees
    · exact Or.inr (howed.append op.lines)

theorem resume (h : Kept t) {i : Nat} {line : Line} {rest : List Line}
    (hnext : Tasks.next t.running i = some (line, rest))
    (hholds : line.Holds t.world (t.running.set i rest)) :
    Kept
      { world := (v.perform line t.world).1
        running := t.running.set i ((v.perform line t.world).2 ++ rest) } := by
  have hformed := h.formed _ (Tasks.mem_of_next hnext) line List.mem_cons_self
  have hdoes : Does t.world line (v.perform line t.world) :=
    does_perform h.tables h.sound hformed hholds
  -- what was owed stays owed, but for what the line itself syncs
  have howed {id : Int} (lines : List Line) (hsilent : line.syncs id = false)
      (howed : Tasks.Owed (Line.syncs id) t.running) :
      Tasks.Owed (Line.syncs id) (t.running.set i (lines ++ rest)) := by
    rcases howed.of_next hnext with hself | hothers
    · rw [hsilent] at hself
      cases hself
    · exact hothers.extend lines
  have hothers {task : List Line} {other : Line} {lines : List Line}
      (htask : task ∈ t.running.set i (lines ++ rest)) (hother : other ∈ task) :
      other ∈ lines ∨ other.Formed t.world.db := by
    rcases Tasks.mem_lines_set hnext htask hother with hnew | ⟨task', htask', hother'⟩
    · exact Or.inl hnew
    · obtain ⟨task'', htask'', hother''⟩ := Tasks.mem_lines_of_rest hnext htask' hother'
      exact Or.inr (h.formed task'' htask'' other hother'')
  generalize v.perform line t.world = p at hdoes
  cases hdoes with
  | goOn _ results lines hsilent hnew =>
    refine ⟨h.tables, h.sound, fun task htask other hother => ?_, fun id s hs u hu => ?_⟩
    · rcases hothers htask hother with hline | hold
      · exact hnew other hline
      · exact hold
    · rcases h.synced id s hs u hu with hagrees | hold
      · exact Or.inl hagrees
      · exact Or.inr (howed lines (hsilent id) hold)
  | commit _ db' sessions result hsilent htables hsound hadvance hsessions husers =>
    refine ⟨htables, hsound, fun task htask other hother => ?_, fun id s hs u hu => ?_⟩
    · rcases hothers htask hother with hline | hold
      · rw [List.mem_singleton.mp hline]
        exact hsessions
      · exact hold.advance hadvance
    · by_cases hid : id ∈ sessions.map Prod.fst
      · have hline : Line.sync sessions result ∈ [Line.sync sessions result] ++ rest :=
          List.mem_append_left rest (List.mem_singleton_self _)
        exact Or.inr (Tasks.Owed.of_lines hnext hline (syncs_iff.mpr hid))
      · dsimp only at hu
        rw [husers id hid] at hu
        rcases h.synced id s hs u hu with hagrees | hold
        · exact Or.inl hagrees
        · exact Or.inr (howed _ (hsilent id) hold)
  | sync sessions result results =>
    refine ⟨h.tables, h.sound, fun task htask other hother => ?_, fun id s hs u hu => ?_⟩
    · rcases hothers htask hother with hline | hold
      · cases hline
      · exact hold
    · have hkept (hold : s ∈ (t.world.online id).all) (hnot : id ∉ sessions.map Prod.fst) :
          Agrees u s ∨ Tasks.Owed (Line.syncs id) (t.running.set i ([] ++ rest)) := by
        rcases h.synced id s hold u hu with hagrees | hold'
        · exact Or.inl hagrees
        · have hsilent : (Line.sync sessions result).syncs id = false := by
            rw [Bool.eq_false_iff]
            exact fun hsyncs => hnot (syncs_iff.mp hsyncs)
          exact Or.inr (howed [] hsilent hold')
      rcases List.mem_append.mp hs with hfound | hbeside
      · rcases foldl_sync (Option.mem_toList.mp hfound) with ⟨hmem, hsome⟩ | ⟨hold, hnot⟩
        · obtain ⟨husers, hid⟩ := (fetchUser_eq_some h.tables).mp hu
          rcases (hholds (id, s) hmem).2 hsome u husers hid with hsame | hothers'
          · exact Or.inl (hsame.agrees (hformed (id, s) hmem))
          · exact Or.inr (hothers'.extend [])
        · exact hkept (List.mem_append_left _ (Option.mem_toList.mpr hold)) hnot
      · rw [foldl_sync_others] at hbeside
        by_cases hmem : id ∈ sessions.map Prod.fst
        · obtain ⟨session, hsession, rfl⟩ := List.mem_map.mp hmem
          rw [(hholds session hsession).1] at hbeside
          cases hbeside
        · exact hkept (List.mem_append_right _ hbeside) hmem

end Kept

-- In every run in which the condition is met, once all calls have finished, the clans are owned
-- and the sessions have what the database has.
theorem owned_run {v : ClansService} {w : World} (htables : Tables w.db) (howned : Owned w.db)
    (hsynced : Synced w) {run : List Event}
    (hholds : Guarded (Calls.step v) (Tasks.Meets Line.Holds) { world := w, running := [] } run)
    (hidle : Tasks.Idle (runFrom (Calls.step v) { world := w, running := [] } run).running) :
    Owned (runFrom (Calls.step v) { world := w, running := [] } run).world.db ∧
      Synced (runFrom (Calls.step v) { world := w, running := [] } run).world := by
  have hkept : Kept (runFrom (Calls.step v) { world := w, running := [] } run) :=
    hholds.invariant Kept (fun t e h hmeets =>
      Tasks.step_keeps h h.begin (fun _ _ _ hnext => h.resume hnext) e hmeets)
      (Kept.start htables howned hsynced)
  refine ⟨owned_of_sound hkept.tables hkept.sound, fun id s hs u hu hid => ?_⟩
  have hfetch := (fetchUser_eq_some hkept.tables).mpr ⟨hu, hid⟩
  rcases hkept.synced id s hs u hfetch with hagrees | howed
  · exact hagrees
  · exact absurd howed hidle.not_owed

def plain : ClansService where
  upper := fun text => text
  lower := fun text => text
  collate := fun text => text

def userOf (id : Int) (name : String) (clanId clanPriv : Int) : User where
  id := id
  name := name
  safeName := name
  priv := Privileges.UNRESTRICTED ||| Privileges.VERIFIED
  clanId := clanId
  clanPriv := clanPriv

-- A clan of three, two of them online, and a user without one.
def foundedDb : Db where
  users := [userOf 3 "owner" 1 3, userOf 4 "officer" 1 2, userOf 5 "member" 1 1,
    userOf 6 "loner" 0 0]
  clans := [{ id := 1, name := "name", tag := "TAG", owner := 3, createdAt := 0 }]
  nextId := 2

def founded : World where
  db := foundedDb
  online := fun id =>
    if id = 3 then { found := some { clanId := some 1, clanPriv := some .Owner } }
    else if id = 6 then { found := some {} }
    else {}

theorem tables_founded : Tables founded.db := ⟨by decide, by decide, by decide, by decide⟩

theorem ownedAt_founded : Owned founded.db := ⟨by decide, by decide, by decide⟩

theorem synced_founded : Synced founded := by
  intro id s hs u hu hid
  subst hid
  simp only [founded, Sessions.all] at hs
  split at hs
  case isTrue h =>
    obtain rfl := List.mem_singleton.mp hs
    have hall : ∀ u ∈ foundedDb.users, u.id = 3 →
        Agrees u { clanId := some 1, clanPriv := some .Owner } := by decide
    exact hall u hu h
  case isFalse =>
    split at hs
    case isTrue h =>
      obtain rfl := List.mem_singleton.mp hs
      have hall : ∀ u ∈ foundedDb.users, u.id = 6 → Agrees u {} := by decide
      exact hall u hu h
    case isFalse => cases hs

def resumes (i n : Nat) : List Event := List.replicate n (.resume i)

-- A transfer beside the founding of a clan, a leave after it, and the end of the first clan.
def sideBySide : List Event :=
  .begin (.transferClanOwnership 3 "officer") :: .begin (.createClan 6 "NEW" "newer" 1) ::
    (resumes 0 2 ++ resumes 1 3 ++ resumes 0 3 ++ resumes 1 2 ++
      .begin (.leaveClan 3) :: (resumes 2 5 ++ .begin (.disbandClan 1) :: resumes 3 4))

theorem owned_run_sideBySide :
    Owned (runFrom (Calls.step plain) { world := founded, running := [] } sideBySide).world.db ∧
      Synced (runFrom (Calls.step plain) { world := founded, running := [] } sideBySide).world :=
  owned_run tables_founded ownedAt_founded synced_founded (by decide) (by decide)

-- The clan is transferred to a member who leaves it meanwhile.
def transferToLeaver : List Event :=
  [.begin (.transferClanOwnership 3 "officer")] ++ resumes 0 3 ++
    [.begin (.leaveClan 4)] ++ resumes 1 5 ++ resumes 0 2

-- The owner of the clan is not in it any more.
theorem not_owned_transferToLeaver :
    ¬∀ (v : ClansService) (w : World) (run : List Event), Tables w.db → Owned w.db → Synced w →
      Tasks.Idle (runFrom (Calls.step v) { world := w, running := [] } run).running →
        Owned (runFrom (Calls.step v) { world := w, running := [] } run).world.db ∧
          Synced (runFrom (Calls.step v) { world := w, running := [] } run).world := by
  intro h
  obtain ⟨howned, -⟩ := h plain founded transferToLeaver tables_founded ownedAt_founded
    synced_founded (by decide)
  have hnone : ¬∀ c ∈ (runFrom (Calls.step plain) { world := founded, running := [] }
      transferToLeaver).world.db.clans, ∃ u ∈ (runFrom (Calls.step plain)
        { world := founded, running := [] } transferToLeaver).world.db.users,
          u.id = c.owner ∧ u.clanId = c.id := by decide
  apply hnone
  intro c hc
  obtain ⟨u, hu, hid, honly⟩ := howned.owner c hc
  exact ⟨u, hu, hid, ((honly u hu).mpr rfl).1⟩

def officer : ClanState := { clanId := some 1, clanPriv := some .Officer }

-- A member leaves who has a second session: that one stays in the clan.
example :
    let online := Function.update founded.online 4 { found := some officer, others := [officer] }
    let t := runFrom (Calls.step plain)
      { world := { founded with online := online }, running := [] }
      ([.begin (.leaveClan 4)] ++ resumes 0 5)
    (t.world.online 4).all = [{}, officer] ∧
      (t.world.db.fetchUser 4).map User.clanId = some 0 := by
  decide

end BanchoPrism.Clans
