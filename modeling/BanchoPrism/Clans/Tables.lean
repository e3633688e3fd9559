import BanchoPrism.Clans.Service
import BanchoPrism.Library.Groups

namespace BanchoPrism.Clans

open Library

-- What the schema keeps: the unique columns, and ids that count up.
structure Tables (db : Db) : Prop where
  users : (db.users.map User.id).Nodup
  clans : Unique Clan.id Clan.owner db.clans
  ids : ∀ c ∈ db.clans, 0 < c.id ∧ c.id < db.nextId
  next : 0 < db.nextId

-- Every clan has one member with the privilege of an owner, and that is its owner; whoever is in
-- a clan is in one that exists; and nobody owns two.
structure Owned (db : Db) : Prop where
  owner : ∀ c ∈ db.clans, ∃ u ∈ db.users, u.id = c.owner ∧ ∀ u' ∈ db.users,
    (u'.clanId = c.id ∧ u'.clanPriv = ClanPrivileges.Owner.value) ↔ u' = u
  housed : ∀ u ∈ db.users, u.clanId ≠ 0 → ∃ c ∈ db.clans, c.id = u.clanId
  single : ∀ c ∈ db.clans, ∀ c' ∈ db.clans, c.owner = c'.owner → c = c'

-- The users and the clans as groups with leaders.
def Db.groups (db : Db) : Groups Int Int where
  home := fun id => ((db.fetchUser id).map User.clanId).filter (· ≠ 0)
  leads := fun id => (db.fetchUser id).map User.clanPriv = some ClanPrivileges.Owner.value
  owner := fun clanId => (db.fetchClan clanId).map Clan.owner

section Reading

variable {db : Db} {id clanId : Int} {u : User} {c : Clan}

theorem fetchUser_eq_some (h : Tables db) : db.fetchUser id = some u ↔ u ∈ db.users ∧ u.id = id := by
  constructor
  · intro hfetch
    exact ⟨mem_of_fetchBy hfetch, key_of_fetchBy hfetch⟩
  · rintro ⟨hu, rfl⟩
    exact fetchBy_of_mem h.users hu

theorem fetchClan_eq_some (h : Tables db) :
    db.fetchClan clanId = some c ↔ c ∈ db.clans ∧ c.id = clanId := by
  constructor
  · intro hfetch
    exact ⟨mem_of_fetchBy hfetch, key_of_fetchBy hfetch⟩
  · rintro ⟨hc, rfl⟩
    exact fetchBy_of_mem h.clans.first hc

theorem home_eq_some :
    db.groups.home id = some clanId ↔
      ∃ u, db.fetchUser id = some u ∧ u.clanId = clanId ∧ clanId ≠ 0 := by
  simp only [Db.groups, Option.filter_eq_some_iff, Option.map_eq_some_iff, decide_eq_true_eq]
  constructor
  · rintro ⟨⟨u, hu, hclan⟩, hne⟩
    exact ⟨u, hu, hclan, hne⟩
  · rintro ⟨u, hu, hclan, hne⟩
    exact ⟨⟨u, hu, hclan⟩, hne⟩

theorem leads_iff :
    db.groups.leads id ↔
      ∃ u, db.fetchUser id = some u ∧ u.clanPriv = ClanPrivileges.Owner.value :=
  Option.map_eq_some_iff

theorem owner_eq_some {ownerId : Int} :
    db.groups.owner clanId = some ownerId ↔
      ∃ c, db.fetchClan clanId = some c ∧ c.owner = ownerId := Option.map_eq_some_iff

theorem sound_of_owned (h : Tables db) (howned : Owned db) : db.groups.Sound := by
  constructor
  · intro clanId id
    rw [owner_eq_some, home_eq_some, leads_iff]
    constructor
    · rintro ⟨c, hfetch, rfl⟩
      obtain ⟨hc, rfl⟩ := (fetchClan_eq_some h).mp hfetch
      obtain ⟨u, hu, hid, honly⟩ := howned.owner c hc
      obtain ⟨hclan, hpriv⟩ := (honly u hu).mpr rfl
      have hfetch' := (fetchUser_eq_some h).mpr ⟨hu, hid⟩
      have hne : c.id ≠ 0 := by
        have hpos := (h.ids c hc).1
        omega
      exact ⟨⟨u, hfetch', hclan, hne⟩, u, hfetch', hpriv⟩
    · rintro ⟨⟨u, hfetch, rfl, hne⟩, u', hfetch', hpriv⟩
      rw [hfetch] at hfetch'
      cases hfetch'
      obtain ⟨hu, rfl⟩ := (fetchUser_eq_some h).mp hfetch
      obtain ⟨c, hc, hid⟩ := howned.housed u hu hne
      obtain ⟨owner, -, howner, honly⟩ := howned.owner c hc
      refine ⟨c, (fetchClan_eq_some h).mpr ⟨hc, hid⟩, ?_⟩
      rw [(honly u hu).mp ⟨hid.symm, hpriv⟩, howner]
  · intro clanId id hhome
    obtain ⟨u, hfetch, rfl, hne⟩ := home_eq_some.mp hhome
    obtain ⟨hu, -⟩ := (fetchUser_eq_some h).mp hfetch
    obtain ⟨c, hc, hid⟩ := howned.housed u hu hne
    exact ⟨c.owner, owner_eq_some.mpr ⟨c, (fetchClan_eq_some h).mpr ⟨hc, hid⟩, rfl⟩⟩

theorem owned_of_sound (h : Tables db) (hsound : db.groups.Sound) : Owned db := by
  refine ⟨fun c hc => ?_, fun u hu hne => ?_, fun c hc c' hc' => h.clans.eq_of_second hc hc'⟩
  · have howner : db.groups.owner c.id = some c.owner :=
      owner_eq_some.mpr ⟨c, (fetchClan_eq_some h).mpr ⟨hc, rfl⟩, rfl⟩
    obtain ⟨hhome, hleads⟩ := (hsound.owner c.id c.owner).mp howner
    obtain ⟨u, hfetch, hclan, hne⟩ := home_eq_some.mp hhome
    obtain ⟨u', hfetch', hpriv⟩ := leads_iff.mp hleads
    rw [hfetch] at hfetch'
    cases hfetch'
    obtain ⟨hu, hid⟩ := (fetchUser_eq_some h).mp hfetch
    refine ⟨u, hu, hid, fun u' hu' => ⟨fun ⟨hclan', hpriv'⟩ => ?_, ?_⟩⟩
    · have hfetch' := (fetchUser_eq_some h).mpr ⟨hu', rfl⟩
      have howner' := (hsound.owner c.id u'.id).mpr
        ⟨home_eq_some.mpr ⟨u', hfetch', hclan', hne⟩, leads_iff.mpr ⟨u', hfetch', hpriv'⟩⟩
      rw [howner] at howner'
      have hsame : u'.id = u.id := (Option.some.inj howner').symm.trans hid.symm
      exact List.inj_on_of_nodup_map h.users hu' hu hsame
    · rintro rfl
      exact ⟨hclan, hpriv⟩
  · have hfetch := (fetchUser_eq_some h).mpr ⟨hu, rfl⟩
    obtain ⟨ownerId, howner⟩ :=
      hsound.housed u.clanId u.id (home_eq_some.mpr ⟨u, hfetch, rfl, hne⟩)
    obtain ⟨c, hfetch', -⟩ := owner_eq_some.mp howner
    exact ⟨c, (fetchClan_eq_some h).mp hfetch'⟩

end Reading

section Statements

variable {db : Db} {id k : Int} {change : User → User}

theorem fetchUser_updateUser (hid : ∀ u, (change u).id = u.id) :
    (db.updateUser id change).fetchUser k =
      if id = k then (db.fetchUser k).map change else db.fetchUser k := fetchBy_update hid id

theorem Tables.updateUser (h : Tables db) (hid : ∀ u, (change u).id = u.id) :
    Tables (db.updateUser id change) := by
  refine { h with users := nodup_map_of_same h.users fun u => ?_ }
  split
  · exact hid u
  · rfl

theorem Tables.setClanPriv (h : Tables db) (id clanPriv : Int) : Tables (db.setClanPriv id clanPriv) :=
  h.updateUser fun _ => rfl

theorem Tables.deleteClan (h : Tables db) (id : Int) : Tables (db.deleteClan id) :=
  { h with
    clans := h.clans.filter _
    ids := fun c hc => h.ids c (List.mem_filter.mp hc).1 }

-- The users of a list leave their clans, one after another.
theorem fetchUser_clear {ids : List Int} :
    (ids.foldl (fun db id => db.setClan id 0 0) db).fetchUser k =
      if k ∈ ids then (db.fetchUser k).map fun u => { u with clanId := 0, clanPriv := 0 }
      else db.fetchUser k := by
  induction ids generalizing db with
  | nil => rfl
  | cons id rest ih =>
    have hfirst : (db.setClan id 0 0).fetchUser k = _ := fetchUser_updateUser fun _ => rfl
    rw [List.foldl_cons, ih, hfirst]
    by_cases hk : id = k
    · rw [if_pos hk, if_pos (List.mem_cons.mpr (Or.inl hk.symm)), Option.map_map]
      split <;> rfl
    · have hmem : k ∈ id :: rest ↔ k ∈ rest := by simp [Ne.symm hk]
      rw [if_neg hk]
      simp only [hmem]

theorem clans_clear {ids : List Int} :
    (ids.foldl (fun db id => db.setClan id 0 0) db).clans = db.clans ∧
      (ids.foldl (fun db id => db.setClan id 0 0) db).nextId = db.nextId := by
  induction ids generalizing db with
  | nil => exact ⟨rfl, rfl⟩
  | cons id rest ih => exact ih

theorem Tables.clear (h : Tables db) (ids : List Int) :
    Tables (ids.foldl (fun db id => db.setClan id 0 0) db) := by
  induction ids generalizing db with
  | nil => exact h
  | cons id rest ih => exact ih (h.updateUser fun _ => rfl)

end Statements

section Transactions

variable {db after : Db} {id clanId targetId : Int} {members remaining : List User}

theorem groups_clear {ids : List Int} :
    (ids.foldl (fun db id => db.setClan id 0 0) db).groups = db.groups.remove ids := by
  ext k
  · simp only [Db.groups, Groups.remove, fetchUser_clear]
    split
    · cases db.fetchUser k <;> rfl
    · rfl
  · simp only [Db.groups, Groups.remove, fetchUser_clear]
    split
    case isTrue hk =>
      simp only [hk, not_true_eq_false, false_and, iff_false]
      cases db.fetchUser k <;> simp [ClanPrivileges.value]
    case isFalse hk => simp [hk]
  · simp only [Db.groups, Groups.remove, Db.fetchClan, clans_clear.1]

theorem groups_deleteClan : (db.deleteClan clanId).groups = db.groups.dissolve clanId := by
  ext k
  · rfl
  · rfl
  · simp only [Db.groups, Groups.dissolve, Db.fetchClan, Db.deleteClan, fetchBy_deleteBy,
      Function.update_apply]
    by_cases hk : clanId = k
    · simp [hk]
    · simp [hk, Ne.symm hk]

theorem disband_eq :
    db.disband clanId members =
      (members.map User.id).foldl (fun db id => db.setClan id 0 0) (db.deleteClan clanId) := by
  rw [Db.disband, List.foldl_map]

theorem fetchUser_disband {k : Int} :
    (db.disband clanId members).fetchUser k =
      if k ∈ members.map User.id then
        (db.fetchUser k).map fun u => { u with clanId := 0, clanPriv := 0 }
      else db.fetchUser k := by
  rw [disband_eq]
  exact fetchUser_clear

theorem fetchUser_leave {k : Int} :
    (db.leave id clanId remaining).fetchUser k =
      if k ∈ [id] then (db.fetchUser k).map fun u => { u with clanId := 0, clanPriv := 0 }
      else db.fetchUser k := by
  have hclear : (db.setClan id 0 0).fetchUser k = _ := @fetchUser_clear db k [id]
  unfold Db.leave
  dsimp only
  split
  · exact hclear
  · exact hclear

theorem nextId_disband : (db.disband clanId members).nextId = db.nextId := by
  rw [disband_eq]
  exact clans_clear.2

theorem nextId_leave : (db.leave id clanId remaining).nextId = db.nextId := by
  unfold Db.leave
  dsimp only
  split <;> rfl

theorem groups_disband :
    (db.disband clanId members).groups =
      (db.groups.remove (members.map User.id)).dissolve clanId := by
  rw [disband_eq, groups_clear, groups_deleteClan]
  rfl

theorem groups_leave :
    (db.leave id clanId remaining).groups =
      if remaining.isEmpty then (db.groups.remove [id]).dissolve clanId
      else db.groups.remove [id] := by
  have hclear : (db.setClan id 0 0).groups = db.groups.remove [id] := @groups_clear db [id]
  unfold Db.leave
  dsimp only
  split
  · rw [groups_deleteClan, hclear]
  · exact hclear

theorem Tables.disband (h : Tables db) (clanId : Int) (members : List User) :
    Tables (db.disband clanId members) := by
  rw [disband_eq]
  exact (h.deleteClan clanId).clear _

theorem Tables.leave (h : Tables db) (id clanId : Int) (remaining : List User) :
    Tables (db.leave id clanId remaining) := by
  have hclear : Tables (db.setClan id 0 0) := h.updateUser fun _ => rfl
  unfold Db.leave
  dsimp only
  split
  · exact hclear.deleteClan clanId
  · exact hclear

section Creating

variable {collate : String → String} {tag name : String} {now : Int} {clan : Clan}

theorem insertClan_eq_some (h : db.insertClan collate name tag id now = some (clan, after)) :
    clan.id = db.nextId ∧ clan.owner = id ∧ (∀ c ∈ db.clans, c.owner ≠ id) ∧
      after = { db with clans := db.clans ++ [clan], nextId := db.nextId + 1 } := by
  unfold Db.insertClan at h
  dsimp only at h
  split at h
  case isTrue => cases h
  case isFalse hnone =>
    cases h
    refine ⟨rfl, rfl, fun c hc howner => hnone ?_, rfl⟩
    exact List.any_eq_true.mpr ⟨c, hc, by simp [howner]⟩

theorem Tables.insert (h : Tables db) (hid : clan.id = db.nextId)
    (hnone : ∀ c ∈ db.clans, c.owner ≠ clan.owner) :
    Tables { db with clans := db.clans ++ [clan], nextId := db.nextId + 1 } where
  users := h.users
  clans := by
    refine ⟨nodup_map_append h.clans.first fun c hc => ?_, nodup_map_append h.clans.second hnone⟩
    have hlt := (h.ids c hc).2
    omega
  ids := by
    intro c hc
    have hnext := h.next
    dsimp only at hc ⊢
    rcases List.mem_append.mp hc with hold | hnew
    · obtain ⟨hpos, hlt⟩ := h.ids c hold
      omega
    · rw [List.mem_singleton.mp hnew]
      omega
  next := by
    have hnext := h.next
    dsimp only
    omega

-- A clan that is created is new and goes to a user who owned none.
structure Created (db after : Db) (playerId : Int) (clan : Clan) : Prop where
  id : clan.id = db.nextId
  owner : clan.owner = playerId
  unowned : ∀ c ∈ db.clans, c.owner ≠ playerId
  tables : Tables after
  next : after.nextId = db.nextId + 1
  users : ∀ k, after.fetchUser k =
    if playerId = k then (db.fetchUser k).map fun u =>
      { u with clanId := db.nextId, clanPriv := ClanPrivileges.Owner.value }
    else db.fetchUser k
  clans : after.clans = db.clans ++ [clan]

theorem created_of_create (h : Tables db)
    (hcreate : db.create collate id tag name now = some (clan, after)) :
    Created db after id clan := by
  unfold Db.create at hcreate
  obtain ⟨⟨clan', inserted⟩, hinsert, hafter⟩ := Option.bind_eq_some_iff.mp hcreate
  obtain ⟨hid, howner, hnone, rfl⟩ := insertClan_eq_some hinsert
  cases hafter
  rw [hid]
  have hinserted := h.insert hid (by rw [howner]; exact hnone)
  exact ⟨hid, howner, hnone, hinserted.updateUser fun _ => rfl, rfl,
    fun k => fetchUser_updateUser fun _ => rfl, rfl⟩

theorem Created.groups (h : Tables db) (hcreated : Created db after id clan)
    (huser : (db.fetchUser id).isSome) : after.groups = db.groups.found id db.nextId := by
  obtain ⟨u, hu⟩ := Option.isSome_iff_exists.mp huser
  have hnext : db.nextId ≠ 0 := by
    have hpos := h.next
    omega
  ext k
  · simp only [Db.groups, Groups.found, hcreated.users, Function.update_apply]
    by_cases hk : id = k
    · subst hk
      simp only [hu, if_true, Option.map_some]
      rw [Option.filter_some, if_pos (decide_eq_true hnext)]
    · rw [if_neg hk, if_neg (Ne.symm hk)]
  · simp only [Db.groups, Groups.found, hcreated.users]
    by_cases hk : id = k
    · subst hk
      simp [hu]
    · simp [hk, Ne.symm hk]
  · have hfetch : after.fetchClan k =
        (db.fetchClan k).or (if clan.id = k then some clan else none) := by
      rw [Db.fetchClan, hcreated.clans]
      exact fetchBy_append_singleton
    simp only [Db.groups, Groups.found, hfetch, hcreated.id, Function.update_apply]
    by_cases hk : db.nextId = k
    · subst hk
      have hnone : db.fetchClan db.nextId = none := by
        apply fetchBy_eq_none.mpr
        intro c hc
        have hlt := (h.ids c hc).2
        omega
      simp [hnone, hcreated.owner]
    · simp [hk, Ne.symm hk]

end Creating

-- A transfer writes the owner and two privileges.
structure Transferred (db after : Db) (clanId targetId ownerId : Int) : Prop where
  tables : Tables after
  next : after.nextId = db.nextId
  users : ∀ k, after.fetchUser k =
    if ownerId = k then (db.fetchUser k).map fun u =>
      { u with clanPriv := ClanPrivileges.Officer.value }
    else if targetId = k then (db.fetchUser k).map fun u =>
      { u with clanPriv := ClanPrivileges.Owner.value }
    else db.fetchUser k
  clans : ∀ k, after.fetchClan k =
    if clanId = k then (db.fetchClan k).map fun c => { c with owner := targetId }
    else db.fetchClan k

theorem transferred_of_transfer {ownerId : Int} (h : Tables db)
    (htransfer : db.transfer clanId targetId ownerId = some after) (hne : targetId ≠ ownerId) :
    Transferred db after clanId targetId ownerId := by
  unfold Db.transfer at htransfer
  obtain ⟨owned, howned, hafter⟩ := Option.bind_eq_some_iff.mp htransfer
  obtain ⟨clans, henforce, rfl⟩ := Option.map_eq_some_iff.mp howned
  have hunique := Unique.of_enforce henforce
  have hclans : clans =
      db.clans.map fun c => if c.id = clanId then { c with owner := targetId } else c := by
    unfold enforce at henforce
    split at henforce
    · exact (Option.some.inj henforce).symm
    · cases henforce
  cases hafter
  have howned : Tables { db with clans := clans } := by
    refine { h with clans := hunique, ids := fun c hc => ?_ }
    dsimp only at hc
    rw [hclans] at hc
    obtain ⟨old, hold, rfl⟩ := List.mem_map.mp hc
    split
    · exact h.ids old hold
    · exact h.ids old hold
  refine ⟨(howned.setClanPriv _ _).setClanPriv _ _, rfl, fun k => ?_, fun k => ?_⟩
  · have hsecond : (Db.setClanPriv (Db.setClanPriv { db with clans := clans } targetId
        ClanPrivileges.Owner.value) ownerId ClanPrivileges.Officer.value).fetchUser k = _ :=
      fetchUser_updateUser fun _ => rfl
    have hfirst : (Db.setClanPriv { db with clans := clans } targetId
        ClanPrivileges.Owner.value).fetchUser k = _ := fetchUser_updateUser fun _ => rfl
    rw [hsecond, hfirst]
    by_cases hk : ownerId = k
    · have hk' : targetId ≠ k := hk ▸ hne
      rw [if_pos hk, if_pos hk, if_neg hk']
      rfl
    · rw [if_neg hk, if_neg hk]
      rfl
  · change fetchBy Clan.id clans k = _
    have hid : ∀ c : Clan, ({ c with owner := targetId } : Clan).id = c.id := fun _ => rfl
    rw [hclans]
    exact fetchBy_update hid clanId

theorem Transferred.groups {ownerId : Int} (h : Transferred db after clanId targetId ownerId)
    (hne : targetId ≠ ownerId) (htarget : (db.fetchUser targetId).isSome)
    (hclan : (db.fetchClan clanId).isSome) :
    after.groups = db.groups.handOver clanId targetId ownerId := by
  obtain ⟨target, htarget⟩ := Option.isSome_iff_exists.mp htarget
  obtain ⟨c, hclan⟩ := Option.isSome_iff_exists.mp hclan
  ext k
  · simp only [Db.groups, Groups.handOver, h.users]
    split
    · rw [Option.map_map]
      rfl
    · split
      · rw [Option.map_map]
        rfl
      · rfl
  · simp only [Db.groups, Groups.handOver, h.users]
    by_cases hk : ownerId = k
    · subst hk
      cases db.fetchUser ownerId <;> simp [ClanPrivileges.value]
    · by_cases hk' : targetId = k
      · subst hk'
        simp [hk, htarget, hne]
      · simp [hk, hk', Ne.symm hk, Ne.symm hk']
  · simp only [Db.groups, Groups.handOver, h.clans, Function.update_apply]
    by_cases hk : clanId = k
    · subst hk
      simp [hclan]
    · simp [hk, Ne.symm hk]

end Transactions

end BanchoPrism.Clans
