import BanchoPrism.Relationships.Operations

namespace BanchoPrism.Relationships

open Library

-- A session has what the table has for its user; the bot may be a friend without a row.
structure Agrees (relationships : List Relationship) (me : Session) : Prop where
  friends : ∀ u, u ≠ botId → (u ∈ me.friends ↔ ⟨me.id, u, .friend⟩ ∈ relationships)
  blocks : ∀ u, u ∈ me.blocks ↔ ⟨me.id, u, .block⟩ ∈ relationships
  disjoint : ∀ u, u ≠ botId → u ∈ me.friends → u ∉ me.blocks

-- No pair of users has two rows.
def Unique (relationships : List Relationship) : Prop :=
  (relationships.map Relationship.pair).Nodup

-- What the table says of a pair of users.
def Server.relation (s : Server) (a u : Int) : Option RelationshipType :=
  (s.fetchOne a u).map Relationship.type

-- A session has one user as the table has it.
structure Mirrors (s : Server) (me : Session) (u : Int) : Prop where
  friend : s.relation me.id u = some .friend → u ∈ me.friends
  row : u ∈ me.friends → u ≠ botId → s.relation me.id u = some .friend
  block : u ∈ me.blocks ↔ s.relation me.id u = some .block

structure Sound (s : Server) : Prop where
  unique : Unique s.relationships
  nodup : s.online.Nodup
  fresh : ∀ p ∈ s.online, p < s.next
  byId : ∀ id p, s.byId id = some p ↔ p ∈ s.online ∧ (s.session p).id = id
  bot : s.byId botId = some botRef
  mirrors : ∀ p ∈ s.online, p ≠ botRef → ∀ u, Mirrors s (s.session p) u

-- From s to s' nothing changes but what one user has to do with another.
structure Changes (a u : Int) (s s' : Server) : Prop where
  online : s'.online = s.online
  byId : s'.byId = s.byId
  next : s'.next = s.next
  unique : Unique s.relationships → Unique s'.relationships
  relation : ∀ b v, (b, v) ≠ (a, u) → s'.relation b v = s.relation b v
  id : ∀ q, (s'.session q).id = (s.session q).id
  friends : ∀ q v, ((s.session q).id, v) ≠ (a, u) →
    (v ∈ (s'.session q).friends ↔ v ∈ (s.session q).friends)
  blocks : ∀ q v, ((s.session q).id, v) ≠ (a, u) →
    (v ∈ (s'.session q).blocks ↔ v ∈ (s.session q).blocks)

-- A user who logs in is not online.
def Op.LogsInAlone (s : Server) : Op → Prop
  | .login userId => ∀ p ∈ s.online, (s.session p).id ≠ userId
  | _ => True

-- Nobody who is online befriends through the API a user that it blocks and may see.
def Op.BefriendsUnblocked (s : Server) : Op → Prop
  | .addFriend viewer targetId target => Server.finds viewer target →
      ∀ p ∈ s.online, (s.session p).id = viewer.id → targetId ∉ (s.session p).blocks
  | _ => True

def Op.Heeds (s : Server) (op : Op) : Prop := op.LogsInAlone s ∧ op.BefriendsUnblocked s

instance (s : Server) (op : Op) : Decidable (op.LogsInAlone s) :=
  match op with
  | .login userId => inferInstanceAs (Decidable (∀ p ∈ s.online, (s.session p).id ≠ userId))
  | .logout _ | .friendAdd _ _ | .friendRemove _ _ | .block _ _ | .unblock _ _ | .addFriend _ _ _
  | .removeFriend _ _ => isTrue trivial

instance (s : Server) (op : Op) : Decidable (op.BefriendsUnblocked s) :=
  match op with
  | .addFriend viewer targetId target => inferInstanceAs (Decidable (Server.finds viewer target →
      ∀ p ∈ s.online, (s.session p).id = viewer.id → targetId ∉ (s.session p).blocks))
  | .login _ | .logout _ | .friendAdd _ _ | .friendRemove _ _ | .block _ _ | .unblock _ _
  | .removeFriend _ _ => isTrue trivial

instance (s : Server) (op : Op) : Decidable (op.Heeds s) :=
  inferInstanceAs (Decidable (op.LogsInAlone s ∧ op.BefriendsUnblocked s))

section Tables

variable {s : Server} {row : Relationship} {a u b v : Int}

theorem relation_eq_some (hunique : Unique s.relationships) {type : RelationshipType} :
    s.relation a u = some type ↔ ⟨a, u, type⟩ ∈ s.relationships := by
  rw [mem_iff_fetchBy hunique]
  change (fetchBy Relationship.pair s.relationships (a, u)).map Relationship.type = some type ↔
    fetchBy Relationship.pair s.relationships (a, u) = some ⟨a, u, type⟩
  constructor
  · intro h
    obtain ⟨r, hfetch, rfl⟩ := Option.map_eq_some_iff.mp h
    have hpair := key_of_fetchBy hfetch
    obtain ⟨user1, user2, type⟩ := r
    obtain ⟨rfl, rfl⟩ := Prod.mk.inj hpair
    exact hfetch
  · intro h
    rw [h]
    rfl

theorem relation_replace :
    (s.replace row).relation b v =
      if row.pair = (b, v) then some row.type else s.relation b v := by
  change (fetchBy Relationship.pair (replaceBy Relationship.pair s.relationships row) (b, v)).map
    Relationship.type = _
  rw [fetchBy_replaceBy]
  split <;> rfl

theorem relation_delete :
    (s.delete a u).relation b v = if (a, u) = (b, v) then none else s.relation b v := by
  change (fetchBy Relationship.pair (deleteBy Relationship.pair s.relationships (a, u)) (b, v)).map
    Relationship.type = _
  rw [fetchBy_deleteBy]
  split <;> rfl

theorem create_eq_replace (h : s.fetchOne row.user1 row.user2 = none) :
    s.create row = s.replace row := by
  have hsame : deleteBy Relationship.pair s.relationships row.pair = s.relationships :=
    deleteBy_of_fetchBy_none h
  unfold Server.create Server.replace replaceBy
  rw [hsame]

theorem fetchOne_delete : (s.delete a u).fetchOne a u = none := by
  change fetchBy Relationship.pair (deleteBy Relationship.pair s.relationships (a, u)) (a, u) = none
  rw [fetchBy_deleteBy, if_pos rfl]

@[simp] theorem session_update {p : PlayerRef} {f : Session → Session} :
    (s.update p f).session p = f (s.session p) := Function.update_self p _ _

@[simp] theorem session_replace : (s.replace row).session = s.session := rfl

@[simp] theorem session_delete : (s.delete a u).session = s.session := rfl

@[simp] theorem relation_update {p : PlayerRef} {f : Session → Session} :
    (s.update p f).relation = s.relation := rfl

end Tables

section Mirroring

variable {s : Server} {me : Session} {u : Int}

theorem Mirrors.of_friend (hrow : s.relation me.id u = some .friend) (hfriend : u ∈ me.friends)
    (hblock : u ∉ me.blocks) : Mirrors s me u := by
  constructor
  · exact fun _ => hfriend
  · exact fun _ _ => hrow
  · rw [hrow]
    exact ⟨fun h => absurd h hblock, nofun⟩

theorem Mirrors.of_block (hrow : s.relation me.id u = some .block) (hfriend : u ∉ me.friends)
    (hblock : u ∈ me.blocks) : Mirrors s me u := by
  constructor
  · rw [hrow]
    exact nofun
  · exact fun h => absurd h hfriend
  · exact ⟨fun _ => hrow, fun _ => hblock⟩

theorem Mirrors.of_none (hrow : s.relation me.id u = none) (hfriend : u ∈ me.friends → u = botId)
    (hblock : u ∉ me.blocks) : Mirrors s me u := by
  constructor
  · rw [hrow]
    exact nofun
  · exact fun h hne => absurd (hfriend h) hne
  · rw [hrow]
    exact ⟨fun h => absurd h hblock, nofun⟩

theorem Mirrors.of_table {s' : Server} (h : Mirrors s me u)
    (htable : s'.relationships = s.relationships) : Mirrors s' me u := by
  have hrelation : s'.relation = s.relation := by
    unfold Server.relation Server.fetchOne
    rw [htable]
  constructor
  · rw [hrelation]
    exact h.friend
  · rw [hrelation]
    exact h.row
  · rw [hrelation]
    exact h.block

-- A friend other than the bot is not blocked.
theorem Mirrors.not_block (h : Mirrors s me u) (hne : u ≠ botId) (hfriend : u ∈ me.friends) :
    u ∉ me.blocks := by
  intro hblock
  have hrow := h.row hfriend hne
  rw [h.block.mp hblock] at hrow
  cases hrow

end Mirroring

namespace Changes

variable {s s' s'' : Server} {a u : Int}

theorem refl (s : Server) : Changes a u s s where
  online := rfl
  byId := rfl
  next := rfl
  unique := fun h => h
  relation := fun _ _ _ => rfl
  id := fun _ => rfl
  friends := fun _ _ _ => Iff.rfl
  blocks := fun _ _ _ => Iff.rfl

theorem trans (h : Changes a u s s') (h' : Changes a u s' s'') : Changes a u s s'' where
  online := h'.online.trans h.online
  byId := h'.byId.trans h.byId
  next := h'.next.trans h.next
  unique := fun hunique => h'.unique (h.unique hunique)
  relation := fun b v hne => (h'.relation b v hne).trans (h.relation b v hne)
  id := fun q => (h'.id q).trans (h.id q)
  friends := fun q v hne => (h'.friends q v (by rwa [h.id])).trans (h.friends q v hne)
  blocks := fun q v hne => (h'.blocks q v (by rwa [h.id])).trans (h.blocks q v hne)

theorem replace {row : Relationship} (hpair : row.pair = (a, u)) : Changes a u s (s.replace row) :=
  { refl s with
    unique := fun h => nodup_replaceBy h row
    relation := fun b v hne => by
      rw [relation_replace, if_neg]
      exact fun heq => hne (heq.symm.trans hpair) }

theorem delete : Changes a u s (s.delete a u) :=
  { refl s with
    unique := fun h => nodup_deleteBy h (a, u)
    relation := fun b v hne => by
      rw [relation_delete, if_neg]
      exact fun heq => hne heq.symm }

-- A change of a session in which only one user comes or goes.
theorem update {p : PlayerRef} {f : Session → Session} (hp : (s.session p).id = a)
    (hid : ∀ me, (f me).id = me.id)
    (hfriends : ∀ me v, v ≠ u → (v ∈ (f me).friends ↔ v ∈ me.friends))
    (hblocks : ∀ me v, v ≠ u → (v ∈ (f me).blocks ↔ v ∈ me.blocks)) :
    Changes a u s (s.update p f) := by
  have hsession : ∀ q, (s.update p f).session q = if q = p then f (s.session p) else s.session q :=
    fun q => Function.update_apply s.session p _ q
  constructor
  · rfl
  · rfl
  · rfl
  · exact fun h => h
  · exact fun _ _ _ => rfl
  · intro q
    rw [hsession]
    split
    case isTrue h => rw [h, hid]
    case isFalse => rfl
  · intro q v hne
    rw [hsession]
    split
    case isTrue h =>
      subst h
      exact hfriends _ v fun hv => hne (by rw [hp, hv])
    case isFalse => exact Iff.rfl
  · intro q v hne
    rw [hsession]
    split
    case isTrue h =>
      subst h
      exact hblocks _ v fun hv => hne (by rw [hp, hv])
    case isFalse => exact Iff.rfl

theorem addFriend {p : PlayerRef} (hp : (s.session p).id = a) :
    Changes a u s (s.update p (·.addFriend u)) :=
  update hp (fun _ => rfl) (fun me v hv => by simp [Session.addFriend, hv]) fun _ _ _ => Iff.rfl

theorem dropFriend {p : PlayerRef} (hp : (s.session p).id = a) :
    Changes a u s (s.update p (·.dropFriend u)) :=
  update hp (fun _ => rfl) (fun me v hv => by simp [Session.dropFriend, hv]) fun _ _ _ => Iff.rfl

theorem addBlock {p : PlayerRef} (hp : (s.session p).id = a) :
    Changes a u s (s.update p (·.addBlock u)) :=
  update hp (fun _ => rfl) (fun _ _ _ => Iff.rfl) fun me v hv => by simp [Session.addBlock, hv]

theorem dropBlock {p : PlayerRef} (hp : (s.session p).id = a) :
    Changes a u s (s.update p (·.dropBlock u)) :=
  update hp (fun _ => rfl) (fun _ _ _ => Iff.rfl) fun me v hv => by simp [Session.dropBlock, hv]

end Changes

namespace Sound

variable {s s' : Server} {a u : Int} {p : PlayerRef}

theorem eq_of_id (h : Sound s) {q : PlayerRef} (hp : p ∈ s.online) (hq : q ∈ s.online)
    (hid : (s.session p).id = (s.session q).id) : p = q := by
  have hfirst := (h.byId _ p).mpr ⟨hp, hid⟩
  have hsecond := (h.byId _ q).mpr ⟨hq, rfl⟩
  exact Option.some.inj (hfirst.symm.trans hsecond)

-- What is left to show of a change is that the session of the user has it.
theorem changes (h : Sound s) (hc : Changes a u s s')
    (hmirrors : ∀ p ∈ s.online, p ≠ botRef → (s.session p).id = a → Mirrors s' (s'.session p) u) :
    Sound s' where
  unique := hc.unique h.unique
  nodup := hc.online ▸ h.nodup
  fresh := by
    rw [hc.online, hc.next]
    exact h.fresh
  byId := by
    intro id p
    rw [hc.byId, hc.online, hc.id]
    exact h.byId id p
  bot := by
    rw [hc.byId]
    exact h.bot
  mirrors := by
    intro p hp hbot v
    rw [hc.online] at hp
    by_cases htouched : ((s.session p).id, v) = (a, u)
    · obtain ⟨hid, rfl⟩ := Prod.mk.inj htouched
      exact hmirrors p hp hbot hid
    · have hold := h.mirrors p hp hbot v
      have hrelation := hc.relation _ _ htouched
      constructor
      · rw [hc.id, hrelation, hc.friends p v htouched]
        exact hold.friend
      · rw [hc.id, hrelation, hc.friends p v htouched]
        exact hold.row
      · rw [hc.id, hrelation, hc.blocks p v htouched]
        exact hold.block

-- The same where the session is known.
theorem changes_of (h : Sound s) (hp : p ∈ s.online) (hc : Changes (s.session p).id u s s')
    (hmirrors : Mirrors s' (s'.session p) u) : Sound s' := by
  apply h.changes hc
  intro q hq _ hid
  rw [h.eq_of_id hq hp hid]
  exact hmirrors

theorem agrees (h : Sound s) (hp : p ∈ s.online) (hbot : p ≠ botRef) :
    Agrees s.relationships (s.session p) := by
  have hmirrors := h.mirrors p hp hbot
  constructor
  · intro u hne
    rw [← relation_eq_some h.unique]
    exact ⟨fun hfriend => (hmirrors u).row hfriend hne, (hmirrors u).friend⟩
  · intro u
    rw [← relation_eq_some h.unique]
    exact (hmirrors u).block
  · exact fun u hne => (hmirrors u).not_block hne

theorem ne_bot (h : Sound s) {target : PlayerRef} {userId : Int} (hfound : s.byId userId = some target)
    (hbot : target ≠ botRef) : (s.session target).id ≠ botId := by
  intro hid
  obtain ⟨-, huser⟩ := (h.byId userId target).mp hfound
  rw [huser.symm.trans hid, h.bot] at hfound
  exact hbot (Option.some.inj hfound).symm

theorem friendAdd (h : Sound s) (hp : p ∈ s.online) (hbot : p ≠ botRef) (userId : Int) :
    Sound (s.friendAdd p userId) := by
  unfold Server.friendAdd
  cases hfound : s.byId userId with
  | none => exact h
  | some target =>
    dsimp only
    split
    case isTrue => exact h
    case isFalse htarget =>
      have hne := h.ne_bot hfound htarget
      generalize (s.session target).id = u at hne ⊢
      have hold := h.mirrors p hp hbot u
      unfold Server.playerAddFriend
      by_cases hfriend : u ∈ (s.session p).friends
      · rw [if_neg (hold.not_block hne hfriend), if_pos hfriend]
        exact h
      · by_cases hblock : u ∈ (s.session p).blocks
        · rw [if_pos hblock, if_neg (by simpa [Session.dropBlock] using hfriend)]
          refine h.changes_of hp ((Changes.dropBlock rfl).trans
            ((Changes.addFriend ?_).trans (Changes.replace ?_))) ?_
          · simp [Session.dropBlock]
          · simp [Session.dropBlock, Relationship.pair]
          · apply Mirrors.of_friend
            · rw [relation_replace]
              simp [Relationship.pair, Session.addFriend]
            · simp [Session.addFriend]
            · simp [Session.addFriend, Session.dropBlock]
        · rw [if_neg hblock, if_neg hfriend]
          refine h.changes_of hp ((Changes.addFriend rfl).trans (Changes.replace rfl)) ?_
          apply Mirrors.of_friend
          · rw [relation_replace]
            simp [Relationship.pair, Session.addFriend]
          · simp [Session.addFriend]
          · simpa [Session.addFriend] using hblock

theorem friendRemove (h : Sound s) (hp : p ∈ s.online) (hbot : p ≠ botRef) (userId : Int) :
    Sound (s.friendRemove p userId) := by
  unfold Server.friendRemove
  cases hfound : s.byId userId with
  | none => exact h
  | some target =>
    dsimp only
    split
    case isTrue => exact h
    case isFalse htarget =>
      have hne := h.ne_bot hfound htarget
      generalize (s.session target).id = u at hne ⊢
      have hold := h.mirrors p hp hbot u
      unfold Server.playerRemoveFriend
      split
      case isFalse => exact h
      case isTrue hfriend =>
        refine h.changes_of hp ((Changes.dropFriend rfl).trans Changes.delete) ?_
        apply Mirrors.of_none
        · rw [relation_delete]
          simp [Session.dropFriend]
        · simp [Session.dropFriend]
        · simpa [Session.dropFriend] using hold.not_block hne hfriend

theorem block (h : Sound s) (hp : p ∈ s.online) (target : Option Found) :
    Sound (s.block p target).1 := by
  unfold Server.block
  cases target with
  | none => exact h
  | some target =>
    dsimp only
    split
    case isTrue => exact h
    case isFalse =>
      split
      case isTrue => exact h
      case isFalse hblock =>
        generalize target.id = u at hblock ⊢
        dsimp only
        unfold Server.playerAddBlock
        by_cases hfriend : u ∈ (s.session p).friends
        · rw [if_pos hfriend, if_neg (by simpa [Session.dropFriend] using hblock)]
          refine h.changes_of hp ((Changes.dropFriend rfl).trans
            ((Changes.addBlock ?_).trans (Changes.replace ?_))) ?_
          · simp [Session.dropFriend]
          · simp [Session.dropFriend, Relationship.pair]
          · apply Mirrors.of_block
            · rw [relation_replace]
              simp [Relationship.pair, Session.addBlock]
            · simp [Session.addBlock, Session.dropFriend]
            · simp [Session.addBlock]
        · rw [if_neg hfriend, if_neg hblock]
          refine h.changes_of hp ((Changes.addBlock rfl).trans (Changes.replace rfl)) ?_
          apply Mirrors.of_block
          · rw [relation_replace]
            simp [Relationship.pair, Session.addBlock]
          · simpa [Session.addBlock] using hfriend
          · simp [Session.addBlock]

theorem unblock (h : Sound s) (hp : p ∈ s.online) (hbot : p ≠ botRef) (target : Option Found) :
    Sound (s.unblock p target).1 := by
  unfold Server.unblock
  cases target with
  | none => exact h
  | some target =>
    dsimp only
    split
    case isTrue => exact h
    case isFalse =>
      split
      case isTrue => exact h
      case isFalse hblock =>
        generalize target.id = u at hblock ⊢
        rw [not_not] at hblock
        have hold := h.mirrors p hp hbot u
        dsimp only
        unfold Server.playerRemoveBlock
        rw [if_pos hblock]
        refine h.changes_of hp ((Changes.dropBlock rfl).trans Changes.delete) ?_
        apply Mirrors.of_none
        · rw [relation_delete]
          simp [Session.dropBlock]
        · intro hfriend
          by_contra hne
          exact hold.not_block hne (by simpa [Session.dropBlock] using hfriend) hblock
        · simp [Session.dropBlock]

-- A change of the table, and of the session that players.get finds for the user.
theorem updateOnline (h : Sound s) {f : Session → Session} (hc : Changes a u s s')
    (hsession : s'.session = s.session)
    (hf : ∀ p, (s'.session p).id = a → Changes a u s' (s'.update p f))
    (hmirrors : ∀ p ∈ s.online, p ≠ botRef → (s.session p).id = a →
      Mirrors (s'.update p f) (f (s.session p)) u) :
    Sound (s'.updateOnline a f) := by
  unfold Server.updateOnline
  cases hfound : s'.byId a with
  | none =>
    apply h.changes hc
    intro p hp _ hid
    rw [hc.byId, (h.byId a p).mpr ⟨hp, hid⟩] at hfound
    cases hfound
  | some q =>
    rw [hc.byId] at hfound
    obtain ⟨hq, hid⟩ := (h.byId a q).mp hfound
    apply h.changes (hc.trans (hf q (by rw [hsession, hid])))
    intro p hp hbot hid'
    have hsame : p = q := h.eq_of_id hp hq (hid'.trans hid.symm)
    subst hsame
    rw [session_update, hsession]
    exact hmirrors p hp hbot hid

theorem befriend (h : Sound s) (hc : Changes a u s s') (hsession : s'.session = s.session)
    (hnone : s'.fetchOne a u = none)
    (hblocks : ∀ p ∈ s.online, (s.session p).id = a → u ∉ (s.session p).blocks) :
    Sound ((s'.create ⟨a, u, .friend⟩).updateOnline a (·.addFriend u)) := by
  rw [create_eq_replace hnone]
  refine h.updateOnline (hc.trans (Changes.replace rfl)) hsession
    (fun _ hid => Changes.addFriend hid) ?_
  intro p hp _ hid
  apply Mirrors.of_friend
  · rw [relation_update, relation_replace]
    simp [Relationship.pair, Session.addFriend, hid]
  · simp [Session.addFriend]
  · exact hblocks p hp hid

theorem addFriend (h : Sound s) {viewer : PlayerIdentity} {target : Option PlayerIdentity}
    (hheeds : Op.BefriendsUnblocked s (.addFriend viewer u target)) :
    Sound (s.addFriend viewer u target).1 := by
  unfold Server.addFriend
  split
  case isTrue => exact h
  case isFalse =>
    split
    case isTrue => exact h
    case isFalse hfinds =>
      have hblocks := hheeds (by simpa using hfinds)
      dsimp only
      cases hfetch : s.fetchOne viewer.id u with
      | none => exact h.befriend (Changes.refl s) rfl hfetch hblocks
      | some existing =>
        dsimp only
        split
        · exact h
        · exact h.befriend Changes.delete rfl fetchOne_delete hblocks

theorem removeFriend (h : Sound s) (playerId targetId : Int) :
    Sound (s.removeFriend playerId targetId) := by
  unfold Server.removeFriend
  cases hfetch : s.fetchOne playerId targetId with
  | none => exact h
  | some existing =>
    dsimp only
    split
    case isTrue => exact h
    case isFalse htype =>
      rw [ne_eq, not_not] at htype
      refine h.updateOnline Changes.delete rfl (fun _ hid => Changes.dropFriend hid) ?_
      intro p hp hbot hid
      have hrow : s.relation (s.session p).id targetId = some .friend := by
        rw [hid, Server.relation, hfetch, Option.map_some, htype]
      have hold := h.mirrors p hp hbot targetId
      apply Mirrors.of_none
      · rw [relation_update, relation_delete]
        simp [Session.dropFriend, hid]
      · simp [Session.dropFriend]
      · intro hblock
        have hblocked := hold.block.mp hblock
        rw [hrow] at hblocked
        cases hblocked

end Sound

section Loading

variable {s : Server} {rows : List Relationship} {me : Session} {u : Int}

theorem id_loadRows : (rows.foldl Session.loadRow me).id = me.id := by
  induction rows generalizing me with
  | nil => rfl
  | cons r rest ih =>
    rw [List.foldl_cons, ih]
    unfold Session.loadRow
    cases r.type <;> rfl

theorem mem_friends_loadRows :
    u ∈ (rows.foldl Session.loadRow me).friends ↔
      u ∈ me.friends ∨ ∃ r ∈ rows, r.type = .friend ∧ r.user2 = u := by
  induction rows generalizing me with
  | nil => simp
  | cons r rest ih =>
    rw [List.foldl_cons, ih]
    unfold Session.loadRow
    cases htype : r.type with
    | friend => simp [Session.addFriend, htype, or_assoc, or_left_comm, eq_comm]
    | block => simp [Session.addBlock, htype]

theorem mem_blocks_loadRows :
    u ∈ (rows.foldl Session.loadRow me).blocks ↔
      u ∈ me.blocks ∨ ∃ r ∈ rows, r.type = .block ∧ r.user2 = u := by
  induction rows generalizing me with
  | nil => simp
  | cons r rest ih =>
    rw [List.foldl_cons, ih]
    unfold Session.loadRow
    cases htype : r.type with
    | friend => simp [Session.addFriend, htype]
    | block => simp [Session.addBlock, htype, or_assoc, or_left_comm, eq_comm]

theorem exists_row_iff {userId : Int} {type : RelationshipType} :
    (∃ r ∈ s.relationships.filter fun r => r.user1 = userId, r.type = type ∧ r.user2 = u) ↔
      ⟨userId, u, type⟩ ∈ s.relationships := by
  constructor
  · rintro ⟨⟨user1, user2, type'⟩, hr, rfl, rfl⟩
    obtain ⟨hmem, huser⟩ := List.mem_filter.mp hr
    have huser' : user1 = userId := of_decide_eq_true huser
    rwa [← huser']
  · intro hmem
    exact ⟨_, List.mem_filter.mpr ⟨hmem, decide_eq_true rfl⟩, rfl, rfl⟩

-- A session that has just been loaded.
theorem mirrors_relationshipsFromSql (hunique : Unique s.relationships) (userId : Int) :
    Mirrors s (s.relationshipsFromSql { id := userId }) u := by
  have hid : (s.relationshipsFromSql { id := userId }).id = userId := id_loadRows
  have hfriends : u ∈ (s.relationshipsFromSql { id := userId }).friends ↔
      u = botId ∨ ⟨userId, u, .friend⟩ ∈ s.relationships := by
    rw [← exists_row_iff]
    unfold Server.relationshipsFromSql Session.addFriend
    rw [Finset.mem_insert, mem_friends_loadRows]
    simp
  have hblocks : u ∈ (s.relationshipsFromSql { id := userId }).blocks ↔
      ⟨userId, u, .block⟩ ∈ s.relationships := by
    rw [← exists_row_iff]
    change u ∈ (List.foldl Session.loadRow _ _).blocks ↔ _
    rw [mem_blocks_loadRows]
    simp
  constructor
  · rw [hid, relation_eq_some hunique, hfriends]
    exact Or.inr
  · rw [hid, relation_eq_some hunique, hfriends]
    exact fun h hne => h.resolve_left hne
  · rw [hid, relation_eq_some hunique, hblocks]

end Loading

namespace Sound

variable {s : Server} {p : PlayerRef}

theorem started {relationships : List Relationship} (h : Unique relationships) :
    Sound (started relationships) where
  unique := h
  nodup := List.nodup_singleton botRef
  fresh := by
    intro p hp
    rw [List.mem_singleton.mp hp]
    exact Nat.lt_succ_self botRef
  byId := by
    intro id p
    have hget : (Relationships.started relationships).byId id =
        if id = botId then some botRef else none := by
      simp [Relationships.started, Function.update_apply]
    rw [hget]
    change _ ↔ p ∈ [botRef] ∧ botId = id
    rw [List.mem_singleton]
    split
    case isTrue h => simp [h, eq_comm]
    case isFalse h => simp [Ne.symm h]
  bot := by simp [Relationships.started]
  mirrors := by
    intro p hp hbot
    exact absurd (List.mem_singleton.mp hp) hbot

theorem bot_online (h : Sound s) : botRef ∈ s.online ∧ (s.session botRef).id = botId :=
  (h.byId botId botRef).mp h.bot

theorem login (h : Sound s) {userId : Int} (hheeds : Op.LogsInAlone s (.login userId)) :
    Sound (s.login userId) := by
  have hold : ∀ q ∈ s.online, (s.login userId).session q = s.session q := by
    intro q hq
    exact Function.update_of_ne (Nat.ne_of_lt (h.fresh q hq)) _ _
  have hnew : (s.login userId).session s.next = s.relationshipsFromSql { id := userId } :=
    Function.update_self s.next _ _
  have hid : ((s.login userId).session s.next).id = userId := by
    rw [hnew]
    exact id_loadRows
  have hget : ∀ id, (s.login userId).byId id = if id = userId then some s.next else s.byId id :=
    fun id => Function.update_apply s.byId userId _ id
  have honline : ∀ q, q ∈ (s.login userId).online ↔ q ∈ s.online ∨ q = s.next := by
    intro q
    change q ∈ s.online ++ [s.next] ↔ _
    rw [List.mem_append, List.mem_singleton]
  constructor
  · exact h.unique
  · have hnext : s.next ∉ s.online := fun hmem => Nat.lt_irrefl _ (h.fresh _ hmem)
    exact (List.perm_append_singleton _ _).nodup_iff.mpr (List.nodup_cons.mpr ⟨hnext, h.nodup⟩)
  · intro q hq
    change q < s.next + 1
    rcases (honline q).mp hq with hq | rfl
    · exact Nat.lt_succ_of_lt (h.fresh q hq)
    · exact Nat.lt_succ_self _
  · intro id q
    rw [hget, honline]
    split
    case isTrue heq =>
      subst heq
      constructor
      · intro hq
        obtain rfl := Option.some.inj hq
        exact ⟨Or.inr rfl, hid⟩
      · rintro ⟨hq | rfl, hqid⟩
        · rw [hold q hq] at hqid
          exact absurd hqid (hheeds q hq)
        · rfl
    case isFalse hne =>
      rw [h.byId]
      constructor
      · rintro ⟨hq, hqid⟩
        exact ⟨Or.inl hq, by rw [hold q hq, hqid]⟩
      · rintro ⟨hq | rfl, hqid⟩
        · exact ⟨hq, by rw [← hold q hq, hqid]⟩
        · exact absurd (hqid.symm.trans hid) hne
  · obtain ⟨hbot, hbotId⟩ := h.bot_online
    rw [hget, if_neg fun heq => hheeds botRef hbot (hbotId.trans heq)]
    exact h.bot
  · intro q hq hbot u
    rcases (honline q).mp hq with hq | rfl
    · rw [hold q hq]
      exact (h.mirrors q hq hbot u).of_table rfl
    · rw [hnew]
      exact (mirrors_relationshipsFromSql h.unique userId).of_table rfl

theorem logout (h : Sound s) (hp : p ∈ s.online) (hbot : p ≠ botRef) : Sound (s.logout p) := by
  have hget : ∀ id, (s.logout p).byId id = if id = (s.session p).id then none else s.byId id :=
    fun id => Function.update_apply s.byId (s.session p).id _ id
  have honline : ∀ q, q ∈ (s.logout p).online ↔ q ≠ p ∧ q ∈ s.online :=
    fun q => h.nodup.mem_erase_iff
  constructor
  · exact h.unique
  · exact h.nodup.erase p
  · exact fun q hq => h.fresh q ((honline q).mp hq).2
  · intro id q
    rw [hget, honline]
    split
    case isTrue hid =>
      constructor
      · exact nofun
      · rintro ⟨⟨hne, hq⟩, hqid⟩
        exact absurd (h.eq_of_id hq hp (hqid.trans hid)) hne
    case isFalse hne =>
      rw [h.byId]
      constructor
      · rintro ⟨hq, hqid⟩
        exact ⟨⟨fun heq => hne (by rw [← hqid, heq]), hq⟩, hqid⟩
      · rintro ⟨⟨-, hq⟩, hqid⟩
        exact ⟨hq, hqid⟩
  · have hne : botId ≠ (s.session p).id := by
      intro hid
      have hfound := (h.byId botId p).mpr ⟨hp, hid.symm⟩
      rw [h.bot] at hfound
      exact hbot (Option.some.inj hfound).symm
    rw [hget, if_neg hne]
    exact h.bot
  · exact fun q hq hbot u => (h.mirrors q ((honline q).mp hq).2 hbot u).of_table rfl

theorem step (h : Sound s) {op : Op} (hheeds : op.Heeds s) : Sound (s.step op) := by
  cases op with
  | login userId => exact h.login hheeds.1
  | addFriend viewer targetId target => exact h.addFriend hheeds.2
  | removeFriend playerId targetId => exact h.removeFriend playerId targetId
  | logout p =>
    simp only [Server.step]
    split
    case isTrue hp => exact h.logout hp.1 hp.2
    case isFalse => exact h
  | friendAdd p userId =>
    simp only [Server.step]
    split
    case isTrue hp => exact h.friendAdd hp.1 hp.2 userId
    case isFalse => exact h
  | friendRemove p userId =>
    simp only [Server.step]
    split
    case isTrue hp => exact h.friendRemove hp.1 hp.2 userId
    case isFalse => exact h
  | block p target =>
    simp only [Server.step]
    split
    case isTrue hp => exact h.block hp.1 target
    case isFalse => exact h
  | unblock p target =>
    simp only [Server.step]
    split
    case isTrue hp => exact h.unblock hp.1 hp.2 target
    case isFalse => exact h

end Sound

-- In every run whose operations meet the condition, every player that is online has its
-- relationships as the table has them.
theorem agrees_run {relationships : List Relationship} (hunique : Unique relationships)
    {ops : List Op} (hheeds : Guarded Server.step (fun s op => op.Heeds s) (started relationships) ops)
    {p : PlayerRef} (hp : p ∈ (runFrom Server.step (started relationships) ops).online)
    (hbot : p ≠ botRef) :
    Agrees (runFrom Server.step (started relationships) ops).relationships
      ((runFrom Server.step (started relationships) ops).session p) := by
  have hsound : Sound (runFrom Server.step (started relationships) ops) :=
    hheeds.invariant Sound (fun s op h hop => h.step hop) (Sound.started hunique)
  exact hsound.agrees hp hbot

-- From one relation to the other and back, by each of the ways.
def backAndForth : List Op :=
  [.login 3, .login 4, .friendAdd 1 4, .block 1 (some { ref := some 2, id := 4, name := "target" }),
    .unblock 1 (some { ref := some 2, id := 4, name := "target" }),
    .addFriend { id := 3, priv := 3 } 4 (some { id := 4, priv := 3 })]

theorem agrees_run_backAndForth :
    Agrees (runFrom Server.step (started [⟨3, 4, .block⟩]) backAndForth).relationships
      ((runFrom Server.step (started [⟨3, 4, .block⟩]) backAndForth).session 1) :=
  agrees_run (by simp [Unique]) (by decide) (by decide) (by decide)

-- A player blocks a user by a command, and befriends it through the API.
def blockThenFriend : List Op :=
  [.login 3, .login 4, .block 1 (some { ref := some 2, id := 4, name := "target" }),
    .addFriend { id := 3, priv := 3 } 4 (some { id := 4, priv := 3 })]

-- The block is gone from the table, and not from the session.
theorem not_agrees_blockThenFriend :
    ¬∀ (relationships : List Relationship) (ops : List Op), Unique relationships →
      Guarded Server.step (fun s op => op.LogsInAlone s) (started relationships) ops →
        ∀ p ∈ (runFrom Server.step (started relationships) ops).online, p ≠ botRef →
          Agrees (runFrom Server.step (started relationships) ops).relationships
            ((runFrom Server.step (started relationships) ops).session p) := by
  intro h
  have hagrees := h [] blockThenFriend List.nodup_nil (by decide) 1 (by decide) (by decide)
  have hfriend : (4 : Int) ∈
      ((runFrom Server.step (started []) blockThenFriend).session 1).friends := by decide
  have hblock : (4 : Int) ∈
      ((runFrom Server.step (started []) blockThenFriend).session 1).blocks := by decide
  exact hagrees.disjoint 4 (by decide) hfriend hblock

end BanchoPrism.Relationships
