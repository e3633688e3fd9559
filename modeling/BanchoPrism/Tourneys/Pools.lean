import BanchoPrism.Library.Rows
import BanchoPrism.Library.Traces

namespace BanchoPrism.Tourneys

open Library

abbrev Str := List Char

structure TourneyPool where
  id : Nat
  name : Str
  createdBy : Nat
  deriving DecidableEq

structure TourneyPoolMap where
  mapId : Nat
  poolId : Nat
  mods : Nat
  slot : Nat
  deriving DecidableEq

-- What a map is picked by.
def TourneyPoolMap.pick (row : TourneyPoolMap) : Nat × Nat × Nat := (row.poolId, row.mods, row.slot)

-- The primary key
def TourneyPoolMap.key (row : TourneyPoolMap) : Nat × Nat := (row.mapId, row.poolId)

-- What a command comes to. An error of the database is raised through it.
inductive Reply
  | created
  | nameTaken
  | noPool
  | deleted
  | added
  | pickTaken (existingMapId : Nat)
  | mapAlreadyInPool
  | noPick
  | removed
  | dataError
  | integrityError
  deriving DecidableEq

structure World where
  pools : List TourneyPool
  maps : List TourneyPoolMap
  -- the AUTO_INCREMENT of tourney_pools
  nextId : Nat
  replies : List Reply := []

-- name varchar(16)
def maxName : Nat := 16

-- slot tinyint
def maxSlot : Nat := 127

-- The page_size of fetch_many, for callers that name no page.
def pageSize : Nat := 50

inductive Line
  | poolCreate (name : Str) (createdBy : Nat)
  | insertPool (name : Str) (createdBy : Nat)
  | poolDelete (name : Str)
  | deletePool (poolId : Nat)
  -- the transaction, which sees what there was at its first statement
  | deleteById (poolId : Nat)
  | commit (poolId : Nat) (found filled : Bool)
  | poolAdd (name : Str) (mapId mods slot : Nat)
  | addMapToPool (row : TourneyPoolMap)
  | insertMap (row : TourneyPoolMap)
  | poolRemove (name : Str) (mods slot : Nat)
  | removeMapFromPool (poolId mods slot : Nat)
  | deleteMapFromPool (mapPick : TourneyPoolMap)
  | deleteMap (mapPick : TourneyPoolMap)
  deriving DecidableEq

-- The commands, once their arguments are read.
inductive Request
  | create (name : Str) (createdBy : Nat)
  | delete (name : Str)
  | add (name : Str) (mapId mods slot : Nat)
  | remove (name : Str) (mods slot : Nat)
  deriving DecidableEq

def Request.line : Request → Line
  | create name createdBy => .poolCreate name createdBy
  | delete name => .poolDelete name
  | add name mapId mods slot => .poolAdd name mapId mods slot
  | remove name mods slot => .poolRemove name mods slot

def World.reply (w : World) (reply : Reply) : World := { w with replies := w.replies ++ [reply] }

-- The answer of add_map_to_pool to the maps that it has fetched, if it refuses.
def refusal (row : TourneyPoolMap) : List TourneyPoolMap → Option Reply
  | [] => none
  | poolMap :: rest =>
      if row.mods = poolMap.mods ∧ row.slot = poolMap.slot then some (.pickTaken poolMap.mapId)
      else if poolMap.mapId = row.mapId then some .mapAlreadyInPool
      else refusal row rest

section Perform

-- What names are compared by, and the order in which the rows of a pool are found.
variable (collate : Str → Str) (order : List TourneyPoolMap → List TourneyPoolMap)

def World.fetchByName (w : World) (name : Str) : Option TourneyPool :=
  w.pools.find? fun pool => collate pool.name = collate name

-- fetch_many(pool_id=...), which is the first page
def World.fetchPoolMaps (w : World) (poolId : Nat) : List TourneyPoolMap :=
  (order (w.maps.filter fun row => row.poolId = poolId)).take pageSize

def World.fetchByPoolAndPick (w : World) (poolId mods slot : Nat) : Option TourneyPoolMap :=
  (order w.maps).find? fun row => row.pick = (poolId, mods, slot)

def Line.perform (line : Line) (w : World) : World × List Line :=
  match line with
  | poolCreate name createdBy =>
      match w.fetchByName collate name with
      | some _ => (w.reply .nameTaken, [])
      | none => (w, [insertPool name createdBy])
  | insertPool name createdBy =>
      if maxName < name.length then (w.reply .dataError, [])
      else
        ({ w with
            pools := w.pools ++ [⟨w.nextId, name, createdBy⟩]
            nextId := w.nextId + 1
            replies := w.replies ++ [.created] }, [])
  | poolDelete name =>
      match w.fetchByName collate name with
      | none => (w.reply .noPool, [])
      | some pool => (w, [deletePool pool.id])
  | deletePool poolId =>
      if w.pools.any fun pool => pool.id = poolId then (w, [deleteById poolId])
      else (w.reply .deleted, [])
  | deleteById poolId =>
      (w, [commit poolId (w.pools.any fun pool => pool.id = poolId)
        (w.maps.any fun row => row.poolId = poolId)])
  | commit poolId found filled =>
      ({ w with
          pools := if found then w.pools.filter fun pool => pool.id ≠ poolId else w.pools
          maps := if filled then w.maps.filter fun row => row.poolId ≠ poolId else w.maps
          replies := w.replies ++ [.deleted] }, [])
  | poolAdd name mapId mods slot =>
      match w.fetchByName collate name with
      | none => (w.reply .noPool, [])
      | some pool => (w, [addMapToPool ⟨mapId, pool.id, mods, slot⟩])
  | addMapToPool row =>
      match refusal row (w.fetchPoolMaps order row.poolId) with
      | some reply => (w.reply reply, [])
      | none => (w, [insertMap row])
  | insertMap row =>
      if maxSlot < row.slot then (w.reply .dataError, [])
      else if w.maps.any fun other => other.key = row.key then (w.reply .integrityError, [])
      else ({ w with maps := w.maps ++ [row], replies := w.replies ++ [.added] }, [])
  | poolRemove name mods slot =>
      match w.fetchByName collate name with
      | none => (w.reply .noPool, [])
      | some pool => (w, [removeMapFromPool pool.id mods slot])
  | removeMapFromPool poolId mods slot =>
      match w.fetchByPoolAndPick order poolId mods slot with
      | none => (w.reply .noPick, [])
      | some mapPick => (w, [deleteMapFromPool mapPick])
  | deleteMapFromPool mapPick =>
      if w.maps.any fun row => row.key = mapPick.key then (w, [deleteMap mapPick])
      else (w.reply .removed, [])
  | deleteMap mapPick =>
      ({ w with
          maps := w.maps.filter fun row => row.key ≠ mapPick.key
          replies := w.replies ++ [.removed] }, [])

abbrev Traffic := Tasks World Line

abbrev Event := Tasks.Event Request

def Traffic.step (t : Traffic) (e : Event) : Traffic :=
  Tasks.step (fun request : Request => [request.line]) (Line.perform collate order) t e

def served (w : World) (run : List Event) : Traffic :=
  runFrom (Traffic.step collate order) { world := w, running := [] } run

end Perform

-- The name that a line has found free.
def Line.names (collate : Str → Str) : Line → Option Str
  | .insertPool name _ => some (collate name)
  | _ => none

-- The pick that a line has found free.
def Line.picks : Line → Option (Nat × Nat × Nat)
  | .insertMap row => some row.pick
  | _ => none

-- The pool that a line is about to put a map into.
def Line.fills : Line → Option Nat
  | .addMapToPool row | .insertMap row => some row.poolId
  | _ => none

-- The pool that a line is about to delete.
def Line.clears : Line → Option Nat
  | .commit poolId _ _ => some poolId
  | _ => none

-- The pool that a line deletes without its maps.
def Line.spares : Line → Option Nat
  | .commit poolId _ false => some poolId
  | _ => none

-- What the checks before an insert rely on: that of the commands that are not refused nobody else
-- has found the same name or pick free, that a pool has no more maps than are fetched, and that a
-- pool is not deleted and filled at once.
def Line.Heeds (collate : Str → Str) (order : List TourneyPoolMap → List TourneyPoolMap)
    (line : Line) (w : World) (others : List Line) : Prop :=
  match line with
  | .poolCreate name _ =>
      w.fetchByName collate name = none → collate name ∉ others.filterMap (Line.names collate)
  | .addMapToPool row =>
      refusal row (w.fetchPoolMaps order row.poolId) = none →
        (w.maps.filter fun other => other.poolId = row.poolId).length ≤ pageSize ∧
          row.pick ∉ others.filterMap Line.picks
  | .insertMap row => row.poolId ∉ others.filterMap Line.clears
  | .commit poolId _ _ => poolId ∉ others.filterMap Line.fills
  | _ => True

-- Pools are told apart by their names, a pool's maps by their picks, and each map is in a pool.
structure World.Sound (collate : Str → Str) (w : World) : Prop where
  ids : (w.pools.map TourneyPool.id).Nodup
  ids_lt : ∀ pool ∈ w.pools, pool.id < w.nextId
  names : (w.pools.map fun pool => collate pool.name).Nodup
  keys : (w.maps.map TourneyPoolMap.key).Nodup
  picks : (w.maps.map TourneyPoolMap.pick).Nodup
  homes : ∀ row ∈ w.maps, row.poolId ∈ w.pools.map TourneyPool.id

-- The same with what the commands that are under way have found.
structure Kept (collate : Str → Str) (w : World) (left : List Line) : Prop where
  ids : (w.pools.map TourneyPool.id).Nodup
  ids_lt : ∀ pool ∈ w.pools, pool.id < w.nextId
  names : Reserved (fun pool => collate pool.name) w.pools (left.filterMap (Line.names collate))
  keys : (w.maps.map TourneyPoolMap.key).Nodup
  picks : Reserved TourneyPoolMap.pick w.maps (left.filterMap Line.picks)
  homes : ∀ row ∈ w.maps, row.poolId ∈ w.pools.map TourneyPool.id
  aims : ∀ poolId ∈ left.filterMap Line.fills, poolId ∈ w.pools.map TourneyPool.id
  spared : ∀ row ∈ w.maps, row.poolId ∉ left.filterMap Line.spares

section Kept

variable {collate : Str → Str} {order : List TourneyPoolMap → List TourneyPoolMap} {w w' : World}
  {line next : Line} {left others other : List Line} {row : TourneyPoolMap}

theorem Kept.of_perm (h : Kept collate w left) (hperm : left.Perm other) : Kept collate w other :=
  ⟨h.ids, h.ids_lt, h.names.perm (hperm.filterMap _), h.keys, h.picks.perm (hperm.filterMap _),
    h.homes, fun poolId hmem => h.aims poolId ((hperm.filterMap _).mem_iff.mpr hmem),
    fun row hrow hmem => h.spared row hrow ((hperm.filterMap _).mem_iff.mpr hmem)⟩

-- A line that has come to nothing, whatever it had found.
theorem Kept.drop (h : Kept collate w (line :: others)) : Kept collate w others := by
  have hsub {α : Type} (f : Line → Option α) :
      (others.filterMap f).Sublist ((line :: others).filterMap f) :=
    (List.sublist_cons_self line others).filterMap f
  exact ⟨h.ids, h.ids_lt, h.names.sublist (List.Sublist.refl _) (hsub _), h.keys,
    h.picks.sublist (List.Sublist.refl _) (hsub _), h.homes,
    fun poolId hmem => h.aims poolId ((hsub _).subset hmem),
    fun row hrow hmem => h.spared row hrow ((hsub _).subset hmem)⟩

theorem Kept.reply (h : Kept collate w left) (reply : Reply) : Kept collate (w.reply reply) left :=
  ⟨h.ids, h.ids_lt, h.names, h.keys, h.picks, h.homes, h.aims, h.spared⟩

-- A line that keeps nothing free, and puts no map into a pool that is not there.
theorem Kept.goes (h : Kept collate w others) (hnames : next.names collate = none)
    (hpicks : next.picks = none)
    (hfills : ∀ poolId ∈ next.fills, poolId ∈ w.pools.map TourneyPool.id)
    (hspares : ∀ row ∈ w.maps, row.poolId ∉ next.spares) : Kept collate w (next :: others) := by
  refine ⟨h.ids, h.ids_lt, ?_, h.keys, ?_, h.homes, fun poolId hmem => ?_, fun row hrow hmem => ?_⟩
  · rw [List.filterMap_cons_none hnames]
    exact h.names
  · rw [List.filterMap_cons_none hpicks]
    exact h.picks
  · obtain ⟨line, hline, hfound⟩ := List.mem_filterMap.mp hmem
    rcases List.mem_cons.mp hline with rfl | hold
    · exact hfills poolId hfound
    · exact h.aims poolId (List.mem_filterMap.mpr ⟨line, hold, hfound⟩)
  · obtain ⟨line, hline, hfound⟩ := List.mem_filterMap.mp hmem
    rcases List.mem_cons.mp hline with rfl | hold
    · exact hspares row hrow hfound
    · exact h.spared row hrow (List.mem_filterMap.mpr ⟨line, hold, hfound⟩)

theorem Kept.quiet (h : Kept collate w others) (hnames : next.names collate = none)
    (hpicks : next.picks = none) (hfills : next.fills = none) (hspares : next.spares = none) :
    Kept collate w (next :: others) := by
  refine h.goes hnames hpicks (fun poolId hmem => ?_) fun row _ hmem => ?_
  · rw [hfills] at hmem
    cases hmem
  · rw [hspares] at hmem
    cases hmem

theorem Kept.reserveName {name : Str} {createdBy : Nat} (h : Kept collate w others)
    (hfree : w.fetchByName collate name = none)
    (halone : collate name ∉ others.filterMap (Line.names collate)) :
    Kept collate w (.insertPool name createdBy :: others) := by
  refine ⟨h.ids, h.ids_lt, ?_, h.keys, h.picks, h.homes, h.aims, h.spared⟩
  refine h.names.reserve (fun pool hpool heq => ?_) halone
  have hnone := List.find?_eq_none.mp hfree pool hpool
  exact hnone (decide_eq_true heq)

theorem Kept.insertPool {name : Str} {createdBy : Nat}
    (h : Kept collate w (.insertPool name createdBy :: others)) :
    Kept collate
      { w with
        pools := w.pools ++ [⟨w.nextId, name, createdBy⟩]
        nextId := w.nextId + 1
        replies := w.replies ++ [.created] } others := by
  have hids : (w.pools ++ [(⟨w.nextId, name, createdBy⟩ : TourneyPool)]).map TourneyPool.id =
      w.pools.map TourneyPool.id ++ [w.nextId] := List.map_append
  refine ⟨?_, fun pool hpool => ?_, Reserved.insert h.names, h.keys, h.drop.picks,
    fun row hrow => ?_, fun poolId hmem => ?_, h.drop.spared⟩
  · dsimp only
    rw [hids]
    refine List.nodup_append.mpr ⟨h.ids, List.nodup_singleton _, fun id hid new hnew heq => ?_⟩
    obtain ⟨pool, hpool, rfl⟩ := List.mem_map.mp hid
    rw [List.mem_singleton.mp hnew] at heq
    exact Nat.ne_of_lt (h.ids_lt pool hpool) heq
  · rcases List.mem_append.mp hpool with hold | hnew
    · exact Nat.lt_succ_of_lt (h.ids_lt pool hold)
    · rw [List.mem_singleton.mp hnew]
      exact Nat.lt_succ_self w.nextId
  · dsimp only
    rw [hids]
    exact List.mem_append_left _ (h.homes row hrow)
  · dsimp only
    rw [hids]
    exact List.mem_append_left _ (h.drop.aims poolId hmem)

-- The pool and its maps go together, and nobody puts a map into it meanwhile.
theorem Kept.commit {poolId : Nat} {found filled : Bool}
    (h : Kept collate w (.commit poolId found filled :: others))
    (hheeds : poolId ∉ others.filterMap Line.fills) :
    Kept collate
      { w with
        pools := if found then w.pools.filter fun pool => pool.id ≠ poolId else w.pools
        maps := if filled then w.maps.filter fun row => row.poolId ≠ poolId else w.maps
        replies := w.replies ++ [.deleted] } others := by
  have hpools : (if found then w.pools.filter fun pool => pool.id ≠ poolId
      else w.pools).Sublist w.pools := by
    split
    · exact List.filter_sublist
    · exact List.Sublist.refl _
  have hmaps : (if filled then w.maps.filter fun row => row.poolId ≠ poolId
      else w.maps).Sublist w.maps := by
    split
    · exact List.filter_sublist
    · exact List.Sublist.refl _
  have hother : ∀ id, id ≠ poolId → id ∈ w.pools.map TourneyPool.id →
      id ∈ (if found then w.pools.filter fun pool => pool.id ≠ poolId else w.pools).map
        TourneyPool.id := by
    intro id hne hid
    obtain ⟨pool, hpool, rfl⟩ := List.mem_map.mp hid
    refine List.mem_map_of_mem ?_
    split
    · exact List.mem_filter.mpr ⟨hpool, decide_eq_true hne⟩
    · exact hpool
  refine ⟨h.ids.sublist (hpools.map _), fun pool hpool => h.ids_lt pool (hpools.subset hpool),
    h.drop.names.sublist hpools (List.Sublist.refl _), h.keys.sublist (hmaps.map _),
    h.drop.picks.sublist hmaps (List.Sublist.refl _), fun row hrow => ?_, fun id hmem => ?_,
    fun row hrow => h.drop.spared row (hmaps.subset hrow)⟩
  · refine hother row.poolId ?_ (h.homes row (hmaps.subset hrow))
    cases filled with
    | true => exact of_decide_eq_true (List.mem_filter.mp hrow).2
    | false =>
      intro heq
      refine h.spared row hrow (List.mem_filterMap.mpr ⟨_, List.mem_cons_self, ?_⟩)
      exact congrArg some heq.symm
  · exact hother id (fun heq => hheeds (heq ▸ hmem)) (h.drop.aims id hmem)

theorem not_mem_refusal {maps : List TourneyPoolMap} (h : refusal row maps = none) :
    ∀ other ∈ maps, (other.mods, other.slot) ≠ (row.mods, row.slot) ∧ other.mapId ≠ row.mapId := by
  induction maps with
  | nil => exact fun _ hother => by cases hother
  | cons first rest ih =>
    rw [refusal] at h
    split at h
    · cases h
    · rename_i hpick
      split at h
      · cases h
      · rename_i hmap
        refine List.forall_mem_cons.mpr ⟨⟨fun heq => hpick ?_, hmap⟩, ih h⟩
        exact ⟨(Prod.ext_iff.mp heq).1.symm, (Prod.ext_iff.mp heq).2.symm⟩

-- All the maps of a pool that is not too long are seen.
theorem mem_fetchPoolMaps {poolId : Nat} (horder : ∀ rows, (order rows).Perm rows)
    (hsize : (w.maps.filter fun other => other.poolId = poolId).length ≤ pageSize) :
    row ∈ w.fetchPoolMaps order poolId ↔ row ∈ w.maps ∧ row.poolId = poolId := by
  rw [World.fetchPoolMaps, List.take_of_length_le, (horder _).mem_iff, List.mem_filter,
    decide_eq_true_iff]
  rw [(horder _).length_eq]
  exact hsize

theorem Kept.reservePick (h : Kept collate w (.addMapToPool row :: others))
    (horder : ∀ rows, (order rows).Perm rows)
    (hsize : (w.maps.filter fun other => other.poolId = row.poolId).length ≤ pageSize)
    (halone : row.pick ∉ others.filterMap Line.picks)
    (hfree : refusal row (w.fetchPoolMaps order row.poolId) = none) :
    Kept collate w (.insertMap row :: others) := by
  refine ⟨h.ids, h.ids_lt, h.names, h.keys, ?_, h.homes, h.aims, h.spared⟩
  refine Reserved.reserve h.picks (fun other hother heq => ?_) halone
  obtain ⟨hpool, hpick⟩ := Prod.ext_iff.mp heq
  have hseen := (mem_fetchPoolMaps horder hsize).mpr ⟨hother, hpool⟩
  exact (not_mem_refusal hfree other hseen).1 hpick

theorem Kept.insertMap (h : Kept collate w (.insertMap row :: others))
    (hheeds : row.poolId ∉ others.filterMap Line.clears)
    (hkey : ∀ other ∈ w.maps, other.key ≠ row.key) :
    Kept collate { w with maps := w.maps ++ [row], replies := w.replies ++ [.added] } others := by
  refine ⟨h.ids, h.ids_lt, h.drop.names, nodup_map_append h.keys hkey, Reserved.insert h.picks,
    fun other hother => ?_, h.drop.aims, fun other hother => ?_⟩
  · rcases List.mem_append.mp hother with hold | hnew
    · exact h.homes other hold
    · rw [List.mem_singleton.mp hnew]
      exact h.aims row.poolId List.mem_cons_self
  · rcases List.mem_append.mp hother with hold | hnew
    · exact h.drop.spared other hold
    · rw [List.mem_singleton.mp hnew]
      intro hmem
      obtain ⟨line, hline, hspares⟩ := List.mem_filterMap.mp hmem
      refine hheeds (List.mem_filterMap.mpr ⟨line, hline, ?_⟩)
      unfold Line.spares at hspares
      split at hspares
      · exact hspares
      · cases hspares

theorem Kept.deleteMap (h : Kept collate w others) (mapPick : TourneyPoolMap) :
    Kept collate
      { w with
        maps := w.maps.filter fun row => row.key ≠ mapPick.key
        replies := w.replies ++ [.removed] } others := by
  have hsub : (w.maps.filter fun row => row.key ≠ mapPick.key).Sublist w.maps := List.filter_sublist
  exact ⟨h.ids, h.ids_lt, h.names, h.keys.sublist (hsub.map _),
    h.picks.sublist hsub (List.Sublist.refl _), fun row hrow => h.homes row (hsub.subset hrow),
    h.aims, fun row hrow => h.spared row (hsub.subset hrow)⟩

theorem fetchByName_mem {name : Str} {pool : TourneyPool}
    (h : w.fetchByName collate name = some pool) : pool.id ∈ w.pools.map TourneyPool.id :=
  List.mem_map_of_mem (List.mem_of_find?_eq_some h)

theorem Kept.perform (h : Kept collate w (line :: others))
    (horder : ∀ rows, (order rows).Perm rows) (hheeds : line.Heeds collate order w others) :
    Kept collate (line.perform collate order w).1
      ((line.perform collate order w).2 ++ others) := by
  cases line with
  | poolCreate name createdBy =>
    simp only [Line.perform]
    split
    · exact h.drop.reply _
    · rename_i hfree
      exact h.drop.reserveName hfree (hheeds hfree)
  | insertPool name createdBy =>
    simp only [Line.perform]
    split
    · exact h.drop.reply _
    · exact h.insertPool
  | poolDelete name =>
    simp only [Line.perform]
    split
    · exact h.drop.reply _
    · exact h.drop.quiet rfl rfl rfl rfl
  | deletePool poolId =>
    simp only [Line.perform]
    split
    · exact h.drop.quiet rfl rfl rfl rfl
    · exact h.drop.reply _
  | deleteById poolId =>
    refine h.drop.goes rfl rfl (fun _ hmem => by cases hmem) fun row hrow hmem => ?_
    cases hfilled : w.maps.any fun row => row.poolId = poolId with
    | true =>
      rw [hfilled] at hmem
      cases hmem
    | false =>
      rw [hfilled] at hmem
      cases hmem
      exact List.any_eq_false.mp hfilled row hrow (decide_eq_true rfl)
  | commit poolId found filled => exact h.commit hheeds
  | poolAdd name mapId mods slot =>
    simp only [Line.perform]
    split
    · exact h.drop.reply _
    · rename_i pool hfound
      refine h.drop.goes rfl rfl (fun poolId hmem => ?_) fun _ _ hmem => by cases hmem
      cases hmem
      exact fetchByName_mem hfound
  | addMapToPool row =>
    simp only [Line.perform]
    split
    · exact h.drop.reply _
    · rename_i hfree
      exact h.reservePick horder (hheeds hfree).1 (hheeds hfree).2 hfree
  | insertMap row =>
    simp only [Line.perform]
    split
    · exact h.drop.reply _
    · split
      · exact h.drop.reply _
      · rename_i hkey
        refine h.insertMap hheeds fun other hother heq => hkey ?_
        exact List.any_eq_true.mpr ⟨other, hother, decide_eq_true heq⟩
  | poolRemove name mods slot =>
    simp only [Line.perform]
    split
    · exact h.drop.reply _
    · exact h.drop.quiet rfl rfl rfl rfl
  | removeMapFromPool poolId mods slot =>
    simp only [Line.perform]
    split
    · exact h.drop.reply _
    · exact h.drop.quiet rfl rfl rfl rfl
  | deleteMapFromPool mapPick =>
    simp only [Line.perform]
    split
    · exact h.drop.quiet rfl rfl rfl rfl
    · exact h.drop.reply _
  | deleteMap mapPick => exact h.drop.deleteMap mapPick

theorem Kept.begin (h : Kept collate w left) (request : Request) :
    Kept collate w (request.line :: left) := by
  cases request <;> exact h.quiet rfl rfl rfl rfl

theorem World.Sound.kept (h : w.Sound collate) : Kept collate w [] where
  ids := h.ids
  ids_lt := h.ids_lt
  names := by
    rw [Reserved, List.filterMap_nil, List.append_nil]
    exact h.names
  keys := h.keys
  picks := by
    rw [Reserved, List.filterMap_nil, List.append_nil]
    exact h.picks
  homes := h.homes
  aims _ hmem := by cases hmem
  spared _ _ hmem := by cases hmem

-- A map is found by its pick.
theorem World.Sound.fetchByPoolAndPick (h : w.Sound collate)
    (horder : ∀ rows, (order rows).Perm rows) (hrow : row ∈ w.maps) :
    w.fetchByPoolAndPick order row.poolId row.mods row.slot = some row := by
  unfold World.fetchByPoolAndPick
  cases hfound : (order w.maps).find? fun other =>
      other.pick = (row.poolId, row.mods, row.slot) with
  | none =>
    have hnone := List.find?_eq_none.mp hfound row ((horder _).mem_iff.mpr hrow)
    exact absurd (decide_eq_true rfl) hnone
  | some other =>
    have hother := (horder _).mem_iff.mp (List.mem_of_find?_eq_some hfound)
    have hmatch := List.find?_some hfound
    have hpick : other.pick = row.pick := of_decide_eq_true hmatch
    rw [List.inj_on_of_nodup_map h.picks hother hrow hpick]

end Kept

-- The pools stay sound as long as no two commands cross each other.
theorem distinct_of_heeds (collate : Str → Str) (order : List TourneyPoolMap → List TourneyPoolMap)
    (w : World) (run : List Event) (horder : ∀ rows, (order rows).Perm rows)
    (h : w.Sound collate)
    (hrun : Guarded (Traffic.step collate order)
      (Tasks.Meets fun line w running => line.Heeds collate order w (Tasks.gather some running))
      { world := w, running := [] } run) :
    (served collate order w run).world.Sound collate ∧
      ∀ row ∈ (served collate order w run).world.maps,
        (served collate order w run).world.fetchByPoolAndPick order row.poolId row.mods row.slot =
          some row := by
  have hkept := @Tasks.left_guarded _ _ _ (fun request : Request => [request.line])
    (Line.perform collate order) { world := w, running := [] }
    (fun line w others => line.Heeds collate order w others) (fun _ w' left => Kept collate w' left)
    (fun _ _ _ _ hperm h => h.of_perm hperm) (fun _ _ _ request h => h.begin request)
    (fun _ _ _ _ h hheeds => h.perform horder hheeds) run [] h.kept hrun
  have hsound : (served collate order w run).world.Sound collate :=
    ⟨hkept.ids, hkept.ids_lt, hkept.names.nodup, hkept.keys, hkept.picks.nodup, hkept.homes⟩
  exact ⟨hsound, fun row hrow => hsound.fetchByPoolAndPick horder hrow⟩

instance (collate : Str → Str) (order : List TourneyPoolMap → List TourneyPoolMap) (line : Line)
    (w : World) (others : List Line) : Decidable (line.Heeds collate order w others) :=
  match line with
  | .poolCreate name _ =>
      inferInstanceAs (Decidable (w.fetchByName collate name = none →
        ¬collate name ∈ others.filterMap (Line.names collate)))
  | .addMapToPool row =>
      inferInstanceAs (Decidable (refusal row (w.fetchPoolMaps order row.poolId) = none →
        _ ∧ ¬row.pick ∈ others.filterMap Line.picks))
  | .insertMap row => inferInstanceAs (Decidable (¬row.poolId ∈ others.filterMap Line.clears))
  | .commit poolId _ _ => inferInstanceAs (Decidable (¬poolId ∈ others.filterMap Line.fills))
  | .insertPool _ _ | .poolDelete _ | .deletePool _ | .deleteById _ | .poolAdd _ _ _ _
  | .poolRemove _ _ _ | .removeMapFromPool _ _ _ | .deleteMapFromPool _ | .deleteMap _ =>
      isTrue trivial

def noPools : World := { pools := [], maps := [], nextId := 1 }

theorem noPools_sound : noPools.Sound id :=
  ⟨List.nodup_nil, nofun, List.nodup_nil, List.nodup_nil, List.nodup_nil, nofun⟩

-- Two maps are put into one pool at once, while another is emptied and deleted.
def busyPools : List Event :=
  [.begin (.create ['a'] 1), .begin (.create ['b'] 1), .resume 0, .resume 1, .resume 1, .resume 0,
    .begin (.add ['b'] 7 8 1), .resume 2, .resume 2, .resume 2, .begin (.add ['a'] 7 8 1),
    .begin (.add ['a'] 9 8 2), .begin (.delete ['b']), .resume 5, .resume 3, .resume 4, .resume 5,
    .resume 3, .resume 4, .resume 5, .resume 4, .resume 3, .resume 5, .begin (.remove ['a'] 8 1),
    .resume 6, .resume 6, .resume 6, .resume 6]

theorem distinct_of_heeds_busyPools :
    (served id id noPools busyPools).world.Sound id ∧
      (served id id noPools busyPools).world.fetchByPoolAndPick id 2 8 2 = some ⟨9, 2, 8, 2⟩ := by
  have h := distinct_of_heeds id id noPools busyPools (fun _ => List.Perm.refl _) noPools_sound
    (by decide +kernel)
  exact ⟨h.1, h.2 ⟨9, 2, 8, 2⟩ (by decide +kernel)⟩

def longPool : World :=
  { noPools with
    pools := [⟨1, ['a'], 1⟩]
    maps := (List.range 51).map fun n => ⟨n, 1, 8, n⟩
    nextId := 2 }

-- The 51st map of a pool is not fetched, and another takes its pick.
example : ¬((served id id longPool
    (.begin (.add ['a'] 90 8 50) :: List.replicate 3 (.resume 0))).world.maps.map
      TourneyPoolMap.pick).Nodup := by
  decide +kernel

end BanchoPrism.Tourneys
