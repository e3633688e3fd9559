import Mathlib
import BanchoPrism.Beatmaps.Cache

namespace BanchoPrism.Beatmaps

open Library Line

-- In the cache under the md5 or the id that it has.
def Server.Cached (s : Server) (r : MapRef) : Prop :=
  s.cache.byMd5 (s.beatmaps r).md5 = some r ∨ s.cache.byId (s.beatmaps r).id = some r

def Server.Bound (s : Server) (r : MapRef) : Prop :=
  (∃ md5, s.cache.byMd5 md5 = some r) ∨ ∃ id, s.cache.byId id = some r

structure Server.Sound (s : Server) : Prop where
  byMd5 : ∀ md5 r, s.cache.byMd5 md5 = some r → (s.beatmaps r).md5 = md5
  byId : ∀ id r, s.cache.byId id = some r → (s.beatmaps r).id = id
  home : ∀ r, s.Bound r →
    s.cache.sets (s.sets (s.setOf r)).id = some (s.setOf r) ∧ r ∈ (s.sets (s.setOf r)).maps

structure World.Sound (w : World) : Prop where
  cache : w.server.Sound
  returned : ∀ entry ∈ w.returned, entry.1.Names entry.2

-- A call that is about to return the map.
def Line.holds (r : MapRef) : Line → Bool
  | finish _ other => other = r
  | _ => false

-- The answer has the md5 of every map that is in the cache, or about to be returned.
def Server.KeepsMd5s (s : Server) (σ : SetRef) (answer : List ApiMap)
    (others : List (List Line)) : Prop :=
  ∀ r ∈ (s.sets σ).maps, s.Cached r ∨ Tasks.Owed (Line.holds r) others →
    ∀ resp ∈ ((dictOf (keyed answer)).lookup (s.beatmaps r).id).toList,
      resp.fileMd5 = (s.beatmaps r).md5

-- The answer has every map that is in the cache, and no other map of the set has its id.
def Server.KeepsMaps (s : Server) (σ : SetRef) (answer : List ApiMap) : Prop :=
  ∀ r ∈ (s.sets σ).maps, s.Cached r →
    ((s.beatmaps r).id, r) ∈ s.oldMaps σ ∧
      (((dictOf (keyed answer)).lookup (s.beatmaps r).id).isSome ∨
        (s.beatmaps r).server ≠ .OSU)

-- A set that takes the place of another of its id takes all its keys.
def Server.TakesOver (s : Server) (σ : SetRef) : Prop :=
  ∀ old ∈ (s.cache.sets (s.sets σ).id).toList, old ≠ σ →
    ∀ r ∈ (s.sets old).maps,
      (s.cache.byMd5 (s.beatmaps r).md5 = some r →
        (s.beatmaps r).md5 ∈ (s.rows (s.sets σ).maps).map Beatmap.md5) ∧
      (s.cache.byId (s.beatmaps r).id = some r →
        (s.beatmaps r).id ∈ (s.rows (s.sets σ).maps).map Beatmap.id)

def Line.Heeds (line : Line) (w : World) (others : List (List Line)) : Prop :=
  match line with
  | askRefresh σ o =>
      match o.refresh with
      | .data answer => w.server.KeepsMd5s σ answer others ∧ w.server.KeepsMaps σ answer
      | _ => True
  | cacheSet σ _ => w.server.TakesOver σ
  | _ => True

def Traffic.Heeds (t : Traffic) (e : Event) : Prop := Tasks.Meets Line.Heeds t e

section Decidable

variable (s : Server) (r : MapRef) (σ : SetRef)

instance : Decidable (s.Cached r) := by unfold Server.Cached; infer_instance

instance (answer : List ApiMap) (others : List (List Line)) :
    Decidable (s.KeepsMd5s σ answer others) := by
  unfold Server.KeepsMd5s; infer_instance

instance (answer : List ApiMap) : Decidable (s.KeepsMaps σ answer) := by
  unfold Server.KeepsMaps; infer_instance

instance : Decidable (s.TakesOver σ) := by unfold Server.TakesOver; infer_instance

instance (line : Line) (w : World) (others : List (List Line)) :
    Decidable (line.Heeds w others) := by
  unfold Line.Heeds
  split
  · split <;> infer_instance
  · infer_instance
  · infer_instance

instance (t : Traffic) (e : Event) : Decidable (t.Heeds e) :=
  inferInstanceAs (Decidable (Tasks.Meets Line.Heeds t e))

end Decidable

-- Every object that is referred to has been made.
structure Server.Allocated (s : Server) : Prop where
  maps : ∀ σ < s.nextSet, ∀ r ∈ (s.sets σ).maps, s.setOf r = σ ∧ r < s.nextMap
  sets : ∀ id σ, s.cache.sets id = some σ → (s.sets σ).id = id ∧ σ < s.nextSet

def Line.Fits (s : Server) : Line → Prop
  | loaded σ _ _ | askRefresh σ _ | replaceMapset σ | saveToSql σ | cacheSet σ _ => σ < s.nextSet
  | finish key r => r < s.nextMap ∧ key.Names (s.beatmaps r)
  | _ => True

-- What goes on only adds objects.
structure Extends (s t : Server) : Prop where
  cache : t.cache = s.cache
  nextMap : s.nextMap ≤ t.nextMap
  nextSet : s.nextSet ≤ t.nextSet
  beatmaps : ∀ r < s.nextMap, t.beatmaps r = s.beatmaps r
  setOf : ∀ r < s.nextMap, t.setOf r = s.setOf r
  sets : ∀ σ < s.nextSet, t.sets σ = s.sets σ

section Servers

variable {s t : Server} {σ : SetRef} {r : MapRef}

theorem Server.Sound.bound_lt (h : s.Sound) (ha : s.Allocated) (hr : s.Bound r) :
    r < s.nextMap ∧ s.setOf r < s.nextSet := by
  obtain ⟨hset, hmem⟩ := h.home r hr
  have hlt := (ha.sets _ _ hset).2
  exact ⟨(ha.maps _ hlt r hmem).2, hlt⟩

-- A key that a map is bound to is one that it has.
theorem Server.Sound.cached (h : s.Sound) (hr : s.Bound r) : s.Cached r := by
  rcases hr with ⟨md5, hmd5⟩ | ⟨id, hid⟩
  · exact Or.inl ((h.byMd5 md5 r hmd5).symm ▸ hmd5)
  · exact Or.inr ((h.byId id r hid).symm ▸ hid)

theorem Server.Bound.congr (h : t.Bound r) (hcache : t.cache = s.cache) : s.Bound r := by
  unfold Server.Bound at h ⊢
  rwa [hcache] at h

-- While the cache stays as it is, it is enough that its maps keep what they are under and
-- the sets keep them.
theorem Server.Sound.keep (h : s.Sound) (hcache : t.cache = s.cache)
    (hmd5 : ∀ r, s.Bound r → (t.beatmaps r).md5 = (s.beatmaps r).md5)
    (hid : ∀ r, s.Bound r → (t.beatmaps r).id = (s.beatmaps r).id)
    (hset : ∀ r, s.Bound r → t.setOf r = s.setOf r ∧
      (t.sets (s.setOf r)).id = (s.sets (s.setOf r)).id ∧ r ∈ (t.sets (s.setOf r)).maps) :
    t.Sound := by
  constructor
  · intro md5 r hr
    rw [hcache] at hr
    rw [hmd5 r (Or.inl ⟨md5, hr⟩)]
    exact h.byMd5 md5 r hr
  · intro id r hr
    rw [hcache] at hr
    rw [hid r (Or.inr ⟨id, hr⟩)]
    exact h.byId id r hr
  · intro r hr
    have hbound := hr.congr hcache
    obtain ⟨hsetOf, hsetId, hmem⟩ := hset r hbound
    rw [hsetOf, hsetId, hcache]
    exact ⟨(h.home r hbound).1, hmem⟩

theorem Server.Sound.extend (h : s.Sound) (ha : s.Allocated) (ht : Extends s t) : t.Sound := by
  refine h.keep ht.cache ?_ ?_ ?_
  · exact fun r hr => congrArg _ (ht.beatmaps r (h.bound_lt ha hr).1)
  · exact fun r hr => congrArg _ (ht.beatmaps r (h.bound_lt ha hr).1)
  · intro r hr
    obtain ⟨hlt, hset⟩ := h.bound_lt ha hr
    rw [ht.setOf r hlt, ht.sets _ hset]
    exact ⟨rfl, rfl, (h.home r hr).2⟩

theorem Line.Fits.mono {line : Line} (h : line.Fits s) (hmap : s.nextMap ≤ t.nextMap)
    (hset : s.nextSet ≤ t.nextSet)
    (hnames : ∀ key r, line = finish key r → r < s.nextMap → key.Names (s.beatmaps r) →
      key.Names (t.beatmaps r)) : line.Fits t := by
  cases line with
  | loaded | askRefresh | replaceMapset | saveToSql | cacheSet => exact lt_of_lt_of_le h hset
  | finish key r => exact ⟨lt_of_lt_of_le h.1 hmap, hnames key r rfl h.1 h.2⟩
  | _ => trivial

theorem Line.Fits.extend {line : Line} (h : line.Fits s) (ht : Extends s t) : line.Fits t :=
  h.mono ht.nextMap ht.nextSet fun _ r _ hr hname => by rwa [ht.beatmaps r hr]

theorem Extends.refl (s : Server) : Extends s s :=
  ⟨rfl, le_rfl, le_rfl, fun _ _ => rfl, fun _ _ => rfl, fun _ _ => rfl⟩

theorem Extends.onTables (s : Server) (f : Tables → Tables) : Extends s (s.onTables f) :=
  ⟨rfl, le_rfl, le_rfl, fun _ _ => rfl, fun _ _ => rfl, fun _ _ => rfl⟩

theorem Server.newSet_spec (s : Server) (row : MapSetRow) (maps : List Beatmap)
    (ha : s.Allocated) :
    Extends s (s.newSet row maps).2 ∧ (s.newSet row maps).2.Allocated ∧
      (s.newSet row maps).1 < (s.newSet row maps).2.nextSet := by
  have h := newMaps_added s.nextSet s maps
  have hext : Extends s (s.newSet row maps).2 := by
    refine ⟨h.cache, h.nextMap, Nat.le_succ _, h.beatmaps, h.setOf, fun σ hσ => ?_⟩
    change Function.update (newMaps s.nextSet s maps).1.sets s.nextSet _ σ = _
    rw [Function.update_of_ne hσ.ne, h.sets]
  refine ⟨hext, ⟨fun σ hσ r hr => ?_, fun id σ hσ => ?_⟩, Nat.lt_succ_self _⟩
  · by_cases heq : σ = s.nextSet
    · subst heq
      change r ∈ (Function.update (newMaps s.nextSet s maps).1.sets s.nextSet _ s.nextSet).maps at hr
      rw [Function.update_self] at hr
      obtain ⟨-, hlt, hset⟩ := h.new r hr
      exact ⟨hset, hlt⟩
    · have hlt : σ < s.nextSet := lt_of_le_of_ne (Nat.lt_succ_iff.mp hσ) heq
      rw [hext.sets σ hlt] at hr
      obtain ⟨hset, hr⟩ := ha.maps σ hlt r hr
      exact ⟨(h.setOf r hr).trans hset, hr.trans_le h.nextMap⟩
  · rw [hext.cache] at hσ
    obtain ⟨hid, hlt⟩ := ha.sets id σ hσ
    rw [hext.sets σ hlt]
    exact ⟨hid, hlt.trans_le hext.nextSet⟩

end Servers

section Reconcile

variable {s : Server} {σ : SetRef} {answer : List ApiMap} (now : Int)

theorem mem_oldMaps {entry : Int × MapRef} (h : entry ∈ s.oldMaps σ) :
    entry.1 = (s.beatmaps entry.2).id ∧ entry.2 ∈ (s.sets σ).maps := by
  obtain ⟨r, hr, rfl⟩ := List.mem_map.mp (mem_of_mem_dictOf h)
  exact ⟨rfl, hr⟩

-- What the answer leaves as it is.
structure Answered (s t : Server) (σ : SetRef) (answer : List ApiMap) : Prop where
  cache : t.cache = s.cache
  nextSet : t.nextSet = s.nextSet
  nextMap : s.nextMap ≤ t.nextMap
  beatmaps : ∀ r < s.nextMap, t.beatmaps r =
    (Server.keepOld (dictOf (keyed answer)) s (s.oldMaps σ)).1.beatmaps r
  setOf : ∀ r < s.nextMap, t.setOf r = s.setOf r
  others : ∀ other, other ≠ σ → t.sets other = s.sets other
  id : (t.sets σ).id = (s.sets σ).id
  maps : ∀ r ∈ (t.sets σ).maps, r ∈ (s.sets σ).maps ∨ r < t.nextMap ∧ t.setOf r = σ
  kept : ∀ r ∈ (Server.keepOld (dictOf (keyed answer)) s (s.oldMaps σ)).2.1,
    r ∈ (t.sets σ).maps

theorem reconcile_answered : Answered s (s.reconcile σ now answer).1 σ answer := by
  obtain ⟨maps, hmaps, -⟩ := Server.keepOld_frame (dictOf (keyed answer)) s (s.oldMaps σ)
  have hsub := Server.keepOld_refs (dictOf (keyed answer)) s (s.oldMaps σ)
  have hadded := Server.newMaps_added σ (Server.keepOld (dictOf (keyed answer)) s (s.oldMaps σ)).1
    ((Server.newIn (s.oldMaps σ) (dictOf (keyed answer))).map ApiMap.newBeatmap)
  rw [← Server.addNew_eq] at hadded
  have hnextMap : (Server.keepOld (dictOf (keyed answer)) s (s.oldMaps σ)).1.nextMap = s.nextMap := by
    rw [hmaps]
  rw [Server.reconcile_eq]
  dsimp only [Server.setSet]
  constructor
  · exact hadded.cache.trans (by rw [hmaps])
  · exact hadded.nextSet.trans (by rw [hmaps])
  · exact hnextMap ▸ hadded.nextMap
  · exact fun r hr => hadded.beatmaps r (hnextMap ▸ hr)
  · exact fun r hr => (hadded.setOf r (hnextMap ▸ hr)).trans (by rw [hmaps])
  · intro other hother
    dsimp only
    rw [Function.update_of_ne hother, hadded.sets, hmaps]
  · dsimp only
    rw [Function.update_self]
  · intro r hr
    dsimp only at hr ⊢
    rw [Function.update_self] at hr
    rcases List.mem_append.mp hr with hkept | hnew
    · obtain ⟨entry, hentry, rfl⟩ := List.mem_map.mp (hsub.subset hkept)
      exact Or.inl (mem_oldMaps hentry).2
    · obtain ⟨-, hlt, hset⟩ := hadded.new r hnew
      exact Or.inr ⟨hlt, hset⟩
  · intro r hr
    dsimp only
    rw [Function.update_self]
    exact List.mem_append_left _ hr

section Facts

variable {t : Server} {r : MapRef} (ht : Answered s t σ answer)
include ht

theorem Answered.map_id (hr : r < s.nextMap) : (t.beatmaps r).id = (s.beatmaps r).id := by
  rw [ht.beatmaps r hr]
  exact (Server.keepOld_same _ s _ r).1

theorem Answered.map_md5 (hr : r < s.nextMap)
    (hsame : r ∈ (s.sets σ).maps →
      ∀ resp ∈ ((dictOf (keyed answer)).lookup (s.beatmaps r).id).toList,
        resp.fileMd5 = (s.beatmaps r).md5) :
    (t.beatmaps r).md5 = (s.beatmaps r).md5 := by
  rw [ht.beatmaps r hr]
  by_cases hmem : r ∈ (s.sets σ).maps
  · refine Server.keepOld_md5 _ s (fun entry hentry => (mem_oldMaps hentry).1) fun resp hresp => ?_
    exact hsame hmem resp (Option.mem_toList.mpr hresp)
  · obtain ⟨maps, hmaps, hframe⟩ := Server.keepOld_frame (dictOf (keyed answer)) s (s.oldMaps σ)
    rw [hmaps]
    refine congrArg _ (hframe r fun hold => ?_)
    obtain ⟨entry, hentry, rfl⟩ := List.mem_map.mp hold
    exact hmem (mem_oldMaps hentry).2

theorem Answered.allocated (ha : s.Allocated) (hσ : σ < s.nextSet) : t.Allocated := by
  constructor
  · intro other hother r hr
    rw [ht.nextSet] at hother
    by_cases heq : other = σ
    · subst heq
      rcases ht.maps r hr with hold | ⟨hlt, hset⟩
      · obtain ⟨hset, hlt⟩ := ha.maps other hσ r hold
        exact ⟨(ht.setOf r hlt).trans hset, hlt.trans_le ht.nextMap⟩
      · exact ⟨hset, hlt⟩
    · rw [ht.others other heq] at hr
      obtain ⟨hset, hlt⟩ := ha.maps other hother r hr
      exact ⟨(ht.setOf r hlt).trans hset, hlt.trans_le ht.nextMap⟩
  · intro id other hother
    rw [ht.cache] at hother
    obtain ⟨hid, hlt⟩ := ha.sets id other hother
    rw [ht.nextSet]
    refine ⟨?_, hlt⟩
    by_cases heq : other = σ
    · subst heq
      exact ht.id.trans hid
    · rw [ht.others other heq]
      exact hid

-- The cache stays sound when the answer keeps what is in it.
theorem Answered.sound {others : List (List Line)} (h : s.Sound) (ha : s.Allocated)
    (hmd5s : s.KeepsMd5s σ answer others) (hmaps : s.KeepsMaps σ answer) : t.Sound := by
  refine h.keep ht.cache ?_ ?_ ?_
  · intro r hr
    exact ht.map_md5 (h.bound_lt ha hr).1 fun hmem => hmd5s r hmem (Or.inl (h.cached hr))
  · exact fun r hr => ht.map_id (h.bound_lt ha hr).1
  · intro r hr
    refine ⟨ht.setOf r (h.bound_lt ha hr).1, ?_⟩
    have hmem := (h.home r hr).2
    by_cases heq : s.setOf r = σ
    · rw [heq] at hmem ⊢
      obtain ⟨hold, hstays⟩ := hmaps r hmem (h.cached hr)
      exact ⟨ht.id, ht.kept r (Server.mem_keepOld _ s hold hstays)⟩
    · rw [ht.others _ heq]
      exact ⟨rfl, hmem⟩

end Facts

end Reconcile

section CacheSet

variable {s : Server} {σ : SetRef}

theorem foldl_cacheBeatmap (s : Server) (refs : List MapRef) :
    refs.foldl Server.cacheBeatmap s =
      { s with
        cache :=
          { s.cache with
            byMd5 := bindAll (fun r => (s.beatmaps r).md5) s.cache.byMd5 refs
            byId := bindAll (fun r => (s.beatmaps r).id) s.cache.byId refs } } := by
  induction refs generalizing s with
  | nil => rfl
  | cons r rest ih => exact ih (s.cacheBeatmap r)

theorem cacheBeatmapSet_eq (s : Server) (σ : SetRef) :
    s.cacheBeatmapSet σ =
      { s with
        cache :=
          { byMd5 := bindAll (fun r => (s.beatmaps r).md5) s.cache.byMd5 (s.sets σ).maps
            byId := bindAll (fun r => (s.beatmaps r).id) s.cache.byId (s.sets σ).maps
            sets := Function.update s.cache.sets (s.sets σ).id (some σ) } } :=
  foldl_cacheBeatmap _ _

-- A map of the cache is one of the set that is put there, or was there under a key that no
-- map of that set has.
theorem bound_cacheBeatmapSet {r : MapRef} (hr : (s.cacheBeatmapSet σ).Bound r) :
    r ∈ (s.sets σ).maps ∨
      (∃ md5, s.cache.byMd5 md5 = some r ∧ ∀ other ∈ (s.sets σ).maps, (s.beatmaps other).md5 ≠ md5) ∨
      ∃ id, s.cache.byId id = some r ∧ ∀ other ∈ (s.sets σ).maps, (s.beatmaps other).id ≠ id := by
  rw [cacheBeatmapSet_eq] at hr
  rcases hr with ⟨md5, hmd5⟩ | ⟨id, hid⟩
  · rcases bindAll_eq_some hmd5 with ⟨hmem, -⟩ | hold
    · exact Or.inl hmem
    · exact Or.inr (Or.inl ⟨md5, hold⟩)
  · rcases bindAll_eq_some hid with ⟨hmem, -⟩ | hold
    · exact Or.inl hmem
    · exact Or.inr (Or.inr ⟨id, hold⟩)

theorem cacheBeatmapSet_sound (h : s.Sound) (ha : s.Allocated) (hσ : σ < s.nextSet)
    (htakes : s.TakesOver σ) : (s.cacheBeatmapSet σ).Sound := by
  have hbeatmaps : (s.cacheBeatmapSet σ).beatmaps = s.beatmaps := by rw [cacheBeatmapSet_eq]
  have hsetOf : (s.cacheBeatmapSet σ).setOf = s.setOf := by rw [cacheBeatmapSet_eq]
  have hsets : (s.cacheBeatmapSet σ).sets = s.sets := by rw [cacheBeatmapSet_eq]
  constructor
  · intro md5 r hr
    rw [hbeatmaps]
    rw [cacheBeatmapSet_eq] at hr
    rcases bindAll_eq_some hr with ⟨-, hmd5⟩ | ⟨hold, -⟩
    · exact hmd5
    · exact h.byMd5 md5 r hold
  · intro id r hr
    rw [hbeatmaps]
    rw [cacheBeatmapSet_eq] at hr
    rcases bindAll_eq_some hr with ⟨-, hid⟩ | ⟨hold, -⟩
    · exact hid
    · exact h.byId id r hold
  · intro r hr
    have hcacheSets : (s.cacheBeatmapSet σ).cache.sets =
        Function.update s.cache.sets (s.sets σ).id (some σ) := by rw [cacheBeatmapSet_eq]
    rw [hsetOf, hsets, hcacheSets]
    by_cases hmem : r ∈ (s.sets σ).maps
    · rw [(ha.maps σ hσ r hmem).1, Function.update_self]
      exact ⟨rfl, hmem⟩
    · have hold := (bound_cacheBeatmapSet hr).resolve_left hmem
      have hbound : s.Bound r := by
        rcases hold with ⟨md5, hmd5, -⟩ | ⟨id, hid, -⟩
        · exact Or.inl ⟨md5, hmd5⟩
        · exact Or.inr ⟨id, hid⟩
      obtain ⟨hset, hhome⟩ := h.home r hbound
      by_cases hid : (s.sets (s.setOf r)).id = (s.sets σ).id
      · -- The set that was there before has no key left.
        have hne : s.setOf r ≠ σ := by
          rintro heq
          exact hmem (heq ▸ hhome)
        rw [hid] at hset
        obtain ⟨hmd5s, hids⟩ := htakes _ (Option.mem_toList.mpr hset) hne r hhome
        exfalso
        rcases hold with ⟨md5, hmd5, hclear⟩ | ⟨id, hid, hclear⟩
        · have heq := h.byMd5 md5 r hmd5
          rw [← heq] at hmd5
          obtain ⟨bmap, hbmap, hsame⟩ := List.mem_map.mp (hmd5s hmd5)
          obtain ⟨other, hother, rfl⟩ := List.mem_map.mp hbmap
          exact hclear other hother (hsame.trans heq)
        · have heq := h.byId id r hid
          rw [← heq] at hid
          obtain ⟨bmap, hbmap, hsame⟩ := List.mem_map.mp (hids hid)
          obtain ⟨other, hother, rfl⟩ := List.mem_map.mp hbmap
          exact hclear other hother (hsame.trans heq)
      · rw [Function.update_of_ne hid]
        exact ⟨hset, hhome⟩

theorem cacheBeatmapSet_allocated (ha : s.Allocated) (hσ : σ < s.nextSet) :
    (s.cacheBeatmapSet σ).Allocated := by
  rw [cacheBeatmapSet_eq]
  refine ⟨ha.maps, fun id other hother => ?_⟩
  dsimp only at hother
  by_cases hid : id = (s.sets σ).id
  · subst hid
    rw [Function.update_self] at hother
    cases hother
    exact ⟨rfl, hσ⟩
  · rw [Function.update_of_ne hid] at hother
    exact ha.sets id other hother

end CacheSet

end BanchoPrism.Beatmaps
