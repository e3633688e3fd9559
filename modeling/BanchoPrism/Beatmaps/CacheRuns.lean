import BanchoPrism.Beatmaps.CacheSound
import BanchoPrism.Beatmaps.Reconciled

namespace BanchoPrism.Beatmaps

open Library Line

section Lines

variable {w : World} {s : Server}

-- What a line that neither refreshes nor caches a set does.
structure Quiet (w : World) (next : World × List Line) : Prop where
  server : Extends w.server next.1.server
  allocated : next.1.server.Allocated
  returned : ∀ entry ∈ next.1.returned, entry.1.Names entry.2
  lines : ∀ line ∈ next.2, line.Fits next.1.server

theorem refreshLines_fits {σ : SetRef} (hσ : σ < s.nextSet) (o : Outside) :
    ∀ line ∈ s.refreshLines σ o, line.Fits s := by
  intro line hline
  unfold Server.refreshLines at hline
  split at hline
  · rw [List.mem_singleton.mp hline]
    exact hσ
  · cases hline

theorem deleteLines_fits (md5s : List String) : ∀ line ∈ deleteLines md5s, line.Fits s := by
  intro line hline
  unfold deleteLines at hline
  split at hline
  · cases hline
  · simp only [List.mem_cons, List.not_mem_nil, or_false] at hline
    rcases hline with rfl | rfl <;> trivial

theorem returned_return {key : Key} {r : MapRef} (hw : ∀ entry ∈ w.returned, entry.1.Names entry.2)
    (hname : key.Names (w.server.beatmaps r)) :
    ∀ entry ∈ (w.return key r).returned, entry.1.Names entry.2 := by
  intro entry hentry
  rcases List.mem_append.mp hentry with hold | hnew
  · exact hw entry hold
  · rw [List.mem_singleton.mp hnew]
    exact hname

theorem Server.Sound.get (h : s.Sound) {key : Key} {r : MapRef} (hget : s.cache.get key = some r) :
    s.Bound r ∧ key.Names (s.beatmaps r) := by
  cases key with
  | md5 md5 => exact ⟨Or.inl ⟨md5, hget⟩, h.byMd5 md5 r hget⟩
  | id id => exact ⟨Or.inr ⟨id, hget⟩, h.byId id r hget⟩

theorem quiet_same (ha : w.server.Allocated) (hw : w.Sound) {lines : List Line}
    (hlines : ∀ line ∈ lines, line.Fits w.server) : Quiet w (w, lines) :=
  ⟨Extends.refl _, ha, hw.returned, hlines⟩

theorem quiet_tables (ha : w.server.Allocated) (hw : w.Sound) (f : Server → Tables → Tables) :
    Quiet w (w.on fun s => s.onTables (f s), []) :=
  ⟨Extends.onTables _ _, ⟨ha.maps, ha.sets⟩, hw.returned, fun _ h => absurd h List.not_mem_nil⟩

theorem perform_quiet {line : Line} (hw : w.Sound) (ha : w.server.Allocated)
    (hfits : line.Fits w.server) (hrefresh : ∀ σ o, line ≠ askRefresh σ o)
    (hcache : ∀ σ key, line ≠ cacheSet σ key) : Quiet w (line.perform w) := by
  have hnone : ∀ line ∈ ([] : List Line), line.Fits w.server :=
    fun _ h => absurd h List.not_mem_nil
  have hone {line : Line} (h : line.Fits w.server) : ∀ other ∈ [line], other.Fits w.server :=
    fun other hother => (List.mem_singleton.mp hother).symm ▸ h
  cases line with
  | find key setId o =>
    simp only [Line.perform]
    split
    · rename_i r hget
      obtain ⟨hbound, hname⟩ := hw.cache.get hget
      obtain ⟨hr, hset⟩ := hw.cache.bound_lt ha hbound
      refine quiet_same ha hw fun line hline => ?_
      rcases List.mem_append.mp hline with hrefresh | hfinish
      · split at hrefresh
        · exact refreshLines_fits hset o line hrefresh
        · cases hrefresh
      · rw [List.mem_singleton.mp hfinish]
        exact ⟨hr, hname⟩
    · refine quiet_same ha hw ?_
      split <;> exact hone trivial
  | fetchSetId key o =>
    simp only [Line.perform]
    split <;> exact quiet_same ha hw (hone trivial)
  | askSetId key o =>
    simp only [Line.perform]
    split
    · exact quiet_same ha hw (hone trivial)
    · exact quiet_same ha hw hnone
  | load bsid key o =>
    simp only [Line.perform]
    split
    · rename_i σ hσ
      exact quiet_same ha hw (hone (ha.sets bsid σ hσ).2)
    · exact quiet_same ha hw (hone trivial)
  | fetchMapset bsid key o =>
    simp only [Line.perform]
    split <;> exact quiet_same ha hw (hone trivial)
  | fetchMaps row key o => exact quiet_same ha hw (hone trivial)
  | build row rows key o =>
    obtain ⟨hext, hall, hlt⟩ := w.server.newSet_spec row (rows.map Beatmap.withFilename) ha
    refine ⟨hext, hall, hw.returned, fun line hline => ?_⟩
    rcases List.mem_append.mp hline with hfix | hloaded
    · obtain ⟨bmap, -, rfl⟩ := List.mem_map.mp hfix
      trivial
    · rw [List.mem_singleton.mp hloaded]
      exact hlt
  | updateFilename id filename =>
    exact quiet_tables ha hw fun _ tables => tables.updateFilename id filename
  | loaded σ key o =>
    refine quiet_same ha hw fun line hline => ?_
    rcases List.mem_append.mp hline with hrefresh | hcache
    · split at hrefresh
      · exact refreshLines_fits hfits o line hrefresh
      · cases hrefresh
    · rw [List.mem_singleton.mp hcache]
      exact hfits
  | askSet bsid key o =>
    simp only [Line.perform]
    split
    · exact quiet_same ha hw (hone trivial)
    · exact quiet_same ha hw hnone
  | fetchFrozen bsid answer key o =>
    obtain ⟨hext, hall, hlt⟩ := w.server.newSet_spec
      { id := bsid, server := .OSU, lastOsuapiCheck := o.now }
      (answer.map (ApiMap.newBeatmapOf (w.server.tables.currentMaps bsid))) ha
    refine ⟨hext, hall, hw.returned, fun line hline => ?_⟩
    change line ∈ [replaceMapset _, saveToSql _, cacheSet _ key] at hline
    simp only [List.mem_cons, List.not_mem_nil, or_false] at hline
    rcases hline with rfl | rfl | rfl <;> exact hlt
  | update bsid o =>
    simp only [Line.perform]
    split
    · rename_i σ hσ
      exact quiet_same ha hw (refreshLines_fits (ha.sets bsid σ hσ).2 o)
    · exact quiet_same ha hw hnone
  | askRefresh σ o => exact absurd rfl (hrefresh σ o)
  | deleteMaps md5s => exact quiet_tables ha hw fun _ tables => tables.deleteMaps md5s
  | deleteScores md5s => exact quiet_tables ha hw fun _ tables => tables.deleteScores md5s
  | replaceMapset σ =>
    exact quiet_tables ha hw fun s tables => tables.replaceMapset (s.mapsetRow σ)
  | deleteMapset id => exact quiet_tables ha hw fun _ tables => tables.deleteMapset id
  | saveToSql σ =>
    exact quiet_tables ha hw fun s tables => tables.saveToSql (s.rows (s.sets σ).maps)
  | cacheSet σ key => exact absurd rfl (hcache σ key)
  | finish key r =>
    exact ⟨Extends.refl _, ha, returned_return hw.returned hfits.2, hnone⟩

end Lines

structure Traffic.Sound (t : Traffic) : Prop where
  world : t.world.Sound
  allocated : t.world.server.Allocated
  lines : ∀ task ∈ t.running, ∀ line ∈ task, line.Fits t.world.server

section Steps

variable {t : Traffic} {i : Nat} {line : Line} {rest : List Line}

theorem Traffic.Sound.others (h : t.Sound) (hnext : Tasks.next t.running i = some (line, rest))
    {task : List Line} (htask : task ∈ t.running.set i rest) :
    ∀ other ∈ task, other.Fits t.world.server := by
  intro other hother
  obtain ⟨task, htask, hother⟩ := Tasks.mem_lines_of_rest hnext htask hother
  exact h.lines task htask other hother

theorem Traffic.Sound.current (h : t.Sound)
    (hnext : Tasks.next t.running i = some (line, rest)) : line.Fits t.world.server :=
  h.lines _ (Tasks.mem_of_next hnext) line List.mem_cons_self

-- The refresh: the lines of the other calls fit as before.
theorem Traffic.Sound.refresh {σ : SetRef} {o : Outside} (h : t.Sound)
    (hnext : Tasks.next t.running i = some (askRefresh σ o, rest))
    (hheeds : (askRefresh σ o).Heeds t.world (t.running.set i rest)) :
    Traffic.Sound
      { world := ((askRefresh σ o).perform t.world).1
        running := t.running.set i (((askRefresh σ o).perform t.world).2 ++ rest) } := by
  have hσ : σ < t.world.server.nextSet := h.current hnext
  simp only [Line.perform, Server.answered]
  simp only [Line.Heeds] at hheeds
  rcases hresponse : o.refresh with _ | answer | statusCode
  · refine ⟨h.world, h.allocated, fun task htask line hline => ?_⟩
    rcases Tasks.mem_lines_set hnext htask hline with hnew | ⟨task, htask, hline⟩
    · cases hnew
    · exact h.others hnext htask line hline
  · rw [hresponse] at hheeds
    obtain ⟨hmd5s, hmaps⟩ := hheeds
    have ht : Answered t.world.server (t.world.server.reconcile σ o.now answer).1 σ answer :=
      reconcile_answered o.now
    refine ⟨⟨ht.sound h.world.cache h.allocated hmd5s hmaps, h.world.returned⟩,
      ht.allocated h.allocated hσ, fun task htask line hline => ?_⟩
    rcases Tasks.mem_lines_set hnext htask hline with hnew | ⟨task, htask, hline⟩
    · rcases List.mem_append.mp hnew with hdelete | hsave
      · exact deleteLines_fits _ line hdelete
      · have hlt := hσ.trans_le ht.nextSet.ge
        simp only [List.mem_cons, List.not_mem_nil, or_false] at hsave
        rcases hsave with rfl | rfl <;> exact hlt
    · refine (h.others hnext htask line hline).mono ht.nextMap ht.nextSet.ge ?_
      rintro key r rfl hr hname
      cases key with
      | md5 md5 =>
        refine (ht.map_md5 hr fun hmem => hmd5s r hmem (Or.inr ?_)).trans hname
        exact ⟨task, htask, _, hline, decide_eq_true rfl⟩
      | id id => exact (ht.map_id hr).trans hname
  · dsimp only
    split
    · refine ⟨h.world, h.allocated, fun task htask line hline => ?_⟩
      rcases Tasks.mem_lines_set hnext htask hline with hnew | ⟨task, htask, hline⟩
      · rcases List.mem_append.mp hnew with hdelete | hset
        · exact deleteLines_fits _ line hdelete
        · rw [List.mem_singleton.mp hset]
          trivial
      · exact h.others hnext htask line hline
    · refine ⟨h.world, h.allocated, fun task htask line hline => ?_⟩
      rcases Tasks.mem_lines_set hnext htask hline with hnew | ⟨task, htask, hline⟩
      · cases hnew
      · exact h.others hnext htask line hline

theorem Traffic.Sound.cacheSet {σ : SetRef} {key : Option Key} (h : t.Sound)
    (hnext : Tasks.next t.running i = some (cacheSet σ key, rest))
    (hheeds : (Line.cacheSet σ key).Heeds t.world (t.running.set i rest)) :
    Traffic.Sound
      { world := ((Line.cacheSet σ key).perform t.world).1
        running := t.running.set i (((Line.cacheSet σ key).perform t.world).2 ++ rest) } := by
  have hσ : σ < t.world.server.nextSet := h.current hnext
  have hsound := cacheBeatmapSet_sound h.world.cache h.allocated hσ hheeds
  have hserver (w : World) : (w.returnCached key).server = w.server := by
    unfold World.returnCached
    split
    · rfl
    · split <;> rfl
  have hfits {line : Line} (hline : line.Fits t.world.server) :
      line.Fits (t.world.server.cacheBeatmapSet σ) := by
    rw [cacheBeatmapSet_eq]
    exact hline.mono le_rfl le_rfl fun _ _ _ _ hname => hname
  refine ⟨⟨?_, ?_⟩, ?_, fun task htask line hline => ?_⟩
  · simp only [Line.perform, hserver]
    exact hsound
  · simp only [Line.perform, World.returnCached]
    split
    · exact h.world.returned
    · split
      · rename_i r hget
        exact returned_return h.world.returned (hsound.get hget).2
      · exact h.world.returned
  · simp only [Line.perform, hserver]
    exact cacheBeatmapSet_allocated h.allocated hσ
  · simp only [Line.perform, hserver]
    rcases Tasks.mem_lines_set hnext htask hline with hnew | ⟨task, htask, hline⟩
    · cases hnew
    · exact hfits (h.others hnext htask line hline)

theorem Traffic.Sound.quiet (h : t.Sound) (hnext : Tasks.next t.running i = some (line, rest))
    (hrefresh : ∀ σ o, line ≠ askRefresh σ o) (hcache : ∀ σ key, line ≠ Line.cacheSet σ key) :
    Traffic.Sound
      { world := (line.perform t.world).1
        running := t.running.set i ((line.perform t.world).2 ++ rest) } := by
  have hquiet := perform_quiet h.world h.allocated (h.current hnext) hrefresh hcache
  refine ⟨⟨h.world.cache.extend h.allocated hquiet.server, hquiet.returned⟩, hquiet.allocated,
    fun task htask other hother => ?_⟩
  rcases Tasks.mem_lines_set hnext htask hother with hnew | ⟨task, htask, hother⟩
  · exact hquiet.lines other hnew
  · exact (h.others hnext htask other hother).extend hquiet.server

theorem Traffic.Sound.step (h : t.Sound) (e : Event) (hheeds : t.Heeds e) : (t.step e).Sound := by
  refine Tasks.step_keeps h (fun op => ?_) (fun i line rest hnext hline => ?_) e hheeds
  · refine ⟨h.world, h.allocated, fun task htask line hline => ?_⟩
    rcases List.mem_append.mp htask with hold | hnew
    · exact h.lines task hold line hline
    · rw [List.mem_singleton.mp hnew, List.mem_singleton] at hline
      rw [hline]
      cases op <;> trivial
  · by_cases hrefresh : ∀ σ o, line ≠ askRefresh σ o
    · by_cases hcache : ∀ σ key, line ≠ Line.cacheSet σ key
      · exact h.quiet hnext hrefresh hcache
      · push Not at hcache
        obtain ⟨σ, key, rfl⟩ := hcache
        exact h.cacheSet hnext hline
    · push Not at hrefresh
      obtain ⟨σ, o, rfl⟩ := hrefresh
      exact h.refresh hnext hline

end Steps

section Runs

-- A server that has just been started.
def started (tables : Tables) : Traffic where
  world :=
    { server :=
        { beatmaps := fun _ => Beatmap.blank 0
          setOf := fun _ => 0
          nextMap := 0
          sets := fun _ => { id := 0, server := .OSU, maps := [], lastOsuapiCheck := 0 }
          nextSet := 0
          tables := tables
          cache := { byMd5 := fun _ => none, byId := fun _ => none, sets := fun _ => none } }
      returned := [] }
  running := []

theorem started_sound (tables : Tables) : (started tables).Sound where
  world :=
    { cache :=
        { byMd5 := fun _ _ h => absurd h (Option.some_ne_none _).symm
          byId := fun _ _ h => absurd h (Option.some_ne_none _).symm
          home := fun _ h => h.elim (fun ⟨_, h⟩ => absurd h (Option.some_ne_none _).symm)
            fun ⟨_, h⟩ => absurd h (Option.some_ne_none _).symm }
      returned := fun _ h => absurd h List.not_mem_nil }
  allocated :=
    { maps := fun _ h => absurd h (Nat.not_lt_zero _)
      sets := fun _ _ h => absurd h (Option.some_ne_none _).symm }
  lines := fun _ h => absurd h List.not_mem_nil

-- In every state that a run reaches whose answers keep what is in the cache, the cache is
-- sound, and so is what the calls have returned.
theorem sound_of_heeds (tables : Tables) {run : List Event}
    (hg : Guarded Traffic.step Traffic.Heeds (started tables) run) :
    (runFrom Traffic.step (started tables) run).world.Sound :=
  (hg.invariant Traffic.Sound (fun _ e h hheeds => h.step e hheeds) (started_sound tables)).world

-- A set of two maps that the tables have.
def stored : Tables where
  maps := [(apiMap 1 7 "a" 1).newBeatmap, (apiMap 2 7 "b" 1).newBeatmap]
  mapsets := [{ id := 7, server := .OSU, lastOsuapiCheck := 0 }]
  scores := []

def unheard : Outside where
  expired := false
  now := 0
  lookup := .failed
  set := .failed
  refresh := .failed

def call (i : Nat) (op : Op) : List Event := .begin op :: List.replicate 10 (.resume i)

-- Map 1 is looked up, and once the set has expired map 2, which osu! has changed.
def superseded : List Event :=
  call 0 (.fromMd5 "a" 0 unheard) ++
    call 1 (.fromBid 2
      { unheard with
        expired := true, now := 9, refresh := .data [apiMap 1 7 "a" 1, apiMap 2 7 "c" 1] }) ++
    call 2 (.fromMd5 "b" 0 unheard)

-- The set is refreshed before it is in the cache.
def refreshedFirst : List Event :=
  call 0 (.fromMd5 "c" 7
    { unheard with
      expired := true, now := 9
      refresh := .data [apiMap 1 7 "a" 1, apiMap 2 7 "c" 1, apiMap 3 7 "d" 1] }) ++
    call 1 (.fromBid 3 unheard) ++ call 2 (.fromMd5 "b" 7 unheard)

theorem sound_refreshedFirst :
    (runFrom Traffic.step (started stored) refreshedFirst).world.Sound ∧
      (runFrom Traffic.step (started stored) refreshedFirst).world.returned.length = 2 :=
  ⟨sound_of_heeds stored (by decide), by decide⟩

-- The map that is returned for the md5 b has the md5 c.
theorem not_sound_superseded :
    ¬∀ (tables : Tables) (run : List Event),
      (runFrom Traffic.step (started tables) run).world.Sound := by
  intro h
  have hreturned := (h stored superseded).returned
  have hentry : (Key.md5 "b", (apiMap 2 7 "c" 1).newBeatmap) ∈
      (runFrom Traffic.step (started stored) superseded).world.returned := by decide +kernel
  exact absurd (hreturned _ hentry) (by decide)

end Runs

end BanchoPrism.Beatmaps
