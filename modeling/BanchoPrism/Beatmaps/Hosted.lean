import BanchoPrism.Beatmaps.CacheRuns

namespace BanchoPrism.Beatmaps

open Library Line

-- PRIVATE_BEATMAP_ID_FLOOR: osu!'s own ids stay below it.
def privateBeatmapIdFloor : Int := 2000000000

def privateMapsets (mapsets : List MapSetRow) : List MapSetRow :=
  mapsets.filter fun row => row.server = .PRIVATE

def Tables.privateMd5s (t : Tables) : List String := (privateMaps t.maps).map Beatmap.md5

-- The scores on the maps that some tables host.
def Tables.hostedScores (t : Tables) (scores : List ScoreRow) : List ScoreRow :=
  scores.filter fun row => row.mapMd5 ∈ t.privateMd5s

-- What submissions leave: ids of the private range, and a file name.
structure Tables.Hosting (t : Tables) : Prop where
  maps : Unique Beatmap.id Beatmap.md5 t.maps
  mapsets : (t.mapsets.map MapSetRow.id).Nodup
  ids : ∀ row ∈ privateMaps t.maps, privateBeatmapIdFloor ≤ row.id
  filenames : ∀ row ∈ privateMaps t.maps, row.filename ≠ ""

def Response.maps : Response → List ApiMap
  | .data maps => maps
  | _ => []

def Op.outside : Op → Outside
  | .fromMd5 _ _ o | .fromBid _ o | .fromBsid _ o | .update _ o => o

-- osu!api answers with maps of its own.
def Outside.Official (t : Tables) (o : Outside) : Prop :=
  ∀ resp ∈ o.set.maps ++ o.refresh.maps,
    resp.beatmapId < privateBeatmapIdFloor ∧ resp.fileMd5 ∉ t.privateMd5s

def Official (t : Tables) : Event → Prop
  | .begin op => op.outside.Official t
  | .resume _ => True

instance (t : Tables) (o : Outside) : Decidable (o.Official t) := by
  unfold Outside.Official
  infer_instance

instance (t : Tables) (e : Event) : Decidable (Official t e) := by
  cases e <;> unfold Official <;> infer_instance

-- What the tables keep of the ones they come from.
structure Keeps (t₀ t : Tables) : Prop where
  unique : Unique Beatmap.id Beatmap.md5 t.maps
  maps : ∀ row : Beatmap, row.server = .PRIVATE → (row ∈ t.maps ↔ row ∈ t₀.maps)
  ids : (t.mapsets.map MapSetRow.id).Nodup
  mapsets : ∀ row : MapSetRow, row.server = .PRIVATE → (row ∈ t.mapsets ↔ row ∈ t₀.mapsets)
  scores : t₀.hostedScores t.scores = t₀.hostedScores t₀.scores

-- A map is a private row as it is, or one of osu! that has neither its id nor its md5.
def Beatmap.Stands (t₀ : Tables) (bmap : Beatmap) : Prop :=
  bmap ∈ privateMaps t₀.maps ∨
    bmap.server = .OSU ∧ ∀ row ∈ privateMaps t₀.maps, row.id ≠ bmap.id ∧ row.md5 ≠ bmap.md5

def Apart (t₀ : Tables) (id : Int) : Prop := ∀ row ∈ privateMapsets t₀.mapsets, row.id ≠ id

theorem mem_privateMapsets {mapsets : List MapSetRow} {row : MapSetRow} :
    row ∈ privateMapsets mapsets ↔ row ∈ mapsets ∧ row.server = .PRIVATE := by
  simp only [privateMapsets, List.mem_filter, decide_eq_true_eq]

section Tables

variable {t₀ t : Tables}

theorem Tables.Hosting.keeps (h : t₀.Hosting) : Keeps t₀ t₀ :=
  ⟨h.maps, fun _ _ => Iff.rfl, h.mapsets, fun _ _ => Iff.rfl, rfl⟩

theorem Keeps.mem (h : Keeps t₀ t) {row : Beatmap} (hrow : row ∈ privateMaps t₀.maps) :
    row ∈ t.maps := by
  obtain ⟨hmem, hserver⟩ := mem_privateMaps.mp hrow
  exact (h.maps row hserver).mpr hmem

-- What is read from the maps table stands.
theorem Keeps.stands (h : Keeps t₀ t) {row : Beatmap} (hrow : row ∈ t.maps) : row.Stands t₀ := by
  by_cases hserver : row.server = .PRIVATE
  · exact Or.inl (mem_privateMaps.mpr ⟨(h.maps row hserver).mp hrow, hserver⟩)
  · refine Or.inr ⟨not_not.mp (mt not_osu.mp hserver), fun other hother => ?_⟩
    have hmem := h.mem hother
    have hprivate := (mem_privateMaps.mp hother).2
    constructor
    · intro hid
      exact hserver (h.unique.eq_of_first hmem hrow hid ▸ hprivate)
    · intro hmd5
      exact hserver (h.unique.eq_of_second hmem hrow hmd5 ▸ hprivate)

theorem Keeps.apart (h : Keeps t₀ t) {row : MapSetRow} (hrow : row ∈ t.mapsets)
    (hserver : row.server = .OSU) : Apart t₀ row.id := by
  intro other hother hid
  obtain ⟨hmem, hprivate⟩ := mem_privateMapsets.mp hother
  have hsame := List.inj_on_of_nodup_map h.ids ((h.mapsets other hprivate).mpr hmem) hrow hid
  rw [hsame, hserver] at hprivate
  cases hprivate

theorem Keeps.apart_of_absent (h : Keeps t₀ t) {id : Int}
    (habsent : ∀ row ∈ t.mapsets, row.id ≠ id) : Apart t₀ id := by
  intro row hrow
  obtain ⟨hmem, hprivate⟩ := mem_privateMapsets.mp hrow
  exact habsent row ((h.mapsets row hprivate).mpr hmem)

theorem Beatmap.Stands.md5 {bmap : Beatmap} (h : bmap.Stands t₀) (hserver : bmap.server = .OSU) :
    bmap.md5 ∉ t₀.privateMd5s := by
  intro hmem
  obtain ⟨row, hrow, hmd5⟩ := List.mem_map.mp hmem
  rcases h with hprivate | ⟨-, hclear⟩
  · rw [(mem_privateMaps.mp hprivate).2] at hserver
    cases hserver
  · exact (hclear row hrow).2 hmd5

theorem Keeps.replaceInto (h : Keeps t₀ t) {bmap : Beatmap} (hstands : bmap.Stands t₀) :
    Keeps t₀ { t with maps := Library.replaceInto Beatmap.id Beatmap.md5 t.maps bmap } := by
  refine ⟨h.unique.replaceInto bmap, fun row hserver => ?_, h.ids, h.mapsets, h.scores⟩
  rw [mem_replaceInto]
  constructor
  · rintro (rfl | ⟨hrow, -⟩)
    · rcases hstands with hprivate | ⟨hosu, -⟩
      · exact (mem_privateMaps.mp hprivate).1
      · rw [hserver] at hosu
        cases hosu
    · exact (h.maps row hserver).mp hrow
  · intro hrow
    have hprivate := mem_privateMaps.mpr ⟨hrow, hserver⟩
    have hmem := h.mem hprivate
    by_cases heq : row = bmap
    · exact Or.inl heq
    · refine Or.inr ⟨hmem, ?_⟩
      rcases hstands with hsame | ⟨-, hclear⟩
      · have hother := h.mem hsame
        exact ⟨fun hid => heq (h.unique.eq_of_first hmem hother hid),
          fun hmd5 => heq (h.unique.eq_of_second hmem hother hmd5)⟩
      · exact hclear row hprivate

theorem Keeps.saveToSql (h : Keeps t₀ t) {rows : List Beatmap}
    (hrows : ∀ row ∈ rows, row.Stands t₀) : Keeps t₀ (t.saveToSql rows) := by
  induction rows generalizing t with
  | nil => exact h
  | cons row rest ih =>
    have hrow := h.replaceInto (hrows row List.mem_cons_self)
    exact ih hrow fun other hother => hrows other (List.mem_cons_of_mem row hother)

theorem Keeps.deleteMaps (h : Keeps t₀ t) (md5s : List String) : Keeps t₀ (t.deleteMaps md5s) := by
  refine ⟨h.unique.filter _, fun row hserver => ?_, h.ids, h.mapsets, h.scores⟩
  have hne : ¬row.server = .OSU := not_osu.mpr hserver
  simp only [Tables.deleteMaps, List.mem_filter, hne, and_false, not_false_eq_true, decide_true,
    and_true]
  exact h.maps row hserver

theorem Keeps.deleteScores (h : Keeps t₀ t) {md5s : List String}
    (hclear : ∀ md5 ∈ md5s, md5 ∉ t₀.privateMd5s) : Keeps t₀ (t.deleteScores md5s) := by
  refine ⟨h.unique, h.maps, h.ids, h.mapsets, ?_⟩
  rw [← h.scores]
  change t₀.hostedScores (t.scores.filter _) = _
  rw [Tables.hostedScores, List.filter_filter]
  refine List.filter_congr fun row _ => ?_
  by_cases hhosted : row.mapMd5 ∈ t₀.privateMd5s
  · have hkept : row.mapMd5 ∉ md5s := fun hmem => hclear _ hmem hhosted
    simp [hhosted, hkept]
  · simp [hhosted]

theorem Keeps.updateFilename (h : Keeps t₀ t) {id : Int} (filename : String)
    (hclear : ∀ row ∈ privateMaps t₀.maps, row.id ≠ id) :
    Keeps t₀ (t.updateFilename id filename) := by
  have hsame (row : Beatmap) :
      (if row.id = id then { row with filename := filename } else row).id = row.id ∧
        (if row.id = id then { row with filename := filename } else row).md5 = row.md5 ∧
          (if row.id = id then { row with filename := filename } else row).server = row.server := by
    split <;> exact ⟨rfl, rfl, rfl⟩
  refine ⟨h.unique.map (fun row => (hsame row).1) fun row => (hsame row).2.1, fun row hserver => ?_,
    h.ids, h.mapsets, h.scores⟩
  rw [← h.maps row hserver, Tables.updateFilename, List.mem_map]
  constructor
  · rintro ⟨old, hold, rfl⟩
    rw [(hsame old).2.2] at hserver
    have hprivate := mem_privateMaps.mpr ⟨(h.maps old hserver).mp hold, hserver⟩
    rwa [if_neg (hclear old hprivate)]
  · intro hrow
    have hprivate := mem_privateMaps.mpr ⟨(h.maps row hserver).mp hrow, hserver⟩
    exact ⟨row, hrow, if_neg (hclear row hprivate)⟩

theorem Keeps.replaceMapset (h : Keeps t₀ t) {row : MapSetRow} (hserver : row.server = .OSU)
    (hapart : Apart t₀ row.id) : Keeps t₀ (t.replaceMapset row) := by
  refine ⟨h.unique, h.maps, ?_, fun other hprivate => ?_, h.scores⟩
  · refine nodup_map_append (h.ids.sublist (List.filter_sublist.map _)) fun other hother => ?_
    exact of_decide_eq_true (List.mem_filter.mp hother).2
  · simp only [Tables.replaceMapset, List.mem_append, List.mem_filter, List.mem_singleton,
      decide_eq_true_eq]
    rw [← h.mapsets other hprivate]
    constructor
    · rintro (⟨hmem, -⟩ | rfl)
      · exact hmem
      · rw [hserver] at hprivate
        cases hprivate
    · intro hmem
      exact Or.inl ⟨hmem, hapart other
        (mem_privateMapsets.mpr ⟨(h.mapsets other hprivate).mp hmem, hprivate⟩)⟩

theorem Keeps.deleteMapset (h : Keeps t₀ t) (id : Int) : Keeps t₀ (t.deleteMapset id) := by
  refine ⟨h.unique, h.maps, h.ids.sublist (List.filter_sublist.map _), fun row hserver => ?_,
    h.scores⟩
  have hne : ¬row.server = .OSU := not_osu.mpr hserver
  simp only [Tables.deleteMapset, List.mem_filter, hne, and_false, not_false_eq_true, decide_true,
    and_true]
  exact h.mapsets row hserver

end Tables

section Servers

variable {t₀ : Tables}

structure Server.Hosts (t₀ : Tables) (s : Server) : Prop where
  tables : Keeps t₀ s.tables
  beatmaps : ∀ r < s.nextMap, (s.beatmaps r).Stands t₀
  homes : ∀ r < s.nextMap, s.setOf r < s.nextSet
  sets : ∀ σ < s.nextSet, ((s.sets σ).server = .OSU → Apart t₀ (s.sets σ).id) ∧
    ∀ r ∈ (s.sets σ).maps, r < s.nextMap
  cached : ∀ r, s.Bound r → r < s.nextMap
  cachedSets : ∀ id σ, s.cache.sets id = some σ → σ < s.nextSet

-- Sets are only added, and none changes where it is hosted.
structure Later (s t : Server) : Prop where
  nextSet : s.nextSet ≤ t.nextSet
  servers : ∀ σ < s.nextSet, (t.sets σ).server = (s.sets σ).server

theorem Later.refl (s : Server) : Later s s := ⟨le_rfl, fun _ _ => rfl⟩

theorem Server.Hosts.onTables {s : Server} (h : s.Hosts t₀) {f : Tables → Tables}
    (hf : Keeps t₀ (f s.tables)) : (s.onTables f).Hosts t₀ :=
  ⟨hf, h.beatmaps, h.homes, h.sets, h.cached, h.cachedSets⟩

theorem Server.Hosts.rows {s : Server} (h : s.Hosts t₀) {σ : SetRef} (hσ : σ < s.nextSet) :
    ∀ row ∈ s.rows (s.sets σ).maps, row.Stands t₀ := by
  intro row hrow
  obtain ⟨r, hr, rfl⟩ := List.mem_map.mp hrow
  exact h.beatmaps r ((h.sets σ hσ).2 r hr)

theorem newMaps_stands (σ : SetRef) {s : Server} {maps : List Beatmap}
    (hs : ∀ r < s.nextMap, (s.beatmaps r).Stands t₀) (hmaps : ∀ bmap ∈ maps, bmap.Stands t₀) :
    ∀ r < (Server.newMaps σ s maps).1.nextMap,
      ((Server.newMaps σ s maps).1.beatmaps r).Stands t₀ := by
  induction maps generalizing s with
  | nil => exact hs
  | cons bmap rest ih =>
    refine @ih (s.newMap σ bmap).2 (fun r hr => ?_) fun other hother =>
      hmaps other (List.mem_cons_of_mem bmap hother)
    by_cases heq : r = s.nextMap
    · subst heq
      change (Function.update s.beatmaps s.nextMap bmap s.nextMap).Stands t₀
      rw [Function.update_self]
      exact hmaps bmap List.mem_cons_self
    · change (Function.update s.beatmaps s.nextMap bmap r).Stands t₀
      rw [Function.update_of_ne heq]
      exact hs r (lt_of_le_of_ne (Nat.lt_succ_iff.mp hr) heq)

theorem newMaps_homes {σ n : SetRef} (hσ : σ < n) {s : Server} (maps : List Beatmap)
    (hs : ∀ r < s.nextMap, s.setOf r < n) :
    ∀ r < (Server.newMaps σ s maps).1.nextMap, (Server.newMaps σ s maps).1.setOf r < n := by
  induction maps generalizing s with
  | nil => exact hs
  | cons bmap rest ih =>
    refine @ih (s.newMap σ bmap).2 fun r hr => ?_
    change Function.update s.setOf s.nextMap σ r < n
    by_cases heq : r = s.nextMap
    · subst heq
      rw [Function.update_self]
      exact hσ
    · rw [Function.update_of_ne heq]
      exact hs r (lt_of_le_of_ne (Nat.lt_succ_iff.mp hr) heq)

theorem Server.Hosts.newSet {s : Server} (h : s.Hosts t₀) (row : MapSetRow) (maps : List Beatmap)
    (hrow : row.server = .OSU → Apart t₀ row.id) (hmaps : ∀ bmap ∈ maps, bmap.Stands t₀) :
    (s.newSet row maps).2.Hosts t₀ ∧ Later s (s.newSet row maps).2 ∧
      (s.newSet row maps).1 < (s.newSet row maps).2.nextSet ∧
      ((s.newSet row maps).2.sets (s.newSet row maps).1).server = row.server := by
  have hadded := newMaps_added s.nextSet s maps
  have hold : ∀ σ < s.nextSet, (s.newSet row maps).2.sets σ = s.sets σ := by
    intro σ hσ
    change Function.update (newMaps s.nextSet s maps).1.sets s.nextSet _ σ = _
    rw [Function.update_of_ne hσ.ne, hadded.sets]
  have hnew : (s.newSet row maps).2.sets s.nextSet =
      { id := row.id, server := row.server, maps := (newMaps s.nextSet s maps).2
        lastOsuapiCheck := row.lastOsuapiCheck } := Function.update_self _ _ _
  refine ⟨⟨?_, ?_, ?_, ?_, ?_, ?_⟩, ⟨Nat.le_succ _, fun σ hσ => by rw [hold σ hσ]⟩,
    Nat.lt_succ_self _, ?_⟩
  · change Keeps t₀ (newMaps s.nextSet s maps).1.tables
    rw [hadded.tables]
    exact h.tables
  · exact newMaps_stands s.nextSet h.beatmaps hmaps
  · exact newMaps_homes (Nat.lt_succ_self _) maps fun r hr => (h.homes r hr).trans (Nat.lt_succ_self _)
  · intro σ hσ
    by_cases heq : σ = s.nextSet
    · subst heq
      rw [hnew]
      exact ⟨hrow, fun r hr => (hadded.new r hr).2.1⟩
    · have hlt := lt_of_le_of_ne (Nat.lt_succ_iff.mp hσ) heq
      rw [hold σ hlt]
      exact ⟨(h.sets σ hlt).1, fun r hr => ((h.sets σ hlt).2 r hr).trans_le hadded.nextMap⟩
  · intro r hr
    have hbound : s.Bound r := hr.congr hadded.cache
    exact (h.cached r hbound).trans_le hadded.nextMap
  · intro id σ hσ
    have hcache : (s.newSet row maps).2.cache = s.cache := hadded.cache
    rw [hcache] at hσ
    exact (h.cachedSets id σ hσ).trans (Nat.lt_succ_self _)
  · change ((s.newSet row maps).2.sets s.nextSet).server = _
    rw [hnew]

theorem Server.Hosts.cacheBeatmapSet {s : Server} (h : s.Hosts t₀) {σ : SetRef}
    (hσ : σ < s.nextSet) : (s.cacheBeatmapSet σ).Hosts t₀ ∧ Later s (s.cacheBeatmapSet σ) := by
  have hbound (r : MapRef) (hr : (s.cacheBeatmapSet σ).Bound r) : r < s.nextMap := by
    rcases bound_cacheBeatmapSet hr with hmem | ⟨md5, hmd5, -⟩ | ⟨id, hid, -⟩
    · exact (h.sets σ hσ).2 r hmem
    · exact h.cached r (Or.inl ⟨md5, hmd5⟩)
    · exact h.cached r (Or.inr ⟨id, hid⟩)
  rw [cacheBeatmapSet_eq] at hbound ⊢
  refine ⟨⟨h.tables, h.beatmaps, h.homes, h.sets, hbound, fun id other hother => ?_⟩,
    ⟨le_rfl, fun _ _ => rfl⟩⟩
  dsimp only at hother
  by_cases hid : id = (s.sets σ).id
  · subst hid
    rw [Function.update_self] at hother
    cases hother
    exact hσ
  · rw [Function.update_of_ne hid] at hother
    exact h.cachedSets id other hother

-- What osu! says of an id below the private range is said of a map of its own.
theorem updated_stands (hids : ∀ row ∈ privateMaps t₀.maps, privateBeatmapIdFloor ≤ row.id)
    {bmap : Beatmap} (h : bmap.Stands t₀) {resp : ApiMap} (hid : resp.beatmapId = bmap.id)
    (hlow : resp.beatmapId < privateBeatmapIdFloor) (hmd5 : resp.fileMd5 ∉ t₀.privateMd5s) :
    (bmap.updated resp).Stands t₀ := by
  rcases h with hprivate | ⟨hserver, hclear⟩
  · have hge := hids bmap hprivate
    omega
  · refine Or.inr ⟨(updated_server bmap resp).trans hserver, fun row hrow => ?_⟩
    rw [updated_id, updated_md5]
    exact ⟨(hclear row hrow).1, fun heq => hmd5 (heq ▸ List.mem_map_of_mem hrow)⟩

theorem new_stands (hids : ∀ row ∈ privateMaps t₀.maps, privateBeatmapIdFloor ≤ row.id)
    {bmap : Beatmap} (hserver : bmap.server = .OSU) (hlow : bmap.id < privateBeatmapIdFloor)
    (hmd5 : bmap.md5 ∉ t₀.privateMd5s) : bmap.Stands t₀ := by
  refine Or.inr ⟨hserver, fun row hrow => ⟨?_, fun heq => ?_⟩⟩
  · have hge := hids row hrow
    omega
  · exact hmd5 (heq ▸ List.mem_map_of_mem hrow)

-- The maps that are kept stand, and so did those that are gone.
theorem keepOld_stands (newMaps : List (Int × ApiMap)) (s : Server) {n : MapRef}
    {entries : List (Int × MapRef)}
    (hids : ∀ entry ∈ entries, entry.1 = (s.beatmaps entry.2).id ∧ entry.2 < n)
    (hs : ∀ r < n, (s.beatmaps r).Stands t₀)
    (hupdated : ∀ bmap : Beatmap, bmap.Stands t₀ → ∀ resp, newMaps.lookup bmap.id = some resp →
      (bmap.updated resp).Stands t₀) :
    (∀ r < n, ((Server.keepOld newMaps s entries).1.beatmaps r).Stands t₀) ∧
      ∀ md5 ∈ (Server.keepOld newMaps s entries).2.2, md5 ∉ t₀.privateMd5s := by
  induction entries generalizing s with
  | nil => exact ⟨hs, fun _ h => absurd h List.not_mem_nil⟩
  | cons entry rest ih =>
    obtain ⟨oldId, r⟩ := entry
    obtain ⟨hid, hr⟩ := hids _ List.mem_cons_self
    have hrest : ∀ entry ∈ rest, entry.1 = (s.beatmaps entry.2).id ∧ entry.2 < n :=
      fun entry hentry => hids entry (List.mem_cons_of_mem _ hentry)
    dsimp only at hid hr
    rcases hlookup : newMaps.lookup oldId with _ | resp
    · by_cases hserver : (s.beatmaps r).server = .OSU
      · rw [Server.keepOld_gone newMaps s r rest hlookup hserver]
        obtain ⟨hmaps, hdeleted⟩ := ih s hrest hs
        exact ⟨hmaps, List.forall_mem_cons.mpr ⟨(hs r hr).md5 hserver, hdeleted⟩⟩
      · rw [Server.keepOld_hosted newMaps s r rest hlookup hserver]
        exact ih s hrest hs
    · rw [Server.keepOld_known newMaps s r rest hlookup]
      refine ih _ (fun entry hentry => ?_) fun other hother => ?_
      · rw [(s.setBeatmap_updated_same r entry.2 resp).1]
        exact hrest entry hentry
      · by_cases heq : other = r
        · subst heq
          rw [Server.setBeatmap_beatmaps]
          exact hupdated _ (hs other hother) resp (hid ▸ hlookup)
        · rw [s.setBeatmap_of_ne _ heq]
          exact hs other hother

theorem lookup_dictOf {answer : List ApiMap} {id : Int} {resp : ApiMap}
    (h : (dictOf (keyed answer)).lookup id = some resp) : resp ∈ answer ∧ resp.beatmapId = id := by
  obtain ⟨first, second, hsplit, -⟩ := List.lookup_eq_some_iff.mp h
  have hentry := mem_of_mem_dictOf (hsplit ▸ List.mem_append_right first List.mem_cons_self)
  obtain ⟨other, hother, heq⟩ := List.mem_map.mp hentry
  obtain ⟨rfl, rfl⟩ := Prod.mk.inj heq
  exact ⟨hother, rfl⟩

theorem Server.Hosts.reconcile {s : Server} (h : s.Hosts t₀)
    (hids : ∀ row ∈ privateMaps t₀.maps, privateBeatmapIdFloor ≤ row.id) {σ : SetRef}
    (hσ : σ < s.nextSet) (now : Int) {answer : List ApiMap}
    (hanswer : ∀ resp ∈ answer,
      resp.beatmapId < privateBeatmapIdFloor ∧ resp.fileMd5 ∉ t₀.privateMd5s) :
    (s.reconcile σ now answer).1.Hosts t₀ ∧ Later s (s.reconcile σ now answer).1 ∧
      ∀ md5 ∈ (s.reconcile σ now answer).2, md5 ∉ t₀.privateMd5s := by
  have hentries : ∀ entry ∈ s.oldMaps σ, entry.1 = (s.beatmaps entry.2).id ∧ entry.2 < s.nextMap := by
    intro entry hentry
    obtain ⟨hid, hmem⟩ := mem_oldMaps hentry
    exact ⟨hid, (h.sets σ hσ).2 _ hmem⟩
  obtain ⟨hkept, hdeleted⟩ := keepOld_stands (dictOf (keyed answer)) s hentries h.beatmaps
    fun bmap hbmap resp hresp => by
      obtain ⟨hmem, hid⟩ := lookup_dictOf hresp
      exact updated_stands hids hbmap hid (hanswer resp hmem).1 (hanswer resp hmem).2
  obtain ⟨maps, hmaps, -⟩ := keepOld_frame (dictOf (keyed answer)) s (s.oldMaps σ)
  have hnextMap : (keepOld (dictOf (keyed answer)) s (s.oldMaps σ)).1.nextMap = s.nextMap := by
    rw [hmaps]
  have hsetOf : (keepOld (dictOf (keyed answer)) s (s.oldMaps σ)).1.setOf = s.setOf := by rw [hmaps]
  have hans : Answered s (s.reconcile σ now answer).1 σ answer := reconcile_answered now
  have hadded := newMaps_added σ (keepOld (dictOf (keyed answer)) s (s.oldMaps σ)).1
    ((newIn (s.oldMaps σ) (dictOf (keyed answer))).map ApiMap.newBeatmap)
  have hnew : ∀ bmap ∈ (newIn (s.oldMaps σ) (dictOf (keyed answer))).map ApiMap.newBeatmap,
      bmap.Stands t₀ := by
    intro bmap hbmap
    obtain ⟨resp, hresp, rfl⟩ := List.mem_map.mp hbmap
    obtain ⟨entry, hentry, rfl⟩ := List.mem_map.mp hresp
    obtain ⟨other, hother, rfl⟩ := List.mem_map.mp
      (mem_of_mem_dictOf (List.mem_filter.mp hentry).1)
    exact new_stands hids rfl (hanswer other hother).1 (hanswer other hother).2
  rw [← hnextMap] at hkept
  have hstands := newMaps_stands σ hkept hnew
  have hhomes := newMaps_homes hσ ((newIn (s.oldMaps σ) (dictOf (keyed answer))).map
    ApiMap.newBeatmap) fun r hr => hsetOf ▸ h.homes r (hnextMap ▸ hr)
  rw [← addNew_eq] at hadded hstands hhomes
  have hserver : ((s.reconcile σ now answer).1.sets σ).server = (s.sets σ).server := by
    rw [reconcile_eq]
    simp only [setSet, Function.update_self]
  refine ⟨⟨?_, hstands, ?_, ?_, ?_, ?_⟩, ⟨hans.nextSet.ge, ?_⟩, hdeleted⟩
  · have htables : (s.reconcile σ now answer).1.tables = s.tables :=
      hadded.tables.trans (by rw [hmaps])
    rw [htables]
    exact h.tables
  · rw [hans.nextSet]
    exact hhomes
  · intro other hother
    rw [hans.nextSet] at hother
    by_cases heq : other = σ
    · subst heq
      rw [hserver, hans.id]
      refine ⟨(h.sets other hσ).1, fun r hr => ?_⟩
      rcases hans.maps r hr with hold | ⟨hlt, -⟩
      · exact ((h.sets other hσ).2 r hold).trans_le hans.nextMap
      · exact hlt
    · rw [hans.others other heq]
      exact ⟨(h.sets other hother).1, fun r hr => ((h.sets other hother).2 r hr).trans_le hans.nextMap⟩
  · intro r hr
    exact (h.cached r (hr.congr hans.cache)).trans_le hans.nextMap
  · intro id other hother
    rw [hans.cache] at hother
    rw [hans.nextSet]
    exact h.cachedSets id other hother
  · intro other hother
    by_cases heq : other = σ
    · subst heq
      exact hserver
    · rw [hans.others other heq]

end Servers

section Lines

variable {t₀ : Tables} {s : Server} {w : World}

def Line.Spares (t₀ : Tables) (s : Server) : Line → Prop
  | find _ _ o | fetchSetId _ o | askSetId _ o | load _ _ o | fetchMapset _ _ o
  | Line.update _ o => o.Official t₀
  | fetchMaps row _ o => (row.server = .OSU → Apart t₀ row.id) ∧ o.Official t₀
  | build row rows _ o =>
      (row.server = .OSU → Apart t₀ row.id) ∧ (∀ bmap ∈ rows, bmap.Stands t₀) ∧ o.Official t₀
  | updateFilename id _ => ∀ row ∈ privateMaps t₀.maps, row.id ≠ id
  | loaded σ _ o => σ < s.nextSet ∧ o.Official t₀
  | askSet bsid _ o => Apart t₀ bsid ∧ o.Official t₀
  | fetchFrozen bsid answer _ _ =>
      Apart t₀ bsid ∧ ∀ resp ∈ answer,
        resp.beatmapId < privateBeatmapIdFloor ∧ resp.fileMd5 ∉ t₀.privateMd5s
  | askRefresh σ o => (σ < s.nextSet ∧ (s.sets σ).server = .OSU) ∧ o.Official t₀
  | deleteScores md5s => ∀ md5 ∈ md5s, md5 ∉ t₀.privateMd5s
  | replaceMapset σ => σ < s.nextSet ∧ (s.sets σ).server = .OSU
  | saveToSql σ | cacheSet σ _ => σ < s.nextSet
  | deleteMaps _ | deleteMapset _ | finish _ _ => True

theorem Line.Spares.later {line : Line} (h : line.Spares t₀ s) {t : Server} (ht : Later s t) :
    line.Spares t₀ t := by
  have hosu {σ : SetRef} (hσ : σ < s.nextSet ∧ (s.sets σ).server = .OSU) :
      σ < t.nextSet ∧ (t.sets σ).server = .OSU :=
    ⟨hσ.1.trans_le ht.nextSet, (ht.servers σ hσ.1).trans hσ.2⟩
  cases line with
  | loaded σ key o => exact ⟨h.1.trans_le ht.nextSet, h.2⟩
  | askRefresh σ o => exact ⟨hosu h.1, h.2⟩
  | replaceMapset σ => exact hosu h
  | saveToSql σ | cacheSet σ key => exact lt_of_lt_of_le h ht.nextSet
  | _ => exact h

-- What a line leaves: the server, and the lines that it turns into.
structure Spared (t₀ : Tables) (w : World) (next : World × List Line) : Prop where
  server : next.1.server.Hosts t₀
  later : Later w.server next.1.server
  lines : ∀ line ∈ next.2, line.Spares t₀ next.1.server

theorem spared_same (h : w.server.Hosts t₀) {lines : List Line}
    (hlines : ∀ line ∈ lines, line.Spares t₀ w.server) : Spared t₀ w (w, lines) :=
  ⟨h, Later.refl _, hlines⟩

theorem spared_none (h : w.server.Hosts t₀) : Spared t₀ w (w, []) :=
  spared_same h fun _ hline => absurd hline List.not_mem_nil

theorem spared_one (h : w.server.Hosts t₀) {line : Line} (hline : line.Spares t₀ w.server) :
    Spared t₀ w (w, [line]) :=
  spared_same h fun _ hother => (List.mem_singleton.mp hother).symm ▸ hline

theorem spared_tables (h : w.server.Hosts t₀) {f : Tables → Tables}
    (hf : Keeps t₀ (f w.server.tables)) : Spared t₀ w (w.on fun s => s.onTables f, []) :=
  ⟨h.onTables hf, ⟨le_rfl, fun _ _ => rfl⟩, fun _ hline => absurd hline List.not_mem_nil⟩

theorem refreshLines_spares {σ : SetRef} (hσ : σ < s.nextSet) {o : Outside}
    (ho : o.Official t₀) : ∀ line ∈ s.refreshLines σ o, line.Spares t₀ s := by
  intro line hline
  unfold Server.refreshLines at hline
  split at hline
  · rename_i hserver
    rw [List.mem_singleton.mp hline]
    exact ⟨⟨hσ, hserver⟩, ho⟩
  · cases hline

theorem deleteLines_spares {md5s : List String} (hclear : ∀ md5 ∈ md5s, md5 ∉ t₀.privateMd5s) :
    ∀ line ∈ deleteLines md5s, line.Spares t₀ s := by
  intro line hline
  unfold deleteLines at hline
  split at hline
  · cases hline
  · simp only [List.mem_cons, List.not_mem_nil, or_false] at hline
    rcases hline with rfl | rfl
    · trivial
    · exact hclear

theorem withFilename_stands (hnames : ∀ row ∈ privateMaps t₀.maps, row.filename ≠ "")
    {bmap : Beatmap} (h : bmap.Stands t₀) : bmap.withFilename.Stands t₀ := by
  unfold Beatmap.withFilename
  split
  · rename_i hempty
    rcases h with hprivate | hosu
    · exact absurd hempty (hnames bmap hprivate)
    · exact Or.inr hosu
  · exact h

theorem newBeatmapOf_stands (hids : ∀ row ∈ privateMaps t₀.maps, privateBeatmapIdFloor ≤ row.id)
    (current : List (Int × Scores.RankedStatus)) {resp : ApiMap}
    (hlow : resp.beatmapId < privateBeatmapIdFloor) (hmd5 : resp.fileMd5 ∉ t₀.privateMd5s) :
    (resp.newBeatmapOf current).Stands t₀ := by
  unfold ApiMap.newBeatmapOf
  split <;> exact new_stands hids rfl hlow hmd5

theorem askRefresh_spared (hids : ∀ row ∈ privateMaps t₀.maps, privateBeatmapIdFloor ≤ row.id)
    (h : w.server.Hosts t₀) {σ : SetRef} {o : Outside}
    (hline : (askRefresh σ o).Spares t₀ w.server) :
    Spared t₀ w ((askRefresh σ o).perform w) := by
  obtain ⟨⟨hσ, hserver⟩, ho⟩ := hline
  simp only [Line.perform, Server.answered]
  rcases hresponse : o.refresh with _ | answer | statusCode
  · exact spared_none h
  · have hanswer : ∀ resp ∈ answer,
        resp.beatmapId < privateBeatmapIdFloor ∧ resp.fileMd5 ∉ t₀.privateMd5s := by
      intro resp hresp
      refine ho resp (List.mem_append_right _ ?_)
      rw [hresponse]
      exact hresp
    obtain ⟨hhosts, hlater, hdeleted⟩ := h.reconcile hids hσ o.now hanswer
    refine ⟨hhosts, hlater, fun line hline => ?_⟩
    rcases List.mem_append.mp hline with hdelete | hsave
    · exact deleteLines_spares hdeleted line hdelete
    · simp only [List.mem_cons, List.not_mem_nil, or_false] at hsave
      rcases hsave with rfl | rfl
      · exact ⟨hσ.trans_le hlater.nextSet, (hlater.servers σ hσ).trans hserver⟩
      · exact hσ.trans_le hlater.nextSet
  · dsimp only
    split
    · refine spared_same h fun line hline => ?_
      rcases List.mem_append.mp hline with hdelete | hset
      · refine deleteLines_spares (fun md5 hmd5 => ?_) line hdelete
        obtain ⟨bmap, hbmap, rfl⟩ := List.mem_map.mp hmd5
        obtain ⟨hrow, hosu⟩ := List.mem_filter.mp hbmap
        exact (h.rows hσ bmap hrow).md5 (of_decide_eq_true hosu)
      · rw [List.mem_singleton.mp hset]
        trivial
    · exact spared_none h

theorem perform_spared (h₀ : t₀.Hosting) (h : w.server.Hosts t₀) {line : Line}
    (hline : line.Spares t₀ w.server) : Spared t₀ w (line.perform w) := by
  cases line with
  | find key setId o =>
    simp only [Line.perform]
    split
    · rename_i r hget
      have hbound : w.server.Bound r := by
        cases key with
        | md5 md5 => exact Or.inl ⟨md5, hget⟩
        | id id => exact Or.inr ⟨id, hget⟩
      have hset := h.homes r (h.cached r hbound)
      refine spared_same h fun other hother => ?_
      rcases List.mem_append.mp hother with hrefresh | hfinish
      · split at hrefresh
        · exact refreshLines_spares hset hline other hrefresh
        · cases hrefresh
      · rw [List.mem_singleton.mp hfinish]
        trivial
    · split
      · exact spared_one h hline
      · exact spared_one h hline
  | fetchSetId key o =>
    simp only [Line.perform]
    split <;> exact spared_one h hline
  | askSetId key o =>
    simp only [Line.perform]
    split
    · exact spared_one h hline
    · exact spared_none h
  | load bsid key o =>
    simp only [Line.perform]
    split
    · rename_i σ hσ
      exact spared_one h ⟨h.cachedSets bsid σ hσ, hline⟩
    · exact spared_one h hline
  | fetchMapset bsid key o =>
    simp only [Line.perform]
    split
    · rename_i row hrow
      exact spared_one h ⟨h.tables.apart (List.mem_of_find?_eq_some hrow), hline⟩
    · rename_i hnone
      refine spared_one h ⟨h.tables.apart_of_absent fun row hrow heq => ?_, hline⟩
      exact List.find?_eq_none.mp hnone row hrow (decide_eq_true heq)
  | fetchMaps row key o =>
    refine spared_one h ⟨hline.1, fun bmap hbmap => ?_, hline.2⟩
    exact h.tables.stands (Tables.mem_mapsOf.mp hbmap).1
  | build row rows key o =>
    obtain ⟨hapart, hrows, ho⟩ := hline
    obtain ⟨hhosts, hlater, hlt, -⟩ := h.newSet row (rows.map Beatmap.withFilename) hapart
      fun bmap hbmap => by
        obtain ⟨row, hrow, rfl⟩ := List.mem_map.mp hbmap
        exact withFilename_stands h₀.filenames (hrows row hrow)
    refine ⟨hhosts, hlater, fun other hother => ?_⟩
    rcases List.mem_append.mp hother with hmissing | hloaded
    · obtain ⟨bmap, hbmap, rfl⟩ := List.mem_map.mp hmissing
      obtain ⟨hmem, hempty⟩ := List.mem_filter.mp hbmap
      rcases hrows bmap hmem with hprivate | ⟨-, hclear⟩
      · exact absurd (of_decide_eq_true hempty) (h₀.filenames bmap hprivate)
      · exact fun row hrow => (hclear row hrow).1
    · rw [List.mem_singleton.mp hloaded]
      exact ⟨hlt, ho⟩
  | updateFilename id filename => exact spared_tables h (h.tables.updateFilename filename hline)
  | loaded σ key o =>
    obtain ⟨hσ, ho⟩ := hline
    refine spared_same h fun other hother => ?_
    rcases List.mem_append.mp hother with hrefresh | hcache
    · split at hrefresh
      · exact refreshLines_spares hσ ho other hrefresh
      · cases hrefresh
    · rw [List.mem_singleton.mp hcache]
      exact hσ
  | askSet bsid key o =>
    simp only [Line.perform]
    split
    · rename_i answer hanswer
      refine spared_one h ⟨hline.1, fun resp hresp => ?_⟩
      refine hline.2 resp (List.mem_append_left _ ?_)
      rw [hanswer]
      exact hresp
    · exact spared_none h
  | fetchFrozen bsid answer key o =>
    obtain ⟨hapart, hanswer⟩ := hline
    obtain ⟨hhosts, hlater, hlt, hserver⟩ := h.newSet
      { id := bsid, server := .OSU, lastOsuapiCheck := o.now }
      (answer.map (ApiMap.newBeatmapOf (w.server.tables.currentMaps bsid)))
      (fun _ => hapart) fun bmap hbmap => by
        obtain ⟨resp, hresp, rfl⟩ := List.mem_map.mp hbmap
        exact newBeatmapOf_stands h₀.ids _ (hanswer resp hresp).1 (hanswer resp hresp).2
    refine ⟨hhosts, hlater, fun other hother => ?_⟩
    change other ∈ [replaceMapset _, saveToSql _, cacheSet _ key] at hother
    simp only [List.mem_cons, List.not_mem_nil, or_false] at hother
    rcases hother with rfl | rfl | rfl
    · exact ⟨hlt, hserver⟩
    · exact hlt
    · exact hlt
  | update bsid o =>
    simp only [Line.perform]
    split
    · rename_i σ hσ
      exact spared_same h (refreshLines_spares (h.cachedSets bsid σ hσ) hline)
    · exact spared_none h
  | askRefresh σ o => exact askRefresh_spared h₀.ids h hline
  | deleteMaps md5s => exact spared_tables h (h.tables.deleteMaps md5s)
  | deleteScores md5s => exact spared_tables h (h.tables.deleteScores hline)
  | replaceMapset σ =>
    exact spared_tables h (h.tables.replaceMapset hline.2 ((h.sets σ hline.1).1 hline.2))
  | deleteMapset id => exact spared_tables h (h.tables.deleteMapset id)
  | saveToSql σ => exact spared_tables h (h.tables.saveToSql (h.rows hline))
  | cacheSet σ key =>
    have hserver (w : World) : (w.returnCached key).server = w.server := by
      unfold World.returnCached
      split
      · rfl
      · split <;> rfl
    obtain ⟨hhosts, hlater⟩ := h.cacheBeatmapSet hline
    refine ⟨?_, ?_, fun _ hother => absurd hother List.not_mem_nil⟩
    · simp only [Line.perform, hserver]
      exact hhosts
    · simp only [Line.perform, hserver]
      exact hlater
  | finish key r => exact ⟨h, Later.refl _, fun _ hother => absurd hother List.not_mem_nil⟩

end Lines

section Runs

variable {t₀ : Tables}

structure Traffic.Hosts (t₀ : Tables) (t : Traffic) : Prop where
  server : t.world.server.Hosts t₀
  lines : ∀ task ∈ t.running, ∀ line ∈ task, line.Spares t₀ t.world.server

theorem Traffic.Hosts.step (h₀ : t₀.Hosting) {t : Traffic} (h : t.Hosts t₀) (e : Event)
    (hofficial : Official t₀ e) : (t.step e).Hosts t₀ := by
  cases e with
  | begin op =>
    refine ⟨h.server, fun task htask line hline => ?_⟩
    rcases List.mem_append.mp htask with hold | hnew
    · exact h.lines task hold line hline
    · rw [List.mem_singleton.mp hnew, List.mem_singleton] at hline
      rw [hline]
      cases op <;> exact hofficial
  | resume i =>
    change Traffic.Hosts t₀ (Tasks.resume Line.perform t i)
    refine Tasks.resume_keeps h i fun line rest hnext => ?_
    have hspared := perform_spared h₀ h.server
      (h.lines _ (Tasks.mem_of_next hnext) line List.mem_cons_self)
    refine ⟨hspared.server, fun task htask other hother => ?_⟩
    rcases Tasks.mem_lines_set hnext htask hother with hnew | ⟨task, htask, hother⟩
    · exact hspared.lines other hnew
    · obtain ⟨task, htask, hother⟩ := Tasks.mem_lines_of_rest hnext htask hother
      exact (h.lines task htask other hother).later hspared.later

theorem started_hosts (h₀ : t₀.Hosting) : (started t₀).Hosts t₀ where
  server :=
    { tables := h₀.keeps
      beatmaps := fun _ h => absurd h (Nat.not_lt_zero _)
      homes := fun _ h => absurd h (Nat.not_lt_zero _)
      sets := fun _ h => absurd h (Nat.not_lt_zero _)
      cached := fun _ h => h.elim (fun ⟨_, h⟩ => absurd h (Option.some_ne_none _).symm)
        fun ⟨_, h⟩ => absurd h (Option.some_ne_none _).symm
      cachedSets := fun _ _ h => absurd h (Option.some_ne_none _).symm }
  lines := fun _ h => absurd h List.not_mem_nil

-- However calls that look maps up, load them and refresh them come between one another, what
-- this server hosts stays as it is.
theorem hosted_kept (h₀ : t₀.Hosting) {run : List Event} (hrun : ∀ e ∈ run, Official t₀ e) :
    let t := (runFrom Traffic.step (started t₀) run).world.server.tables
    (privateMaps t.maps).Perm (privateMaps t₀.maps) ∧
      (privateMapsets t.mapsets).Perm (privateMapsets t₀.mapsets) ∧
      t₀.hostedScores t.scores = t₀.hostedScores t₀.scores := by
  intro t
  have hhosts := (Guarded.of_forall hrun).invariant (Traffic.Hosts t₀)
    (fun _ e h hofficial => h.step h₀ e hofficial) (started_hosts h₀)
  have hkeeps : Keeps t₀ t := hhosts.server.tables
  refine ⟨?_, ?_, hkeeps.scores⟩
  · refine (List.perm_ext_iff_of_nodup (hkeeps.unique.filter _).nodup
      (h₀.maps.filter _).nodup).mpr fun row => ?_
    change row ∈ privateMaps t.maps ↔ row ∈ privateMaps t₀.maps
    rw [mem_privateMaps, mem_privateMaps, and_congr_left_iff]
    exact hkeeps.maps row
  · have hnodup {rows : List MapSetRow} (h : (rows.map MapSetRow.id).Nodup) :
        (privateMapsets rows).Nodup := (List.Nodup.of_map _ h).filter _
    refine (List.perm_ext_iff_of_nodup (hnodup hkeeps.ids) (hnodup h₀.mapsets)).mpr fun row => ?_
    rw [mem_privateMapsets, mem_privateMapsets, and_congr_left_iff]
    exact hkeeps.mapsets row

def privateMap (id setId : Int) (md5 : String) : Beatmap :=
  { (apiMap id setId md5 0).newBeatmap with server := .PRIVATE }

-- Set 7 has a map of osu! and one that is hosted here; set 2000000000 is hosted here.
def mixed : Tables where
  maps := [(apiMap 1 7 "a" 1).newBeatmap, privateMap 2000000001 7 "p",
    privateMap 2000000002 2000000000 "q"]
  mapsets := [{ id := 7, server := .OSU, lastOsuapiCheck := 0 },
    { id := 2000000000, server := .PRIVATE, lastOsuapiCheck := 0 }]
  scores := [{ id := 1, mapMd5 := "a" }, { id := 2, mapMd5 := "p" }, { id := 3, mapMd5 := "q" }]

-- The map of osu! is updated, another takes its place, and osu! no longer knows either set.
def refreshedToNothing : List Event :=
  call 0 (.fromMd5 "p" 7
    { unheard with expired := true, now := 5, refresh := .data [apiMap 1 7 "b" 1] }) ++
    call 1 (.update 7 { unheard with now := 6, refresh := .data [apiMap 2 7 "c" 1] }) ++
    call 2 (.update 7 { unheard with now := 7, refresh := .none 404 }) ++
    call 3 (.fromBsid 2000000000
      { unheard with expired := true, now := 8, set := .none 404, refresh := .none 404 })

theorem hosted_kept_mixed :
    let t := (runFrom Traffic.step (started mixed) refreshedToNothing).world.server.tables
    (privateMaps t.maps).Perm (privateMaps mixed.maps) ∧
      (privateMapsets t.mapsets).Perm (privateMapsets mixed.mapsets) ∧
      mixed.hostedScores t.scores = mixed.hostedScores mixed.scores ∧
      osuMaps t.maps = [] ∧ t.mapsets.length = 1 := by
  obtain ⟨hmaps, hmapsets, hscores⟩ := @hosted_kept mixed
    ⟨⟨by decide, by decide⟩, by decide, by decide, by decide⟩ refreshedToNothing (by decide)
  exact ⟨hmaps, hmapsets, hscores, by decide +kernel, by decide +kernel⟩

end Runs

end BanchoPrism.Beatmaps
