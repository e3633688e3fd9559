import BanchoPrism.Beatmaps.Refresh

namespace BanchoPrism.Beatmaps

open Library

def privateMaps (maps : List Beatmap) : List Beatmap := maps.filter fun bmap => bmap.server = .PRIVATE

def osuMaps (maps : List Beatmap) : List Beatmap := maps.filter fun bmap => bmap.server = .OSU

-- What an answer has to make of the maps of a set.
structure Follows (answer : List ApiMap) (before after : List Beatmap) : Prop where
  maps : ((osuMaps after).map fun bmap => (bmap.id, bmap.md5)).Perm
    (answer.map fun resp => (resp.beatmapId, resp.fileMd5))
  status : ∀ bmap ∈ after, bmap.server = .OSU → bmap.frozen = false →
    ∀ resp ∈ answer, resp.beatmapId = bmap.id → bmap.status = fromOsuapi resp.approved
  kept : ∀ bmap ∈ after, ∀ was ∈ before, was.id = bmap.id →
    bmap.plays = was.plays ∧ bmap.passes = was.passes ∧ bmap.frozen = was.frozen ∧
      (was.frozen = true → bmap.status = was.status)
  privates : (privateMaps after).Perm (privateMaps before)

structure Reconciled (s t : Server) (σ : SetRef) (answer : List ApiMap) : Prop where
  memory : Follows answer (s.rows (s.sets σ).maps) (t.rows (t.sets σ).maps)
  table : Follows answer (s.tables.mapsOf (s.sets σ).id) (t.tables.mapsOf (s.sets σ).id)
  privates : (privateMaps t.tables.maps).Perm (privateMaps s.tables.maps)
  scores : ∀ score ∈ s.tables.scores, score ∉ t.tables.scores →
    ∀ bmap ∈ t.rows (t.sets σ).maps, bmap.md5 ≠ score.mapMd5

-- A set from osu! that memory and the maps table agree on.
structure InSync (s : Server) (σ : SetRef) : Prop where
  hosted : (s.sets σ).server = .OSU
  allocated : ∀ r ∈ (s.sets σ).maps, r < s.nextMap
  unique : Unique Beatmap.id Beatmap.md5 s.tables.maps
  agree : (s.rows (s.sets σ).maps).Perm (s.tables.mapsOf (s.sets σ).id)

structure Tolerated (s : Server) (σ : SetRef) (answer : List ApiMap) : Prop where
  -- No md5 with scores goes from a map that is gone to another one.
  scores : ∀ score ∈ s.tables.scores, ∀ was ∈ s.rows (s.sets σ).maps, was.server = .OSU →
    was.id ∉ answer.map ApiMap.beatmapId → score.mapMd5 = was.md5 →
      was.md5 ∉ answer.map ApiMap.fileMd5
  -- No private map, of this set or another, has an id or an md5 of the answer.
  privates : ∀ row ∈ s.tables.maps, row.server = .PRIVATE →
    ∀ resp ∈ answer, resp.beatmapId ≠ row.id ∧ resp.fileMd5 ≠ row.md5
  -- What is new or changed is said to be of this set.
  home : ∀ resp ∈ answer, resp.beatmapsetId = (s.sets σ).id ∨
    ∃ was ∈ s.rows (s.sets σ).maps, was.id = resp.beatmapId ∧ was.md5 = resp.fileMd5 ∧
      was.status = fromOsuapi resp.approved

theorem not_osu {server : MapServer} : server ≠ .OSU ↔ server = .PRIVATE := by
  cases server <;> decide

theorem mem_osuMaps {maps : List Beatmap} {bmap : Beatmap} :
    bmap ∈ osuMaps maps ↔ bmap ∈ maps ∧ bmap.server = .OSU := by
  simp only [osuMaps, List.mem_filter, decide_eq_true_eq]

theorem mem_privateMaps {maps : List Beatmap} {bmap : Beatmap} :
    bmap ∈ privateMaps maps ↔ bmap ∈ maps ∧ bmap.server = .PRIVATE := by
  simp only [privateMaps, List.mem_filter, decide_eq_true_eq]

theorem Tables.mem_mapsOf {t : Tables} {id : Int} {row : Beatmap} :
    row ∈ t.mapsOf id ↔ row ∈ t.maps ∧ row.setId = id := by
  simp only [Tables.mapsOf, List.mem_filter, decide_eq_true_eq]

theorem Follows.perm {answer : List ApiMap} {before before' after after' : List Beatmap}
    (h : Follows answer before after) (hbefore : before.Perm before') (hafter : after.Perm after') :
    Follows answer before' after' where
  maps := ((hafter.symm.filter _).map _).trans h.maps
  status := fun bmap hbmap => h.status bmap (hafter.mem_iff.mpr hbmap)
  kept := fun bmap hbmap was hwas =>
    h.kept bmap (hafter.mem_iff.mpr hbmap) was (hbefore.mem_iff.mpr hwas)
  privates := (hafter.symm.filter _).trans (h.privates.trans (hbefore.filter _))

section Rows

variable {old : List Beatmap} {answer : List ApiMap}

-- The maps of the set, as the answer leaves them.
theorem follows_refreshedRows (hold : Unique Beatmap.id Beatmap.md5 old)
    (hanswer : Unique ApiMap.beatmapId ApiMap.fileMd5 answer)
    (hprivate : ∀ was ∈ old, was.server ≠ .OSU →
      ∀ resp ∈ answer, resp.beatmapId ≠ was.id ∧ resp.fileMd5 ≠ was.md5) :
    Follows answer old (refreshedRows old answer) := by
  have hids := refreshedRows_ids hanswer.first hold.first
  have hnodup := List.Nodup.of_map _ hids
  constructor
  · refine (List.perm_ext_iff_of_nodup ?_ ?_).mpr ?_
    · refine List.Nodup.map_on ?_ (hnodup.filter _)
      intro bmap hbmap other hother heq
      exact List.inj_on_of_nodup_map hids (mem_osuMaps.mp hbmap).1 (mem_osuMaps.mp hother).1
        (congrArg Prod.fst heq)
    · refine List.Nodup.map_on ?_ (List.Nodup.of_map _ hanswer.first)
      intro resp hresp other hother heq
      exact hanswer.eq_of_first hresp hother (congrArg Prod.fst heq)
    · rintro ⟨id, md5⟩
      simp only [List.mem_map, mem_osuMaps, Prod.mk.injEq]
      constructor
      · rintro ⟨bmap, ⟨hbmap, hserver⟩, rfl, rfl⟩
        rcases refreshedRows_cases hanswer.first hbmap with ⟨-, hne⟩ | hresp
        · exact absurd hserver hne
        · exact hresp
      · rintro ⟨resp, hresp, rfl, rfl⟩
        obtain ⟨bmap, hbmap, hid, hmd5, hfrom⟩ :=
          @exists_mem_refreshedRows old answer hanswer.first resp hresp
        refine ⟨bmap, ⟨hbmap, ?_⟩, hid, hmd5⟩
        rcases hfrom with rfl | ⟨was, hwas, hwasId, rfl⟩
        · rfl
        · rw [updated_server]
          by_contra hserver
          exact (hprivate was hwas hserver resp hresp).1 hwasId.symm
  · intro bmap hbmap hserver hfrozen resp hresp hid
    rcases (mem_refreshedRows hanswer.first).mp hbmap with
      ⟨was, -, -, hne, rfl⟩ | ⟨was, -, other, hother, hsame, rfl⟩ | ⟨other, hother, -, rfl⟩
    · exact absurd hserver hne
    · rw [updated_id] at hid
      rw [hanswer.eq_of_first hresp hother (hid.trans hsame.symm)]
      exact updated_status was other ((updated_frozen was other).symm.trans hfrozen)
    · rw [hanswer.eq_of_first hresp hother hid]
      rfl
  · intro bmap hbmap was hwas hid
    rcases (mem_refreshedRows hanswer.first).mp hbmap with
      ⟨old', hold', -, -, rfl⟩ | ⟨old', hold', resp, -, -, rfl⟩ | ⟨resp, -, hnew, rfl⟩
    · rw [hold.eq_of_first hwas hold' hid]
      exact ⟨rfl, rfl, rfl, fun _ => rfl⟩
    · rw [updated_id] at hid
      rw [hold.eq_of_first hwas hold' hid]
      exact ⟨updated_plays _ _, updated_passes _ _, updated_frozen _ _,
        updated_status_frozen _ _⟩
    · exact absurd (List.mem_map.mpr ⟨was, hwas, hid⟩) hnew
  · refine (List.perm_ext_iff_of_nodup (hnodup.filter _) (hold.nodup.filter _)).mpr ?_
    intro bmap
    change bmap ∈ privateMaps _ ↔ bmap ∈ privateMaps _
    simp only [mem_privateMaps, and_congr_left_iff]
    intro hserver
    have hne := not_osu.mpr hserver
    constructor
    · intro hbmap
      rcases (mem_refreshedRows hanswer.first).mp hbmap with
        ⟨was, hwas, -, -, rfl⟩ | ⟨was, hwas, resp, hresp, hid, rfl⟩ | ⟨resp, -, -, rfl⟩
      · exact hwas
      · rw [updated_server] at hne
        exact absurd hid (hprivate was hwas hne resp hresp).1
      · exact absurd rfl hne
    · intro hbmap
      refine (mem_refreshedRows hanswer.first).mpr (Or.inl ⟨bmap, hbmap, ?_, hne, rfl⟩)
      intro hid
      obtain ⟨resp, hresp, hid⟩ := List.mem_map.mp hid
      exact (hprivate bmap hbmap hne resp hresp).1 hid

end Rows

section Refresh

variable {s : Server} {σ : SetRef} {now : Int} {answer : List ApiMap}

theorem InSync.mem_table (h : InSync s σ) {bmap : Beatmap} :
    bmap ∈ s.rows (s.sets σ).maps ↔ bmap ∈ s.tables.maps ∧ bmap.setId = (s.sets σ).id :=
  h.agree.mem_iff.trans Tables.mem_mapsOf

theorem InSync.old_unique (h : InSync s σ) :
    Unique Beatmap.id Beatmap.md5 (s.rows (s.sets σ).maps) :=
  (h.unique.filter _).perm h.agree.symm

theorem Tolerated.old_privates (h : Tolerated s σ answer) (hs : InSync s σ) :
    ∀ was ∈ s.rows (s.sets σ).maps, was.server ≠ .OSU →
      ∀ resp ∈ answer, resp.beatmapId ≠ was.id ∧ resp.fileMd5 ≠ was.md5 :=
  fun was hwas hserver => h.privates was (hs.mem_table.mp hwas).1 (not_osu.mp hserver)

section Table

variable {after : Tables}
  (hs : InSync s σ) (hanswer : Unique ApiMap.beatmapId ApiMap.fileMd5 answer)
  (hafter : Saved s.tables (goneMd5s (s.rows (s.sets σ).maps) answer)
    (refreshedRows (s.rows (s.sets σ).maps) answer) after)

include hs hafter in
theorem saved_unique : Unique Beatmap.id Beatmap.md5 after.maps := by
  rw [hafter.maps]
  exact (hs.unique.filter _).replaceAll _

include hs hanswer hafter in
theorem mem_saved (hprivate : ∀ was ∈ s.rows (s.sets σ).maps, was.server ≠ .OSU →
    ∀ resp ∈ answer, resp.fileMd5 ≠ was.md5) {row : Beatmap} :
    row ∈ after.maps ↔ row ∈ refreshedRows (s.rows (s.sets σ).maps) answer ∨
      (row ∈ s.tables.maps ∧
        ¬(row.md5 ∈ goneMd5s (s.rows (s.sets σ).maps) answer ∧ row.server = .OSU)) ∧
      ∀ bmap ∈ refreshedRows (s.rows (s.sets σ).maps) answer,
        row.id ≠ bmap.id ∧ row.md5 ≠ bmap.md5 := by
  rw [hafter.maps, mem_replaceAll (refreshedRows_unique hs.old_unique hanswer hprivate),
    List.mem_filter, decide_eq_true_eq]

-- The rows of the set are its maps in memory.
include hs hanswer hafter in
theorem saved_mapsOf (h : Tolerated s σ answer) :
    (refreshedRows (s.rows (s.sets σ).maps) answer).Perm (after.mapsOf (s.sets σ).id) := by
  have hprivate := h.old_privates hs
  have hmd5 := fun was hwas hserver resp hresp => (hprivate was hwas hserver resp hresp).2
  have hnew := refreshedRows_unique hs.old_unique hanswer hmd5
  have hmem {row : Beatmap} := @mem_saved s σ answer after hs hanswer hafter hmd5 row
  refine (List.perm_ext_iff_of_nodup hnew.nodup ((saved_unique hs hafter).filter _).nodup).mpr ?_
  intro row
  change _ ↔ row ∈ after.mapsOf _
  rw [Tables.mem_mapsOf]
  constructor
  · intro hrow
    refine ⟨hmem.mpr (Or.inl hrow), ?_⟩
    rcases (mem_refreshedRows hanswer.first).mp hrow with
      ⟨was, hwas, -, -, rfl⟩ | ⟨was, hwas, resp, hresp, hid, rfl⟩ | ⟨resp, hresp, hfresh, rfl⟩
    · exact (hs.mem_table.mp hwas).2
    · rw [updated_setId]
      split
      · rename_i hchanged
        rcases h.home resp hresp with hhome | ⟨was', hwas', hid', hmd5', hstatus'⟩
        · exact hhome
        · rw [hs.old_unique.eq_of_first hwas' hwas (hid'.trans hid)] at hmd5' hstatus'
          exact absurd hchanged (not_or.mpr ⟨not_not.mpr hmd5', not_not.mpr hstatus'⟩)
      · exact (hs.mem_table.mp hwas).2
    · rcases h.home resp hresp with hhome | ⟨was, hwas, hid, -⟩
      · exact hhome
      · exact absurd (List.mem_map.mpr ⟨was, hwas, hid⟩) hfresh
  · rintro ⟨hrow, hset⟩
    rcases hmem.mp hrow with hrow | ⟨⟨htable, hkeep⟩, hclear⟩
    · exact hrow
    · -- An old map of the set was deleted, or its id is written again.
      have hwas := hs.mem_table.mpr ⟨htable, hset⟩
      by_cases hid : row.id ∈ answer.map ApiMap.beatmapId
      · obtain ⟨resp, hresp, hid⟩ := List.mem_map.mp hid
        have hupdated := (mem_refreshedRows hanswer.first).mpr
          (Or.inr (Or.inl ⟨row, hwas, resp, hresp, hid, rfl⟩))
        exact absurd (updated_id row resp).symm (hclear _ hupdated).1
      · by_cases hserver : row.server = .OSU
        · exact absurd ⟨mem_goneMd5s.mpr ⟨row, hwas, hid, hserver, rfl⟩, hserver⟩ hkeep
        · exact (mem_refreshedRows hanswer.first).mpr (Or.inl ⟨row, hwas, hid, hserver, rfl⟩)

include hs hanswer hafter in
theorem saved_privates (h : Tolerated s σ answer) :
    (privateMaps after.maps).Perm (privateMaps s.tables.maps) := by
  have hprivate := h.old_privates hs
  have hmd5 := fun was hwas hserver resp hresp => (hprivate was hwas hserver resp hresp).2
  have hmem {row : Beatmap} := @mem_saved s σ answer after hs hanswer hafter hmd5 row
  refine (List.perm_ext_iff_of_nodup ((saved_unique hs hafter).filter _).nodup
    (hs.unique.filter _).nodup).mpr ?_
  intro row
  change row ∈ privateMaps _ ↔ row ∈ privateMaps _
  simp only [mem_privateMaps, and_congr_left_iff]
  intro hserver
  have hne := not_osu.mpr hserver
  have hfollows := (follows_refreshedRows hs.old_unique hanswer hprivate).privates.mem_iff (a := row)
  simp only [mem_privateMaps, hserver, and_true] at hfollows
  constructor
  · intro hrow
    rcases hmem.mp hrow with hrow | ⟨⟨htable, -⟩, -⟩
    · exact (hs.mem_table.mp (hfollows.mp hrow)).1
    · exact htable
  · intro htable
    by_cases hrow : row ∈ refreshedRows (s.rows (s.sets σ).maps) answer
    · exact hmem.mpr (Or.inl hrow)
    · refine hmem.mpr (Or.inr ⟨⟨htable, fun hgone => hne hgone.2⟩, fun bmap hbmap => ?_⟩)
      rcases refreshedRows_cases hanswer.first hbmap with ⟨hold, -⟩ | ⟨resp, hresp, hid, hfile⟩
      · have hother := (hs.mem_table.mp hold).1
        constructor
        · exact fun heq => hrow (hs.unique.eq_of_first htable hother heq ▸ hbmap)
        · exact fun heq => hrow (hs.unique.eq_of_second htable hother heq ▸ hbmap)
      · obtain ⟨hidne, hmd5ne⟩ := h.privates row htable hserver resp hresp
        exact ⟨fun heq => hidne (hid.trans heq.symm), fun heq => hmd5ne (hfile.trans heq.symm)⟩

end Table

theorem reconciled_of_tolerated (hs : InSync s σ)
    (hanswer : Unique ApiMap.beatmapId ApiMap.fileMd5 answer) (h : Tolerated s σ answer) :
    Reconciled s (s.updateIfAvailable σ now (.data answer)) σ answer := by
  obtain ⟨hrows, -, hafter⟩ := s.updateIfAvailable_data σ now answer hs.hosted
    hs.old_unique.first hanswer.first hs.allocated
  have hfollows := follows_refreshedRows hs.old_unique hanswer (h.old_privates hs)
  constructor
  · rw [hrows]
    exact hfollows
  · exact hfollows.perm hs.agree (saved_mapsOf hs hanswer hafter h)
  · exact saved_privates hs hanswer hafter h
  · intro score hscore hdeleted bmap hbmap heq
    rw [hrows] at hbmap
    have hgone : score.mapMd5 ∈ goneMd5s (s.rows (s.sets σ).maps) answer := by
      by_contra hkeep
      rw [hafter.scores, List.mem_filter] at hdeleted
      exact hdeleted ⟨hscore, decide_eq_true hkeep⟩
    obtain ⟨was, hwas, habsent, hserver, hmd5⟩ := mem_goneMd5s.mp hgone
    rcases refreshedRows_cases hanswer.first hbmap with ⟨hold, hne⟩ | ⟨resp, hresp, -, hfile⟩
    · have hsame := hs.old_unique.eq_of_second hold hwas (heq.trans hmd5.symm)
      exact hne (hsame ▸ hserver)
    · refine h.scores score hscore was hwas hserver habsent hmd5.symm ?_
      exact List.mem_map.mpr ⟨resp, hresp, hfile.trans (heq.trans hmd5.symm)⟩

theorem tolerated_of_reconciled (hs : InSync s σ)
    (hanswer : Unique ApiMap.beatmapId ApiMap.fileMd5 answer)
    (h : Reconciled s (s.updateIfAvailable σ now (.data answer)) σ answer) :
    Tolerated s σ answer := by
  obtain ⟨hrows, -, hafter⟩ := s.updateIfAvailable_data σ now answer hs.hosted
    hs.old_unique.first hanswer.first hs.allocated
  have hunique := saved_unique hs hafter
  -- Each map of the answer has its row.
  have hrow (resp : ApiMap) (hresp : resp ∈ answer) :
      ∃ row ∈ (s.updateIfAvailable σ now (.data answer)).tables.maps, row.server = .OSU ∧
        row.setId = (s.sets σ).id ∧ row.id = resp.beatmapId ∧ row.md5 = resp.fileMd5 := by
    have hmem := h.table.maps.mem_iff.mpr (List.mem_map_of_mem hresp)
    obtain ⟨row, hrow, heq⟩ := List.mem_map.mp hmem
    obtain ⟨hrow, hserver⟩ := mem_osuMaps.mp hrow
    obtain ⟨hrow, hset⟩ := Tables.mem_mapsOf.mp hrow
    exact ⟨row, hrow, hserver, hset, congrArg Prod.fst heq, congrArg Prod.snd heq⟩
  have hprivates : ∀ row ∈ s.tables.maps, row.server = .PRIVATE →
      ∀ resp ∈ answer, resp.beatmapId ≠ row.id ∧ resp.fileMd5 ≠ row.md5 := by
    intro other hother hprivate resp hresp
    obtain ⟨row, hmem, hserver, -, hrowId, hrowMd5⟩ := hrow resp hresp
    have hstays := (mem_privateMaps.mp
      (h.privates.mem_iff.mpr (mem_privateMaps.mpr ⟨hother, hprivate⟩))).1
    have hdistinct : row ≠ other := by
      rintro rfl
      exact not_osu.mpr hprivate hserver
    constructor
    · exact fun heq => hdistinct (hunique.eq_of_first hmem hstays (hrowId.trans heq))
    · exact fun heq => hdistinct (hunique.eq_of_second hmem hstays (hrowMd5.trans heq))
  refine ⟨?_, hprivates, ?_⟩
  · intro score hscore was hwas hserver habsent hmd5 hanswered
    obtain ⟨resp, hresp, hfile⟩ := List.mem_map.mp hanswered
    have hdeleted : score ∉ (s.updateIfAvailable σ now (.data answer)).tables.scores := by
      rw [hafter.scores, List.mem_filter]
      rintro ⟨-, hkeep⟩
      exact of_decide_eq_true hkeep
        (mem_goneMd5s.mpr ⟨was, hwas, habsent, hserver, hmd5.symm⟩)
    obtain ⟨bmap, hbmap, -, hbmapMd5, -⟩ :=
      @exists_mem_refreshedRows (s.rows (s.sets σ).maps) answer hanswer.first resp hresp
    refine h.scores score hscore hdeleted bmap (hrows ▸ hbmap) ?_
    rw [hbmapMd5, hfile, hmd5]
  · intro resp hresp
    have hmd5s : ∀ was ∈ s.rows (s.sets σ).maps, was.server ≠ .OSU →
        ∀ resp ∈ answer, resp.fileMd5 ≠ was.md5 := fun was hwas hserver resp hresp =>
      (hprivates was (hs.mem_table.mp hwas).1 (not_osu.mp hserver) resp hresp).2
    obtain ⟨bmap, hbmap, hbmapId, -, hfrom⟩ :=
      @exists_mem_refreshedRows (s.rows (s.sets σ).maps) answer hanswer.first resp hresp
    obtain ⟨row, hmem, -, hset, hrowId, -⟩ := hrow resp hresp
    have hsaved := (mem_saved hs hanswer hafter hmd5s).mpr (Or.inl hbmap)
    rw [← hunique.eq_of_first hsaved hmem (hbmapId.trans hrowId.symm)] at hset
    rcases hfrom with rfl | ⟨was, hwas, hwasId, rfl⟩
    · exact Or.inl hset
    · rw [updated_setId] at hset
      split at hset
      · exact Or.inl hset
      · rename_i hsame
        obtain ⟨hmd5, hstatus⟩ := not_or.mp hsame
        exact Or.inr ⟨was, hwas, hwasId, not_not.mp hmd5, not_not.mp hstatus⟩

-- A refresh does what it is for exactly on what it tolerates.
theorem reconciled_iff_tolerated (hs : InSync s σ)
    (hanswer : Unique ApiMap.beatmapId ApiMap.fileMd5 answer) :
    Reconciled s (s.updateIfAvailable σ now (.data answer)) σ answer ↔ Tolerated s σ answer :=
  ⟨tolerated_of_reconciled hs hanswer, reconciled_of_tolerated hs hanswer⟩

end Refresh

section Examples

def apiMap (id setId : Int) (md5 : String) (approved : Int) : ApiMap where
  beatmapId := id
  beatmapsetId := setId
  fileMd5 := md5
  artist := "artist"
  title := "title"
  version := md5
  creator := "creator"
  lastUpdate := { year := 2020, month := 1, day := 1, hour := 0, minute := 0, second := 0 }
  totalLength := 90
  maxCombo := some 300
  approved := approved
  mode := .VANILLA_OSU
  bpm := some 180
  diffSize := 4
  diffOverall := 8
  diffApproach := 9
  diffDrain := 6
  difficultyrating := 5

-- Set 7 with the maps 1 and 2, and a privately hosted map elsewhere.
def cachedSet : Server where
  beatmaps := fun r =>
    if r = 0 then { (apiMap 1 7 "a" 1).newBeatmap with plays := 30, passes := 20 }
    else { (apiMap 2 7 "b" 1).newBeatmap with frozen := true, status := .Loved }
  setOf := fun _ => 0
  nextMap := 2
  sets := fun _ => { id := 7, server := .OSU, maps := [0, 1], lastOsuapiCheck := 0 }
  nextSet := 1
  tables :=
    { maps :=
        [{ (apiMap 1 7 "a" 1).newBeatmap with plays := 30, passes := 20 },
          { (apiMap 2 7 "b" 1).newBeatmap with frozen := true, status := .Loved },
          { (apiMap 1000000001 1000000000 "p" 0).newBeatmap with server := .PRIVATE }]
      mapsets := [{ id := 7, server := .OSU, lastOsuapiCheck := 0 }]
      scores := [{ id := 1, mapMd5 := "a" }, { id := 2, mapMd5 := "b" }] }
  cache := { byMd5 := fun _ => none, byId := fun _ => none, sets := fun _ => none }

theorem cachedSet_inSync : InSync cachedSet 0 where
  hosted := rfl
  allocated := by decide
  unique := ⟨by decide, by decide⟩
  agree := by decide

theorem cachedSet_reconciled :
    let answer := [apiMap 2 7 "c" 1, apiMap 1 7 "b" 4, apiMap 3 7 "d" 0]
    Reconciled cachedSet (cachedSet.updateIfAvailable 0 5 (.data answer)) 0 answer :=
  (reconciled_iff_tolerated cachedSet_inSync ⟨by decide, by decide⟩).mpr
    ⟨by decide, by decide, by decide⟩

-- Map 1 comes back as map 3 and its scores are gone; map 4 has the md5 of the private map, whose
-- row is gone.
theorem reupload_not_reconciled :
    let answer := [apiMap 2 7 "b" 1, apiMap 3 7 "a" 1, apiMap 4 7 "p" 1]
    let after := cachedSet.updateIfAvailable 0 5 (.data answer)
    InSync cachedSet 0 ∧ Unique ApiMap.beatmapId ApiMap.fileMd5 answer ∧
      (⟨1, "a"⟩ : ScoreRow) ∉ after.tables.scores ∧
      "a" ∈ (after.rows (after.sets 0).maps).map Beatmap.md5 ∧
      privateMaps after.tables.maps = [] ∧
      ¬Reconciled cachedSet after 0 answer := by
  intro answer after
  have hscore : (⟨1, "a"⟩ : ScoreRow) ∉ after.tables.scores := by decide
  have hmd5 : "a" ∈ (after.rows (after.sets 0).maps).map Beatmap.md5 := by decide
  refine ⟨cachedSet_inSync, ⟨by decide, by decide⟩, hscore, hmd5, by decide, ?_⟩
  intro h
  obtain ⟨bmap, hbmap, heq⟩ := List.mem_map.mp hmd5
  exact h.scores ⟨1, "a"⟩ (by decide) hscore bmap hbmap heq

end Examples

end BanchoPrism.Beatmaps
