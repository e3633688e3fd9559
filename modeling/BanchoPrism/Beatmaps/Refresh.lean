import BanchoPrism.Beatmaps.Sets
import BanchoPrism.Library.Paging

namespace BanchoPrism.Beatmaps

open Library

-- What becomes of a map that the answer still has.
def Beatmap.updated (old : Beatmap) (resp : ApiMap) : Beatmap :=
  if old.md5 ≠ resp.fileMd5 ∨ old.status ≠ fromOsuapi resp.approved then
    old.parseFromOsuapiResp resp
  else old

def Beatmap.refreshed (newMaps : List (Int × ApiMap)) (old : Beatmap) : Option Beatmap :=
  match newMaps.lookup old.id with
  | none => if old.server = .OSU then none else some old
  | some resp => some (old.updated resp)

-- The maps that the answer no longer has.
def goneFrom (newMaps : List (Int × ApiMap)) (old : List Beatmap) : List Beatmap :=
  old.filter fun bmap => (newMaps.lookup bmap.id).isNone && bmap.server = .OSU

section Updated

variable (old : Beatmap) (resp : ApiMap)

@[simp] theorem updated_id : (old.updated resp).id = old.id := by
  unfold Beatmap.updated; split <;> rfl

@[simp] theorem updated_server : (old.updated resp).server = old.server := by
  unfold Beatmap.updated; split <;> rfl

@[simp] theorem updated_frozen : (old.updated resp).frozen = old.frozen := by
  unfold Beatmap.updated; split <;> rfl

@[simp] theorem updated_plays : (old.updated resp).plays = old.plays := by
  unfold Beatmap.updated; split <;> rfl

@[simp] theorem updated_passes : (old.updated resp).passes = old.passes := by
  unfold Beatmap.updated; split <;> rfl

@[simp] theorem updated_md5 : (old.updated resp).md5 = resp.fileMd5 := by
  unfold Beatmap.updated
  split
  · rfl
  · rename_i h
    exact not_not.mp (not_or.mp h).1

theorem updated_status (h : old.frozen = false) :
    (old.updated resp).status = fromOsuapi resp.approved := by
  unfold Beatmap.updated
  split
  · rw [parse_status, h]
    rfl
  · rename_i hsame
    exact not_not.mp (not_or.mp hsame).2

theorem updated_status_frozen (h : old.frozen = true) : (old.updated resp).status = old.status := by
  unfold Beatmap.updated
  split
  · rw [parse_status, h]
    rfl
  · rfl

-- A change takes the set id of the answer along.
theorem updated_setId : (old.updated resp).setId =
    if old.md5 ≠ resp.fileMd5 ∨ old.status ≠ fromOsuapi resp.approved then resp.beatmapsetId
    else old.setId := by
  unfold Beatmap.updated
  split <;> rfl

end Updated

namespace Server

theorem setBeatmap_self (s : Server) (r : MapRef) : s.setBeatmap r (s.beatmaps r) = s := by
  unfold setBeatmap
  rw [Function.update_eq_self]

theorem setBeatmap_beatmaps (s : Server) (r : MapRef) (bmap : Beatmap) :
    (s.setBeatmap r bmap).beatmaps r = bmap := Function.update_self _ _ _

theorem setBeatmap_of_ne (s : Server) {r other : MapRef} (bmap : Beatmap) (h : other ≠ r) :
    (s.setBeatmap r bmap).beatmaps other = s.beatmaps other := Function.update_of_ne h _ _

theorem setBeatmap_updated_same (s : Server) (r other : MapRef) (resp : ApiMap) :
    ((s.setBeatmap r ((s.beatmaps r).updated resp)).beatmaps other).id = (s.beatmaps other).id ∧
      ((s.setBeatmap r ((s.beatmaps r).updated resp)).beatmaps other).server =
        (s.beatmaps other).server := by
  by_cases hother : other = r
  · subst hother
    rw [setBeatmap_beatmaps]
    exact ⟨updated_id _ _, updated_server _ _⟩
  · rw [setBeatmap_of_ne s _ hother]
    exact ⟨rfl, rfl⟩

section KeepOld

variable (newMaps : List (Int × ApiMap)) (s : Server) (r : MapRef) (rest : List (Int × MapRef))

theorem keepOld_gone {oldId : Int} (h : newMaps.lookup oldId = none)
    (hserver : (s.beatmaps r).server = .OSU) :
    keepOld newMaps s ((oldId, r) :: rest) =
      ((keepOld newMaps s rest).1, (keepOld newMaps s rest).2.1,
        (s.beatmaps r).md5 :: (keepOld newMaps s rest).2.2) := by
  rw [keepOld]
  simp only [h, if_pos hserver]

theorem keepOld_hosted {oldId : Int} (h : newMaps.lookup oldId = none)
    (hserver : (s.beatmaps r).server ≠ .OSU) :
    keepOld newMaps s ((oldId, r) :: rest) =
      ((keepOld newMaps s rest).1, r :: (keepOld newMaps s rest).2.1,
        (keepOld newMaps s rest).2.2) := by
  rw [keepOld]
  simp only [h, if_neg hserver]

theorem keepOld_known {oldId : Int} {resp : ApiMap} (h : newMaps.lookup oldId = some resp) :
    keepOld newMaps s ((oldId, r) :: rest) =
      ((keepOld newMaps (s.setBeatmap r ((s.beatmaps r).updated resp)) rest).1,
        r :: (keepOld newMaps (s.setBeatmap r ((s.beatmaps r).updated resp)) rest).2.1,
        (keepOld newMaps (s.setBeatmap r ((s.beatmaps r).updated resp)) rest).2.2) := by
  have hset : (if (s.beatmaps r).md5 ≠ resp.fileMd5 ∨
        (s.beatmaps r).status ≠ fromOsuapi resp.approved then
        s.setBeatmap r ((s.beatmaps r).parseFromOsuapiResp resp) else s) =
      s.setBeatmap r ((s.beatmaps r).updated resp) := by
    unfold Beatmap.updated
    split
    · rfl
    · exact (s.setBeatmap_self r).symm
  rw [keepOld]
  simp only [h, hset]

-- Nothing but the maps of the entries changes.
theorem keepOld_frame (entries : List (Int × MapRef)) :
    ∃ maps, (keepOld newMaps s entries).1 = { s with beatmaps := maps } ∧
      ∀ other, other ∉ entries.map Prod.snd → maps other = s.beatmaps other := by
  induction entries generalizing s with
  | nil => exact ⟨s.beatmaps, rfl, fun _ _ => rfl⟩
  | cons entry rest ih =>
    obtain ⟨oldId, r⟩ := entry
    rcases hlookup : newMaps.lookup oldId with _ | resp
    · obtain ⟨maps, hmaps, hframe⟩ := ih s
      refine ⟨maps, ?_, fun other hother => hframe other fun hrest =>
        hother (List.mem_cons_of_mem r hrest)⟩
      by_cases hserver : (s.beatmaps r).server = .OSU
      · rw [keepOld_gone newMaps s r rest hlookup hserver]
        exact hmaps
      · rw [keepOld_hosted newMaps s r rest hlookup hserver]
        exact hmaps
    · obtain ⟨maps, hmaps, hframe⟩ := ih (s.setBeatmap r ((s.beatmaps r).updated resp))
      refine ⟨maps, ?_, ?_⟩
      · rw [keepOld_known newMaps s r rest hlookup]
        exact hmaps
      · intro other hother
        rw [List.map_cons, List.mem_cons, not_or] at hother
        rw [hframe other hother.2]
        exact s.setBeatmap_of_ne _ hother.1

theorem keepOld_refs (entries : List (Int × MapRef)) :
    (keepOld newMaps s entries).2.1.Sublist (entries.map Prod.snd) := by
  induction entries generalizing s with
  | nil => exact List.Sublist.refl _
  | cons entry rest ih =>
    obtain ⟨oldId, r⟩ := entry
    rcases hlookup : newMaps.lookup oldId with _ | resp
    · by_cases hserver : (s.beatmaps r).server = .OSU
      · rw [keepOld_gone newMaps s r rest hlookup hserver]
        exact (ih s).cons r
      · rw [keepOld_hosted newMaps s r rest hlookup hserver]
        exact (ih s).cons_cons r
    · rw [keepOld_known newMaps s r rest hlookup]
      exact (ih _).cons_cons r

-- A map is written to once only, so each is judged as it was before the loop.
theorem keepOld_rows {entries : List (Int × MapRef)}
    (hids : ∀ entry ∈ entries, entry.1 = (s.beatmaps entry.2).id)
    (hnodup : (entries.map Prod.snd).Nodup) :
    (keepOld newMaps s entries).1.rows (keepOld newMaps s entries).2.1 =
        (s.rows (entries.map Prod.snd)).filterMap (Beatmap.refreshed newMaps) ∧
      (keepOld newMaps s entries).2.2 =
        (goneFrom newMaps (s.rows (entries.map Prod.snd))).map Beatmap.md5 := by
  induction entries generalizing s with
  | nil => exact ⟨rfl, rfl⟩
  | cons entry rest ih =>
    obtain ⟨oldId, r⟩ := entry
    rw [List.map_cons, List.nodup_cons] at hnodup
    have hid : oldId = (s.beatmaps r).id := hids _ List.mem_cons_self
    have hrest : ∀ entry ∈ rest, entry.1 = (s.beatmaps entry.2).id :=
      fun entry hentry => hids entry (List.mem_cons_of_mem _ hentry)
    have hrow : s.rows (((oldId, r) :: rest).map Prod.snd) =
        s.beatmaps r :: s.rows (rest.map Prod.snd) := rfl
    rw [hrow]
    rcases hlookup : newMaps.lookup oldId with _ | resp
    · obtain ⟨hkept, hdeleted⟩ := ih s hrest hnodup.2
      by_cases hserver : (s.beatmaps r).server = .OSU
      · rw [keepOld_gone newMaps s r rest hlookup hserver]
        have hnone : (s.beatmaps r).refreshed newMaps = none := by
          simp only [Beatmap.refreshed, ← hid, hlookup, if_pos hserver]
        refine ⟨?_, ?_⟩
        · rw [List.filterMap_cons_none hnone]
          exact hkept
        · simp only [goneFrom, List.filter_cons, ← hid, hlookup, hserver, Option.isNone_none,
            decide_true, Bool.and_self, if_true, List.map_cons]
          exact congrArg _ hdeleted
      · rw [keepOld_hosted newMaps s r rest hlookup hserver]
        have hsome : (s.beatmaps r).refreshed newMaps = some (s.beatmaps r) := by
          simp only [Beatmap.refreshed, ← hid, hlookup, if_neg hserver]
        obtain ⟨maps, hmaps, hframe⟩ := keepOld_frame newMaps s rest
        refine ⟨?_, ?_⟩
        · rw [List.filterMap_cons_some hsome, ← hkept]
          change (keepOld newMaps s rest).1.beatmaps r :: _ = _
          rw [hmaps]
          exact congrArg (fun bmap => bmap :: _) (hframe r hnodup.1)
        · simp only [goneFrom, List.filter_cons, hserver, decide_false, Bool.and_false,
            Bool.false_eq_true, if_false]
          exact hdeleted
    · have hother : ∀ entry ∈ rest,
          (s.setBeatmap r ((s.beatmaps r).updated resp)).beatmaps entry.2 = s.beatmaps entry.2 := by
        intro entry hentry
        refine s.setBeatmap_of_ne _ ?_
        intro heq
        exact hnodup.1 (List.mem_map.mpr ⟨entry, hentry, heq⟩)
      have hrows : (s.setBeatmap r ((s.beatmaps r).updated resp)).rows (rest.map Prod.snd) =
          s.rows (rest.map Prod.snd) := by
        refine List.map_congr_left fun other hmem => ?_
        obtain ⟨entry, hentry, rfl⟩ := List.mem_map.mp hmem
        exact hother entry hentry
      obtain ⟨hkept, hdeleted⟩ := ih (s.setBeatmap r ((s.beatmaps r).updated resp))
        (fun entry hentry => by rw [hother entry hentry]; exact hrest entry hentry) hnodup.2
      rw [hrows] at hkept hdeleted
      rw [keepOld_known newMaps s r rest hlookup]
      have hsome : (s.beatmaps r).refreshed newMaps = some ((s.beatmaps r).updated resp) := by
        simp only [Beatmap.refreshed, ← hid, hlookup]
      obtain ⟨maps, hmaps, hframe⟩ :=
        keepOld_frame newMaps (s.setBeatmap r ((s.beatmaps r).updated resp)) rest
      refine ⟨?_, ?_⟩
      · rw [List.filterMap_cons_some hsome, ← hkept]
        change (keepOld newMaps _ rest).1.beatmaps r :: _ = _
        rw [hmaps]
        refine congrArg (fun bmap => bmap :: _) ((hframe r hnodup.1).trans ?_)
        exact s.setBeatmap_beatmaps r _
      · simp only [goneFrom, List.filter_cons, ← hid, hlookup, Option.isNone_some, Bool.false_and,
          Bool.false_eq_true, if_false]
        exact hdeleted

-- No map changes its id or where it is hosted.
theorem keepOld_same (entries : List (Int × MapRef)) (other : MapRef) :
    ((keepOld newMaps s entries).1.beatmaps other).id = (s.beatmaps other).id ∧
      ((keepOld newMaps s entries).1.beatmaps other).server = (s.beatmaps other).server := by
  induction entries generalizing s with
  | nil => exact ⟨rfl, rfl⟩
  | cons entry rest ih =>
    obtain ⟨oldId, r⟩ := entry
    rcases hlookup : newMaps.lookup oldId with _ | resp
    · by_cases hserver : (s.beatmaps r).server = .OSU
      · rw [keepOld_gone newMaps s r rest hlookup hserver]
        exact ih s
      · rw [keepOld_hosted newMaps s r rest hlookup hserver]
        exact ih s
    · rw [keepOld_known newMaps s r rest hlookup]
      obtain ⟨hid, hserver⟩ := ih (s.setBeatmap r ((s.beatmaps r).updated resp))
      have hset := s.setBeatmap_updated_same r other resp
      exact ⟨hid.trans hset.1, hserver.trans hset.2⟩

-- Nor its md5, as long as the answer has that md5 for its id.
theorem keepOld_md5 {entries : List (Int × MapRef)} {other : MapRef}
    (hids : ∀ entry ∈ entries, entry.1 = (s.beatmaps entry.2).id)
    (hsame : ∀ resp, newMaps.lookup (s.beatmaps other).id = some resp →
      resp.fileMd5 = (s.beatmaps other).md5) :
    ((keepOld newMaps s entries).1.beatmaps other).md5 = (s.beatmaps other).md5 := by
  induction entries generalizing s with
  | nil => rfl
  | cons entry rest ih =>
    obtain ⟨oldId, r⟩ := entry
    have hid : oldId = (s.beatmaps r).id := hids _ List.mem_cons_self
    have hrest : ∀ entry ∈ rest, entry.1 = (s.beatmaps entry.2).id :=
      fun entry hentry => hids entry (List.mem_cons_of_mem _ hentry)
    rcases hlookup : newMaps.lookup oldId with _ | resp
    · by_cases hserver : (s.beatmaps r).server = .OSU
      · rw [keepOld_gone newMaps s r rest hlookup hserver]
        exact ih s hrest hsame
      · rw [keepOld_hosted newMaps s r rest hlookup hserver]
        exact ih s hrest hsame
    · have hmd5 : ((s.setBeatmap r ((s.beatmaps r).updated resp)).beatmaps other).md5 =
          (s.beatmaps other).md5 := by
        by_cases hother : other = r
        · subst hother
          rw [setBeatmap_beatmaps, updated_md5]
          exact hsame resp (hid ▸ hlookup)
        · rw [setBeatmap_of_ne s _ hother]
      rw [keepOld_known newMaps s r rest hlookup, ← hmd5]
      refine ih _ (fun entry hentry => ?_) (fun resp' hresp' => ?_)
      · rw [(s.setBeatmap_updated_same r entry.2 resp).1]
        exact hrest entry hentry
      · rw [(s.setBeatmap_updated_same r other resp).1] at hresp'
        rw [hmd5]
        exact hsame resp' hresp'

theorem mem_keepOld {entries : List (Int × MapRef)} {oldId : Int} {other : MapRef}
    (h : (oldId, other) ∈ entries)
    (hstays : (newMaps.lookup oldId).isSome ∨ (s.beatmaps other).server ≠ .OSU) :
    other ∈ (keepOld newMaps s entries).2.1 := by
  induction entries generalizing s with
  | nil => cases h
  | cons entry rest ih =>
    obtain ⟨id, r⟩ := entry
    rcases hlookup : newMaps.lookup id with _ | resp
    · by_cases hserver : (s.beatmaps r).server = .OSU
      · rw [keepOld_gone newMaps s r rest hlookup hserver]
        rcases List.mem_cons.mp h with heq | hrest
        · cases heq
          rw [hlookup] at hstays
          exact (hstays.elim (absurd · (by decide)) fun hne => hne hserver).elim
        · exact ih s hrest hstays
      · rw [keepOld_hosted newMaps s r rest hlookup hserver]
        rcases List.mem_cons.mp h with heq | hrest
        · cases heq
          exact List.mem_cons_self
        · exact List.mem_cons_of_mem r (ih s hrest hstays)
    · rw [keepOld_known newMaps s r rest hlookup]
      rcases List.mem_cons.mp h with heq | hrest
      · cases heq
        exact List.mem_cons_self
      · refine List.mem_cons_of_mem r (ih _ hrest ?_)
        rw [(s.setBeatmap_updated_same r other resp).2]
        exact hstays

end KeepOld

section AddNew

variable (σ : SetRef) (oldMaps : List (Int × MapRef))

-- What new maps of a set leave as it is, and where they go.
structure Added (s t : Server) (refs : List MapRef) (maps : List Beatmap) : Prop where
  tables : t.tables = s.tables
  sets : t.sets = s.sets
  nextSet : t.nextSet = s.nextSet
  cache : t.cache = s.cache
  nextMap : s.nextMap ≤ t.nextMap
  beatmaps : ∀ r < s.nextMap, t.beatmaps r = s.beatmaps r
  setOf : ∀ r < s.nextMap, t.setOf r = s.setOf r
  new : ∀ r ∈ refs, s.nextMap ≤ r ∧ r < t.nextMap ∧ t.setOf r = σ
  rows : t.rows refs = maps

theorem newMaps_added (s : Server) (maps : List Beatmap) :
    Added σ s (newMaps σ s maps).1 (newMaps σ s maps).2 maps := by
  induction maps generalizing s with
  | nil =>
    exact ⟨rfl, rfl, rfl, rfl, le_rfl, fun _ _ => rfl, fun _ _ => rfl,
      fun r hr => absurd hr List.not_mem_nil, rfl⟩
  | cons bmap rest ih =>
    have h := ih (s.newMap σ bmap).2
    have hcons : newMaps σ s (bmap :: rest) =
        ((newMaps σ (s.newMap σ bmap).2 rest).1,
          s.nextMap :: (newMaps σ (s.newMap σ bmap).2 rest).2) := rfl
    have hlt : s.nextMap < (s.newMap σ bmap).2.nextMap := Nat.lt_succ_self _
    rw [hcons]
    refine ⟨h.tables, h.sets, h.nextSet, h.cache, hlt.le.trans h.nextMap, ?_, ?_, ?_, ?_⟩
    · exact fun r hr => (h.beatmaps r (hr.trans hlt)).trans (Function.update_of_ne hr.ne _ _)
    · exact fun r hr => (h.setOf r (hr.trans hlt)).trans (Function.update_of_ne hr.ne _ _)
    · intro r hr
      rcases List.mem_cons.mp hr with rfl | hr
      · exact ⟨le_rfl, hlt.trans_le h.nextMap,
          (h.setOf _ hlt).trans (Function.update_self _ _ _)⟩
      · obtain ⟨hge, hrlt, hset⟩ := h.new r hr
        exact ⟨hlt.le.trans hge, hrlt, hset⟩
    · change (newMaps σ _ rest).1.beatmaps s.nextMap :: _ = _
      rw [h.beatmaps _ hlt]
      refine congrArg₂ List.cons (Function.update_self _ _ _) h.rows

-- The answers that the set has no map for.
def newIn (newMaps : List (Int × ApiMap)) : List ApiMap :=
  (newMaps.filter fun entry => ¬oldMaps.any fun old => old.1 = entry.1).map Prod.snd

theorem addNew_eq (s : Server) (entries : List (Int × ApiMap)) :
    addNew σ oldMaps s entries = newMaps σ s ((newIn oldMaps entries).map ApiMap.newBeatmap) := by
  induction entries generalizing s with
  | nil => rfl
  | cons entry rest ih =>
    obtain ⟨newId, resp⟩ := entry
    by_cases hold : (oldMaps.any fun old => old.1 = newId) = true
    · have hnewIn : newIn oldMaps ((newId, resp) :: rest) = newIn oldMaps rest := by
        simp [newIn, hold]
      rw [addNew, if_pos hold, hnewIn, ih]
    · have hnewIn : newIn oldMaps ((newId, resp) :: rest) = resp :: newIn oldMaps rest := by
        simp [newIn, hold]
      rw [addNew, if_neg hold, hnewIn, List.map_cons, newMaps]
      simp only [ih]

end AddNew

theorem oldMaps_of_nodup (s : Server) (σ : SetRef)
    (h : ((s.rows (s.sets σ).maps).map Beatmap.id).Nodup) :
    s.oldMaps σ = (s.sets σ).maps.map fun r => ((s.beatmaps r).id, r) := by
  refine dictOf_of_nodup ?_
  rw [List.map_map]
  rwa [rows, List.map_map] at h

end Server

abbrev keyed (answer : List ApiMap) : List (Int × ApiMap) :=
  answer.map fun resp => (resp.beatmapId, resp)

-- The maps of a set after the answer, when no two have an id in common.
def refreshedRows (old : List Beatmap) (answer : List ApiMap) : List Beatmap :=
  old.filterMap (Beatmap.refreshed (keyed answer)) ++
    (answer.filter fun resp => resp.beatmapId ∉ old.map Beatmap.id).map ApiMap.newBeatmap

def goneMd5s (old : List Beatmap) (answer : List ApiMap) : List String :=
  (goneFrom (keyed answer) old).map Beatmap.md5

namespace Server

theorem reconcile_eq (s : Server) (σ : SetRef) (now : Int) (answer : List ApiMap) :
    s.reconcile σ now answer =
      ((addNew σ (s.oldMaps σ) (keepOld (dictOf (keyed answer)) s (s.oldMaps σ)).1
          (dictOf (keyed answer))).1.setSet σ
        { s.sets σ with
          maps := (keepOld (dictOf (keyed answer)) s (s.oldMaps σ)).2.1 ++
            (addNew σ (s.oldMaps σ) (keepOld (dictOf (keyed answer)) s (s.oldMaps σ)).1
              (dictOf (keyed answer))).2
          lastOsuapiCheck := now },
        (keepOld (dictOf (keyed answer)) s (s.oldMaps σ)).2.2) := by
  rw [reconcile]

theorem reconcile_spec (s : Server) (σ : SetRef) (now : Int) (answer : List ApiMap)
    (hold : ((s.rows (s.sets σ).maps).map Beatmap.id).Nodup)
    (hanswer : (answer.map ApiMap.beatmapId).Nodup)
    (hallocated : ∀ r ∈ (s.sets σ).maps, r < s.nextMap) :
    let t := (s.reconcile σ now answer).1
    t.tables = s.tables ∧ (t.sets σ).id = (s.sets σ).id ∧
      t.rows (t.sets σ).maps = refreshedRows (s.rows (s.sets σ).maps) answer ∧
      (s.reconcile σ now answer).2 = goneMd5s (s.rows (s.sets σ).maps) answer := by
  have hdict : dictOf (keyed answer) = keyed answer := by
    refine dictOf_of_nodup ?_
    rwa [List.map_map]
  have hentries := s.oldMaps_of_nodup σ hold
  have hrefs : (s.oldMaps σ).map Prod.snd = (s.sets σ).maps := by
    rw [hentries, List.map_map]
    exact List.map_id _
  have hids : ∀ entry ∈ s.oldMaps σ, entry.1 = (s.beatmaps entry.2).id := by
    intro entry hentry
    rw [hentries] at hentry
    obtain ⟨r, -, rfl⟩ := List.mem_map.mp hentry
    rfl
  have hnodup : ((s.oldMaps σ).map Prod.snd).Nodup := by
    rw [hrefs]
    rw [rows, List.map_map] at hold
    exact List.Nodup.of_map _ hold
  obtain ⟨hkept, hdeleted⟩ := keepOld_rows (keyed answer) s hids hnodup
  obtain ⟨maps, hmaps, -⟩ := keepOld_frame (keyed answer) s (s.oldMaps σ)
  have hsub := keepOld_refs (keyed answer) s (s.oldMaps σ)
  have hadded := newMaps_added σ (keepOld (keyed answer) s (s.oldMaps σ)).1
    ((newIn (s.oldMaps σ) (keyed answer)).map ApiMap.newBeatmap)
  rw [← addNew_eq] at hadded
  rw [hrefs] at hkept hdeleted hsub
  rw [reconcile_eq, hdict]
  dsimp only [setSet]
  rw [Function.update_self]
  refine ⟨?_, rfl, ?_, hdeleted⟩
  · rw [hadded.tables, hmaps]
  · change rows (addNew _ _ _ _).1 _ = _
    rw [rows, List.map_append, ← rows, ← rows, hadded.rows, refreshedRows, ← hkept]
    congr 1
    · refine List.map_congr_left fun r hr => hadded.beatmaps r ?_
      rw [hmaps]
      exact hallocated r (hsub.subset hr)
    · rw [newIn, hentries]
      simp only [List.filter_map, List.map_map]
      congr 1
      refine List.filter_congr fun resp _ => ?_
      simp [rows]

end Server

section Members

variable {old : List Beatmap} {answer : List ApiMap} (hanswer : (answer.map ApiMap.beatmapId).Nodup)

theorem keyed_lookup_none {id : Int} :
    (keyed answer).lookup id = none ↔ id ∉ answer.map ApiMap.beatmapId := by
  rw [List.lookup_eq_none_iff]
  simp only [List.mem_map, bne_iff_ne, ne_eq]
  constructor
  · rintro h ⟨resp, hresp, rfl⟩
    exact h _ ⟨resp, hresp, rfl⟩ rfl
  · rintro h _ ⟨resp, hresp, rfl⟩ rfl
    exact h ⟨resp, hresp, rfl⟩

include hanswer in
theorem keyed_lookup {id : Int} {resp : ApiMap} :
    (keyed answer).lookup id = some resp ↔ resp ∈ answer ∧ resp.beatmapId = id := by
  rw [lookup_eq_some_iff (by rwa [List.map_map]), List.mem_map]
  constructor
  · rintro ⟨other, hother, heq⟩
    obtain ⟨rfl, rfl⟩ := Prod.mk.inj heq
    exact ⟨hother, rfl⟩
  · rintro ⟨hresp, rfl⟩
    exact ⟨resp, hresp, rfl⟩

include hanswer in
theorem mem_refreshedRows {bmap : Beatmap} : bmap ∈ refreshedRows old answer ↔
    (∃ was ∈ old, was.id ∉ answer.map ApiMap.beatmapId ∧ was.server ≠ .OSU ∧ bmap = was) ∨
      (∃ was ∈ old, ∃ resp ∈ answer, resp.beatmapId = was.id ∧ bmap = was.updated resp) ∨
      ∃ resp ∈ answer, resp.beatmapId ∉ old.map Beatmap.id ∧ bmap = resp.newBeatmap := by
  have hkept (was : Beatmap) : was.refreshed (keyed answer) = some bmap ↔
      (was.id ∉ answer.map ApiMap.beatmapId ∧ was.server ≠ .OSU ∧ bmap = was) ∨
        ∃ resp ∈ answer, resp.beatmapId = was.id ∧ bmap = was.updated resp := by
    unfold Beatmap.refreshed
    rcases hlookup : (keyed answer).lookup was.id with _ | resp
    · have hnone := keyed_lookup_none.mp hlookup
      have hno : ¬∃ resp ∈ answer, resp.beatmapId = was.id ∧ bmap = was.updated resp := by
        rintro ⟨resp, hresp, hid, -⟩
        exact hnone (hid ▸ List.mem_map_of_mem hresp)
      dsimp only
      split
      · rename_i hserver
        simp only [reduceCtorEq, hserver, ne_eq, not_true_eq_false, false_and, and_false,
          false_or]
        exact ⟨False.elim, hno⟩
      · rename_i hserver
        simp only [Option.some.injEq, hnone, not_false_eq_true, ne_eq, hserver, true_and]
        exact ⟨fun h => Or.inl h.symm, fun h => (h.resolve_right hno).symm⟩
    · obtain ⟨hresp, hid⟩ := (keyed_lookup hanswer).mp hlookup
      dsimp only
      rw [Option.some.injEq]
      constructor
      · rintro rfl
        exact Or.inr ⟨resp, hresp, hid, rfl⟩
      · rintro (⟨hnone, -, -⟩ | ⟨other, hother, hsame, rfl⟩)
        · exact absurd (hid ▸ List.mem_map_of_mem hresp) hnone
        · have heq := List.inj_on_of_nodup_map hanswer hother hresp (hsame.trans hid.symm)
          rw [heq]
  simp only [refreshedRows, List.mem_append, List.mem_filterMap, hkept, List.mem_map,
    List.mem_filter, decide_eq_true_eq]
  constructor
  · rintro (⟨was, hwas, h | h⟩ | ⟨resp, ⟨hresp, hnew⟩, rfl⟩)
    · exact Or.inl ⟨was, hwas, h⟩
    · exact Or.inr (Or.inl ⟨was, hwas, h⟩)
    · exact Or.inr (Or.inr ⟨resp, hresp, hnew, rfl⟩)
  · rintro (⟨was, hwas, h⟩ | ⟨was, hwas, h⟩ | ⟨resp, hresp, hnew, rfl⟩)
    · exact Or.inl ⟨was, hwas, Or.inl h⟩
    · exact Or.inl ⟨was, hwas, Or.inr h⟩
    · exact Or.inr ⟨resp, ⟨hresp, hnew⟩, rfl⟩

theorem mem_goneMd5s {md5 : String} : md5 ∈ goneMd5s old answer ↔
    ∃ was ∈ old, was.id ∉ answer.map ApiMap.beatmapId ∧ was.server = .OSU ∧ was.md5 = md5 := by
  simp only [goneMd5s, goneFrom, List.mem_map, List.mem_filter, Bool.and_eq_true,
    decide_eq_true_eq, Option.isNone_iff_eq_none, keyed_lookup_none, and_assoc]

theorem refreshed_id {newMaps : List (Int × ApiMap)} {was bmap : Beatmap}
    (h : was.refreshed newMaps = some bmap) : bmap.id = was.id := by
  unfold Beatmap.refreshed at h
  split at h
  · split at h
    · cases h
    · cases h
      rfl
  · cases h
    exact updated_id _ _

theorem refreshed_ids_sublist (newMaps : List (Int × ApiMap)) (old : List Beatmap) :
    ((old.filterMap (Beatmap.refreshed newMaps)).map Beatmap.id).Sublist
      (old.map Beatmap.id) := by
  induction old with
  | nil => exact List.Sublist.refl _
  | cons was rest ih =>
    rcases hrefreshed : was.refreshed newMaps with _ | bmap
    · rw [List.filterMap_cons_none hrefreshed]
      exact ih.cons was.id
    · rw [List.filterMap_cons_some hrefreshed, List.map_cons, List.map_cons,
        refreshed_id hrefreshed]
      exact ih.cons_cons was.id

include hanswer in
theorem refreshedRows_ids (hold : (old.map Beatmap.id).Nodup) :
    ((refreshedRows old answer).map Beatmap.id).Nodup := by
  have hsub := refreshed_ids_sublist (keyed answer) old
  rw [refreshedRows, List.map_append, List.map_map]
  refine List.Nodup.append (hold.sublist hsub) ?_ ?_
  · exact hanswer.sublist (List.filter_sublist.map _)
  · intro id hkept hnew
    obtain ⟨resp, hresp, rfl⟩ := List.mem_map.mp hnew
    exact of_decide_eq_true (List.mem_filter.mp hresp).2 (hsub.subset hkept)

-- Where a map of the answer stands, it has that map's id and md5.
include hanswer in
theorem refreshedRows_cases {bmap : Beatmap} (h : bmap ∈ refreshedRows old answer) :
    (bmap ∈ old ∧ bmap.server ≠ .OSU) ∨
      ∃ resp ∈ answer, resp.beatmapId = bmap.id ∧ resp.fileMd5 = bmap.md5 := by
  rcases (mem_refreshedRows hanswer).mp h with
    ⟨was, hwas, -, hserver, rfl⟩ | ⟨was, -, resp, hresp, hid, rfl⟩ | ⟨resp, hresp, -, rfl⟩
  · exact Or.inl ⟨hwas, hserver⟩
  · exact Or.inr ⟨resp, hresp, by rw [updated_id, hid], by rw [updated_md5]⟩
  · exact Or.inr ⟨resp, hresp, rfl, rfl⟩

include hanswer in
theorem exists_mem_refreshedRows {resp : ApiMap} (h : resp ∈ answer) :
    ∃ bmap ∈ refreshedRows old answer, bmap.id = resp.beatmapId ∧ bmap.md5 = resp.fileMd5 ∧
      (bmap = resp.newBeatmap ∨ ∃ was ∈ old, was.id = resp.beatmapId ∧
        bmap = was.updated resp) := by
  by_cases hnew : resp.beatmapId ∈ old.map Beatmap.id
  · obtain ⟨was, hwas, hid⟩ := List.mem_map.mp hnew
    refine ⟨was.updated resp, ?_, by rw [updated_id, hid], updated_md5 was resp,
      Or.inr ⟨was, hwas, hid, rfl⟩⟩
    exact (mem_refreshedRows hanswer).mpr (Or.inr (Or.inl ⟨was, hwas, resp, h, hid.symm, rfl⟩))
  · refine ⟨resp.newBeatmap, ?_, rfl, rfl, Or.inl rfl⟩
    exact (mem_refreshedRows hanswer).mpr (Or.inr (Or.inr ⟨resp, h, hnew, rfl⟩))

-- As long as no privately hosted map has an md5 of the answer.
theorem refreshedRows_unique (hold : Unique Beatmap.id Beatmap.md5 old)
    (hanswer : Unique ApiMap.beatmapId ApiMap.fileMd5 answer)
    (hprivate : ∀ was ∈ old, was.server ≠ .OSU → ∀ resp ∈ answer, resp.fileMd5 ≠ was.md5) :
    Unique Beatmap.id Beatmap.md5 (refreshedRows old answer) := by
  have hids := refreshedRows_ids hanswer.first hold.first
  refine ⟨hids, List.Nodup.map_on ?_ (List.Nodup.of_map _ hids)⟩
  intro bmap hbmap other hother hmd5
  rcases refreshedRows_cases hanswer.first hbmap with ⟨hwas, hserver⟩ | ⟨resp, hresp, hid, hfile⟩ <;>
    rcases refreshedRows_cases hanswer.first hother with
      ⟨hwas', hserver'⟩ | ⟨resp', hresp', hid', hfile'⟩
  · exact hold.eq_of_second hwas hwas' hmd5
  · exact absurd (hfile'.trans hmd5.symm) (hprivate bmap hwas hserver resp' hresp')
  · exact absurd (hfile.trans hmd5) (hprivate other hwas' hserver' resp hresp)
  · have hsame := hanswer.eq_of_second hresp hresp' (hfile.trans (hmd5.trans hfile'.symm))
    exact List.inj_on_of_nodup_map hids hbmap hother (hid.symm.trans (hsame ▸ hid'))

end Members

-- The tables that the refresh leaves.
structure Saved (before : Tables) (gone : List String) (rows : List Beatmap) (after : Tables) :
    Prop where
  maps : after.maps = replaceAll Beatmap.id Beatmap.md5
    (before.maps.filter fun row => ¬(row.md5 ∈ gone ∧ row.server = .OSU)) rows
  scores : after.scores = before.scores.filter fun row => row.mapMd5 ∉ gone

theorem Tables.deleteAll_eq (t : Tables) (md5s : List String) :
    (t.deleteAll md5s).maps = t.maps.filter (fun row => ¬(row.md5 ∈ md5s ∧ row.server = .OSU)) ∧
      (t.deleteAll md5s).scores = t.scores.filter fun row => row.mapMd5 ∉ md5s := by
  unfold Tables.deleteAll
  split
  · rename_i hnil
    subst hnil
    simp
  · exact ⟨rfl, rfl⟩

theorem Server.updateIfAvailable_data (s : Server) (σ : SetRef) (now : Int)
    (answer : List ApiMap) (hserver : (s.sets σ).server = .OSU)
    (hold : ((s.rows (s.sets σ).maps).map Beatmap.id).Nodup)
    (hanswer : (answer.map ApiMap.beatmapId).Nodup)
    (hallocated : ∀ r ∈ (s.sets σ).maps, r < s.nextMap) :
    let t := s.updateIfAvailable σ now (.data answer)
    t.rows (t.sets σ).maps = refreshedRows (s.rows (s.sets σ).maps) answer ∧
      (t.sets σ).id = (s.sets σ).id ∧
      Saved s.tables (goneMd5s (s.rows (s.sets σ).maps) answer)
        (refreshedRows (s.rows (s.sets σ).maps) answer) t.tables := by
  obtain ⟨htables, hid, hrows, hgone⟩ := s.reconcile_spec σ now answer hold hanswer hallocated
  have hupdate : s.updateIfAvailable σ now (.data answer) =
      (s.reconcile σ now answer).1.onTables fun tables =>
        ((tables.deleteAll (s.reconcile σ now answer).2).replaceMapset
          ((s.reconcile σ now answer).1.mapsetRow σ)).saveToSql
          ((s.reconcile σ now answer).1.rows ((s.reconcile σ now answer).1.sets σ).maps) := by
    rw [updateIfAvailable, if_neg (not_not.mpr hserver)]
  rw [hupdate]
  refine ⟨hrows, hid, ?_⟩
  obtain ⟨hmaps, hscores⟩ := s.tables.deleteAll_eq (goneMd5s (s.rows (s.sets σ).maps) answer)
  rw [hrows, hgone]
  constructor
  · change replaceAll _ _ (Tables.deleteAll _ _).maps _ = _
    rw [htables, hmaps]
  · change (Tables.deleteAll _ _).scores = _
    rw [htables, hscores]

end BanchoPrism.Beatmaps
