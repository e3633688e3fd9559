import BanchoPrism.Submissions.Service

namespace BanchoPrism.Submissions

open Library
open Beatmaps (MapSetRow)

-- No row has the id, as a map's or as a set's.
structure Tables.Unused (tables : Tables) (id : Int) : Prop where
  maps : ∀ row ∈ tables.maps, row.id ≠ id ∧ row.setId ≠ id
  mapsets : ∀ row ∈ tables.mapsets, row.id ≠ id
  submissions : ∀ row ∈ tables.submissions, row.setId ≠ id

-- Neither a row nor a file has the id.
structure Store.Clean (st : Store) (id : Int) : Prop where
  unused : st.Unused id
  osu : st.osuFiles id = none
  archive : st.archives id = none

-- Every row was there before, with its id, set and server.
structure Tables.Shrinks (before after : Tables) : Prop where
  maps : ∀ row ∈ after.maps, ∃ old ∈ before.maps,
    old.id = row.id ∧ old.setId = row.setId ∧ old.server = row.server
  mapsets : ∀ row ∈ after.mapsets, ∃ old ∈ before.mapsets, old.id = row.id
  submissions : ∀ row ∈ after.submissions, ∃ old ∈ before.submissions, old.setId = row.setId
  ids : (before.maps.map Beatmaps.Beatmap.id).Nodup → (after.maps.map Beatmaps.Beatmap.id).Nodup

namespace Submit

-- The ids that are allocated for a call, the set's first.
def Line.ids : Line → List Int
  | countHosted _ | allocateSet _ _ => []
  | allocateMap _ _ setId ids => setId :: ids
  | checkMd5 p _ _ | checkFilename p _ _ | writeOsu p _ _ _ | writeArchive p _ _ | commit p _ _ =>
      p.setId :: p.beatmapIds

-- The files that it has written.
def Line.osus : Line → List Int
  | writeOsu _ _ _ written | writeArchive _ written _ | commit _ written _ => written
  | _ => []

def Line.archived : Line → List Int
  | commit p _ _ => [p.setId]
  | _ => []

def Line.Formed : Line → Prop
  | allocateMap _ parsed _ ids => ids.length < parsed.length
  | writeOsu p d left written =>
      p.beatmapIds = written ++ (d :: left).map PreparedDifficulty.beatmapId
  | writeArchive p written _ | commit p written _ => written = p.beatmapIds
  | _ => True

end Submit

namespace Delete

-- The ids whose files a deletion is going to remove.
def Line.removes : Line → List Int
  | fetchSubmission _ _ => []
  | fetchMaps _ submission => [submission.setId]
  | countTotal d _ _ | countOwned d _ _ _ | deleteRows d => d.setId :: d.maps.map Beatmaps.Beatmap.id
  | removeOsu d row left => d.setId :: (row :: left).map Beatmaps.Beatmap.id
  | removeArchive d => [d.setId]

-- What becomes of the rows of the maps that it has read.
def Line.Rows (tables : Tables) : Line → Prop
  | countTotal d _ _ | countOwned d _ _ _ | deleteRows d =>
      ∀ row ∈ d.maps, ∀ other ∈ tables.maps, other.id = row.id →
        other.setId = d.setId ∧ other.server = .PRIVATE
  | removeOsu _ row left => ∀ gone ∈ row :: left, ∀ other ∈ tables.maps, other.id ≠ gone.id
  | _ => True

end Delete

namespace Line

def ids : Line → List Int
  | submit line => line.ids
  | _ => []

def osus : Line → List Int
  | submit line => line.osus
  | _ => []

def archived : Line → List Int
  | submit line => line.archived
  | _ => []

def removes : Line → List Int
  | delete line => line.removes
  | _ => []

def Formed (tables : Tables) : Line → Prop
  | submit line => line.Formed
  | delete line => line.Rows tables
  | _ => True

-- Of the ids of a call those have files that it has written.
def Holding (line : Line) (st : Store) : Prop :=
  ∀ id ∈ line.ids, ((st.osuFiles id).isSome ↔ id ∈ line.osus) ∧
    ((st.archives id).isSome ↔ id ∈ line.archived)

end Line

def heldIds (running : List (List Line)) : List Int :=
  (Tasks.gather (fun line => some line.ids) running).flatten

def Ended.ids (e : Ended) : List Int := e.setId.toList ++ e.mapIds

-- An id of a call, or the one that it is being given.
def Own (s s' : Server) (line : Line) (id : Int) : Prop :=
  id ∈ line.ids ∨ id = s.store.nextId ∧ s.store.nextId < s'.store.nextId

-- What a line does that adds no row, whether it goes on or fails.
structure Advances (s : Server) (line : Line) (s' : Server) (lines : List Line) : Prop where
  shrinks : s.store.Shrinks s'.store.toTables
  nextId : s.store.nextId ≤ s'.store.nextId
  single : lines.length ≤ 1
  nodup : (lines.flatMap Line.ids).Nodup
  own : ∀ id ∈ lines.flatMap Line.ids, Own s s' line id
  dropped : ∀ id, Own s s' line id → id ∉ lines.flatMap Line.ids →
    s'.store.osuFiles id = none ∧ s'.store.archives id = none
  osus : ∀ id, ¬Own s s' line id → s'.store.osuFiles id = s.store.osuFiles id ∨
    id ∈ line.removes ∧ s'.store.osuFiles id = none
  archives : ∀ id, ¬Own s s' line id → s'.store.archives id = s.store.archives id ∨
    id ∈ line.removes ∧ s'.store.archives id = none
  spares : ∀ row ∈ s'.store.maps, ¬Own s s' line row.id →
    s'.store.osuFiles row.id = s.store.osuFiles row.id
  ended : s'.ended = s.ended ∨ ∃ e, s'.ended = s.ended ++ [e] ∧
    ∀ id ∈ e.ids, Own s s' line id ∧ id ∉ lines.flatMap Line.ids
  holding : ∀ next ∈ lines, next.Formed s'.store.toTables ∧ next.Holding s'.store ∧
    ∀ id ∈ next.removes, id ∈ line.removes ∨ ¬s.store.Unused id

-- What every state of the service has, wherever its calls are and whatever has failed. The ids
-- from first on are those that the calls have been given.
structure Filed (first : Int) (t : Service) : Prop where
  files : ∀ row ∈ t.world.store.maps, row.server = .PRIVATE →
    (t.world.store.osuFiles row.id).isSome
  ids : (t.world.store.maps.map Beatmaps.Beatmap.id).Nodup
  fresh : ∀ id, t.world.store.nextId ≤ id → t.world.store.Clean id
  single : ∀ task ∈ t.running, task.length ≤ 1
  held_nodup : (heldIds t.running).Nodup
  held : ∀ id ∈ heldIds t.running, id < t.world.store.nextId ∧ t.world.store.Unused id
  formed : ∀ task ∈ t.running, ∀ line ∈ task,
    line.Formed t.world.store.toTables ∧ line.Holding t.world.store
  removes : ∀ task ∈ t.running, ∀ line ∈ task, ∀ id ∈ line.removes,
    id < t.world.store.nextId ∧ id ∉ heldIds t.running
  failed : ∀ e ∈ t.world.ended, e.created = false → ∀ id ∈ e.ids,
    id < t.world.store.nextId ∧ id ∉ heldIds t.running ∧ t.world.store.Clean id
  accounted : ∀ id, first ≤ id → ¬t.world.store.Clean id →
    id ∈ heldIds t.running ∨ ∃ e ∈ t.world.ended, e.created ∧ id ∈ e.ids

section Held

variable {running : List (List Line)} {i : Nat} {line : Line} {rest lines : List Line}

theorem held_next (hnext : Tasks.next running i = some (line, rest)) :
    (heldIds running).Perm (line.ids ++ heldIds (running.set i rest)) :=
  (Tasks.gather_next (fun line : Line => some line.ids) hnext).flatten

theorem held_extend (hi : i < running.length) :
    (heldIds (running.set i (lines ++ rest))).Perm
      (lines.flatMap Line.ids ++ heldIds (running.set i rest)) := by
  have hperm := (@Tasks.gather_extend Line running i rest _ (fun line : Line => some line.ids) hi
    lines).flatten
  rw [List.flatten_append] at hperm
  have hids : (lines.filterMap fun line => some line.ids).flatten = lines.flatMap Line.ids := by
    rw [List.filterMap_eq_map']
    rfl
  rwa [hids] at hperm

theorem mem_held {id : Int} : id ∈ heldIds running ↔ ∃ task ∈ running, ∃ line ∈ task, id ∈ line.ids := by
  simp only [heldIds, Tasks.gather, List.mem_flatten, List.mem_flatMap, List.mem_filterMap,
    Option.some.injEq]
  constructor
  · rintro ⟨ids, ⟨task, htask, line, hline, rfl⟩, hid⟩
    exact ⟨task, htask, line, hline, hid⟩
  · rintro ⟨task, htask, line, hline, hid⟩
    exact ⟨line.ids, ⟨task, htask, line, hline, rfl⟩, hid⟩

end Held

theorem Tables.Shrinks.unused {before after : Tables} (h : before.Shrinks after) {id : Int}
    (hunused : before.Unused id) : after.Unused id := by
  refine ⟨fun row hrow => ?_, fun row hrow => ?_, fun row hrow => ?_⟩
  · obtain ⟨old, hold, hid, hset, -⟩ := h.maps row hrow
    rw [← hid, ← hset]
    exact hunused.maps old hold
  · obtain ⟨old, hold, hid⟩ := h.mapsets row hrow
    rw [← hid]
    exact hunused.mapsets old hold
  · obtain ⟨old, hold, hset⟩ := h.submissions row hrow
    rw [← hset]
    exact hunused.submissions old hold

theorem Tables.Shrinks.formed {before after : Tables} (h : before.Shrinks after) {line : Line}
    (hformed : line.Formed before) : line.Formed after := by
  have hsame {row : Beatmaps.Beatmap} (hrow : row ∈ after.maps) : ∃ old ∈ before.maps,
      old.id = row.id ∧ old.setId = row.setId ∧ old.server = row.server := h.maps row hrow
  cases line with
  | delete line =>
    cases line with
    | countTotal d md5 left | countOwned d md5 left total | deleteRows d =>
      intro row hrow other hother hid
      obtain ⟨old, hold, hidold, hset, hserver⟩ := hsame hother
      rw [← hset, ← hserver]
      exact hformed row hrow old hold (hidold.trans hid)
    | removeOsu d row left =>
      intro gone hgone other hother
      obtain ⟨old, hold, hidold, -⟩ := hsame hother
      rw [← hidold]
      exact hformed gone hgone old hold
    | _ => exact hformed
  | _ => exact hformed

section Advancing

variable {first : Int} {t : Service} {i : Nat} {line : Line} {rest lines : List Line} {s' : Server}

theorem Filed.rest_eq_nil (h : Filed first t)
    (hnext : Tasks.next t.running i = some (line, rest)) : rest = [] := by
  have hsingle := h.single _ (Tasks.mem_of_next hnext)
  rw [List.length_cons] at hsingle
  exact List.eq_nil_of_length_eq_zero (by omega)

-- The ids of the other calls.
theorem Filed.nodup_next (h : Filed first t)
    (hnext : Tasks.next t.running i = some (line, rest)) :
    (line.ids ++ heldIds (t.running.set i rest)).Nodup := (held_next hnext).nodup_iff.mp h.held_nodup

theorem Filed.own_lt (h : Filed first t) (hnext : Tasks.next t.running i = some (line, rest))
    (hle : t.world.store.nextId ≤ s'.store.nextId) {id : Int} (hown : Own t.world s' line id) :
    id < s'.store.nextId ∧ t.world.store.Unused id := by
  rcases hown with hmine | ⟨rfl, hlt⟩
  · obtain ⟨hlt, hunused⟩ :=
      h.held id ((held_next hnext).mem_iff.mpr (List.mem_append_left _ hmine))
    exact ⟨lt_of_lt_of_le hlt hle, hunused⟩
  · exact ⟨hlt, (h.fresh _ (le_refl _)).unused⟩

-- An id that another call has, or that is no call's, is not the call's own.
theorem Filed.not_own (h : Filed first t) (hnext : Tasks.next t.running i = some (line, rest))
    {id : Int} (hlt : id < t.world.store.nextId)
    (hout : id ∈ heldIds (t.running.set i rest) ∨ id ∉ heldIds t.running) : ¬Own t.world s' line id := by
  rintro (hmine | ⟨rfl, -⟩)
  · rcases hout with hother | hnone
    · exact (List.nodup_append.mp (h.nodup_next hnext)).2.2 id hmine id hother rfl
    · exact hnone ((held_next hnext).mem_iff.mpr (List.mem_append_left _ hmine))
  · exact lt_irrefl _ hlt

theorem Advances.clean (hadv : Advances t.world line s' lines) {id : Int}
    (hown : ¬Own t.world s' line id) (h : t.world.store.Clean id) : s'.store.Clean id := by
  refine ⟨hadv.shrinks.unused h.unused, ?_, ?_⟩
  · rcases hadv.osus id hown with hsame | ⟨-, hnone⟩
    · exact hsame.trans h.osu
    · exact hnone
  · rcases hadv.archives id hown with hsame | ⟨-, hnone⟩
    · exact hsame.trans h.archive
    · exact hnone

theorem mem_held_set (hnext : Tasks.next t.running i = some (line, [])) {id : Int} :
    id ∈ heldIds (t.running.set i lines) ↔
      id ∈ lines.flatMap Line.ids ∨ id ∈ heldIds (t.running.set i []) := by
  have hperm := @held_extend _ i [] lines (Tasks.lt_of_next hnext)
  rw [List.append_nil] at hperm
  rw [hperm.mem_iff, List.mem_append]

theorem held_of_set (hnext : Tasks.next t.running i = some (line, rest)) {id : Int}
    (h : id ∈ heldIds (t.running.set i rest)) : id ∈ heldIds t.running :=
  (held_next hnext).mem_iff.mpr (List.mem_append_right _ h)

-- Every step but a commit: one lemma for what goes on, and for what fails.
theorem Filed.advance (h : Filed first t) (hnext : Tasks.next t.running i = some (line, rest))
    (hadv : Advances t.world line s' lines) :
    Filed first { world := s', running := t.running.set i lines } := by
  obtain rfl := h.rest_eq_nil hnext
  have hheld {id : Int} (hid : id ∈ heldIds (t.running.set i lines)) :
      Own t.world s' line id ∨ id ∈ heldIds (t.running.set i []) ∧ ¬Own t.world s' line id := by
    rcases (mem_held_set hnext).mp hid with hnew | hother
    · exact Or.inl (hadv.own id hnew)
    · exact Or.inr ⟨hother,
        h.not_own hnext (h.held id (held_of_set hnext hother)).1 (Or.inl hother)⟩
  have hnot {id : Int} (hlt : id < t.world.store.nextId) (hout : id ∉ heldIds t.running) :
      id ∉ heldIds (t.running.set i lines) := by
    intro hid
    rcases hheld hid with hown | ⟨hother, -⟩
    · exact h.not_own hnext hlt (Or.inr hout) hown
    · exact hout (held_of_set hnext hother)
  refine
    { files := fun row hrow hserver => ?_
      ids := hadv.shrinks.ids h.ids
      fresh := fun id hid => ?_
      single := fun task htask => ?_
      held_nodup := ?_
      held := fun id hid => ?_
      formed := fun task htask other hother => ?_
      removes := fun task htask other hother id hid => ?_
      failed := fun e he hcreated id hid => ?_
      accounted := fun id hid hclean => ?_ }
  · obtain ⟨old, hold, hid, -, hsame⟩ := hadv.shrinks.maps row hrow
    have hown : ¬Own t.world s' line row.id := by
      intro hown
      exact ((h.own_lt hnext hadv.nextId hown).2.maps old hold).1 hid
    dsimp only
    rw [hadv.spares row hrow hown, ← hid]
    exact h.files old hold (hsame.trans hserver)
  · have hown : ¬Own t.world s' line id := by
      intro hown
      exact absurd (h.own_lt hnext hadv.nextId hown).1 (not_lt.mpr hid)
    exact hadv.clean hown (h.fresh id (le_trans hadv.nextId hid))
  · rcases Tasks.mem_set_cases htask with rfl | ⟨hmem, -⟩
    · exact hadv.single
    · exact h.single task hmem
  · have hperm := @held_extend _ i [] lines (Tasks.lt_of_next hnext)
    rw [List.append_nil] at hperm
    refine hperm.nodup_iff.mpr (List.nodup_append.mpr ⟨hadv.nodup, ?_, ?_⟩)
    · exact (List.nodup_append.mp (h.nodup_next hnext)).2.1
    · rintro id hnew other hother rfl
      exact h.not_own hnext (h.held id (held_of_set hnext hother)).1 (Or.inl hother)
        (hadv.own id hnew)
  · rcases hheld hid with hown | ⟨hother, -⟩
    · obtain ⟨hlt, hunused⟩ := h.own_lt hnext hadv.nextId hown
      exact ⟨hlt, hadv.shrinks.unused hunused⟩
    · obtain ⟨hlt, hunused⟩ := h.held id (held_of_set hnext hother)
      exact ⟨lt_of_lt_of_le hlt hadv.nextId, hadv.shrinks.unused hunused⟩
  · rcases Tasks.mem_set_cases htask with rfl | ⟨hmem, hset⟩
    · obtain ⟨hformed, hholding, -⟩ := hadv.holding other hother
      exact ⟨hformed, hholding⟩
    · obtain ⟨hformed, hholding⟩ := h.formed task hmem other hother
      refine ⟨hadv.shrinks.formed hformed, fun id hid => ?_⟩
      have hrest : id ∈ heldIds (t.running.set i []) :=
        mem_held.mpr ⟨task, hset [], other, hother, hid⟩
      have hin := held_of_set hnext hrest
      have hown : ¬Own t.world s' line id := h.not_own hnext (h.held id hin).1 (Or.inl hrest)
      have hremoves : id ∉ line.removes := fun hremoved =>
        (h.removes _ (Tasks.mem_of_next hnext) line List.mem_cons_self id hremoved).2 hin
      have hosu := (hadv.osus id hown).resolve_right fun hremoved => hremoves hremoved.1
      have harchive := (hadv.archives id hown).resolve_right fun hremoved => hremoves hremoved.1
      dsimp only
      rw [hosu, harchive]
      exact hholding id hid
  · have hold (hlt : id < t.world.store.nextId) (hout : id ∉ heldIds t.running) :
        id < s'.store.nextId ∧ id ∉ heldIds (t.running.set i lines) :=
      ⟨lt_of_lt_of_le hlt hadv.nextId, hnot hlt hout⟩
    rcases Tasks.mem_set_cases htask with rfl | ⟨hmem, -⟩
    · rcases (hadv.holding other hother).2.2 id hid with hsame | hused
      · obtain ⟨hlt, hout⟩ := h.removes _ (Tasks.mem_of_next hnext) line List.mem_cons_self id hsame
        exact hold hlt hout
      · refine hold ?_ fun hin => hused (h.held id hin).2
        by_contra hle
        exact hused (h.fresh id (not_lt.mp hle)).unused
    · obtain ⟨hlt, hout⟩ := h.removes task hmem other hother id hid
      exact hold hlt hout
  · have hold (hin : e ∈ t.world.ended) : id < s'.store.nextId ∧
        id ∉ heldIds (t.running.set i lines) ∧ s'.store.Clean id := by
      obtain ⟨hlt, hout, hclean⟩ := h.failed e hin hcreated id hid
      exact ⟨lt_of_lt_of_le hlt hadv.nextId, hnot hlt hout,
        hadv.clean (h.not_own hnext hlt (Or.inr hout)) hclean⟩
    rcases hadv.ended with hsame | ⟨new, hended, hnew⟩
    · exact hold (hsame ▸ he)
    · dsimp only at he
      rw [hended] at he
      rcases List.mem_append.mp he with hin | hlast
      · exact hold hin
      · rw [List.mem_singleton.mp hlast] at hid
        obtain ⟨hown, hout⟩ := hnew id hid
        obtain ⟨hlt, hunused⟩ := h.own_lt hnext hadv.nextId hown
        obtain ⟨hosu, harchive⟩ := hadv.dropped id hown hout
        refine ⟨hlt, fun hin => ?_, hadv.shrinks.unused hunused, hosu, harchive⟩
        rcases (mem_held_set hnext).mp hin with hlines | hother
        · exact hout hlines
        · exact h.not_own hnext (h.held id (held_of_set hnext hother)).1 (Or.inl hother) hown
  · by_cases hown : Own t.world s' line id
    · by_cases hlines : id ∈ lines.flatMap Line.ids
      · exact Or.inl ((mem_held_set hnext).mpr (Or.inl hlines))
      · obtain ⟨hosu, harchive⟩ := hadv.dropped id hown hlines
        have hunused := (h.own_lt hnext hadv.nextId hown).2
        exact absurd ⟨hadv.shrinks.unused hunused, hosu, harchive⟩ hclean
    · rcases h.accounted id hid fun hwas => hclean (hadv.clean hown hwas) with hin | ⟨e, he, hcreated⟩
      · rcases List.mem_append.mp ((held_next hnext).mem_iff.mp hin) with hmine | hother
        · exact absurd (Or.inl hmine) hown
        · exact Or.inl ((mem_held_set hnext).mpr (Or.inr hother))
      · refine Or.inr ⟨e, ?_, hcreated⟩
        rcases hadv.ended with hsame | ⟨new, hended, -⟩
        · exact hsame ▸ he
        · dsimp only
          rw [hended]
          exact List.mem_append_left _ he

theorem commit_unused {st st' : Store} {host : Host} {p : Prepared} {archive : List Entry}
    (h : st.commitSubmission host p archive = some st') {id : Int}
    (hid : id ∉ p.setId :: p.beatmapIds) (hunused : st.Unused id) : st'.Unused id := by
  obtain ⟨mapsets, mapset, maps, hmapsets, -, -, hmaps, -, rfl⟩ := commitSubmission_eq_some h
  obtain ⟨rfl, -, -⟩ := insertMaps_eq_some hmaps
  rw [List.mem_cons, not_or] at hid
  refine ⟨fun row hrow => ?_, fun row hrow => ?_, fun row hrow => ?_⟩
  · rcases List.mem_append.mp hrow with hold | hnew
    · exact hunused.maps row hold
    · obtain ⟨d, hd, rfl⟩ := List.mem_map.mp hnew
      exact ⟨fun heq => hid.2 (heq ▸ List.mem_map_of_mem hd), fun heq => hid.1 heq.symm⟩
  · dsimp only at hrow
    rw [hmapsets] at hrow
    have hkey := @key_of_mem_upsertBy _ _ _ MapSetRow.id st.mapsets
      { id := p.setId, server := .PRIVATE, lastOsuapiCheck := p.upload.timestamp }
      (fun old => { old with lastOsuapiCheck := p.upload.timestamp }) (fun _ => rfl) row hrow
    rcases hkey with hnew | ⟨old, hold, hsame⟩
    · exact fun heq => hid.1 (heq.symm.trans hnew)
    · exact hsame ▸ hunused.mapsets old hold
  · rcases List.mem_append.mp hrow with hold | hnew
    · exact hunused.submissions row hold
    · rw [List.mem_singleton.mp hnew]
      exact fun heq => hid.1 heq.symm

-- The new rows are none that a deletion has read.
theorem formed_commit {st st' : Store} {host : Host} {p : Prepared} {archive : List Entry}
    (h : st.commitSubmission host p archive = some st') {other : Line}
    (hformed : other.Formed st.toTables)
    (hremoves : ∀ id ∈ other.removes, id ∉ p.setId :: p.beatmapIds) :
    other.Formed st'.toTables := by
  obtain ⟨mapsets, mapset, maps, hmapsets, -, -, hmaps, -, rfl⟩ := commitSubmission_eq_some h
  obtain ⟨rfl, -, -⟩ := insertMaps_eq_some hmaps
  have hnew {row : Beatmaps.Beatmap} (hrow : row ∈ p.rows) {id : Int} (hid : id ∈ other.removes) :
      row.id ≠ id := by
    obtain ⟨d, hd, rfl⟩ := List.mem_map.mp hrow
    intro heq
    exact hremoves id hid (heq ▸ List.mem_cons_of_mem _ (List.mem_map_of_mem hd))
  cases other with
  | delete line =>
    cases line with
    | countTotal d md5 left | countOwned d md5 left total | deleteRows d =>
      intro row hrow row' hrow' hid
      rcases List.mem_append.mp hrow' with hold | hrows
      · exact hformed row hrow row' hold hid
      · exact absurd hid (hnew hrows (List.mem_cons_of_mem _ (List.mem_map_of_mem hrow)))
    | removeOsu d row left =>
      intro gone hgone row' hrow'
      rcases List.mem_append.mp hrow' with hold | hrows
      · exact hformed gone hgone row' hold
      · exact hnew hrows (List.mem_cons_of_mem _ (List.mem_map_of_mem hgone))
    | _ => exact hformed
  | _ => exact hformed

theorem Filed.create (h : Filed first t) {host : Host} {p : Prepared} {written : List Int}
    {archive : List Entry} {store : Store}
    (hnext : Tasks.next t.running i = some (.submit (.commit p written archive), rest))
    (hcommit : t.world.store.commitSubmission host p archive = some store) :
    Filed first
      { world := p.endWith { t.world with store := store } (some (p.created host archive))
        running := t.running.set i [] } := by
  obtain rfl := h.rest_eq_nil hnext
  have hmine : (Line.submit (.commit p written archive)).ids = p.setId :: p.beatmapIds := rfl
  have hin {id : Int} (hid : id ∈ p.setId :: p.beatmapIds) : id ∈ heldIds t.running :=
    (held_next hnext).mem_iff.mpr (List.mem_append_left _ hid)
  have hother {id : Int} (hid : id ∈ heldIds (t.running.set i [])) :
      id ∉ p.setId :: p.beatmapIds := fun hown =>
    (List.nodup_append.mp (h.nodup_next hnext)).2.2 id hown id hid rfl
  obtain ⟨mapsets, mapset, maps, hmapsets, -, -, hmaps, -, hstore⟩ :=
    commitSubmission_eq_some hcommit
  obtain ⟨hrows, hids, -⟩ := insertMaps_eq_some hmaps
  have hclean {id : Int} (hid : id ∉ p.setId :: p.beatmapIds) (hwas : t.world.store.Clean id) :
      store.Clean id :=
    ⟨commit_unused hcommit hid hwas.unused, by rw [hstore]; exact hwas.osu,
      by rw [hstore]; exact hwas.archive⟩
  obtain ⟨hwritten, hholding⟩ := h.formed _ (Tasks.mem_of_next hnext) _ List.mem_cons_self
  refine
    { files := fun row hrow hserver => ?_
      ids := ?_
      fresh := fun id hid => ?_
      single := fun task htask => ?_
      held_nodup := (List.nodup_append.mp (h.nodup_next hnext)).2.1
      held := fun id hid => ?_
      formed := fun task htask line hline => ?_
      removes := fun task htask line hline id hid => ?_
      failed := fun e he hcreated id hid => ?_
      accounted := fun id hid hnot => ?_ }
  · dsimp only [Prepared.endWith, Server.endWith] at hrow ⊢
    rw [hstore] at hrow ⊢
    dsimp only at hrow ⊢
    rw [hrows] at hrow
    rcases List.mem_append.mp hrow with hold | hnew
    · exact h.files row hold hserver
    · obtain ⟨d, hd, rfl⟩ := List.mem_map.mp hnew
      have hid : d.beatmapId ∈ p.beatmapIds := List.mem_map_of_mem hd
      refine (hholding d.beatmapId (List.mem_cons_of_mem _ hid)).1.mpr ?_
      change d.beatmapId ∈ written
      rw [show written = p.beatmapIds from hwritten]
      exact hid
  · change (store.maps.map Beatmaps.Beatmap.id).Nodup
    rw [hstore]
    exact hids h.ids
  · have hnext' : store.nextId = t.world.store.nextId := by rw [hstore]
    change store.nextId ≤ id at hid
    rw [hnext'] at hid
    refine hclean (fun hown => ?_) (h.fresh id hid)
    exact absurd (h.held id (hin hown)).1 (not_lt.mpr hid)
  · rcases Tasks.mem_set_cases htask with rfl | ⟨hmem, -⟩
    · exact Nat.zero_le 1
    · exact h.single task hmem
  · obtain ⟨hlt, hunused⟩ := h.held id (held_of_set hnext hid)
    refine ⟨?_, commit_unused hcommit (hother hid) hunused⟩
    change id < store.nextId
    rw [hstore]
    exact hlt
  · rcases Tasks.mem_set_cases htask with rfl | ⟨hmem, hset⟩
    · cases hline
    · obtain ⟨hformed, hholds⟩ := h.formed task hmem line hline
      refine ⟨formed_commit hcommit hformed fun id hid hown => ?_, ?_⟩
      · exact (h.removes task hmem line hline id hid).2 (hin hown)
      · change line.Holding store
        rw [hstore]
        exact hholds
  · rcases Tasks.mem_set_cases htask with rfl | ⟨hmem, -⟩
    · cases hline
    · obtain ⟨hlt, hout⟩ := h.removes task hmem line hline id hid
      refine ⟨?_, fun hstill => hout (held_of_set hnext hstill)⟩
      change id < store.nextId
      rw [hstore]
      exact hlt
  · dsimp only [Prepared.endWith, Server.endWith] at he
    rcases List.mem_append.mp he with hold | hnew
    · obtain ⟨hlt, hout, hwas⟩ := h.failed e hold hcreated id hid
      refine ⟨?_, fun hstill => hout (held_of_set hnext hstill), hclean (fun hown => ?_) hwas⟩
      · change id < store.nextId
        rw [hstore]
        exact hlt
      · exact hout (hin hown)
    · rw [List.mem_singleton.mp hnew] at hcreated
      simp [Ended.created, Prepared.created] at hcreated
  · by_cases hown : id ∈ p.setId :: p.beatmapIds
    · refine Or.inr ⟨_, List.mem_append_right _ List.mem_cons_self, ?_, hown⟩
      simp [Ended.created, Prepared.created]
    · rcases h.accounted id hid fun hwas => hnot (hclean hown hwas) with hheld | ⟨e, he, hcreated⟩
      · rcases List.mem_append.mp ((held_next hnext).mem_iff.mp hheld) with hmy | hrest
        · exact absurd hmy hown
        · exact Or.inl hrest
      · exact Or.inr ⟨e, List.mem_append_left _ he, hcreated⟩

end Advancing

end BanchoPrism.Submissions
