import BanchoPrism.Submissions.Files

namespace BanchoPrism.Submissions

open Library

-- What becomes of a call that has some ids, and files of some of them.
inductive Submit.Outcome (s : Server) (ids osus archived : List Int) :
    Server → List Submit.Line → Prop
  | goes {next : Submit.Line} (hids : next.ids = ids) (hosus : next.osus = osus)
      (harchived : next.archived = archived) (hformed : next.Formed) :
      Outcome s ids osus archived s [next]
  | fails {s' : Server} {e : Ended} (htables : s'.store.toTables = s.store.toTables)
      (hnextId : s'.store.nextId = s.store.nextId)
      (hosus : ∀ id, s'.store.osuFiles id = if id ∈ osus then none else s.store.osuFiles id)
      (harchives : ∀ id, s'.store.archives id = if id ∈ archived then none else s.store.archives id)
      (hended : s'.ended = s.ended ++ [e]) (hids : ∀ id ∈ e.ids, id ∈ ids) :
      Outcome s ids osus archived s' []

-- The ids of a call when a line has done its part, and the files that it has of them.
structure Owned (s : Server) (line : Line) (s₁ : Server) (ids osus archived : List Int) : Prop where
  tables : s₁.store.toTables = s.store.toTables
  nextId : s.store.nextId ≤ s₁.store.nextId
  ended : s₁.ended = s.ended
  nodup : ids.Nodup
  own : ∀ id, id ∈ ids ↔ Own s s₁ line id
  holding : ∀ id ∈ ids, ((s₁.store.osuFiles id).isSome ↔ id ∈ osus) ∧
    ((s₁.store.archives id).isSome ↔ id ∈ archived)
  elsewhere : ∀ id ∉ ids, s₁.store.osuFiles id = s.store.osuFiles id ∧
    s₁.store.archives id = s.store.archives id
  osus : ∀ id ∈ osus, id ∈ ids
  archived : ∀ id ∈ archived, id ∈ ids

theorem Tables.shrinks_of_eq {before after : Tables} (h : after = before) :
    before.Shrinks after := by
  subst h
  exact ⟨fun row hrow => ⟨row, hrow, rfl, rfl, rfl⟩, fun row hrow => ⟨row, hrow, rfl⟩,
    fun row hrow => ⟨row, hrow, rfl⟩, id⟩

section Outcomes

variable {s s₁ s' : Server} {line : Line} {ids osus archived : List Int}

theorem Owned.advances (h : Owned s line s₁ ids osus archived) {lines : List Submit.Line}
    (hout : Submit.Outcome s₁ ids osus archived s' lines) :
    Advances s line s' (lines.map .submit) := by
  cases hout with
  | @goes next hids hosus harchived hformed =>
    have hflat : ([next].map Line.submit).flatMap Line.ids = ids := by
      simpa [Line.ids] using hids
    have hsame {id : Int} (hown : ¬Own s s₁ line id) := h.elsewhere id (mt (h.own id).mp hown)
    refine
      { shrinks := Tables.shrinks_of_eq h.tables
        nextId := h.nextId
        single := le_refl 1
        nodup := hflat ▸ h.nodup
        own := fun id hid => (h.own id).mp (hflat ▸ hid)
        dropped := fun id hown hnot => absurd ((h.own id).mpr hown) (hflat ▸ hnot)
        osus := fun id hown => Or.inl (hsame hown).1
        archives := fun id hown => Or.inl (hsame hown).2
        spares := fun row _ hown => (hsame hown).1
        ended := Or.inl h.ended
        holding := fun other hother => ?_ }
    rw [List.map_singleton, List.mem_singleton] at hother
    subst hother
    refine ⟨hformed, fun id hid => ?_, fun id hid => absurd hid List.not_mem_nil⟩
    simp only [Line.ids, Line.osus, Line.archived, hids, hosus, harchived] at hid ⊢
    exact h.holding id hid
  | @fails s' e htables hnextId hosus harchives hended hids =>
    have hsame {id : Int} (hown : ¬Own s s' line id) : s'.store.osuFiles id = s.store.osuFiles id ∧
        s'.store.archives id = s.store.archives id := by
      have hout : id ∉ ids := fun hin => by
        have hwas := (h.own id).mp hin
        unfold Own at hwas hown
        rw [hnextId] at hown
        exact hown hwas
      rw [hosus, harchives, if_neg fun hin => hout (h.osus id hin),
        if_neg fun hin => hout (h.archived id hin)]
      exact h.elsewhere id hout
    have hown {id : Int} : id ∈ ids ↔ Own s s' line id := by
      rw [h.own]
      unfold Own
      rw [hnextId]
    refine
      { shrinks := Tables.shrinks_of_eq (htables.trans h.tables)
        nextId := hnextId ▸ h.nextId
        single := Nat.zero_le 1
        nodup := List.nodup_nil
        own := fun id hid => absurd hid List.not_mem_nil
        dropped := fun id hmine _ => ?_
        osus := fun id hmine => Or.inl (hsame hmine).1
        archives := fun id hmine => Or.inl (hsame hmine).2
        spares := fun row _ hmine => (hsame hmine).1
        ended := Or.inr ⟨e, h.ended ▸ hended, fun id hid => ⟨hown.mp (hids id hid), List.not_mem_nil⟩⟩
        holding := fun other hother => absurd hother List.not_mem_nil }
    obtain ⟨hosu, harchive⟩ := h.holding id (hown.mpr hmine)
    rw [hosus, harchives]
    constructor
    · split
      · rfl
      · rename_i hin
        exact Option.not_isSome_iff_eq_none.mp (mt hosu.mp hin)
    · split
      · rfl
      · rename_i hin
        exact Option.not_isSome_iff_eq_none.mp (mt harchive.mp hin)

theorem outcome_endWith (setId : Option Int) (mapIds : List Int)
    (result : Option BeatmapSubmissionResult) (hids : ∀ id ∈ setId.toList ++ mapIds, id ∈ ids) :
    Submit.Outcome s ids [] [] (s.endWith setId mapIds result) [] :=
  .fails rfl rfl (fun _ => rfl) (fun _ => rfl) rfl hids

theorem outcome_unwind (p : Prepared) (written : List Int) (whole : Bool) :
    Submit.Outcome s (p.setId :: p.beatmapIds) written (if whole then [p.setId] else [])
      (Submit.unwind s p written whole) [] := by
  refine .fails (Submit.unwind_tables written whole) ?_ (fun id => ?_) (fun id => ?_) rfl
    fun id hid => hid
  · cases whole <;> rfl
  · cases whole <;> rfl
  · cases whole with
    | false => rfl
    | true =>
      simp only [Submit.unwind, if_true, Submit.prepared_endWith_store, Store.removeOsus,
        Function.update_apply, List.mem_singleton]

theorem outcome_writing {p : Prepared} {written : List Int} {left : List PreparedDifficulty}
    (h : p.beatmapIds = written ++ left.map PreparedDifficulty.beatmapId) :
    Submit.Outcome s (p.setId :: p.beatmapIds) written []
      (Submit.writing p s written left).1 (Submit.writing p s written left).2 := by
  cases left with
  | cons d left => exact .goes rfl rfl rfl h
  | nil =>
    simp only [Submit.writing]
    split
    · exact outcome_unwind p written false
    · exact .goes rfl rfl rfl (h.trans (List.append_nil written)).symm

theorem outcome_checking {p : Prepared} (left : List PreparedDifficulty) :
    Submit.Outcome s (p.setId :: p.beatmapIds) [] []
      (Submit.checking p s left).1 (Submit.checking p s left).2 := by
  cases left with
  | cons d left => exact .goes rfl rfl rfl trivial
  | nil => exact outcome_writing rfl

theorem outcome_preparing {host : Host} {u : Upload} {parsed : Parsed} {setId : Int}
    (hlength : ids.length ≤ parsed.length) :
    Submit.Outcome s (setId :: ids) [] []
      (Submit.preparing host u parsed setId ids s).1
      (Submit.preparing host u parsed setId ids s).2 := by
  unfold Submit.preparing
  split
  · rename_i hlt
    exact .goes rfl rfl rfl hlt
  · rename_i hlt
    split
    · exact outcome_endWith (some setId) ids _ fun id hid => hid
    · rename_i p hprepare
      obtain ⟨rfl, rfl⟩ := prepare_ids hprepare (by omega)
      exact outcome_checking p.difficulties

end Outcomes

-- What is known of the store and of a line of an upload when it is run.
structure Uploading (s : Server) (line : Submit.Line) : Prop where
  formed : line.Formed
  holding : (Line.submit line).Holding s.store
  nodup : line.ids.Nodup
  lt : ∀ id ∈ line.ids, id < s.store.nextId
  fresh : s.store.Clean s.store.nextId

section Uploads

variable {host : Host} {s : Server} {line : Submit.Line}

theorem osus_mem (h : line.Formed) {id : Int} (hid : id ∈ line.osus) : id ∈ line.ids := by
  cases line with
  | writeOsu p d left written =>
    refine List.mem_cons_of_mem _ ?_
    rw [show p.beatmapIds = _ from h]
    exact List.mem_append_left _ hid
  | writeArchive p written archive | commit p written archive =>
    exact List.mem_cons_of_mem _ ((show written = p.beatmapIds from h) ▸ hid)
  | _ => cases hid

theorem archived_mem {id : Int} (hid : id ∈ line.archived) : id ∈ line.ids := by
  cases line with
  | commit p written archive =>
    rw [List.mem_singleton.mp hid]
    exact List.mem_cons_self
  | _ => cases hid

theorem own_same {other : Line} (id : Int) : id ∈ other.ids ↔ Own s s other id := by
  constructor
  · exact Or.inl
  · rintro (hmine | ⟨-, hlt⟩)
    · exact hmine
    · exact absurd hlt (lt_irrefl _)

-- A line that only reads.
theorem Uploading.owned (h : Uploading s line) :
    Owned s (.submit line) s line.ids line.osus line.archived where
  tables := rfl
  nextId := le_refl _
  ended := rfl
  nodup := h.nodup
  own id := @own_same s (.submit line) id
  holding := h.holding
  elsewhere _ _ := ⟨rfl, rfl⟩
  osus _ := osus_mem h.formed
  archived _ := archived_mem

theorem Uploading.allocated (h : Uploading s line) (hosus : line.osus = [])
    (harchived : line.archived = []) :
    Owned s (.submit line) { s with store := { s.store with nextId := s.store.nextId + 1 } }
      (line.ids ++ [s.store.nextId]) [] [] where
  tables := rfl
  nextId := by simp
  ended := rfl
  nodup := by
    refine (List.perm_append_singleton _ _).nodup_iff.mpr (List.nodup_cons.mpr ⟨?_, h.nodup⟩)
    exact fun hmem => lt_irrefl _ (h.lt _ hmem)
  own id := by
    simp [Own, Line.ids]
  holding id hid := by
    rcases List.mem_append.mp hid with hold | hnew
    · obtain ⟨hosu, harchive⟩ := h.holding id hold
      simp only [Line.osus, Line.archived, hosus, harchived] at hosu harchive
      exact ⟨hosu, harchive⟩
    · rw [List.mem_singleton.mp hnew]
      simp [h.fresh.osu, h.fresh.archive]
  elsewhere _ _ := ⟨rfl, rfl⟩
  osus _ hid := absurd hid List.not_mem_nil
  archived _ hid := absurd hid List.not_mem_nil

theorem Uploading.wroteOsu {p : Prepared} {d : PreparedDifficulty}
    {left : List PreparedDifficulty} {written : List Int}
    (h : Uploading s (.writeOsu p d left written)) :
    Owned s (.submit (.writeOsu p d left written)) { s with store := s.store.writeOsu d }
      (p.setId :: p.beatmapIds) (written ++ [d.beatmapId]) [] where
  tables := rfl
  nextId := le_refl _
  ended := rfl
  nodup := h.nodup
  own id := @own_same s (.submit (.writeOsu p d left written)) id
  holding id hid := by
    obtain ⟨hosu, harchive⟩ := h.holding id hid
    refine ⟨?_, harchive⟩
    simp only [Store.writeOsu, Function.update_apply, List.mem_append, List.mem_singleton]
    split
    · rename_i heq
      simp [heq]
    · rename_i hne
      rw [hosu]
      simp [hne, Line.osus, Submit.Line.osus]
  elsewhere id hid := by
    have hne : id ≠ d.beatmapId := by
      rintro rfl
      refine hid (List.mem_cons_of_mem _ ?_)
      rw [show p.beatmapIds = _ from h.formed]
      simp
    exact ⟨Function.update_of_ne hne _ _, rfl⟩
  osus id hid := by
    refine List.mem_cons_of_mem _ ?_
    rw [show p.beatmapIds = _ from h.formed]
    rcases List.mem_append.mp hid with hold | hnew
    · exact List.mem_append_left _ hold
    · rw [List.mem_singleton.mp hnew]
      exact List.mem_append_right _ List.mem_cons_self
  archived _ hid := absurd hid List.not_mem_nil

theorem Uploading.wroteArchive {p : Prepared} {written : List Int} {archive : List Entry}
    (h : Uploading s (.writeArchive p written archive)) :
    Owned s (.submit (.writeArchive p written archive))
      { s with store := s.store.writeArchive p.setId archive }
      (p.setId :: p.beatmapIds) written [p.setId] where
  tables := rfl
  nextId := le_refl _
  ended := rfl
  nodup := h.nodup
  own id := @own_same s (.submit (.writeArchive p written archive)) id
  holding id hid := by
    obtain ⟨hosu, harchive⟩ := h.holding id hid
    refine ⟨hosu, ?_⟩
    simp only [Store.writeArchive, Function.update_apply, List.mem_singleton]
    split
    · rename_i heq
      simp [heq]
    · rename_i hne
      rw [harchive]
      simp [hne, Line.archived, Submit.Line.archived]
  elsewhere id hid := by
    have hne : id ≠ p.setId := fun heq => hid (heq ▸ List.mem_cons_self)
    exact ⟨rfl, Function.update_of_ne hne _ _⟩
  osus id hid := @osus_mem (.writeArchive p written archive) h.formed id hid
  archived id hid := by
    rw [List.mem_singleton.mp hid]
    exact List.mem_cons_self

-- A line of an upload goes on or fails, and what it has written goes with it, or it commits.
theorem Uploading.advances (h : Uploading s line) :
    Advances s (.submit line) (line.perform host s).1 ((line.perform host s).2.map .submit) ∨
      ∃ p written archive store, line = .commit p written archive ∧
        s.store.commitSubmission host p archive = some store := by
  cases line with
  | countHosted u =>
    refine Or.inl (h.owned.advances ?_)
    simp only [Submit.Line.perform]
    split
    · exact outcome_endWith none [] _ fun id hid => absurd hid List.not_mem_nil
    · split
      · exact outcome_endWith none [] _ fun id hid => absurd hid List.not_mem_nil
      · split
        · exact outcome_endWith none [] _ fun id hid => absurd hid List.not_mem_nil
        · exact .goes rfl rfl rfl trivial
  | allocateSet u parsed =>
    refine Or.inl ((h.allocated rfl rfl).advances ?_)
    simp only [Submit.Line.perform]
    split
    · exact outcome_endWith none [] _ fun id hid => absurd hid List.not_mem_nil
    · exact outcome_preparing (Nat.zero_le _)
  | allocateMap u parsed setId ids =>
    refine Or.inl ((h.allocated rfl rfl).advances ?_)
    have hlt : ids.length < parsed.length := h.formed
    simp only [Submit.Line.perform]
    split
    · exact outcome_endWith (some setId) ids _ fun id hid => List.mem_append_left _ hid
    · refine outcome_preparing ?_
      change (ids ++ [s.store.nextId]).length ≤ _
      rw [List.length_append, List.length_singleton]
      omega
  | checkMd5 p d left =>
    refine Or.inl (h.owned.advances ?_)
    simp only [Submit.Line.perform]
    split
    · exact outcome_endWith (some p.setId) p.beatmapIds _ fun id hid => hid
    · exact .goes rfl rfl rfl trivial
  | checkFilename p d left =>
    refine Or.inl (h.owned.advances ?_)
    simp only [Submit.Line.perform]
    split
    · exact outcome_endWith (some p.setId) p.beatmapIds _ fun id hid => hid
    · exact outcome_checking left
  | writeOsu p d left written =>
    refine Or.inl (h.wroteOsu.advances (outcome_writing ?_))
    rw [show p.beatmapIds = _ from h.formed, List.append_assoc]
    rfl
  | writeArchive p written archive =>
    exact Or.inl (h.wroteArchive.advances (.goes rfl rfl rfl h.formed))
  | commit p written archive =>
    cases hcommit : s.store.commitSubmission host p archive with
    | some store => exact Or.inr ⟨p, written, archive, store, rfl, hcommit⟩
    | none =>
      refine Or.inl (h.owned.advances ?_)
      simp only [Submit.Line.perform, hcommit]
      exact outcome_unwind p written true

theorem Uploading.recovers (h : Uploading s line) :
    Advances s (.submit line) (line.recover s) [] := by
  refine @Owned.advances _ _ _ _ _ _ _ h.owned [] ?_
  cases line with
  | countHosted | allocateSet =>
    exact outcome_endWith none [] _ fun id hid => absurd hid List.not_mem_nil
  | allocateMap u parsed setId ids => exact outcome_endWith (some setId) ids _ fun id hid => hid
  | checkMd5 p d left | checkFilename p d left =>
    exact outcome_endWith (some p.setId) p.beatmapIds _ fun id hid => hid
  | writeOsu p d left written => exact outcome_unwind p written false
  | writeArchive p written archive => exact outcome_unwind p written false
  | commit p written archive => exact outcome_unwind p written true

end Uploads

section Others

variable {s : Server} {st : Store} {id : Int}

theorem shrinks_reviewSet (u : Update) : st.Shrinks (st.reviewSet u).toTables := by
  refine ⟨fun row hrow => ⟨row, hrow, rfl, rfl, rfl⟩, fun row hrow => ⟨row, hrow, rfl⟩,
    fun row hrow => ?_, fun hids => hids⟩
  obtain ⟨old, hold, rfl⟩ := List.mem_map.mp hrow
  refine ⟨old, hold, ?_⟩
  split <;> rfl

theorem shrinks_setStatus (status : Scores.RankedStatus) :
    st.Shrinks (st.setStatus id status).toTables := by
  refine ⟨fun row hrow => ?_, fun row hrow => ⟨row, hrow, rfl⟩, fun row hrow => ⟨row, hrow, rfl⟩,
    fun hids => ?_⟩
  · obtain ⟨old, hold, rfl⟩ := List.mem_map.mp hrow
    refine ⟨old, hold, ?_⟩
    split <;> exact ⟨rfl, rfl, rfl⟩
  · have hsame : (st.setStatus id status).maps.map Beatmaps.Beatmap.id = st.maps.map Beatmaps.Beatmap.id := by
      simp only [Store.setStatus, List.map_map]
      refine List.map_congr_left fun row _ => ?_
      simp only [Function.comp_apply]
      split <;> rfl
    exact hsame ▸ hids

theorem shrinks_deleteSet (d : Deletion) : st.Shrinks (st.deleteSet d).toTables where
  maps row hrow := ⟨row, List.mem_of_mem_filter hrow, rfl, rfl, rfl⟩
  mapsets row hrow := ⟨row, List.mem_of_mem_filter hrow, rfl⟩
  submissions row hrow := ⟨row, List.mem_of_mem_filter hrow, rfl⟩
  ids hids := hids.sublist (List.filter_sublist.map Beatmaps.Beatmap.id)

-- What a line does of a call that no ids are allocated for.
structure Idles (s : Server) (line : Line) (s' : Server) (lines : List Line) : Prop where
  noIds : line.ids = []
  noneLeft : ∀ next ∈ lines, next.ids = []
  single : lines.length ≤ 1
  shrinks : s.store.Shrinks s'.store.toTables
  nextId : s'.store.nextId = s.store.nextId
  osus : ∀ id, s'.store.osuFiles id = s.store.osuFiles id ∨
    id ∈ line.removes ∧ s'.store.osuFiles id = none
  archives : ∀ id, s'.store.archives id = s.store.archives id ∨
    id ∈ line.removes ∧ s'.store.archives id = none
  spares : ∀ row ∈ s'.store.maps, s'.store.osuFiles row.id = s.store.osuFiles row.id
  ended : s'.ended = s.ended ∨ ∃ result, s'.ended = (s.endWith none [] result).ended
  formed : ∀ next ∈ lines, next.Formed s'.store.toTables
  removes : ∀ next ∈ lines, ∀ id ∈ next.removes, id ∈ line.removes ∨ ¬s.store.Unused id

theorem Idles.advances {s' : Server} {line : Line} {lines : List Line}
    (h : Idles s line s' lines) : Advances s line s' lines := by
  have hown (id : Int) : ¬Own s s' line id := by
    rintro (hmine | ⟨-, hlt⟩)
    · rw [h.noIds] at hmine
      exact List.not_mem_nil hmine
    · exact absurd hlt (h.nextId ▸ lt_irrefl _)
  have hnone : lines.flatMap Line.ids = [] := List.flatMap_eq_nil_iff.mpr h.noneLeft
  refine
    { shrinks := h.shrinks
      nextId := le_of_eq h.nextId.symm
      single := h.single
      nodup := hnone ▸ List.nodup_nil
      own := fun id hid => absurd (hnone ▸ hid) List.not_mem_nil
      dropped := fun id hmine => absurd hmine (hown id)
      osus := fun id _ => h.osus id
      archives := fun id _ => h.archives id
      spares := fun row hrow _ => h.spares row hrow
      ended := ?_
      holding := fun next hmem => ⟨h.formed next hmem, fun id hid => ?_, h.removes next hmem⟩ }
  · rcases h.ended with hsame | ⟨result, hended⟩
    · exact Or.inl hsame
    · exact Or.inr ⟨_, hended, fun id hid => absurd hid List.not_mem_nil⟩
  · rw [h.noneLeft next hmem] at hid
    exact absurd hid List.not_mem_nil

-- The call ends, and leaves the store as it is.
theorem idles_end {line : Line} (hline : line.ids = [])
    (result : Option BeatmapSubmissionResult) : Idles s line (s.endWith none [] result) [] where
  noIds := hline
  noneLeft _ hnext := absurd hnext List.not_mem_nil
  single := Nat.zero_le 1
  shrinks := Tables.shrinks_of_eq rfl
  nextId := rfl
  osus _ := Or.inl rfl
  archives _ := Or.inl rfl
  spares _ _ := rfl
  ended := Or.inr ⟨result, rfl⟩
  formed _ hnext := absurd hnext List.not_mem_nil
  removes _ hnext := absurd hnext List.not_mem_nil

-- It goes on, having changed rows and no file.
theorem idles_goes {line next : Line} {store : Store} (hline : line.ids = []) (hnext : next.ids = [])
    (hshrinks : s.store.Shrinks store.toTables) (hnextId : store.nextId = s.store.nextId)
    (hosus : store.osuFiles = s.store.osuFiles) (harchives : store.archives = s.store.archives)
    (hformed : next.Formed store.toTables)
    (hremoves : ∀ id ∈ next.removes, id ∈ line.removes ∨ ¬s.store.Unused id) :
    Idles s line { s with store := store } [next] where
  noIds := hline
  noneLeft other hother := by rwa [List.mem_singleton.mp hother]
  single := le_refl 1
  shrinks := hshrinks
  nextId := hnextId
  osus id := Or.inl (congrFun hosus id)
  archives id := Or.inl (congrFun harchives id)
  spares row _ := congrFun hosus row.id
  ended := Or.inl rfl
  formed other hother := by rwa [List.mem_singleton.mp hother]
  removes other hother := by rwa [List.mem_singleton.mp hother]

theorem updateLine_idles (line : Update.Line) :
    Idles s (.update line) (line.perform s).1 ((line.perform s).2.map .update) := by
  have hgoes {next : Update.Line} {store : Store} (hshrinks : s.store.Shrinks store.toTables)
      (hnextId : store.nextId = s.store.nextId) (hosus : store.osuFiles = s.store.osuFiles)
      (harchives : store.archives = s.store.archives) :
      Idles s (.update line) { s with store := store } [.update next] :=
    idles_goes rfl rfl hshrinks hnextId hosus harchives trivial
      fun id hid => absurd hid List.not_mem_nil
  cases line with
  | fetchSubmission u =>
    simp only [Update.Line.perform]
    split
    · exact idles_end rfl _
    · split
      · exact idles_end rfl _
      · exact hgoes (Tables.shrinks_of_eq rfl) rfl rfl rfl
  | review u submission => exact hgoes (shrinks_reviewSet u) rfl rfl rfl
  | fetchReviewed u submission => exact hgoes (Tables.shrinks_of_eq rfl) rfl rfl rfl
  | fetchMaps u submission =>
    simp only [Update.Line.perform]
    split
    · exact idles_end rfl _
    · exact hgoes (Tables.shrinks_of_eq rfl) rfl rfl rfl
  | setStatus u submission status row left => exact hgoes (shrinks_setStatus status) rfl rfl rfl
  | refetch u submission => exact idles_end rfl _

theorem used_of_fetchMaps {setId : Int} {row : Beatmaps.Beatmap} (h : row ∈ st.fetchMaps setId) :
    ¬st.Unused row.id := fun hunused => (hunused.maps row (mem_fetchMaps.mp h).1).1 rfl

theorem used_of_fetchSubmission {setId : Int} {submission : MapSubmission}
    (h : st.fetchSubmission setId = some submission) : ¬st.Unused submission.setId :=
  fun hunused => hunused.submissions submission (mem_of_fetchBy h) rfl

section Deletes

variable {line : Delete.Line} {d : Deletion}

theorem removes_count (left : List String) :
    (Delete.Line.count d left).removes = d.setId :: d.maps.map Beatmaps.Beatmap.id := by
  cases left <;> rfl

theorem removes_remove (left : List Beatmaps.Beatmap) :
    (Delete.Line.remove d left).removes = d.setId :: left.map Beatmaps.Beatmap.id := by
  cases left <;> rfl

theorem rows_count {tables : Tables} (left : List String) :
    (Delete.Line.count d left).Rows tables = (Delete.Line.deleteRows d).Rows tables := by
  cases left <;> rfl

-- No row is left of the maps that are gone.
theorem rows_remove {tables : Tables} {left : List Beatmaps.Beatmap}
    (h : ∀ gone ∈ left, ∀ other ∈ tables.maps, other.id ≠ gone.id) :
    (Delete.Line.remove d left).Rows tables := by
  cases left with
  | nil => trivial
  | cons row left => exact h

theorem deleteLine_reads {next : Delete.Line} (hformed : next.Rows s.store.toTables)
    (hremoves : ∀ id ∈ next.removes, id ∈ line.removes ∨ ¬s.store.Unused id) :
    Idles s (.delete line) s [.delete next] :=
  idles_goes rfl rfl (Tables.shrinks_of_eq rfl) rfl rfl rfl hformed hremoves

theorem deleteLine_idles (hids : (s.store.maps.map Beatmaps.Beatmap.id).Nodup)
    (hrows : line.Rows s.store.toTables) :
    Idles s (.delete line) (line.perform s).1 ((line.perform s).2.map .delete) := by
  cases line with
  | fetchSubmission actor setId =>
    simp only [Delete.Line.perform]
    split
    · exact idles_end rfl _
    · rename_i submission hfetch
      split
      · exact idles_end rfl _
      · split
        · exact idles_end rfl _
        · refine deleteLine_reads trivial fun id hid => Or.inr ?_
          rw [List.mem_singleton.mp hid]
          exact used_of_fetchSubmission hfetch
  | fetchMaps actor submission =>
    set d : Deletion :=
      { actor := actor
        submission := submission
        maps := s.store.fetchMaps submission.setId } with hd
    have hread : (Delete.Line.deleteRows d).Rows s.store.toTables := by
      intro row hrow other hother hid
      obtain ⟨hmem, hset, hserver⟩ := mem_fetchMaps.mp hrow
      rw [List.inj_on_of_nodup_map hids hother hmem hid]
      exact ⟨hset, hserver⟩
    have hused : ∀ id ∈ d.setId :: d.maps.map Beatmaps.Beatmap.id,
        id ∈ (Delete.Line.fetchMaps actor submission).removes ∨ ¬s.store.Unused id := by
      intro id hid
      rcases List.mem_cons.mp hid with rfl | hmap
      · exact Or.inl List.mem_cons_self
      · obtain ⟨row, hrow, rfl⟩ := List.mem_map.mp hmap
        exact Or.inr (used_of_fetchMaps hrow)
    change Idles s _ s [.delete (if actor.isStaff then .deleteRows d else .count d d.mapMd5s)]
    split
    · exact deleteLine_reads hread hused
    · exact deleteLine_reads ((rows_count d.mapMd5s).symm ▸ hread) (removes_count d.mapMd5s ▸ hused)
  | countTotal d md5 left => exact deleteLine_reads hrows fun id hid => Or.inl hid
  | countOwned d md5 left total =>
    simp only [Delete.Line.perform]
    split
    · exact idles_end rfl _
    · refine deleteLine_reads ((rows_count left).symm ▸ hrows) fun id hid => Or.inl ?_
      rw [removes_count] at hid
      exact hid
  | deleteRows d =>
    refine idles_goes rfl rfl (shrinks_deleteSet d) rfl rfl rfl (rows_remove ?_) fun id hid => ?_
    · intro gone hgone other hother hid
      obtain ⟨hmem, hkept⟩ := List.mem_filter.mp hother
      obtain ⟨hset, hserver⟩ := hrows gone hgone other hmem hid
      simp [hset, hserver] at hkept
    · change id ∈ (Delete.Line.remove d d.maps).removes at hid
      rw [removes_remove] at hid
      exact Or.inl hid
  | removeOsu d row left =>
    have hgone {id : Int} (hne : id ≠ row.id) :
        (s.store.removeOsu row.id).osuFiles id = s.store.osuFiles id := Function.update_of_ne hne _ _
    refine
      { noIds := rfl
        noneLeft := fun next hnext => by rw [List.mem_singleton.mp hnext]; rfl
        single := le_refl 1
        shrinks := Tables.shrinks_of_eq rfl
        nextId := rfl
        osus := fun id => ?_
        archives := fun id => Or.inl rfl
        spares := fun other hother => hgone (hrows row List.mem_cons_self other hother)
        ended := Or.inl rfl
        formed := fun next hnext => ?_
        removes := fun next hnext id hid => ?_ }
    · by_cases hid : id = row.id
      · subst hid
        exact Or.inr ⟨List.mem_cons_of_mem _ List.mem_cons_self, Function.update_self _ _ _⟩
      · exact Or.inl (hgone hid)
    · rw [List.mem_singleton.mp hnext]
      exact rows_remove fun other hother => hrows other (List.mem_cons_of_mem _ hother)
    · rw [List.mem_singleton.mp hnext] at hid
      change id ∈ (Delete.Line.remove d left).removes at hid
      rw [removes_remove] at hid
      refine Or.inl ?_
      rcases List.mem_cons.mp hid with rfl | hmap
      · exact List.mem_cons_self
      · exact List.mem_cons_of_mem _ (List.mem_cons_of_mem _ hmap)
  | removeArchive d =>
    refine
      { noIds := rfl
        noneLeft := fun next hnext => absurd hnext List.not_mem_nil
        single := Nat.zero_le 1
        shrinks := Tables.shrinks_of_eq rfl
        nextId := rfl
        osus := fun id => Or.inl rfl
        archives := fun id => ?_
        spares := fun row _ => rfl
        ended := Or.inr ⟨_, rfl⟩
        formed := fun next hnext => absurd hnext List.not_mem_nil
        removes := fun next hnext => absurd hnext List.not_mem_nil }
    by_cases hid : id = d.setId
    · subst hid
      exact Or.inr ⟨List.mem_cons_self, Function.update_self _ _ _⟩
    · exact Or.inl (Function.update_of_ne hid _ _)

end Deletes

theorem score_idles (row : Scores.ScoreRow) :
    Idles s (.score row) { s with store := s.store.persistScore row } [] where
  noIds := rfl
  noneLeft _ hnext := absurd hnext List.not_mem_nil
  single := Nat.zero_le 1
  shrinks := ⟨fun row hrow => ⟨row, hrow, rfl, rfl, rfl⟩, fun row hrow => ⟨row, hrow, rfl⟩,
    fun row hrow => ⟨row, hrow, rfl⟩, fun hids => hids⟩
  nextId := rfl
  osus _ := Or.inl rfl
  archives _ := Or.inl rfl
  spares _ _ := rfl
  ended := Or.inl rfl
  formed _ hnext := absurd hnext List.not_mem_nil
  removes _ hnext := absurd hnext List.not_mem_nil

-- A score that is not written leaves everything as it is.
theorem score_fails (row : Scores.ScoreRow) : Idles s (.score row) s [] where
  noIds := rfl
  noneLeft _ hnext := absurd hnext List.not_mem_nil
  single := Nat.zero_le 1
  shrinks := Tables.shrinks_of_eq rfl
  nextId := rfl
  osus _ := Or.inl rfl
  archives _ := Or.inl rfl
  spares _ _ := rfl
  ended := Or.inl rfl
  formed _ hnext := absurd hnext List.not_mem_nil
  removes _ hnext := absurd hnext List.not_mem_nil

end Others

section Runs

variable {host : Host} {first : Int} {t : Service} {i : Nat} {rest : List Line}

theorem Filed.uploading (h : Filed first t) {line : Submit.Line}
    (hnext : Tasks.next t.running i = some (.submit line, rest)) : Uploading t.world line := by
  obtain ⟨hformed, hholding⟩ := h.formed _ (Tasks.mem_of_next hnext) _ List.mem_cons_self
  refine ⟨hformed, hholding, (List.nodup_append.mp (h.nodup_next hnext)).1, fun id hid => ?_,
    h.fresh _ (le_refl _)⟩
  exact (h.held id ((held_next hnext).mem_iff.mpr (List.mem_append_left _ hid))).1

theorem Filed.begin (h : Filed first t) (op : Op) :
    Filed first { t with running := t.running ++ [op.lines] } := by
  have hsame : heldIds (t.running ++ [op.lines]) = heldIds t.running := by
    have hnone : heldIds [op.lines] = [] := by cases op <;> rfl
    unfold heldIds at hnone ⊢
    simp only [Tasks.gather, List.flatMap_append, List.flatten_append] at hnone ⊢
    rw [hnone, List.append_nil]
  have hline {line : Line} (hmem : line ∈ op.lines) : line.ids = [] ∧ line.removes = [] ∧
      line.Formed t.world.store.toTables := by
    cases op <;> rw [List.mem_singleton.mp hmem] <;> exact ⟨rfl, rfl, trivial⟩
  refine
    { files := h.files
      ids := h.ids
      fresh := h.fresh
      single := fun task htask => ?_
      held_nodup := hsame ▸ h.held_nodup
      held := fun id hid => h.held id (hsame ▸ hid)
      formed := fun task htask line hmem => ?_
      removes := fun task htask line hmem id hid => ?_
      failed := fun e he hcreated id hid => hsame ▸ h.failed e he hcreated id hid
      accounted := fun id hid hclean => hsame ▸ h.accounted id hid hclean }
  · rcases List.mem_append.mp htask with hold | hnew
    · exact h.single task hold
    · rw [List.mem_singleton.mp hnew]
      cases op <;> exact le_refl 1
  · rcases List.mem_append.mp htask with hold | hnew
    · exact h.formed task hold line hmem
    · obtain ⟨hids, -, hformed⟩ := hline (List.mem_singleton.mp hnew ▸ hmem)
      refine ⟨hformed, fun id hid => ?_⟩
      rw [hids] at hid
      exact absurd hid List.not_mem_nil
  · rcases List.mem_append.mp htask with hold | hnew
    · exact hsame ▸ h.removes task hold line hmem id hid
    · rw [(hline (List.mem_singleton.mp hnew ▸ hmem)).2.1] at hid
      exact absurd hid List.not_mem_nil

theorem Filed.resume (h : Filed first t) {line : Line}
    (hnext : Tasks.next t.running i = some (line, rest)) :
    Filed first
      { world := (line.perform host t.world).1
        running := t.running.set i ((line.perform host t.world).2 ++ rest) } := by
  obtain rfl := h.rest_eq_nil hnext
  rw [List.append_nil]
  cases line with
  | submit line =>
    rcases @Uploading.advances host _ _ (h.uploading hnext) with hadv |
      ⟨p, written, archive, store, rfl, hcommit⟩
    · exact h.advance hnext hadv
    · have hcreate := h.create hnext hcommit
      simp only [Line.perform, Submit.Line.perform, hcommit]
      exact hcreate
  | update line => exact h.advance hnext (updateLine_idles line).advances
  | delete line =>
    have hrows := (h.formed _ (Tasks.mem_of_next hnext) _ List.mem_cons_self).1
    exact h.advance hnext (deleteLine_idles h.ids hrows).advances
  | score row => exact h.advance hnext (score_idles row).advances

theorem Filed.fail (h : Filed first t) {line : Line}
    (hnext : Tasks.next t.running i = some (line, rest)) :
    Filed first
      { world := recover (line :: rest) t.world
        running := t.running.set i [] } := by
  cases line with
  | submit line => exact h.advance hnext (h.uploading hnext).recovers
  | update line | delete line => exact h.advance hnext (idles_end rfl none).advances
  | score row => exact h.advance hnext (score_fails row).advances

theorem Filed.move (h : Filed first t) (m : Move) : Filed first (t.move host m) := by
  cases m with
  | begin op => exact h.begin op
  | resume i => exact Tasks.resume_keeps h i fun line rest hnext => h.resume hnext
  | fail i => exact Tasks.fail_keeps h i fun line rest hnext => h.fail hnext

-- Every private row has its file, and the ids to come have nothing.
structure Store.Stocked (st : Store) : Prop where
  files : ∀ row ∈ st.maps, row.server = .PRIVATE → (st.osuFiles row.id).isSome
  ids : (st.maps.map Beatmaps.Beatmap.id).Nodup
  fresh : ∀ id, st.nextId ≤ id → st.Clean id

theorem filed_start {st : Store} (h : st.Stocked) :
    Filed st.nextId { world := { store := st, ended := [] }, running := [] } where
  files := h.files
  ids := h.ids
  fresh := h.fresh
  single _ htask := absurd htask List.not_mem_nil
  held_nodup := List.nodup_nil
  held _ hid := absurd hid List.not_mem_nil
  formed _ htask := absurd htask List.not_mem_nil
  removes _ htask := absurd htask List.not_mem_nil
  failed _ he := absurd he List.not_mem_nil
  accounted id hid hclean := absurd (h.fresh id hid) hclean

theorem filed_run {st : Store} (h : st.Stocked) (run : List Move) :
    Filed st.nextId
      (runFrom (Service.move host) { world := { store := st, ended := [] }, running := [] } run) :=
  @Guarded.invariant _ _ (Service.move host) (fun _ _ => True) (Filed st.nextId)
    (fun _ m hfiled _ => hfiled.move m) _ run (filed_start h)
    (Guarded.of_forall (fun _ _ => trivial))

-- Wherever the calls are and whatever has failed, a private row has its file, a call that has not
-- been answered with CREATED leaves nothing, and what there is of the ids that have been given out
-- is of calls that go on or that have been answered so.
theorem hosted_run {st : Store} (h : st.Stocked) (run : List Move) :
    let t := runFrom (Service.move host) { world := { store := st, ended := [] }, running := [] } run
    (∀ row ∈ t.world.store.maps, row.server = .PRIVATE → (t.world.store.osuFiles row.id).isSome) ∧
      (∀ e ∈ t.world.ended, e.created = false → ∀ id ∈ e.ids, t.world.store.Clean id) ∧
      ∀ id, st.nextId ≤ id → ¬t.world.store.Clean id →
        id ∈ heldIds t.running ∨ ∃ e ∈ t.world.ended, e.created ∧ id ∈ e.ids := by
  have hfiled := @filed_run host st h run
  exact ⟨hfiled.files, fun e he hcreated id hid => (hfiled.failed e he hcreated id hid).2.2,
    hfiled.accounted⟩

theorem stocked_hostedSet : hostedSet.Stocked where
  files row hrow _ := by
    rw [List.mem_singleton.mp hrow]
    rfl
  ids := by decide
  fresh id hid := by
    change 2000000002 ≤ id at hid
    refine ⟨⟨fun row hrow => ?_, fun row hrow => ?_, fun row hrow => ?_⟩, if_neg (by omega),
      if_neg (by omega)⟩
    · rw [List.mem_singleton.mp hrow]
      exact ⟨fun heq => by change 2000000001 = id at heq; omega,
        fun heq => by change 2000000000 = id at heq; omega⟩
    · rw [List.mem_singleton.mp hrow]
      intro heq
      change 2000000000 = id at heq
      omega
    · rw [List.mem_singleton.mp hrow]
      intro heq
      change 2000000000 = id at heq
      omega

-- An upload whose transaction raises, and a deletion that goes no further than its own.
def failingRun : List Move :=
  List.flatten [[.begin (.submit (plainUpload [("a.osu", "Hard")]))], List.replicate 7 (.resume 0),
    [.begin (.delete submitter 2000000000)], List.replicate 5 (.resume 1), [.fail 0, .fail 1]]

theorem hosted_failingRun :
    let t := runFrom (Service.move plainHost)
      { world := { store := hostedSet, ended := [] }, running := [] } failingRun
    (∀ row ∈ t.world.store.maps, row.server = .PRIVATE → (t.world.store.osuFiles row.id).isSome) ∧
      (∀ e ∈ t.world.ended, e.created = false → ∀ id ∈ e.ids, t.world.store.Clean id) ∧
      ∀ id, hostedSet.nextId ≤ id → ¬t.world.store.Clean id →
        id ∈ heldIds t.running ∨ ∃ e ∈ t.world.ended, e.created ∧ id ∈ e.ids :=
  hosted_run stocked_hostedSet failingRun

end Runs

end BanchoPrism.Submissions
