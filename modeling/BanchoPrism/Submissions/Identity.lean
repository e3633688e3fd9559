import BanchoPrism.Submissions.Stamping

namespace BanchoPrism.Submissions

open Library Library.Text

section Parsing

variable {text out : String} {before body inner after : List (List Char)} {header : List Char}

theorem bind_eq_map_bind {α β γ : Type} {x : Except Raised α} {g : α → Except Raised γ}
    {g' : α → Except Raised β} {f : β → γ} (h : ∀ a, g a = (g' a).map f) :
    (x >>= g) = (x >>= g').map f := by
  cases x with
  | error e => rfl
  | ok a => exact h a

theorem requireText_congr {values other : List (String × String)} {key : String}
    (h : values.lookup key = other.lookup key) : requireText values key = requireText other key := by
  unfold requireText
  rw [h]

-- What a parser takes from a text that has other lines in [Metadata].
theorem parseOsuFile_stamped {β : Type} (b : Builtins β)
    (h : Divides (splitLines text.toList) "Metadata" before header body after)
    (hout : Divides (splitLines out.toList) "Metadata" before header inner after)
    (hfilter : (inner.filter fun line => !isKeyed line) = body.filter fun line => !isKeyed line) :
    parseOsuFile b out = (parseOsuFile b text).map fun metadata =>
      { metadata with
        declaredCreator :=
          clip (stripped (((metadataOf (splitLines out.toList)).lookup "Creator").getD ""))
            maxMetadataLength } := by
  have hversion : parseFormatVersion b (splitLines out.toList) =
      parseFormatVersion b (splitLines text.toList) := by
    rw [h.lines_eq, hout.lines_eq]
    exact parseFormatVersion_header b (by rw [h.header]; rfl)
  have hnone (name : String) : ((splitSections (splitLines out.toList)).lookup name).isNone =
      ((splitSections (splitLines text.toList)).lookup name).isNone := by
    rw [h.isNone_lookup, hout.isNone_lookup]
  have hbody {name : String} (hname : name ≠ "Metadata") :
      bodyOf (splitSections (splitLines out.toList)) name =
        bodyOf (splitSections (splitLines text.toList)) name := by
    rw [bodyOf_splitSections, bodyOf_splitSections, h.sectionLines_other hname,
      hout.sectionLines_other hname]
  have htext {key : String} (hkey : key ∉ identityKeys) :
      requireText (metadataOf (splitLines out.toList)) key =
        requireText (metadataOf (splitLines text.toList)) key :=
    requireText_congr (h.lookup_unkeyed hout hfilter hkey)
  have hmetadata (lines : List (List Char)) :
      parseKeyValues (bodyOf (splitSections lines) "Metadata") = metadataOf lines := rfl
  unfold parseOsuFile
  simp only [hversion, hnone, @hbody "General" (by decide),
    @hbody "Difficulty" (by decide), @hbody "HitObjects" (by decide),
    @hbody "TimingPoints" (by decide), hmetadata, @htext "Artist" (by decide),
    @htext "Title" (by decide), @htext "Version" (by decide)]
  apply bind_eq_map_bind
  intro formatVersion
  generalize List.find? (fun name =>
    (List.lookup name (splitSections (splitLines text.toList))).isNone) requiredSections = missing
  cases missing with
  | some missing => rfl
  | none =>
    apply bind_eq_map_bind
    intro artist
    apply bind_eq_map_bind
    intro title
    apply bind_eq_map_bind
    intro version
    apply bind_eq_map_bind
    intro mode
    apply bind_eq_map_bind
    intro hp
    apply bind_eq_map_bind
    intro od
    apply bind_eq_map_bind
    intro cs
    generalize List.lookup "ApproachRate" _ = rate
    cases rate with
    | none =>
      apply bind_eq_map_bind
      intro ar
      apply bind_eq_map_bind
      intro measures
      rfl
    | some raw =>
      apply bind_eq_map_bind
      intro ar
      apply bind_eq_map_bind
      intro measures
      rfl

end Parsing

-- The lines that are not of the three keys in [Metadata], with their endings.
def keptFrom (inMetadata : Bool) :
    List (List Char × List Char) → List (List Char × List Char)
  | [] => []
  | entry :: rest =>
      match headerOf entry.1 with
      | some header => entry :: keptFrom (header = "Metadata".toList) rest
      | none =>
          if inMetadata && isKeyed entry.1 then keptFrom inMetadata rest
          else entry :: keptFrom inMetadata rest

def keptLines (text : String) : List (List Char × List Char) :=
  keptFrom false (endedLines text.toList)

section Keeping

variable {entries front : List (List Char × List Char)} {entry : List Char × List Char}
variable {newline trailing : List Char} {lines inner : List (List Char)} {inMetadata : Bool}

theorem keptFrom_before (h : ∀ entry ∈ front, headerOf entry.1 ≠ some "Metadata".toList) :
    keptFrom false (front ++ entries) = front ++ keptFrom false entries := by
  induction front with
  | nil => rfl
  | cons entry rest ih =>
    obtain ⟨hentry, hrest⟩ := List.forall_mem_cons.mp h
    rw [List.cons_append, keptFrom]
    split
    · rename_i header hheader
      have hne : header ≠ "Metadata".toList := by
        rintro rfl
        exact hentry hheader
      rw [decide_eq_false hne, ih hrest]
      rfl
    · rw [Bool.false_and, if_neg Bool.false_ne_true, ih hrest]
      rfl

theorem keptFrom_body (h : ∀ entry ∈ front, headerOf entry.1 = none) :
    keptFrom true (front ++ entries) =
      front.filter (fun entry => !isKeyed entry.1) ++ keptFrom true entries := by
  induction front with
  | nil => rfl
  | cons entry rest ih =>
    obtain ⟨hentry, hrest⟩ := List.forall_mem_cons.mp h
    rw [List.cons_append, keptFrom, hentry]
    dsimp only
    rw [Bool.true_and, List.filter_cons, ih hrest]
    cases isKeyed entry.1 <;> rfl

theorem keptFrom_divided {inside : List (List Char × List Char)}
    (hfront : ∀ entry ∈ front, headerOf entry.1 ≠ some "Metadata".toList)
    (hentry : headerOf entry.1 = some "Metadata".toList)
    (hinside : ∀ entry ∈ inside, headerOf entry.1 = none) :
    keptFrom false (front ++ entry :: (inside ++ entries)) =
      (front ++ entry :: inside.filter fun entry => !isKeyed entry.1) ++
        keptFrom true entries := by
  rw [keptFrom_before hfront, keptFrom, hentry]
  dsimp only
  rw [decide_eq_true rfl, keptFrom_body hinside, List.append_assoc]
  rfl

theorem mem_keptFrom (hmem : entry ∈ entries) (hentry : isKeyed entry.1 = false) :
    entry ∈ keptFrom inMetadata entries := by
  induction entries generalizing inMetadata with
  | nil => cases hmem
  | cons other rest ih =>
    rw [keptFrom]
    rcases List.mem_cons.mp hmem with rfl | hrest
    · rw [hentry]
      split
      · exact List.mem_cons_self
      · rw [Bool.and_false, if_neg Bool.false_ne_true]
        exact List.mem_cons_self
    · split
      · exact List.mem_cons_of_mem _ (ih hrest)
      · split
        · exact ih hrest
        · exact List.mem_cons_of_mem _ (ih hrest)

theorem isKeyed_nil : isKeyed [] = false := by decide

theorem headerOf_nil : headerOf [] = none := rfl

-- A line goes the same way whatever ends it.
theorem keptFrom_cons (inMetadata : Bool) (line : List Char) :
    (∃ state, ∀ ending entries, keptFrom inMetadata ((line, ending) :: entries) =
      (line, ending) :: keptFrom state entries) ∨
    (isKeyed line ∧ ∀ ending entries, keptFrom inMetadata ((line, ending) :: entries) =
      keptFrom inMetadata entries) := by
  cases hheader : headerOf line with
  | some header =>
    refine Or.inl ⟨decide (header = "Metadata".toList), ?_⟩
    intro ending entries
    rw [keptFrom, hheader]
  | none =>
    cases hkept : inMetadata && isKeyed line with
    | false =>
      refine Or.inl ⟨inMetadata, ?_⟩
      intro ending entries
      rw [keptFrom, hheader]
      dsimp only
      rw [hkept, if_neg Bool.false_ne_true]
    | true =>
      refine Or.inr ⟨(Bool.and_eq_true_iff.mp hkept).2, ?_⟩
      intro ending entries
      rw [keptFrom, hheader]
      dsimp only
      rw [hkept, if_pos rfl]

theorem trailingOf_eq_iff {ending : List Char} (hnewline : newline.getLast? = some '\n') :
    trailingOf newline ending = ending ↔ ending = newline ∨ ending = [] := by
  constructor
  · intro h
    rw [← h]
    unfold trailingOf
    split
    · exact Or.inl rfl
    · exact Or.inl rfl
    · exact Or.inr rfl
  · rintro (rfl | rfl)
    · unfold trailingOf
      rw [hnewline]
      rfl
    · rfl

-- Lines that are joined anew are kept where each ended in the newline before, a last one aside
-- that nothing ended.
theorem keptFrom_ended (hclosed : Closed entries)
    (hnewline : newline.getLast? = some '\n')
    (htrailing : ∀ entry, entries.getLast? = some entry →
      trailing = trailingOf newline entry.2) :
    keptFrom inMetadata (ended newline trailing (entries.map Prod.fst)) =
        keptFrom inMetadata entries ↔
      ∀ entry ∈ keptFrom inMetadata entries, entry.2 = newline ∨ entry.2 = [] := by
  induction entries generalizing inMetadata with
  | nil => simp [ended, keptFrom]
  | cons entry rest ih =>
    obtain ⟨line, ending⟩ := entry
    cases rest with
    | nil =>
      have hlast : trailing = trailingOf newline ending := htrailing _ rfl
      have hsame := @trailingOf_eq_iff newline ending hnewline
      rw [← hlast] at hsame
      rw [List.map_singleton, ended]
      split
      case isTrue hdropped =>
        obtain ⟨rfl, rfl⟩ := hdropped
        have hkept : keptFrom inMetadata [([], ending)] = [([], ending)] := by
          rw [keptFrom, headerOf_nil, isKeyed_nil, Bool.and_false]
          rfl
        rw [hkept]
        constructor
        · intro h
          cases h
        · intro h
          have hnil := hsame.mpr (h _ (List.mem_singleton_self _))
          exact absurd rfl (hclosed.1 hnil.symm).1
      case isFalse =>
        rcases keptFrom_cons inMetadata line with ⟨state, hkept⟩ | ⟨-, hkept⟩
        · rw [hkept, hkept]
          simp [keptFrom, hsame]
        · rw [hkept, hkept]
          simp [keptFrom]
    | cons next others =>
      have hending : ending ≠ [] := by
        intro hnil
        cases (hclosed.1 hnil).2
      have hrest := fun state => @ih state hclosed.2 (by simpa using htrailing)
      rw [List.map_cons, ended_cons (by simp)]
      rcases keptFrom_cons inMetadata line with ⟨state, hkept⟩ | ⟨-, hkept⟩
      · rw [hkept, hkept, List.forall_mem_cons, List.cons_eq_cons, hrest state, Prod.mk.injEq]
        simp [hending, eq_comm]
      · rw [hkept, hkept]
        exact hrest inMetadata

-- The lines of a text and those of one that is joined anew, where both begin alike.
theorem keptFrom_joined {inside : List (List Char × List Char)}
    (hfront : ∀ entry ∈ front, headerOf entry.1 ≠ some "Metadata".toList)
    (hentry : headerOf entry.1 = some "Metadata".toList)
    (hinside : ∀ entry ∈ inside, headerOf entry.1 = none)
    (hinner : ∀ line ∈ inner, headerOf line = none)
    (hfilter : (inner.filter fun line => !isKeyed line) =
      (inside.map Prod.fst).filter fun line => !isKeyed line)
    (hlines : lines ≠ []) :
    keptFrom false (ended newline trailing
        (front.map Prod.fst ++ entry.1 :: (inner ++ lines))) =
        keptFrom false (front ++ entry :: (inside ++ entries)) ↔
      (∀ other ∈ front ++ entry :: (inside.filter fun entry => !isKeyed entry.1),
        other.2 = newline) ∧
        keptFrom true (ended newline trailing lines) = keptFrom true entries := by
  let anew (line : List Char) : List Char × List Char := (line, newline)
  let kept := front ++ entry :: inside.filter fun entry => !isKeyed entry.1
  have hended : ended newline trailing (front.map Prod.fst ++ entry.1 :: (inner ++ lines)) =
      (front.map Prod.fst).map anew ++
        anew entry.1 :: (inner.map anew ++ ended newline trailing lines) := by
    rw [List.append_cons, ← List.append_assoc, ended_append hlines]
    simp [anew]
  have hsame : (inner.map anew).filter (fun entry => !isKeyed entry.1) =
      ((inside.filter fun entry => !isKeyed entry.1).map Prod.fst).map anew := by
    rw [List.filter_map]
    have hcomp : ((fun entry : List Char × List Char => !isKeyed entry.1) ∘ anew) =
        fun line => !isKeyed line := rfl
    rw [hcomp, hfilter, List.filter_map]
    rfl
  have hleft : keptFrom false (ended newline trailing
      (front.map Prod.fst ++ entry.1 :: (inner ++ lines))) =
        kept.map (fun entry => anew entry.1) ++ keptFrom true (ended newline trailing lines) := by
    rw [hended, keptFrom_divided, hsame]
    · simp [kept, Function.comp_def]
    · intro other hother
      obtain ⟨line, hline, rfl⟩ := List.mem_map.mp hother
      obtain ⟨old, hold, rfl⟩ := List.mem_map.mp hline
      exact hfront old hold
    · exact hentry
    · intro other hother
      obtain ⟨line, hline, rfl⟩ := List.mem_map.mp hother
      exact hinner line hline
  have hanew : kept.map (fun entry => anew entry.1) = kept ↔
      ∀ other ∈ kept, other.2 = newline := by
    have hid : kept.map (fun entry => anew entry.1) = kept.map id ↔ _ := List.map_inj_left
    rw [List.map_id] at hid
    rw [hid]
    apply forall₂_congr
    intro other _
    rw [Prod.ext_iff]
    simp [anew, eq_comm]
  rw [hleft, keptFrom_divided hfront hentry hinside, ← hanew]
  constructor
  · intro h
    exact List.append_inj h (by simp [kept])
  · rintro ⟨hkept, htail⟩
    rw [hkept, htail]

end Keeping

section Joining

variable {text out creator : String} {beatmapId beatmapSetId : Int}
variable {before body after : List (List Char)} {header : List Char}

theorem newlineOf_eq (text : List Char) : newlineOf text = ['\n'] ∨ newlineOf text = ['\r', '\n'] := by
  unfold newlineOf
  split
  · exact Or.inr rfl
  · exact Or.inl rfl

theorem getLast?_newlineOf (text : List Char) : (newlineOf text).getLast? = some '\n' := by
  rcases newlineOf_eq text with h | h
  · rw [h]
    rfl
  · rw [h]
    rfl

-- The end of a text is that of its last line.
theorem trailingOf_text {newline text : List Char} {entry : List Char × List Char}
    (h : (endedLines text).getLast? = some entry) :
    trailingOf newline text = trailingOf newline entry.2 := by
  obtain ⟨front, hfront⟩ := List.getLast?_eq_some_iff.mp h
  have htext := endedLines_flatMap text
  rw [hfront, List.flatMap_append, List.flatMap_singleton] at htext
  have hclosed := endedLines_closed text
  have hplain := endedLines_plain text entry (by rw [hfront]; simp)
  rw [hfront] at hclosed
  have hlast := hclosed.append.1
  unfold trailingOf
  rw [← htext, List.getLast?_append, List.getLast?_append]
  cases hending : entry.2.getLast? with
  | some c => rfl
  | none =>
    have hnil := List.getLast?_eq_none_iff.mp hending
    cases hline : entry.1.getLast? with
    | none => exact absurd (List.getLast?_eq_none_iff.mp hline) (hlast hnil).1
    | some c =>
      have hc := hplain c (List.mem_of_getLast? hline)
      have hlf : c ≠ '\n' := by
        rintro rfl
        simp [isLineBreak] at hc
      have hcr : c ≠ '\r' := by
        rintro rfl
        simp [isLineBreak] at hc
      simp [hlf, hcr]

-- The lines of a text with their endings, divided as the lines are.
theorem Divides.exists_entries
    (h : Divides (splitLines text.toList) "Metadata" before header body after) :
    ∃ (front : List (List Char × List Char)) (entry : List Char × List Char)
        (inside entries : List (List Char × List Char)),
      endedLines text.toList = front ++ entry :: (inside ++ entries) ∧
        front.map Prod.fst = before ∧ entry.1 = header ∧ inside.map Prod.fst = body ∧
          entries.map Prod.fst = after := by
  have hlines := h.lines_eq
  rw [← endedLines_map_fst] at hlines
  obtain ⟨front, rest, hfront, hbefore, hrest⟩ := List.map_eq_append_iff.mp hlines
  obtain ⟨entry, behind, hbehind, hheader, hinner⟩ := List.map_eq_cons_iff.mp hrest
  obtain ⟨inside, entries, hinside, hbody, hafter⟩ := List.map_eq_append_iff.mp hinner
  refine ⟨front, entry, inside, entries, ?_, hbefore, hheader, hbody, hafter⟩
  rw [hfront, hbehind, hinside]

theorem plain_stamped (hplain : ∀ r ∈ replacementsOf beatmapId beatmapSetId creator,
      ∀ c ∈ r.2.toList, isLineBreak c = false)
    (hbody : ∀ line ∈ body, ∀ c ∈ line, isLineBreak c = false) :
    ∀ line ∈ stampedBody (replacementsOf beatmapId beatmapSetId creator) body,
      ∀ c ∈ line, isLineBreak c = false := by
  have hentry : ∀ r ∈ replacementsOf beatmapId beatmapSetId creator,
      ∀ c ∈ entryLine r, isLineBreak c = false := by
    intro r hr c hc
    have hunbroken : ∀ k ∈ identityKeys, k.toList.all fun c => !isLineBreak c := by decide
    have hkeys := fun k hk => unbroken_of_all (hunbroken k hk)
    rcases List.mem_append.mp hc with hkey | hvalue
    · exact hkeys r.1 (mem_identityKeys_iff.mpr ⟨r, hr, rfl⟩) c hkey
    · rcases List.mem_cons.mp hvalue with rfl | hvalue
      · decide
      · exact hplain r hr c hvalue
  intro line hline
  rcases List.mem_append.mp hline with hstamped | hmissing
  · obtain ⟨old, hold, rfl⟩ := List.mem_map.mp hstamped
    cases hkeyed : isKeyed old with
    | false =>
      rw [stamp_of_not_isKeyed hkeyed]
      exact hbody old hold
    | true =>
      obtain ⟨r, hr, hkey⟩ := mem_identityKeys_iff.mp (of_decide_eq_true hkeyed)
      rw [stamp_of_mem hr hkey.symm]
      exact hentry r hr
  · obtain ⟨r, hr, rfl⟩ := List.mem_map.mp hmissing
    exact hentry r (List.mem_filter.mp hr).1

-- A key that is missing is written behind the last line of the section.
theorem missingLines_eq_nil {replacements : List (String × String)} :
    missingLines replacements body = [] ↔ ∀ r ∈ replacements, r.1 ∈ body.map keyOf := by
  unfold missingLines
  rw [List.map_eq_nil_iff, List.filter_eq_nil_iff]
  simp

theorem Divides.endedLines_eq
    (h : Divides (splitLines text.toList) "Metadata" before header body after)
    (hplain : ∀ r ∈ replacementsOf beatmapId beatmapSetId creator,
      ∀ c ∈ r.2.toList, isLineBreak c = false)
    (hout : out.toList = (newlineOf text.toList).intercalate (before ++ header ::
      (stampedBody (replacementsOf beatmapId beatmapSetId creator) body ++ after)) ++
        trailingOf (newlineOf text.toList) text.toList) :
    endedLines out.toList =
      ended (newlineOf text.toList) (trailingOf (newlineOf text.toList) text.toList)
        (before ++ header ::
          (stampedBody (replacementsOf beatmapId beatmapSetId creator) body ++ after)) := by
  have hlines := splitLines_plain text.toList
  rw [h.lines_eq] at hlines
  simp only [List.mem_append, List.mem_cons] at hlines
  have htrailing : trailingOf (newlineOf text.toList) text.toList = newlineOf text.toList ∨
      trailingOf (newlineOf text.toList) text.toList = [] := by
    unfold trailingOf
    split
    · exact Or.inl rfl
    · exact Or.inl rfl
    · exact Or.inr rfl
  rw [hout]
  apply endedLines_intercalate (newlineOf_eq text.toList) htrailing (by simp)
  intro line hline
  simp only [List.mem_append, List.mem_cons] at hline
  rcases hline with hbefore | rfl | hstamped | hafter
  · exact hlines line (Or.inl hbefore)
  · exact hlines line (Or.inr (Or.inl rfl))
  · apply plain_stamped hplain _ line hstamped
    intro old hold
    exact hlines old (Or.inr (Or.inr (Or.inl hold)))
  · exact hlines line (Or.inr (Or.inr (Or.inr hafter)))

theorem mem_ended {newline trailing : List Char} {lines : List (List Char)}
    {entry : List Char × List Char} (h : entry ∈ ended newline trailing lines) :
    entry.1 ∈ lines := by
  fun_induction ended newline trailing lines with
  | case1 => cases h
  | case2 line hdropped => cases h
  | case3 line hkept =>
    rw [List.mem_singleton.mp h]
    exact List.mem_singleton_self _
  | case4 line rest hrest ih =>
    rcases List.mem_cons.mp h with rfl | hmem
    · exact List.mem_cons_self
    · exact List.mem_cons_of_mem _ (ih hmem)

-- Of lines that are all of the keys none is kept.
theorem keptFrom_keyed {entries : List (List Char × List Char)}
    (h : ∀ entry ∈ entries, isKeyed entry.1) : keptFrom true entries = [] := by
  have hbody : keptFrom true (entries ++ []) =
      entries.filter (fun entry => !isKeyed entry.1) ++ keptFrom true [] :=
    keptFrom_body fun entry hentry => headerOf_of_isKeyed (h entry hentry)
  rw [List.append_nil] at hbody
  rw [hbody, keptFrom, List.append_nil, List.filter_eq_nil_iff]
  intro entry hentry
  simp [h entry hentry]

theorem forall_ended_append {newline : List Char} {front entries : List (List Char × List Char)}
    (h : ∀ entry ∈ front, entry.2 ≠ []) :
    ((∀ entry ∈ front, entry.2 = newline) ∧
        ∀ entry ∈ entries, entry.2 = newline ∨ entry.2 = []) ↔
      ∀ entry ∈ front ++ entries, entry.2 = newline ∨ entry.2 = [] := by
  rw [List.forall_mem_append]
  apply and_congr_left
  intro _
  apply forall₂_congr
  intro entry hentry
  simp [h entry hentry]

-- Where a line is left to be joined last, all before it have to have ended in the newline.
theorem keptFrom_joined_iff {newline trailing : List Char} {inner lines : List (List Char)}
    {front inside entries : List (List Char × List Char)} {entry : List Char × List Char}
    (hclosed : Closed (front ++ entry :: (inside ++ entries)))
    (hfront : ∀ entry ∈ front, headerOf entry.1 ≠ some "Metadata".toList)
    (hentry : headerOf entry.1 = some "Metadata".toList)
    (hinside : ∀ entry ∈ inside, headerOf entry.1 = none)
    (hinner : ∀ line ∈ inner, headerOf line = none)
    (hfilter : (inner.filter fun line => !isKeyed line) =
      (inside.map Prod.fst).filter fun line => !isKeyed line)
    (hlines : lines ≠ []) (hentries : entries ≠ [])
    (htail : keptFrom true (ended newline trailing lines) = keptFrom true entries ↔
      ∀ entry ∈ keptFrom true entries, entry.2 = newline ∨ entry.2 = []) :
    keptFrom false (ended newline trailing
        (front.map Prod.fst ++ entry.1 :: (inner ++ lines))) =
        keptFrom false (front ++ entry :: (inside ++ entries)) ↔
      ∀ other ∈ keptFrom false (front ++ entry :: (inside ++ entries)),
        other.2 = newline ∨ other.2 = [] := by
  rw [keptFrom_joined hfront hentry hinside hinner hfilter hlines,
    keptFrom_divided hfront hentry hinside, htail]
  apply forall_ended_append
  intro other hother
  rw [← List.cons_append, ← List.append_assoc] at hclosed
  apply hclosed.ended hentries other
  rcases List.mem_append.mp hother with hbefore | hbehind
  · exact List.mem_append_left _ hbefore
  · apply List.mem_append_right
    rcases List.mem_cons.mp hbehind with rfl | hmem
    · exact List.mem_cons_self
    · exact List.mem_cons_of_mem _ (List.mem_of_mem_filter hmem)

theorem Divides.keptLines_iff
    (h : Divides (splitLines text.toList) "Metadata" before header body after)
    (hout : endedLines out.toList =
      ended (newlineOf text.toList) (trailingOf (newlineOf text.toList) text.toList)
        (before ++ header ::
          (stampedBody (replacementsOf beatmapId beatmapSetId creator) body ++ after))) :
    keptLines out = keptLines text ↔
      ∀ entry ∈ keptLines text, entry.2 = newlineOf text.toList ∨ entry.2 = [] ∧
        ¬(after = [] ∧
          missingLines (replacementsOf beatmapId beatmapSetId creator) body ≠ []) := by
  obtain ⟨front, entry, inside, entries, hentries, rfl, rfl, rfl, rfl⟩ := h.exists_entries
  have hclosed := endedLines_closed text.toList
  have hlast := fun entry => @trailingOf_text (newlineOf text.toList) text.toList entry
  have hnewline := getLast?_newlineOf text.toList
  have hfront : ∀ other ∈ front, headerOf other.1 ≠ some "Metadata".toList :=
    fun other hother => h.before other.1 (List.mem_map_of_mem hother)
  have hinside : ∀ other ∈ inside, headerOf other.1 = none :=
    fun other hother => h.body other.1 (List.mem_map_of_mem hother)
  have hstamped := @headerOf_stamped beatmapId beatmapSetId creator _ h.body
  have hfilter := @filter_stamped beatmapId beatmapSetId creator (inside.map Prod.fst)
  unfold keptLines
  rw [hentries] at hclosed hlast
  rw [hout, hentries]
  by_cases hafter : entries = []
  · subst hafter
    have hinner : ∀ line ∈ (inside.map Prod.fst).map
        (stamp (replacementsOf beatmapId beatmapSetId creator)), headerOf line = none :=
      fun line hline => hstamped line (List.mem_append_left _ hline)
    rw [List.map_nil, List.append_nil, stampedBody]
    by_cases hmissing : missingLines (replacementsOf beatmapId beatmapSetId creator)
        (inside.map Prod.fst) = []
    · -- The last line is one of the section.
      have hne : inside ≠ [] := by
        rintro rfl
        have hall := missingLines_eq_nil.mp hmissing ("Creator", creator) (by simp [replacementsOf])
        simp at hall
      rw [hmissing, List.append_nil]
      obtain ⟨inside, last, rfl⟩ := (List.eq_nil_or_concat inside).resolve_left hne
      rw [List.concat_eq_append, List.append_nil] at hclosed hlast ⊢
      rw [List.concat_eq_append] at hinside hinner
      rw [List.map_append, List.map_append] at hinner ⊢
      have htail : keptFrom true (ended (newlineOf text.toList)
          (trailingOf (newlineOf text.toList) text.toList)
            [stamp (replacementsOf beatmapId beatmapSetId creator) last.1]) =
            keptFrom true [last] ↔
          ∀ entry ∈ keptFrom true [last], entry.2 = newlineOf text.toList ∨ entry.2 = [] := by
        rw [← List.cons_append, ← List.append_assoc] at hclosed hlast
        cases hkeyed : isKeyed last.1 with
        | true =>
          have hnone : keptFrom true [last] = [] := keptFrom_keyed (by simpa using hkeyed)
          rw [hnone, keptFrom_keyed]
          · simp
          · intro other hother
            rw [List.mem_singleton.mp (mem_ended hother), isKeyed_stamp, hkeyed]
        | false =>
          rw [stamp_of_not_isKeyed hkeyed]
          apply keptFrom_ended hclosed.append hnewline
          intro other hother
          apply hlast
          rw [List.getLast?_append, hother]
          rfl
      have hiff := keptFrom_joined_iff hclosed hfront h.header
        (fun other hother => hinside other (List.mem_append_left _ hother))
        (fun line hline => hinner line (List.mem_append_left _ hline))
        filter_stamp (List.cons_ne_nil _ _) (List.cons_ne_nil _ _) htail
      simpa using hiff
    · -- The last lines are those of the keys that are missing.
      have hnone : keptFrom true (ended (newlineOf text.toList)
          (trailingOf (newlineOf text.toList) text.toList)
            (missingLines (replacementsOf beatmapId beatmapSetId creator)
              (inside.map Prod.fst))) = [] := by
        apply keptFrom_keyed
        intro other hother
        exact isKeyed_missingLines other.1 (mem_ended hother)
      rw [keptFrom_joined hfront h.header hinside hinner filter_stamp hmissing,
        keptFrom_divided hfront h.header hinside, hnone]
      simp [hmissing, keptFrom]
  · rw [keptFrom_joined_iff hclosed hfront h.header hinside hstamped hfilter
      (by simpa using hafter) hafter]
    · simp [hafter]
    · rw [← List.cons_append, ← List.append_assoc] at hclosed hlast
      apply keptFrom_ended hclosed.append hnewline
      intro other hother
      apply hlast
      rw [List.getLast?_append, hother]
      rfl

theorem getLast?_stampedBody
    (h : (stampedBody (replacementsOf beatmapId beatmapSetId creator) body).getLast? = some []) :
    body.getLast? = some [] := by
  obtain ⟨front, hfront⟩ := List.getLast?_eq_some_iff.mp h
  have hmissing : missingLines (replacementsOf beatmapId beatmapSetId creator) body = [] := by
    cases hlast : (missingLines (replacementsOf beatmapId beatmapSetId creator) body).getLast? with
    | none => exact List.getLast?_eq_none_iff.mp hlast
    | some line =>
      rw [stampedBody, List.getLast?_append, hlast] at h
      have hkeyed := isKeyed_missingLines line (List.mem_of_getLast? hlast)
      rw [Option.some.inj h, isKeyed_nil] at hkeyed
      cases hkeyed
  rw [stampedBody, hmissing, List.append_nil, List.getLast?_map] at h
  obtain ⟨line, hline, hstamp⟩ := Option.map_eq_some_iff.mp h
  have hkeyed := @isKeyed_stamp beatmapId beatmapSetId creator line
  rw [hstamp, isKeyed_nil] at hkeyed
  rw [stamp_of_not_isKeyed hkeyed.symm] at hstamp
  rw [hline, hstamp]

-- The lines that were written are read, where the endings were as they are now.
theorem Divides.splitLines_eq
    (h : Divides (splitLines text.toList) "Metadata" before header body after)
    (hout : endedLines out.toList =
      ended (newlineOf text.toList) (trailingOf (newlineOf text.toList) text.toList)
        (before ++ header ::
          (stampedBody (replacementsOf beatmapId beatmapSetId creator) body ++ after)))
    (hkept : ∀ entry ∈ keptLines text, entry.2 = newlineOf text.toList ∨ entry.2 = []) :
    splitLines out.toList = before ++ header ::
      (stampedBody (replacementsOf beatmapId beatmapSetId creator) body ++ after) := by
  rw [← endedLines_map_fst, hout]
  apply ended_map_fst
  intro line hline
  by_cases hempty : line = []
  · subst hempty
    apply Or.inr
    have hheader : header ≠ [] := by
      rintro rfl
      have hnone := h.header
      rw [headerOf_nil] at hnone
      cases hnone
    have hlast : (splitLines text.toList).getLast? = some [] := by
      rw [h.lines_eq, List.append_cons, List.getLast?_append, List.getLast?_append]
      rw [List.append_cons, List.getLast?_append, List.getLast?_append] at hline
      cases hafter : after.getLast? with
      | some line =>
        rw [hafter] at hline
        exact hline
      | none =>
        rw [hafter] at hline
        cases hstamped : (stampedBody (replacementsOf beatmapId beatmapSetId creator)
            body).getLast? with
        | some line =>
          rw [hstamped] at hline
          have hnil : line = [] := by simpa using hline
          rw [getLast?_stampedBody (hnil ▸ hstamped)]
          rfl
        | none =>
          rw [hstamped] at hline
          exact absurd (by simpa using hline) hheader
    rw [← endedLines_map_fst, List.getLast?_map] at hlast
    obtain ⟨entry, hentry, hnil⟩ := Option.map_eq_some_iff.mp hlast
    have hmem : entry ∈ keptLines text :=
      mem_keptFrom (List.mem_of_getLast? hentry) (by rw [hnil, isKeyed_nil])
    have hclosed := endedLines_closed text.toList
    obtain ⟨front, hfront⟩ := List.getLast?_eq_some_iff.mp hentry
    rw [hfront] at hclosed
    have hending : entry.2 = newlineOf text.toList := by
      rcases hkept entry hmem with hnewline | hopen
      · exact hnewline
      · exact absurd hnil (hclosed.append.1 hopen).1
    have hsame := (trailingOf_eq_iff (getLast?_newlineOf text.toList)).mpr (Or.inl hending)
    rw [trailingOf_text hentry, hsame, hending]
    intro hnewline
    have hlf := getLast?_newlineOf text.toList
    rw [hnewline] at hlf
    cases hlf
  · exact Or.inl hempty

end Joining

section Identity

variable {β : Type} {b : Builtins β} {text creator : String} {metadata : OsuFileMetadata β}
variable {beatmapId beatmapSetId : Int}

-- The text is rewritten to one that is read as it was but for the creator, that gives the three
-- keys as told, and that has every other line as it was.
def IdentityStamped {β : Type} (b : Builtins β) (text : String) (metadata : OsuFileMetadata β)
    (beatmapId beatmapSetId : Int) (creator : String) : Prop :=
  ∃ out, rewriteOsuFileIdentity text beatmapId beatmapSetId creator = .ok out ∧
    parseOsuFile b out = .ok { metadata with declaredCreator := creator } ∧
    (∀ r ∈ replacementsOf beatmapId beatmapSetId creator,
      (metadataOf (splitLines out.toList)).lookup r.1 = some r.2) ∧
    keptLines out = keptLines text

-- The first [Metadata] ends the file and has not all of the keys.
def Appends (lines : List (List Char)) : Prop :=
  ∃ bounds, sectionBounds lines "Metadata" = some bounds ∧ lines.drop bounds.2 = [] ∧
    ∃ k ∈ identityKeys, k ∉ ((lines.take bounds.2).drop bounds.1).map keyOf

-- What is behind the first [Metadata].
def linesBehind (lines : List (List Char)) : List (List Char) :=
  match sectionBounds lines "Metadata" with
  | some bounds => lines.drop bounds.2
  | none => []

-- Every line that stays ends in the newline that the text is joined with, or is the last one,
-- ends in none and stays the last; a later [Metadata] gives none of the keys another value; and
-- the creator is what is read back of it.
structure Stampable (text : String) (beatmapId beatmapSetId : Int) (creator : String) : Prop where
  newlines : ∀ entry ∈ keptLines text, entry.2 = newlineOf text.toList ∨
    entry.2 = [] ∧ ¬Appends (splitLines text.toList)
  unrepeated : ∀ r ∈ replacementsOf beatmapId beatmapSetId creator, ∀ value,
    (metadataOf (linesBehind (splitLines text.toList))).lookup r.1 = some value → value = r.2
  creator : stripped creator = creator ∧ creator.toList.length ≤ maxMetadataLength

theorem stripped_toString (n : Int) : stripped (toString n) = toString n := by
  unfold stripped
  rw [strip_of_no_space (not_isSpace_toString n), String.ofList_toList]

theorem plain_replacementsOf (hcreator : ∀ c ∈ creator.toList, isLineBreak c = false) :
    ∀ r ∈ replacementsOf beatmapId beatmapSetId creator, ∀ c ∈ r.2.toList,
      isLineBreak c = false := by
  have hnumber (n : Int) : ∀ c ∈ (toString n).toList, isLineBreak c = false := by
    intro c hc
    have hspace := not_isSpace_toString n c hc
    cases hbreak : isLineBreak c with
    | false => rfl
    | true =>
      rw [isSpace_of_isLineBreak hbreak] at hspace
      cases hspace
  intro r hr
  simp only [replacementsOf, List.mem_cons, List.not_mem_nil, or_false] at hr
  rcases hr with rfl | rfl | rfl
  · exact hnumber beatmapId
  · exact hnumber beatmapSetId
  · exact hcreator

-- A text that is accepted has the section.
theorem exists_divides (h : parseOsuFile b text = .ok metadata) :
    ∃ before header body after,
      Divides (splitLines text.toList) "Metadata" before header body after := by
  apply divides_of_mem
  by_contra hnone
  have hmissing : (requiredSections.find? fun name =>
      ((splitSections (splitLines text.toList)).lookup name).isNone).isSome := by
    rw [List.find?_isSome]
    exact ⟨"Metadata", by decide, (isNone_splitSections _ _).mpr hnone⟩
  obtain ⟨missing, hfind⟩ := Option.isSome_iff_exists.mp hmissing
  unfold parseOsuFile at h
  simp only [hfind] at h
  cases hversion : parseFormatVersion b (splitLines text.toList) with
  | error e =>
    rw [hversion] at h
    cases h
  | ok version =>
    rw [hversion] at h
    cases h

theorem stripped_of_lookup {lines : List (List Char)} {k value : String}
    (h : (metadataOf lines).lookup k = some value) : stripped value = value := by
  rw [metadataOf_eq] at h
  obtain ⟨line, -, hline⟩ := List.mem_filterMap.mp (mem_of_lookup_dictOf h)
  unfold keyValueOf at hline
  obtain ⟨parts, -, hparts⟩ := Option.map_eq_some_iff.mp hline
  rw [← (Prod.mk.inj hparts).2, stripped, String.toList_ofList, strip_strip]

theorem clip_eq_self {value : String} {length : Nat} :
    clip value length = value ↔ value.toList.length ≤ length := by
  unfold clip
  constructor
  · intro h
    rw [← h, String.toList_ofList]
    exact List.length_take_le _ _
  · intro h
    rw [List.take_of_length_le h, String.ofList_toList]

theorem stripped_replacementsOf (hcreator : stripped creator = creator) :
    ∀ r ∈ replacementsOf beatmapId beatmapSetId creator, stripped r.2 = r.2 := by
  intro r hr
  simp only [replacementsOf, List.mem_cons, List.not_mem_nil, or_false] at hr
  rcases hr with rfl | rfl | rfl
  · exact stripped_toString beatmapId
  · exact stripped_toString beatmapSetId
  · exact hcreator

theorem Divides.linesBehind_eq {lines before body after : List (List Char)} {header : List Char}
    (h : Divides lines "Metadata" before header body after) : linesBehind lines = after := by
  unfold linesBehind
  rw [h.sectionBounds]
  dsimp only
  rw [h.lines_eq, List.append_cons, ← List.append_assoc]
  apply List.drop_left'
  simp only [List.length_append, List.length_singleton]

theorem Divides.appends_iff {lines before body after : List (List Char)} {header : List Char}
    (h : Divides lines "Metadata" before header body after) :
    Appends lines ↔ after = [] ∧
      missingLines (replacementsOf beatmapId beatmapSetId creator) body ≠ [] := by
  have hbehind := h.linesBehind_eq
  unfold linesBehind at hbehind
  rw [h.sectionBounds] at hbehind
  have hlength : (before ++ [header] ++ body).length = before.length + 1 + body.length := by
    simp only [List.length_append, List.length_singleton]
  have hbody : (lines.take (before.length + 1 + body.length)).drop (before.length + 1) = body := by
    rw [h.lines_eq, List.append_cons, ← List.append_assoc, List.take_left' hlength,
      List.drop_left' (by simp)]
  have hmissing : missingLines (replacementsOf beatmapId beatmapSetId creator) body ≠ [] ↔
      ∃ k ∈ identityKeys, k ∉ body.map keyOf := by
    rw [Ne, missingLines_eq_nil, ← replacementsOf_keys beatmapId beatmapSetId creator]
    push Not
    constructor
    · rintro ⟨r, hr, hkey⟩
      exact ⟨r.1, List.mem_map_of_mem hr, hkey⟩
    · rintro ⟨k, hk, hkey⟩
      obtain ⟨r, hr, rfl⟩ := List.mem_map.mp hk
      exact ⟨r, hr, hkey⟩
  unfold Appends
  rw [h.sectionBounds, hmissing]
  constructor
  · rintro ⟨bounds, hbounds, hdrop, hkey⟩
    cases hbounds
    exact ⟨hbehind.symm.trans hdrop, hbody ▸ hkey⟩
  · rintro ⟨hafter, hkey⟩
    exact ⟨_, rfl, hbehind.trans hafter, hbody.symm ▸ hkey⟩

-- What the rewriting makes of a text that is accepted, and what is read of it where every line
-- stays.
structure Rewritten (text : String) (beatmapId beatmapSetId : Int) (creator out : String)
    (before : List (List Char)) (header : List Char) (body after : List (List Char)) : Prop where
  run : rewriteOsuFileIdentity text beatmapId beatmapSetId creator = .ok out
  divides : Divides (splitLines text.toList) "Metadata" before header body after
  kept : keptLines out = keptLines text ↔ ∀ entry ∈ keptLines text,
    entry.2 = newlineOf text.toList ∨ entry.2 = [] ∧ ¬Appends (splitLines text.toList)
  read : keptLines out = keptLines text →
    Divides (splitLines out.toList) "Metadata" before header
      (stampedBody (replacementsOf beatmapId beatmapSetId creator) body) after

theorem exists_rewritten (hparse : parseOsuFile b text = .ok metadata)
    (hcreator : ∀ c ∈ creator.toList, isLineBreak c = false) :
    ∃ out before header body after,
      Rewritten text beatmapId beatmapSetId creator out before header body after := by
  obtain ⟨before, header, body, after, hd⟩ := exists_divides hparse
  obtain ⟨out, hrun, htoList⟩ := @rewriteOsuFileIdentity_eq text creator beatmapId beatmapSetId
    before body after header hd
  have hended := hd.endedLines_eq (plain_replacementsOf hcreator) htoList
  have hkept := hd.keptLines_iff hended
  rw [← hd.appends_iff] at hkept
  refine ⟨out, before, header, body, after, hrun, hd, hkept, ?_⟩
  intro hsame
  rw [hd.splitLines_eq hended fun entry hentry =>
    (hkept.mp hsame entry hentry).imp_right And.left]
  exact hd.with_body (headerOf_stamped hd.body)

-- A later section has the last word.
theorem Rewritten.lookup {out : String} {before body after : List (List Char)}
    {header : List Char} {r : String × String}
    (h : Rewritten text beatmapId beatmapSetId creator out before header body after)
    (hsame : keptLines out = keptLines text)
    (hr : r ∈ replacementsOf beatmapId beatmapSetId creator) :
    (metadataOf (splitLines out.toList)).lookup r.1 =
      ((metadataOf (linesBehind (splitLines text.toList))).lookup r.1).or
        (some (stripped r.2)) := by
  rw [(h.read hsame).lookup_metadataOf, lookup_stampedBody hr, h.divides.linesBehind_eq]

theorem IdentityStamped.stampable
    (h : IdentityStamped b text metadata beatmapId beatmapSetId creator)
    (hparse : parseOsuFile b text = .ok metadata)
    (hcreator : ∀ c ∈ creator.toList, isLineBreak c = false) :
    Stampable text beatmapId beatmapSetId creator := by
  obtain ⟨out, before, header, body, after, hout⟩ :=
    @exists_rewritten _ b text creator metadata beatmapId beatmapSetId hparse hcreator
  obtain ⟨written, hwritten, hparsed, hkeys, hsame⟩ := h
  rw [hout.run] at hwritten
  cases hwritten
  have hvalue := hkeys ("Creator", creator) (by simp [replacementsOf])
  have hstripped := stripped_of_lookup hvalue
  refine ⟨hout.kept.mp hsame, ?_, hstripped, ?_⟩
  · intro r hr value hlater
    have hgiven := hout.lookup hsame hr
    rw [hlater, Option.some_or, hkeys r hr] at hgiven
    exact (Option.some.inj hgiven).symm
  · rw [parseOsuFile_stamped b hout.divides (hout.read hsame) filter_stamped, hparse, hvalue,
      Option.getD_some, hstripped] at hparsed
    have hdeclared := congrArg OsuFileMetadata.declaredCreator (Except.ok.inj hparsed)
    exact clip_eq_self.mp hdeclared

theorem Stampable.identityStamped (h : Stampable text beatmapId beatmapSetId creator)
    (hparse : parseOsuFile b text = .ok metadata)
    (hcreator : ∀ c ∈ creator.toList, isLineBreak c = false) :
    IdentityStamped b text metadata beatmapId beatmapSetId creator := by
  obtain ⟨out, before, header, body, after, hout⟩ :=
    @exists_rewritten _ b text creator metadata beatmapId beatmapSetId hparse hcreator
  obtain ⟨hnewlines, hunrepeated, hstripped, hlength⟩ := h
  have hsame := hout.kept.mpr hnewlines
  have hkeys : ∀ r ∈ replacementsOf beatmapId beatmapSetId creator,
      (metadataOf (splitLines out.toList)).lookup r.1 = some r.2 := by
    intro r hr
    rw [hout.lookup hsame hr, stripped_replacementsOf hstripped r hr]
    cases hlater : (metadataOf (linesBehind (splitLines text.toList))).lookup r.1 with
    | none => rfl
    | some value => rw [hunrepeated r hr value hlater, Option.some_or]
  have hvalue := hkeys ("Creator", creator) (by simp [replacementsOf])
  refine ⟨out, hout.run, ?_, hkeys, hsame⟩
  rw [parseOsuFile_stamped b hout.divides (hout.read hsame) filter_stamped, hparse, hvalue,
    Option.getD_some, hstripped, clip_eq_self.mpr hlength]
  rfl

theorem identityStamped_iff (hparse : parseOsuFile b text = .ok metadata)
    (hcreator : ∀ c ∈ creator.toList, isLineBreak c = false) :
    IdentityStamped b text metadata beatmapId beatmapSetId creator ↔
      Stampable text beatmapId beatmapSetId creator := by
  constructor
  · intro h
    exact h.stampable hparse hcreator
  · intro h
    exact h.identityStamped hparse hcreator

def sampleMetadata : OsuFileMetadata where
  formatVersion := 14
  artist := "artist"
  title := "title"
  version := "Hard"
  declaredCreator := ""
  mode := 0
  hp := 5
  cs := 4
  od := 8
  ar := 8
  bpm := 120
  totalLength := 0
  hitObjectCount := 1

def repeatedMetadata : List String := ["[Metadata]", "BeatmapID:5"]

theorem parse_sample : ∀ more ∈ [[], repeatedMetadata],
    parseOsuFile plainBuiltins (String.ofList (sampleChars more)) = .ok sampleMetadata := by
  intro more hmore
  have hsplit : ∀ more ∈ [[], repeatedMetadata],
      splitLines (sampleChars more) = sampleLines more := by
    decide
  unfold parseOsuFile
  simp only [String.toList_ofList, hsplit more hmore]
  revert more
  decide +kernel

theorem identityStamped_iff_sample :
    IdentityStamped plainBuiltins (String.ofList (sampleChars [])) sampleMetadata 1 1 "mapper" := by
  have hnewlines : ∀ entry ∈ keptFrom false (endedLines (sampleChars [])),
      entry.2 = newlineOf (sampleChars []) := by
    decide +kernel
  have hbehind : ∀ k ∈ identityKeys,
      (metadataOf (linesBehind (splitLines (sampleChars [])))).lookup k = none := by
    decide
  have hcreator : "mapper".toList.all fun c => !isLineBreak c := by decide
  apply (identityStamped_iff (parse_sample [] (by decide)) (unbroken_of_all hcreator)).mpr
  refine ⟨?_, ?_, by decide, by decide⟩
  · unfold keptLines
    rw [String.toList_ofList]
    intro entry hentry
    exact Or.inl (hnewlines entry hentry)
  · rw [String.toList_ofList]
    intro r hr value hvalue
    rw [hbehind r.1 (mem_identityKeys_iff.mpr ⟨r, hr, rfl⟩)] at hvalue
    cases hvalue

-- The parser takes the id of a second [Metadata], which the rewriting leaves as it is.
theorem not_identityStamped : ¬∀ (b : Builtins) (text creator : String)
    (metadata : OsuFileMetadata) (beatmapId beatmapSetId : Int),
    parseOsuFile b text = .ok metadata → (∀ c ∈ creator.toList, isLineBreak c = false) →
      IdentityStamped b text metadata beatmapId beatmapSetId creator := by
  intro hall
  have hparse := parse_sample repeatedMetadata (by decide)
  have hcreator : ∀ c ∈ "mapper".toList, isLineBreak c = false :=
    unbroken_of_all (by decide)
  have hstampable := (hall _ _ "mapper" _ 1 1 hparse hcreator).stampable hparse hcreator
  have hbehind : (metadataOf (linesBehind (splitLines (sampleChars repeatedMetadata)))).lookup
      "BeatmapID" = some "5" := by
    decide
  have hunrepeated := hstampable.unrepeated ("BeatmapID", toString (1 : Int))
    (by simp [replacementsOf]) "5"
  rw [String.toList_ofList] at hunrepeated
  have heq := hunrepeated hbehind
  revert heq
  decide

end Identity

end BanchoPrism.Submissions
