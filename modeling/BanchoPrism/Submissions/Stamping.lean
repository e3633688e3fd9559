import BanchoPrism.Submissions.Sections

namespace BanchoPrism.Submissions

open Library Library.Text

def identityKeys : List String := ["BeatmapID", "BeatmapSetID", "Creator"]

-- The values that are given for the keys.
def replacementsOf (beatmapId beatmapSetId : Int) (creator : String) : List (String × String) :=
  [("BeatmapID", toString beatmapId), ("BeatmapSetID", toString beatmapSetId),
    ("Creator", creator)]

def newlineOf (text : List Char) : List Char :=
  if "\r\n".toList <:+: text then ['\r', '\n'] else ['\n']

-- What a text ends in that is put together again.
def trailingOf (newline text : List Char) : List Char :=
  match text.getLast? with
  | some '\n' | some '\r' => newline
  | _ => []

def entryLine (r : String × String) : List Char := r.1.toList ++ ':' :: r.2.toList

def stamp (replacements : List (String × String)) (line : List Char) : List Char :=
  match replacements.find? fun r => r.1 = keyOf line with
  | some r => entryLine r
  | none => line

def missingLines (replacements : List (String × String)) (body : List (List Char)) :
    List (List Char) :=
  (replacements.filter fun r => r.1 ∉ body.map keyOf).map entryLine

-- The lines of the section, rewritten.
def stampedBody (replacements : List (String × String)) (body : List (List Char)) :
    List (List Char) := body.map (stamp replacements) ++ missingLines replacements body

def isKeyed (line : List Char) : Bool := keyOf line ∈ identityKeys

-- The lines up to the first section of a name, those of it, and those behind it.
structure Divides (lines : List (List Char)) (name : String) (before : List (List Char))
    (header : List Char) (body after : List (List Char)) : Prop where
  lines_eq : lines = before ++ header :: (body ++ after)
  before : ∀ line ∈ before, headerOf line ≠ some name.toList
  header : headerOf header = some name.toList
  body : ∀ line ∈ body, headerOf line = none
  after : ∀ line ∈ after.head?, (headerOf line).isSome

section Dividing

variable {lines before body after : List (List Char)} {header line : List Char} {name : String}

theorem headerOf_metadata :
    headerOf line = some "Metadata".toList ↔
      strip line = "[".toList ++ "Metadata".toList ++ "]".toList := by
  constructor
  · exact headerOf_eq_some
  · intro h
    unfold headerOf
    rw [h]
    decide

theorem divides_of_mem (h : some name.toList ∈ lines.map headerOf) :
    ∃ before header body after, Divides lines name before header body after := by
  obtain ⟨header, hmem, hheader⟩ := List.mem_map.mp h
  let other (line : List Char) : Bool := headerOf line ≠ some name.toList
  let plain (line : List Char) : Bool := (headerOf line).isNone
  have hfirst : lines.takeWhile other ++ lines.dropWhile other = lines :=
    List.takeWhile_append_dropWhile
  have hbefore : ∀ line ∈ lines.takeWhile other, headerOf line ≠ some name.toList := by
    intro line hline
    have hother : other line = true := List.mem_takeWhile_imp hline
    exact of_decide_eq_true hother
  cases hrest : lines.dropWhile other with
  | nil =>
    have hall : other header = true := List.dropWhile_eq_nil_iff.mp hrest header hmem
    exact absurd hheader (of_decide_eq_true hall)
  | cons first rest =>
    have hhead := List.head?_dropWhile_not other lines
    have hsplit : rest.takeWhile plain ++ rest.dropWhile plain = rest :=
      List.takeWhile_append_dropWhile
    refine ⟨lines.takeWhile other, first, rest.takeWhile plain, rest.dropWhile plain, ?_⟩
    constructor
    · rw [hsplit, ← hrest, hfirst]
    · exact hbefore
    · rw [hrest] at hhead
      simpa [other] using hhead
    · intro line hline
      have hplain : plain line = true := List.mem_takeWhile_imp hline
      exact Option.isNone_iff_eq_none.mp hplain
    · intro line hline
      have hsome := List.head?_dropWhile_not plain rest
      rw [Option.mem_def.mp hline] at hsome
      simpa [plain, Option.isSome_iff_ne_none] using hsome

theorem Divides.sectionBounds (h : Divides lines "Metadata" before header body after) :
    sectionBounds lines "Metadata" =
      some (before.length + 1, before.length + 1 + body.length) := by
  have hstart : (lines.findIdx? fun line =>
      strip line = "[".toList ++ "Metadata".toList ++ "]".toList) = some before.length := by
    have hbefore : (before.findIdx? fun line =>
        strip line = "[".toList ++ "Metadata".toList ++ "]".toList) = none := by
      rw [List.findIdx?_eq_none_iff]
      intro line hline
      apply decide_eq_false
      intro heq
      exact h.before line hline (headerOf_metadata.mpr heq)
    have hheader := headerOf_metadata.mp h.header
    rw [h.lines_eq, List.findIdx?_append, hbefore, List.findIdx?_cons,
      if_pos (decide_eq_true hheader)]
    simp
  have hdrop : lines.drop (before.length + 1) = body ++ after := by
    rw [h.lines_eq]
    simp
  have hstop : ((body ++ after).findIdx fun line => (matchSection (strip line)).isSome) =
      body.length := by
    have hbody : (body.findIdx fun line => (matchSection (strip line)).isSome) = body.length := by
      rw [List.findIdx_eq_length]
      intro line hline
      have hnone : matchSection (strip line) = none := h.body line hline
      rw [hnone]
      rfl
    rw [List.findIdx_append, hbody, if_neg (lt_irrefl _)]
    cases hafter : after with
    | nil => simp
    | cons line rest =>
      have hsome : (matchSection (strip line)).isSome := h.after line (by rw [hafter]; rfl)
      rw [List.findIdx_cons, hsome]
      simp
  unfold Submissions.sectionBounds
  rw [hstart]
  simp only [Option.bind_eq_bind, Option.bind_some, hdrop, hstop]
  rfl

end Dividing

section Keys

variable {line key value : List Char} {k : String}

theorem mem_identityKeys (h : k ∈ identityKeys) :
    ∃ c rest, k.toList = c :: rest ∧ c ≠ '[' ∧ c ≠ '/' := by
  simp only [identityKeys, List.mem_cons, List.not_mem_nil, or_false] at h
  rcases h with rfl | rfl | rfl
  · exact ⟨'B', "eatmapID".toList, by decide⟩
  · exact ⟨'B', "eatmapSetID".toList, by decide⟩
  · exact ⟨'C', "reator".toList, by decide⟩

theorem keyOf_of_partition (h : partition ':' line = some (key, value)) :
    keyOf line = String.ofList (strip key) := by
  unfold keyOf
  rw [h]

-- A line of a key is what is left of it when it is stripped, up to the colon.
theorem strip_of_isKeyed (h : isKeyed line) :
    ∃ key value, partition ':' line = some (key, value) ∧
      ∃ rest, strip line = (keyOf line).toList ++ rest := by
  have hkey : keyOf line ∈ identityKeys := of_decide_eq_true h
  cases hpartition : partition ':' line with
  | none =>
    have hempty : keyOf line = "" := by
      unfold keyOf
      rw [hpartition]
    rw [hempty] at hkey
    exact absurd hkey (by decide)
  | some parts =>
    obtain ⟨key, value⟩ := parts
    refine ⟨key, value, rfl, ?_⟩
    obtain ⟨hline, -⟩ := partition_eq_some.mp hpartition
    obtain ⟨rest, hrest⟩ := strip_prefix key
    rw [keyOf_of_partition hpartition, String.toList_ofList]
    refine ⟨rest ++ ':' :: rstripBy isSpace value, ?_⟩
    rw [hline, strip_append_cons (by decide), ← hrest, List.append_assoc]

theorem headerOf_of_isKeyed (h : isKeyed line) : headerOf line = none := by
  obtain ⟨-, -, -, rest, hstrip⟩ := strip_of_isKeyed h
  obtain ⟨c, others, hc, hne, -⟩ := mem_identityKeys (of_decide_eq_true h)
  apply matchSection_of_head
  rw [hstrip, hc]
  simpa using hne

theorem contentOf_of_isKeyed (h : isKeyed line) :
    contentOf line = some (String.ofList (strip line)) := by
  obtain ⟨-, -, -, rest, hstrip⟩ := strip_of_isKeyed h
  obtain ⟨c, others, hc, -, hne⟩ := mem_identityKeys (of_decide_eq_true h)
  have hcontent : ((strip line).isEmpty || "//".toList.isPrefixOf (strip line)) = false := by
    rw [hstrip, hc]
    have hslash : "//".toList = ['/', '/'] := by decide
    rw [hslash, List.cons_append, List.isPrefixOf_cons_cons]
    simp [Ne.symm hne]
  unfold contentOf
  rw [hcontent, if_neg Bool.false_ne_true]

theorem keyValueOf_strip (h : partition ':' line = some (key, value)) :
    keyValueOf (String.ofList (strip line)) =
      some (String.ofList (strip key), String.ofList (strip value)) := by
  unfold keyValueOf
  rw [String.toList_ofList, partition_strip (by decide) h, Option.map_some]
  dsimp only
  rw [strip_dropWhile, strip_rstrip]

theorem entryOf_of_isKeyed (h : isKeyed line) : ∃ value, entryOf line = some (keyOf line, value) := by
  obtain ⟨key, value, hpartition, -⟩ := strip_of_isKeyed h
  refine ⟨String.ofList (strip value), ?_⟩
  unfold entryOf
  rw [contentOf_of_isKeyed h, Option.bind_some, keyValueOf_strip hpartition,
    keyOf_of_partition hpartition]

-- The reader of a line takes the key from it that the rewriting goes by.
theorem keyOf_of_entryOf {entry : String × String} (h : entryOf line = some entry) :
    keyOf line = entry.1 := by
  unfold entryOf contentOf at h
  split at h
  · cases h
  · rw [Option.bind_some] at h
    cases hpartition : partition ':' line with
    | none =>
      unfold keyValueOf at h
      rw [String.toList_ofList, partition_strip_none hpartition] at h
      cases h
    | some parts =>
      rw [keyValueOf_strip hpartition] at h
      rw [keyOf_of_partition hpartition, ← Option.some.inj h]

end Keys

section Entries

variable {beatmapId beatmapSetId : Int} {creator : String} {r other : String × String}
variable {line : List Char} {body : List (List Char)}

theorem replacementsOf_keys (beatmapId beatmapSetId : Int) (creator : String) :
    (replacementsOf beatmapId beatmapSetId creator).map Prod.fst = identityKeys := rfl

theorem mem_identityKeys_iff {k : String} :
    k ∈ identityKeys ↔ ∃ r ∈ replacementsOf beatmapId beatmapSetId creator, r.1 = k := by
  rw [← replacementsOf_keys beatmapId beatmapSetId creator, List.mem_map]

theorem eq_of_mem_replacementsOf (h : r ∈ replacementsOf beatmapId beatmapSetId creator)
    (hother : other ∈ replacementsOf beatmapId beatmapSetId creator) (hkey : r.1 = other.1) :
    r = other := by
  have hnodup : ((replacementsOf beatmapId beatmapSetId creator).map Prod.fst).Nodup := by
    rw [replacementsOf_keys]
    decide
  exact List.inj_on_of_nodup_map hnodup h hother hkey

theorem strip_key {k : String} (h : k ∈ identityKeys) :
    strip k.toList = k.toList ∧ ':' ∉ k.toList := by
  revert k
  decide

theorem partition_entryLine (h : r.1 ∈ identityKeys) :
    partition ':' (entryLine r) = some (r.1.toList, r.2.toList) :=
  partition_eq_some.mpr ⟨rfl, (strip_key h).2⟩

theorem keyOf_entryLine (h : r.1 ∈ identityKeys) : keyOf (entryLine r) = r.1 := by
  rw [keyOf_of_partition (partition_entryLine h), (strip_key h).1, String.ofList_toList]

theorem isKeyed_entryLine (h : r.1 ∈ identityKeys) : isKeyed (entryLine r) := by
  unfold isKeyed
  rw [keyOf_entryLine h]
  exact decide_eq_true h

theorem entryOf_entryLine (h : r.1 ∈ identityKeys) :
    entryOf (entryLine r) = some (r.1, stripped r.2) := by
  unfold entryOf
  rw [contentOf_of_isKeyed (isKeyed_entryLine h), Option.bind_some,
    keyValueOf_strip (partition_entryLine h), (strip_key h).1, String.ofList_toList]
  rfl

theorem stamp_of_mem (h : r ∈ replacementsOf beatmapId beatmapSetId creator)
    (hkey : keyOf line = r.1) :
    stamp (replacementsOf beatmapId beatmapSetId creator) line = entryLine r := by
  unfold stamp
  cases hfind : (replacementsOf beatmapId beatmapSetId creator).find?
      fun r => r.1 = keyOf line with
  | none =>
    have hne := List.find?_eq_none.mp hfind r h
    simp [hkey] at hne
  | some found =>
    have hfound : found.1 = keyOf line := by simpa using List.find?_some hfind
    rw [eq_of_mem_replacementsOf (List.mem_of_find?_eq_some hfind) h (hfound.trans hkey)]

theorem stamp_of_not_isKeyed (h : isKeyed line = false) :
    stamp (replacementsOf beatmapId beatmapSetId creator) line = line := by
  unfold stamp
  cases hfind : (replacementsOf beatmapId beatmapSetId creator).find?
      fun r => r.1 = keyOf line with
  | none => rfl
  | some found =>
    have hfound : found.1 = keyOf line := by simpa using List.find?_some hfind
    have hmem := mem_identityKeys_iff.mpr ⟨found, List.mem_of_find?_eq_some hfind, hfound⟩
    exact absurd hmem (of_decide_eq_false h)

theorem isKeyed_stamp (line : List Char) :
    isKeyed (stamp (replacementsOf beatmapId beatmapSetId creator) line) = isKeyed line := by
  cases hkeyed : isKeyed line with
  | false => rw [stamp_of_not_isKeyed hkeyed, hkeyed]
  | true =>
    obtain ⟨r, hr, hkey⟩ := mem_identityKeys_iff.mp (of_decide_eq_true hkeyed)
    rw [stamp_of_mem hr hkey.symm]
    exact isKeyed_entryLine (mem_identityKeys_iff.mpr ⟨r, hr, rfl⟩)

theorem isKeyed_missingLines :
    ∀ line ∈ missingLines (replacementsOf beatmapId beatmapSetId creator) body,
      isKeyed line := by
  intro line hline
  obtain ⟨r, hr, rfl⟩ := List.mem_map.mp hline
  exact isKeyed_entryLine (mem_identityKeys_iff.mpr ⟨r, (List.mem_filter.mp hr).1, rfl⟩)

theorem filter_stamp :
    ((body.map (stamp (replacementsOf beatmapId beatmapSetId creator))).filter
      fun line => !isKeyed line) = body.filter fun line => !isKeyed line := by
  induction body with
  | nil => rfl
  | cons line rest ih =>
    rw [List.map_cons, List.filter_cons, List.filter_cons, isKeyed_stamp]
    split
    case isTrue hkeyed =>
      rw [ih, stamp_of_not_isKeyed (by simpa using hkeyed)]
    case isFalse => exact ih

-- What the rewriting leaves as it is of the lines of the section.
theorem filter_stamped :
    ((stampedBody (replacementsOf beatmapId beatmapSetId creator) body).filter
      fun line => !isKeyed line) = body.filter fun line => !isKeyed line := by
  have hmissing : ((missingLines (replacementsOf beatmapId beatmapSetId creator) body).filter
      fun line => !isKeyed line) = [] := by
    rw [List.filter_eq_nil_iff]
    intro line hline
    simp [isKeyed_missingLines line hline]
  rw [stampedBody, List.filter_append, hmissing, List.append_nil, filter_stamp]

theorem headerOf_stamped (hbody : ∀ line ∈ body, headerOf line = none) :
    ∀ line ∈ stampedBody (replacementsOf beatmapId beatmapSetId creator) body,
      headerOf line = none := by
  intro line hline
  rcases List.mem_append.mp hline with hstamped | hmissing
  · obtain ⟨old, hold, rfl⟩ := List.mem_map.mp hstamped
    cases hkeyed : isKeyed old with
    | false =>
      rw [stamp_of_not_isKeyed hkeyed]
      exact hbody old hold
    | true => exact headerOf_of_isKeyed ((isKeyed_stamp old).trans hkeyed)
  · exact headerOf_of_isKeyed (isKeyed_missingLines line hmissing)

end Entries

section Rewriting

variable {text creator : String} {beatmapId beatmapSetId : Int}
variable {before body after : List (List Char)} {header : List Char}

theorem toList_trailing (newline : String) (text : List Char) :
    (match text.getLast? with
      | some '\n' | some '\r' => newline
      | _ => "").toList = trailingOf newline.toList text := by
  unfold trailingOf
  split <;> rfl

theorem toList_newline (text : List Char) :
    (if "\r\n".toList <:+: text then "\r\n" else "\n").toList = newlineOf text := by
  unfold newlineOf
  split <;> rfl

theorem toList_entry (r : String × String) : (r.1 ++ ":" ++ r.2).toList = entryLine r := by
  rw [String.toList_append, String.toList_append, List.append_assoc]
  rfl

theorem rewriteOsuFileIdentity_eq
    (h : Divides (splitLines text.toList) "Metadata" before header body after) :
    ∃ out, rewriteOsuFileIdentity text beatmapId beatmapSetId creator = .ok out ∧
      out.toList =
        (newlineOf text.toList).intercalate (before ++ header ::
          (stampedBody (replacementsOf beatmapId beatmapSetId creator) body ++ after)) ++
          trailingOf (newlineOf text.toList) text.toList := by
  have hlines : splitLines text.toList = (before ++ [header]) ++ (body ++ after) := by
    rw [h.lines_eq, List.append_cons]
  have hlength : (before ++ [header]).length = before.length + 1 := List.length_append
  have hstop : ((before ++ [header]) ++ body).length = before.length + 1 + body.length := by
    rw [List.length_append, hlength]
  have htake : (splitLines text.toList).take (before.length + 1) = before ++ [header] := by
    rw [hlines, ← hlength, List.take_left]
  have hdrop : (splitLines text.toList).drop (before.length + 1 + body.length) = after := by
    rw [hlines, ← List.append_assoc, ← hstop, List.drop_left]
  have hbody : ((splitLines text.toList).take (before.length + 1 + body.length)).drop
      (before.length + 1) = body := by
    rw [hlines, ← List.append_assoc, ← hstop, List.take_left, ← hlength, List.drop_left]
  have hofList (lines : List (List Char)) :
      (lines.map String.ofList).map String.toList = lines := by
    rw [List.map_map]
    simp [Function.comp_def]
  unfold rewriteOsuFileIdentity
  simp only [h.sectionBounds, htake, hdrop, hbody]
  refine ⟨_, rfl, ?_⟩
  rw [String.toList_append, String.toList_intercalate]
  have hnewline := toList_newline text.toList
  refine congrArg₂ (· ++ ·) (congrArg₂ List.intercalate hnewline ?_)
    ((toList_trailing _ _).trans (by rw [hnewline]))
  rw [List.map_append, List.map_append, List.map_append, hofList, hofList, List.append_assoc,
    List.append_assoc, List.append_assoc, List.singleton_append, stampedBody, List.append_assoc]
  congr 3
  · rw [List.map_map]
    apply List.map_congr_left
    intro line _
    simp only [Function.comp_apply, stamp, replacementsOf]
    generalize List.find? (fun r : String × String => decide (r.1 = keyOf line)) _ = found
    cases found with
    | some r => exact toList_entry r
    | none => exact String.toList_ofList
  · rw [List.map_map]
    congr 1
    apply List.map_congr_left
    intro r _
    exact toList_entry r

end Rewriting

section Reading

variable {text out creator k : String} {beatmapId beatmapSetId : Int} {r : String × String}
variable {lines before body inner after rest other : List (List Char)} {header : List Char}

-- The keys that a text gives in [Metadata].
def metadataOf (lines : List (List Char)) : List (String × String) :=
  parseKeyValues (bodyOf (splitSections lines) "Metadata")

theorem Divides.with_body (h : Divides lines k before header body after)
    (hinner : ∀ line ∈ inner, headerOf line = none) :
    Divides (before ++ header :: (inner ++ after)) k before header inner after where
  lines_eq := rfl
  before := h.before
  header := h.header
  body := hinner
  after := h.after

theorem metadataOf_eq (lines : List (List Char)) :
    metadataOf lines = dictOf ((sectionLines "Metadata" none lines).filterMap keyValueOf) := by
  unfold metadataOf
  rw [bodyOf_splitSections]
  rfl

theorem sectionLines_header (h : headerOf header = some k.toList) (name : String)
    (current : Option String) :
    sectionLines name current (header :: rest) = sectionLines name (some k) rest := by
  rw [sectionLines, h]
  dsimp only
  rw [String.ofList_toList]

theorem Divides.sectionLines_self (h : Divides lines k before header body after) :
    sectionLines k none lines = body.filterMap contentOf ++ sectionLines k none after := by
  have hheader : ∀ line ∈ (header :: (body ++ after)).head?, (headerOf line).isSome := by
    intro line hline
    cases hline
    rw [h.header]
    rfl
  have hafter : sectionLines k (some k) ([] ++ after) = [] ++ sectionLines k none after :=
    sectionLines_append h.after
  rw [h.lines_eq, sectionLines_append hheader,
    sectionLines_eq_nil (by simp) h.before, List.nil_append, sectionLines_header h.header,
    sectionLines_append_of_none h.body, if_pos rfl]
  exact congrArg _ hafter

-- Another section has the lines that it has whatever lines are in this one.
theorem Divides.sectionLines_other (h : Divides lines k before header body after) {name : String}
    (hname : name ≠ k) :
    sectionLines name none lines =
      sectionLines name none before ++ sectionLines name none after := by
  have hheader : ∀ line ∈ (header :: (body ++ after)).head?, (headerOf line).isSome := by
    intro line hline
    cases hline
    rw [h.header]
    rfl
  have hne : some k ≠ some name := by
    intro heq
    exact hname (Option.some.inj heq).symm
  have hafter : sectionLines name (some k) ([] ++ after) = [] ++ sectionLines name none after :=
    sectionLines_append h.after
  rw [h.lines_eq, sectionLines_append hheader, sectionLines_header h.header,
    sectionLines_append_of_none h.body, if_neg hne]
  exact congrArg _ hafter

theorem Divides.isNone_lookup (h : Divides lines k before header body after) (name : String) :
    ((splitSections lines).lookup name).isNone =
      ((splitSections (before ++ header :: after)).lookup name).isNone := by
  have hbody : some name.toList ∉ body.map headerOf := by
    intro hmem
    obtain ⟨line, hline, heq⟩ := List.mem_map.mp hmem
    rw [h.body line hline] at heq
    cases heq
  rw [Bool.eq_iff_iff, isNone_splitSections, isNone_splitSections, h.lines_eq]
  simp only [List.map_append, List.map_cons, List.mem_append, List.mem_cons, hbody, false_or]

theorem parseFormatVersion_header {β : Type} (b : Builtins β) (h : (headerOf header).isSome) :
    parseFormatVersion b (before ++ header :: rest) =
      parseFormatVersion b (before ++ header :: other) := by
  obtain ⟨name, hname⟩ := Option.isSome_iff_exists.mp h
  let shown (line : List Char) : Bool := !(strip line).isEmpty
  have hshown : shown header = true := by
    simp only [shown, headerOf_eq_some hname]
    rfl
  have hfirst : (before ++ header :: rest).find? shown = (before ++ header :: other).find? shown := by
    rw [List.find?_append, List.find?_append, List.find?_cons_of_pos hshown,
      List.find?_cons_of_pos hshown]
  unfold parseFormatVersion
  rw [hfirst]

theorem Divides.lookup_metadataOf (h : Divides lines "Metadata" before header body after)
    (k : String) :
    (metadataOf lines).lookup k =
      ((metadataOf after).lookup k).or ((dictOf (body.filterMap entryOf)).lookup k) := by
  rw [metadataOf_eq, metadataOf_eq, h.sectionLines_self, List.filterMap_append,
    lookup_dictOf_append, List.filterMap_filterMap]
  rfl

theorem filter_entries (hk : k ∉ identityKeys) (body : List (List Char)) :
    ((body.filterMap entryOf).filter fun entry => entry.1 = k) =
      (((body.filter fun line => !isKeyed line).filterMap entryOf).filter
        fun entry => entry.1 = k) := by
  induction body with
  | nil => rfl
  | cons line rest ih =>
    cases hkeyed : isKeyed line with
    | false =>
      rw [List.filter_cons_of_pos (by simp [hkeyed])]
      cases hentry : entryOf line with
      | none => rw [List.filterMap_cons_none hentry, List.filterMap_cons_none hentry, ih]
      | some entry =>
        rw [List.filterMap_cons_some hentry, List.filterMap_cons_some hentry, List.filter_cons,
          List.filter_cons, ih]
    | true =>
      obtain ⟨value, hentry⟩ := entryOf_of_isKeyed hkeyed
      have hne : keyOf line ≠ k := by
        rintro rfl
        exact hk (of_decide_eq_true hkeyed)
      rw [List.filter_cons_of_neg (by simp [hkeyed]), List.filterMap_cons_some hentry,
        List.filter_cons_of_neg (by simpa using hne), ih]

-- A key that is not given anew has the value that it had.
theorem Divides.lookup_unkeyed (h : Divides lines "Metadata" before header body after)
    (hother : Divides other "Metadata" before header inner after)
    (hfilter : (inner.filter fun line => !isKeyed line) = body.filter fun line => !isKeyed line)
    (hk : k ∉ identityKeys) : (metadataOf other).lookup k = (metadataOf lines).lookup k := by
  rw [h.lookup_metadataOf, hother.lookup_metadataOf, lookup_dictOf (inner.filterMap entryOf),
    lookup_dictOf (body.filterMap entryOf), filter_entries hk inner, filter_entries hk body,
    hfilter]

-- A key that is given anew has that value.
theorem lookup_stampedBody (hr : r ∈ replacementsOf beatmapId beatmapSetId creator) :
    (dictOf ((stampedBody (replacementsOf beatmapId beatmapSetId creator) body).filterMap
      entryOf)).lookup r.1 = some (stripped r.2) := by
  have hkeys : ∀ r' ∈ replacementsOf beatmapId beatmapSetId creator, r'.1 ∈ identityKeys :=
    fun r' hr' => mem_identityKeys_iff.mpr ⟨r', hr', rfl⟩
  have hkey := hkeys r hr
  have hline : ∀ line ∈ stampedBody (replacementsOf beatmapId beatmapSetId creator) body,
      keyOf line = r.1 → line = entryLine r := by
    intro line hline hsame
    rcases List.mem_append.mp hline with hstamped | hmissing
    · obtain ⟨old, hold, rfl⟩ := List.mem_map.mp hstamped
      have hkeyed : isKeyed old := by
        rw [← isKeyed_stamp old]
        exact decide_eq_true (hsame ▸ hkey)
      obtain ⟨r', hr', hold'⟩ := mem_identityKeys_iff.mp (of_decide_eq_true hkeyed)
      rw [stamp_of_mem hr' hold'.symm, keyOf_entryLine (hkeys r' hr')] at hsame
      rw [stamp_of_mem hr' hold'.symm, eq_of_mem_replacementsOf hr' hr hsame]
    · obtain ⟨r', hr', rfl⟩ := List.mem_map.mp hmissing
      have hr' := (List.mem_filter.mp hr').1
      rw [keyOf_entryLine (hkeys r' hr')] at hsame
      rw [eq_of_mem_replacementsOf hr' hr hsame]
  have hmem : entryLine r ∈ stampedBody (replacementsOf beatmapId beatmapSetId creator) body := by
    by_cases hbody : r.1 ∈ body.map keyOf
    · obtain ⟨line, hline, hsame⟩ := List.mem_map.mp hbody
      rw [← stamp_of_mem hr hsame]
      exact List.mem_append_left _ (List.mem_map_of_mem hline)
    · apply List.mem_append_right
      apply List.mem_map_of_mem
      exact List.mem_filter.mpr ⟨hr, by simpa using hbody⟩
  cases hlookup : (dictOf ((stampedBody (replacementsOf beatmapId beatmapSetId creator)
      body).filterMap entryOf)).lookup r.1 with
  | none =>
    have hkeys := mt isSome_lookup_dictOf.mpr (by rw [hlookup]; simp)
    apply absurd ?_ hkeys
    apply List.mem_map.mpr
    exact ⟨_, List.mem_filterMap.mpr ⟨_, hmem, entryOf_entryLine hkey⟩, rfl⟩
  | some value =>
    obtain ⟨line, hmem', hentry⟩ := List.mem_filterMap.mp (mem_of_lookup_dictOf hlookup)
    have hsame : keyOf line = (r.1, value).1 := keyOf_of_entryOf hentry
    rw [hline line hmem' hsame, entryOf_entryLine hkey] at hentry
    rw [(Prod.mk.inj (Option.some.inj hentry)).2]

end Reading

end BanchoPrism.Submissions
