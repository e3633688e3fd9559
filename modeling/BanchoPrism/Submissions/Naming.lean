import BanchoPrism.Library.Text
import BanchoPrism.Submissions.OsuFile

namespace BanchoPrism.Submissions

open Library Library.Text
open Beatmaps (ignoredBeatmapChars osuFilename)

-- [\x00-\x1f\x7f]
def isC0 (c : Char) : Bool := c.val ≤ 0x1f || c.val = 0x7f

-- The control characters of Unicode: C0, DEL and C1.
def isControl (c : Char) : Bool := c.val ≤ 0x1f || (0x7f ≤ c.val && c.val ≤ 0x9f)

-- The name before anything is done about controls, whitespace and length.
def rawFilename (artist title creator version : String) : List Char :=
  (osuFilename artist title creator version).toList

-- A name that the sanitising steps leave as it is.
structure Clean (filename : List Char) : Prop where
  noC0 : ∀ c ∈ filename, isC0 c = false
  spaced : Spaced filename
  head : ∀ c, filename.head? = some c → isSpace c = false
  extension : osuExtension <:+ filename

section Sanitising

variable {filename : List Char}

theorem extension_plain : ∀ c ∈ osuExtension,
    isSpace c = false ∧ isC0 c = false ∧ isControl c = false ∧ c ∉ ignoredBeatmapChars := by
  simp only [osuExtension_eq, List.forall_mem_cons, List.not_mem_nil, false_implies, implies_true,
    and_true]
  decide

-- The extension as a text and its last character.
theorem extension_split : osuExtension = ['.', 'o', 's'] ++ ['u'] := by
  rw [osuExtension_eq]
  rfl

theorem extension_spaces : ∀ c ∈ ['.', 'o', 's'] ++ ['u'], isSpace c = false := by
  rw [← extension_split]
  exact fun c hc => (extension_plain c hc).1

-- A name of the mirror is stripped at its head only.
theorem sanitized_eq (h : osuExtension <:+ filename) :
    sanitized filename =
      (collapse false (filename.filter fun c => !isC0 c)).dropWhile isSpace := by
  have hfilter : osuExtension <:+ filename.filter fun c => !isC0 c :=
    filter_suffix (fun c hc => by rw [(extension_plain c hc).2.1]; rfl) h
  have hcollapse := collapse_suffix (fun c hc => (extension_plain c hc).1) hfilter false
  rw [extension_split] at hcollapse
  exact strip_of_suffix extension_spaces hcollapse

theorem sanitized_clean (h : osuExtension <:+ filename) : Clean (sanitized filename) := by
  have hspaced := spaced_collapse false (filename.filter fun c => !isC0 c)
  have hmem {c : Char} (hc : c ∈ sanitized filename) :
      c ∈ collapse false (filename.filter fun c => !isC0 c) := by
    rw [sanitized_eq h] at hc
    exact List.dropWhile_subset isSpace hc
  constructor
  · intro c hc
    rcases mem_collapse (hmem hc) with rfl | ⟨hfilter, -⟩
    · rfl
    · simpa using (List.mem_filter.mp hfilter).2
  · refine ⟨fun c hc => hspaced.blank c (hmem hc), ?_⟩
    rw [sanitized_eq h]
    exact hspaced.apart.suffix (List.dropWhile_suffix isSpace)
  · intro c hc
    rw [sanitized_eq h] at hc
    have hnot := List.head?_dropWhile_not isSpace
      (collapse false (filename.filter fun c => !isC0 c))
    rw [hc] at hnot
    simpa using hnot
  · exact sanitized_suffix h

theorem Clean.sanitized_eq_self (h : Clean filename) : sanitized filename = filename := by
  have hfilter : (filename.filter fun c => !isC0 c) = filename :=
    List.filter_eq_self.mpr fun c hc => by rw [h.noC0 c hc]; rfl
  rw [sanitized_eq h.extension, hfilter, h.spaced.collapse_eq_self]
  cases hname : filename with
  | nil => rfl
  | cons c rest =>
    have hc := h.head c (by rw [hname]; rfl)
    rw [List.dropWhile_cons_of_neg (by simp [hc])]

-- The first character is the first that is no control and no whitespace.
theorem sanitized_head (h : osuExtension <:+ filename) :
    (sanitized filename).head? = filename.find? fun c => !isC0 c && !isSpace c := by
  have hfilter : (filename.filter fun c => !isC0 c).find? (fun c => !isSpace c) =
      filename.find? fun c => !isC0 c && !isSpace c := by
    rw [List.find?_filter]
    refine congrArg (fun p => filename.find? p) (funext fun c => ?_)
    rw [Bool.decide_and, Bool.decide_eq_true, Bool.decide_eq_true]
  rw [sanitized_eq h, ← hfilter, ← find_collapse false, List.find?_eq_head?_dropWhile_not]
  simp only [Bool.not_not]

theorem sanitized_subset (h : osuExtension <:+ filename) {c : Char} (hc : c ∈ sanitized filename) :
    c = ' ' ∨ c ∈ filename ∧ isSpace c = false := by
  rw [sanitized_eq h] at hc
  refine (mem_collapse (List.dropWhile_subset isSpace hc)).imp_right fun hmem => ?_
  exact ⟨(List.mem_filter.mp hmem.1).1, hmem.2⟩

end Sanitising

section Shortening

variable {filename : List Char} {c : Char}

-- What is kept of a name that is too long.
def cut (filename : List Char) : List Char :=
  filename.take (maxFilenameLength - osuExtension.length)

def stemOf (filename : List Char) : List Char :=
  rstripBy (fun c => c = ' ' || c = '.') (cut filename)

theorem shortened_of_le (h : filename.length ≤ maxFilenameLength) :
    shortened filename = filename := if_neg (not_lt.mpr h)

theorem shortened_of_lt (h : maxFilenameLength < filename.length) :
    shortened filename = stemOf filename ++ osuExtension := if_pos h

theorem stem_initial (filename : List Char) : stemOf filename <+: filename := by
  rw [stemOf, rstripBy_eq]
  exact (List.rdropWhile_prefix _ _).trans (List.take_prefix _ _)

theorem shortened_length (filename : List Char) :
    (shortened filename).length ≤ maxFilenameLength := by
  have hextension : osuExtension.length = 4 := by rw [osuExtension_eq]; rfl
  rcases Nat.lt_or_ge maxFilenameLength filename.length with hlong | hshort
  · have hstem : (stemOf filename).length ≤ (cut filename).length := by
      rw [stemOf, rstripBy_eq]
      exact (List.rdropWhile_prefix _ _).length_le
    have hcut : (cut filename).length ≤ maxFilenameLength - 4 := by
      rw [cut, hextension]
      exact List.length_take_le _ _
    rw [shortened_of_lt hlong, List.length_append, hextension]
    simp only [maxFilenameLength] at hcut ⊢
    omega
  · rw [shortened_of_le hshort]
    exact hshort

theorem Clean.shorten (h : Clean filename) : Clean (shortened filename) := by
  rcases Nat.lt_or_ge maxFilenameLength filename.length with hlong | hshort
  · rw [shortened_of_lt hlong]
    have hinitial := stem_initial filename
    have hapart := List.IsChain.prefix h.spaced.apart hinitial
    constructor
    · intro c hc
      rcases List.mem_append.mp hc with hstem | hextension
      · exact h.noC0 c (hinitial.subset hstem)
      · exact (extension_plain c hextension).2.1
    · constructor
      · intro c hc hspace
        rcases List.mem_append.mp hc with hstem | hextension
        · exact h.spaced.blank c (hinitial.subset hstem) hspace
        · rw [(extension_plain c hextension).1] at hspace
          cases hspace
      · refine List.isChain_append.mpr ⟨hapart, ?_, fun a _ c hc hboth => ?_⟩
        · rw [osuExtension_eq]
          decide
        · rw [(extension_plain c (List.mem_of_mem_head? hc)).1] at hboth
          cases hboth.2
    · intro c hc
      rcases hstem : stemOf filename with _ | ⟨first, rest⟩
      · rw [hstem, List.nil_append] at hc
        exact (extension_plain c (List.mem_of_mem_head? hc)).1
      · rw [hstem] at hc hinitial
        obtain ⟨left, hleft⟩ := hinitial
        exact h.head c (by rw [← hleft]; exact hc)
    · exact List.suffix_append _ _
  · rw [shortened_of_le hshort]
    exact h

-- A name that is cut begins as it did, or with the dot of the extension where
-- nothing but dots and blanks is left.
theorem shortened_head (h : Clean filename) :
    (shortened filename).head? = some '.' ↔ filename.head? = some '.' := by
  rcases Nat.lt_or_ge maxFilenameLength filename.length with hlong | hshort
  · rw [shortened_of_lt hlong]
    obtain ⟨left, hleft⟩ := stem_initial filename
    rcases hstem : stemOf filename with _ | ⟨first, rest⟩
    · have hextension : osuExtension.head? = some '.' := by rw [osuExtension_eq]; rfl
      rw [List.nil_append]
      refine iff_of_true hextension ?_
      obtain ⟨first, rest, rfl⟩ := List.exists_cons_of_length_pos (Nat.zero_lt_of_lt hlong)
      have hall := List.rdropWhile_eq_nil_iff.mp hstem first (by
        rw [cut, osuExtension_eq]
        exact List.mem_cons_self)
      have hfirst := h.head first rfl
      rcases (by simpa using hall : first = ' ' ∨ first = '.') with rfl | rfl
      · cases hfirst
      · rfl
    · rw [← hleft, hstem]
      exact Iff.rfl
  · rw [shortened_of_le hshort]

-- What is kept of a name, whether it is cut or not.
def keptOf (filename : List Char) : List Char :=
  if maxFilenameLength < filename.length then cut filename else filename

theorem isControl_blank : isControl ' ' = false ∧ isControl '.' = false := by decide

theorem mem_shortened_control (hc : isControl c = true) :
    c ∈ shortened filename ↔ c ∈ keptOf filename := by
  rcases Nat.lt_or_ge maxFilenameLength filename.length with hlong | hshort
  · rw [shortened_of_lt hlong, keptOf, if_pos hlong, List.mem_append]
    constructor
    · rintro (hstem | hextension)
      · rw [stemOf, rstripBy_eq] at hstem
        exact (List.rdropWhile_prefix _ _).subset hstem
      · rw [(extension_plain c hextension).2.2.1] at hc
        cases hc
    · intro hcut
      refine Or.inl (mem_rstripBy_of_neg hcut ?_)
      have hblank : c ≠ ' ' := by
        rintro rfl
        rw [isControl_blank.1] at hc
        cases hc
      have hdot : c ≠ '.' := by
        rintro rfl
        rw [isControl_blank.2] at hc
        cases hc
      simp [hblank, hdot]
  · rw [shortened_of_le hshort, keptOf, if_neg (not_lt.mpr hshort)]

end Shortening

section Refusals

variable {filename : List Char} {artist title creator version : String}

theorem withoutExtension_append (stem : List Char) :
    withoutExtension (stem ++ osuExtension) = stem := by
  rw [withoutExtension, if_pos (List.suffix_append _ _), List.length_append, Nat.add_sub_cancel,
    List.take_left]

-- Nothing but scaffolding is left of what names the map.
def Hollow (filename : List Char) : Prop :=
  ∀ c ∈ withoutExtension filename, isC0 c || scaffolding c

-- What is left of the name begins with a dot.
def Hidden (filename : List Char) : Prop :=
  filename.find? (fun c => !isC0 c && !isSpace c) = some '.'

theorem sanitized_append (stem : List Char) :
    sanitized (stem ++ osuExtension) =
      (collapse false (stem.filter fun c => !isC0 c)).dropWhile isSpace ++ osuExtension := by
  have hextension : (osuExtension.filter fun c => !isC0 c) = osuExtension :=
    List.filter_eq_self.mpr fun c hc => by rw [(extension_plain c hc).2.1]; rfl
  have hdrop : osuExtension.dropWhile isSpace = osuExtension := by
    rw [osuExtension_eq]
    rfl
  rw [sanitized_eq (List.suffix_append _ _), List.filter_append, hextension,
    collapse_append fun c hc => (extension_plain c hc).1, List.dropWhile_append, hdrop]
  split
  · rename_i hempty
    rw [List.isEmpty_iff.mp hempty, List.nil_append]
  · rfl

theorem scaffolding_of_space {c : Char} (h : isSpace c = true) : scaffolding c = true := by
  rw [scaffolding, h]
  rfl

theorem hollow_iff (h : osuExtension <:+ filename) :
    (withoutExtension (sanitized filename)).all scaffolding ↔ Hollow filename := by
  obtain ⟨stem, rfl⟩ := h
  rw [Hollow, sanitized_append, withoutExtension_append, withoutExtension_append, List.all_eq_true]
  constructor
  · intro hall c hc
    by_cases hC0 : isC0 c = true
    · rw [hC0, Bool.true_or]
    by_cases hspace : isSpace c = true
    · rw [scaffolding_of_space hspace, Bool.or_true]
    · have hfilter : c ∈ stem.filter fun c => !isC0 c :=
        List.mem_filter.mpr ⟨hc, by simpa using hC0⟩
      have hmem := mem_collapse_of_neg hfilter (by simpa using hspace) false
      rw [hall c (mem_dropWhile_of_neg hmem (by simpa using hspace)), Bool.or_true]
  · intro hall c hc
    rcases mem_collapse (List.dropWhile_subset isSpace hc) with rfl | ⟨hfilter, -⟩
    · decide
    · obtain ⟨hmem, hC0⟩ := List.mem_filter.mp hfilter
      have hc := hall c hmem
      rwa [(by simpa using hC0 : isC0 c = false), Bool.false_or] at hc

theorem rawFilename_suffix (artist title creator version : String) :
    osuExtension <:+ rawFilename artist title creator version :=
  osuFilename_suffix artist title creator version

theorem rawFilename_ignored (artist title creator version : String) :
    ∀ c ∈ rawFilename artist title creator version, c ∉ ignoredBeatmapChars := by
  intro c hc
  rw [rawFilename, osuFilename, String.toList_ofList, List.mem_filter] at hc
  simpa using hc.2

-- The name that is given, before the two refusals.
def givenFilename (artist title creator version : String) : List Char :=
  shortened (sanitized (rawFilename artist title creator version))

theorem canonical_eq : canonicalOsuFilename artist title creator version =
    if (withoutExtension (givenFilename artist title creator version)).all scaffolding then
      invalid "beatmap metadata produces an empty filename"
    else if (givenFilename artist title creator version).head? = some '.' then
      invalid "beatmap metadata produces a hidden filename"
    else .ok (String.ofList (givenFilename artist title creator version)) := rfl

theorem given_head : (givenFilename artist title creator version).head? = some '.' ↔
    Hidden (rawFilename artist title creator version) := by
  have hsuffix := rawFilename_suffix artist title creator version
  rw [givenFilename, shortened_head (sanitized_clean hsuffix), sanitized_head hsuffix]
  rfl

theorem canonical_eq_ok {filename : String} :
    canonicalOsuFilename artist title creator version = .ok filename ↔
      filename.toList = givenFilename artist title creator version ∧
        ¬(withoutExtension (givenFilename artist title creator version)).all scaffolding ∧
        ¬Hidden (rawFilename artist title creator version) := by
  rw [← given_head, canonical_eq]
  split
  · rename_i hall
    exact ⟨fun h => (by cases h), fun h => absurd hall h.2.1⟩
  · rename_i hall
    split
    · rename_i hdot
      exact ⟨fun h => (by cases h), fun h => absurd hdot h.2.2⟩
    · rename_i hdot
      rw [Except.ok.injEq, ← String.toList_inj, String.toList_ofList]
      exact ⟨fun h => ⟨h.symm, hall, hdot⟩, fun h => h.1.symm⟩

theorem canonical_documented {e : Raised}
    (h : canonicalOsuFilename artist title creator version = .error e) :
    ∃ detail, e = .documented detail := by
  simp only [canonicalOsuFilename, invalid] at h
  split at h
  · exact ⟨_, (Except.error.inj h).symm⟩
  · split at h
    · exact ⟨_, (Except.error.inj h).symm⟩
    · cases h

theorem given_clean (artist title creator version : String) :
    Clean (givenFilename artist title creator version) :=
  (sanitized_clean (rawFilename_suffix artist title creator version)).shorten

theorem given_ignored (artist title creator version : String) :
    ∀ c ∈ givenFilename artist title creator version, c ∉ ignoredBeatmapChars := by
  have hsanitized : ∀ c ∈ sanitized (rawFilename artist title creator version),
      c ∉ ignoredBeatmapChars := by
    intro c hc
    have hsuffix := rawFilename_suffix artist title creator version
    rcases sanitized_subset hsuffix hc with rfl | ⟨hraw, -⟩
    · decide
    · exact rawFilename_ignored artist title creator version c hraw
  intro c hc
  rw [givenFilename] at hc
  rcases Nat.lt_or_ge maxFilenameLength
      (sanitized (rawFilename artist title creator version)).length with hlong | hshort
  · rw [shortened_of_lt hlong, List.mem_append] at hc
    rcases hc with hstem | hextension
    · exact hsanitized c ((stem_initial _).subset hstem)
    · exact (extension_plain c hextension).2.2.2
  · rw [shortened_of_le hshort] at hc
    exact hsanitized c hc

-- What a name that is given out is to be: short enough, of no character that is
-- removed and no control, shown, settled, and the one that parseFromOsuapiResp
-- gives a map where that fits and has no controls.
structure Canonical (artist title creator version filename : String) : Prop where
  length : filename.toList.length ≤ maxFilenameLength
  ignored : ∀ c ∈ filename.toList, c ∉ ignoredBeatmapChars
  noControl : ∀ c ∈ filename.toList, isControl c = false
  extension : osuExtension <:+ filename.toList
  shown : filename.toList.head? ≠ some '.'
  settled : shortened (sanitized (filename.toList.filter fun c => c ∉ ignoredBeatmapChars)) =
    filename.toList
  mirrored : (rawFilename artist title creator version).length ≤ maxFilenameLength →
    (∀ c ∈ rawFilename artist title creator version, isControl c = false) →
      filename = osuFilename artist title creator version

-- The function is documented to raise, or gives such a name.
def NamesCanonically (artist title creator version : String) : Prop :=
  (∀ e, canonicalOsuFilename artist title creator version = .error e →
    ∃ detail, e = .documented detail) ∧
  ∀ filename, canonicalOsuFilename artist title creator version = .ok filename →
    Canonical artist title creator version filename

-- How much room a part of a name takes up, after blank or not: none for a control of
-- C0, one character for a stretch of whitespace, and none for one in front.
def room : Bool → List Char → ℕ
  | _, [] => 0
  | blank, c :: rest =>
      if isC0 c then room blank rest
      else if isSpace c then if blank then room true rest else room true rest + 1
      else room false rest + 1

-- Unless the name is refused: a control of C1 that is no whitespace stands only where a
-- name that is too long is cut off, and a name that fits and has no controls has single
-- blanks for its whitespace, and none in front.
structure Mirrorable (filename : List Char) : Prop where
  noC1 : Hidden filename ∨ ∀ before c after, filename = before ++ c :: after → isControl c →
    isC0 c ∨ isSpace c ∨ maxFilenameLength < room true filename ∧
      maxFilenameLength - osuExtension.length ≤ room true before
  spaced : filename.length ≤ maxFilenameLength → (∀ c ∈ filename, isControl c = false) →
    Hidden filename ∨ Hollow filename ∨
      Spaced filename ∧ ∀ c, filename.head? = some c → isSpace c = false

theorem isC0_of_control {c : Char} (h : isControl c = false) : isC0 c = false := by
  simp only [isControl, Bool.or_eq_false_iff, Bool.and_eq_false_iff, decide_eq_false_iff_not] at h
  simp only [isC0, Bool.or_eq_false_iff, decide_eq_false_iff_not]
  refine ⟨h.1, fun hdel => ?_⟩
  rw [hdel] at h
  exact h.2.elim (fun h => h (by decide)) fun h => h (by decide)

section Room

variable {c : Char}

theorem length_collapse (blank : Bool) (filename : List Char) :
    (collapse blank (filename.filter fun c => !isC0 c)).length = room blank filename := by
  induction filename generalizing blank with
  | nil => rfl
  | cons first rest ih =>
    rw [room]
    by_cases hC0 : isC0 first
    · rw [if_pos hC0, List.filter_cons_of_neg (by simp [hC0]), ih]
    · rw [if_neg hC0, List.filter_cons_of_pos (by simp [hC0]), collapse]
      split
      · split
        · exact ih true
        · rw [List.length_cons, ih]
      · rw [List.length_cons, ih]

-- Where in a name a control stands that is among the first n characters kept.
theorem mem_take_collapse (hcontrol : isControl c = true) (n : ℕ) (blank : Bool)
    (filename : List Char) :
    c ∈ (collapse blank (filename.filter fun c => !isC0 c)).take n ↔
      ∃ before after, filename = before ++ c :: after ∧ isC0 c = false ∧ isSpace c = false ∧
        room blank before < n := by
  have hblank : c ≠ ' ' := by
    rintro rfl
    rw [isControl_blank.1] at hcontrol
    cases hcontrol
  induction filename generalizing n blank with
  | nil => simp [collapse]
  | cons first rest ih =>
    -- the control is the first character of the name, or stands further on
    have hcases : (∃ before after, first :: rest = before ++ c :: after ∧ isC0 c = false ∧
        isSpace c = false ∧ room blank before < n) ↔
        (first = c ∧ isC0 c = false ∧ isSpace c = false ∧ 0 < n) ∨
          ∃ before after, rest = before ++ c :: after ∧ isC0 c = false ∧ isSpace c = false ∧
            room blank (first :: before) < n := by
      constructor
      · rintro ⟨before, after, heq, hC0, hspace, hroom⟩
        cases before with
        | nil => exact Or.inl ⟨(List.cons.inj heq).1, hC0, hspace, hroom⟩
        | cons _ before =>
          cases (List.cons.inj heq).1
          exact Or.inr ⟨before, after, (List.cons.inj heq).2, hC0, hspace, hroom⟩
      · rintro (⟨rfl, hC0, hspace, hn⟩ | ⟨before, after, rfl, hC0, hspace, hroom⟩)
        · exact ⟨[], rest, rfl, hC0, hspace, hn⟩
        · exact ⟨first :: before, after, rfl, hC0, hspace, hroom⟩
    rw [hcases]
    by_cases hfirst : isC0 first
    · have hne : ¬(first = c ∧ isC0 c = false ∧ isSpace c = false ∧ 0 < n) := by
        rintro ⟨rfl, hC0, -⟩
        rw [hfirst] at hC0
        cases hC0
      rw [List.filter_cons_of_neg (by simp [hfirst]), or_iff_right hne]
      refine (ih n blank).trans ?_
      simp only [room, hfirst, if_true]
    rw [List.filter_cons_of_pos (by simp [hfirst]), collapse]
    by_cases hspaced : isSpace first
    · have hne : ¬(first = c ∧ isC0 c = false ∧ isSpace c = false ∧ 0 < n) := by
        rintro ⟨rfl, -, hspace, -⟩
        rw [hspaced] at hspace
        cases hspace
      rw [if_pos hspaced, or_iff_right hne]
      cases blank with
      | true =>
        rw [if_pos rfl]
        refine (ih n true).trans ?_
        simp only [room, hfirst, hspaced, if_true, if_false, Bool.false_eq_true]
      | false =>
        rw [if_neg Bool.false_ne_true]
        cases n with
        | zero => simp
        | succ n =>
          rw [List.take_succ_cons, List.mem_cons, or_iff_right hblank]
          refine (ih n true).trans ?_
          simp only [room, hfirst, hspaced, if_true, if_false, Bool.false_eq_true,
            Nat.add_lt_add_iff_right]
    · rw [if_neg hspaced]
      cases n with
      | zero => simp
      | succ n =>
        rw [List.take_succ_cons, List.mem_cons]
        refine (or_congr_right (ih n false)).trans ?_
        simp only [room, hfirst, hspaced, if_false, Bool.false_eq_true, Nat.add_lt_add_iff_right]
        refine or_congr_left ⟨?_, fun h => h.1.symm⟩
        rintro rfl
        exact ⟨rfl, by simpa using hfirst, by simpa using hspaced, Nat.succ_pos n⟩

theorem dropWhile_collapse (blank : Bool) (text : List Char) :
    (collapse blank text).dropWhile isSpace = collapse true text := by
  induction text generalizing blank with
  | nil => rfl
  | cons first rest ih =>
    rw [collapse, collapse]
    by_cases hspace : isSpace first
    · rw [if_pos hspace, if_pos hspace, if_pos rfl]
      split
      · exact ih true
      · rw [List.dropWhile_cons_of_pos (by decide), ih]
    · rw [if_neg hspace, if_neg hspace, List.dropWhile_cons_of_neg hspace]

-- The controls that are kept of a name, by where they stand in it.
theorem mem_keptOf_iff {filename : List Char} (h : osuExtension <:+ filename)
    (hcontrol : isControl c = true) :
    c ∈ keptOf (sanitized filename) ↔
      ∃ before after, filename = before ++ c :: after ∧ isC0 c = false ∧ isSpace c = false ∧
        (maxFilenameLength < room true filename →
          room true before < maxFilenameLength - osuExtension.length) := by
  have hlength := length_collapse true filename
  rw [sanitized_eq h, dropWhile_collapse, keptOf, hlength]
  split
  · rename_i hlong
    rw [cut, mem_take_collapse hcontrol]
    simp only [hlong, forall_const]
  · rename_i hshort
    simp only [hshort, false_implies, and_true]
    constructor
    · intro hc
      rw [← List.take_length (l := collapse true _)] at hc
      obtain ⟨before, after, heq, hC0, hspace, -⟩ := (mem_take_collapse hcontrol _ _ _).mp hc
      exact ⟨before, after, heq, hC0, hspace⟩
    · rintro ⟨before, after, rfl, hC0, hspace⟩
      refine mem_collapse_of_neg (List.mem_filter.mpr ⟨?_, by simp [hC0]⟩) hspace true
      exact List.mem_append_right _ List.mem_cons_self

end Room

-- A control that is kept is no whitespace and no scaffolding.
theorem scaffolding_of_control {c : Char} (hcontrol : isControl c = true)
    (hblank : isSpace c → c = ' ') : scaffolding c = false := by
  have hspace : isSpace c = false := by
    rw [Bool.eq_false_iff]
    intro hspace
    rw [hblank hspace, isControl_blank.1] at hcontrol
    cases hcontrol
  have hmem : c ∉ ['-', '(', ')', '[', ']', '.'] := by
    intro hmem
    have hnone : (['-', '(', ')', '[', ']', '.'].all fun c => !isControl c) = true := rfl
    have hmeets := List.all_eq_true.mp hnone c hmem
    rw [hcontrol] at hmeets
    cases hmeets
  rw [scaffolding, hspace, Bool.false_or]
  exact decide_eq_false hmem

end Refusals

section Naming

variable {artist title creator version : String}

theorem given_of_clean (h : Clean (rawFilename artist title creator version))
    (hfits : (rawFilename artist title creator version).length ≤ maxFilenameLength) :
    givenFilename artist title creator version = rawFilename artist title creator version := by
  rw [givenFilename, h.sanitized_eq_self, shortened_of_le hfits]

-- The name of a map that fits and has no controls is cut nowhere.
theorem given_of_fits
    (hfits : (rawFilename artist title creator version).length ≤ maxFilenameLength) :
    givenFilename artist title creator version =
      sanitized (rawFilename artist title creator version) := by
  have hlength : (sanitized (rawFilename artist title creator version)).length ≤
      (rawFilename artist title creator version).length := by
    rw [sanitized_eq (rawFilename_suffix artist title creator version)]
    exact (List.dropWhile_sublist isSpace).length_le.trans
      ((length_collapse_le false _).trans (List.length_filter_le _ _))
  exact shortened_of_le (hlength.trans hfits)

theorem clean_of_spaced
    (hcontrol : ∀ c ∈ rawFilename artist title creator version, isControl c = false)
    (hspaced : Spaced (rawFilename artist title creator version))
    (hhead : ∀ c, (rawFilename artist title creator version).head? = some c → isSpace c = false) :
    Clean (rawFilename artist title creator version) where
  noC0 c hc := isC0_of_control (hcontrol c hc)
  spaced := hspaced
  head := hhead
  extension := rawFilename_suffix artist title creator version

theorem mirrorable_of_names (h : NamesCanonically artist title creator version) :
    Mirrorable (rawFilename artist title creator version) := by
  constructor
  · by_cases hhidden : Hidden (rawFilename artist title creator version)
    · exact Or.inl hhidden
    refine Or.inr fun before c after heq hcontrol => ?_
    by_contra hkept
    have hc : c ∈ keptOf (sanitized (rawFilename artist title creator version)) := by
      obtain ⟨hC0, hspace, hroom⟩ : ¬isC0 c ∧ ¬isSpace c ∧ ¬_ := by simpa only [not_or] using hkept
      refine (mem_keptOf_iff (rawFilename_suffix artist title creator version) hcontrol).mpr
        ⟨before, after, heq, by simpa using hC0, by simpa using hspace, fun hlong => ?_⟩
      exact Nat.lt_of_not_le fun hle => hroom ⟨hlong, hle⟩
    have hgiven : c ∈ givenFilename artist title creator version :=
      (mem_shortened_control hcontrol).mpr hc
    obtain ⟨stem, hstem⟩ := (given_clean artist title creator version).extension
    have hshown : ¬(withoutExtension (givenFilename artist title creator version)).all
        scaffolding := by
      rw [← hstem] at hgiven ⊢
      rw [withoutExtension_append]
      intro hall
      rcases List.mem_append.mp hgiven with hin | hextension
      · have hscaffold := List.all_eq_true.mp hall c hin
        rw [scaffolding_of_control hcontrol fun hspace => (given_clean artist title creator
          version).spaced.blank c (hstem ▸ List.mem_append_left _ hin) hspace] at hscaffold
        cases hscaffold
      · rw [(extension_plain c hextension).2.2.1] at hcontrol
        cases hcontrol
    have hok := canonical_eq_ok.mpr ⟨String.toList_ofList, hshown, hhidden⟩
    have hnone := (h.2 _ hok).noControl c (by rwa [String.toList_ofList])
    rw [hnone] at hcontrol
    cases hcontrol
  · intro hfits hcontrol
    by_cases hhidden : Hidden (rawFilename artist title creator version)
    · exact Or.inl hhidden
    by_cases hhollow : Hollow (rawFilename artist title creator version)
    · exact Or.inr (Or.inl hhollow)
    have hshown : ¬(withoutExtension (givenFilename artist title creator version)).all
        scaffolding := by
      rwa [given_of_fits hfits, hollow_iff (rawFilename_suffix artist title creator version)]
    have hok := canonical_eq_ok.mpr ⟨String.toList_ofList, hshown, hhidden⟩
    have hsame := congrArg String.toList ((h.2 _ hok).mirrored hfits hcontrol)
    rw [String.toList_ofList] at hsame
    have hclean := given_clean artist title creator version
    rw [hsame] at hclean
    exact Or.inr (Or.inr ⟨hclean.spaced, hclean.head⟩)

theorem names_of_mirrorable (h : Mirrorable (rawFilename artist title creator version)) :
    NamesCanonically artist title creator version := by
  refine ⟨fun e he => canonical_documented he, fun filename hok => ?_⟩
  obtain ⟨hname, hshown, hhidden⟩ := canonical_eq_ok.mp hok
  have hclean := given_clean artist title creator version
  have hignored := given_ignored artist title creator version
  have hlength : (givenFilename artist title creator version).length ≤ maxFilenameLength :=
    shortened_length _
  rw [← hname] at hclean hignored hlength
  exact {
    length := hlength
    ignored := hignored
    noControl := fun c hc => by
      rw [Bool.eq_false_iff]
      intro hcontrol
      have hkept := (mem_shortened_control hcontrol).mp (hname ▸ hc)
      obtain ⟨before, after, heq, hC0, hspace, hroom⟩ :=
        (mem_keptOf_iff (rawFilename_suffix artist title creator version) hcontrol).mp hkept
      rcases h.noC1.resolve_left hhidden before c after heq hcontrol with h | h | ⟨hlong, hle⟩
      · rw [hC0] at h
        cases h
      · rw [hspace] at h
        cases h
      · exact absurd (hroom hlong) (Nat.not_lt.mpr hle)
    extension := hclean.extension
    shown := fun hdot => hhidden (given_head.mp (hname ▸ hdot))
    settled := by
      have hfilter : (filename.toList.filter fun c => c ∉ ignoredBeatmapChars) = filename.toList :=
        List.filter_eq_self.mpr fun c hc => by simpa using hignored c hc
      rw [hfilter, hclean.sanitized_eq_self, shortened_of_le hlength]
    mirrored := fun hfits hcontrol => by
      have hhollow : ¬Hollow (rawFilename artist title creator version) := by
        rwa [given_of_fits hfits, hollow_iff (rawFilename_suffix artist title creator version)]
          at hshown
      obtain ⟨hspaced, hhead⟩ :=
        ((h.spaced hfits hcontrol).resolve_left hhidden).resolve_left hhollow
      rw [given_of_clean (clean_of_spaced hcontrol hspaced hhead) hfits] at hname
      exact String.toList_inj.mp hname }

theorem namesCanonically_iff (artist title creator version : String) :
    NamesCanonically artist title creator version ↔
      Mirrorable (rawFilename artist title creator version) :=
  ⟨mirrorable_of_names, names_of_mirrorable⟩

-- A title with a slash between blanks, and what the mirror calls the map.
theorem not_namesCanonically : ¬NamesCanonically "artist" "A / B" "mapper" "Hard" := by
  intro h
  have hok : canonicalOsuFilename "artist" "A / B" "mapper" "Hard" =
      .ok "artist - A B (mapper) [Hard].osu" := by decide
  have hmirror : osuFilename "artist" "A / B" "mapper" "Hard" =
      "artist - A  B (mapper) [Hard].osu" := by decide
  have hplain : ((rawFilename "artist" "A / B" "mapper" "Hard").all fun c => !isControl c) ∧
      (rawFilename "artist" "A / B" "mapper" "Hard").length ≤ maxFilenameLength := by
    decide
  have hsame := (h.2 _ hok).mirrored hplain.2 fun c hc => by
    simpa using List.all_eq_true.mp hplain.1 c hc
  rw [hmirror] at hsame
  exact absurd hsame (by decide)

end Naming

end BanchoPrism.Submissions
