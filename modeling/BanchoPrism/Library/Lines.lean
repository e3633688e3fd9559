import Mathlib.Data.List.TakeDrop
import Mathlib.Data.List.TakeWhile
import BanchoPrism.Library.Text

namespace BanchoPrism.Library.Text

section Stripping

variable {text spaces front value : List Char} {c : Char}

theorem rstripBy_append (p : Char → Bool) (hc : p c = false) :
    rstripBy p (front ++ c :: value) = front ++ c :: rstripBy p value := by
  have hreverse : (front ++ c :: value).reverse = value.reverse ++ c :: front.reverse := by simp
  unfold rstripBy
  rw [hreverse, List.dropWhile_append]
  split
  · rename_i hempty
    have hnil := List.isEmpty_iff.mp hempty
    rw [List.dropWhile_cons_of_neg (by simp [hc]), hnil]
    simp
  · simp

theorem exists_rstripBy (p : Char → Bool) (text : List Char) :
    ∃ spaces, (∀ c ∈ spaces, p c) ∧ text = rstripBy p text ++ spaces := by
  refine ⟨(text.reverse.takeWhile p).reverse, ?_, ?_⟩
  · intro c hc
    exact List.mem_takeWhile_imp (List.mem_reverse.mp hc)
  · unfold rstripBy
    rw [← List.reverse_append, List.takeWhile_append_dropWhile, List.reverse_reverse]

theorem strip_spaces_append (h : ∀ c ∈ spaces, isSpace c) : strip (spaces ++ text) = strip text := by
  unfold strip
  rw [List.dropWhile_append_of_pos h]

theorem strip_append_spaces (h : ∀ c ∈ spaces, isSpace c) : strip (text ++ spaces) = strip text := by
  have hspaces : spaces.dropWhile isSpace = [] := List.dropWhile_eq_nil_iff.mpr h
  have hreverse (front : List Char) : rstripBy isSpace (front ++ spaces) = rstripBy isSpace front := by
    unfold rstripBy
    rw [List.reverse_append, List.dropWhile_append_of_pos]
    intro c hc
    exact h c (List.mem_reverse.mp hc)
  unfold strip
  rw [List.dropWhile_append]
  split
  · rename_i hempty
    rw [hspaces, List.isEmpty_iff.mp hempty]
  · exact hreverse _

theorem strip_dropWhile (text : List Char) : strip (text.dropWhile isSpace) = strip text := by
  have h : strip (text.takeWhile isSpace ++ text.dropWhile isSpace) =
      strip (text.dropWhile isSpace) := strip_spaces_append fun c hc => List.mem_takeWhile_imp hc
  rw [List.takeWhile_append_dropWhile] at h
  exact h.symm

theorem strip_rstrip (text : List Char) : strip (rstripBy isSpace text) = strip text := by
  obtain ⟨spaces, hspaces, htext⟩ := exists_rstripBy isSpace text
  have h : strip (rstripBy isSpace text ++ spaces) = strip (rstripBy isSpace text) :=
    strip_append_spaces hspaces
  rw [← htext] at h
  exact h.symm

theorem strip_strip (text : List Char) : strip (strip text) = strip text := by
  have h := strip_rstrip (text.dropWhile isSpace)
  rw [strip_dropWhile] at h
  exact h

theorem mem_of_mem_strip (h : c ∈ strip text) : c ∈ text := by
  obtain ⟨spaces, -, hfront⟩ := exists_rstripBy isSpace (text.dropWhile isSpace)
  apply List.dropWhile_subset isSpace
  rw [hfront]
  exact List.mem_append_left _ h

-- A text that has no space at either end is as it was.
theorem strip_eq_self (hhead : ∀ c, text.head? = some c → isSpace c = false)
    (hlast : ∀ c, text.getLast? = some c → isSpace c = false) : strip text = text := by
  have hleft : text.dropWhile isSpace = text := by
    cases text with
    | nil => rfl
    | cons c rest => exact List.dropWhile_cons_of_neg (by simp [hhead c rfl])
  rw [strip, hleft]
  rcases List.eq_nil_or_concat text with rfl | ⟨front, c, rfl⟩
  · rfl
  · have hc : isSpace c = false := hlast c (by simp)
    rw [List.concat_eq_append, rstripBy_append isSpace hc]
    rfl

theorem strip_of_no_space (h : ∀ c ∈ text, isSpace c = false) : strip text = text := by
  apply strip_eq_self
  · intro c hc
    exact h c (List.mem_of_head? hc)
  · intro c hc
    exact h c (List.mem_of_getLast? hc)

-- Around a character that is no space, each side is stripped at its own end.
theorem strip_append_cons (hc : isSpace c = false) :
    strip (front ++ c :: value) = front.dropWhile isSpace ++ c :: rstripBy isSpace value := by
  have hleft : (front ++ c :: value).dropWhile isSpace = front.dropWhile isSpace ++ c :: value := by
    rw [List.dropWhile_append]
    split
    · rename_i hempty
      rw [List.isEmpty_iff.mp hempty, List.dropWhile_cons_of_neg (by simp [hc])]
      rfl
    · rfl
  rw [strip, hleft, rstripBy_append isSpace hc]

-- What is left of a text begins as the text does, once the spaces before it are off.
theorem strip_prefix (text : List Char) : strip text <+: text.dropWhile isSpace := by
  obtain ⟨spaces, -, h⟩ := exists_rstripBy isSpace (text.dropWhile isSpace)
  exact ⟨spaces, h.symm⟩

end Stripping

section Characters

variable {c : Char}

theorem isSpace_of_isLineBreak (h : isLineBreak c) : isSpace c := by
  simp only [isLineBreak, isSpace, Bool.or_eq_true, Bool.and_eq_true, decide_eq_true_eq,
    UInt32.le_iff_toNat_le, ← UInt32.toNat_inj, UInt32.reduceToNat] at h ⊢
  omega

theorem not_isSpace_of_isDigit (h : c.isDigit) : isSpace c = false := by
  have hzero : '0'.val.toNat = 48 := rfl
  have hnine : '9'.val.toNat = 57 := rfl
  simp only [Char.isDigit, Bool.and_eq_true, decide_eq_true_eq, ge_iff_le,
    UInt32.le_iff_toNat_le] at h
  simp only [isSpace, Bool.or_eq_false_iff, Bool.and_eq_false_iff, decide_eq_false_iff_not,
    UInt32.le_iff_toNat_le, ← UInt32.toNat_inj, UInt32.reduceToNat]
  omega

theorem not_isSpace_toString (n : Int) : ∀ c ∈ (toString n).toList, isSpace c = false := by
  have hnat (m : Nat) : ∀ c ∈ m.repr.toList, isSpace c = false := by
    intro c hc
    rw [Nat.toList_repr] at hc
    exact not_isSpace_of_isDigit (Nat.isDigit_of_mem_toDigits (by decide) (by decide) hc)
  cases n with
  | ofNat m => exact hnat m
  | negSucc m =>
    intro c hc
    change c ∈ ("-" ++ (m + 1).repr).toList at hc
    rw [String.toList_append] at hc
    rcases List.mem_append.mp hc with hsign | hvalue
    · rw [List.mem_singleton.mp hsign]
      decide
    · exact hnat (m + 1) c hvalue

end Characters

section Partitioning

variable {separator : Char} {text key value : List Char}

theorem partition_eq_some :
    partition separator text = some (key, value) ↔
      text = key ++ separator :: value ∧ separator ∉ key := by
  have hspan := List.span_eq_takeWhile_dropWhile (p := fun c => decide (c ≠ separator)) text
  have hwhole := List.takeWhile_append_dropWhile (p := fun c => decide (c ≠ separator)) (l := text)
  unfold partition
  rw [hspan]
  constructor
  · intro h
    split at h
    · cases h
    · rename_i key' c value' heq
      simp only [Prod.mk.injEq] at heq
      simp only [Option.some.injEq, Prod.mk.injEq] at h
      obtain ⟨hkey, hrest⟩ := heq
      obtain ⟨rfl, rfl⟩ := h
      have hc := List.head?_dropWhile_not (fun c => decide (c ≠ separator)) text
      rw [hrest] at hc
      have hc : c = separator := by simpa using hc
      constructor
      · rw [← hwhole, hkey, hrest, hc]
      · intro hmem
        rw [← hkey] at hmem
        have hne := List.mem_takeWhile_imp hmem
        simp at hne
  · rintro ⟨rfl, hkey⟩
    have hall : ∀ c ∈ key, (fun c => decide (c ≠ separator)) c = true := by
      intro c hc
      simp only [ne_eq, decide_not, Bool.not_eq_true', decide_eq_false_iff_not]
      rintro rfl
      exact hkey hc
    rw [List.takeWhile_append_of_pos hall, List.dropWhile_append_of_pos hall,
      List.takeWhile_cons_of_neg (by simp), List.dropWhile_cons_of_neg (by simp)]
    simp

theorem partition_eq_none : partition separator text = none ↔ separator ∉ text := by
  constructor
  · intro h hmem
    obtain ⟨key, value, rfl, hkey⟩ := List.eq_append_cons_of_mem hmem
    rw [partition_eq_some.mpr ⟨rfl, hkey⟩] at h
    cases h
  · intro h
    cases hpartition : partition separator text with
    | none => rfl
    | some parts =>
      obtain ⟨rfl, -⟩ := partition_eq_some.mp (show _ = some (parts.1, parts.2) from hpartition)
      exact absurd (List.mem_append_right _ List.mem_cons_self) h

-- Stripping a text first strips the parts of it.
theorem partition_strip (hseparator : isSpace separator = false)
    (h : partition separator text = some (key, value)) :
    partition separator (strip text) =
      some (key.dropWhile isSpace, rstripBy isSpace value) := by
  obtain ⟨rfl, hkey⟩ := partition_eq_some.mp h
  rw [strip_append_cons hseparator]
  apply partition_eq_some.mpr
  refine ⟨rfl, ?_⟩
  intro hmem
  exact hkey (List.dropWhile_subset isSpace hmem)

theorem partition_strip_none (h : partition separator text = none) :
    partition separator (strip text) = none := by
  apply partition_eq_none.mpr
  intro hmem
  exact partition_eq_none.mp h (mem_of_mem_strip hmem)

end Partitioning

section Ending

variable {text acc line newline trailing : List Char} {lines front : List (List Char)}
variable {entries : List (List Char × List Char)}

-- The lines of a text with what ends each, which is nothing for a last line that no break ends.
def endedLinesFrom (line : List Char) : List Char → List (List Char × List Char)
  | [] => if line.isEmpty then [] else [(line.reverse, [])]
  | '\r' :: '\n' :: rest => (line.reverse, ['\r', '\n']) :: endedLinesFrom [] rest
  | c :: rest =>
      if isLineBreak c then (line.reverse, [c]) :: endedLinesFrom [] rest
      else endedLinesFrom (c :: line) rest

def endedLines (text : List Char) : List (List Char × List Char) := endedLinesFrom [] text

-- No line but a last one, which is not empty, is without an ending.
def Closed : List (List Char × List Char) → Prop
  | [] => True
  | entry :: rest => (entry.2 = [] → entry.1 ≠ [] ∧ rest = []) ∧ Closed rest

theorem endedLinesFrom_map_fst (acc text : List Char) :
    (endedLinesFrom acc text).map Prod.fst = splitLinesFrom acc text := by
  fun_induction endedLinesFrom acc text with
  | case1 line hline => simp [splitLinesFrom, hline]
  | case2 line hline => simp [splitLinesFrom, hline]
  | case3 line rest ih => simp [splitLinesFrom, ih]
  | case4 line c rest hne hbreak ih =>
    rw [splitLinesFrom.eq_3 line c rest hne, if_pos hbreak, List.map_cons, ih]
  | case5 line c rest hne hbreak ih =>
    rw [splitLinesFrom.eq_3 line c rest hne, if_neg hbreak, ih]

theorem endedLines_map_fst (text : List Char) :
    (endedLines text).map Prod.fst = splitLines text := endedLinesFrom_map_fst [] text

theorem endedLinesFrom_flatMap (acc text : List Char) :
    ((endedLinesFrom acc text).flatMap fun entry => entry.1 ++ entry.2) = acc.reverse ++ text := by
  fun_induction endedLinesFrom acc text with
  | case1 line hline => simp [List.isEmpty_iff.mp hline]
  | case2 line hline => simp
  | case3 line rest ih => simp [ih]
  | case4 line c rest hne hbreak ih => simp [ih]
  | case5 line c rest hne hbreak ih => simp [ih]

theorem endedLines_flatMap (text : List Char) :
    ((endedLines text).flatMap fun entry => entry.1 ++ entry.2) = text :=
  endedLinesFrom_flatMap [] text

theorem endedLinesFrom_plain (hacc : ∀ c ∈ acc, isLineBreak c = false) :
    ∀ entry ∈ endedLinesFrom acc text, ∀ c ∈ entry.1, isLineBreak c = false := by
  fun_induction endedLinesFrom acc text with
  | case1 line hline => simp
  | case2 line hline => simpa using hacc
  | case3 line rest ih =>
    rw [List.forall_mem_cons]
    exact ⟨by simpa using hacc, ih (by simp)⟩
  | case4 line c rest hne hbreak ih =>
    rw [List.forall_mem_cons]
    exact ⟨by simpa using hacc, ih (by simp)⟩
  | case5 line c rest hne hbreak ih =>
    apply ih
    exact List.forall_mem_cons.mpr ⟨by simpa using hbreak, hacc⟩

-- No break is left in a line.
theorem endedLines_plain (text : List Char) :
    ∀ entry ∈ endedLines text, ∀ c ∈ entry.1, isLineBreak c = false :=
  endedLinesFrom_plain (by simp)

theorem splitLines_plain (text : List Char) :
    ∀ line ∈ splitLines text, ∀ c ∈ line, isLineBreak c = false := by
  intro line hline
  rw [← endedLines_map_fst] at hline
  obtain ⟨entry, hentry, rfl⟩ := List.mem_map.mp hline
  exact endedLines_plain text entry hentry

theorem endedLinesFrom_closed (acc text : List Char) : Closed (endedLinesFrom acc text) := by
  fun_induction endedLinesFrom acc text with
  | case1 line hline => trivial
  | case2 line hline => exact ⟨fun _ => ⟨by simpa using hline, rfl⟩, trivial⟩
  | case3 line rest ih => exact ⟨by simp, ih⟩
  | case4 line c rest hne hbreak ih => exact ⟨by simp, ih⟩
  | case5 line c rest hne hbreak ih => exact ih

theorem endedLines_closed (text : List Char) : Closed (endedLines text) :=
  endedLinesFrom_closed [] text

theorem Closed.append {front : List (List Char × List Char)} (h : Closed (front ++ entries)) :
    Closed entries := by
  induction front with
  | nil => exact h
  | cons entry rest ih => exact ih h.2

-- What stands before another line is ended.
theorem Closed.ended {front : List (List Char × List Char)} (h : Closed (front ++ entries))
    (hentries : entries ≠ []) : ∀ entry ∈ front, entry.2 ≠ [] := by
  induction front with
  | nil => simp
  | cons entry rest ih =>
    rw [List.forall_mem_cons]
    constructor
    · intro hnil
      have hrest := (h.1 hnil).2
      exact hentries (List.append_eq_nil_iff.mp hrest).2
    · exact ih h.2

-- Lines that are joined by a newline, with what comes behind the last.
def ended (newline trailing : List Char) : List (List Char) → List (List Char × List Char)
  | [] => []
  | [line] => if line = [] ∧ trailing = [] then [] else [(line, trailing)]
  | line :: rest => (line, newline) :: ended newline trailing rest

theorem ended_cons (hlines : lines ≠ []) :
    ended newline trailing (line :: lines) = (line, newline) :: ended newline trailing lines := by
  cases lines with
  | nil => exact absurd rfl hlines
  | cons next rest => rfl

theorem ended_append (hlines : lines ≠ []) :
    ended newline trailing (front ++ lines) =
      front.map (fun line => (line, newline)) ++ ended newline trailing lines := by
  induction front with
  | nil => rfl
  | cons line rest ih =>
    rw [List.cons_append, ended_cons (by simp [hlines]), ih]
    rfl

theorem ended_map_fst (h : ∀ line, lines.getLast? = some line → line ≠ [] ∨ trailing ≠ []) :
    (ended newline trailing lines).map Prod.fst = lines := by
  rcases List.eq_nil_or_concat lines with rfl | ⟨front, last, rfl⟩
  · rfl
  · rw [List.concat_eq_append] at h ⊢
    have hlast := h last (by simp)
    rw [ended_append (by simp), ended, if_neg (by tauto)]
    simp [Function.comp_def]

theorem endedLinesFrom_append (hline : ∀ c ∈ line, isLineBreak c = false) :
    endedLinesFrom acc (line ++ text) = endedLinesFrom (line.reverse ++ acc) text := by
  induction line generalizing acc with
  | nil => rfl
  | cons c rest ih =>
    obtain ⟨hc, hrest⟩ := List.forall_mem_cons.mp hline
    have hne : ∀ after, c = '\r' → rest ++ text = '\n' :: after → False := by
      rintro after rfl -
      simp [isLineBreak] at hc
    rw [List.cons_append, endedLinesFrom.eq_3 acc c _ hne, hc, if_neg Bool.false_ne_true, ih hrest]
    simp

theorem endedLinesFrom_newline (hnewline : newline = ['\n'] ∨ newline = ['\r', '\n']) :
    endedLinesFrom acc (newline ++ text) = (acc.reverse, newline) :: endedLines text := by
  rcases hnewline with rfl | rfl
  · have hne : ∀ after, '\n' = '\r' → text = '\n' :: after → False := by
      intro after h
      simp at h
    rw [List.singleton_append, endedLinesFrom.eq_3 acc '\n' text hne, if_pos (by decide)]
    rfl
  · rfl

theorem unbroken_of_all {text : List Char} (h : text.all fun c => !isLineBreak c) :
    ∀ c ∈ text, isLineBreak c = false := by
  intro c hc
  have hc := List.all_eq_true.mp h c hc
  simpa using hc

-- Lines that have no break in them are read back from the text that they are joined to.
theorem endedLines_intercalate (hnewline : newline = ['\n'] ∨ newline = ['\r', '\n'])
    (htrailing : trailing = newline ∨ trailing = []) (hlines : lines ≠ [])
    (hplain : ∀ line ∈ lines, ∀ c ∈ line, isLineBreak c = false) :
    endedLines (newline.intercalate lines ++ trailing) = ended newline trailing lines := by
  induction lines with
  | nil => exact absurd rfl hlines
  | cons line rest ih =>
    obtain ⟨hline, hrest⟩ := List.forall_mem_cons.mp hplain
    unfold endedLines
    cases rest with
    | nil =>
      rw [List.intercalate_singleton, endedLinesFrom_append hline, List.append_nil]
      rcases htrailing with rfl | rfl
      · have hread : endedLinesFrom line.reverse (trailing ++ []) =
            (line.reverse.reverse, trailing) :: endedLines [] := endedLinesFrom_newline hnewline
        rw [List.append_nil] at hread
        have hne : trailing ≠ [] := by
          rcases hnewline with rfl | rfl <;> simp
        rw [hread, ended, if_neg (by simp [hne]), List.reverse_reverse]
        rfl
      · simp [ended, endedLinesFrom]
    | cons next others =>
      rw [List.intercalate_cons_cons, List.append_assoc, List.append_assoc,
        endedLinesFrom_append hline, List.append_nil, endedLinesFrom_newline hnewline,
        List.reverse_reverse, ended_cons (by simp), ih (by simp) hrest]

end Ending

end BanchoPrism.Library.Text
