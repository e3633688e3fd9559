import Mathlib.Data.List.Infix
import Mathlib.Data.List.Chain
import Mathlib.Data.List.DropRight

namespace BanchoPrism.Library.Text

-- str.isspace, which is also what \s matches
def isSpace (c : Char) : Bool :=
  (0x09 ≤ c.val && c.val ≤ 0x0d) || (0x1c ≤ c.val && c.val ≤ 0x20) || c.val = 0x85 ||
    c.val = 0xa0 || c.val = 0x1680 || (0x2000 ≤ c.val && c.val ≤ 0x200a) || c.val = 0x2028 ||
    c.val = 0x2029 || c.val = 0x202f || c.val = 0x205f || c.val = 0x3000

-- What str.splitlines breaks a line at.
def isLineBreak (c : Char) : Bool :=
  (0x0a ≤ c.val && c.val ≤ 0x0d) || (0x1c ≤ c.val && c.val ≤ 0x1e) || c.val = 0x85 ||
    c.val = 0x2028 || c.val = 0x2029

def rstripBy (p : Char → Bool) (text : List Char) : List Char := (text.reverse.dropWhile p).reverse

-- str.strip
def strip (text : List Char) : List Char := rstripBy isSpace (text.dropWhile isSpace)

-- str.splitlines, with the line so far in reverse. A break at the end begins no new line.
def splitLinesFrom (line : List Char) : List Char → List (List Char)
  | [] => if line.isEmpty then [] else [line.reverse]
  | '\r' :: '\n' :: rest => line.reverse :: splitLinesFrom [] rest
  | c :: rest =>
      if isLineBreak c then line.reverse :: splitLinesFrom [] rest
      else splitLinesFrom (c :: line) rest

def splitLines (text : List Char) : List (List Char) := splitLinesFrom [] text

-- re.sub(r"\s+", " ", text)
def collapse (after : Bool) : List Char → List Char
  | [] => []
  | c :: rest =>
      if isSpace c then if after then collapse true rest else ' ' :: collapse true rest
      else c :: collapse false rest

-- str.partition: none where there is no separator.
def partition (separator : Char) (text : List Char) : Option (List Char × List Char) :=
  match text.span (· ≠ separator) with
  | (_, []) => none
  | (key, _ :: value) => some (key, value)

-- No character that is stripped is left at the end.
theorem rstripBy_concat {p : Char → Bool} {text front : List Char} {c : Char}
    (h : rstripBy p text = front ++ [c]) : p c = false := by
  have hreverse : text.reverse.dropWhile p = c :: front.reverse := by
    rw [← List.reverse_reverse (text.reverse.dropWhile p)]
    exact (congrArg List.reverse h).trans (by simp)
  have hhead := List.head?_dropWhile_not p text.reverse
  rwa [hreverse] at hhead

section Suffixes

variable {text suffix : List Char}

theorem dropWhile_suffix {p : Char → Bool} (hp : ∀ c ∈ suffix, p c = false)
    (h : suffix <:+ text) : suffix <:+ text.dropWhile p := by
  obtain ⟨front, rfl⟩ := h
  induction front with
  | nil =>
    cases suffix with
    | nil => exact List.suffix_refl _
    | cons c rest =>
      rw [List.nil_append, List.dropWhile_cons_of_neg (by simp [hp c List.mem_cons_self])]
  | cons c front ih =>
    rw [List.cons_append, List.dropWhile_cons]
    split
    · exact ih
    · exact ⟨c :: front, rfl⟩

theorem rstripBy_suffix {p : Char → Bool} {c : Char} (hc : p c = false) (h : (suffix ++ [c]) <:+ text) :
    (suffix ++ [c]) <:+ rstripBy p text := by
  obtain ⟨front, rfl⟩ := h
  have hreverse : (front ++ (suffix ++ [c])).reverse = c :: (front ++ suffix).reverse := by simp
  rw [rstripBy, hreverse, List.dropWhile_cons_of_neg (by simp [hc]), ← hreverse, List.reverse_reverse]
  exact List.suffix_append _ _

theorem strip_suffix {c : Char} (hsuffix : ∀ c' ∈ suffix ++ [c], isSpace c' = false)
    (h : (suffix ++ [c]) <:+ text) : (suffix ++ [c]) <:+ strip text := by
  have hc : isSpace c = false := hsuffix c (List.mem_append_right _ (List.mem_singleton_self c))
  exact rstripBy_suffix hc (dropWhile_suffix hsuffix h)

theorem filter_suffix {p : Char → Bool} (hp : ∀ c ∈ suffix, p c) (h : suffix <:+ text) :
    suffix <:+ text.filter p := by
  have hfilter := h.filter p
  rwa [List.filter_eq_self.mpr hp] at hfilter

theorem collapse_of_no_space (hp : ∀ c ∈ suffix, isSpace c = false) (after : Bool) :
    collapse after suffix = suffix := by
  induction suffix generalizing after with
  | nil => rfl
  | cons c rest ih =>
    rw [collapse, if_neg (by simp [hp c List.mem_cons_self]),
      ih (fun c' hc' => hp c' (List.mem_cons_of_mem c hc'))]

theorem collapse_suffix (hp : ∀ c ∈ suffix, isSpace c = false) (h : suffix <:+ text)
    (after : Bool) : suffix <:+ collapse after text := by
  obtain ⟨front, rfl⟩ := h
  induction front generalizing after with
  | nil =>
    rw [List.nil_append, collapse_of_no_space hp]
  | cons c front ih =>
    rw [List.cons_append, collapse]
    split
    · split
      · exact ih true
      · exact (ih true).trans (List.suffix_cons _ _)
    · exact (ih false).trans (List.suffix_cons _ _)

end Suffixes

example : splitLines "a\r\nb\n\nc\n".toList = ["a".toList, "b".toList, [], "c".toList] := by
  decide

-- The only whitespace is single blanks.
structure Spaced (text : List Char) : Prop where
  blank : ∀ c ∈ text, isSpace c → c = ' '
  apart : text.IsChain fun a b => ¬(isSpace a ∧ isSpace b)

section Stripping

variable {p : Char → Bool} {text suffix : List Char} {c : Char}

theorem rstripBy_eq (p : Char → Bool) (text : List Char) : rstripBy p text = text.rdropWhile p :=
  rfl

-- A text that ends in no whitespace is stripped at its head only.
theorem strip_of_suffix (hsuffix : ∀ c' ∈ suffix ++ [c], isSpace c' = false)
    (h : (suffix ++ [c]) <:+ text) : strip text = text.dropWhile isSpace := by
  obtain ⟨front, hfront⟩ := dropWhile_suffix hsuffix h
  have hc : ¬isSpace c = true := by
    simp [hsuffix c (List.mem_append_right _ (List.mem_singleton_self c))]
  rw [strip, ← hfront, ← List.append_assoc, rstripBy_eq, List.rdropWhile_concat_neg _ _ _ hc]

theorem mem_dropWhile_of_neg (h : c ∈ text) (hc : p c = false) : c ∈ text.dropWhile p := by
  rw [← List.takeWhile_append_dropWhile (p := p) (l := text)] at h
  rcases List.mem_append.mp h with htake | hdrop
  · rw [List.mem_takeWhile_imp htake] at hc
    cases hc
  · exact hdrop

theorem mem_rstripBy_of_neg (h : c ∈ text) (hc : p c = false) : c ∈ rstripBy p text := by
  rw [rstripBy, List.mem_reverse]
  exact mem_dropWhile_of_neg (List.mem_reverse.mpr h) hc

end Stripping

section Collapsing

variable {text suffix : List Char} {c : Char}

theorem mem_collapse {after : Bool} (h : c ∈ collapse after text) :
    c = ' ' ∨ c ∈ text ∧ isSpace c = false := by
  induction text generalizing after with
  | nil => cases h
  | cons first rest ih =>
    rw [collapse] at h
    split at h
    · split at h
      · exact (ih h).imp_right fun hrest => ⟨List.mem_cons_of_mem first hrest.1, hrest.2⟩
      · rcases List.mem_cons.mp h with hblank | hrest
        · exact Or.inl hblank
        · exact (ih hrest).imp_right fun hrest => ⟨List.mem_cons_of_mem first hrest.1, hrest.2⟩
    · rename_i hfirst
      rcases List.mem_cons.mp h with rfl | hrest
      · exact Or.inr ⟨List.mem_cons_self, by simpa using hfirst⟩
      · exact (ih hrest).imp_right fun hrest => ⟨List.mem_cons_of_mem first hrest.1, hrest.2⟩

theorem mem_collapse_of_neg (h : c ∈ text) (hc : isSpace c = false) (after : Bool) :
    c ∈ collapse after text := by
  induction text generalizing after with
  | nil => cases h
  | cons first rest ih =>
    rw [collapse]
    rcases List.mem_cons.mp h with rfl | hrest
    · rw [if_neg (by simp [hc])]
      exact List.mem_cons_self
    · split
      · split
        · exact ih hrest true
        · exact List.mem_cons_of_mem _ (ih hrest true)
      · exact List.mem_cons_of_mem _ (ih hrest false)

theorem length_collapse_le (after : Bool) (text : List Char) :
    (collapse after text).length ≤ text.length := by
  induction text generalizing after with
  | nil => exact Nat.le_refl 0
  | cons first rest ih =>
    rw [collapse, List.length_cons]
    split
    · split
      · exact Nat.le_succ_of_le (ih true)
      · exact Nat.succ_le_succ (ih true)
    · exact Nat.succ_le_succ (ih false)

theorem collapse_append (hsuffix : ∀ c ∈ suffix, isSpace c = false) (after : Bool) :
    collapse after (text ++ suffix) = collapse after text ++ suffix := by
  induction text generalizing after with
  | nil => exact collapse_of_no_space hsuffix after
  | cons first rest ih =>
    rw [List.cons_append, collapse, collapse, ih, ih]
    split
    · split <;> rfl
    · rfl

-- What a text begins with apart from whitespace is not collapsed.
theorem find_collapse (after : Bool) (text : List Char) :
    (collapse after text).find? (fun c => !isSpace c) = text.find? fun c => !isSpace c := by
  induction text generalizing after with
  | nil => rfl
  | cons first rest ih =>
    rw [collapse]
    split
    · rename_i hfirst
      rw [List.find?_cons_of_neg (by simp [hfirst])]
      split
      · exact ih true
      · rw [List.find?_cons_of_neg (by decide)]
        exact ih true
    · rename_i hfirst
      rw [List.find?_cons_of_pos (by simpa using hfirst),
        List.find?_cons_of_pos (by simpa using hfirst)]

-- After a blank the collapsed text goes on with something else.
theorem head_collapse (text : List Char) :
    ∀ c, (collapse true text).head? = some c → isSpace c = false := by
  induction text with
  | nil => exact fun c h => by cases h
  | cons first rest ih =>
    rw [collapse]
    split
    · exact ih
    · rename_i hfirst
      exact fun c h => by rw [← Option.some.inj h]; simpa using hfirst

theorem spaced_collapse (after : Bool) (text : List Char) : Spaced (collapse after text) := by
  constructor
  · intro c hc hspace
    rcases mem_collapse hc with hblank | ⟨-, hnot⟩
    · exact hblank
    · rw [hnot] at hspace
      cases hspace
  · induction text generalizing after with
    | nil => exact List.isChain_nil
    | cons first rest ih =>
      rw [collapse]
      split
      · split
        · exact ih true
        · refine List.isChain_cons.mpr ⟨fun c hc hboth => ?_, ih true⟩
          rw [head_collapse rest c hc] at hboth
          cases hboth.2
      · rename_i hfirst
        exact List.isChain_cons.mpr ⟨fun c _ hboth => hfirst hboth.1, ih false⟩

theorem Spaced.of_cons {first : Char} (h : Spaced (first :: text)) : Spaced text where
  blank c hc := h.blank c (List.mem_cons_of_mem first hc)
  apart := (List.isChain_cons.mp h.apart).2

-- There is nothing to collapse in a spaced text.
theorem Spaced.collapse_eq (h : Spaced text) {after : Bool}
    (hhead : after = true → ∀ c, text.head? = some c → isSpace c = false) :
    collapse after text = text := by
  induction text generalizing after with
  | nil => rfl
  | cons first rest ih =>
    rw [collapse]
    split
    · rename_i hspace
      have hafter : ¬after = true := fun hafter => by
        rw [hhead hafter first rfl] at hspace
        cases hspace
      rw [if_neg hafter, h.blank first List.mem_cons_self hspace]
      rw [ih h.of_cons fun _ c hc => ?_]
      have hapart := (List.isChain_cons.mp h.apart).1 c hc
      rw [Bool.eq_false_iff]
      exact fun hc => hapart ⟨hspace, hc⟩
    · rw [ih h.of_cons fun hfalse => by cases hfalse]

theorem Spaced.collapse_eq_self (h : Spaced text) : collapse false text = text :=
  h.collapse_eq fun hfalse => by cases hfalse

end Collapsing

end BanchoPrism.Library.Text
