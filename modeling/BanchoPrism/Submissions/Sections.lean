import BanchoPrism.Library.Lines
import BanchoPrism.Submissions.OsuFile

namespace BanchoPrism.Submissions

open Library Library.Text

-- The name of the section that a line begins.
def headerOf (line : List Char) : Option (List Char) := matchSection (strip line)

-- What a line that begins no section adds to the one it is in.
def contentOf (line : List Char) : Option String :=
  if (strip line).isEmpty || "//".toList.isPrefixOf (strip line) then none
  else some (String.ofList (strip line))

-- The lines of a section, wherever they are.
def sectionLines (name : String) (current : Option String) : List (List Char) → List String
  | [] => []
  | line :: rest =>
      match headerOf line with
      | some header => sectionLines name (some (String.ofList header)) rest
      | none =>
          if current = some name then
            (contentOf line).toList ++ sectionLines name current rest
          else sectionLines name current rest

-- The key and the value that a line of a section gives.
def keyValueOf (line : String) : Option (String × String) :=
  (partition ':' line.toList).map fun (key, value) =>
    (String.ofList (strip key), String.ofList (strip value))

def entryOf (line : List Char) : Option (String × String) := (contentOf line).bind keyValueOf

section Headers

variable {line name rest : List Char}

theorem matchSection_of_head (h : line.head? ≠ some '[') : matchSection line = none := by
  unfold matchSection
  split
  · exact absurd rfl h
  · rfl

theorem matchSection_eq_some (h : matchSection line = some name) :
    line = '[' :: name ++ [']'] := by
  unfold matchSection at h
  split at h
  · rename_i rest
    have hspan := List.span_eq_takeWhile_dropWhile (p := fun c => decide (c ≠ ']')) rest
    have hwhole := List.takeWhile_append_dropWhile (p := fun c => decide (c ≠ ']')) (l := rest)
    rw [hspan] at h
    split at h
    · cases h
    · rename_i name' _ heq
      cases h
      simp only [Prod.mk.injEq] at heq
      rw [← hwhole, heq.1, heq.2]
      rfl
    · cases h
  · cases h

-- A header is no comment, and not blank.
theorem contentOf_of_header (h : (headerOf line).isSome) :
    ((strip line).isEmpty || "//".toList.isPrefixOf (strip line)) = false := by
  obtain ⟨name, hname⟩ := Option.isSome_iff_exists.mp h
  rw [matchSection_eq_some hname]
  rfl

theorem headerOf_eq_some (h : headerOf line = some name) :
    strip line = "[".toList ++ name ++ "]".toList := matchSection_eq_some h

end Headers

section Reading

variable {name : String} {current other : Option String} {lines before after : List (List Char)}

theorem bodyOf_map (bodies : List (String × List String)) (name : String)
    (f : String × List String → List String) :
    bodyOf (bodies.map fun body => (body.1, f body)) name =
      match bodies.lookup name with
      | some body => f (name, body)
      | none => [] := by
  induction bodies with
  | nil => rfl
  | cons body rest ih =>
    unfold bodyOf at ih ⊢
    rw [List.map_cons, List.lookup_cons, List.lookup_cons]
    cases hkey : name == body.1 with
    | true =>
      rw [eq_of_beq hkey]
      rfl
    | false => exact ih

-- The name of the section being read is among those read.
def Sections.Named (s : Sections) : Prop :=
  ∀ name, s.current = some name → name ∈ s.bodies.map Prod.fst

theorem Sections.read_header {s : Sections} {line header : List Char}
    (h : headerOf line = some header) :
    s.read line =
      { bodies :=
          if s.bodies.any fun body => body.1 = String.ofList header then s.bodies
          else s.bodies ++ [(String.ofList header, [])]
        current := some (String.ofList header) } := by
  have hsome : (headerOf line).isSome := by
    rw [h]
    rfl
  have hcontent := contentOf_of_header hsome
  unfold Sections.read
  dsimp only
  rw [hcontent, if_neg Bool.false_ne_true, show matchSection (strip line) = some header from h]

theorem Sections.read_content {s : Sections} {line : List Char} (h : headerOf line = none) :
    s.read line =
      { s with
        bodies := s.bodies.map fun body =>
          (body.1, if some body.1 = s.current then body.2 ++ (contentOf line).toList
            else body.2) } := by
  unfold Sections.read contentOf
  dsimp only
  rw [show matchSection (strip line) = none from h]
  cases ((strip line).isEmpty || "//".toList.isPrefixOf (strip line)) with
  | true =>
    simp
  | false =>
    simp only [Bool.false_eq_true, if_false, Option.toList_some]
    congr 1
    apply List.map_congr_left
    intro body _
    split <;> rfl

theorem Sections.named_read {s : Sections} (h : s.Named) (line : List Char) :
    (s.read line).Named := by
  cases hheader : headerOf line with
  | none =>
    rw [Sections.read_content hheader]
    intro name hname
    simpa [Function.comp_def] using h name hname
  | some header =>
    rw [Sections.read_header hheader]
    intro name hname
    cases hname
    dsimp only
    split
    case isTrue hany =>
      obtain ⟨body, hbody, heq⟩ := List.any_eq_true.mp hany
      exact of_decide_eq_true heq ▸ List.mem_map_of_mem hbody
    case isFalse => simp

theorem Sections.bodyOf_foldl {s : Sections} (h : s.Named) (name : String)
    (lines : List (List Char)) :
    bodyOf (lines.foldl Sections.read s).bodies name =
      bodyOf s.bodies name ++ sectionLines name s.current lines := by
  induction lines generalizing s with
  | nil => simp [sectionLines]
  | cons line rest ih =>
    rw [List.foldl_cons, ih (Sections.named_read h line), sectionLines]
    cases hheader : headerOf line with
    | some header =>
      rw [Sections.read_header hheader]
      dsimp only
      congr 1
      split
      · rfl
      · unfold bodyOf
        rw [List.lookup_append]
        cases s.bodies.lookup name with
        | some body => rfl
        | none =>
          rw [Option.none_or, List.lookup_cons]
          split <;> rfl
    | none =>
      rw [Sections.read_content hheader]
      dsimp only
      rw [bodyOf_map]
      by_cases hname : s.current = some name
      · rw [if_pos hname, ← List.append_assoc]
        congr 1
        have hmem := h name hname
        cases hlookup : s.bodies.lookup name with
        | none =>
          obtain ⟨body, hbody, heq⟩ := List.mem_map.mp hmem
          have hne := List.lookup_eq_none_iff.mp hlookup body hbody
          rw [heq] at hne
          simp at hne
        | some body => simp [bodyOf, hlookup, hname]
      · rw [if_neg hname]
        congr 1
        cases hlookup : s.bodies.lookup name with
        | none => simp [bodyOf, hlookup]
        | some body => simp [bodyOf, hlookup, Ne.symm hname]

theorem bodyOf_splitSections (lines : List (List Char)) (name : String) :
    bodyOf (splitSections lines) name = sectionLines name none lines := by
  have hnamed : (Sections.mk [] none).Named := by
    intro name hname
    cases hname
  have h := Sections.bodyOf_foldl hnamed name lines
  exact h

theorem Sections.mem_foldl (s : Sections) (name : String) (lines : List (List Char)) :
    name ∈ (lines.foldl Sections.read s).bodies.map Prod.fst ↔
      name ∈ s.bodies.map Prod.fst ∨ some name.toList ∈ lines.map headerOf := by
  induction lines generalizing s with
  | nil => simp
  | cons line rest ih =>
    rw [List.foldl_cons, ih, List.map_cons, List.mem_cons, ← or_assoc]
    apply or_congr_left
    cases hheader : headerOf line with
    | none =>
      rw [Sections.read_content hheader]
      simp [Function.comp_def]
    | some header =>
      have hname : some name.toList = some header ↔ name = String.ofList header := by
        rw [Option.some.injEq]
        constructor
        · rintro rfl
          exact String.ofList_toList.symm
        · rintro rfl
          exact String.toList_ofList
      rw [Sections.read_header hheader, hname]
      dsimp only
      split
      case isTrue hany =>
        obtain ⟨body, hbody, heq⟩ := List.any_eq_true.mp hany
        constructor
        · exact Or.inl
        · rintro (hold | rfl)
          · exact hold
          · exact of_decide_eq_true heq ▸ List.mem_map_of_mem hbody
      case isFalse => simp

-- A section is there where a line begins it.
theorem isNone_splitSections (lines : List (List Char)) (name : String) :
    ((splitSections lines).lookup name).isNone ↔ some name.toList ∉ lines.map headerOf := by
  have h := Sections.mem_foldl { bodies := [], current := none } name lines
  have hlookup : ((splitSections lines).lookup name).isNone ↔
      name ∉ (splitSections lines).map Prod.fst := by
    rw [Option.isNone_iff_eq_none, List.lookup_eq_none_iff, List.mem_map]
    constructor
    · rintro hall ⟨body, hbody, rfl⟩
      have hne := hall body hbody
      simp at hne
    · intro hnone body hbody
      rw [bne_iff_ne]
      rintro rfl
      exact hnone ⟨body, hbody, rfl⟩
  rw [hlookup]
  apply not_congr
  simpa [splitSections] using h

-- Lines that begin no section are all of the one that they are in.
theorem sectionLines_append_of_none (h : ∀ line ∈ before, headerOf line = none) :
    sectionLines name current (before ++ after) =
      (if current = some name then before.filterMap contentOf else []) ++
        sectionLines name current after := by
  induction before with
  | nil => simp
  | cons line rest ih =>
    obtain ⟨hline, hrest⟩ := List.forall_mem_cons.mp h
    rw [List.cons_append, sectionLines, hline]
    dsimp only
    rw [ih hrest]
    split
    · rw [← List.append_assoc]
      congr 1
      cases hcontent : contentOf line <;> simp [hcontent]
    · rfl

-- Where a section begins, it does not matter which one has come before.
theorem sectionLines_append (hafter : ∀ line ∈ after.head?, (headerOf line).isSome) :
    sectionLines name current (before ++ after) =
      sectionLines name current before ++ sectionLines name none after := by
  have hany (current : Option String) :
      sectionLines name current after = sectionLines name none after := by
    cases after with
    | nil => rfl
    | cons line rest =>
      obtain ⟨header, hheader⟩ := Option.isSome_iff_exists.mp (hafter line rfl)
      rw [sectionLines, sectionLines, hheader]
  induction before generalizing current with
  | nil => exact hany current
  | cons line rest ih =>
    rw [List.cons_append, sectionLines, sectionLines]
    split
    · exact ih
    · split
      · rw [ih, List.append_assoc]
      · exact ih

theorem sectionLines_eq_nil (hcurrent : current ≠ some name)
    (h : ∀ line ∈ lines, headerOf line ≠ some name.toList) :
    sectionLines name current lines = [] := by
  induction lines generalizing current with
  | nil => rfl
  | cons line rest ih =>
    obtain ⟨hline, hrest⟩ := List.forall_mem_cons.mp h
    rw [sectionLines]
    split
    · rename_i header hheader
      apply ih ?_ hrest
      intro heq
      apply hline
      rw [hheader, ← Option.some.inj heq, String.toList_ofList]
    · rw [if_neg hcurrent]
      exact ih hcurrent hrest

end Reading

end BanchoPrism.Submissions
