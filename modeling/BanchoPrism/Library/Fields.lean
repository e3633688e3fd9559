import Mathlib.Data.List.Basic

namespace BanchoPrism.Library

variable {α : Type} [DecidableEq α] {line field a : α}

-- Lines of fields, with a character between two lines and one between two fields.
def encodeTable (line field : α) (table : List (List (List α))) : List α :=
  [line].intercalate (table.map ([field].intercalate ·))

def decodeTable (line field : α) (text : List α) : List (List (List α)) :=
  (text.splitOn line).map (·.splitOn field)

omit [DecidableEq α] in
theorem mem_intercalate {sep : α} {pieces : List (List α)} :
    a ∈ [sep].intercalate pieces → a = sep ∨ ∃ piece ∈ pieces, a ∈ piece := by
  induction pieces with
  | nil => exact fun ha => by cases ha
  | cons piece rest ih =>
    intro ha
    cases rest with
    | nil =>
      rw [List.intercalate_singleton] at ha
      exact Or.inr ⟨piece, List.mem_cons_self, ha⟩
    | cons next rest =>
      rw [List.intercalate_cons_cons, List.mem_append, List.mem_append, List.mem_singleton] at ha
      rcases ha with (ha | ha) | ha
      · exact Or.inr ⟨piece, List.mem_cons_self, ha⟩
      · exact Or.inl ha
      · rcases ih ha with hsep | ⟨other, hother, hmem⟩
        · exact Or.inl hsep
        · exact Or.inr ⟨other, List.mem_cons_of_mem _ hother, hmem⟩

-- A piece has what the text has, but for what it was split at.
theorem mem_of_mem_splitOn {text piece : List α} (hpiece : piece ∈ text.splitOn line)
    (ha : a ∈ piece) : a ∈ text ∧ a ≠ line := by
  induction text generalizing piece with
  | nil =>
    rw [List.splitOn_nil, List.mem_singleton] at hpiece
    rw [hpiece] at ha
    cases ha
  | cons c rest ih =>
    rw [List.splitOn_cons_eq_if_modifyHead] at hpiece
    split at hpiece
    · rcases List.mem_cons.mp hpiece with rfl | hrest
      · cases ha
      · obtain ⟨hmem, hne⟩ := ih hrest ha
        exact ⟨List.mem_cons_of_mem c hmem, hne⟩
    · rename_i hc
      obtain ⟨first, others, hsplit⟩ := List.exists_cons_of_ne_nil (List.splitOn_ne_nil line rest)
      rw [hsplit, List.modifyHead_cons] at hpiece
      rcases List.mem_cons.mp hpiece with rfl | hothers
      · rcases List.mem_cons.mp ha with rfl | hfirst
        · exact ⟨List.mem_cons_self, by simpa using hc⟩
        · obtain ⟨hmem, hne⟩ := ih (hsplit ▸ List.mem_cons_self) hfirst
          exact ⟨List.mem_cons_of_mem c hmem, hne⟩
      · obtain ⟨hmem, hne⟩ := ih (hsplit ▸ List.mem_cons_of_mem first hothers) ha
        exact ⟨List.mem_cons_of_mem c hmem, hne⟩

-- A table is read back from its text exactly if no field has one of the two characters.
theorem decodeTable_encodeTable_iff (hne : line ≠ field) {table : List (List (List α))}
    (htable : table ≠ []) (hrows : ∀ row ∈ table, row ≠ []) :
    decodeTable line field (encodeTable line field table) = table ↔
      ∀ row ∈ table, ∀ text ∈ row, line ∉ text ∧ field ∉ text := by
  constructor
  · intro hsame row hrow text htext
    rw [← hsame] at hrow
    obtain ⟨piece, hpiece, rfl⟩ := List.mem_map.mp hrow
    refine ⟨fun hline => ?_, fun hfield => (mem_of_mem_splitOn htext hfield).2 rfl⟩
    exact (mem_of_mem_splitOn hpiece (mem_of_mem_splitOn htext hline).1).2 rfl
  · intro hplain
    have hlines : ∀ text ∈ table.map ([field].intercalate ·), line ∉ text := by
      intro text htext hline
      obtain ⟨row, hrow, rfl⟩ := List.mem_map.mp htext
      rcases mem_intercalate hline with hsame | ⟨piece, hpiece, hmem⟩
      · exact hne hsame
      · exact (hplain row hrow piece hpiece).1 hmem
    unfold decodeTable encodeTable
    rw [List.splitOn_intercalate line hlines (by simpa using htable), List.map_map]
    refine (List.map_congr_left fun row hrow => ?_).trans (List.map_id _)
    exact List.splitOn_intercalate field (fun text htext => (hplain row hrow text htext).2)
      (hrows row hrow)

end BanchoPrism.Library
