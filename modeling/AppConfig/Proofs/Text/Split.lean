import AppConfig.Text.Split

/-! # Pieces of a text

* `splitOn_eq`, `joinWith_eq`: taking a text to pieces and putting them together again, as the
  library does it for lists.
* `splitOn_eq_iff`: pieces are those of a text if they give the text when they are put together,
  and the mark between them is in none of them.
* `splitOn_append_mark`: the pieces of two texts with a mark between them; `joinWith_append`: two
  lists of pieces put together.
-/

namespace AppConfig.Text
set_option autoImplicit false

variable {mark : Char} {text : List Char} {pieces : List (List Char)}

theorem splitOn_eq (mark : Char) (text : List Char) : splitOn mark text = text.splitOn mark := by
  induction text with
  | nil => simp [splitOn]
  | cons c rest ih =>
    rw [splitOn, ih, List.splitOn_cons_eq_if_modifyHead]
    by_cases h : c = mark
    · simp [h]
    · obtain ⟨piece, pieces, hpieces⟩ := List.exists_cons_of_ne_nil (List.splitOn_ne_nil mark rest)
      simp [h, hpieces]

theorem joinWith_eq (mark : Char) (pieces : List (List Char)) :
    joinWith mark pieces = [mark].intercalate pieces := by
  induction pieces with
  | nil => rfl
  | cons piece rest ih =>
    cases rest with
    | nil => simp [joinWith]
    | cons next more => rw [joinWith, ih, List.intercalate_cons_cons, List.append_assoc]; rfl

theorem splitOn_joinWith (hmark : ∀ piece ∈ pieces, mark ∉ piece) (hne : pieces ≠ []) :
    splitOn mark (joinWith mark pieces) = pieces := by
  rw [splitOn_eq, joinWith_eq, List.splitOn_intercalate mark hmark hne]

/-- The mark is in no piece. -/
theorem not_mem_of_mem_splitOn {piece : List Char} (h : piece ∈ splitOn mark text) :
    mark ∉ piece := by
  induction text generalizing piece with
  | nil =>
    rw [splitOn, List.mem_singleton] at h
    rw [h]
    exact List.not_mem_nil
  | cons c rest ih =>
    obtain ⟨first, more, hrest⟩ := List.exists_cons_of_ne_nil (splitOn_ne_nil mark rest)
    rw [hrest] at ih
    by_cases hc : c = mark
    · rw [splitOn, if_pos hc, hrest] at h
      rcases List.mem_cons.mp h with rfl | h
      · exact List.not_mem_nil
      · exact ih h
    · rw [splitOn, if_neg hc, hrest] at h
      rcases List.mem_cons.mp h with rfl | h
      · rw [List.mem_cons, not_or]
        exact ⟨Ne.symm hc, ih List.mem_cons_self⟩
      · exact ih (List.mem_cons_of_mem first h)

theorem splitOn_eq_iff : splitOn mark text = pieces ↔
    pieces ≠ [] ∧ (∀ piece ∈ pieces, mark ∉ piece) ∧ joinWith mark pieces = text := by
  constructor
  · rintro rfl
    exact ⟨splitOn_ne_nil mark text, fun _ => not_mem_of_mem_splitOn, joinWith_splitOn mark text⟩
  · rintro ⟨hne, hmark, rfl⟩
    exact splitOn_joinWith hmark hne

theorem splitOn_of_not_mem (h : mark ∉ text) : splitOn mark text = [text] :=
  splitOn_eq_iff.mpr ⟨List.cons_ne_nil text [], by simpa using h, rfl⟩

/-- A mark ends the last piece before it and begins the first one behind it. -/
theorem splitOn_append_mark (text rest : List Char) :
    splitOn mark (text ++ mark :: rest) = splitOn mark text ++ splitOn mark rest := by
  induction text with
  | nil => simp [splitOn]
  | cons c text ih =>
    rw [List.cons_append, splitOn, splitOn, ih]
    by_cases hc : c = mark
    · rw [if_pos hc, if_pos hc, List.cons_append]
    · obtain ⟨piece, pieces, hpieces⟩ := List.exists_cons_of_ne_nil (splitOn_ne_nil mark text)
      rw [if_neg hc, if_neg hc, hpieces]
      rfl

theorem splitOn_append_cons (h : mark ∉ text) (rest : List Char) :
    splitOn mark (text ++ mark :: rest) = text :: splitOn mark rest := by
  rw [splitOn_append_mark, splitOn_of_not_mem h, List.singleton_append]

theorem joinWith_append {first last : List (List Char)} (hfirst : first ≠ []) (hlast : last ≠ []) :
    joinWith mark (first ++ last) = joinWith mark first ++ mark :: joinWith mark last := by
  induction first with
  | nil => exact absurd rfl hfirst
  | cons piece rest ih =>
    cases rest with
    | nil =>
      obtain ⟨next, more, rfl⟩ := List.exists_cons_of_ne_nil hlast
      rfl
    | cons next more =>
      have hrest := ih (List.cons_ne_nil next more)
      rw [List.cons_append, List.cons_append, joinWith, ← List.cons_append, hrest, joinWith,
        List.append_assoc, List.cons_append]

/-- Only behind a mark the last piece is empty. -/
theorem getLast?_of_splitOn (h : (splitOn mark text).getLast? = some []) :
    text = [] ∨ text.getLast? = some mark := by
  obtain ⟨front, hfront⟩ := List.getLast?_eq_some_iff.mp h
  have htext := joinWith_splitOn mark text
  rw [hfront] at htext
  by_cases hnil : front = []
  · left
    rw [← htext, hnil]
    rfl
  · right
    rw [← htext, joinWith_append hnil (List.cons_ne_nil [] [])]
    exact List.getLast?_concat

end AppConfig.Text
