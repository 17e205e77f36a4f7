import AppConfig.Location
import AppConfig.Naming.Identifier
import AppConfig.Proofs.Naming.Defaults
import AppConfig.Proofs.Text.Split

/-! # Reading the texts of locations

In general the text of a location does not tell the location. It does if the keys of the steps are
made of the characters of symbols, among which there are no dots and no brackets.

* `Segment.ofDisplay`, `Location.ofDisplay`: the step and the location that a text displays.
* `Segment.IsPlain`: the key of a step is made of the characters of symbols.
* `Location.ofDisplay_display`: a location of such steps is read back from its text.
-/

namespace AppConfig
set_option autoImplicit false

namespace Text
variable {mark : Char} {text : List Char}

theorem cut_of_not_mem (h : mark ∉ text) : cut mark text = (text, none) := by
  induction text with
  | nil => rfl
  | cons c rest ih =>
    rw [List.mem_cons, not_or] at h
    rw [cut, if_neg (Ne.symm h.1), ih h.2]

theorem cut_append_cons (h : mark ∉ text) (rest : List Char) :
    cut mark (text ++ mark :: rest) = (text, some rest) := by
  induction text with
  | nil => rw [List.nil_append, cut, if_pos rfl]
  | cons c text ih =>
    rw [List.mem_cons, not_or] at h
    rw [List.cons_append, cut, if_neg (Ne.symm h.1), ih h.2]

end Text

namespace Segment

/-- The step that a text displays: an element if there is a bracket in it. -/
def ofDisplay (text : List Char) : Segment :=
  match Text.cut '[' text with
  | (name, none) => field (String.ofList name)
  | (list, some index) => element (String.ofList list) (Nat.ofDigitChars 10 index.dropLast 0)

/-- The key of the step is made of the characters of symbols. -/
def IsPlain : Segment → Prop
  | field name | element name _ => ∀ c ∈ name.toList, Identifier.isPart c = true

variable {s : Segment}

theorem toList_display_field (name : String) : (field name).display.toList = name.toList := rfl

theorem toList_display_element (list : String) (index : Nat) :
    (element list index).display.toList =
      list.toList ++ '[' :: (Nat.toDigits 10 index ++ [']']) := by
  have hdisplay : (element list index).display = list ++ "[" ++ toString index ++ "]" := rfl
  simp [hdisplay, Nat.toString_eq_repr, Nat.toList_repr]

theorem not_mem_of_isPart {text : List Char} {c : Char} (h : ∀ d ∈ text, Identifier.isPart d = true)
    (hc : Identifier.isPart c = false) : c ∉ text := by
  intro hmem
  rw [h c hmem] at hc
  cases hc

theorem ofDisplay_display (h : s.IsPlain) : ofDisplay s.display.toList = s := by
  cases s with
  | field name =>
    have hbracket : '[' ∉ name.toList := not_mem_of_isPart h rfl
    rw [toList_display_field, ofDisplay, Text.cut_of_not_mem hbracket]
    dsimp only
    rw [String.ofList_toList]
  | element list index =>
    have hbracket : '[' ∉ list.toList := not_mem_of_isPart h rfl
    rw [toList_display_element, ofDisplay, Text.cut_append_cons hbracket]
    dsimp only
    rw [List.dropLast_concat, String.ofList_toList, Nat.ofDigitChars_ten_toDigits]

/-- Besides the characters of symbols there are brackets only. -/
theorem not_mem_display (h : s.IsPlain) {c : Char} (hc : Identifier.isPart c = false)
    (hopen : c ≠ '[') (hclose : c ≠ ']') : c ∉ s.display.toList := by
  cases s with
  | field name => exact not_mem_of_isPart h hc
  | element list index =>
    have hkey : c ∉ list.toList := not_mem_of_isPart h hc
    have hindex : c ∉ Nat.toDigits 10 index := by
      refine not_mem_of_isPart (fun d hd => ?_) hc
      exact Identifier.isPart_of_isDigit (Nat.isDigit_of_mem_toDigits (by decide) (by decide) hd)
    rw [toList_display_element]
    simp [hkey, hindex, hopen, hclose]

end Segment

namespace Location
variable {l : Location}

/-- The location that a text displays. -/
def ofDisplay (text : String) : Location :=
  if text = root.display then root else (Text.splitOn '.' text.toList).map Segment.ofDisplay

theorem toList_display (hne : l ≠ []) :
    l.display.toList = Text.joinWith '.' (l.map fun s => s.display.toList) := by
  have hdisplay : l.display = ".".intercalate (l.map Segment.display) := by
    rw [display, if_neg (by simpa using hne)]
  rw [hdisplay, Text.joinWith_eq, String.toList_intercalate, List.map_map]
  rfl

/-- The texts of the steps are the pieces of the text between the dots. -/
theorem splitOn_display (h : ∀ s ∈ l, s.IsPlain) (hne : l ≠ []) :
    Text.splitOn '.' l.display.toList = l.map fun s => s.display.toList := by
  have hdots : ∀ piece ∈ l.map fun s => s.display.toList, '.' ∉ piece := by
    intro piece hpiece
    obtain ⟨s, hs, rfl⟩ := List.mem_map.mp hpiece
    exact Segment.not_mem_display (h s hs) rfl (by decide) (by decide)
  rw [toList_display hne]
  exact Text.splitOn_joinWith hdots (by simpa using hne)

theorem display_ne_root (h : ∀ s ∈ l, s.IsPlain) (hne : l ≠ []) : l.display ≠ root.display := by
  intro hroot
  have hpieces := splitOn_display h hne
  have hone : Text.splitOn '.' root.display.toList = [root.display.toList] := rfl
  rw [hroot, hone] at hpieces
  have hmem : root.display.toList ∈ l.map fun s => s.display.toList :=
    hpieces ▸ List.mem_singleton_self _
  obtain ⟨s, hs, htext⟩ := List.mem_map.mp hmem
  have hmark : '<' ∉ s.display.toList :=
    Segment.not_mem_display (h s hs) rfl (by decide) (by decide)
  rw [htext] at hmark
  exact hmark (by decide)

/-- A location of plain steps is read back from its text. -/
theorem ofDisplay_display (h : ∀ s ∈ l, s.IsPlain) : ofDisplay l.display = l := by
  by_cases hne : l = []
  · rw [hne]
    exact if_pos rfl
  · have hsteps : (l.map fun s => s.display.toList).map Segment.ofDisplay = l := by
      rw [List.map_map]
      exact (List.map_congr_left fun s hs => Segment.ofDisplay_display (h s hs)).trans l.map_id
    rw [ofDisplay, if_neg (display_ne_root h hne), splitOn_display h hne, hsteps]

/-- A key with a dot in it looks like two steps. -/
example : display [.field "a.b"] = display [.field "a", .field "b"] := rfl

end Location
end AppConfig
