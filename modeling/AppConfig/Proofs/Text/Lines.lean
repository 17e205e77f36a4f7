import AppConfig.Proofs.Text.Split
import AppConfig.Text.Lines

/-! # Lines of a text

A text is read character by character (`lines_induction`) or line by line (`text_induction`).

* `exists_splitLines`: the lines of a text from its first line and the lines of the rest.
* `splitLines_append`: what follows the end of a line are lines of their own.
* `joinWith_splitLines_eq_iff`: joining the lines anew gives the text again, unless a line ends with
  a carriage return or the last line is ended.
* `isComment_append_return`: whether a line is a comment does not depend on the way it ends.
-/

namespace AppConfig.Text
set_option autoImplicit false

variable {c : Char} {line rest text : List Char}

/-! ## Character by character -/

theorem splitLines_cons (hfeed : c ≠ '\n') (hreturn : ∀ more, c = '\r' → rest ≠ '\n' :: more) :
    splitLines (c :: rest) = (c :: (splitLines rest).headD []) :: (splitLines rest).tail := by
  rw [splitLines]
  · cases splitLines rest <;> rfl
  · exact hfeed
  · exact hreturn

/-- A text is empty or begins with the end of a line or with another character. -/
theorem lines_induction {P : List Char → Prop} (nil : P [])
    (feed : ∀ rest, P rest → P ('\n' :: rest))
    (returnFeed : ∀ rest, P rest → P ('\r' :: '\n' :: rest))
    (char : ∀ c rest, splitLines (c :: rest) =
      (c :: (splitLines rest).headD []) :: (splitLines rest).tail → P rest → P (c :: rest))
    (text : List Char) : P text := by
  induction text using splitLines.induct with
  | case1 => exact nil
  | case2 rest ih => exact feed rest ih
  | case3 rest ih => exact returnFeed rest ih
  | case4 c rest hfeed hreturn hlines ih => exact char c rest (splitLines_cons hfeed hreturn) ih
  | case5 c rest hfeed hreturn line lines hlines ih =>
    exact char c rest (splitLines_cons hfeed hreturn) ih

theorem exists_append_of_splitLines (text : List Char) :
    ∃ rest, text = (splitLines text).headD [] ++ rest := by
  induction text using lines_induction with
  | nil => exact ⟨[], rfl⟩
  | feed rest ih => exact ⟨'\n' :: rest, rfl⟩
  | returnFeed rest ih => exact ⟨'\r' :: '\n' :: rest, rfl⟩
  | char c rest hlines ih =>
    obtain ⟨more, hmore⟩ := ih
    rw [hlines]
    exact ⟨more, congrArg (c :: ·) hmore⟩

theorem joinWith_cons_cons (lines : List (List Char)) :
    joinWith '\n' ((c :: line) :: lines) = c :: joinWith '\n' (line :: lines) := by
  cases lines <;> rfl

/-! ## Line by line -/

/-- The characters up to the end of a line stand at the front of its first line. -/
theorem splitLines_append_of_not_mem (hne : line ≠ []) (hfeed : '\n' ∉ line)
    (hreturn : line.getLast? = some '\r' → rest.head? ≠ some '\n') :
    splitLines (line ++ rest) =
      (line ++ (splitLines rest).headD []) :: (splitLines rest).tail := by
  induction line with
  | nil => exact absurd rfl hne
  | cons c more ih =>
    have hc : c ≠ '\n' := fun h => hfeed (List.mem_cons.mpr (.inl h.symm))
    have hmore : '\n' ∉ more := fun h => hfeed (List.mem_cons_of_mem c h)
    cases more with
    | nil =>
      -- Only here can a carriage return meet the line feed after it.
      refine splitLines_cons hc fun tail hreturned htail => ?_
      exact hreturn (congrArg some hreturned) (congrArg List.head? htail)
    | cons d more =>
      have hd : d ≠ '\n' := fun h => hmore (List.mem_cons.mpr (.inl h.symm))
      have hcons := ih (List.cons_ne_nil d more) hmore hreturn
      have hnext : ∀ tail, c = '\r' → d :: more ++ rest ≠ '\n' :: tail :=
        fun tail _ htail => hd (List.cons.inj htail).1
      rw [List.cons_append, splitLines_cons hc hnext, hcons]
      rfl

theorem splitLines_last (hne : line ≠ []) (hfeed : '\n' ∉ line) : splitLines line = [line] := by
  have hempty : line.getLast? = some '\r' → ([] : List Char).head? ≠ some '\n' := fun _ => by simp
  simpa [splitLines] using splitLines_append_of_not_mem hne hfeed hempty

theorem splitLines_feed (rest : List Char) (hfeed : '\n' ∉ line)
    (hreturn : line.getLast? ≠ some '\r') :
    splitLines (line ++ '\n' :: rest) = line :: splitLines rest := by
  by_cases hne : line = []
  · rw [hne]
    rfl
  · rw [splitLines_append_of_not_mem hne hfeed fun h => absurd h hreturn]
    simp [splitLines]

theorem splitLines_returnFeed (rest : List Char) (hfeed : '\n' ∉ line) :
    splitLines (line ++ '\r' :: '\n' :: rest) = line :: splitLines rest := by
  by_cases hne : line = []
  · rw [hne]
    rfl
  · rw [splitLines_append_of_not_mem hne hfeed fun _ => by simp]
    simp [splitLines]

/-- The end of a line is a line feed, together with one carriage return before it. -/
theorem exists_splitLines (hfeed : '\n' ∉ line) :
    ∃ kept, (line = kept ∧ kept.getLast? ≠ some '\r' ∨ line = kept ++ ['\r']) ∧
      ∀ rest, splitLines (line ++ '\n' :: rest) = kept :: splitLines rest := by
  by_cases hreturn : line.getLast? = some '\r'
  · obtain ⟨kept, rfl⟩ := List.getLast?_eq_some_iff.mp hreturn
    have hkept : '\n' ∉ kept := fun h => hfeed (List.mem_append_left ['\r'] h)
    refine ⟨kept, .inr rfl, fun rest => ?_⟩
    rw [List.append_assoc]
    exact splitLines_returnFeed rest hkept
  · exact ⟨line, .inl ⟨rfl, hreturn⟩, fun rest => splitLines_feed rest hfeed hreturn⟩

/-- A text is a single line without an end, or such a line, a line feed and another text. -/
theorem text_induction {P : List Char → Prop} (last : ∀ line, '\n' ∉ line → P line)
    (feed : ∀ line rest, '\n' ∉ line → P rest → P (line ++ '\n' :: rest))
    (text : List Char) : P text := by
  -- The lines are the pieces between line feeds, and the induction is on the list of them.
  suffices h : ∀ pieces : List (List Char), (∀ piece ∈ pieces, '\n' ∉ piece) →
      P (joinWith '\n' pieces) by
    rw [← joinWith_splitOn '\n' text]
    exact h _ fun _ => not_mem_of_mem_splitOn
  intro pieces hfeed
  induction pieces with
  | nil => exact last [] List.not_mem_nil
  | cons piece pieces ih =>
    obtain ⟨hpiece, hpieces⟩ := List.forall_mem_cons.mp hfeed
    cases pieces with
    | nil => exact last piece hpiece
    | cons next more => exact feed piece _ hpiece (ih hpieces)

theorem getLast?_append_feed :
    (line ++ '\n' :: rest).getLast? = some '\n' ↔ rest = [] ∨ rest.getLast? = some '\n' := by
  cases rest <;> simp [List.getLast?_append]

theorem splitLines_append {front : List Char} (h : front = [] ∨ front.getLast? = some '\n')
    (rest : List Char) : splitLines (front ++ rest) = splitLines front ++ splitLines rest := by
  induction front using text_induction with
  | last line hfeed =>
    rcases h with rfl | h
    · rfl
    · exact absurd (List.mem_of_getLast? h) hfeed
  | feed line more hfeed ih =>
    obtain ⟨kept, -, hlines⟩ := exists_splitLines hfeed
    have hmore : more = [] ∨ more.getLast? = some '\n' :=
      getLast?_append_feed.mp (h.resolve_left (by simp))
    rw [List.append_assoc, List.cons_append, hlines, hlines, ih hmore, List.cons_append]

theorem not_mem_of_mem_splitLines (h : line ∈ splitLines text) : '\n' ∉ line := by
  induction text using text_induction with
  | last last hfeed =>
    by_cases hne : last = []
    · rw [hne] at h
      exact absurd h List.not_mem_nil
    · rw [splitLines_last hne hfeed, List.mem_singleton] at h
      rwa [h]
  | feed first more hfeed ih =>
    obtain ⟨kept, hkept, hlines⟩ := exists_splitLines hfeed
    rw [hlines] at h
    rcases List.mem_cons.mp h with rfl | h
    · rcases hkept with ⟨rfl, -⟩ | rfl
      · exact hfeed
      · exact fun h => hfeed (List.mem_append_left ['\r'] h)
    · exact ih h

theorem splitLines_eq_nil_iff : splitLines text = [] ↔ text = [] := by
  induction text using lines_induction with
  | nil => exact iff_of_true rfl rfl
  | feed rest ih => simp [splitLines]
  | returnFeed rest ih => simp [splitLines]
  | char c rest hlines ih => simp [hlines]

/-! ## Line ends of two characters -/

theorem infix_append_feed (hfeed : '\n' ∉ line) : ['\r', '\n'] <:+: line ++ '\n' :: rest ↔
    line.getLast? = some '\r' ∨ ['\r', '\n'] <:+: rest := by
  induction line with
  | nil => simp [List.infix_cons_iff]
  | cons c more ih =>
    have hmore : '\n' ∉ more := fun h => hfeed (List.mem_cons_of_mem c h)
    rw [List.cons_append, List.infix_cons_iff, ih hmore]
    cases more with
    | nil => simp [eq_comm]
    | cons d more =>
      have hd : d ≠ '\n' := fun h => hmore (List.mem_cons.mpr (.inl h.symm))
      simp [Ne.symm hd]

/-- Joining the lines anew changes line ends of two characters, and the end of the last line. -/
theorem joinWith_splitLines_eq_iff : joinWith '\n' (splitLines text) = text ↔
    ¬ ['\r', '\n'] <:+: text ∧ text.getLast? ≠ some '\n' := by
  induction text using text_induction with
  | last line hfeed =>
    have hjoin : joinWith '\n' (splitLines line) = line := by
      by_cases hne : line = []
      · rw [hne]
        rfl
      · rw [splitLines_last hne hfeed]
        rfl
    refine iff_of_true hjoin ⟨fun h => ?_, fun h => hfeed (List.mem_of_getLast? h)⟩
    exact hfeed (h.mem (by simp))
  | feed line rest hfeed ih =>
    obtain ⟨kept, hkept, hlines⟩ := exists_splitLines hfeed
    have hfeed' : '\n' ∉ kept := by
      have hmem : kept ∈ splitLines (line ++ '\n' :: rest) := by
        rw [hlines]
        exact List.mem_cons_self
      exact not_mem_of_mem_splitLines hmem
    rw [hlines, infix_append_feed hfeed, ne_eq, getLast?_append_feed, not_or, not_or]
    cases hrest : splitLines rest with
    | nil =>
      -- The text ends with this line, and joining loses the line feed.
      obtain rfl := splitLines_eq_nil_iff.mp hrest
      refine iff_of_false (fun h => hfeed' ?_) fun h => h.2.1 rfl
      rw [show kept = line ++ ['\n'] from h]
      simp
    | cons first lines =>
      have hne : rest ≠ [] := fun h => by simp [h, splitLines] at hrest
      rw [joinWith, ← hrest]
      rcases hkept with ⟨rfl, hlast⟩ | rfl
      · simp [hlast, hne, ih]
      · simp

/-! ## Comment lines -/

theorem uncomment_of_not_isComment (h : ∀ line ∈ splitLines text, isComment line = false) :
    uncomment text = joinWith '\n' (splitLines text) := by
  have hkept : (splitLines text).filter (fun line => !isComment line) = splitLines text :=
    List.filter_eq_self.mpr fun line hline => by rw [h line hline]; rfl
  rw [uncomment, hkept]

theorem isComment_append_return (line : List Char) :
    isComment (line ++ ['\r']) = isComment line := by
  unfold isComment trimLeft
  rw [List.dropWhile_append]
  cases h : line.dropWhile isBlank with
  | nil => decide
  | cons c rest => cases rest <;> simp [List.isPrefixOf]

theorem isComment_kept {kept : List Char}
    (h : line = kept ∧ kept.getLast? ≠ some '\r' ∨ line = kept ++ ['\r']) :
    isComment kept = isComment line := by
  rcases h with ⟨rfl, -⟩ | rfl
  · rfl
  · exact (isComment_append_return kept).symm

/-- Text between two line feeds is a comment just when its line is one. -/
theorem forall_not_isComment_iff : (∀ line ∈ splitLines text, isComment line = false) ↔
    ∀ piece ∈ splitOn '\n' text, isComment piece = false := by
  induction text using text_induction with
  | last line hfeed =>
    rw [splitOn_of_not_mem hfeed]
    by_cases hne : line = []
    · subst hne
      simp [splitLines, isComment, trimLeft]
    · rw [splitLines_last hne hfeed]
  | feed line rest hfeed ih =>
    obtain ⟨kept, hkept, hlines⟩ := exists_splitLines hfeed
    rw [hlines, splitOn_append_cons hfeed, List.forall_mem_cons, List.forall_mem_cons, ih,
      isComment_kept hkept]

end AppConfig.Text
