import AppConfig.Proofs.Json.Comments

/-! # Texts without comments

Taking comments away a second time may change a text once more, yet never its value.

* `not_isComment_of_mem_uncomment`: no comment is left.
* `uncomment_eq_self_iff`: the texts that stay as they are.
* `decode_uncomment_ok`: a text has a value just when it has that value without its comments.
* `uncomment_stable`: the three together.
-/

namespace AppConfig
set_option autoImplicit false
open Text

variable {text line : List Char}

/-! ## What is left -/

theorem not_isComment_of_mem_uncomment (h : line ∈ splitOn '\n' (uncomment text)) :
    isComment line = false := by
  unfold uncomment at h
  generalize hlines : (splitLines text).filter (fun line => !isComment line) = lines at h
  have hkept : ∀ line ∈ lines, '\n' ∉ line ∧ isComment line = false := by
    intro line hline
    rw [← hlines, List.mem_filter] at hline
    exact ⟨not_mem_of_mem_splitLines hline.1, by simpa using hline.2⟩
  -- Where no line is kept the text is empty, and its only piece is no comment.
  by_cases hne : lines = []
  · rw [hne, joinWith, splitOn, List.mem_singleton] at h
    rw [h]
    decide
  · rw [splitOn_joinWith (fun piece hpiece => (hkept piece hpiece).1) hne] at h
    exact (hkept line h).2

theorem uncomment_eq_self_iff : uncomment text = text ↔
    (∀ line ∈ splitOn '\n' text, isComment line = false) ∧
      ¬ ['\r', '\n'] <:+: text ∧ text.getLast? ≠ some '\n' := by
  constructor
  · intro h
    have hnone : ∀ line ∈ splitOn '\n' text, isComment line = false := by
      rw [← h]
      exact fun _ => not_isComment_of_mem_uncomment
    refine ⟨hnone, joinWith_splitLines_eq_iff.mp ?_⟩
    rw [← uncomment_of_not_isComment (forall_not_isComment_iff.mpr hnone), h]
  · rintro ⟨hnone, hends⟩
    rw [uncomment_of_not_isComment (forall_not_isComment_iff.mpr hnone)]
    exact joinWith_splitLines_eq_iff.mpr hends

/-! ## Values -/

theorem decode_uncomment_ok {v : Json} :
    (decode (String.ofList (uncomment text))).result = .ok v ↔
      (decode (String.ofList text)).result = .ok v := by
  have hnone : ∀ line ∈ splitLines (uncomment text), isComment line = false :=
    forall_not_isComment_iff.mpr fun _ => not_isComment_of_mem_uncomment
  rw [decode_result_ok, decode_result_ok, String.toList_ofList, String.toList_ofList,
    Json.decode_eq_ok, Json.decode_eq_ok]
  simp only [Json.read_uncomment_iff hnone]

/-- No comment is left in a text without its comments. A text stays as it is just when it has no
comments, no line that ends in two characters and no end of its last line. Taking comments away
twice may leave less than doing so once, and gives the same values. -/
theorem uncomment_stable :
    (∀ text, ∀ line ∈ splitOn '\n' (uncomment text), isComment line = false) ∧
    (∀ text, uncomment text = text ↔
      (∀ line ∈ splitOn '\n' text, isComment line = false) ∧
        ¬ ['\r', '\n'] <:+: text ∧ text.getLast? ≠ some '\n') ∧
    (∃ text, '\r' ∉ text ∧ (uncomment (uncomment text)).length < (uncomment text).length) ∧
    (∃ text, ['\r', '\r', '\n'] <:+: text ∧ text.getLast? ≠ some '\n' ∧
      (uncomment (uncomment text)).length < (uncomment text).length) ∧
    ∀ text v, (decode (String.ofList (uncomment text))).result = .ok v ↔
      (decode (String.ofList text)).result = .ok v := by
  refine ⟨fun _ _ => not_isComment_of_mem_uncomment, fun _ => uncomment_eq_self_iff, ?_, ?_,
    fun _ _ => decode_uncomment_ok⟩
  · exact ⟨['[', ']', '\n', '\n'], by decide⟩
  · exact ⟨['[', '\r', '\r', '\n', ']'], by decide⟩

end AppConfig
