import AppConfig.Compile
import AppConfig.Proofs.Json.Walks
import AppConfig.Proofs.Text.Lines

/-! # JSON texts have no comment lines

A line of a JSON text begins between two tokens, and no token begins with a slash. So the text has
no comment lines, and of its line ends only those between tokens are rewritten.

* `not_isComment_of_walks`: no line of a text that is read to a value is a comment.
* `walks_joinWith_iff`: joining its lines anew changes nothing about the value of a text.
* `decode_of_json`: a JSON text is a document, with the same value.
-/

namespace AppConfig
set_option autoImplicit false
open Text

namespace Json

variable {skips : Skips} {s t m : State} {c : Char} {v : Json}

/-! ## Beginnings of lines -/

/-- A character that a comment line may have up to its first slash. -/
def IsMargin (c : Char) : Prop := isBlank c = true ∨ c = '/'

theorem IsMargin.ne {x : Char} (hc : IsMargin c) (hblank : isBlank x = false) (hslash : x ≠ '/') :
    c ≠ x := by
  rintro rfl
  rcases hc with hc | hc
  · rw [hblank] at hc
    cases hc
  · exact hslash hc

theorem IsMargin.digit?_eq_none (hc : IsMargin c) : Number.digit? c = none := by
  have hdigit : ¬ Number.isDigit c = true := by
    intro h
    have hrange : '0' ≤ c ∧ c ≤ '9' := by simpa [Number.isDigit] using h
    have hlow : 48 ≤ c.toNat := hrange.1
    have hhigh : c.toNat ≤ 57 := hrange.2
    rcases hc with hc | rfl
    · simp only [isBlank, Bool.or_eq_true, Bool.and_eq_true, decide_eq_true_eq] at hc
      omega
    · exact absurd hlow (by decide)
  rw [Number.digit?, if_neg hdigit]

theorem IsMargin.beginValue_ne_ok {frames : List Frame} (hc : IsMargin c) :
    beginValue skips frames c ≠ .ok m := by
  intro h
  unfold beginValue at h
  split at h
  case h_8 =>
    rw [hc.digit?_eq_none] at h
    cases h
  all_goals exact hc.ne (by decide) (by decide) rfl

/-- No token begins with a slash or with a blank character. -/
theorem IsMargin.stepToken_ne_ok {frames : List Frame} {stage : Stage} (hc : IsMargin c)
    (hstage : stage.IsBetween) : stepToken skips frames stage c ≠ .ok m := by
  have hbracket : c ≠ ']' := hc.ne (by decide) (by decide)
  have hbrace : c ≠ '\x7d' := hc.ne (by decide) (by decide)
  have hquote : c ≠ '"' := hc.ne (by decide) (by decide)
  have hcomma : c ≠ ',' := hc.ne (by decide) (by decide)
  have hcolon : c ≠ ':' := hc.ne (by decide) (by decide)
  cases stage with
  | value => exact hc.beginValue_ne_ok
  | itemDue done => simpa [stepToken, hbracket] using hc.beginValue_ne_ok
  | items done fresh =>
    cases fresh with
    | true => simpa [stepToken, hbracket] using hc.beginValue_ne_ok
    | false => simp [stepToken, hbracket, hcomma]
  | members done fresh => cases fresh <;> simp [stepToken, hbrace, hquote, hcomma]
  | key done => simp [stepToken, hbrace, hquote]
  | colon done key => simp [stepToken, hcolon]
  | complete v => simp [stepToken]
  | word due rest v => exact hstage.elim
  | number n => exact hstage.elim
  | string purpose done escape => exact hstage.elim

/-- Of such characters the machine takes only spaces, which change nothing. -/
theorem step_margin (hs : s.stage.IsBetween) (hc : IsMargin c) (h : step skips s c = .ok m) :
    isSpace c = true ∧ m = s := by
  rw [hs.step_eq, stepPlain_of_between hs] at h
  split at h
  · next hspace => exact ⟨hspace, (Except.ok.inj h).symm⟩
  · exact absurd h (hc.stepToken_ne_ok hs)

theorem not_walks_slash (hs : s.stage.IsBetween) {text rest : List Char}
    (htext : trimLeft text = '/' :: rest) : ¬ Walks skips s text t := by
  intro hw
  induction text with
  | nil => cases htext
  | cons c more ih =>
    obtain ⟨m, hstep, hmore⟩ := hw
    by_cases hc : isBlank c = true
    · obtain ⟨-, rfl⟩ := step_margin hs (.inl hc) hstep
      rw [trimLeft, List.dropWhile_cons_of_pos hc] at htext
      exact ih htext hmore
    · rw [trimLeft, List.dropWhile_cons_of_neg hc] at htext
      obtain rfl : c = '/' := (List.cons.inj htext).1
      have hspace := (step_margin hs (.inr rfl) hstep).1
      cases hspace

/-! ## Lines -/

theorem first_not_isComment {text : List Char} (hs : s.stage.IsBetween)
    (hw : Walks skips s text t) : isComment ((splitLines text).headD []) = false := by
  obtain ⟨rest, htext⟩ := exists_append_of_splitLines text
  generalize (splitLines text).headD [] = line at htext ⊢
  cases hcomment : isComment line with
  | false => rfl
  | true =>
    obtain ⟨more, hmore⟩ := List.isPrefixOf_iff_prefix.mp hcomment
    have hline : List.dropWhile isBlank line = '/' :: '/' :: more := hmore.symm
    have htrim : trimLeft text = '/' :: ('/' :: more ++ rest) := by
      rw [trimLeft, htext, List.dropWhile_append, hline]
      rfl
    exact absurd hw (not_walks_slash hs htrim)

/-! ## Line ends -/

section LineEnds
variable {rest : List Char}

/-- The line ends of a text that has a value stand between tokens. -/
theorem walks_feed (hs : s.stage.IsSpelled) (hw : Walks skips s ('\n' :: rest) t)
    (ht : finish skips t = .ok v) : ∃ m, EndsLine skips s m ∧ Walks skips m rest t := by
  obtain ⟨m, hstep, hrest⟩ := hw
  rcases step_lineEnd (.inl rfl) hs hstep with hlost | hends
  · exact absurd ht (not_walks_of_lost hlost hrest)
  · exact ⟨m, hends, hrest⟩

theorem walks_returnFeed (hs : s.stage.IsSpelled) (hw : Walks skips s ('\r' :: '\n' :: rest) t)
    (ht : finish skips t = .ok v) : ∃ m, EndsLine skips s m ∧ Walks skips m rest t := by
  obtain ⟨m, hstep, hrest⟩ := hw
  rcases step_lineEnd (.inr rfl) hs hstep with hlost | hends
  · exact absurd ht (not_walks_of_lost hlost hrest)
  · -- The line feed is one more space.
    obtain ⟨m', hstep', hrest⟩ := hrest
    rw [step_space hends.isBetween (by rfl)] at hstep'
    obtain rfl := Except.ok.inj hstep'
    exact ⟨m, hends, hrest⟩

end LineEnds

theorem forall_not_isComment {text : List Char} (hs : s.stage.IsBetween)
    (hw : Walks skips s text t)
    (htail : ∀ line ∈ (splitLines text).tail, isComment line = false) :
    ∀ line ∈ splitLines text, isComment line = false := by
  have hfirst := first_not_isComment hs hw
  cases hlines : splitLines text with
  | nil => exact fun line hline => absurd hline List.not_mem_nil
  | cons line lines =>
    rw [hlines] at hfirst htail
    exact List.forall_mem_cons.mpr ⟨hfirst, htail⟩

/-- No later line of a text that has a value is a comment. -/
theorem tail_not_isComment {text : List Char} (hs : s.stage.IsSpelled) (hw : Walks skips s text t)
    (ht : finish skips t = .ok v) : ∀ line ∈ (splitLines text).tail, isComment line = false := by
  induction text using lines_induction generalizing s with
  | nil => exact fun line hline => absurd hline List.not_mem_nil
  | feed rest ih =>
    obtain ⟨m, hends, hrest⟩ := walks_feed hs hw ht
    exact forall_not_isComment hends.isBetween hrest (ih hends.isBetween.isSpelled hrest)
  | returnFeed rest ih =>
    obtain ⟨m, hends, hrest⟩ := walks_returnFeed hs hw ht
    exact forall_not_isComment hends.isBetween hrest (ih hends.isBetween.isSpelled hrest)
  | char c rest hlines ih =>
    obtain ⟨m, hstep, hrest⟩ := hw
    rw [hlines]
    exact ih (step_isSpelled hs hstep) hrest

theorem not_isComment_of_walks {text : List Char} (hs : s.stage.IsBetween)
    (hw : Walks skips s text t) (ht : finish skips t = .ok v) :
    ∀ line ∈ splitLines text, isComment line = false :=
  forall_not_isComment hs hw (tail_not_isComment hs.isSpelled hw ht)

/-! ## Lines joined anew -/

theorem walks_joinWith_feed {lines : List (List Char)} (hends : EndsLine skips s m)
    (h : ∃ t, Walks skips m (joinWith '\n' lines) t ∧ finish skips t = .ok v) :
    ∃ t, Walks skips s (joinWith '\n' ([] :: lines)) t ∧ finish skips t = .ok v := by
  obtain ⟨t, hw, ht⟩ := h
  cases lines with
  | nil =>
    obtain rfl : m = t := hw
    exact ⟨s, rfl, hends.finish_eq.trans ht⟩
  | cons line lines => exact ⟨t, ⟨m, hends.step_eq '\n' (.inl rfl), hw⟩, ht⟩

theorem walks_of_joinWith_feed {lines : List (List Char)} (hs : s.stage.IsSpelled)
    (h : ∃ t, Walks skips s (joinWith '\n' ([] :: lines)) t ∧ finish skips t = .ok v) :
    ∃ m, EndsLine skips s m ∧
      ∃ t, Walks skips m (joinWith '\n' lines) t ∧ finish skips t = .ok v := by
  obtain ⟨t, hw, ht⟩ := h
  cases lines with
  | nil =>
    -- The text ends here, where a line may end as well.
    obtain rfl : s = t := hw
    obtain ⟨m, hends⟩ := finish_lineEnd ht
    exact ⟨m, hends, m, rfl, hends.finish_eq.symm.trans ht⟩
  | cons line lines =>
    obtain ⟨m, hends, hrest⟩ := walks_feed hs hw ht
    exact ⟨m, hends, t, hrest, ht⟩

theorem joinWith_splitLines_cons {rest : List Char} (hlines : splitLines (c :: rest) =
      (c :: (splitLines rest).headD []) :: (splitLines rest).tail) :
    joinWith '\n' (splitLines (c :: rest)) = c :: joinWith '\n' (splitLines rest) := by
  rw [hlines, joinWith_cons_cons]
  cases splitLines rest <;> rfl

/-- A text has a value just when it has that value with its lines joined by line feeds alone. -/
theorem walks_joinWith_iff {text : List Char} (hs : s.stage.IsSpelled) :
    (∃ t, Walks skips s (joinWith '\n' (splitLines text)) t ∧ finish skips t = .ok v) ↔
      ∃ t, Walks skips s text t ∧ finish skips t = .ok v := by
  induction text using lines_induction generalizing s with
  | nil => exact Iff.rfl
  | feed rest ih =>
    constructor
    · intro h
      obtain ⟨m, hends, h⟩ := walks_of_joinWith_feed hs h
      obtain ⟨t, hrest, ht⟩ := (ih hends.isBetween.isSpelled).mp h
      exact ⟨t, ⟨m, hends.step_eq '\n' (.inl rfl), hrest⟩, ht⟩
    · rintro ⟨t, hw, ht⟩
      obtain ⟨m, hends, hrest⟩ := walks_feed hs hw ht
      exact walks_joinWith_feed hends ((ih hends.isBetween.isSpelled).mpr ⟨t, hrest, ht⟩)
  | returnFeed rest ih =>
    constructor
    · intro h
      obtain ⟨m, hends, h⟩ := walks_of_joinWith_feed hs h
      obtain ⟨t, hrest, ht⟩ := (ih hends.isBetween.isSpelled).mp h
      -- Joined anew the line ends in one character, which the first of the two stands for.
      have hspace : step skips m '\n' = .ok m := step_space hends.isBetween rfl
      exact ⟨t, ⟨m, hends.step_eq '\r' (.inr rfl), m, hspace, hrest⟩, ht⟩
    · rintro ⟨t, hw, ht⟩
      obtain ⟨m, hends, hrest⟩ := walks_returnFeed hs hw ht
      exact walks_joinWith_feed hends ((ih hends.isBetween.isSpelled).mpr ⟨t, hrest, ht⟩)
  | char c rest hlines ih =>
    rw [joinWith_splitLines_cons hlines]
    constructor
    · rintro ⟨t, ⟨m, hstep, hrest⟩, ht⟩
      obtain ⟨t, hrest, ht⟩ := (ih (step_isSpelled hs hstep)).mp ⟨t, hrest, ht⟩
      exact ⟨t, ⟨m, hstep, hrest⟩, ht⟩
    · rintro ⟨t, ⟨m, hstep, hrest⟩, ht⟩
      obtain ⟨t, hrest, ht⟩ := (ih (step_isSpelled hs hstep)).mpr ⟨t, hrest, ht⟩
      exact ⟨t, ⟨m, hstep, hrest⟩, ht⟩

/-- Where no line is a comment, taking comments away is joining lines anew. -/
theorem read_uncomment_iff {text : List Char}
    (h : ∀ line ∈ splitLines text, isComment line = false) :
    read (uncomment text) = .ok v ↔ read text = .ok v := by
  have hspelled : State.initial.stage.IsSpelled := trivial
  rw [uncomment_of_not_isComment h]
  exact run_eq_ok.trans ((walks_joinWith_iff hspelled).trans run_eq_ok.symm)

/-- Taking comment lines away leaves a JSON text with its value. -/
theorem read_uncomment {text : List Char} (h : read text = .ok v) :
    read (uncomment text) = .ok v := by
  obtain ⟨t, hw, ht⟩ := run_eq_ok.mp h
  have hbetween : State.initial.stage.IsBetween := trivial
  exact (read_uncomment_iff (not_isComment_of_walks hbetween hw ht)).mpr h

theorem decode_eq_ok {text : List Char} :
    decode text = .ok v ↔ ∃ w, read text = .ok w ∧ w.canonical = v := by
  unfold decode
  cases read text with
  | error issue => simp [Except.map]
  | ok w => simp [Except.map]

end Json

theorem decode_result_ok {text : String} {v : Json} :
    (decode text).result = .ok v ↔ Json.decode (uncomment text.toList) = .ok v := by
  unfold decode
  cases Json.decode (uncomment text.toList) with
  | error issue =>
    constructor
    · intro h
      cases h
    · intro h
      cases h
  | ok w =>
    have hresult : (Outcome.log (.documentDecoded w) >>= fun _ => pure w).result = .ok w := rfl
    rw [hresult, Except.ok.injEq, Except.ok.injEq]

/-- A JSON text is a document, with the same value: comments only add to JSON. -/
theorem decode_of_json {text : String} {v : Json} (h : Json.decode text.toList = .ok v) :
    (decode text).result = .ok v := by
  have hcanonical : ∃ w, Json.read text.toList = .ok w ∧ w.canonical = v := by
    unfold Json.decode at h
    cases hread : Json.read text.toList with
    | error issue =>
      rw [hread] at h
      cases h
    | ok w =>
      rw [hread] at h
      exact ⟨w, rfl, Except.ok.inj h⟩
  obtain ⟨w, hread, rfl⟩ := hcanonical
  rw [decode_result_ok, Json.decode, Json.read_uncomment hread]
  rfl

/-- Lines that end in both ways, and slashes that begin no comment. -/
def slashesText : String := "\t[\"//\",\r\n\n 1]\n"

theorem decode_slashesText :
    Json.decode slashesText.toList = .ok (.list [.string "//", .int 1]) ∧
      (decode slashesText).result = .ok (.list [.string "//", .int 1]) := by
  have htext : slashesText.toList =
      ['\t', '[', '"', '/', '/', '"', ',', '\r', '\n', '\n', ' ', '1', ']', '\n'] := rfl
  have hjson : Json.decode slashesText.toList = .ok (.list [.string "//", .int 1]) := by
    rw [htext]
    rfl
  exact ⟨hjson, decode_of_json hjson⟩

end AppConfig
