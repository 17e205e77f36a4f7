import AppConfig.Json.Reader

/-! # Walks of the JSON machine

* `Walks skips s text t`: the machine takes every character of the text and gets from one state to
  the other. Where it stands in the text matters to the place of an issue alone.
* `run_eq_ok`: a text has a value when the machine walks through it to a state that may end.
* `Stage.IsBetween`: between two tokens; `Stage.IsLost`: inside an escape that no text can save;
  `Stage.IsSpelled`: no letter of the word that is being read is a space.
* `EndsLine`: a line may end here; `step_lineEnd`: where one does, or the machine is lost;
  `finish_lineEnd`: where the text may end.
-/

namespace AppConfig.Json
set_option autoImplicit false

variable {skips : Skips} {s t m : State} {c : Char} {v : Json}

/-- The machine takes the characters of the text one by one and ends in the last state. -/
def Walks (skips : Skips) : State → List Char → State → Prop
  | s, [], t => s = t
  | s, c :: rest, t => ∃ m, step skips s c = .ok m ∧ Walks skips m rest t

theorem run_eq_ok {p : Position} {text : List Char} :
    run skips s p text = .ok v ↔ ∃ t, Walks skips s text t ∧ finish skips t = .ok v := by
  induction text generalizing s p with
  | nil =>
    simp only [run, Walks]
    cases h : finish skips s with
    | error reason =>
      show (Except.error ⟨reason, p⟩ : Except Issue Json) = .ok v ↔ _
      simp [h]
    | ok w =>
      show (Except.ok w : Except Issue Json) = .ok v ↔ _
      simp [h]
  | cons c rest ih =>
    simp only [run, Walks]
    cases h : step skips s c with
    | error stop => simp
    | ok m =>
      simp only [ih, Except.ok.injEq]
      constructor
      · rintro ⟨t, hwalk, hend⟩
        exact ⟨t, ⟨m, rfl, hwalk⟩, hend⟩
      · rintro ⟨t, ⟨m, rfl, hwalk⟩, hend⟩
        exact ⟨t, hwalk, hend⟩

/-! ## Stages -/

namespace Stage

/-- Between two tokens, or after the last one. -/
def IsBetween : Stage → Prop
  | .word _ _ _ | .string _ _ _ | .number _ => False
  | _ => True

/-- Inside an escape of which some character is no hexadecimal digit. -/
def IsLost : Stage → Prop
  | .string _ _ (.hex _ _ none) => True
  | _ => False

/-- No letter of a word is a space. -/
def IsSpelled : Stage → Prop
  | .word due rest _ => ∀ c ∈ due :: rest, isSpace c = false
  | _ => True

end Stage

theorem deliver_isBetween (v : Json) (frames : List Frame) :
    (deliver v frames).stage.IsBetween := by
  cases frames with
  | nil => trivial
  | cons frame frames => cases frame <;> trivial

theorem Stage.IsBetween.isSpelled {stage : Stage} (h : stage.IsBetween) : stage.IsSpelled := by
  cases stage with
  | word due rest v => exact h.elim
  | _ => trivial

theorem closeString_isBetween (frames : List Frame) (purpose : Purpose) (done : List Char) :
    (closeString frames purpose done).stage.IsBetween := by
  cases purpose with
  | value => exact deliver_isBetween _ frames
  | key members => trivial

/-! ## Letters of words -/

theorem openAs_isSpelled {frames : List Frame} {stage : Stage} (hstage : stage.IsSpelled)
    (h : openAs skips frames stage = .ok m) : m.stage.IsSpelled := by
  unfold openAs at h
  split at h
  · obtain rfl := Except.ok.inj h
    exact hstage
  · cases h

theorem beginValue_isSpelled {frames : List Frame} (h : beginValue skips frames c = .ok m) :
    m.stage.IsSpelled := by
  unfold beginValue at h
  split at h
  case h_1 | h_2 => exact openAs_isSpelled (by trivial) h
  case h_4 | h_5 | h_6 =>
    obtain rfl := Except.ok.inj h
    simp [Stage.IsSpelled, isSpace]
  case h_3 | h_7 =>
    obtain rfl := Except.ok.inj h
    trivial
  case h_8 =>
    split at h
    · obtain rfl := Except.ok.inj h
      trivial
    · obtain rfl := Except.ok.inj h
      trivial
    · cases h

theorem stepString_cases {frames : List Frame} {purpose : Purpose} {done : List Char}
    {escape : Escape} (h : stepString skips frames purpose done escape c = .ok m) :
    m = closeString frames purpose done ∨
      ∃ done' escape', m = ⟨frames, .string purpose done' escape'⟩ := by
  cases escape with
  | none =>
    simp only [stepString] at h
    split at h
    · exact .inl (Except.ok.inj h).symm
    · split at h
      · exact .inr ⟨_, _, (Except.ok.inj h).symm⟩
      · split at h
        · cases h
        · exact .inr ⟨_, _, (Except.ok.inj h).symm⟩
  | backslash =>
    simp only [stepString] at h
    split at h
    · exact .inr ⟨_, _, (Except.ok.inj h).symm⟩
    · split at h
      · exact .inr ⟨_, _, (Except.ok.inj h).symm⟩
      · cases h
  | hex high count code =>
    simp only [stepString] at h
    split at h
    · exact .inr ⟨_, _, (Except.ok.inj h).symm⟩
    · split at h
      · cases h
      · split at h
        · exact .inr ⟨_, _, (Except.ok.inj h).symm⟩
        · exact .inr ⟨_, _, (Except.ok.inj h).symm⟩
        · cases h
  | high code | highBackslash code =>
    simp only [stepString] at h
    split at h
    · exact .inr ⟨_, _, (Except.ok.inj h).symm⟩
    · cases h

theorem stepToken_isSpelled {frames : List Frame} {stage : Stage} (hstage : stage.IsSpelled)
    (h : stepToken skips frames stage c = .ok m) : m.stage.IsSpelled := by
  cases stage with
  | value => exact beginValue_isSpelled h
  | itemDue done =>
    simp only [stepToken] at h
    split at h
    · cases h
    · exact beginValue_isSpelled h
  | items done fresh =>
    simp only [stepToken] at h
    split at h
    · obtain rfl := Except.ok.inj h
      exact (deliver_isBetween _ frames).isSpelled
    · split at h
      · exact beginValue_isSpelled h
      · split at h
        · obtain rfl := Except.ok.inj h
          trivial
        · cases h
  | members done fresh =>
    simp only [stepToken] at h
    split at h
    · obtain rfl := Except.ok.inj h
      exact (deliver_isBetween _ frames).isSpelled
    · split at h
      · split at h
        · obtain rfl := Except.ok.inj h
          trivial
        · cases h
      · split at h
        · obtain rfl := Except.ok.inj h
          trivial
        · cases h
  | key done =>
    simp only [stepToken] at h
    split at h
    · cases h
    · split at h
      · obtain rfl := Except.ok.inj h
        trivial
      · cases h
  | colon done key =>
    simp only [stepToken] at h
    split at h
    · obtain rfl := Except.ok.inj h
      trivial
    · cases h
  | complete v => cases h
  | word due rest v =>
    simp only [stepToken] at h
    split at h
    · cases h
    · cases rest with
      | nil =>
        obtain rfl := Except.ok.inj h
        exact (deliver_isBetween v frames).isSpelled
      | cons next rest =>
        obtain rfl := Except.ok.inj h
        exact fun c hc => hstage c (List.mem_cons_of_mem due hc)
  | string purpose done escape =>
    rcases stepString_cases h with rfl | ⟨done', escape', rfl⟩
    · exact (closeString_isBetween frames purpose done).isSpelled
    · trivial
  | number n => cases h

theorem stepPlain_isSpelled (hs : s.stage.IsSpelled) (h : stepPlain skips s c = .ok m) :
    m.stage.IsSpelled := by
  unfold stepPlain at h
  split at h
  · exact stepToken_isSpelled hs h
  · exact stepToken_isSpelled hs h
  · split at h
    · obtain rfl := Except.ok.inj h
      exact hs
    · exact stepToken_isSpelled hs h

theorem step_isSpelled (hs : s.stage.IsSpelled) (h : step skips s c = .ok m) :
    m.stage.IsSpelled := by
  unfold step at h
  split at h
  · split at h
    · cases h
    · obtain rfl := Except.ok.inj h
      trivial
    · split at h
      · cases h
      · exact stepPlain_isSpelled (deliver_isBetween _ s.frames).isSpelled h
  · exact stepPlain_isSpelled hs h

/-! ## Spaces -/

theorem Stage.IsBetween.step_eq (hs : s.stage.IsBetween) :
    step skips s c = stepPlain skips s c := by
  unfold step
  split
  · next hstage =>
    rw [hstage] at hs
    exact hs.elim
  · rfl

theorem stepPlain_of_between (hs : s.stage.IsBetween) :
    stepPlain skips s c = if isSpace c then .ok s else stepToken skips s.frames s.stage c := by
  unfold stepPlain
  split
  · next hstage =>
    rw [hstage] at hs
    exact hs.elim
  · next hstage =>
    rw [hstage] at hs
    exact hs.elim
  · rfl

theorem step_space (hs : s.stage.IsBetween) (hc : isSpace c = true) : step skips s c = .ok s := by
  rw [hs.step_eq, stepPlain_of_between hs, if_pos hc]

theorem finish_of_between (hs : s.stage.IsBetween) : finish skips s = finishPlain s := by
  unfold finish
  split
  · next hstage =>
    rw [hstage] at hs
    exact hs.elim
  · rfl

/-! ## Ends of lines -/

theorem isSpace_lineEnd (hc : c = '\n' ∨ c = '\r') : isSpace c = true := by
  rcases hc with rfl | rfl <;> rfl

/-- A line may end in the first state: either character of its end is a space, and leads to the
second one. -/
structure EndsLine (skips : Skips) (s m : State) : Prop where
  isBetween : m.stage.IsBetween
  step_eq : ∀ c, c = '\n' ∨ c = '\r' → step skips s c = .ok m
  finish_eq : finish skips s = finish skips m

theorem Stage.IsBetween.endsLine (hs : s.stage.IsBetween) : EndsLine skips s s where
  isBetween := hs
  step_eq _ hc := step_space hs (isSpace_lineEnd hc)
  finish_eq := rfl

/-- A line cannot end inside a string, unless the machine does not see it yet. -/
theorem stepString_lineEnd {frames : List Frame} {purpose : Purpose} {done : List Char}
    {escape : Escape} (hc : c = '\n' ∨ c = '\r')
    (h : stepString skips frames purpose done escape c = .ok m) : m.stage.IsLost := by
  have hhex : Number.hexValue? c = none := by
    rcases hc with rfl | rfl <;> rfl
  have hescaped : escapedChar c = none := by
    rcases hc with rfl | rfl <;> rfl
  have hmarks : c ≠ '"' ∧ c ≠ '\\' ∧ c ≠ 'u' ∧ c.toNat < 0x20 := by
    rcases hc with rfl | rfl <;> decide
  cases escape with
  | none => simp [stepString, hmarks] at h
  | backslash => simp [stepString, hmarks, hescaped] at h
  | high code => simp [stepString, hmarks] at h
  | highBackslash code => simp [stepString, hmarks] at h
  | hex high count code =>
    have hcode : (do return (← code) * 16 + (← Number.hexValue? c) : Option Nat) = none := by
      cases code <;> simp [hhex]
    simp only [stepString, hcode] at h
    split at h
    · obtain rfl := Except.ok.inj h
      trivial
    · cases h

theorem Numeral.next_lineEnd {skipped : Bool} (n n' : Numeral) (hc : c = '\n' ∨ c = '\r') :
    n.next skipped c ≠ .ok (some n') := by
  have hdigit : Number.digit? c = none := by
    rcases hc with rfl | rfl <;> rfl
  have hmarks : c ≠ '.' ∧ c ≠ 'e' ∧ c ≠ 'E' ∧ c ≠ '+' ∧ c ≠ '-' := by
    rcases hc with rfl | rfl <;> decide
  cases n <;> simp [Numeral.next, hdigit, hmarks]

/-- A number that may end ends with its line. -/
theorem Numeral.next_of_close {skipped : Bool} (n : Numeral) (hc : c = '\n' ∨ c = '\r')
    (h : n.close skipped = .ok v) : n.next skipped c = .ok none := by
  have hdigit : Number.digit? c = none := by
    rcases hc with rfl | rfl <;> rfl
  have hmarks : c ≠ '.' ∧ c ≠ 'e' ∧ c ≠ 'E' := by
    rcases hc with rfl | rfl <;> decide
  cases n with
  | minus | point _ | mark _ | signed _ _ => cases h
  | _ => simp [Numeral.next, hdigit, hmarks]

theorem endsLine_number {frames : List Frame} {n : Numeral}
    (hclose : n.close (skips frames) = .ok v) :
    EndsLine skips ⟨frames, .number n⟩ (deliver v frames) where
  isBetween := deliver_isBetween v frames
  step_eq c hc := by
    simp only [step, n.next_of_close hc hclose, hclose]
    rw [stepPlain_of_between (deliver_isBetween v frames), if_pos (isSpace_lineEnd hc)]
  finish_eq := by
    rw [finish_of_between (deliver_isBetween v frames)]
    simp only [finish, hclose]

theorem step_number_lineEnd {frames : List Frame} {n : Numeral} (hc : c = '\n' ∨ c = '\r')
    (h : step skips ⟨frames, .number n⟩ c = .ok m) : EndsLine skips ⟨frames, .number n⟩ m := by
  have hstep := h
  simp only [step] at hstep
  split at hstep
  · cases hstep
  · next n' hn => exact absurd hn (n.next_lineEnd n' hc)
  · split at hstep
    · cases hstep
    · next v hclose =>
      have hends := endsLine_number hclose
      rw [hends.step_eq c hc] at h
      obtain rfl := Except.ok.inj h
      exact hends

/-- Where a line ends the machine is between tokens, or it is lost. -/
theorem step_lineEnd (hc : c = '\n' ∨ c = '\r') (hs : s.stage.IsSpelled)
    (h : step skips s c = .ok m) : m.stage.IsLost ∨ EndsLine skips s m := by
  have hbetween : s.stage.IsBetween → EndsLine skips s m := by
    intro hb
    rw [step_space hb (isSpace_lineEnd hc)] at h
    obtain rfl := Except.ok.inj h
    exact hb.endsLine
  obtain ⟨frames, stage⟩ := s
  cases stage with
  | word due rest v =>
    have hdue : c ≠ due := by
      rintro rfl
      have hspace := isSpace_lineEnd hc
      rw [hs c List.mem_cons_self] at hspace
      cases hspace
    simp [step, stepPlain, stepToken, hdue] at h
  | string purpose done escape => exact .inl (stepString_lineEnd hc h)
  | number n => exact .inr (step_number_lineEnd hc h)
  | _ => exact .inr (hbetween trivial)

/-- Where a text may end a line may end as well. -/
theorem finish_lineEnd (h : finish skips s = .ok v) : ∃ m, EndsLine skips s m := by
  obtain ⟨frames, stage⟩ := s
  cases stage with
  | number n =>
    cases hclose : n.close (skips frames) with
    | error reason => simp [finish, hclose] at h
    | ok w => exact ⟨_, endsLine_number hclose⟩
  | complete w => exact ⟨⟨frames, .complete w⟩, Stage.IsBetween.endsLine trivial⟩
  | _ => simp [finish, finishPlain] at h

/-! ## Lost machines -/

theorem step_lost (hs : s.stage.IsLost) (h : step skips s c = .ok m) : m.stage.IsLost := by
  obtain ⟨frames, stage⟩ := s
  match stage, hs with
  | .string purpose done (.hex high count none), _ =>
    simp only [step, stepPlain, stepToken, stepString] at h
    split at h
    · obtain rfl := Except.ok.inj h
      trivial
    · cases h

theorem finish_lost (hs : s.stage.IsLost) : finish skips s ≠ .ok v := by
  obtain ⟨frames, stage⟩ := s
  match stage, hs with
  | .string purpose done (.hex high count none), _ =>
    simp [finish, finishPlain]

/-- No text leads a lost machine to a value. -/
theorem not_walks_of_lost {text : List Char} (hs : s.stage.IsLost) (hw : Walks skips s text t) :
    finish skips t ≠ .ok v := by
  induction text generalizing s with
  | nil =>
    obtain rfl : s = t := hw
    exact finish_lost hs
  | cons c rest ih =>
    obtain ⟨m, hstep, hrest⟩ := hw
    exact ih (step_lost hs hstep) hrest

end AppConfig.Json
