import Mathlib.Tactic.IntervalCases
import AppConfig.Json.Printer
import AppConfig.Proofs.Json.Walks

/-! # What is written is read

The machine is followed through the text of a value, from where the value is due to where it has
been delivered. Only an integer does not end with its own last character.

* `Writable n v`: no double is in the value, words hold its integers, and at most `n` containers
  stand one inside the other.
* `Settles skips s m`: whatever may follow a value, the machine goes on from the first state as from
  the second; `Delivers skips s text m`: a text leads to a state that settles in the last one.
* `Kept skips frames`: nothing inside the frames is skipped.
* `delivers_writeAt`, `walks_writeItems`, `walks_writeMembers`: the texts of values, and of what
  comes behind the first part of a list or an object.
* `read_write`: the text of a value is read as the value, in either layout; `readMembers_write`: so
  is an object by a reader that asks for its one member.
-/

namespace AppConfig.Json
set_option autoImplicit false

/-- No double is in the value, words hold its integers, and it has so many levels at most. -/
inductive Writable : Nat → Json → Prop
  | null (n : Nat) : Writable n .null
  | bool (n : Nat) (b : Bool) : Writable n (.bool b)
  | int (n : Nat) {i : Int} (word : IsSigned64 i ∨ IsUnsigned64 i) : Writable n (.int i)
  | string (n : Nat) (s : String) : Writable n (.string s)
  | list {n : Nat} {items : List Json} (items_are : ∀ v ∈ items, Writable n v) :
    Writable (n + 1) (.list items)
  | object {n : Nat} {o : Members} (values_are : ∀ m ∈ o, Writable n m.2) :
    Writable (n + 1) (.object o)

variable {skips : Skips} {s t m : State} {c : Char} {v : Json} {frames : List Frame}
  {text rest : List Char} {layout : Layout}

/-! ## Walks in a row -/

theorem Walks.step_then (h : step skips s c = .ok m) (hrest : Walks skips m rest t) :
    Walks skips s (c :: rest) t := ⟨m, h, hrest⟩

theorem Walks.single (h : step skips s c = .ok m) : Walks skips s [c] m := ⟨m, h, rfl⟩

theorem Walks.append (h : Walks skips s text m) (hrest : Walks skips m rest t) :
    Walks skips s (text ++ rest) t := by
  induction text generalizing s with
  | nil =>
    have hs : s = m := h
    rw [hs]
    exact hrest
  | cons c text ih =>
    obtain ⟨next, hstep, hwalk⟩ := h
    exact .step_then hstep (ih hwalk)

theorem walks_spaces (hs : s.stage.IsBetween) (htext : ∀ c ∈ text, isSpace c = true) :
    Walks skips s text s := by
  induction text with
  | nil => rfl
  | cons c text ih =>
    have hfirst : step skips s c = .ok s := step_space hs (htext c List.mem_cons_self)
    exact .step_then hfirst (ih fun d hd => htext d (List.mem_cons_of_mem c hd))

theorem walks_lineBreak (skips : Skips) (layout : Layout) (level : Nat) (hs : s.stage.IsBetween) :
    Walks skips s (lineBreak layout level) s := by
  apply walks_spaces hs
  intro c hc
  cases layout with
  | compact => cases hc
  | pretty =>
    rcases List.mem_cons.mp hc with hc | hc
    · rw [hc]
      rfl
    · rw [List.eq_of_mem_replicate hc]
      rfl

/-! ## Ends of values -/

/-- A character that may come behind a written value. -/
def EndsValue (c : Char) : Prop := c ∈ [',', ']', '\x7d', '\n']

/-- Whatever may come behind a value, the machine goes on from the first state as from the
second. -/
structure Settles (skips : Skips) (s m : State) : Prop where
  step_eq : ∀ c, EndsValue c → step skips s c = step skips m c
  finish_eq : finish skips s = finish skips m

theorem Settles.refl (s : State) : Settles skips s s := ⟨fun _ _ => rfl, rfl⟩

/-- The text leads to a state that settles in the last one. -/
def Delivers (skips : Skips) (s : State) (text : List Char) (m : State) : Prop :=
  ∃ t, Walks skips s text t ∧ Settles skips t m

theorem Walks.delivers (h : Walks skips s text m) : Delivers skips s text m := ⟨m, h, .refl m⟩

theorem Walks.append_delivers (h : Walks skips s text m) (hrest : Delivers skips m rest t) :
    Delivers skips s (text ++ rest) t := by
  obtain ⟨u, hwalk, hsettles⟩ := hrest
  exact ⟨u, h.append hwalk, hsettles⟩

/-- What comes behind a value begins with a character that may come there. -/
theorem Delivers.append (h : Delivers skips s text m) (hrest : Walks skips m rest t)
    (hends : ∃ c more, rest = c :: more ∧ EndsValue c) : Walks skips s (text ++ rest) t := by
  obtain ⟨u, hwalk, hsettles⟩ := h
  obtain ⟨c, more, rfl, hc⟩ := hends
  obtain ⟨next, hstep, hmore⟩ := hrest
  have hfirst : step skips u c = .ok next := (hsettles.step_eq c hc).trans hstep
  exact hwalk.append (.step_then hfirst hmore)

/-! ## Words -/

theorem walks_word (due : Char) (letters : List Char) :
    Walks skips ⟨frames, .word due letters v⟩ (due :: letters) (deliver v frames) := by
  induction letters generalizing due with
  | nil =>
    have hlast : step skips ⟨frames, .word due [] v⟩ due = .ok (deliver v frames) := by
      simp [step, stepPlain, stepToken]
    exact .single hlast
  | cons next letters ih =>
    have hfirst : step skips ⟨frames, .word due (next :: letters) v⟩ due =
        .ok ⟨frames, .word next letters v⟩ := by
      simp [step, stepPlain, stepToken]
    exact .step_then hfirst (ih next)

/-! ## Strings -/

section Strings
variable {purpose : Purpose} {done : List Char}

theorem hexValue?_hexDigit :
    ∀ d < 16, Number.hexValue? (hexDigit d) = some d ∧ (hexDigit d).utf8Size = 1 := by
  decide

theorem walks_hexDigit {high : Option Nat} {count code d : Nat} (hd : d < 16)
    (hcount : count + 1 < 4) :
    Walks skips ⟨frames, .string purpose done (.hex high count (some code))⟩ [hexDigit d]
      ⟨frames, .string purpose done (.hex high (count + 1) (some (code * 16 + d)))⟩ := by
  obtain ⟨hvalue, hsize⟩ := hexValue?_hexDigit d hd
  apply Walks.single
  simp [step, stepPlain, stepToken, stepString, hvalue, hsize, hcount]

/-- The last of four hexadecimal digits, of a character that is no surrogate. -/
theorem walks_lastHexDigit {code d : Nat} (hkept : skips frames = false) (hd : d < 16)
    (hcode : code * 16 + d < 0xD800) :
    Walks skips ⟨frames, .string purpose done (.hex none 3 (some code))⟩ [hexDigit d]
      ⟨frames, .string purpose (Char.ofNat (code * 16 + d) :: done) .none⟩ := by
  obtain ⟨hvalue, hsize⟩ := hexValue?_hexDigit d hd
  have hlow : ¬ 0xDC00 ≤ code * 16 + d := by omega
  have hhigh : ¬ 0xD800 ≤ code * 16 + d := by omega
  apply Walks.single
  simp [step, stepPlain, stepToken, stepString, hvalue, hsize, closeHex, hkept, hlow, hhigh]

/-- A control character that has no short escape is written by its number. -/
theorem walks_numbered (hkept : skips frames = false) (hc : c.toNat < 0x20) :
    Walks skips ⟨frames, .string purpose done .none⟩
      ['\\', 'u', '0', '0', hexDigit (c.toNat / 16), hexDigit (c.toNat % 16)]
      ⟨frames, .string purpose (c :: done) .none⟩ := by
  have hopen : Walks skips ⟨frames, .string purpose done .none⟩ ['\\', 'u', '0', '0']
      ⟨frames, .string purpose done (.hex none 2 (some 0))⟩ :=
    ⟨_, rfl, _, rfl, _, rfl, _, rfl, rfl⟩
  have hthird : Walks skips ⟨frames, .string purpose done (.hex none 2 (some 0))⟩
      [hexDigit (c.toNat / 16)]
      ⟨frames, .string purpose done (.hex none 3 (some (0 * 16 + c.toNat / 16)))⟩ :=
    walks_hexDigit (by omega) (by omega)
  have hlast : Walks skips
      ⟨frames, .string purpose done (.hex none 3 (some (0 * 16 + c.toNat / 16)))⟩
      [hexDigit (c.toNat % 16)]
      ⟨frames, .string purpose
        (Char.ofNat ((0 * 16 + c.toNat / 16) * 16 + c.toNat % 16) :: done) .none⟩ :=
    walks_lastHexDigit hkept (by omega) (by omega)
  have hcode : (0 * 16 + c.toNat / 16) * 16 + c.toNat % 16 = c.toNat := by omega
  rw [hcode, Char.ofNat_toNat] at hlast
  exact (hopen.append hthird).append hlast

/-- A character is written by a short escape, by its number, or as it is. -/
theorem escapeChar_cases (c : Char) :
    (∃ letter, letter ≠ 'u' ∧ escapedChar letter = some c ∧ escapeChar c = ['\\', letter]) ∨
    (c.toNat < 0x20 ∧ escapeChar c =
      ['\\', 'u', '0', '0', hexDigit (c.toNat / 16), hexDigit (c.toNat % 16)]) ∨
    (c ≠ '"' ∧ c ≠ '\\' ∧ ¬ c.toNat < 0x20 ∧ escapeChar c = [c]) := by
  by_cases hshort : c ∈ ['"', '\\', '\x08', '\x0c', '\n', '\r', '\t']
  · left
    simp only [List.mem_cons, List.not_mem_nil, or_false] at hshort
    rcases hshort with rfl | rfl | rfl | rfl | rfl | rfl | rfl
    · exact ⟨'"', by decide, rfl, rfl⟩
    · exact ⟨'\\', by decide, rfl, rfl⟩
    · exact ⟨'b', by decide, rfl, rfl⟩
    · exact ⟨'f', by decide, rfl, rfl⟩
    · exact ⟨'n', by decide, rfl, rfl⟩
    · exact ⟨'r', by decide, rfl, rfl⟩
    · exact ⟨'t', by decide, rfl, rfl⟩
  · simp only [List.mem_cons, List.not_mem_nil, or_false, not_or] at hshort
    by_cases hcontrol : c.toNat < 0x20
    · exact .inr (.inl ⟨hcontrol, by simp [escapeChar, hshort, hcontrol]⟩)
    · exact .inr (.inr ⟨hshort.1, hshort.2.1, hcontrol, by simp [escapeChar, hshort, hcontrol]⟩)

theorem walks_escapeChar (hkept : skips frames = false) (c : Char) :
    Walks skips ⟨frames, .string purpose done .none⟩ (escapeChar c)
      ⟨frames, .string purpose (c :: done) .none⟩ := by
  rcases escapeChar_cases c with ⟨letter, hletter, hescaped, htext⟩ | ⟨hcontrol, htext⟩ |
    ⟨hquote, hslash, hlarge, htext⟩
  · rw [htext]
    refine .step_then (m := ⟨frames, .string purpose done .backslash⟩) rfl (.single ?_)
    simp [step, stepPlain, stepToken, stepString, hletter, hescaped]
  · rw [htext]
    exact walks_numbered hkept hcontrol
  · rw [htext]
    apply Walks.single
    simp [step, stepPlain, stepToken, stepString, hquote, hslash, hlarge]

theorem walks_escaped (purpose : Purpose) (hkept : skips frames = false) (chars done : List Char) :
    Walks skips ⟨frames, .string purpose done .none⟩ (chars.flatMap escapeChar)
      ⟨frames, .string purpose (chars.reverse ++ done) .none⟩ := by
  induction chars generalizing done with
  | nil => rfl
  | cons c chars ih =>
    have hrest := ih (c :: done)
    rw [List.flatMap_cons, List.reverse_cons, List.append_assoc, List.singleton_append]
    exact (walks_escapeChar hkept c).append hrest

/-- A string literal, from the state behind its first quote. -/
theorem walks_string (purpose : Purpose) (hkept : skips frames = false) (s : String) :
    Walks skips ⟨frames, .string purpose [] .none⟩ (s.toList.flatMap escapeChar ++ ['"'])
      (closeString frames purpose s.toList.reverse) := by
  have hchars := walks_escaped purpose hkept s.toList []
  rw [List.append_nil] at hchars
  exact hchars.append (.single rfl)

end Strings

/-! ## Integers -/

theorem digit?_digitChar :
    ∀ d < 10, Number.digit? (Nat.digitChar d) = some d := by
  decide

/-- The digits of a positive number, from a state in which one is due. -/
theorem walks_digits {negative : Bool} {n : Nat} (hpos : 0 < n) (hn : n < significandLimit)
    (hfirst : ∀ d, 0 < d → d < 10 →
      step skips s (Nat.digitChar d) = .ok ⟨frames, .number (.whole ⟨negative, d, 0, false⟩)⟩) :
    Walks skips s (Nat.toDigits 10 n) ⟨frames, .number (.whole ⟨negative, n, 0, false⟩)⟩ := by
  induction n using Nat.strongRecOn with | ind n ih =>
  by_cases hsmall : n < 10
  · rw [Nat.toDigits_of_lt_base hsmall]
    exact .single (hfirst n hpos hsmall)
  · have hbefore := ih (n / 10) (by omega) (by omega) (by omega)
    have hdigit := digit?_digitChar (n % 10) (by omega)
    have hvalue : n / 10 * 10 + n % 10 = n := by omega
    have hroom : ¬ significandLimit ≤ n := by omega
    have hlast : step skips ⟨frames, .number (.whole ⟨negative, n / 10, 0, false⟩)⟩
        (Nat.digitChar (n % 10)) = .ok ⟨frames, .number (.whole ⟨negative, n, 0, false⟩)⟩ := by
      simp [step, Numeral.next, hdigit, Digits.pushWhole, hvalue, hroom]
    rw [Nat.toDigits_of_base_le (by decide) (by omega)]
    exact hbefore.append (.single hlast)

/-- A number that may end ends with whatever comes behind a value. -/
theorem settles_number {n : Numeral} (hclose : n.close (skips frames) = .ok v)
    (hnext : ∀ c, EndsValue c → n.next (skips frames) c = .ok none) :
    Settles skips ⟨frames, .number n⟩ (deliver v frames) where
  step_eq c hc := by
    rw [(deliver_isBetween v frames).step_eq]
    simp only [step, hnext c hc, hclose]
  finish_eq := by
    rw [finish_of_between (deliver_isBetween v frames)]
    simp only [finish, hclose]

theorem EndsValue.ne_parts (hc : EndsValue c) :
    Number.digit? c = none ∧ c ≠ '.' ∧ c ≠ 'e' ∧ c ≠ 'E' := by
  simp only [EndsValue, List.mem_cons, List.not_mem_nil, or_false] at hc
  rcases hc with rfl | rfl | rfl | rfl
  all_goals exact ⟨rfl, by decide, by decide, by decide⟩

theorem settles_whole {digits : Digits} (hvalue : digits.toWhole = .ok v) :
    Settles skips ⟨frames, .number (.whole digits)⟩ (deliver v frames) := by
  apply settles_number
  · simp only [Numeral.close, Numeral.value, hvalue]
  · intro c hc
    obtain ⟨hdigit, hpoint, hlower, hupper⟩ := hc.ne_parts
    simp [Numeral.next, hdigit, hpoint, hlower, hupper]

theorem settles_zero :
    Settles skips ⟨frames, .number (.zero false)⟩ (deliver (.int 0) frames) := by
  apply settles_number
  · rfl
  · intro c hc
    obtain ⟨hdigit, hpoint, hlower, hupper⟩ := hc.ne_parts
    simp [Numeral.next, hdigit, hpoint, hlower, hupper]

/-! ## Where a value is due -/

/-- A value is due inside the frames: a character that is no space begins one, unless it ends a
list. -/
structure Awaits (skips : Skips) (s : State) (frames : List Frame) : Prop where
  isBetween : s.stage.IsBetween
  step_eq : ∀ c, isSpace c = false → c ≠ ']' → step skips s c = beginValue skips frames c

theorem awaits_of_stage {stage : Stage} {inner : List Frame} (hstage : stage.IsBetween)
    (h : ∀ c, c ≠ ']' → stepToken skips frames stage c = beginValue skips inner c) :
    Awaits skips ⟨frames, stage⟩ inner where
  isBetween := hstage
  step_eq c hspace hc := by
    rw [hstage.step_eq, stepPlain_of_between hstage, hspace]
    exact h c hc

theorem awaits_value : Awaits skips ⟨frames, .value⟩ frames :=
  awaits_of_stage trivial fun _ _ => rfl

theorem awaits_firstItem {done : List Json} :
    Awaits skips ⟨frames, .items done true⟩ (.item done :: frames) :=
  awaits_of_stage trivial fun c hc => by simp [stepToken, hc]

theorem awaits_itemDue {done : List Json} :
    Awaits skips ⟨frames, .itemDue done⟩ (.item done :: frames) :=
  awaits_of_stage trivial fun c hc => by simp [stepToken, hc]

theorem Awaits.begins (h : Awaits skips s frames) (hspace : isSpace c = false) (hc : c ≠ ']')
    (hbegin : beginValue skips frames c = .ok m) (hrest : Walks skips m rest t) :
    Walks skips s (c :: rest) t :=
  .step_then ((h.step_eq c hspace hc).trans hbegin) hrest

theorem Awaits.step_digit (h : Awaits skips s frames) (d : Nat) (hpos : 0 < d) (hd : d < 10) :
    step skips s (Nat.digitChar d) = .ok ⟨frames, .number (.whole ⟨false, d, 0, false⟩)⟩ := by
  have hdigits : ∀ d < 10, 0 < d → isSpace (Nat.digitChar d) = false ∧ Nat.digitChar d ≠ ']' ∧
      beginValue skips frames (Nat.digitChar d) =
        .ok ⟨frames, .number (.whole ⟨false, d, 0, false⟩)⟩ := by
    intro d hd hpos
    interval_cases d <;> exact ⟨rfl, by decide, rfl⟩
  obtain ⟨hspace, hbracket, hbegin⟩ := hdigits d hd hpos
  exact (h.step_eq _ hspace hbracket).trans hbegin

theorem Awaits.delivers_natural (h : Awaits skips s frames) {n : Nat} (hn : IsUnsigned64 n) :
    Delivers skips s (Nat.toDigits 10 n) (deliver (.int n) frames) := by
  by_cases hzero : n = 0
  · subst hzero
    have hwalk : Walks skips s ['0'] ⟨frames, .number (.zero false)⟩ :=
      h.begins rfl (by decide) rfl rfl
    exact ⟨_, hwalk, settles_zero⟩
  · have hlimit : n < significandLimit := by
      have hword := hn.2
      simp only [significandLimit, UInt64.size]
      omega
    exact ⟨_, walks_digits (by omega) hlimit h.step_digit, settles_whole rfl⟩

theorem Awaits.delivers_negative (h : Awaits skips s frames) {k : Nat}
    (hk : IsSigned64 (Int.negSucc k)) :
    Delivers skips s ('-' :: Nat.toDigits 10 (k + 1)) (deliver (.int (Int.negSucc k)) frames) := by
  have hlimit : k + 1 < significandLimit := by
    have hword := hk.1
    simp only [significandLimit, UInt64.size]
    omega
  have hfirst : ∀ d, 0 < d → d < 10 → step skips ⟨frames, .number .minus⟩ (Nat.digitChar d) =
      .ok ⟨frames, .number (.whole ⟨true, d, 0, false⟩)⟩ := by
    intro d hpos hd
    interval_cases d <;> rfl
  have hvalue : Digits.toWhole ⟨true, k + 1, 0, false⟩ = .ok (.int (Int.negSucc k)) := by
    have hint : -((k : Int) + 1) = Int.negSucc k := by omega
    simp [Digits.toWhole, hint, hk]
  have hwalk : Walks skips s ('-' :: Nat.toDigits 10 (k + 1))
      ⟨frames, .number (.whole ⟨true, k + 1, 0, false⟩)⟩ :=
    h.begins rfl (by decide) rfl (walks_digits (by omega) hlimit hfirst)
  exact ⟨_, hwalk, settles_whole hvalue⟩

theorem Awaits.delivers_int (h : Awaits skips s frames) {i : Int}
    (hi : IsSigned64 i ∨ IsUnsigned64 i) :
    Delivers skips s (writeInt i) (deliver (.int i) frames) := by
  cases i with
  | ofNat n =>
    apply h.delivers_natural
    rcases hi with hi | hi
    · have hhigh : (n : Int) < 9223372036854775808 := hi.2
      constructor <;> omega
    · exact hi
  | negSucc k =>
    apply h.delivers_negative
    rcases hi with hi | hi
    · exact hi
    · have hlow := hi.1
      omega

/-! ## Containers -/

/-- Nothing inside the frames is skipped. -/
def Kept (skips : Skips) (frames : List Frame) : Prop :=
  ∀ more : List Frame, skips (more ++ frames) = false

theorem Kept.self (h : Kept skips frames) : skips frames = false := h []

theorem Kept.inside (h : Kept skips frames) (frame : Frame) : Kept skips (frame :: frames) := by
  intro more
  have hmore := h (more ++ [frame])
  rwa [List.append_assoc] at hmore

theorem kept_skipNone (frames : List Frame) : Kept skipNone frames := fun _ => rfl

theorem beginValue_list (skips : Skips) (h : frames.length < depthLimit) :
    beginValue skips frames '[' = .ok ⟨frames, .items [] true⟩ := by
  simp [beginValue, openAs, h]

theorem beginValue_object (skips : Skips) (h : frames.length < depthLimit) :
    beginValue skips frames '\x7b' = .ok ⟨frames, .members [] true⟩ := by
  simp [beginValue, openAs, h]

theorem exists_lineBreak_cons {closer : Char} (hcloser : EndsValue closer) (level : Nat) :
    ∃ c more, lineBreak layout level ++ [closer] = c :: more ∧ EndsValue c := by
  cases layout with
  | pretty => exact ⟨'\n', _, rfl, by simp [EndsValue]⟩
  | compact => exact ⟨closer, [], rfl, hcloser⟩

theorem exists_writeItems_cons (level : Nat) (items : List Json) :
    ∃ c more, writeItems layout level items = c :: more ∧ EndsValue c := by
  cases items with
  | nil =>
    rw [writeItems]
    exact exists_lineBreak_cons (by simp [EndsValue]) level
  | cons v rest =>
    rw [writeItems]
    exact ⟨',', _, rfl, by simp [EndsValue]⟩

theorem exists_writeMembers_cons (level : Nat) (o : Members) :
    ∃ c more, writeMembers layout level o = c :: more ∧ EndsValue c := by
  cases o with
  | nil =>
    rw [writeMembers]
    exact exists_lineBreak_cons (by simp [EndsValue]) level
  | cons m rest =>
    rw [writeMembers]
    exact ⟨',', _, rfl, by simp [EndsValue]⟩

/-- A member, from a state in which a quote begins a key. -/
theorem delivers_member (layout : Layout) {done : Members} {key : String} (hkept : skips frames = false)
    (hs : step skips s '"' = .ok ⟨frames, .string (.key done) [] .none⟩)
    (hvalue : Delivers skips ⟨.member done key :: frames, .value⟩ text m) :
    Delivers skips s (writeString key ++ colon layout ++ text) m := by
  have hkey : Walks skips s (writeString key) ⟨frames, .colon done key⟩ := by
    have hchars := walks_string (.key done) hkept key
    rw [closeString, List.reverse_reverse, String.ofList_toList] at hchars
    exact .step_then hs hchars
  have hcolon : Walks skips ⟨frames, .colon done key⟩ (colon layout)
      ⟨.member done key :: frames, .value⟩ := by
    cases layout with
    | pretty => exact ⟨_, rfl, _, rfl, rfl⟩
    | compact => exact ⟨_, rfl, rfl⟩
  exact (hkey.append hcolon).append_delivers hvalue

section Parts
variable {level : Nat}

/-- An item on a line of its own, and then the rest of the list. -/
theorem walks_item {done items : List Json} (hs : Awaits skips s (.item done :: frames))
    (hitem : Delivers skips s text (deliver v (.item done :: frames)))
    (hrest : Walks skips ⟨frames, .items (v :: done) false⟩ (writeItems layout level items) t) :
    Walks skips s (lineBreak layout (level + 1) ++ text ++ writeItems layout level items) t := by
  have hbreak := walks_lineBreak skips layout (level + 1) hs.isBetween
  exact (hbreak.append_delivers hitem).append hrest (exists_writeItems_cons level items)

theorem walks_member {done o : Members} {key : String} (hs : s.stage.IsBetween)
    (hquote : step skips s '"' = .ok ⟨frames, .string (.key done) [] .none⟩)
    (hkept : skips frames = false)
    (hvalue : Delivers skips ⟨.member done key :: frames, .value⟩ text
      (deliver v (.member done key :: frames)))
    (hrest : Walks skips ⟨frames, .members ((key, v) :: done) false⟩
      (writeMembers layout level o) t) :
    Walks skips s (lineBreak layout (level + 1) ++ writeString key ++ colon layout ++ text
      ++ writeMembers layout level o) t := by
  have hbreak := walks_lineBreak skips layout (level + 1) hs
  have hmember := delivers_member layout hkept hquote hvalue
  have hwalk := (hbreak.append_delivers hmember).append hrest (exists_writeMembers_cons level o)
  simpa only [List.append_assoc] using hwalk

theorem walks_closeList {done : List Json} :
    Walks skips ⟨frames, .items done false⟩ (writeItems layout level [])
      (deliver (.list done.reverse) frames) := by
  have hbreak := walks_lineBreak skips layout level (s := ⟨frames, .items done false⟩) trivial
  rw [writeItems]
  exact hbreak.append (.single rfl)

theorem walks_closeObject {done : Members} :
    Walks skips ⟨frames, .members done false⟩ (writeMembers layout level [])
      (deliver (.object done.reverse) frames) := by
  have hbreak := walks_lineBreak skips layout level (s := ⟨frames, .members done false⟩) trivial
  rw [writeMembers]
  exact hbreak.append (.single rfl)

end Parts

mutual

/-- The text of a value delivers it. -/
theorem delivers_writeAt {skips : Skips} (layout : Layout) :
    ∀ (v : Json) (level : Nat) {n : Nat} {frames : List Frame} {s : State}, v.Writable n →
      frames.length + n ≤ depthLimit → Kept skips frames → Awaits skips s frames →
      Delivers skips s (writeAt layout level v) (deliver v frames)
  | .null, _, _, _, _, _, _, _, hs =>
    (hs.begins rfl (by decide) rfl (walks_word 'u' ['l', 'l'])).delivers
  | .bool true, _, _, _, _, _, _, _, hs =>
    (hs.begins rfl (by decide) rfl (walks_word 'r' ['u', 'e'])).delivers
  | .bool false, _, _, _, _, _, _, _, hs =>
    (hs.begins rfl (by decide) rfl (walks_word 'a' ['l', 's', 'e'])).delivers
  | .int i, _, _, _, _, hv, _, _, hs => by
    cases hv with | int _ hword =>
    exact hs.delivers_int hword
  | .float x, _, _, _, _, hv, _, _, _ => by cases hv
  | .string text, _, _, frames, _, _, _, hkept, hs => by
    have hchars := walks_string .value hkept.self text
    rw [closeString, List.reverse_reverse, String.ofList_toList] at hchars
    exact (hs.begins rfl (by decide) rfl hchars).delivers
  | .list [], _, _, frames, _, hv, hdepth, _, hs => by
    cases hv with | @list n _ hitems =>
    have hopen := beginValue_list skips (show frames.length < depthLimit by omega)
    exact (hs.begins rfl (by decide) hopen (.single rfl)).delivers
  | .list (v :: rest), level, _, frames, _, hv, hdepth, hkept, hs => by
    cases hv with | @list n _ hitems =>
    have hopen := beginValue_list skips (show frames.length < depthLimit by omega)
    have hfirst := delivers_writeAt layout v (level + 1)
      (hitems v List.mem_cons_self) (by simp only [List.length_cons]; omega)
      (hkept.inside (.item [])) awaits_firstItem
    have hrest := walks_writeItems layout rest level [v]
      (fun w hw => hitems w (List.mem_cons_of_mem v hw)) hdepth hkept
    rw [writeAt]
    exact (hs.begins rfl (by decide) hopen (walks_item awaits_firstItem hfirst hrest)).delivers
  | .object [], _, _, frames, _, hv, hdepth, _, hs => by
    cases hv with | @object n _ hvalues =>
    have hopen := beginValue_object skips (show frames.length < depthLimit by omega)
    exact (hs.begins rfl (by decide) hopen (.single rfl)).delivers
  | .object ((key, v) :: rest), level, _, frames, _, hv, hdepth, hkept, hs => by
    cases hv with | @object n _ hvalues =>
    have hopen := beginValue_object skips (show frames.length < depthLimit by omega)
    have hvalue := delivers_writeAt layout v (level + 1)
      (hvalues (key, v) List.mem_cons_self) (by simp only [List.length_cons]; omega)
      (hkept.inside (.member [] key)) awaits_value
    have hrest := walks_writeMembers layout rest level [(key, v)]
      (fun w hw => hvalues w (List.mem_cons_of_mem _ hw)) hdepth hkept
    have hparts := walks_member (s := ⟨frames, .members [] true⟩) trivial rfl hkept.self hvalue
      hrest
    rw [writeAt]
    exact (hs.begins rfl (by decide) hopen hparts).delivers

/-- The further items of a list deliver the whole list. -/
theorem walks_writeItems {skips : Skips} (layout : Layout) :
    ∀ (items : List Json) (level : Nat) {n : Nat} {frames : List Frame} (done : List Json),
      (∀ v ∈ items, v.Writable n) → frames.length + (n + 1) ≤ depthLimit → Kept skips frames →
      Walks skips ⟨frames, .items done false⟩ (writeItems layout level items)
        (deliver (.list (done.reverse ++ items)) frames)
  | [], level, _, frames, done, _, _, _ => by
    rw [List.append_nil]
    exact walks_closeList
  | v :: rest, level, _, frames, done, hitems, hdepth, hkept => by
    have hitem := delivers_writeAt layout v (level + 1)
      (hitems v List.mem_cons_self) (by simp only [List.length_cons]; omega)
      (hkept.inside (.item done)) awaits_itemDue
    have hrest := walks_writeItems layout rest level (v :: done)
      (fun w hw => hitems w (List.mem_cons_of_mem v hw)) hdepth hkept
    rw [List.reverse_cons, List.append_assoc, List.singleton_append] at hrest
    rw [writeItems]
    exact .step_then rfl (walks_item awaits_itemDue hitem hrest)

/-- The further members of an object deliver the whole object. -/
theorem walks_writeMembers {skips : Skips} (layout : Layout) :
    ∀ (o : Members) (level : Nat) {n : Nat} {frames : List Frame} (done : Members),
      (∀ m ∈ o, m.2.Writable n) → frames.length + (n + 1) ≤ depthLimit → Kept skips frames →
      Walks skips ⟨frames, .members done false⟩ (writeMembers layout level o)
        (deliver (.object (done.reverse ++ o)) frames)
  | [], level, _, frames, done, _, _, _ => by
    rw [List.append_nil]
    exact walks_closeObject
  | (key, v) :: rest, level, _, frames, done, hvalues, hdepth, hkept => by
    have hvalue := delivers_writeAt layout v (level + 1)
      (hvalues (key, v) List.mem_cons_self) (by simp only [List.length_cons]; omega)
      (hkept.inside (.member done key)) awaits_value
    have hrest := walks_writeMembers layout rest level ((key, v) :: done)
      (fun w hw => hvalues w (List.mem_cons_of_mem _ hw)) hdepth hkept
    rw [List.reverse_cons, List.append_assoc, List.singleton_append] at hrest
    have hparts := walks_member (s := ⟨frames, .key done⟩) trivial rfl hkept.self hvalue hrest
    rw [writeMembers]
    exact .step_then rfl hparts

end

/-! ## Texts -/

/-- What is delivered at the end of the text is the value of the text. -/
theorem run_of_delivers {p : Position} (h : Delivers skips s text (deliver v [])) :
    run skips s p text = .ok v := by
  obtain ⟨t, hwalk, hsettles⟩ := h
  have hend : finish skips t = .ok v := hsettles.finish_eq.trans rfl
  exact run_eq_ok.mpr ⟨t, hwalk, hend⟩

/-- The text of a value is read as the value. -/
theorem read_write {n : Nat} (hv : v.Writable n) (hn : n ≤ depthLimit) (layout : Layout) :
    read (v.write layout) = .ok v := by
  have hdepth : ([] : List Frame).length + n ≤ depthLimit := by
    rw [List.length_nil, Nat.zero_add]
    exact hn
  exact run_of_delivers (delivers_writeAt layout v 0 hv hdepth (kept_skipNone []) awaits_value)

theorem kept_skipBut (keys : List String) {key : String} (hkey : key ∈ keys) (done : Members) :
    Kept (skipBut keys) [.member done key] := by
  intro more
  simp [skipBut, hkey]

/-- The text of an object whose one member is asked for is read as the object. -/
theorem readMembers_write {n : Nat} {keys : List String} {key : String} (hkey : key ∈ keys)
    (hv : v.Writable n) (hn : n + 1 ≤ depthLimit) (layout : Layout) :
    readMembers keys ((Json.object [(key, v)]).write layout) = .ok (.object [(key, v)]) := by
  have hopen := beginValue_object (skipBut keys) (show ([] : List Frame).length < depthLimit by
    rw [List.length_nil]; decide)
  have hvalue := delivers_writeAt layout v 1 hv
    (by simp only [List.length_cons, List.length_nil]; omega) (kept_skipBut keys hkey [])
    awaits_value
  have hclose : Walks (skipBut keys) ⟨[], .members [(key, v)] false⟩ (writeMembers layout 0 [])
      (deliver (.object [(key, v)]) []) := walks_closeObject
  have hparts := walks_member (s := ⟨[], .members [] true⟩) trivial rfl rfl hvalue hclose
  rw [write, writeAt]
  exact run_of_delivers (awaits_value.begins rfl (by decide) hopen hparts).delivers

end AppConfig.Json
