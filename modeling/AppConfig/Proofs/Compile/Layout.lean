import Mathlib.Logic.Relation
import AppConfig.Compile
import AppConfig.Proofs.Text.Lines

/-! # The layout of documents

Comment lines, and the characters that end a line, are not seen by the decoder.

* `withReturns`: a text with a carriage return before each line feed.
* `Relaid`: one way to lay out a text anew.
* `uncomment_comment`, `uncomment_withReturns`: it leaves the text without comments as it is.
* `decode_of_relaid`: the decoder tells the same of a text, however often it was laid out anew, also
  where it refuses the text.
-/

namespace AppConfig
set_option autoImplicit false
open Text

variable {text text' line front comment rest : List Char}

/-- The text with a carriage return before each line feed. -/
def withReturns (text : List Char) : List Char :=
  text.flatMap fun c => if c = '\n' then ['\r', '\n'] else [c]

/-- The second text is the first one with one comment line more, or, where no line ends in two
characters, with two characters at the end of each line. -/
inductive Relaid : List Char → List Char → Prop
  | comment {front comment rest : List Char} (hfront : front = [] ∨ front.getLast? = some '\n')
      (hfeed : '\n' ∉ comment) (hcomment : isComment comment = true) :
      Relaid (front ++ rest) (front ++ comment ++ '\n' :: rest)
  | returns {text : List Char} (htext : ¬ ['\r', '\n'] <:+: text) : Relaid text (withReturns text)

/-! ## Comment lines -/

theorem uncomment_comment (hfront : front = [] ∨ front.getLast? = some '\n')
    (hfeed : '\n' ∉ comment) (hcomment : isComment comment = true) :
    uncomment (front ++ comment ++ '\n' :: rest) = uncomment (front ++ rest) := by
  -- The comment may end in a carriage return, which is not part of its line.
  obtain ⟨kept, hkept, hlines⟩ := exists_splitLines hfeed
  have hdropped : isComment kept = true := (isComment_kept hkept).trans hcomment
  rw [List.append_assoc, uncomment, uncomment, splitLines_append hfront, splitLines_append hfront,
    hlines, List.filter_append, List.filter_append, List.filter_cons_of_neg (by simp [hdropped])]

/-! ## Line ends -/

theorem withReturns_of_not_mem (hfeed : '\n' ∉ line) : withReturns line = line := by
  induction line with
  | nil => rfl
  | cons c more ih =>
    obtain ⟨hc, hmore⟩ := List.forall_mem_cons.mp fun d hd (h : d = '\n') => hfeed (h ▸ hd)
    rw [withReturns, List.flatMap_cons, if_neg hc]
    exact congrArg (c :: ·) (ih fun h => hmore _ h rfl)

theorem withReturns_append_feed (hfeed : '\n' ∉ line) (rest : List Char) :
    withReturns (line ++ '\n' :: rest) = line ++ '\r' :: '\n' :: withReturns rest := by
  have hline : withReturns line = line := withReturns_of_not_mem hfeed
  rw [withReturns, List.flatMap_append, List.flatMap_cons, if_pos rfl]
  exact congrArg (· ++ '\r' :: '\n' :: withReturns rest) hline

theorem splitLines_withReturns (h : ¬ ['\r', '\n'] <:+: text) :
    splitLines (withReturns text) = splitLines text := by
  induction text using text_induction with
  | last line hfeed => rw [withReturns_of_not_mem hfeed]
  | feed line rest hfeed ih =>
    -- No line of the first text ends in a carriage return, so none is left of the added ones.
    rw [infix_append_feed hfeed, not_or] at h
    rw [withReturns_append_feed hfeed, splitLines_returnFeed _ hfeed, splitLines_feed _ hfeed h.1,
      ih h.2]

theorem uncomment_withReturns (h : ¬ ['\r', '\n'] <:+: text) :
    uncomment (withReturns text) = uncomment text := by
  rw [uncomment, uncomment, splitLines_withReturns h]

/-! ## Decoding -/

theorem Relaid.uncomment_eq (h : Relaid text text') : uncomment text' = uncomment text := by
  cases h with
  | comment hfront hfeed hcomment => exact uncomment_comment hfront hfeed hcomment
  | returns htext => exact uncomment_withReturns htext

/-- The decoder sees of a text what is left without its comments. -/
theorem decode_congr (h : uncomment text' = uncomment text) :
    decode (String.ofList text') = decode (String.ofList text) := by
  unfold decode
  rw [String.toList_ofList, String.toList_ofList, h]

/-- However often a text is laid out anew, it gives the same value, or the same issue at the same
line and column. -/
theorem decode_of_relaid (h : Relation.ReflTransGen Relaid text text') :
    uncomment text' = uncomment text ∧
      decode (String.ofList text') = decode (String.ofList text) := by
  have huncomment : uncomment text' = uncomment text := by
    induction h with
    | refl => rfl
    | tail _ hstep ih => exact hstep.uncomment_eq.trans ih
  exact ⟨huncomment, decode_congr huncomment⟩

/-- A list whose second line begins with a comma. -/
def commaText : List Char := ['[', '\n', ',']

/-- The same list after a comment line, with another one inside it. -/
def commaTextRelaid : List Char :=
  ['/', '/', '\r', '\n', '[', '\r', '\n', '\t', '/', '/', '\r', '\n', ',']

theorem relaid_commaText : Relation.ReflTransGen Relaid commaText commaTextRelaid := by
  have hinside : Relaid (['[', '\n'] ++ [','])
      (['[', '\n'] ++ ['\t', '/', '/'] ++ '\n' :: [',']) :=
    .comment (.inr rfl) (by decide) (by decide)
  have hreturns : Relaid ['[', '\n', '\t', '/', '/', '\n', ',']
      ['[', '\r', '\n', '\t', '/', '/', '\r', '\n', ','] :=
    .returns (by decide)
  have hbefore : Relaid ([] ++ ['[', '\r', '\n', '\t', '/', '/', '\r', '\n', ','])
      ([] ++ ['/', '/', '\r'] ++ '\n' :: ['[', '\r', '\n', '\t', '/', '/', '\r', '\n', ',']) :=
    .comment (.inl rfl) (by decide) (by decide)
  exact ((Relation.ReflTransGen.single hinside).tail hreturns).tail hbefore

/-- The issue stands on the second line of either text. -/
theorem decode_commaTextRelaid : Relation.ReflTransGen Relaid commaText commaTextRelaid ∧
    uncomment commaTextRelaid = commaText ∧
    (decode (String.ofList commaTextRelaid)).result =
      .error (.malformed ⟨.expectedValue, ⟨2, 1⟩⟩) := by
  obtain ⟨huncomment, hdecode⟩ := decode_of_relaid relaid_commaText
  refine ⟨relaid_commaText, huncomment, ?_⟩
  rw [hdecode]
  unfold decode
  rw [String.toList_ofList]
  rfl

end AppConfig
