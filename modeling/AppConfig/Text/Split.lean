/-! # Pieces of a text

* `splitOn`: the pieces of a text between the occurrences of a character, at least one piece.
* `joinWith`: pieces with a character between neighbours.
* `cut`: the texts before and after the first occurrence of a character.
* `takeOctets`, `dropOctets`: the texts before and after some octets, as UTF-8 writes them.
-/

namespace AppConfig.Text
set_option autoImplicit false

/-- The pieces of a text between the occurrences of `mark`. -/
def splitOn (mark : Char) : List Char → List (List Char)
  | [] => [[]]
  | c :: rest =>
    if c = mark then [] :: splitOn mark rest
    else
      match splitOn mark rest with
      | [] => [[c]]
      | piece :: pieces => (c :: piece) :: pieces

/-- Pieces with `mark` between neighbours. -/
def joinWith (mark : Char) : List (List Char) → List Char
  | [] => []
  | [piece] => piece
  | piece :: next :: pieces => piece ++ mark :: joinWith mark (next :: pieces)

/-- The text before the first `mark`, and the text after it if there is one. -/
def cut (mark : Char) : List Char → List Char × Option (List Char)
  | [] => ([], none)
  | c :: rest =>
    if c = mark then ([], some rest)
    else
      let (before, after) := cut mark rest
      (c :: before, after)

/-- The text before some octets, with the character that holds the last of them. -/
def takeOctets : Nat → List Char → List Char
  | _, [] => []
  | n, c :: rest => if n = 0 then [] else c :: takeOctets (n - c.utf8Size) rest

/-- The text after some octets, without the character that holds the last of them. -/
def dropOctets : Nat → List Char → List Char
  | _, [] => []
  | n, c :: rest => if n = 0 then c :: rest else dropOctets (n - c.utf8Size) rest

theorem splitOn_ne_nil (mark : Char) (text : List Char) : splitOn mark text ≠ [] := by
  induction text with
  | nil => simp [splitOn]
  | cons c rest ih =>
    by_cases h : c = mark
    · simp [splitOn, h]
    · cases hs : splitOn mark rest with
      | nil => exact absurd hs ih
      | cons piece pieces => simp [splitOn, h, hs]

/-- Joining the pieces gives the text again. -/
theorem joinWith_splitOn (mark : Char) (text : List Char) :
    joinWith mark (splitOn mark text) = text := by
  induction text with
  | nil => rfl
  | cons c rest ih =>
    obtain ⟨piece, pieces, hs⟩ := List.exists_cons_of_ne_nil (splitOn_ne_nil mark rest)
    rw [hs] at ih
    by_cases h : c = mark
    · simp [splitOn, h, hs, joinWith, ih]
    · cases pieces with
      | nil => simp_all [splitOn, joinWith]
      | cons next more => simp_all [splitOn, joinWith]

end AppConfig.Text
