import AppConfig.Text.Blank
import AppConfig.Text.Split

/-! # Lines and comment lines

* `splitLines`: the lines of a text. A line ends at a line feed, together with one carriage
  return directly before it; the last line may lack its end.
* `isComment`: a line whose first characters that are not blank are `//`.
* `uncomment`: a text without its comment lines.

Comments are a matter of lines alone: a line that lies inside a string literal counts as well.
-/

namespace AppConfig.Text
set_option autoImplicit false

/-- The lines of a text; a final line feed opens no further line. -/
def splitLines : List Char → List (List Char)
  | [] => []
  | '\n' :: rest => [] :: splitLines rest
  | '\r' :: '\n' :: rest => [] :: splitLines rest
  | c :: rest =>
    match splitLines rest with
    | [] => [[c]]
    | line :: lines => (c :: line) :: lines

/-- The first characters of the line that are not blank are `//`. -/
def isComment (line : List Char) : Bool :=
  ['/', '/'].isPrefixOf (trimLeft line)

/-- The text without its comment lines, a line feed between the lines that are kept. -/
def uncomment (text : List Char) : List Char :=
  joinWith '\n' ((splitLines text).filter fun line => !isComment line)

end AppConfig.Text
