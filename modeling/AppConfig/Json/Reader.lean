import AppConfig.Json.Basic
import AppConfig.Number.Digits
import AppConfig.Number.Word

/-! # Reading JSON

A text is read by a machine that takes one character after the other.

* `Frame`: a container that waits for the value of its next item or member.
* `Stage`: what the machine is in the middle of, inside the frames around it.
* `step`: one character; `finish`: the end of the text; `run`: a whole text.
* `Issue`: why and where reading stopped. A place is a line, counted from one, and the octets
  before it on that line.
* `Json.read`: the value of a text, its members as written; `Json.decode`: in canonical form.
* `Json.readMembers`: the same for a reader that asks for some members only and skips the others.

Of a value that is skipped the grammar counts and nothing else: numbers may be out of range,
surrogates may stand alone, and containers may be nested to any depth.

The machine is total by recursion on the text, and all it remembers stands in its state, so a run
over two texts in a row is the run over the second from the state after the first.
-/

namespace AppConfig
set_option autoImplicit false

namespace Json

/-! ## Issues -/

/-- Why a text is no JSON value. -/
inductive Reason where
  | endInValue
  | endInList
  | endInObject
  | endInString
  | expectedValue
  | expectedWord
  | expectedColon
  | expectedItemEnd
  | expectedMemberEnd
  | keyNotString
  | trailingComma
  | trailingCharacters
  | invalidNumber
  | numberOutOfRange
  | invalidEscape
  | loneSurrogate
  | endOfSurrogate
  | controlCharacter
  | tooDeep
  deriving DecidableEq, Repr

def Reason.message : Reason → String
  | endInValue => "EOF while parsing a value"
  | endInList => "EOF while parsing a list"
  | endInObject => "EOF while parsing an object"
  | endInString => "EOF while parsing a string"
  | expectedValue => "expected value"
  | expectedWord => "expected ident"
  | expectedColon => "expected `:`"
  | expectedItemEnd => "expected `,` or `]`"
  | expectedMemberEnd => "expected `,` or `\x7d`"
  | keyNotString => "key must be a string"
  | trailingComma => "trailing comma"
  | trailingCharacters => "trailing characters"
  | invalidNumber => "invalid number"
  | numberOutOfRange => "number out of range"
  | invalidEscape => "invalid escape"
  | loneSurrogate => "lone leading surrogate in hex escape"
  | endOfSurrogate => "unexpected end of hex escape"
  | controlCharacter => "control character (\\u0000-\\u001F) found while parsing a string"
  | tooDeep => "recursion limit exceeded"

/-- A place in a text: the line, and the number of octets before it on the line. -/
structure Position where
  line : Nat
  column : Nat
  deriving DecidableEq, Repr

namespace Position

def start : Position := ⟨1, 0⟩

/-- The place after a character. -/
def after (p : Position) (c : Char) : Position :=
  if c = '\n' then ⟨p.line + 1, 0⟩ else ⟨p.line, p.column + c.utf8Size⟩

/-- The place some octets into a character, counted from the place before it. -/
def into (p : Position) (c : Char) (octets : Nat) : Position :=
  if octets = 0 then p
  else if c = '\n' then ⟨p.line + 1, 0⟩
  else ⟨p.line, p.column + octets⟩

end Position

/-- Why and where reading stopped. -/
structure Issue where
  reason : Reason
  position : Position
  deriving DecidableEq, Repr

def Issue.message (i : Issue) : String :=
  s!"{i.reason.message} at line {i.position.line} column {i.position.column}"

/-! ## Numbers -/

/-- Digits are gathered as long as the significand stays below this. -/
def significandLimit : Nat := UInt64.size

/-- The power of ten after the mark is told apart from larger ones as long as it stays below
this. -/
def exponentLimit : Nat := 2147483648

/-- The digits of a number so far. When the significand is `full` no further digit enters it. -/
structure Digits where
  negative : Bool
  significand : Nat
  exponent : Int
  full : Bool
  deriving DecidableEq, Repr

namespace Digits

def pushWhole (d : Digits) (digit : Nat) : Digits :=
  let next := d.significand * 10 + digit
  if d.full || significandLimit ≤ next then { d with exponent := d.exponent + 1, full := true }
  else { d with significand := next }

def pushFraction (d : Digits) (digit : Nat) : Digits :=
  let next := d.significand * 10 + digit
  if d.full || significandLimit ≤ next then { d with full := true }
  else { d with significand := next, exponent := d.exponent - 1 }

/-- The double that the digits stand for, unless it is out of range. -/
def toFloat (d : Digits) (shift : Int) : Except Reason Json :=
  match Binary64.ofScaled d.negative d.significand (d.exponent + shift) with
  | some x => .ok (.float x)
  | none => .error .numberOutOfRange

/-- The number without point and exponent: an integer where a word holds it. -/
def toWhole (d : Digits) : Except Reason Json :=
  if d.full then d.toFloat 0
  else if !d.negative then .ok (.int d.significand)
  else if d.significand ≠ 0 ∧ IsSigned64 (-d.significand) then .ok (.int (-d.significand))
  else d.toFloat 0

end Digits

/-- The part of a number that was read last. -/
inductive Numeral where
  | minus
  | zero (negative : Bool)
  | whole (digits : Digits)
  | point (digits : Digits)
  | fraction (digits : Digits)
  | mark (digits : Digits)
  | signed (digits : Digits) (down : Bool)
  | power (digits : Digits) (down : Bool) (value : Nat)
  | vanishing (negative : Bool)
  deriving DecidableEq, Repr

def zeroDigits (negative : Bool) : Digits := ⟨negative, 0, 0, false⟩

namespace Numeral

/-- What a character makes of the number: `none` when it is no part of it. The size of a number
that is `skipped` does not count. -/
def next (skipped : Bool) (n : Numeral) (c : Char) : Except Reason (Option Numeral) :=
  match n with
  | minus =>
    match Number.digit? c with
    | some 0 => .ok (some (zero true))
    | some d => .ok (some (whole ⟨true, d, 0, false⟩))
    | none => .error .invalidNumber
  | zero negative =>
    if (Number.digit? c).isSome then .error .invalidNumber
    else if c = '.' then .ok (some (point (zeroDigits negative)))
    else if c = 'e' || c = 'E' then .ok (some (mark (zeroDigits negative)))
    else .ok none
  | whole digits =>
    match Number.digit? c with
    | some d => .ok (some (whole (digits.pushWhole d)))
    | none =>
      if c = '.' then .ok (some (point { digits with full := false }))
      else if c = 'e' || c = 'E' then .ok (some (mark digits))
      else .ok none
  | point digits =>
    match Number.digit? c with
    | some d => .ok (some (fraction (digits.pushFraction d)))
    | none => .error .invalidNumber
  | fraction digits =>
    match Number.digit? c with
    | some d => .ok (some (fraction (digits.pushFraction d)))
    | none => if c = 'e' || c = 'E' then .ok (some (mark digits)) else .ok none
  | mark digits =>
    match Number.digit? c with
    | some d => .ok (some (power digits false d))
    | none =>
      if c = '+' then .ok (some (signed digits false))
      else if c = '-' then .ok (some (signed digits true))
      else .error .invalidNumber
  | signed digits down =>
    match Number.digit? c with
    | some d => .ok (some (power digits down d))
    | none => .error .invalidNumber
  | power digits down value =>
    match Number.digit? c with
    | some d =>
      let value := value * 10 + d
      if value < exponentLimit then .ok (some (power digits down value))
      else if digits.significand ≠ 0 && !down && !skipped then .error .numberOutOfRange
      else .ok (some (vanishing digits.negative))
    | none => .ok none
  | vanishing negative =>
    if (Number.digit? c).isSome then .ok (some (vanishing negative)) else .ok none

/-- The number that ends here. -/
def value (n : Numeral) : Except Reason Json :=
  match n with
  | minus | point _ | mark _ | signed _ _ => .error .endInValue
  | zero negative => (zeroDigits negative).toWhole
  | whole digits => digits.toWhole
  | fraction digits => digits.toFloat 0
  | power digits down value => digits.toFloat (if down then -(value : Int) else value)
  | vanishing negative => .ok (.float (.ofMagnitude negative 0))

/-- The number that ends here, or nothing in place of one that is `skipped` and out of range. -/
def close (skipped : Bool) (n : Numeral) : Except Reason Json :=
  match n.value with
  | .error .numberOutOfRange => if skipped then .ok .null else .error .numberOutOfRange
  | result => result

end Numeral

/-! ## The machine -/

/-- A container that waits for a value: a list with its items so far, newest first, or an object
with its members so far, newest first, and the key of the value. -/
inductive Frame where
  | item (done : List Json)
  | member (done : Members) (key : String)

/-- What a string is read for: a value, or a key of the object with these members. -/
inductive Purpose where
  | value
  | key (done : Members)

/-- Where the machine is inside a string. -/
inductive Escape where
  /-- Between characters. -/
  | none
  /-- After a backslash. -/
  | backslash
  /-- After `\u` and `count` octets, which gave `code` unless one of them is no hexadecimal digit.
  `high` is the high surrogate before it. -/
  | hex (high : Option Nat) (count : Nat) (code : Option Nat)
  /-- After a high surrogate. -/
  | high (code : Nat)
  /-- After a high surrogate and a backslash. -/
  | highBackslash (code : Nat)

/-- What the machine is in the middle of. -/
inductive Stage where
  /-- A value is due. -/
  | value
  /-- Inside a list, its items newest first; `fresh` before the first one. -/
  | items (done : List Json) (fresh : Bool)
  /-- Inside an object, its members newest first; `fresh` before the first one. -/
  | members (done : Members) (fresh : Bool)
  /-- Inside an object after a comma. -/
  | key (done : Members)
  /-- Inside an object after a key. -/
  | colon (done : Members) (key : String)
  /-- Inside a list after a comma. -/
  | itemDue (done : List Json)
  /-- Inside a word that stands for a value: the letter that is due and those after it. -/
  | word (due : Char) (rest : List Char) (value : Json)
  | number (numeral : Numeral)
  /-- Inside a string, its characters newest first. -/
  | string (purpose : Purpose) (done : List Char) (escape : Escape)
  /-- After the whole value. -/
  | complete (value : Json)

structure State where
  frames : List Frame
  stage : Stage

/-- Which values are skipped, by the frames around them. -/
abbrev Skips := List Frame → Bool

/-- No value is skipped. -/
def skipNone : Skips := fun _ => false

/-- The values of an object are skipped, except those of these keys. -/
def skipBut (keys : List String) : Skips := fun frames =>
  match frames.getLast? with
  | some (.member _ key) => !keys.contains key
  | _ => false

/-- A reason to stop, and the octets of the current character that lie before the place. -/
abbrev Stop := Reason × Nat

def State.initial : State := ⟨[], .value⟩

/-- The most containers that may be open at a time, unless they are skipped. -/
def depthLimit : Nat := 127

/-- A value is complete: it goes into the innermost frame. -/
def deliver (v : Json) : List Frame → State
  | [] => ⟨[], .complete v⟩
  | .item done :: frames => ⟨frames, .items (v :: done) false⟩
  | .member done key :: frames => ⟨frames, .members ((key, v) :: done) false⟩

def isSpace (c : Char) : Bool :=
  c = ' ' || c = '\n' || c = '\t' || c = '\r'

/-- Opens a container unless too many are open. -/
def openAs (skips : Skips) (frames : List Frame) (stage : Stage) : Except Stop State :=
  if skips frames || frames.length < depthLimit then .ok ⟨frames, stage⟩ else .error (.tooDeep, 1)

/-- The first character of a value. -/
def beginValue (skips : Skips) (frames : List Frame) (c : Char) : Except Stop State :=
  match c with
  | '[' => openAs skips frames (.items [] true)
  | '\x7b' => openAs skips frames (.members [] true)
  | '"' => .ok ⟨frames, .string .value [] .none⟩
  | 'n' => .ok ⟨frames, .word 'u' ['l', 'l'] .null⟩
  | 't' => .ok ⟨frames, .word 'r' ['u', 'e'] (.bool true)⟩
  | 'f' => .ok ⟨frames, .word 'a' ['l', 's', 'e'] (.bool false)⟩
  | '-' => .ok ⟨frames, .number .minus⟩
  | _ =>
    match Number.digit? c with
    | some 0 => .ok ⟨frames, .number (.zero false)⟩
    | some d => .ok ⟨frames, .number (.whole ⟨false, d, 0, false⟩)⟩
    | none => .error (.expectedValue, 1)

/-- The character that a short escape stands for. -/
def escapedChar : Char → Option Char
  | '"' => some '"'
  | '\\' => some '\\'
  | '/' => some '/'
  | 'b' => some '\x08'
  | 'f' => some '\x0c'
  | 'n' => some '\n'
  | 'r' => some '\r'
  | 't' => some '\t'
  | _ => none

/-- Four hexadecimal digits are complete. -/
def closeHex (skipped : Bool) (high : Option Nat) (code : Nat) :
    Except Reason (Option Char × Escape) :=
  if skipped then .ok (none, .none) else
  match high with
  | some h =>
    if 0xDC00 ≤ code && code ≤ 0xDFFF then
      .ok (some (Char.ofNat (0x10000 + (h - 0xD800) * 0x400 + (code - 0xDC00))), .none)
    else .error .loneSurrogate
  | none =>
    if 0xDC00 ≤ code && code ≤ 0xDFFF then .error .loneSurrogate
    else if 0xD800 ≤ code && code ≤ 0xDBFF then .ok (none, .high code)
    else .ok (some (Char.ofNat code), .none)

/-- A string ends. -/
def closeString (frames : List Frame) (purpose : Purpose) (done : List Char) : State :=
  let s := String.ofList done.reverse
  match purpose with
  | .value => deliver (.string s) frames
  | .key members => ⟨frames, .colon members s⟩

/-- A character inside a string. -/
def stepString (skips : Skips) (frames : List Frame) (purpose : Purpose) (done : List Char)
    (escape : Escape) (c : Char) : Except Stop State :=
  match escape with
  | .none =>
    if c = '"' then .ok (closeString frames purpose done)
    else if c = '\\' then .ok ⟨frames, .string purpose done .backslash⟩
    else if c.toNat < 0x20 then .error (.controlCharacter, 1)
    else .ok ⟨frames, .string purpose (c :: done) .none⟩
  | .backslash =>
    if c = 'u' then .ok ⟨frames, .string purpose done (.hex none 0 (some 0))⟩
    else
      match escapedChar c with
      | some e => .ok ⟨frames, .string purpose (e :: done) .none⟩
      | none => .error (.invalidEscape, 1)
  | .hex high count code =>
    let code := do return (← code) * 16 + (← Number.hexValue? c)
    if count + c.utf8Size < 4 then
      .ok ⟨frames, .string purpose done (.hex high (count + c.utf8Size) code)⟩
    else
      match code with
      | none => .error (.invalidEscape, 4 - count)
      | some n =>
        match closeHex (skips frames) high n with
        | .ok (some e, escape) => .ok ⟨frames, .string purpose (e :: done) escape⟩
        | .ok (none, escape) => .ok ⟨frames, .string purpose done escape⟩
        | .error reason => .error (reason, 4 - count)
  | .high code =>
    if c = '\\' then .ok ⟨frames, .string purpose done (.highBackslash code)⟩
    else .error (.endOfSurrogate, 1)
  | .highBackslash code =>
    if c = 'u' then .ok ⟨frames, .string purpose done (.hex (some code) 0 (some 0))⟩
    else .error (.endOfSurrogate, 1)

/-- A character that is no space, between tokens. -/
def stepToken (skips : Skips) (frames : List Frame) (stage : Stage) (c : Char) :
    Except Stop State :=
  match stage with
  | .value => beginValue skips frames c
  | .itemDue done =>
    if c = ']' then .error (.trailingComma, 1) else beginValue skips (.item done :: frames) c
  | .items done fresh =>
    if c = ']' then .ok (deliver (.list done.reverse) frames)
    else if fresh then beginValue skips (.item done :: frames) c
    else if c = ',' then .ok ⟨frames, .itemDue done⟩
    else .error (.expectedItemEnd, 1)
  | .members done fresh =>
    if c = '\x7d' then .ok (deliver (.object done.reverse) frames)
    else if fresh then
      if c = '"' then .ok ⟨frames, .string (.key done) [] .none⟩
      else .error (.keyNotString, 1)
    else if c = ',' then .ok ⟨frames, .key done⟩
    else .error (.expectedMemberEnd, 1)
  | .key done =>
    if c = '\x7d' then .error (.trailingComma, 1)
    else if c = '"' then .ok ⟨frames, .string (.key done) [] .none⟩
    else .error (.keyNotString, 1)
  | .colon done key =>
    if c = ':' then .ok ⟨.member done key :: frames, .value⟩ else .error (.expectedColon, 1)
  | .complete _ => .error (.trailingCharacters, 1)
  | .word due rest v =>
    if c ≠ due then .error (.expectedWord, 1)
    else
      match rest with
      | [] => .ok (deliver v frames)
      | next :: rest => .ok ⟨frames, .word next rest v⟩
  | .string purpose done escape => stepString skips frames purpose done escape c
  | .number _ => .error (.expectedValue, 1)

/-- A character outside numbers: spaces between tokens are skipped. -/
def stepPlain (skips : Skips) (s : State) (c : Char) : Except Stop State :=
  match s.stage with
  | .word _ _ _ | .string _ _ _ => stepToken skips s.frames s.stage c
  | _ => if isSpace c then .ok s else stepToken skips s.frames s.stage c

/-- One character. One that is no part of a number ends it and is then read as usual. -/
def step (skips : Skips) (s : State) (c : Char) : Except Stop State :=
  match s.stage with
  | .number n =>
    match n.next (skips s.frames) c with
    | .error reason => .error (reason, 1)
    | .ok (some n) => .ok ⟨s.frames, .number n⟩
    | .ok none =>
      match n.close (skips s.frames) with
      | .error reason => .error (reason, 0)
      | .ok v => stepPlain skips (deliver v s.frames) c
  | _ => stepPlain skips s c

/-- The end of the text outside numbers. -/
def finishPlain (s : State) : Except Reason Json :=
  match s.stage with
  | .complete v => .ok v
  | .items _ _ => .error .endInList
  | .members _ _ | .colon _ _ => .error .endInObject
  | .string _ _ _ => .error .endInString
  | .value | .itemDue _ | .key _ | .word _ _ _ | .number _ => .error .endInValue

/-- The end of the text. -/
def finish (skips : Skips) (s : State) : Except Reason Json :=
  match s.stage with
  | .number n =>
    match n.close (skips s.frames) with
    | .error reason => .error reason
    | .ok v => finishPlain (deliver v s.frames)
  | _ => finishPlain s

/-- The rest of a text, read from a state at a place. -/
def run (skips : Skips) (s : State) (p : Position) : List Char → Except Issue Json
  | [] => (finish skips s).mapError (⟨·, p⟩)
  | c :: rest =>
    match step skips s c with
    | .error (reason, octets) => .error ⟨reason, p.into c octets⟩
    | .ok s => run skips s (p.after c) rest

/-- The value that a text writes, its members in the order of the text. -/
def read (text : List Char) : Except Issue Json :=
  run skipNone .initial .start text

/-- The value that a text writes, for a reader of the members with these keys: when it is an
object, the values of its other members are skipped and not to be relied on. -/
def readMembers (keys : List String) (text : List Char) : Except Issue Json :=
  run (skipBut keys) .initial .start text

/-- The value that a text writes, in canonical form. -/
def decode (text : List Char) : Except Issue Json :=
  (read text).map canonical

end Json
end AppConfig
