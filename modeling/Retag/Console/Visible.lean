/-
What a terminal shows of a text. Control characters other than line breaks and the
like are not shown, and neither are escape sequences; a sequence may run on from
one piece of a line into the next.
-/
import Retag.Text.Blank

namespace Retag.Console

/-- Where in an escape sequence a text stands. -/
inductive Mode where
  | text
  /-- Behind an escape character. -/
  | escape
  /-- Behind an escape character and a character from the space to the slash. -/
  | intermediate
  /-- In a control sequence, which ends with a character from the at sign on. -/
  | control
  /-- In the parameters of a device control string. -/
  | device
  /-- In a string that only a terminator ends. -/
  | string
  /-- In an operating system command, which a bell ends too. -/
  | command
  deriving DecidableEq, Repr

/-- Whether one of the bytes of a character beyond ASCII is that of the string
terminator. -/
def hasTerminator (c : Char) : Bool := (String.singleton c).toUTF8.toList.contains 0x9c

namespace Mode

/-- Whether a character is shown. -/
def shows (m : Mode) (c : Char) : Bool :=
  match m with
  | text => (' ' ≤ c && c != '\x7f') || Text.isAsciiBlank c
  | escape | intermediate | control => c != ' ' && Text.isAsciiBlank c
  | device | string | command => false

/-- The mode behind an escape character and another one. -/
def escaped (c : Char) : Mode :=
  if c == '[' then control
  else if c == ']' then command
  else if c == 'P' then device
  else if c == 'X' || c == '^' || c == '_' then string
  else if ' ' ≤ c && c ≤ '/' then intermediate
  else if '0' ≤ c && c ≤ '~' then text
  else escape

/-- The mode behind a character that is not shown. -/
def next (m : Mode) (c : Char) : Mode :=
  if c == '\x1b' then escape
  else if c == '\x18' || c == '\x1a' then text
  else
    match m with
    | text => text
    | escape => escaped c
    | intermediate => if '0' ≤ c && c ≤ '~' then text else intermediate
    | control => if '@' ≤ c && c ≤ '~' then text else control
    | device => if ('@' ≤ c && c ≤ '~') || c == ':' then string else device
    | string => if '\x7f' < c && hasTerminator c then text else string
    | command => if c == '\x07' then text else command

/-- What is shown of a piece of a line, and the mode behind it. Once a character
is shown, those behind it are judged as text up to one that is not; only then does
an unfinished sequence go on. -/
def visible (m : Mode) (shown : Bool) : List Char → List Char × Mode
  | [] => ([], m)
  | c :: s =>
    if (if shown then text else m).shows c then
      let (v, m) := visible (if c ≤ '\x7f' then m else text) true s
      (c :: v, m)
    else visible (m.next c) false s

end Mode

/-- What is shown of a line in pieces. -/
def visible (m : Mode) : List String → List Char
  | [] => []
  | piece :: pieces =>
    let (v, m) := m.visible false piece.toList
    v ++ visible m pieces

end Retag.Console
