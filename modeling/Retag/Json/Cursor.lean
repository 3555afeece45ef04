/-
A place in a JSON text: what is left to read, and the position reached.
-/
import Retag.Json.Fault

namespace Retag.Json

/-- The position after one byte of a character. -/
def Position.afterByte (p : Position) (c : Char) : Position :=
  if c = '\n' then ⟨p.line + 1, 0⟩ else ⟨p.line, p.column + 1⟩

/-- The position after a character. -/
def Position.after (p : Position) (c : Char) : Position :=
  if c = '\n' then ⟨p.line + 1, 0⟩ else ⟨p.line, p.column + c.utf8Size⟩

/-- The position after some bytes of a text, which may end inside a character. -/
def Position.afterBytes (p : Position) : Nat → List Char → Position
  | _, [] => p
  | 0, _ => p
  | n + 1, c :: rest =>
    if c.utf8Size ≤ n + 1 then Position.afterBytes (p.after c) (n + 1 - c.utf8Size) rest
    else ⟨p.line, p.column + (n + 1)⟩
termination_by _ s => s.length

structure Cursor where
  rest : List Char
  position : Position
  deriving Repr

namespace Cursor

def start (text : String) : Cursor := ⟨text.toList, ⟨1, 0⟩⟩

/-- The position a fault has that is found by looking at the next byte. -/
def peekPosition (cur : Cursor) : Position :=
  match cur.rest with
  | [] => cur.position
  | c :: _ => cur.position.afterByte c

/-- A fault at the position reached. -/
def fault (cur : Cursor) (cause : Cause) : Fault := ⟨cause, cur.position⟩

/-- A fault found by looking at the next byte. -/
def peekFault (cur : Cursor) (cause : Cause) : Fault := ⟨cause, cur.peekPosition⟩

/-- Passes the next character. -/
def next (cur : Cursor) : Cursor :=
  match cur.rest with
  | [] => cur
  | c :: rest => ⟨rest, cur.position.after c⟩

/-- Passes blanks. -/
def skip (rest : List Char) (p : Position) : Cursor :=
  match rest with
  | [] => ⟨[], p⟩
  | c :: tail =>
    if c = ' ' ∨ c = '\n' ∨ c = '\t' ∨ c = '\r' then skip tail (p.after c) else ⟨c :: tail, p⟩

def skipBlank (cur : Cursor) : Cursor := skip cur.rest cur.position

end Cursor

end Retag.Json
