/-
Reading JSON texts where the kind of value is known: a text, or a value that is
passed over. `wrongKind` is the fault of a value of another kind.
-/
import Retag.Json.Reader

namespace Retag.Json

/-- The fault of a value that is not of the expected kind. A value of a simple
kind is read first, and may be faulty itself. -/
def wrongKind (expected : String) (cur : Cursor) : Fault :=
  let found (r : Except Fault (Found × Cursor)) : Fault :=
    match r with
    | .ok (f, cur) => cur.fault (.invalidType f expected)
    | .error fault => fault
  match cur.rest with
  | 'n' :: _ => found ((readIdent "ull".toList cur.next).map fun cur => (.null, cur))
  | 't' :: _ => found ((readIdent "rue".toList cur.next).map fun cur => (.bool true, cur))
  | 'f' :: _ => found ((readIdent "alse".toList cur.next).map fun cur => (.bool false, cur))
  | '-' :: _ => found ((readNumber true cur.next).map fun (n, cur) => (.number n, cur))
  | '"' :: rest =>
    found ((readText [] (cur.position.after '"') rest).map fun (s, cur) => (.string s, cur))
  | '[' :: _ => cur.fault (.invalidType .sequence expected)
  | '{' :: _ => cur.fault (.invalidType .map expected)
  | c :: _ =>
    if isDigit c then found ((readNumber false cur).map fun (n, cur) => (.number n, cur))
    else cur.peekFault .expectedValue
  | [] => cur.peekFault .endInValue

/-- Reads a value that has to be a text. -/
def readString (cur : Cursor) : Except Fault (String × Cursor) :=
  let cur := cur.skipBlank
  match cur.rest with
  | [] => .error (cur.peekFault .endInValue)
  | '"' :: rest => readText [] (cur.position.after '"') rest
  | _ => .error (wrongKind "a string" cur)

/-! ## Passing over a value

A value that nobody asked for is passed over without a limit on its nesting,
keeping the brackets that are open. -/

/-- Passes a text up to its closing quote. Escapes are checked, surrogates are
not. -/
def skipText (p : Position) : List Char → Except Fault Cursor
  | [] => .error ⟨.endInString, p⟩
  | '"' :: rest => .ok ⟨rest, p.after '"'⟩
  | '\\' :: 'u' :: a :: b :: c :: d :: rest =>
    match hexValue4 a b c d with
    | none => .error (hexFault (a :: b :: c :: d :: rest) ((p.after '\\').after 'u'))
    | some _ => skipText ((((((p.after '\\').after 'u').after a).after b).after c).after d) rest
  | '\\' :: c :: rest =>
    if c = 'u' then .error (hexFault rest ((p.after '\\').after 'u'))
    else if (simpleEscape c).isSome then skipText ((p.after '\\').after c) rest
    else .error ⟨.invalidEscape, (p.after '\\').afterByte c⟩
  | ['\\'] => .error ⟨.endInString, p.after '\\'⟩
  | c :: rest =>
    if c.toNat < 0x20 then .error ⟨.controlCharacter, p⟩ else skipText (p.after c) rest

/-- Passes an exponent part, from its letter on. -/
def skipExponent (cur : Cursor) : Except Fault Cursor :=
  let cur := cur.next
  let cur := match cur.rest with
    | '+' :: _ | '-' :: _ => cur.next
    | _ => cur
  match cur.rest with
  | c :: _ =>
    if isDigit c then .ok (skipDigits 0 cur.position cur.rest).2
    else .error (cur.peekFault .invalidNumber)
  | [] => .error (cur.fault .invalidNumber)

/-- Passes what follows the whole part of a number. -/
def skipFraction (cur : Cursor) : Except Fault Cursor :=
  match cur.rest with
  | '.' :: _ =>
    let cur := cur.next
    let (count, after) := skipDigits 0 cur.position cur.rest
    if count = 0 then .error (after.peekFault .invalidNumber)
    else
      match after.rest with
      | 'e' :: _ | 'E' :: _ => skipExponent after
      | _ => .ok after
  | 'e' :: _ | 'E' :: _ => skipExponent cur
  | _ => .ok cur

/-- Passes a number after its sign. -/
def skipNumber (cur : Cursor) : Except Fault Cursor :=
  match cur.rest with
  | '0' :: c :: _ =>
    if isDigit c then .error (cur.next.peekFault .invalidNumber) else skipFraction cur.next
  | c :: _ =>
    if isDigit c then skipFraction (skipDigits 0 cur.position cur.rest).2
    else .error (cur.peekFault .invalidNumber)
  | [] => .error (cur.fault .invalidNumber)

/-- A bracket that is open. -/
inductive Bracket where
  | list
  | object
  deriving DecidableEq

/-- Passes closing brackets, and stands before the next value with the brackets
still open, or behind the last bracket. A comma may only follow a value. -/
def skipClosing (fuel : Nat) (afterValue : Bool) (enclosing : List Bracket) (cur : Cursor) :
    Except Fault (List Bracket × Cursor) :=
  match fuel with
  | 0 => .error (cur.fault .recursionLimit)
  | fuel + 1 =>
    match enclosing with
    | [] => .ok ([], cur)
    | bracket :: outer =>
      let cur := cur.skipBlank
      let closes : Bool := match cur.rest, bracket with
        | ']' :: _, .list | '}' :: _, .object => true
        | _, _ => false
      if closes then skipClosing fuel true outer cur.next
      else
        let next : Except Fault Cursor :=
          match cur.rest with
          | [] => .error (cur.peekFault (if bracket = .list then .endInList else .endInObject))
          | ',' :: _ =>
            if afterValue then .ok cur.next else .ok cur
          | _ =>
            if afterValue then
              .error (cur.peekFault
                (if bracket = .list then .expectedListCommaOrEnd else .expectedObjectCommaOrEnd))
            else .ok cur
        next.bind fun cur =>
          match bracket with
          | .list => .ok (enclosing, cur)
          | .object => do
            let cur := cur.skipBlank
            match cur.rest with
            | [] => .error (cur.peekFault .endInObject)
            | '"' :: rest =>
              let cur ← skipText (cur.position.after '"') rest
              .ok (enclosing, ← readColon cur)
            | _ => .error (cur.peekFault .keyMustBeString)

/-- Passes a value; `enclosing` are the brackets opened on the way. -/
def skipValue (fuel : Nat) (enclosing : List Bracket) (cur : Cursor) : Except Fault Cursor :=
  match fuel with
  | 0 => .error (cur.fault .recursionLimit)
  | fuel + 1 => do
    let cur := cur.skipBlank
    let (afterValue, enclosing, cur) ← (match cur.rest with
      | [] => .error (cur.peekFault .endInValue)
      | 'n' :: _ => do .ok (true, enclosing, ← readIdent "ull".toList cur.next)
      | 't' :: _ => do .ok (true, enclosing, ← readIdent "rue".toList cur.next)
      | 'f' :: _ => do .ok (true, enclosing, ← readIdent "alse".toList cur.next)
      | '-' :: _ => do .ok (true, enclosing, ← skipNumber cur.next)
      | '"' :: rest => do .ok (true, enclosing, ← skipText (cur.position.after '"') rest)
      | '[' :: _ => .ok (false, .list :: enclosing, cur.next)
      | '{' :: _ => .ok (false, .object :: enclosing, cur.next)
      | c :: _ =>
        if isDigit c then do .ok (true, enclosing, ← skipNumber cur)
        else .error (cur.peekFault .expectedValue) : Except Fault (Bool × List Bracket × Cursor))
    let (enclosing, cur) ← skipClosing (fuel + 1) afterValue enclosing cur
    if enclosing.isEmpty then .ok cur else skipValue fuel enclosing cur

end Retag.Json
