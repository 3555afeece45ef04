/-
Reading JSON texts. A value is read by `readValue`; the readers of texts,
numbers and names it consists of are shared with the readers of typed values.

Nesting is limited to `nestingLimit` lists and objects inside one another. The
fuel of the readers is no limit: every step of theirs passes at least one
character, and `fuelFor` is more than a text has steps.
-/
import Retag.Json.Cursor

namespace Retag.Json

/-- Hexadecimal digits in either case. -/
def hexValue (c : Char) : Option Nat :=
  if '0' ≤ c ∧ c ≤ '9' then some (c.toNat - 48)
  else if 'a' ≤ c ∧ c ≤ 'f' then some (c.toNat - 87)
  else if 'A' ≤ c ∧ c ≤ 'F' then some (c.toNat - 55)
  else none

/-- The number that four hexadecimal digits write. -/
def hexValue4 (a b c d : Char) : Option Nat := do
  some (((← hexValue a) * 16 + (← hexValue b)) * 256 + (← hexValue c) * 16 + (← hexValue d))

/-- The fault of an escape that should go on with four hexadecimal digits. -/
def hexFault (rest : List Char) (p : Position) : Fault :=
  if rest.foldl (fun n c => n + c.utf8Size) 0 < 4 then
    ⟨.endInString, p.afterBytes 4 rest⟩
  else ⟨.invalidEscape, p.afterBytes 4 rest⟩

/-- The character that a letter after a backslash stands for. -/
def simpleEscape (c : Char) : Option Char :=
  if c = '"' then some '"'
  else if c = '\\' then some '\\'
  else if c = '/' then some '/'
  else if c = 'b' then some '\x08'
  else if c = 'f' then some '\x0c'
  else if c = 'n' then some '\n'
  else if c = 'r' then some '\r'
  else if c = 't' then some '\t'
  else none

/-- The fault after a first half of a surrogate pair that no second half
follows. -/
def pairFault (rest : List Char) (p : Position) : Fault :=
  match rest with
  | [] => ⟨.endInString, p⟩
  | '\\' :: tail =>
    let p := p.after '\\'
    match tail with
    | [] => ⟨.endInString, p⟩
    | 'u' :: tail => hexFault tail (p.after 'u')
    | c :: _ => ⟨.unexpectedEndOfHexEscape, p.afterByte c⟩
  | c :: _ => ⟨.unexpectedEndOfHexEscape, p.afterByte c⟩

/-- Reads a text up to its closing quote; `acc` holds what was read, backwards. -/
def readText (acc : List Char) (p : Position) : List Char → Except Fault (String × Cursor)
  | [] => .error ⟨.endInString, p⟩
  | '"' :: rest => .ok (String.ofList acc.reverse, ⟨rest, p.after '"'⟩)
  | '\\' :: 'u' :: a :: b :: c :: d :: rest =>
    match hexValue4 a b c d with
    | none => .error (hexFault (a :: b :: c :: d :: rest) ((p.after '\\').after 'u'))
    | some n =>
      let p := (((((p.after '\\').after 'u').after a).after b).after c).after d
      if 0xDC00 ≤ n ∧ n ≤ 0xDFFF then .error ⟨.loneSurrogate, p⟩
      else if 0xD800 ≤ n ∧ n ≤ 0xDBFF then
        match rest with
        | '\\' :: 'u' :: a' :: b' :: c' :: d' :: rest' =>
          match hexValue4 a' b' c' d' with
          | none => .error (pairFault rest p)
          | some m =>
            let p := (((((p.after '\\').after 'u').after a').after b').after c').after d'
            if 0xDC00 ≤ m ∧ m ≤ 0xDFFF then
              readText (Char.ofNat ((n - 0xD800) * 0x400 + (m - 0xDC00) + 0x10000) :: acc) p rest'
            else .error ⟨.loneSurrogate, p⟩
        | _ => .error (pairFault rest p)
      else readText (Char.ofNat n :: acc) p rest
  | '\\' :: c :: rest =>
    if c = 'u' then .error (hexFault rest ((p.after '\\').after 'u'))
    else
      match simpleEscape c with
      | some e => readText (e :: acc) ((p.after '\\').after c) rest
      | none => .error ⟨.invalidEscape, (p.after '\\').afterByte c⟩
  | ['\\'] => .error ⟨.endInString, p.after '\\'⟩
  | c :: rest =>
    if c.toNat < 0x20 then .error ⟨.controlCharacter, p.afterByte c⟩
    else readText (c :: acc) (p.after c) rest

/-- Reads the given letters. -/
def readIdent : List Char → Cursor → Except Fault Cursor
  | [], cur => .ok cur
  | e :: expected, cur =>
    match cur.rest with
    | [] => .error (cur.fault .endInValue)
    | c :: _ =>
      if c = e then readIdent expected cur.next else .error (cur.peekFault .expectedIdent)

/-! ## Numbers -/

def isDigit (c : Char) : Bool := '0' ≤ c && c ≤ '9'

def digitValue (c : Char) : Nat := c.toNat - 48

/-- The largest whole number read exactly. -/
def largestNatural : Nat := 0xffffffffffffffff

/-- Reads digits into a significand for as long as it fits 64 bits; also answers
how many it took. -/
def readDigits (n count : Nat) (p : Position) : List Char → Nat × Nat × Cursor
  | [] => (n, count, ⟨[], p⟩)
  | c :: rest =>
    if isDigit c ∧ n * 10 + digitValue c ≤ largestNatural then
      readDigits (n * 10 + digitValue c) (count + 1) (p.after c) rest
    else (n, count, ⟨c :: rest, p⟩)

/-- Passes digits and answers how many there were. -/
def skipDigits (count : Nat) (p : Position) : List Char → Nat × Cursor
  | [] => (count, ⟨[], p⟩)
  | c :: rest =>
    if isDigit c then skipDigits (count + 1) (p.after c) rest else (count, ⟨c :: rest, p⟩)

/-- `significand * 10 ^ exponent` as a double: the significand is rounded to a
double and multiplied with, or divided by, the rounded power of ten; powers
beyond `10 ^ 308` are divided by in parts. None if the number is too large. -/
def scaleDouble : Nat → Binary64 → Int → Option Binary64
  | 0, x, _ => some x
  | fuel + 1, x, e =>
    if e.natAbs ≤ 308 then do
      let p ← Binary64.pow10 e.natAbs
      if 0 ≤ e then x.mul p else x.div p
    else if x.isZero then some x
    else if 0 ≤ e then none
    else do scaleDouble fuel (← x.div (← Binary64.pow10 308)) (e + 308)

/-- The double that a significand, a power of ten and a sign write. -/
def doubleOf (negative : Bool) (significand : Nat) (e : Int) (cur : Cursor) :
    Except Fault (JsonNumber × Cursor) :=
  match (Binary64.ofNat significand).bind fun x => scaleDouble (e.natAbs / 308 + 2) x e with
  | some x => .ok (.double (if negative then x.neg else x), cur)
  | none => .error (cur.fault .numberOutOfRange)

/-- The largest exponent part that is read; a longer one makes the number zero
or too large. -/
def largestExponent : Nat := 0x7fffffff

/-- Reads the digits of an exponent part, the first of which was read. -/
def readExponentDigits (n : Nat) (p : Position) : List Char → Except Cursor (Nat × Cursor)
  | [] => .ok (n, ⟨[], p⟩)
  | c :: rest =>
    if isDigit c then
      if n * 10 + digitValue c ≤ largestExponent then
        readExponentDigits (n * 10 + digitValue c) (p.after c) rest
      else .error ⟨rest, p.after c⟩
    else .ok (n, ⟨c :: rest, p⟩)

/-- An exponent within the range of 32-bit numbers. -/
def saturate (e : Int) : Int := max (-0x80000000) (min 0x7fffffff e)

/-- Reads an exponent part, from its letter on. -/
def readExponent (negative : Bool) (significand : Nat) (e : Int) (cur : Cursor) :
    Except Fault (JsonNumber × Cursor) :=
  let cur := cur.next
  let (down, cur) := match cur.rest with
    | '+' :: _ => (false, cur.next)
    | '-' :: _ => (true, cur.next)
    | _ => (false, cur)
  match cur.rest with
  | [] => .error (cur.fault .endInValue)
  | c :: rest =>
    if isDigit c then
      match readExponentDigits (digitValue c) (cur.position.after c) rest with
      | .ok (n, cur) =>
        doubleOf negative significand (saturate (if down then e - n else e + n)) cur
      | .error cur =>
        if significand ≠ 0 ∧ !down then .error (cur.fault .numberOutOfRange)
        else
          let (_, cur) := skipDigits 0 cur.position cur.rest
          .ok (.double ⟨negative, 0, -1074⟩, cur)
    else .error (cur.peekFault .invalidNumber)

/-- Goes on after the digits of a fraction. -/
def finishFraction (negative : Bool) (significand : Nat) (e : Int) (cur : Cursor) :
    Except Fault (JsonNumber × Cursor) :=
  match cur.rest with
  | 'e' :: _ | 'E' :: _ => readExponent negative significand e cur
  | _ => doubleOf negative significand e cur

/-- Reads a fraction, from its point on. Digits beyond 64 bits do not count. -/
def readFraction (negative : Bool) (significand : Nat) (e : Int) (cur : Cursor) :
    Except Fault (JsonNumber × Cursor) :=
  let cur := cur.next
  let (n, count, cur) := readDigits significand 0 cur.position cur.rest
  match cur.rest with
  | c :: _ =>
    if isDigit c then
      let (_, cur) := skipDigits 0 cur.position cur.rest
      finishFraction negative n (e - count) cur
    else if count = 0 then .error (cur.peekFault .invalidNumber)
    else finishFraction negative n (e - count) cur
  | [] =>
    if count = 0 then .error (cur.peekFault .endInValue)
    else finishFraction negative n (e - count) cur

/-- Goes on after the digits of a whole number of at most 64 bits. -/
def finishWhole (negative : Bool) (n : Nat) (cur : Cursor) : Except Fault (JsonNumber × Cursor) :=
  match cur.rest with
  | '.' :: _ => readFraction negative n 0 cur
  | 'e' :: _ | 'E' :: _ => readExponent negative n 0 cur
  | _ =>
    if !negative then .ok (.natural n, cur)
    else if n = 0 ∨ 0x8000000000000000 < n then doubleOf true n 0 cur
    else .ok (.negative n, cur)

/-- Goes on where a whole number has more digits than 64 bits hold. -/
def finishLong (negative : Bool) (n : Nat) (cur : Cursor) : Except Fault (JsonNumber × Cursor) :=
  let (count, cur) := skipDigits 0 cur.position cur.rest
  match cur.rest with
  | '.' :: _ => readFraction negative n count cur
  | 'e' :: _ | 'E' :: _ => readExponent negative n count cur
  | _ => doubleOf negative n count cur

/-- Reads a number after its sign. -/
def readNumber (negative : Bool) (cur : Cursor) : Except Fault (JsonNumber × Cursor) :=
  match cur.rest with
  | [] => .error (cur.fault .endInValue)
  | '0' :: rest =>
    match rest with
    | c :: _ =>
      if isDigit c then .error (cur.next.peekFault .invalidNumber)
      else finishWhole negative 0 cur.next
    | [] => finishWhole negative 0 cur.next
  | c :: _ =>
    if isDigit c then
      let (n, _, cur) := readDigits 0 0 cur.position cur.rest
      match cur.rest with
      | c :: _ => if isDigit c then finishLong negative n cur else finishWhole negative n cur
      | [] => finishWhole negative n cur
    else .error (cur.peekFault .invalidNumber)

/-! ## Lists and objects -/

/-- Stands before the next item of a list: none if the list ends here. The first
item has no comma before it. -/
def nextItem (first : Bool) (cur : Cursor) : Except Fault (Option Cursor) :=
  let cur := cur.skipBlank
  match cur.rest with
  | [] => .error (cur.peekFault .endInList)
  | ']' :: _ => .ok none
  | c :: _ =>
    if first then .ok (some cur)
    else if c = ',' then
      let cur := cur.next.skipBlank
      match cur.rest with
      | [] => .error (cur.peekFault .endInValue)
      | ']' :: _ => .error (cur.peekFault .trailingComma)
      | _ => .ok (some cur)
    else .error (cur.peekFault .expectedListCommaOrEnd)

/-- Stands inside the quotes of the name of the next member of an object: none if
the object ends here. -/
def nextName (first : Bool) (cur : Cursor) : Except Fault (Option Cursor) :=
  let cur := cur.skipBlank
  match cur.rest with
  | [] => .error (cur.peekFault .endInObject)
  | '}' :: _ => .ok none
  | c :: _ =>
    if first then
      if c = '"' then .ok (some cur.next) else .error (cur.peekFault .keyMustBeString)
    else if c = ',' then
      let cur := cur.next.skipBlank
      match cur.rest with
      | [] => .error (cur.peekFault .endInValue)
      | '"' :: _ => .ok (some cur.next)
      | '}' :: _ => .error (cur.peekFault .trailingComma)
      | _ => .error (cur.peekFault .keyMustBeString)
    else .error (cur.peekFault .expectedObjectCommaOrEnd)

/-- Passes the colon between a name and its value. -/
def readColon (cur : Cursor) : Except Fault Cursor :=
  let cur := cur.skipBlank
  match cur.rest with
  | [] => .error (cur.peekFault .endInObject)
  | ':' :: _ => .ok cur.next
  | _ => .error (cur.peekFault .expectedColon)

/-- How many lists and objects may be open. -/
def nestingLimit : Nat := 127

mutual

/-- Reads a value that may open `depth` more lists and objects. -/
def readValue (fuel depth : Nat) (cur : Cursor) : Except Fault (Json × Cursor) :=
  match fuel with
  | 0 => .error (cur.fault .recursionLimit)
  | fuel + 1 =>
    let cur := cur.skipBlank
    match cur.rest with
    | [] => .error (cur.peekFault .endInValue)
    | 'n' :: _ => do .ok (.null, ← readIdent "ull".toList cur.next)
    | 't' :: _ => do .ok (.bool true, ← readIdent "rue".toList cur.next)
    | 'f' :: _ => do .ok (.bool false, ← readIdent "alse".toList cur.next)
    | '"' :: rest => do
      let (s, cur) ← readText [] (cur.position.after '"') rest
      .ok (.string s, cur)
    | '-' :: _ => do
      let (n, cur) ← readNumber true cur.next
      .ok (.number n, cur)
    | '[' :: _ =>
      match depth with
      | 0 => .error (cur.peekFault .recursionLimit)
      | depth + 1 => do
        let (items, cur) ← readItems fuel depth true cur.next
        .ok (.array items, cur)
    | '{' :: _ =>
      match depth with
      | 0 => .error (cur.peekFault .recursionLimit)
      | depth + 1 => do
        let (members, cur) ← readMembers fuel depth true cur.next
        .ok (ofMembers members, cur)
    | c :: _ =>
      if isDigit c then do
        let (n, cur) ← readNumber false cur
        .ok (.number n, cur)
      else .error (cur.peekFault .expectedValue)

/-- Reads the items of a list and its closing bracket. -/
def readItems (fuel depth : Nat) (first : Bool) (cur : Cursor) :
    Except Fault (List Json × Cursor) :=
  match fuel with
  | 0 => .error (cur.fault .recursionLimit)
  | fuel + 1 => do
    match ← nextItem first cur with
    | none => .ok ([], cur.skipBlank.next)
    | some cur =>
      let (v, cur) ← readValue fuel depth cur
      let (rest, cur) ← readItems fuel depth false cur
      .ok (v :: rest, cur)

/-- Reads the members of an object, in the order of the text, and its closing
brace. -/
def readMembers (fuel depth : Nat) (first : Bool) (cur : Cursor) :
    Except Fault (List (String × Json) × Cursor) :=
  match fuel with
  | 0 => .error (cur.fault .recursionLimit)
  | fuel + 1 => do
    match ← nextName first cur with
    | none => .ok ([], cur.skipBlank.next)
    | some cur =>
      let (k, cur) ← readText [] cur.position cur.rest
      let cur ← readColon cur
      let (v, cur) ← readValue fuel depth cur
      let (rest, cur) ← readMembers fuel depth false cur
      .ok ((k, v) :: rest, cur)

end

/-- More than the steps that reading a text takes. -/
def fuelFor (text : String) : Nat := 2 * text.length + 2

/-- Nothing but blanks may follow a value. -/
def readEnd (cur : Cursor) : Except Fault Unit :=
  let cur := cur.skipBlank
  if cur.rest.isEmpty then .ok () else .error (cur.peekFault .trailingCharacters)

/-- The value that a text writes. -/
def parse (text : String) : Except Fault Json := do
  let (v, cur) ← readValue (fuelFor text) nestingLimit (Cursor.start text)
  readEnd cur
  .ok v

end Retag.Json
