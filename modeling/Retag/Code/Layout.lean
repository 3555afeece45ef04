/-
Laying out text in lines of a limited width.

A document is text with places where a line may end, in groups. A group that fits
the line stays on it. Of one that does not, a consistent group ends the line at
each of its places, an inconsistent one only where the text up to the next place
would not fit. Whether something fits is judged with the text that follows it, up
to the next place where a line may end outside of it.

Widths are counted in bytes.
-/
namespace Retag.Code

/-- A place where a line may end. -/
structure Gap where
  /-- Added to the margin of the line that begins here. -/
  offset : Int := 0
  /-- The blanks that stand here if the line goes on. -/
  blank : Nat := 0
  /-- Ends the line, if it ends here. -/
  before : String := ""
  /-- Begins the new line. -/
  after : String := ""
  /-- The line never ends here. -/
  never : Bool := false
  deriving DecidableEq, Repr

/-- Wider than any line. -/
def endless : Nat := 0xffff

namespace Gap

/-- A place without a blank. -/
def empty : Gap := {}

def space : Gap := { blank := 1 }

/-- The line always ends here. -/
def newline : Gap := { blank := endless }

/-- No line ends here, but what comes before is judged without what comes after. -/
def none : Gap := { never := true }

/-- A comma that is only written at the end of a line. -/
def comma : Gap := { before := "," }

def shift (g : Gap) (by_ : Int) : Gap := { g with offset := g.offset + by_ }

end Gap

inductive Doc where
  | text (s : String)
  | gap (g : Gap)
  /-- What comes before is judged without what comes after; this adds nothing to
  the output. -/
  | stop
  /-- A group; its lines are moved by the offset if it does not fit. -/
  | group (consistent : Bool) (offset : Int) (body : List Doc)
  deriving Repr

namespace Doc

/-- The width of one level of nesting. -/
def indent : Int := 4

mutual

/-- The width on one line. -/
def width : Doc → Nat
  | .text s => s.utf8ByteSize
  | .gap g => g.blank
  | .stop => 0
  | .group _ _ body => widths body

def widths : List Doc → Nat
  | [] => 0
  | d :: rest => width d + widths rest

end

/-- The width up to the next place where the line may end. What follows all of it
is `after` wide. -/
def lead (after : Nat) : List Doc → Nat
  | [] => after
  | .gap _ :: _ | .stop :: _ => 0
  | d :: rest => d.width + lead after rest

/-! ## Building documents -/

/-- A consistent group. -/
def block (body : List Doc) : Doc := .group true indent body

def newline : Doc := .gap .newline

/-- Moves the line that begins at the end of a document. -/
def shiftLast (by_ : Int) : List Doc → List Doc
  | [] => []
  | [.gap g] => [.gap (g.shift by_)]
  | d :: rest => d :: shiftLast by_ rest

/-- The documents, each followed by a comma; the last one has a comma only at the
end of a line, where it closes the level. -/
def commaList : List (List Doc) → List Doc
  | [] => []
  | [d] => d ++ [.gap (Gap.comma.shift (-indent))]
  | d :: rest => d ++ [.text ",", .gap .space] ++ commaList rest

/-- A list between brackets, one item on a line if it does not fit. -/
def enclosed (opening : String) (items : List (List Doc)) (closing : String) : List Doc :=
  match items with
  | [] => [.text opening, .text closing]
  | items => [.text opening, block (.gap .empty :: commaList items), .text closing]

/-- A list between parentheses; a single item is followed by a comma. -/
def tuple : List (List Doc) → List Doc
  | [item] => [.text "(",
      block (.gap .empty :: item ++ [.text ",", .gap (Gap.empty.shift (-indent))]), .text ")"]
  | items => enclosed "(" items ")"

/-- Lines between braces at the end of `head`, which belongs to the same group. -/
def braced (head : List Doc) (lines : List Doc) : List Doc :=
  match lines with
  | [] => [block (head ++ [.text "\x7b", .stop]), .text "\x7d"]
  | lines => [block (head ++ [.text "\x7b", newline] ++ shiftLast (-indent) lines), .text "\x7d"]

end Doc

/-! ## Rendering -/

/-- How the group at hand is laid out. -/
inductive Frame where
  | fits
  | broken (consistent : Bool)
  deriving DecidableEq, Repr

/-- Where the next character goes: behind blanks that are not written yet, with
so much space left on the line. -/
structure Pen where
  pending : Nat
  space : Int
  deriving DecidableEq, Repr

/-- The width of a line. -/
def lineWidth : Int := 89

/-- The least space that a line offers, however far it is indented. -/
def leastSpace : Int := 60

/-- The start of a line. -/
def Pen.start (margin : Nat) : Pen := ⟨margin, max (lineWidth - margin) leastSpace⟩

/-- Writes text on the line. -/
def Pen.write (p : Pen) (s : String) : String × Pen :=
  (String.ofList (List.replicate p.pending ' ') ++ s, ⟨0, p.space - s.utf8ByteSize⟩)

/-- Writes text on the line if there is any. -/
def Pen.writeSome (p : Pen) (s : String) : String × Pen :=
  if s = "" then ("", p) else p.write s

/-- Passes a place where the line may end; `lead` is the width up to the next one. -/
def Gap.render (g : Gap) (frame : Frame) (margin : Int) (lead : Nat) (p : Pen) : String × Pen :=
  let goesOn : Bool := g.never || match frame with
    | .fits => true
    | .broken true => false
    | .broken false => decide ((g.blank + lead : Int) ≤ p.space)
  if goesOn then ("", ⟨p.pending + g.blank, p.space - g.blank⟩)
  else
    let (s, _) := p.writeSome g.before
    let (t, p) := (Pen.start (margin + g.offset).toNat).writeSome g.after
    (s ++ "\n" ++ t, p)

mutual

/-- Lays out a document; what follows it is `after` wide up to the next place
where the line may end. -/
def Doc.render (frame : Frame) (margin : Int) (after : Nat) (p : Pen) : Doc → String × Pen
  | .text s => p.write s
  | .gap g => g.render frame margin after p
  | .stop => ("", p)
  | .group consistent offset body =>
    if p.space < (Doc.widths body + after : Int) then
      Doc.renderAll (.broken consistent) (margin + offset) after p body
    else Doc.renderAll .fits margin after p body

def Doc.renderAll (frame : Frame) (margin : Int) (after : Nat) (p : Pen) :
    List Doc → String × Pen
  | [] => ("", p)
  | d :: rest =>
    let (s, p) := Doc.render frame margin (Doc.lead after rest) p d
    let (t, p) := Doc.renderAll frame margin after p rest
    (s ++ t, p)

end

/-- The text of documents one below the other, from the start of a line. -/
def Doc.lines (ds : List Doc) : String :=
  (Doc.renderAll (.broken true) 0 0 (Pen.start 0) ds).1

end Retag.Code
