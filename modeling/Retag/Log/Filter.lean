/-
Which events are logged. A filter is a list of directives, each with a limit for the
targets that begin as its own; of those that cover a target the one with the longest
own target decides, and of two with the same target the later.
-/
import Retag.Log.Event
import Retag.Text.Alphanumeric
import Retag.Text.Blank

namespace Retag.Log

/-- What a directive covers. -/
inductive Scope where
  | everything
  | targets (beginning : String)
  /-- Only what is logged within a span. Nothing is. -/
  | spans
  deriving DecidableEq, Repr

namespace Scope

def covers : Scope → String → Bool
  | everything, _ => true
  | targets beginning, target => beginning.toList.isPrefixOf target.toList
  | spans, _ => false

/-- The larger, the fewer targets are covered. -/
def depth : Scope → Nat
  | everything => 0
  | targets beginning => beginning.utf8ByteSize + 1
  | spans => 0

end Scope

/-- A limit on the rank of the events of a scope: none at all for zero. -/
structure Directive where
  scope : Scope
  limit : Nat
  deriving DecidableEq, Repr

abbrev Filter := List Directive

/-- The directive that decides on a target, given the best one so far. -/
def Directive.better (target : String) (best : Option Directive) (d : Directive) :
    Option Directive :=
  if d.scope.covers target then
    match best with
    | some b => if b.scope.depth ≤ d.scope.depth then some d else some b
    | none => some d
  else best

namespace Filter

/-- The directive that decides on a target. -/
def directive? (f : Filter) (target : String) : Option Directive :=
  f.foldl (Directive.better target) none

def allows (f : Filter) (e : Event) : Bool :=
  match f.directive? e.target with
  | some d => e.level.rank ≤ d.limit
  | none => false

/-- The filter of a verbosity: warnings of everything, and more of the program's
own targets from step to step. -/
def ofVerbosity (verbosity : Nat) : Filter :=
  let limit := match verbosity with
    | 0 => Level.warn.rank
    | 1 => Level.info.rank
    | _ => Level.debug.rank
  ⟨.everything, Level.warn.rank⟩
    :: ["tagsync_ctl", "tagsync_codegen", "tagsync_tags"].map fun t => ⟨.targets t, limit⟩

end Filter

/-! ## Reading -/

/-- A number in decimal digits, which a plus may precede. -/
def readRank (s : List Char) : Option Nat :=
  let digits := match s with
    | '+' :: s => s
    | s => s
  if !digits.isEmpty && digits.all Text.isAsciiDigit then
    some (digits.foldl (fun n c => 10 * n + (c.toNat - '0'.toNat)) 0)
  else none

/-- The limit that a number or the name of a level stands for. -/
def readLimit (s : List Char) : Option Nat :=
  match readRank s with
  | some n => if n ≤ Level.trace.rank then some n else none
  | none =>
    [("off", 0), ("error", 1), ("warn", 2), ("info", 3), ("debug", 4), ("trace", 5)].lookup
      (String.ofList (s.map Char.toLower))

/-- What follows the bracketed part that names a span, and its length with the
brackets. -/
def skipSpan (n : Nat) : List Char → Option (Nat × List Char)
  | ']' :: s => some (n + 1, s)
  | '\x7b' :: s =>
    let inside := s.takeWhile (· != '\x7d')
    match s.dropWhile (· != '\x7d') with
    | '\x7d' :: ']' :: rest =>
      if inside.isEmpty then none else some (n + inside.length + 3, rest)
    | _ => none
  | _ :: s => skipSpan (n + 1) s
  | [] => none

/-- The limit behind an equals sign; without a text it is no limit. -/
def limitAfter (s : List Char) : Option Nat :=
  if s.isEmpty then some Level.trace.rank else readLimit s

/-- Reads a directive: a level, a target, or a target or span with a level. The
places of its parts are counted from its first character that is not blank, but cut
from the whole text, so that blanks in front make a level unreadable. -/
def readDirective (text : List Char) : Option Directive :=
  let s := Text.trimStart (Text.trimEnd text)
  let n := (s.takeWhile fun c => c != '=' && c != '[').length
  match s, s.drop n with
  | [], _ => none
  | c :: _, rest =>
    if !(c == '[' || c == '-' || c == ':' || c == '_' || Text.isAlphanumeric c) then none
    else
      match rest with
      | '=' :: _ =>
        (limitAfter (text.drop (n + 1))).map
          (⟨.targets (String.ofList (text.take n)), ·⟩)
      | '[' :: inside =>
        match skipSpan (n + 1) inside with
        | some (_, []) => some ⟨.spans, Level.trace.rank⟩
        | some (m, '=' :: _) => (limitAfter (text.drop (m + 1))).map (⟨.spans, ·⟩)
        | _ => none
      | _ =>
        match readLimit text with
        | some limit => some ⟨.everything, limit⟩
        | none => some ⟨.targets (String.ofList text), Level.trace.rank⟩

/-- Reads a filter: directives between commas. A text without any lets errors
pass. -/
def Filter.read (text : String) : Option Filter :=
  (((text.splitOn ",").filter (· != "")).mapM fun t => readDirective t.toList).map fun f =>
    if f.isEmpty then [⟨.everything, Level.error.rank⟩] else f

end Retag.Log
