/-
The words of a name written without blanks, and the name in snake case: its
words in lower case, joined by underscores.

A name splits at every character that is no letter or number, between a lower-
and an upper-case character, and before the last of several upper-case
characters that a lower-case one follows. Characters without case, as digits,
continue the word before them.
-/
import Retag.Text.Alphanumeric
import Retag.Text.LetterCase

namespace Retag.Text

/-- The case of the part of a word read so far, as far as its last character with
a case tells. -/
inductive WordMode where
  | boundary
  | lowercase
  | uppercase
  deriving DecidableEq

/-- The mode after a character that ends no word. -/
def WordMode.after (mode : WordMode) (c : Char) : WordMode :=
  if isLowercase c then .lowercase else if isUppercase c then .uppercase else mode

/-- The words of a run of letters and numbers. `word` holds the current word,
backwards. -/
def splitRun (mode : WordMode) (word : List Char) : List Char → List (List Char)
  | [] => []
  | [c] => [(c :: word).reverse]
  | c :: next :: rest =>
    if mode.after c = .lowercase ∧ isUppercase next then
      (c :: word).reverse :: splitRun .boundary [] (next :: rest)
    else if mode = .uppercase ∧ isUppercase c ∧ isLowercase next then
      word.reverse :: splitRun .boundary [c] (next :: rest)
    else splitRun (mode.after c) (c :: word) (next :: rest)

/-- The runs of letters and numbers of a text, some of which may be empty.
`run` holds the current run, backwards. -/
def alphanumericRuns (run : List Char) : List Char → List (List Char)
  | [] => [run.reverse]
  | c :: rest =>
    if isAlphanumeric c then alphanumericRuns (c :: run) rest
    else run.reverse :: alphanumericRuns [] rest

/-- A word in lower case. A sigma that ends a word has a form of its own. -/
def lowerWord : List Char → List Char
  | [] => []
  | ['Σ'] => ['ς']
  | c :: rest => lowerChars c ++ lowerWord rest

/-- The words of a text, in lower case. -/
def words (s : List Char) : List (List Char) :=
  ((alphanumericRuns [] s).flatMap (splitRun .boundary [])).map lowerWord

/-- A text in snake case. -/
def snakeCase (s : String) : String :=
  String.ofList (List.intercalate ['_'] (words s.toList))

end Retag.Text
