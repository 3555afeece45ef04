/-
Documents of items, and the text of a file. The items of a file stand one below
the other; how one is laid out does not depend on the others.
-/
import Retag.Code.Print.Exprs
import Retag.Text.Blank

namespace Retag.Code

open Doc

/-! ## Attributes -/

/-- A text without the blanks at the ends of its lines but the last. -/
def trimLines (s : String) : String :=
  let lines := s.splitOn "\n"
  "\n".intercalate (lines.dropLast.map (fun l => String.ofList (Text.trimEnd l.toList))
    ++ lines.getLast?.toList)

/-- A documenting comment, on lines of its own. It is written behind slashes if it
has one line, else between them. -/
def docLines (inner : Bool) (s : String) : List Doc :=
  if !s.contains '\n' && (inner || !s.startsWith "/") then
    let line := String.ofList ((s.toList.reverse.dropWhile (· == ' ')).reverse)
    [.text (if inner then "//!" else "///"), .text line, newline]
  else
    [.text (if inner then "/*!" else "/**"), .text (trimLines s), .text "*/", newline]

/-- The tokens between the brackets of an attribute, up to the bracket that closes
them: their documents, and what is left. Words and literals have a blank between
them; `afterWord` is whether one was passed. -/
def markDocs : Nat → Bool → List Token → List Doc × List Token
  | 0, _, ts => ([], ts)
  | fuel + 1, afterWord, ts =>
    let blank : List Doc := if afterWord then [.gap .space] else []
    match ts with
    | [] => ([], [])
    | .closing _ :: ts => ([], ts)
    | .opening b :: ts =>
      let (inner, ts) := markDocs fuel false ts
      let (rest, ts) := markDocs fuel false ts
      (enclosedMark b inner ++ rest, ts)
    | .sign c _ :: ts =>
      let (rest, ts') := markDocs fuel false ts
      let atEnd : Bool := match ts with
        | [] | .closing _ :: _ => true
        | _ => false
      if c = ',' && atEnd then (.gap Gap.comma :: rest, ts')
      else
        ((if c = '=' && afterWord then [.text " "] else []) ++ .text (String.singleton c)
          :: (if c = '=' then [.text " "] else if c = ',' then [.gap .space] else []) ++ rest, ts')
    | .lifetime _ :: _ | .doc .. :: _ | .word _ :: _ | .literal _ :: _ =>
      match ts with
      | .lifetime s :: ts =>
        let (rest, ts) := markDocs fuel true ts
        (.text ("\x27" ++ s) :: rest, ts)
      | t :: ts =>
        let (rest, ts) := markDocs fuel true ts
        (blank ++ .text t.text :: rest, ts)
      | [] => ([], [])
where
  /-- Documents between brackets; parentheses may have lines of their own. -/
  enclosedMark (b : Bracket) (inner : List Doc) : List Doc :=
    match b with
    | .parenthesis =>
      let ended : List Doc := match inner.getLast? with
        | some (.gap g) => if g = Gap.comma then [] else [.gap .empty]
        | _ => [.gap .empty]
      [.text "(", block (.gap .empty :: shiftLast (-indent) (inner ++ ended)), .text ")"]
    | b => .text (String.singleton b.opening) :: inner ++ [.text (String.singleton b.closing)]

/-- An attribute, on lines of its own if what it belongs to has them. -/
def Attribute.docs (inner : Bool) : Attribute → List Doc
  | .doc s => docLines inner s
  | .mark path global arguments =>
    [.text (if inner then "#![" else "#["), .text (pathText path global)]
      ++ (match arguments with
        | none => []
        | some (b, ts) => (markDocs (2 * ts.length + 4) false (.opening b :: ts ++ [.closing b])).1)
      ++ [.text "]", .gap .space]
  | .value path global e =>
    [.text (if inner then "#![" else "#["), .text (pathText path global), .text " = "]
      ++ e.docs (.whole false) ++ [.text "]", .gap .space]

def attributesDocs (inner : Bool) (attributes : List Attribute) : List Doc :=
  attributes.flatMap (Attribute.docs inner)

/-! ## Items -/

def Visibility.text : Visibility → String
  | .inherited => ""
  | .everyone => "pub "
  | .within s => "pub(" ++ s ++ ") "

/-- The last name of a path of imports is a group. -/
def UseTree.endsInGroup : UseTree → Bool
  | .path _ rest => rest.endsInGroup
  | .group _ => true
  | _ => false

mutual

def UseTree.docs : UseTree → List Doc
  | .name s => [.text s]
  | .renamed s t => [.text s, .text " as ", .text t]
  | .all => [.text "*"]
  | .path s rest => .text s :: .text "::" :: rest.docs
  | .group [] => [.text "\x7b\x7d"]
  | .group items =>
    [.text "\x7b",
      block [.gap .empty, .group false 0 (useTreesDocs items), .gap (Gap.comma.shift (-indent))],
      .text "\x7d"]

def useTreesDocs : List UseTree → List Doc
  | [] => []
  | [t] => t.docs
  | t :: rest =>
    t.docs ++ [.text ",", if t.endsInGroup then newline else .gap .space] ++ useTreesDocs rest

end

/-- What an item is generic in, lifetimes first. -/
def genericsDocs (generics : List Generic) : List Doc :=
  let docs (g : Generic) : List Doc :=
    if g.isLifetime then
      .text ("\x27" ++ g.name) :: (match g.bounds with
        | [] => []
        | bounds => .text ": " :: separated " + " (tysDocs bounds))
    else
      [.text g.name, .group false indent (match tysDocs g.bounds with
        | [] => []
        | b :: bounds =>
          .text ": " :: b ++ bounds.flatMap fun b => .gap .space :: .text "+ " :: b)]
  match generics with
  | [] => []
  | generics =>
    [.text "<",
      .group true 0 (.gap .empty :: commaList
        ((generics.filter (·.isLifetime) ++ generics.filter fun g => !g.isLifetime).map docs)),
      .text ">"]

def Receiver.docs (r : Receiver) : List Doc :=
  [.text ((match r.reference with
    | none => ""
    | some none => "&"
    | some (some s) => "&\x27" ++ s ++ " ") ++ (if r.mutable then "mut self" else "self"))]

def Signature.docs (s : Signature) : List Doc :=
  [.text (String.join (s.qualifiers.map (· ++ " "))), .text "fn ", .text s.name]
    ++ genericsDocs s.generics ++ [.text "(", .gap .none]
    ++ (match (s.receiver.map Receiver.docs).toList ++ s.parameters.map Binding.docs with
      | [] => []
      | ps => [.group true 0 (.gap .empty :: commaList ps)])
    ++ .text ")" :: match s.result with
      | none => []
      | some t => [.group true (-indent) (.text " -> " :: t.docs)]

def Field.docs (f : Field) : List Doc :=
  attributesDocs false f.attributes ++ .text f.visibility.text
    :: (match f.name with
      | some s => [.text s, .text ": "]
      | none => []) ++ f.ty.docs

def Variant.docs (v : Variant) : List Doc :=
  attributesDocs false v.attributes ++ .text v.name
    :: (match v.fields with
      | .none => []
      | .tuple fields => Doc.enclosed "(" (fields.map Field.docs) ")"
      | .named [] => [.text " \x7b \x7d"]
      | .named fields =>
        [.text " \x7b", block (.gap .space :: spacedCommaList (fields.map Field.docs)),
          .text "\x7d"])
    ++ match v.discriminant with
      | some e => .text " = " :: e.docs (.whole false)
      | none => []
where
  /-- The documents with commas; a blank stands for the last comma on one line. -/
  spacedCommaList : List (List Doc) → List Doc
    | [] => []
    | [d] => d ++ [.gap ({ Gap.comma with blank := 1 }.shift (-indent))]
    | d :: rest => d ++ [.text ",", .gap .space] ++ spacedCommaList rest

mutual

/-- An item behind its attributes, with the end of its last line. -/
def ItemKind.docs (v : Visibility) : ItemKind → List Doc
  | .use global tree =>
    [.text v.text, .text "use ", .text (if global then "::" else "")] ++ tree.docs
      ++ [.text ";", newline]
  | .function s body =>
    Doc.braced (.text v.text :: s.docs ++ [.text " "]) (stmtsDocs body) ++ [newline]
  | .mod name => [block [.text v.text, .text "mod ", .text name, .text ";"], newline]
  | .body name inside items =>
    Doc.braced [.text v.text, .text "mod ", .text name, .text " "]
      (attributesDocs true inside ++ itemsDocs items) ++ [newline]
  | .constant keyword name t e =>
    [.group true 0 (.text v.text :: .text (keyword ++ " ") :: .text name :: .text ": " :: t.docs
      ++ [.text " = ", .gap .none] ++ e.docs (.whole false) ++ [.text ";"]), newline]
  | .synonym name t =>
    [block (.text v.text :: .text "type " :: .text name :: [.text " = ", .gap .none] ++ t.docs
      ++ [.text ";"]), newline]
  | .struct name generics fields =>
    let head := .text v.text :: .text "struct " :: .text name :: genericsDocs generics
    match fields with
    | .none => [block (head ++ [.text ";"]), newline]
    | .tuple fields =>
      [block (head ++ Doc.enclosed "(" (fields.map Field.docs) ")" ++ [.text ";"]), newline]
    | .named fields =>
      Doc.braced (head ++ [.text " "]) (fields.flatMap fun f => f.docs ++ [.text ",", newline])
        ++ [newline]
  | .enumeration name generics variants =>
    Doc.braced (.text v.text :: .text "enum " :: .text name :: genericsDocs generics ++ [.text " "])
      (variants.flatMap fun x => x.docs ++ [.text ",", newline]) ++ [newline]
  | .implementation generics trait_ t inside items =>
    Doc.braced
      [.group false (-indent) (block (.text "impl" :: genericsDocs generics) :: .text " "
        :: (match trait_ with
          | some (p, global) =>
            (Ty.path p global).docs ++ [.gap .space, .text "for "]
          | none => []) ++ t.docs), .text " "]
      (attributesDocs true inside ++ itemsDocs items) ++ [newline]
  | .macroCall m => m.docs true ++ [newline]

def Item.docs : Item → List Doc
  | .mk attributes v kind => attributesDocs false attributes ++ kind.docs v

def itemsDocs : List Item → List Doc
  | [] => []
  | item :: rest => item.docs ++ itemsDocs rest

end

/-- The text of an item, which ends with a line feed. -/
def Item.text (item : Item) : String := Doc.lines item.docs

/-- What is told about a file. Without items it is one group, so that it may be a
line that does not end. -/
def File.attributesText (file : File) : String :=
  match file.items with
  | [] => Doc.lines [.group true 0 (attributesDocs true file.attributes)]
  | _ :: _ => Doc.lines (attributesDocs true file.attributes)

/-- The text of a file. -/
def File.text (file : File) : String :=
  (match file.interpreter with
    | some line => line ++ "\n"
    | none => "")
    ++ file.attributesText ++ String.join (file.items.map Item.text)

end Retag.Code
