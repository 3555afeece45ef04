/-
The syntax of source code, as far as units use it: imports, modules, types,
constants, functions and calls of macros; in functions, the statements and
expressions that requests are made of.
-/
import Retag.Code.Token

namespace Retag.Code

mutual

/-- A type. Bounds and lifetimes count as types where they stand for one. -/
inductive Ty where
  | path (p : List Segment) (global : Bool)
  | reference (lifetime : Option String) (mutable : Bool) (t : Ty)
  | tuple (items : List Ty)
  | paren (t : Ty)
  | slice (t : Ty)
  /-- Some type with bounds, after `impl` or `dyn`. -/
  | bounded (keyword : String) (bounds : List Ty)
  | lifetime (name : String)
  | never
  | inferred

/-- A name in a path, with the types it is applied to. -/
inductive Segment where
  | mk (name : String) (arguments : List Ty)

end

def Segment.name : Segment → String
  | .mk name _ => name

def Segment.arguments : Segment → List Ty
  | .mk _ arguments => arguments

inductive Pattern where
  | name (byRef mutable : Bool) (name : String)
  | path (p : List Segment) (global : Bool)
  | anything
  | literal (source : String)
  | tuple (items : List Pattern)
  | fields (p : List Segment) (global : Bool) (items : List Pattern)
  | reference (mutable : Bool) (p : Pattern)

/-- The call of a macro: its path, brackets and tokens. -/
structure MacroCall where
  path : List String
  global : Bool
  bracket : Bracket
  tokens : List Token

/-- A pattern whose type may be given. -/
structure Binding where
  pattern : Pattern
  ty : Option Ty

mutual

inductive Expr where
  | literal (source : String)
  | path (p : List Segment) (global : Bool)
  | anything
  | paren (e : Expr)
  | tuple (items : List Expr)
  | array (items : List Expr)
  /-- An array of one value so many times. -/
  | repetition (e count : Expr)
  | call (function : Expr) (arguments : List Expr)
  | method (receiver : Expr) (name : String) (types : List Ty) (arguments : List Expr)
  /-- The field of a name or a position. -/
  | field (e : Expr) (name : String)
  | index (e i : Expr)
  /-- Goes on with the value of a success. -/
  | attempt (e : Expr)
  | await (e : Expr)
  | unary (operator : String) (e : Expr)
  | reference (mutable : Bool) (e : Expr)
  | binary (operator : String) (left right : Expr)
  | assign (left right : Expr)
  | cast (e : Expr) (t : Ty)
  | closure (moves : Bool) (parameters : List Binding) (body : Expr)
  | ret (e : Option Expr)
  /-- Leaves a loop. -/
  | leave (e : Option Expr)
  /-- Goes on with the next round of a loop. -/
  | proceed
  | block (body : List Stmt)
  /-- A block whose author vouches for it. -/
  | vouched (body : List Stmt)
  | conditional (condition : Expr) (yes : List Stmt) (no : Option Expr)
  | loop (pattern : Pattern) (items : Expr) (body : List Stmt)
  | whileLoop (condition : Expr) (body : List Stmt)
  | endless (body : List Stmt)
  | macroCall (m : MacroCall)

inductive Stmt where
  | binding (b : Binding) (value : Option Expr)
  | expr (e : Expr) (semicolon : Bool)
  | macroCall (m : MacroCall) (semicolon : Bool)
  | nothing

end

/-- What an import names. -/
inductive UseTree where
  | name (s : String)
  | renamed (s newName : String)
  | all
  | path (s : String) (rest : UseTree)
  | group (items : List UseTree)

/-- Who sees an item: nobody else, everybody, or those the path names. -/
inductive Visibility where
  | inherited
  | everyone
  | within (name : String)
  deriving DecidableEq

/-- What is told about an item, or about what it stands in. -/
inductive Attribute where
  /-- A comment that documents. -/
  | doc (text : String)
  /-- A path, with tokens in brackets if there are any. -/
  | mark (path : List String) (global : Bool) (arguments : Option (Bracket × List Token))
  /-- A path with a value. -/
  | value (path : List String) (global : Bool) (e : Expr)

/-- A parameter that an item is generic in: a lifetime, or a type with bounds. -/
structure Generic where
  isLifetime : Bool
  name : String
  bounds : List Ty

/-- How a method takes what it is called on: by a reference, which may have a
lifetime, or as it is. -/
structure Receiver where
  reference : Option (Option String)
  mutable : Bool

structure Signature where
  /-- Words before the keyword of functions, such as `async`. -/
  qualifiers : List String
  name : String
  generics : List Generic
  receiver : Option Receiver
  parameters : List Binding
  result : Option Ty

/-- A field, which has no name in a tuple. -/
structure Field where
  attributes : List Attribute
  visibility : Visibility
  name : Option String
  ty : Ty

inductive Fields where
  | none
  | tuple (fields : List Field)
  | named (fields : List Field)

structure Variant where
  attributes : List Attribute
  name : String
  fields : Fields
  discriminant : Option Expr

mutual

inductive ItemKind where
  | use (global : Bool) (tree : UseTree)
  | function (s : Signature) (body : List Stmt)
  /-- A module in another file. -/
  | mod (name : String)
  /-- A module with its items, and what is told about it inside. -/
  | body (name : String) (inside : List Attribute) (items : List Item)
  /-- A constant or a static value. -/
  | constant (keyword name : String) (t : Ty) (value : Expr)
  /-- Another name for a type. -/
  | synonym (name : String) (t : Ty)
  | struct (name : String) (generics : List Generic) (fields : Fields)
  | enumeration (name : String) (generics : List Generic) (variants : List Variant)
  /-- What belongs to a type, or makes it one of a trait. -/
  | implementation (generics : List Generic) (trait_ : Option (List Segment × Bool)) (t : Ty)
    (inside : List Attribute) (items : List Item)
  | macroCall (m : MacroCall)

inductive Item where
  | mk (attributes : List Attribute) (visibility : Visibility) (kind : ItemKind)

end

/-- The content of a file: the line that names its interpreter, what is told about
the file, and its items. -/
structure File where
  interpreter : Option String
  attributes : List Attribute
  items : List Item

end Retag.Code
