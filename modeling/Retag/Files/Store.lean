/-
Files and directories. A store holds what there is at each place, a place being the
names on the way to it from the root. The root itself is always a directory.

`Store.get?` is the view of a store: `put` and `erase` change it at one place.
-/
namespace Retag.Files

/-- Why the system refuses an operation on files. -/
inductive IoFault where
  | notFound
  | busy
  | alreadyThere
  | notDirectory
  | isDirectory
  | nameTooLong
  /-- A path with the character of code zero. -/
  | nulInPath
  /-- The content of a file is no text. -/
  | notText
  /-- What does not come from the files and directories there are, such as a full
  disk. -/
  | outside (message : String)
  deriving DecidableEq, Repr

def IoFault.message : IoFault → String
  | notFound => "No such file or directory (os error 2)"
  | busy => "Device or resource busy (os error 16)"
  | alreadyThere => "File exists (os error 17)"
  | notDirectory => "Not a directory (os error 20)"
  | isDirectory => "Is a directory (os error 21)"
  | nameTooLong => "File name too long (os error 36)"
  | nulInPath => "file name contained an unexpected NUL byte"
  | notText => "stream did not contain valid UTF-8"
  | outside message => message

/-- The names on the way from the root. -/
abbrev Place := List String

inductive Entry where
  | directory
  /-- A regular file with the bits of its mode. -/
  | file (content : ByteArray) (mode : Nat)

instance : DecidableEq Entry
  | .directory, .directory => isTrue rfl
  | .directory, .file .. => isFalse nofun
  | .file .., .directory => isFalse nofun
  | .file c m, .file d n =>
    if h : c.data = d.data ∧ m = n then
      isTrue (by cases c; cases d; simp_all)
    else
      isFalse fun e => h (by cases e; exact ⟨rfl, rfl⟩)

structure Store where
  entries : List (Place × Entry)

namespace Store

def empty : Store := ⟨[]⟩

def get? (s : Store) (p : Place) : Option Entry :=
  if p = [] then some .directory else s.entries.lookup p

def erase (s : Store) (p : Place) : Store := ⟨s.entries.filter (·.1 != p)⟩

def put (s : Store) (p : Place) (e : Entry) : Store := ⟨(p, e) :: (s.erase p).entries⟩

def isDirectory (s : Store) (p : Place) : Bool := s.get? p == some .directory

theorem lookup_erase (entries : List (Place × Entry)) (p q : Place) :
    (entries.filter (·.1 != p)).lookup q = if q = p then none else entries.lookup q := by
  induction entries with
  | nil => simp
  | cons e entries ih =>
    obtain ⟨k, v⟩ := e
    rw [List.filter_cons, List.lookup_cons]
    by_cases hk : k = p
    · subst hk
      by_cases hq : q = k
      · subst hq
        simpa using ih
      · have hb : (q == k) = false := beq_eq_false_iff_ne.mpr hq
        simp [ih, hq, hb]
    · by_cases hq : q = k
      · subst hq
        simp [hk]
      · have hb : (q == k) = false := beq_eq_false_iff_ne.mpr hq
        simp [hk, hb, ih, List.lookup_cons]

theorem get?_erase (s : Store) {p : Place} (hp : p ≠ []) (q : Place) :
    (s.erase p).get? q = if q = p then none else s.get? q := by
  unfold get? erase
  by_cases hq : q = []
  · subst hq
    simp [hp.symm]
  · simp [hq, lookup_erase]

theorem get?_put (s : Store) {p : Place} (hp : p ≠ []) (e : Entry) (q : Place) :
    (s.put p e).get? q = if q = p then some e else s.get? q := by
  by_cases hq : q = p
  · subst hq
    simp [get?, put, hp]
  · have hb : (q == p) = false := beq_eq_false_iff_ne.mpr hq
    have herase := s.get?_erase hp q
    rw [if_neg hq] at herase ⊢
    rw [← herase]
    simp [get?, put, List.lookup_cons, hb]

end Store

/-! ## Modes -/

/-- The mode of a file that is created with a mode: without the bits of the mask. -/
def createdMode (umask mode : Nat) : Nat := mode ^^^ (mode &&& umask)

/-- The mode with which an ordinary file is created: readable and writable for all. -/
def ordinaryMode : Nat := 0o666

/-- The usual mask: what is created is not writable for others than its owner. -/
def usualUmask : Nat := 0o022

/-- The mode of a new file: readable for all, and writable for its owner. -/
def newFileMode : Nat := 0o644

end Retag.Files
