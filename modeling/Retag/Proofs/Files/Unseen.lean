/-
Operations on files take no notice of a place that they do not look at.

To find a path the system looks at each of its names in turn, as far as there are
directories (`Store.visited`). Two stores that differ at a place alone (`Apart`) give the
same answers for every path that is found without looking there, and remain such stores
under operations along such paths (`Course.Alike`). The names of the temporary files of a
replacement differ in the two, so its steps are not compared one by one: its outcome is that
of the renaming (`replaceBy_result`), and what it leaves is told by its outcome.
-/
import Retag.Proofs.Files.Success

namespace Retag.Files

namespace Store

variable {s t : Store} {cwd p q u : Place} {names others : List String} {name text : String}

/-! ## What a path looks at -/

end Store

/-! ## Stores that differ at a place -/

/-- Two stores that have this and that at a place and are equal everywhere else. -/
structure Apart (u : Place) (here there : Option Entry) (s t : Store) : Prop where
  off : AgreeOff u s t
  left : s.get? u = here
  right : t.get? u = there

/-- Two operations that end alike, and leave stores that have this and that at a place and
are equal everywhere else. -/
structure Course.Alike (u : Place) (here there : Option Entry) (r r' : Course) : Prop where
  result : r'.result = r.result
  store : Apart u here there r.store r'.store

variable {u : Place} {here there : Option Entry} {s t : Store} {cwd : Place}

theorem Apart.put {q : Place} (h : Apart u here there s t) (hq : q ≠ []) (hne : q ≠ u) (e : Entry) :
    Apart u here there (s.put q e) (t.put q e) where
  off := by
    intro p hp
    rw [s.get?_put hq, t.get?_put hq, h.off p hp]
  left := by rw [s.get?_put hq, if_neg (Ne.symm hne), h.left]
  right := by rw [t.get?_put hq, if_neg (Ne.symm hne), h.right]

namespace Course

variable {r r' : Course}

theorem Alike.fail {a b : Store} (h : Apart u here there a b) (e : IoFault) :
    Alike u here there (Course.fail a e) (Course.fail b e) := ⟨rfl, h⟩

theorem Alike.next {f f' : Store → Course} (h : Alike u here there r r')
    (hf : r.result = .ok () → Alike u here there (f r.store) (f' r'.store)) :
    Alike u here there (r.next f) (r'.next f') := by
  have hresult := h.result
  unfold Course.next
  cases hr : r.result with
  | ok x =>
    rw [hr] at hresult
    rw [hresult]
    exact ⟨(hf hr).result, (hf hr).store⟩
  | error e =>
    rw [hr] at hresult
    rw [hresult]
    exact h

end Course

namespace Store

open Course (Alike)

/-! ## Making directories -/

variable {path p : Path} {i : Interruption}

variable {umask : Nat} {temporary temporary' : Place} {text : String} {content : ByteArray}

/-- What becomes of renaming a file to a path, wherever the file is. -/
def moves (s : Store) (cwd : Place) (text : String) : Except IoFault Unit :=
  (s.locate cwd text).bind fun
    | .unnamed _ => .error .busy
    | .named p name slash =>
      if slash then .error .notDirectory
      else if s.isDirectory (p ++ [name]) then .error .isDirectory
      else .ok ()

/-- What becomes of a step that the store itself allows. -/
def passes (i : Interruption) (kind : Step) : Except IoFault Unit :=
  match i.fault kind with
  | some e => .error e
  | none => .ok ()

/-- How a replacement ends when the directory of the target is there. -/
def ending (s : Store) (cwd : Place) (text : String) (i : Interruption) : Except IoFault Unit :=
  (passes i .makeTemporary).bind fun _ =>
    ((if (s.modeAt cwd text).isSome then passes i .setMode else .ok ()).bind fun _ => passes i .write).bind fun _ =>
      (passes i .rename).bind fun _ => s.moves cwd text

theorem bind_eq_ok {x : Except IoFault Unit} {f : Unit → Except IoFault Unit} (h : x.bind f = .ok ()) :
    ∃ a, x = .ok a ∧ f a = .ok () := by
  cases x with
  | error e => cases h
  | ok a => exact ⟨a, rfl, h⟩

/-- A replacement puts its file at the place that the path named before. -/
theorem Replaced.get? {directory : Place} {name : String} {v : Store} (h : Replaced umask s cwd text content v)
    (hl : s.locate cwd text = .ok (.named directory name false)) (q : Place) :
    v.get? q = if q = directory ++ [name] then
      some (.file content (s.successorUnder umask (directory ++ [name]) content).2) else s.get? q := by
  obtain ⟨directory', name', hl', hdir, hfile, hothers⟩ := h
  have hkeep : KeepsDirectories s v := AgreeOff.keepsDirectories hothers hdir
  rw [locate_mono hkeep hl] at hl'
  cases hl'
  split
  next htarget =>
    unfold file? at hfile
    split at hfile
    next content' mode hget =>
      cases hfile
      rw [htarget, hget]
      rfl
    next => cases hfile
  next hne => exact hothers q hne

end Store

end Retag.Files
