/-
What operations on files leave as it is.

A path leads through directories only, so it leads to the same place in every store
that has at least the same directories (`follow_mono`, `locate_mono`). The two ways
in which stores change here both keep the directories: directories come about where
there was nothing (`GainsDirectories`), and a store changes at a single place that
holds no directory (`AgreeOff`).

`Course.Meets` is the judgement on an operation that goes in steps: what holds of
every store it passes through, and of the last one if it succeeds or fails.
-/
import Retag.Files.Replace

namespace Retag.Files

/-- The regular file at a place, by its content and its mode. -/
def Store.file? (s : Store) (q : Place) : Option (ByteArray × Nat) :=
  match s.get? q with
  | some (.file content mode) => some (content, mode)
  | _ => none

/-- Each regular file of either store is one of the other, of the same content and
the same mode. -/
def SameFiles (s t : Store) : Prop := ∀ q, t.file? q = s.file? q

/-- At most directories come about, where there was nothing. -/
def GainsDirectories (s t : Store) : Prop :=
  ∀ q, t.get? q = s.get? q ∨ (s.get? q = none ∧ t.get? q = some .directory)

/-- The stores differ at one place at most. -/
def AgreeOff (p : Place) (s t : Store) : Prop := ∀ q, q ≠ p → t.get? q = s.get? q

/-- Each directory of the first store is one of the second. -/
def KeepsDirectories (s t : Store) : Prop :=
  ∀ q, s.get? q = some .directory → t.get? q = some .directory

section

variable {s t u : Store} {p : Place}

theorem Store.file?_congr {q : Place} (h : t.get? q = s.get? q) : t.file? q = s.file? q := by
  simp only [Store.file?, h]

theorem GainsDirectories.refl (s : Store) : GainsDirectories s s := fun _ => .inl rfl

theorem GainsDirectories.trans (h : GainsDirectories s t) (h' : GainsDirectories t u) :
    GainsDirectories s u := by
  intro q
  rcases h q with hq | ⟨hs, ht⟩
  · rw [← hq]
    exact h' q
  · rcases h' q with hq' | ⟨ht', -⟩
    · exact .inr ⟨hs, by rw [hq', ht]⟩
    · rw [ht] at ht'
      cases ht'

theorem GainsDirectories.sameFiles (h : GainsDirectories s t) : SameFiles s t := by
  intro q
  rcases h q with hq | ⟨hs, ht⟩
  · exact Store.file?_congr hq
  · simp only [Store.file?, hs, ht]

theorem GainsDirectories.of_eq (h : ∀ q, t.get? q = s.get? q) : GainsDirectories s t :=
  fun q => .inl (h q)

theorem AgreeOff.refl (p : Place) (s : Store) : AgreeOff p s s := fun _ _ => rfl

theorem AgreeOff.trans (h : AgreeOff p s t) (h' : AgreeOff p t u) : AgreeOff p s u :=
  fun q hq => (h' q hq).trans (h q hq)

theorem AgreeOff.symm (h : AgreeOff p s t) : AgreeOff p t s := fun q hq => (h q hq).symm

theorem agreeOff_put (hp : p ≠ []) (s : Store) (e : Entry) : AgreeOff p s (s.put p e) := by
  intro q hq
  rw [s.get?_put hp, if_neg hq]

theorem agreeOff_erase (hp : p ≠ []) (s : Store) : AgreeOff p s (s.erase p) := by
  intro q hq
  rw [s.get?_erase hp, if_neg hq]

theorem AgreeOff.keepsDirectories (h : AgreeOff p s t) (hp : s.get? p ≠ some .directory) :
    KeepsDirectories s t := by
  intro q hq
  have hne : q ≠ p := by
    rintro rfl
    exact hp hq
  rw [h q hne, hq]

theorem KeepsDirectories.trans (h : KeepsDirectories s t) (h' : KeepsDirectories t u) :
    KeepsDirectories s u := fun q hq => h' q (h q hq)

end

namespace Store

variable {s t : Store} {cwd : Place} {path : String}

/-! ## Following paths -/

theorem follow_mono (h : KeepsDirectories s t) {names : List String} {p q : Place}
    (hs : s.follow p names = .ok q) : t.follow p names = .ok q := by
  fun_induction s.follow p names with
  | case1 p => exact hs
  | case2 p names ih => exact ih hs
  | case3 p names ih => exact ih hs
  | case5 p name names hdot hdots hlong hdir ih =>
    rw [follow.eq_4 _ _ _ _ hdot hdots, if_neg hlong, h _ hdir]
    exact ih hs
  | case4 | case6 | case7 => cases hs

theorem locate_mono (h : KeepsDirectories s t) {target : Target}
    (hs : s.locate cwd path = .ok target) : t.locate cwd path = .ok target := by
  unfold locate at hs ⊢
  split at hs
  · cases hs
  · split at hs
    · cases hs
    · rename_i hempty hnul
      rw [if_neg hempty, if_neg hnul]
      simp only at hs ⊢
      cases hlast : (parts path).getLast? with
      | none => rw [hlast] at hs; exact hs
      | some last =>
        rw [hlast] at hs
        simp only at hs ⊢
        cases hf : s.follow (if isAbsolute path then [] else cwd) (parts path).dropLast with
        | error e => rw [hf] at hs; cases hs
        | ok d => rw [hf] at hs; rw [follow_mono h hf]; exact hs

/-- A path names a place: that of its last name, in the directory that the others
lead to. -/
def Names (s : Store) (cwd : Place) (path : String) (q : Place) : Prop :=
  ∃ directory name slash,
    s.locate cwd path = .ok (.named directory name slash) ∧ q = directory ++ [name]

/-- The names of a path that names a place: those that lead to its directory, and its
own. -/
theorem locate_named {directory : Place} {name : String} {slash : Bool} (h : s.locate cwd path = .ok (.named directory name slash)) :
    ∃ before, parts path = before ++ [name] ∧ s.follow (if isAbsolute path then [] else cwd) before = .ok directory ∧
      name ≠ "." ∧ name ≠ ".." ∧ ¬ longestName < name.utf8ByteSize := by
  unfold locate at h
  split at h
  · cases h
  split at h
  · cases h
  simp only at h
  split at h
  · cases h
  rename_i last hlast
  cases hf : s.follow (if isAbsolute path then [] else cwd) (parts path).dropLast with
  | error e => rw [hf] at h; cases h
  | ok d =>
    rw [hf] at h
    simp only [Except.bind] at h
    split at h
    · cases h
    rename_i hdot
    split at h
    · cases h
    rename_i hdots
    split at h
    · cases h
    rename_i hlong
    cases h
    obtain ⟨before, hbefore⟩ := List.getLast?_eq_some_iff.1 hlast
    refine ⟨before, hbefore, ?_, hdot, hdots, hlong⟩
    rwa [hbefore, List.dropLast_concat] at hf

/-- The last name of the place that a path names is one of its own names. -/
theorem mem_parts_of_locate {directory : Place} {name : String} {slash : Bool}
    (hs : s.locate cwd path = .ok (.named directory name slash)) : name ∈ parts path := by
  obtain ⟨before, hparts, -⟩ := locate_named hs
  simp [hparts]

/-! ## Fresh names -/

theorem length_le_foldr {names : List String} {name : String} (h : name ∈ names) :
    name.length ≤ names.foldr (fun name n => name.length + n) 0 := by
  induction names with
  | nil => cases h
  | cons other names ih =>
    rw [List.foldr_cons]
    rcases List.mem_cons.1 h with rfl | h
    · exact Nat.le_add_right _ _
    · exact Nat.le_trans (ih h) (Nat.le_add_left _ _)

theorem ne_freshName {names : List String} {name : String}
    (h : name ∈ names ++ s.entries.flatMap (·.1)) : name ≠ s.freshName names := by
  have hprefix : ".tagsync-".length = 9 := rfl
  have hle := length_le_foldr h
  intro heq
  have hlength := congrArg String.length heq
  simp only [freshName, String.length_append, String.length_ofList, List.length_replicate, hprefix] at hlength
  omega

/-- Nothing has the fresh name. -/
theorem get?_freshName (s : Store) (names : List String) (directory : Place) :
    s.get? (directory ++ [s.freshName names]) = none := by
  have hnew : s.entries.lookup (directory ++ [s.freshName names]) = none := by
    rw [List.lookup_eq_none_iff]
    intro e he
    rw [bne_iff_ne]
    intro heq
    have hmem : s.freshName names ∈ s.entries.flatMap (·.1) :=
      List.mem_flatMap.2 ⟨e, he, by simp [← heq]⟩
    exact ne_freshName (List.mem_append_right _ hmem) rfl
  simp [get?, hnew]

end Store

/-! ## Operations in steps -/

namespace Course

/-- What holds of every store that an operation passes through, and of the last one
if the operation succeeds or fails. -/
structure Meets (along done failed : Store → Prop) (r : Course) : Prop where
  along : ∀ s ∈ r.states, along s
  done : r.result = .ok () → done r.store
  failed : ∀ e, r.result = .error e → failed r.store

section

variable {along done done' failed failed' : Store → Prop} {r : Course} {s : Store}

theorem meets_rest (ha : along s) (hd : done s) : (rest s).Meets along done failed where
  along := by simpa [rest, states] using ha
  done := fun _ => hd
  failed := nofun

theorem meets_fail (ha : along s) (hf : failed s) (e : IoFault) :
    (fail s e).Meets along done failed where
  along := by simpa [fail, states] using ha
  done := nofun
  failed := fun _ _ => hf

theorem meets_step {i : Interruption} {kind : Step} {act : Except IoFault Store} (ha : along s)
    (hf : failed s) (hd : ∀ t, act = .ok t → along t ∧ done t) :
    (step i kind s act).Meets along done failed := by
  unfold step
  split
  · exact meets_fail ha hf _
  · exact meets_fail ha hf _
  · rename_i t _
    obtain ⟨hat, hdt⟩ := hd t rfl
    exact ⟨by simpa [states] using ⟨ha, hat⟩, fun _ => hdt, nofun⟩

/-- The second operation starts from what the first one leaves when it succeeds. -/
theorem Meets.next {f : Store → Course} (hr : r.Meets along done failed)
    (hf : ∀ t, done t → (f t).Meets along done' failed) : (r.next f).Meets along done' failed := by
  unfold Course.next
  split
  · rename_i hok
    have hsecond := hf r.store (hr.done hok)
    refine ⟨fun t ht => ?_, hsecond.done, hsecond.failed⟩
    rw [states, List.append_assoc, List.mem_append] at ht
    rcases ht with ht | ht
    · exact hr.along t ht
    · exact hsecond.along t ht
  · rename_i e he
    refine ⟨hr.along, fun hok => ?_, hr.failed⟩
    rw [he] at hok
    cases hok

end

end Course

/-! ## Making directories -/

namespace Store

variable {s t : Store} {cwd : Place} {p : Path}

theorem gainsDirectories_put {q : Place} (hq : q ≠ []) (hnone : s.get? q = none) :
    GainsDirectories s (s.put q .directory) := by
  intro p
  rw [s.get?_put hq]
  by_cases hp : p = q
  · subst hp
    exact .inr ⟨hnone, if_pos rfl⟩
  · exact .inl (if_neg hp)

theorem makeDirectory_gains (h : s.makeDirectory cwd p = .ok t) : GainsDirectories s t := by
  unfold makeDirectory at h
  split at h
  · cases h
  split at h
  · cases h
  rename_i last _
  cases hf : s.follow (if p.absolute then [] else cwd) p.names.dropLast with
  | error e => rw [hf] at h; cases h
  | ok above =>
    rw [hf] at h
    simp only [Except.bind] at h
    split at h
    · cases h
    split at h
    · cases h
    split at h
    · cases h
    rename_i hthere
    have hnone : s.get? (above ++ [last]) = none := by simpa using hthere
    cases h
    exact gainsDirectories_put (by simp) hnone

/-- An operation that makes directories, and at most that, whether it succeeds or
fails. -/
abbrev OnlyGains (s : Store) : Course → Prop :=
  Course.Meets (GainsDirectories s) (GainsDirectories s) (GainsDirectories s)

theorem tryDirectory_gains (h : GainsDirectories s t) (i : Interruption) (again : Bool) :
    OnlyGains s (t.tryDirectory cwd i p again) :=
  Course.meets_step h h fun _ hu =>
    have hgain := h.trans (makeDirectory_gains hu)
    ⟨hgain, hgain⟩

theorem orThere_gains {r : Course} (h : OnlyGains s r) : OnlyGains s (orThere cwd p r) := by
  unfold orThere
  split
  · have hlast : GainsDirectories s r.store := h.along _ (by simp [Course.states])
    exact ⟨h.along, fun _ => hlast, nofun⟩
  · exact h

theorem makeAll_gains (s : Store) (cwd : Place) (i : Interruption) (absolute : Bool)
    (names : List String) : OnlyGains s (s.makeAll cwd i absolute names) := by
  induction names with
  | nil => exact Course.meets_rest (.refl s) (.refl s)
  | cons name above ih =>
    unfold makeAll
    simp only
    split
    · exact ih.next fun t ht => orThere_gains (tryDirectory_gains ht i true)
    · exact orThere_gains (tryDirectory_gains (.refl s) i false)

/-- Making directories makes directories and nothing else, also when it fails. -/
theorem makeDirectories_gains (s : Store) (cwd : Place) (p : Path) (i : Interruption) :
    OnlyGains s (s.makeDirectories cwd p i) := makeAll_gains ..

end Store

end Retag.Files
