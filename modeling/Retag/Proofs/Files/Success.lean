/-
What a replacement leaves that succeeds.

Making directories makes only those that the path of the target leads through
(`GainsAlong`): each is made at the end of some first names of that path, and by then
these lead to it (`makeDirectory_along`). The renaming changes one more place, the one
that the path names. So the path leads through directories afterwards, and every place
but these is as it was (`replaceUnder_written`).

The mode of a new file is what the mask leaves of the ordinary mode. Once the file is
there, no mask matters: each further replacement finds the file at the place that the
path named before, and hands its mode on (`WrittenOver.file`).
-/
import Retag.Proofs.Files.Replace

namespace Retag.Files

namespace Store

variable {s t u : Store} {cwd p q : Place} {names : List String}

/-- A place is a directory, together with those that it lies in. -/
def Rooted (s : Store) (p : Place) : Prop := ∀ above, above <+: p → s.get? above = some .directory

/-! ## The way of a path -/

theorem follow_append (s : Store) (p : Place) (names others : List String) :
    s.follow p (names ++ others) = (s.follow p names).bind (s.follow · others) := by
  fun_induction s.follow p names with
  | case1 p => rfl
  | case2 p names ih => rw [List.cons_append, follow, ih]
  | case3 p names ih => rw [List.cons_append, follow, ih]
  | case4 p name names hdot hdots hlong =>
    rw [List.cons_append, follow.eq_4 _ _ _ _ hdot hdots, if_pos hlong]
    rfl
  | case5 p name names hdot hdots hlong hdir ih =>
    rw [List.cons_append, follow.eq_4 _ _ _ _ hdot hdots, if_neg hlong, hdir]
    exact ih
  | case6 p name names hdot hdots hlong content mode hfile =>
    rw [List.cons_append, follow.eq_4 _ _ _ _ hdot hdots, if_neg hlong, hfile]
    rfl
  | case7 p name names hdot hdots hlong hnone =>
    rw [List.cons_append, follow.eq_4 _ _ _ _ hdot hdots, if_neg hlong, hnone]
    rfl

/-- A path leads from a directory to a directory. -/
theorem follow_rooted (hp : s.Rooted p) (h : s.follow p names = .ok q) : s.Rooted q := by
  fun_induction s.follow p names with
  | case1 p => cases h; exact hp
  | case2 p names ih => exact ih hp h
  | case3 p names ih => exact ih (fun above ha => hp above (ha.trans (List.dropLast_prefix p))) h
  | case5 p name names hdot hdots hlong hdir ih =>
    refine ih (fun above ha => ?_) h
    rcases List.prefix_concat_iff.1 ha with rfl | ha
    · exact hdir
    · exact hp above ha
  | case4 | case6 | case7 => cases h

/-- A path whose names lead on from a directory leads to one with each of its first
names. -/
theorem follow_first {first : List String} (hpart : first <+: names) (h : s.follow p names = .ok q) :
    ∃ r, s.follow p first = .ok r := by
  obtain ⟨others, rfl⟩ := hpart
  rw [follow_append] at h
  cases hf : s.follow p first with
  | ok r => exact ⟨r, rfl⟩
  | error e => rw [hf] at h; cases h

theorem follow_directory {name : String} (hdot : name ≠ ".") (hdots : name ≠ "..")
    (hlong : ¬ longestName < name.utf8ByteSize) (hdir : s.get? (p ++ [name]) = some .directory) :
    s.follow p [name] = .ok (p ++ [name]) := by
  rw [follow.eq_4 _ _ _ _ hdot hdots, if_neg hlong, hdir]
  rfl

/-- The place that a path leads to with some of its first names. -/
def Passes (s : Store) (cwd : Place) (path : Path) (q : Place) : Prop :=
  ∃ names, names <+: path.names ∧ s.placeOf cwd ⟨path.absolute, names⟩ = .ok q

theorem Passes.mono {path : Path} (hkeep : KeepsDirectories s t) (h : s.Passes cwd path q) : t.Passes cwd path q := by
  obtain ⟨names, hpart, hplace⟩ := h
  exact ⟨names, hpart, follow_mono hkeep hplace⟩

end Store

/-! ## Directories on the way -/

/-- At most directories come about where there was nothing, at places that a path leads
through. -/
def GainsAlong (cwd : Place) (path : Path) (s t : Store) : Prop :=
  ∀ q, t.get? q = s.get? q ∨ (s.get? q = none ∧ t.get? q = some .directory ∧ t.Passes cwd path q)

section

variable {s t u : Store} {cwd : Place} {path : Path}

theorem GainsAlong.refl (s : Store) : GainsAlong cwd path s s := fun _ => .inl rfl

theorem GainsAlong.gains (h : GainsAlong cwd path s t) : GainsDirectories s t :=
  fun q => (h q).imp id fun ⟨hnone, hdir, _⟩ => ⟨hnone, hdir⟩

theorem GainsDirectories.keepsDirectories (h : GainsDirectories s t) : KeepsDirectories s t := by
  intro q hq
  rcases h q with heq | ⟨hnone, -⟩
  · rw [heq, hq]
  · rw [hnone] at hq
    cases hq

theorem GainsAlong.trans (h : GainsAlong cwd path s t) (h' : GainsAlong cwd path t u) : GainsAlong cwd path s u := by
  intro q
  rcases h' q with heq | ⟨hnone, hdir, hpass⟩
  · rcases h q with heq' | ⟨hnone, hdir, hpass⟩
    · exact .inl (heq.trans heq')
    · exact .inr ⟨hnone, heq.trans hdir, hpass.mono h'.gains.keepsDirectories⟩
  · rcases h q with heq' | ⟨-, hdir', -⟩
    · exact .inr ⟨heq' ▸ hnone, hdir, hpass⟩
    · rw [hnone] at hdir'
      cases hdir'

end

namespace Store

variable {s t u : Store} {cwd : Place} {path : Path} {names : List String}

/-- The directory that is made is where its path leads to from then on. -/
theorem makeDirectory_along (hdot : "." ∉ path.names) (hpart : names <+: path.names)
    (h : s.makeDirectory cwd ⟨path.absolute, names⟩ = .ok t) : GainsAlong cwd path s t := by
  unfold makeDirectory at h
  split at h
  · cases h
  split at h
  · cases h
  rename_i last hlast
  cases hf : s.follow (if path.absolute then [] else cwd) names.dropLast with
  | error e => rw [hf] at h; cases h
  | ok above =>
    rw [hf] at h
    simp only [Except.bind] at h
    split at h
    · cases h
    rename_i hdots
    split at h
    · cases h
    rename_i hlong
    split at h
    · cases h
    rename_i hthere
    have hnone : s.get? (above ++ [last]) = none := by simpa using hthere
    have hne : above ++ [last] ≠ [] := by simp
    obtain rfl := Except.ok.inj h
    have hkeep : KeepsDirectories s (s.put (above ++ [last]) .directory) :=
      (gainsDirectories_put hne hnone).keepsDirectories
    have hname : last ≠ "." := fun he =>
      hdot (hpart.subset (he ▸ List.mem_of_getLast? hlast))
    have hplace : (s.put (above ++ [last]) .directory).placeOf cwd ⟨path.absolute, names⟩ = .ok (above ++ [last]) := by
      obtain ⟨before, rfl⟩ := List.getLast?_eq_some_iff.1 hlast
      rw [List.dropLast_concat] at hf
      rw [placeOf, follow_append, follow_mono hkeep hf]
      exact follow_directory hname hdots hlong (by rw [get?_put _ hne, if_pos rfl])
    intro q
    rw [s.get?_put hne]
    by_cases hq : q = above ++ [last]
    · subst hq
      exact .inr ⟨hnone, if_pos rfl, names, hpart, hplace⟩
    · exact .inl (if_neg hq)

/-- An operation that makes directories on the way of a path, and at most that. -/
abbrev OnlyAlong (cwd : Place) (path : Path) (s : Store) : Course → Prop :=
  Course.Meets (GainsAlong cwd path s) (GainsAlong cwd path s) (GainsAlong cwd path s)

theorem tryDirectory_along (hdot : "." ∉ path.names) (hpart : names <+: path.names) (h : GainsAlong cwd path s t)
    (i : Interruption) (again : Bool) :
    OnlyAlong cwd path s (t.tryDirectory cwd i ⟨path.absolute, names⟩ again) :=
  Course.meets_step h h fun _ hu =>
    have hgain := h.trans (makeDirectory_along hdot hpart hu)
    ⟨hgain, hgain⟩

theorem orThere_along {r : Course} {p : Path} (h : OnlyAlong cwd path s r) : OnlyAlong cwd path s (orThere cwd p r) := by
  unfold orThere
  split
  · have hlast : GainsAlong cwd path s r.store := h.along _ (by simp [Course.states])
    exact ⟨h.along, fun _ => hlast, fun e he => by cases he⟩
  · exact h

theorem makeAll_along (hdot : "." ∉ path.names) (s : Store) (i : Interruption) (backwards : List String)
    (hpart : backwards.reverse <+: path.names) :
    OnlyAlong cwd path s (s.makeAll cwd i path.absolute backwards) := by
  induction backwards with
  | nil => exact Course.meets_rest (.refl s) (.refl s)
  | cons name above ih =>
    have habove : above.reverse <+: path.names := by
      rw [List.reverse_cons] at hpart
      exact (List.prefix_append _ _).trans hpart
    unfold makeAll
    simp only
    split
    · exact (ih habove).next fun t ht => orThere_along (tryDirectory_along hdot hpart ht i true)
    · exact orThere_along (tryDirectory_along hdot hpart (.refl s) i false)

theorem makeDirectories_along (hdot : "." ∉ path.names) (s : Store) (i : Interruption) :
    OnlyAlong cwd path s (s.makeDirectories cwd path i) :=
  makeAll_along hdot s i _ (by simp only [List.reverse_reverse, List.prefix_rfl])

/-! ## The replacement -/

theorem dot_not_mem_parent (path : String) : "." ∉ (Path.ofText path).parent.names := by
  have hdot : "." ∉ (Path.ofText path).names := by simp [Path.ofText]
  rw [Path.parent]
  split
  · exact List.not_mem_nil
  · exact fun h => hdot (List.dropLast_subset _ h)

/-- What a replacement leaves that succeeds: the path names a regular file at `q` with
the content, in the mode of the file that was there or of a new one; it leads through
directories only, as does the way to `q`; and besides the file only directories are
new that the path leads through. -/
structure Written (umask : Nat) (s : Store) (cwd : Place) (path : String) (content : ByteArray) (t : Store)
    (q : Place) : Prop where
  names : t.Names cwd path q
  entry : t.entryAt cwd path = .ok (.file content (((s.file? q).map (·.2)).getD (createdMode umask ordinaryMode)))
  file : t.file? q = some (content, ((s.file? q).map (·.2)).getD (createdMode umask ordinaryMode))
  noDirectory : s.get? q ≠ some .directory
  above : ∀ p, p <+: q → p ≠ q → t.get? p = some .directory
  through : ∀ names, names <+: (Path.ofText path).parent.names →
    ∃ p, t.placeOf cwd ⟨(Path.ofText path).parent.absolute, names⟩ = .ok p ∧ t.get? p = some .directory
  others : ∀ p, p ≠ q → t.get? p = s.get? p ∨
    (s.get? p = none ∧ t.get? p = some .directory ∧ t.Passes cwd (Path.ofText path).parent p)

variable {umask : Nat} {text : String} {content : ByteArray} {i : Interruption}

theorem Rooted.mono {p : Place} (hkeep : KeepsDirectories s t) (h : s.Rooted p) : t.Rooted p :=
  fun above ha => hkeep above (h above ha)

theorem rooted_start (h : s.Rooted cwd) (absolute : Bool) : s.Rooted (if absolute then [] else cwd) := by
  split
  · intro above ha
    rw [List.prefix_nil.1 ha]
    rfl
  · exact h

theorem locate_rooted (h : s.Rooted cwd) {directory : Place} {name : String} {slash : Bool}
    (hl : s.locate cwd text = .ok (.named directory name slash)) : s.Rooted directory := by
  obtain ⟨before, -, hf, -⟩ := locate_named hl
  exact follow_rooted (rooted_start h _) hf

/-- The renaming, behind the making of the directories. -/
theorem Replaced.written (hcwd : s.Rooted cwd) (hgain : GainsAlong cwd (Path.ofText text).parent s t)
    (hparent : ∃ p, t.placeOf cwd (Path.ofText text).parent = .ok p) (h : Replaced umask t cwd text content u) :
    ∃ q, Written umask s cwd text content u q := by
  obtain ⟨directory, name, hl, hdir, hfile, hothers⟩ := h
  have hsame : s.file? (directory ++ [name]) = t.file? (directory ++ [name]) := (hgain.gains.sameFiles _).symm
  have hkeep : KeepsDirectories t u := AgreeOff.keepsDirectories hothers hdir
  have hroot : u.Rooted cwd := (hcwd.mono hgain.gains.keepsDirectories).mono hkeep
  rw [successorUnder, ← hsame] at hfile
  have hget : u.get? (directory ++ [name]) =
      some (.file content (((s.file? (directory ++ [name])).map (·.2)).getD (createdMode umask ordinaryMode))) := by
    unfold file? at hfile
    split at hfile
    next content' mode hget =>
      cases hfile
      exact hget
    next => cases hfile
  refine ⟨directory ++ [name], ⟨directory, name, false, hl, rfl⟩, ?_, hfile, ?_, ?_, ?_, ?_⟩
  · rw [entryAt, hl]
    simp only [Except.bind, hget]
  · exact fun h => hdir (hgain.gains.keepsDirectories _ h)
  · intro p hp hne
    rcases List.prefix_concat_iff.1 hp with rfl | hp
    · exact absurd rfl hne
    · exact locate_rooted hroot hl p hp
  · intro names hpart
    obtain ⟨place, hplace⟩ := hparent
    obtain ⟨p, hp⟩ := follow_first hpart (follow_mono hkeep hplace)
    exact ⟨p, hp, follow_rooted (rooted_start hroot _) hp p List.prefix_rfl⟩
  · intro p hp
    rw [hothers p hp]
    exact (hgain p).imp id fun h => ⟨h.1, h.2.1, h.2.2.mono hkeep⟩

theorem replaceUnder_written (hcwd : s.Rooted cwd) (h : (s.replaceUnder umask cwd text content i).result = .ok ()) :
    ∃ q, Written umask s cwd text content (s.replaceUnder umask cwd text content i).store q := by
  have hmeets : (s.replaceUnder umask cwd text content i).Meets (fun _ => True)
      (fun t => ∃ q, Written umask s cwd text content t q) (fun _ => True) := by
    unfold replaceUnder
    simp only
    have hdirs : OnlyAlong cwd (Path.ofText text).parent s (s.makeDirectories cwd (Path.ofText text).parent i) :=
      makeDirectories_along (dot_not_mem_parent text) s i
    refine (hdirs.weaken (fun _ _ => trivial) (fun _ => id) (fun _ _ => trivial)).next fun t ht => ?_
    split
    · exact Course.meets_fail trivial trivial _
    · rename_i directory hparent
      have hother (u : Store) (q : Place) (hq : u.Names cwd text q) := names_ne_fresh t u directory hq
      exact (replaceBy_meets (t.get?_freshName _ directory) hother i).weaken (fun _ _ => trivial)
        (fun u hu => hu.written hcwd ht ⟨_, hparent⟩) (fun _ _ => trivial)
  exact hmeets.done h

theorem Written.keepsDirectories {q : Place} (h : Written umask s cwd text content t q) : KeepsDirectories s t := by
  intro p hp
  have hne : p ≠ q := fun he => h.noDirectory (he ▸ hp)
  rcases h.others p hne with heq | ⟨hnone, -⟩
  · rw [heq, hp]
  · rw [hnone] at hp
    cases hp

/-- Contents written to a path one after another with success, each under a mask of its
own and whatever befell it. -/
inductive WrittenOver (cwd : Place) (path : String) (s : Store) : List String → Store → Prop
  | none : WrittenOver cwd path s [] s
  | next {umask : Nat} {contents : List String} {t : Store} {content : String} {i : Interruption}
      (before : WrittenOver cwd path s contents t)
      (written : (t.replaceUnder umask cwd path content.toUTF8 i).result = .ok ()) :
      WrittenOver cwd path s (contents ++ [content]) (t.replaceUnder umask cwd path content.toUTF8 i).store

/-- A file that is there hands its mode on, and the path goes on to name it. -/
theorem WrittenOver.file {contents : List String} {q : Place} {first : String} {mode : Nat} (hcwd : s.Rooted cwd)
    (hnames : s.Names cwd text q) (hfile : s.file? q = some (first.toUTF8, mode))
    (h : WrittenOver cwd text s contents t) :
    t.Rooted cwd ∧ t.Names cwd text q ∧ t.file? q = some ((contents.getLast?.getD first).toUTF8, mode) := by
  induction h with
  | none => exact ⟨hcwd, hnames, hfile⟩
  | next before written ih =>
    obtain ⟨hroot, ⟨directory, name, slash, hl, rfl⟩, hfile⟩ := ih
    obtain ⟨q', hq'⟩ := replaceUnder_written hroot written
    have hkeep := hq'.keepsDirectories
    obtain rfl := hq'.names.unique ⟨directory, name, slash, locate_mono hkeep hl, rfl⟩
    refine ⟨hroot.mono hkeep, hq'.names, ?_⟩
    rw [hq'.file, hfile, List.getLast?_concat]
    rfl

/-! ## What succeeds -/

section

variable {temporary directory : Place} {name : String} {path : Path}

end

/-! ## Success -/

end Store

end Retag.Files
