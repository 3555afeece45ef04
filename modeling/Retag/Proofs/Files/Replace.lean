/-
A replacement is all or nothing.

Up to the renaming, only the place of the temporary file differs from the store that
the replacement found (`AgreeOff`), and no path names that place: its name is fresh.
The renaming is the one step that touches the target, and with it the replacement is
done (`Replaced`). Whichever step fails, removing the temporary file brings back what
was there (`replaceBy_meets`).
-/
import Retag.Proofs.Files.Frame

namespace Retag.Files

namespace Course

variable {along along' done done' failed failed' : Store → Prop} {r : Course}

theorem Meets.weaken (h : r.Meets along done failed) (ha : ∀ s, along s → along' s)
    (hd : ∀ s, done s → done' s) (hf : ∀ s, failed s → failed' s) :
    r.Meets along' done' failed' where
  along := fun s hs => ha s (h.along s hs)
  done := fun hok => hd _ (h.done hok)
  failed := fun e he => hf _ (h.failed e he)

theorem Meets.orRemove {temporary : Place} (h : r.Meets along done failed)
    (hf : ∀ s, failed s → along (s.erase temporary) ∧ failed' (s.erase temporary)) :
    (Store.orRemove temporary r).Meets along done failed' := by
  unfold Store.orRemove
  split
  · rename_i hok
    exact ⟨h.along, h.done, fun e he => by rw [hok] at he; cases he⟩
  · rename_i e he
    obtain ⟨ha, hf'⟩ := hf _ (h.failed e he)
    refine ⟨fun s hs => ?_, nofun, fun _ _ => hf'⟩
    rw [states, List.mem_append, List.mem_singleton] at hs
    rcases hs with hs | rfl
    · exact h.along s hs
    · exact ha

end Course

namespace Store

/-- What a file is replaced with: the content, and the mode of the file that was there. -/
def successor (s : Store) (q : Place) (content : ByteArray) : ByteArray × Nat :=
  (content, ((s.file? q).map (·.2)).getD newFileMode)

/-- What a file is replaced with under a mask, which only a new file is subject to. -/
def successorUnder (umask : Nat) (s : Store) (q : Place) (content : ByteArray) : ByteArray × Nat :=
  (content, ((s.file? q).map (·.2)).getD (createdMode umask ordinaryMode))

theorem successorUnder_usual (s : Store) (q : Place) (content : ByteArray) :
    s.successorUnder usualUmask q content = s.successor q content := rfl

/-- The place that a path names has the successor of its file, which was no directory,
and no other place has changed. -/
def Replaced (umask : Nat) (s : Store) (cwd : Place) (path : String) (content : ByteArray) (t : Store) : Prop :=
  ∃ directory name, t.locate cwd path = .ok (.named directory name false) ∧
    s.get? (directory ++ [name]) ≠ some .directory ∧
    t.file? (directory ++ [name]) = some (s.successorUnder umask (directory ++ [name]) content) ∧
    ∀ p, p ≠ directory ++ [name] → t.get? p = s.get? p

variable {umask : Nat} {s t u : Store} {cwd temporary : Place} {path : String} {content : ByteArray}

/-! ## The steps -/

theorem makeTemporary_meets (umask : Nat) (htemp : temporary ≠ []) (i : Interruption) (previous : Option Nat) :
    (s.makeTemporary umask i temporary previous).Meets (AgreeOff temporary s) (AgreeOff temporary s)
      (fun t => ∀ q, t.get? q = s.get? q) := by
  refine Course.meets_step (.refl _ _) (fun _ => rfl) fun t ht => ?_
  cases ht
  exact ⟨agreeOff_put htemp s _, agreeOff_put htemp s _⟩

theorem setMode_meets (htemp : temporary ≠ []) (h : AgreeOff temporary s t) (i : Interruption)
    (previous : Option Nat) :
    (t.setMode i temporary previous).Meets (AgreeOff temporary s) (AgreeOff temporary s)
      (AgreeOff temporary s) := by
  cases previous with
  | none => exact Course.meets_rest h h
  | some mode =>
    refine Course.meets_step h h fun u hu => ?_
    cases hu
    have hput := h.trans (agreeOff_put htemp t (.file ByteArray.empty mode))
    exact ⟨hput, hput⟩

theorem write_meets (htemp : temporary ≠ []) (h : AgreeOff temporary s t) (i : Interruption)
    (mode : Nat) (content : ByteArray) :
    (t.write i temporary mode content).Meets (AgreeOff temporary s)
      (fun u => AgreeOff temporary s u ∧ u.get? temporary = some (.file content mode))
      (AgreeOff temporary s) := by
  have hput (e : Entry) : AgreeOff temporary s (t.put temporary e) :=
    h.trans (agreeOff_put htemp t e)
  unfold write
  split
  · exact ⟨by simpa [Course.states] using ⟨h, hput _⟩, (by intro h; cases h), fun _ _ => hput _⟩
  · refine ⟨by simpa [Course.states] using ⟨h, hput _⟩, fun _ => ⟨hput _, ?_⟩, by intro _ h; cases h⟩
    rw [t.get?_put htemp, if_pos rfl]

theorem fill_meets (umask : Nat) (htemp : temporary ≠ []) (h : AgreeOff temporary s t) (i : Interruption)
    (previous : Option Nat) (content : ByteArray) :
    (t.fill umask i temporary previous content).Meets (AgreeOff temporary s)
      (fun u => AgreeOff temporary s u ∧
        u.get? temporary = some (.file content (previous.getD (createdMode umask ordinaryMode))))
      (AgreeOff temporary s) :=
  (setMode_meets htemp h i previous).next fun _ hu => write_meets htemp hu i _ content

/-- What renaming a file does: it goes to the place that the path names, which has no
directory. -/
theorem rename_ok {e : Entry} (hsource : s.get? temporary = some e)
    (h : s.rename cwd temporary path = .ok t) :
    ∃ directory name, s.locate cwd path = .ok (.named directory name false) ∧
      s.get? (directory ++ [name]) ≠ some .directory ∧
      t = (s.erase temporary).put (directory ++ [name]) e := by
  unfold rename at h
  rw [hsource] at h
  simp only at h
  cases hl : s.locate cwd path with
  | error e => rw [hl] at h; cases h
  | ok target =>
    rw [hl] at h
    cases target with
    | unnamed p => cases h
    | named directory name slash =>
      simp only [Except.bind] at h
      split at h
      · cases h
      · rename_i hslash
        split at h
        · cases h
        · rename_i hdir
          rw [Bool.not_eq_true] at hslash
          refine ⟨directory, name, by rw [hslash], ?_, ?_⟩
          · simpa [isDirectory] using hdir
          · simpa using h.symm

/-- The mode of the file that a path names, if it names one. -/
theorem modeAt_eq {directory : Place} {name : String}
    (h : s.locate cwd path = .ok (.named directory name false)) :
    s.modeAt cwd path = (s.file? (directory ++ [name])).map (·.2) := by
  unfold modeAt entryAt file?
  rw [h]
  cases hq : s.get? (directory ++ [name]) with
  | none => simp [Except.bind, hq]
  | some e => cases e <;> simp [Except.bind, hq]

/-- With the renaming the replacement is done. -/
theorem rename_replaced (hnone : s.get? temporary = none) (htemp : temporary ≠ [])
    (hother : ∀ u q, Names u cwd path q → q ≠ temporary) (hoff : AgreeOff temporary s t)
    (hfile : t.get? temporary =
      some (.file content ((s.modeAt cwd path).getD (createdMode umask ordinaryMode))))
    (h : t.rename cwd temporary path = .ok u) : Replaced umask s cwd path content u := by
  obtain ⟨directory, name, hl, hdir, rfl⟩ := rename_ok hfile h
  have hq : directory ++ [name] ≠ [] := by simp
  have hne : directory ++ [name] ≠ temporary := hother t _ ⟨directory, name, false, hl, rfl⟩
  -- The directories stay the same from `s` to the end, so the path names one place throughout.
  have hback : KeepsDirectories t s := hoff.symm.keepsDirectories (by rw [hfile]; nofun)
  have hon : KeepsDirectories t ((t.erase temporary).put (directory ++ [name])
      (.file content ((s.modeAt cwd path).getD (createdMode umask ordinaryMode)))) :=
    ((agreeOff_erase htemp t).keepsDirectories (by rw [hfile]; nofun)).trans
      ((agreeOff_put hq _ _).keepsDirectories (by rwa [get?_erase _ htemp, if_neg hne]))
  have hmode := modeAt_eq (locate_mono hback hl)
  refine ⟨directory, name, locate_mono hon hl, hoff _ hne ▸ hdir, ?_, ?_⟩
  · rw [file?, get?_put _ hq, if_pos rfl, hmode, successorUnder]
  · intro p hp
    rw [get?_put _ hq, if_neg hp, get?_erase _ htemp]
    by_cases hpt : p = temporary
    · rw [if_pos hpt, hpt, hnone]
    · rw [if_neg hpt, hoff p hpt]

/-- What holds of a replacement at every moment: it has touched the temporary file
only, or it is done. -/
def Underway (umask : Nat) (s : Store) (cwd temporary : Place) (path : String) (content : ByteArray)
    (t : Store) : Prop :=
  AgreeOff temporary s t ∨ Replaced umask s cwd path content t

/-- The steps with a temporary file at a place that nothing has and no path names. -/
theorem replaceBy_meets (hnone : s.get? temporary = none)
    (hother : ∀ u q, Names u cwd path q → q ≠ temporary) (i : Interruption) :
    (s.replaceBy umask cwd temporary path content i).Meets (Underway umask s cwd temporary path content)
      (Replaced umask s cwd path content) (fun t => ∀ q, t.get? q = s.get? q) := by
  have htemp : temporary ≠ [] := by
    rintro rfl
    cases hnone
  unfold replaceBy
  simp only
  have hmake := makeTemporary_meets (s := s) umask htemp i (s.modeAt cwd path)
  refine (hmake.weaken (fun _ => .inl) (fun _ => id) (fun _ => id)).next fun t ht => ?_
  have hfill := fill_meets umask htemp ht i (s.modeAt cwd path) content
  refine Course.Meets.orRemove
    ((hfill.weaken (fun _ => .inl) (fun _ => id) (fun _ => id)).next fun u ⟨hoff, hfile⟩ => ?_) ?_
  · refine Course.meets_step (.inl hoff) hoff fun v hv => ?_
    have hdone := rename_replaced hnone htemp hother hoff hfile hv
    exact ⟨.inr hdone, hdone⟩
  · intro u hu
    refine ⟨.inl (hu.trans (agreeOff_erase htemp u)), fun q => ?_⟩
    rw [get?_erase _ htemp]
    by_cases hq : q = temporary
    · rw [if_pos hq, hq, hnone]
    · rw [if_neg hq, hu q hq]

/-! ## The replacement as a whole -/

/-- Whoever looks at the target sees what it was or all that it is to be. -/
def TargetWhole (s : Store) (cwd : Place) (path : String) (content : ByteArray) (t : Store) : Prop :=
  ∀ q, t.Names cwd path q → t.file? q = s.file? q ∨ t.file? q = some (s.successor q content)

/-- The path names a file with all of the content, and the other files are as before. -/
def TargetReplaced (s : Store) (cwd : Place) (path : String) (content : ByteArray)
    (t : Store) : Prop :=
  ∃ q, t.Names cwd path q ∧ t.file? q = some (s.successor q content) ∧
    ∀ p, p ≠ q → t.file? p = s.file? p

theorem Names.unique {q q' : Place} (h : s.Names cwd path q) (h' : s.Names cwd path q') : q = q' := by
  obtain ⟨directory, name, slash, hl, rfl⟩ := h
  obtain ⟨directory', name', slash', hl', rfl⟩ := h'
  rw [hl] at hl'
  cases hl'
  rfl

theorem Replaced.target (hgain : GainsDirectories s t) (h : Replaced usualUmask t cwd path content u) :
    TargetReplaced s cwd path content u := by
  obtain ⟨directory, name, hl, -, hfile, hrest⟩ := h
  refine ⟨_, ⟨directory, name, false, hl, rfl⟩, ?_, fun p hp => ?_⟩
  · rw [hfile, successorUnder_usual, successor, successor, hgain.sameFiles]
  · rw [file?_congr (hrest p hp), hgain.sameFiles p]

theorem TargetReplaced.whole (h : TargetReplaced s cwd path content t) :
    TargetWhole s cwd path content t := by
  obtain ⟨q, hnames, hfile, -⟩ := h
  intro p hp
  rw [hp.unique hnames]
  exact .inr hfile

theorem targetWhole_of_gains (h : GainsDirectories s t) : TargetWhole s cwd path content t :=
  fun q _ => .inl (h.sameFiles q)

theorem Underway.whole (hgain : GainsDirectories s t)
    (hother : ∀ u q, Names u cwd path q → q ≠ temporary)
    (h : Underway usualUmask t cwd temporary path content u) : TargetWhole s cwd path content u := by
  rcases h with hoff | hdone
  · intro q hq
    refine .inl ?_
    rw [file?_congr (hoff q (hother u q hq)), hgain.sameFiles q]
  · exact (Replaced.target hgain hdone).whole

theorem names_ne_fresh (s u : Store) (directory : Place) {q : Place} (h : u.Names cwd path q) :
    q ≠ directory ++ [s.freshName (parts path)] := by
  obtain ⟨above, name, slash, hl, rfl⟩ := h
  intro heq
  have hname : name ≠ s.freshName (parts path) :=
    ne_freshName (List.mem_append_left _ (mem_parts_of_locate hl))
  exact hname (by simpa using congrArg List.getLast? heq)

/-- The judgement on a replacement, whatever interrupts it. -/
theorem replace_meets (s : Store) (cwd : Place) (path : String) (content : ByteArray)
    (i : Interruption) :
    (s.replace cwd path content i).Meets (TargetWhole s cwd path content)
      (TargetReplaced s cwd path content) (GainsDirectories s) := by
  unfold replace replaceUnder
  simp only
  have hdirs := makeDirectories_gains s cwd (Path.ofText path).parent i
  refine (hdirs.weaken (fun _ h => targetWhole_of_gains h) (fun _ => id) (fun _ => id)).next fun t ht => ?_
  split
  · exact Course.meets_fail (targetWhole_of_gains ht) ht _
  · rename_i directory _
    have hother (u : Store) (q : Place) (hq : u.Names cwd path q) :=
      names_ne_fresh t u directory hq
    exact (replaceBy_meets (t.get?_freshName _ directory) hother i).weaken
      (fun u hu => hu.whole ht hother) (fun u hu => hu.target ht)
      (fun u hu => ht.trans (.of_eq hu))

/-- A replacement that fails, at whichever step, has made directories at most and has
left every regular file as it was. At no moment of any replacement does the target
hold anything but what it held before or all of the new content. -/
theorem replace_atomic (s : Store) (cwd : Place) (path : String) (content : ByteArray)
    (i : Interruption) :
    let r := s.replace cwd path content i
    (∀ e, r.result = .error e → SameFiles s r.store ∧ GainsDirectories s r.store) ∧
      ∀ t ∈ r.states, ∀ q, t.Names cwd path q →
        t.file? q = s.file? q ∨ t.file? q = some (s.successor q content) := by
  have h := replace_meets s cwd path content i
  exact ⟨fun e he => ⟨(h.failed e he).sameFiles, h.failed e he⟩, h.along⟩

end Store

end Retag.Files
