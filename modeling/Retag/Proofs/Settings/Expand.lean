/-
Settings that name a path below the home directory.

A path is told by its components: the root it begins at, or the dot, and its names. Behind
another path it keeps its names, and the other one all of its components, unless it begins
at the root: then it stands for itself (`components_join`, `join_rooted`). So a setting
behind a tilde and a slash leads below the home directory except where a further slash
follows, which makes the rest of it a path from the root (`expand_home`).
-/
import Retag.Settings.Basic

namespace Retag.Files

variable {base name text : String} {c : Char} {cs : List Char}

/-! ## Components -/

/-- What a path is made of: the root or the dot that it begins with, and its names. A dot
further on stands for nothing. -/
def components (text : String) : List String :=
  (if isAbsolute text then ["/"] else if (parts text).head? = some "." then ["."] else []) ++
    (parts text).filter (· != ".")

theorem isAbsolute_iff : isAbsolute text = true ↔ ∃ rest, text.toList = '/' :: rest := by
  rw [isAbsolute, String.startsWith_string_iff]
  exact ⟨fun ⟨rest, h⟩ => ⟨rest, h.symm⟩, fun ⟨rest, h⟩ => ⟨rest, h.symm⟩⟩

theorem isAbsolute_append (hbase : base ≠ "") (name : String) : isAbsolute (base ++ name) = isAbsolute base := by
  obtain ⟨c, cs, hcs⟩ := List.exists_cons_of_ne_nil fun h => hbase (String.toList_inj.1 h)
  rw [Bool.eq_iff_iff, isAbsolute_iff, isAbsolute_iff, String.toList_append, hcs]
  simp

theorem parts_slash (base name : String) : parts (base ++ "/" ++ name) = parts base ++ parts name := by
  have hlist : (base ++ "/" ++ name).toList = base.toList ++ '/' :: name.toList := by simp
  rw [parts, hlist, List.splitOn_append_cons_self, List.filter_append, List.map_append]
  rfl

theorem parts_empty : parts "" = [] := rfl

theorem components_empty : components "" = [] := by decide +kernel

/-- Only slashes make no name. -/
theorem isAbsolute_of_parts (hbase : base ≠ "") (h : parts base = []) : isAbsolute base = true := by
  obtain ⟨c, cs, hcs⟩ := List.exists_cons_of_ne_nil fun h => hbase (String.toList_inj.1 h)
  by_cases hc : c = '/'
  · exact isAbsolute_iff.2 ⟨cs, hc ▸ hcs⟩
  · obtain ⟨first, later, hfirst⟩ := List.exists_cons_of_ne_nil (List.splitOn_ne_nil '/' cs)
    rw [parts, hcs, List.splitOn_cons_eq_if_modifyHead, beq_eq_false_iff_ne.2 hc, hfirst] at h
    simp at h

/-! ## Joined paths -/

theorem join_rooted (base : String) (h : isAbsolute name = true) : join base name = name := by simp [join, h]

theorem join_empty (name : String) : join "" name = name := by simp [join]

/-- The names of both paths, one behind the other. -/
theorem parts_join (base : String) (h : isAbsolute name = false) : parts (join base name) = parts base ++ parts name := by
  by_cases hbase : base = ""
  · rw [hbase, join_empty, parts_empty, List.nil_append]
  · by_cases hslash : base.endsWith "/" = true
    · have hsuffix := hslash
      rw [String.endsWith_eq_endsWith_toSlice, String.Slice.endsWith_string_iff, String.copy_toSlice] at hsuffix
      obtain ⟨before, hbefore⟩ := hsuffix
      obtain rfl : base = String.ofList before ++ "/" := String.toList_inj.1 (by simp [← hbefore])
      have hends : parts (String.ofList before ++ "/") = parts (String.ofList before) := by
        have hslash := parts_slash (String.ofList before) ""
        rwa [String.append_empty, parts_empty, List.append_nil] at hslash
      rw [join, if_neg (by simp [h]), if_pos hslash, parts_slash, hends]
    · rw [join, if_neg (by simp [h, hbase]), if_neg hslash, parts_slash]

theorem isAbsolute_join (hbase : base ≠ "") (h : isAbsolute name = false) : isAbsolute (join base name) = isAbsolute base := by
  rw [join, if_neg (by simp [h, hbase])]
  split
  · exact isAbsolute_append hbase name
  · rw [String.append_assoc]
    exact isAbsolute_append hbase _

/-- The components of both paths; a dot that the second begins with is the first. -/
theorem components_join (hbase : base ≠ "") (h : isAbsolute name = false) :
    components (join base name) = components base ++ (components name).filter (· != ".") := by
  have hnames : (components name).filter (· != ".") = (parts name).filter (· != ".") := by
    rw [components, h, List.filter_append, List.filter_filter]
    split <;> simp_all
  rw [hnames, components, components, isAbsolute_join hbase h, parts_join base h, List.filter_append, List.append_assoc]
  by_cases habsolute : isAbsolute base = true
  · rw [if_pos habsolute, if_pos habsolute]
  · obtain ⟨first, later, hfirst⟩ := List.exists_cons_of_ne_nil (mt (isAbsolute_of_parts hbase) habsolute)
    rw [hfirst]
    rfl

end Retag.Files

namespace Retag.Settings

open Files (isAbsolute components join join_rooted join_empty components_empty components_join)

variable {home : Option String} {h r setting : String}

/-! ## Settings -/

theorem expand_tilde (h r : String) : expand (some h) ("~/" ++ r) = join h r := by
  have hlist : ("~/" ++ r).toList = '~' :: '/' :: r.toList := by simp
  simp only [expand, hlist, String.ofList_toList]

theorem expand_other (hother : home = none ∨ ∀ r, setting ≠ "~/" ++ r) : expand home setting = setting := by
  unfold expand
  split
  next hsome rest h hlist =>
    rcases hother with hnone | hother
    · cases hnone
    · exact absurd (String.toList_inj.1 (by simpa using hlist)) (hother (String.ofList rest))
  next => rfl

theorem prefix_components_expand (h r : String) :
    components h <+: components (expand (some h) ("~/" ++ r)) ↔
      isAbsolute r = false ∨ components h <+: components r := by
  rw [expand_tilde]
  by_cases hr : isAbsolute r = true
  · simp [join_rooted h hr, hr]
  · have hrelative : isAbsolute r = false := Bool.eq_false_iff.2 hr
    refine iff_of_true ?_ (.inl hrelative)
    by_cases hh : h = ""
    · exact hh ▸ List.nil_prefix
    · exact components_join hh hrelative ▸ List.prefix_append ..

/-- The paths of output and template that the settings give. A setting behind a tilde and a
slash has the components of the home directory and then its own, where the rest of it is
no path from the root; every other setting is used as it is, and so is every setting if there
is no home directory. -/
theorem expand_home (home : Option String) (setting : String) :
    (∀ settings : Settings, settings.output = some setting →
        settings.outputPath home none = expand home setting) ∧
      (∀ settings : Settings, settings.template = some setting →
        settings.templatePath home none = some (expand home setting)) ∧
      (∀ h r, home = some h → setting = "~/" ++ r →
        (isAbsolute r = false → components (expand home setting) =
          components h ++ if h = "" then components r else (components r).filter (· != ".")) ∧
        (isAbsolute r = true → expand home setting = r) ∧
        (components h <+: components (expand home setting) ↔
          isAbsolute r = false ∨ components h <+: components r)) ∧
      ((home = none ∨ ∀ r, setting ≠ "~/" ++ r) → expand home setting = setting) := by
  refine ⟨fun settings hsettings => ?_, fun settings hsettings => ?_, ?_, expand_other⟩
  · simp [outputPath, hsettings]
  · simp [templatePath, hsettings]
  · rintro h r rfl rfl
    refine ⟨fun hrelative => ?_, fun hrooted => ?_, prefix_components_expand h r⟩
    · rw [expand_tilde]
      split
      next hempty => simp [hempty, join_empty, components_empty]
      next hhome => exact components_join hhome hrelative
    · rw [expand_tilde, join_rooted h hrooted]

theorem expand_home_nested :
    isAbsolute ".//t.tera" = false ∧
      components (expand (some "/home/me/") "~/.//t.tera") = ["/", "home", "me", "t.tera"] :=
  have hrelative : isAbsolute ".//t.tera" = false := by decide +kernel
  ⟨hrelative,
    (((expand_home (some "/home/me/") "~/.//t.tera").2.2.1 "/home/me/" ".//t.tera" rfl
      (by decide +kernel)).1 hrelative).trans (by decide +kernel)⟩

/-- A second slash behind the tilde leads to the root. -/
theorem expand_rooted_setting :
    templatePath ⟨none, some "~//t.tera"⟩ (some "home") none = some "/t.tera" ∧
      ¬ components "home" <+: components "/t.tera" := by
  decide +kernel

end Retag.Settings
