/-
What a run shows of a name that is no identifier.

Nothing checks a name before it is put into the template, so it is the reading of what
was rendered that has to refuse it. It refuses every name that ends no item and begins
no comment over lines (`render_refused`); the run then fails, and shows nothing. It does
not refuse all others: some names splice items of their own into the unit, by a semicolon
or by comments alone (`render_spliced`).
-/
import Retag.Proofs.SourceUnit.Composition
import Retag.Proofs.SourceUnit.Keywords
import Retag.Proofs.Command.Printed

namespace Retag.Command

open Code (File Unbroken IsIdentifier)
open Console (Line)
open Files (Interruption)
open SourceUnit (updateTags unlisted unlistedPieces)

variable {w : World} {args : List String} {name : String} {path : Option String} {verbosity : Nat}

/-! ## Runs that render a name -/

/-- The unit that is shown is that of the one name. -/
theorem showUnit_builtIn (w : World) (name : String) : (w.showUnit name none).result =
    ((SourceUnit.source updateTags [name]).map unitLines).mapError .generation := by
  have hservices : SourceUnit.services [name] = [Service.resolve name] := rfl
  unfold World.showUnit World.template SourceUnit.source
  rw [hservices]
  cases hrender : SourceUnit.render updateTags [Service.resolve name] with
  | error f =>
    simp only [Bind.bind, Except.bind, hrender]
  | ok text =>
    simp only [Bind.bind, Except.bind, hrender]

theorem render_result (name : String) (htemplate : w.templatePath path = none) (i : Interruption) :
    (w.perform w.settings i (.render name path)).result =
      ((SourceUnit.source updateTags [name]).map unitLines).mapError .generation := by
  rw [← showUnit_builtIn w, ← htemplate]
  rfl

/-- A run that is to render a name shows its unit, or fails as there is none. -/
theorem run_render (hread : read w.environment args = .ok ⟨.render name path, verbosity⟩)
    (htemplate : w.templatePath path = none) (i : Interruption) :
    let o := run w args i
    o.store = w.store ∧
      (∀ f, SourceUnit.source updateTags [name] = .error f →
        o.exitCode = f.exitCode ∧ o.output = "" ∧ o.complaint = some (.fault (Line.failure f.message))) ∧
      ∀ unit, SourceUnit.source updateTags [name] = .ok unit →
        o.exitCode = 0 ∧ o.output = Console.written w.color (unitLines unit) := by
  have hresult := render_result name htemplate i
  have hrun : run w args i = (Invocation.mk (.render name path) verbosity).run w i := by
    unfold run
    rw [hread]
  rw [hrun]
  obtain ⟨hstore, hend⟩ := invocation_run w i ⟨.render name path, verbosity⟩
  refine ⟨hstore, fun f hf => ?_, fun unit hunit => ?_⟩
  · have herror : (w.perform w.settings i (.render name path)).result = .error (.generation f) := by
      rw [hresult, hf]
      rfl
    exact invocation_error (i := ⟨.render name path, verbosity⟩) herror
  · rw [hunit] at hresult
    obtain ⟨f, hf, -⟩ | ⟨lines, hlines, hcode, houtput⟩ := hend
    · cases hf.symm.trans hresult
    · obtain rfl := Except.ok.inj (hlines.symm.trans hresult)
      exact ⟨hcode, houtput⟩

/-! ## Names that are refused -/

/-- **No name but an identifier is shown, if it ends no item and begins no comment that
goes on over lines.**
What is rendered for a name that is no identifier, or is `_` or `Self`, makes no file,
and the run that is to show its unit ends with the code of the format, prints nothing
and changes nothing. -/
theorem render_refused (h : ¬SourceUnit.Admissible name) (hbroken : Unbroken name.toList) :
    (∃ text, SourceUnit.render updateTags [Service.resolve name] = .ok text ∧
      SourceUnit.format text = .error .notFormatted) ∧
    ∀ (w : World) (args : List String) (path : Option String) (verbosity : Nat) (i : Interruption),
      read w.environment args = .ok ⟨.render name path, verbosity⟩ → w.templatePath path = none →
        let o := run w args i
        o.exitCode = 4 ∧ o.output = "" ∧ o.store = w.store ∧
          o.complaint = some (.fault (Line.failure "error formatting generated file")) := by
  have hsource : SourceUnit.source updateTags [name] = .error .notFormatted :=
    SourceUnit.source_eq_error fun unit hunit =>
      h ((SourceUnit.source_ok_iff (by simpa using hbroken)).1 ⟨unit, hunit⟩ name List.mem_cons_self)
  refine ⟨⟨_, SourceUnit.render_services [name], ?_⟩, fun w args path verbosity i hread htemplate => ?_⟩
  · rw [← SourceUnit.source_of_render (SourceUnit.render_services [name])]
    exact hsource
  · obtain ⟨hstore, herror, -⟩ := run_render hread htemplate i
    obtain ⟨hcode, houtput, hcomplaint⟩ := herror _ hsource
    exact ⟨hcode, houtput, hstore, hcomplaint⟩

theorem isFile_empty (cwd : Files.Place) (text : String) : Files.Store.empty.isFile cwd text = false := by
  have hget : ∀ p content mode, Files.Store.empty.get? p ≠ some (.file content mode) := by
    intro p content mode
    unfold Files.Store.get? Files.Store.empty
    split <;> nofun
  have hentry : ∀ content mode, Files.Store.empty.entryAt cwd text ≠ .ok (.file content mode) := by
    intro content mode
    unfold Files.Store.entryAt
    cases Files.Store.empty.locate cwd text with
    | error e => nofun
    | ok target =>
      cases target with
      | unnamed p => nofun
      | named p name slash =>
        simp only [Except.bind]
        split
        · nofun
        · nofun
        · rename_i hfound _
          rintro heq
          obtain rfl := Except.ok.inj heq
          exact hget _ _ _ hfound
  unfold Files.Store.isFile
  split
  · rename_i hfile
    exact absurd hfile (hentry _ _)
  · rfl

/-- Where there are no files, no settings name a template. -/
theorem templatePath_bareWorld (color : Bool) : (bareWorld color).templatePath none = none := by
  have hfile : Settings.file? Files.Store.empty [] none = none := by
    simp [Settings.file?, isFile_empty]
  have hcurrent : Settings.current Files.Store.empty [] none = (Settings.empty, []) := by
    rw [Settings.current, hfile]
  have hsettings : (bareWorld color).settings = Settings.empty := congrArg Prod.fst hcurrent
  rw [World.templatePath, hsettings]
  rfl

/-- A name that would go on with the import behind a comment. -/
theorem render_refused_group :
    let name := "x// \n::\x7ba as b, c\x7d"
    let o := run (bareWorld false) ["render", name]
    (¬SourceUnit.Admissible name ∧ Unbroken name.toList ∧ read [] ["render", name] = .ok ⟨.render name none, 0⟩) ∧
      o.exitCode = 4 ∧ o.output = "" := by
  intro name o
  have hname : ¬SourceUnit.Admissible name := by decide +kernel
  have hbroken : Unbroken name.toList := ⟨by decide +kernel, by decide +kernel⟩
  have hread : read [] ["render", name] = .ok ⟨.render name none, 0⟩ := by decide +kernel
  have htemplate : (bareWorld false).templatePath none = none := templatePath_bareWorld false
  obtain ⟨-, hruns⟩ := render_refused hname hbroken
  obtain ⟨hcode, houtput, -, -⟩ := hruns (bareWorld false) ["render", name] none 0 _ hread htemplate
  exact ⟨⟨hname, hbroken, hread⟩, hcode, houtput⟩

/-! ## Names that are not refused -/

/-- A name that ends items, and begins no comment. In the text of its unit, quotations
that begin at one mention end at the next. -/
def quoting : String := "x;m!(\"## r#\" r##\"\nm!\x7b\x7b((r##\"\"#)"

/-- A name that begins comments, and has no semicolon. The comments hide the end of each
mention from the items it would break. -/
def commenting : String := "a/* \\\"#\x7d fn g()\x7bif c\x7bconn.f(g(/* \\\"## r#\" r##\"\nm!\x7b\" */ // */\n"

theorem read_spliced : (File.read (String.join (unlistedPieces quoting))).isSome = true ∧
    (File.read (String.join (unlistedPieces commenting))).isSome = true := by
  refine ⟨?_, ?_⟩
  all_goals
    unfold unlistedPieces
    apply SourceUnit.read_of_chars
    apply Exists.intro
    apply And.intro
    · repeat
        apply SourceUnit.toList_join_cons
        · exact rfl
      exact String.toList_ofList (l := [])
    · decide +kernel

/-- A name that is no identifier, and still has a unit, which is shown. -/
def Spliced (name : String) : Prop :=
  ¬IsIdentifier name ∧ (∃ unit, SourceUnit.source updateTags [name] = .ok unit) ∧
    (run (bareWorld false) ["render", name]).exitCode = 0

theorem spliced_of_read (hname : ¬IsIdentifier name) (hunlisted : Service.resolve name = unlisted name)
    (hargs : read [] ["render", name] = .ok ⟨.render name none, 0⟩)
    (hread : (File.read (String.join (unlistedPieces name))).isSome = true) : Spliced name := by
  obtain ⟨file, hfile⟩ := Option.isSome_iff_exists.1 hread
  have hsource : SourceUnit.source updateTags [name] = .ok (SourceUnit.header ++ "\n\n" ++ file.text) := by
    rw [SourceUnit.source_of_render (SourceUnit.render_unlisted hunlisted), SourceUnit.format, hfile]
  obtain ⟨-, -, hshown⟩ := run_render (w := bareWorld false) hargs (templatePath_bareWorld false) Files.undisturbed
  exact ⟨hname, ⟨_, hsource⟩, (hshown _ hsource).1⟩

/-- **A semicolon or a comment is enough to be accepted.** Neither of the first two
names is an identifier, one begins no comment and the other has no semicolon. -/
theorem render_spliced : (Spliced quoting ∧ '/' ∉ quoting.toList) ∧ (Spliced commenting ∧ ';' ∉ commenting.toList) ∧
    Spliced SourceUnit.splicing := by
  have hsplicing : (File.read (String.join (unlistedPieces SourceUnit.splicing))).isSome = true := by
    obtain ⟨-, hbegins⟩ := SourceUnit.read_splicing
    cases hread : File.read (String.join (unlistedPieces SourceUnit.splicing)) with
    | none => rw [hread] at hbegins; cases hbegins
    | some file => rfl
  refine ⟨⟨?_, by decide +kernel⟩, ⟨?_, by decide +kernel⟩, ?_⟩
  · exact spliced_of_read (by decide +kernel) (by decide +kernel) (by decide +kernel) read_spliced.1
  · exact spliced_of_read (by decide +kernel) (by decide +kernel) (by decide +kernel) read_spliced.2
  · exact spliced_of_read (by decide +kernel) (by decide +kernel) (by decide +kernel) hsplicing

end Retag.Command
