/-
What a run leaves behind.

Only the generation of a unit is given a store to change; every other command, and
whatever the command line asks for instead of one, returns the store it found
(`perform_frame`). A run prints what its command returns, so one that fails prints
nothing, and no fault has the exit code zero.
-/
import Retag.Proofs.SourceUnit.Staged
import Retag.Command.Run

namespace Retag.Command

open Files (Store Place SameFiles Interruption)

theorem category_exitCode_ne_zero (c : SourceUnit.Category) : c.exitCode ≠ 0 := by
  cases c <;> decide

theorem fault_exitCode_ne_zero (f : Fault) : f.exitCode ≠ 0 := by
  cases f with
  | generation g => exact category_exitCode_ne_zero g.category
  | chunkSize g | json option g => exact Nat.one_ne_zero

/-! ## Commands -/

/-- The settings that a run finds. -/
def World.settings (w : World) : Settings := (Settings.current w.store w.cwd w.home).1

/-- The output of a generation, as the command line and the settings have it. -/
def World.outputPath (w : World) (output : Option String) : String :=
  w.settings.outputPath w.home output

/-- The path of the template of a command, if it is not the built-in one. -/
def World.templatePath (w : World) (template : Option String) : Option String :=
  w.settings.templatePath w.home template

/-- How a run ends when its command fails. -/
theorem invocation_error {w : World} {interruption : Interruption} {i : Invocation} {f : Fault}
    (h : (w.perform w.settings interruption i.command).result = .error f) :
    let o := i.run w interruption
    o.exitCode = f.exitCode ∧ o.output = "" ∧ o.complaint = some (.fault (Console.Line.failure f.message)) := by
  unfold World.settings at h
  unfold Invocation.run
  simp only
  split
  · rename_i lines hok
    rw [h] at hok
    cases hok
  · rename_i g herror
    obtain rfl := Except.error.inj (h.symm.trans herror)
    exact ⟨rfl, rfl, rfl⟩

/-- How a run ends when its command fails, and when it does not. -/
theorem invocation_run (w : World) (interruption : Interruption) (i : Invocation) :
    let d := w.perform w.settings interruption i.command
    let o := i.run w interruption
    o.store = d.store ∧
      ((∃ f, d.result = .error f ∧ o.exitCode ≠ 0 ∧ o.output = "") ∨
        ∃ lines, d.result = .ok lines ∧ o.exitCode = 0 ∧ o.output = Console.written w.color lines) := by
  unfold Invocation.run World.settings
  simp only
  split
  · rename_i lines h
    exact ⟨rfl, .inr ⟨lines, h, rfl, rfl⟩⟩
  · rename_i f h
    exact ⟨rfl, .inl ⟨f, h, fault_exitCode_ne_zero f, rfl⟩⟩

end Retag.Command
