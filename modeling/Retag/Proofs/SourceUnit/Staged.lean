/-
Generating goes in stages: the names become services, the template is rendered for
them, the text is laid out, and the unit is written. A stage that fails ends it with
its own fault, and what comes before the writing does not touch the store.
-/
import Mathlib.Data.List.Dedup
import Retag.Proofs.Files.Replace
import Retag.Proofs.TagSet.Lookup
import Retag.SourceUnit.Generate

namespace Retag.SourceUnit

open Files (Store Place SameFiles GainsDirectories Interruption)

/-! ## Names -/

variable {names : List String}

theorem mem_distinctNames {name : String} : name ∈ distinctNames names ↔ name ∈ names := by
  simp [distinctNames, Keyed.mem_keys_ofList]

theorem distinctNames_ascending (names : List String) :
    (distinctNames names).Pairwise (· < ·) :=
  List.pairwise_map.2 (Keyed.ofList_ascending _)

variable {t : Template} {s : Store} {cwd : Place} {output : String} {i : Interruption}

end Retag.SourceUnit
