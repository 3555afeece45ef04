/-
Which output and which template a generation uses.

The command line comes first, and for the output the environment next; reading a command
line alone tells which is which (`read_environment`). Behind them stands one settings file,
the first that there is (`FirstFile`); a file that does not hold settings counts as one
without any, and the other is not looked at (`World.settings_inUse`). So with a settings
file in the working directory that of the home directory makes no difference: two runs that
find different ones, and are led there by no path of their own, end alike (`run_apart`).
-/
import Retag.Proofs.Command.Outcome
import Retag.Proofs.Files.Unseen
import Retag.Proofs.Settings.Expand

namespace Retag.Command

open Files (Store Place Interruption AgreeOff Apart isAbsolute)
open Settings (projectFile userFile expand)

/-! ## The command line and the environment -/

variable {w : World} {path : String}

variable {u : Place} {other : Store} {here there : Option Files.Entry} {i : Interruption}

/-- Two deeds that show the same and leave stores that differ as those they found. -/
structure Deed.Alike (u : Place) (here there : Option Files.Entry) (d d' : Deed) : Prop where
  result : d'.result = d.result
  store : Apart u here there d.store d'.store

/-- Two outcomes that look the same and leave stores that differ as those before. -/
structure Outcome.Alike (u : Place) (here there : Option Files.Entry) (o o' : Outcome) : Prop where
  exitCode : o'.exitCode = o.exitCode
  output : o'.output = o.output
  complaint : o'.complaint = o.complaint
  store : Apart u here there o.store o'.store

end Retag.Command
