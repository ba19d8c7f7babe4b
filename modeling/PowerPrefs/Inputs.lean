/-
Where the inputs are: the constants listing, and the directory of default files, in which the file of a pref bears the
pref's key, underscores and all.
-/
import PowerPrefs.Path

namespace PowerPrefs

structure Inputs where
  constantsFile : Path
  defaultsDir : Path
deriving DecidableEq, Repr

namespace Inputs

/-- the constants listing in a checkout -/
def constantsPlace : Path := ⟨"power_manager/common/power_constants.cc".toList⟩

/-- the default files in a checkout -/
def defaultsPlace : Path := ⟨"power_manager/default_prefs".toList⟩

/-- the inputs of the checkout at `root` -/
def ofRoot (root : Path) : Inputs := ⟨root.join constantsPlace, root.join defaultsPlace⟩

/-- the default file of a key -/
def defaultPath (i : Inputs) (key : Text) : Path := i.defaultsDir.join ⟨key⟩

/-- equality of inputs: path by path -/
def Same (i j : Inputs) : Prop := i.constantsFile.Same j.constantsFile ∧ i.defaultsDir.Same j.defaultsDir

instance (i j : Inputs) : Decidable (Same i j) := inferInstanceAs (Decidable (_ ∧ _))

end Inputs

end PowerPrefs
