import DocSignature.Disk.Ancestors
import DocSignature.Settings.Basic

/-!
# Finding settings

The settings that hold in a directory are those of the nearest settings file, in the directory
itself or in one above it.  A nearer file hides a farther one, whatever it holds.
-/

set_option autoImplicit false

namespace DocSignature

/-- Whether a directory has a settings file. -/
def hasSettings (disk : Disk) (dir : Path) : Bool :=
  disk.isFile (dir.join settingsFile)

/-- The settings that hold in a directory, and the directory they were found in
(`discover_settings`); the directory itself if none were found. -/
def discoverSettings (disk : Disk) (start : Path) : Settings × Path :=
  match start.ancestors.find? (hasSettings disk) with
  | some dir => (loadSettings disk (dir.join settingsFile), dir)
  | none => ({}, start)

end DocSignature
