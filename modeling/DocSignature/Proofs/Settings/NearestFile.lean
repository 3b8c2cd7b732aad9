import DocSignature.Settings.Discovery
import Mathlib.Data.Nat.Find

/-!
# The nearest settings file

Discovery (`discover_settings`) goes from a directory to its parent, to the parent of that and so
on.  `Path.above?` is that chain, step by step, with nothing resolved or tidied on the way.  The
settings that are found are those of the first directory of the chain that has a settings file,
whatever the file holds and whatever stands further up.
-/

set_option autoImplicit false

namespace DocSignature

namespace Path

/-- The directory a number of steps above a path, as long as there are parents. -/
def above? (p : Path) : Nat → Option Path
  | 0 => some p
  | n + 1 => (p.above? n).bind parent?

/-- What is one step further up is above the parent. -/
theorem above?_succ (p : Path) (n : Nat) : p.above? (n + 1) = p.parent?.bind (·.above? n) := by
  induction n with
  | zero => simp [above?]
  | succ n ih =>
    rw [above?, ih, Option.bind_assoc]
    simp only [above?]

/-- The ancestors of a path are the directories above it, by the number of steps. -/
theorem getElem?_ancestors (p : Path) (n : Nat) : p.ancestors[n]? = p.above? n := by
  -- `ancestors` starts over from the parent, while `above?` takes its last step last
  induction p using ancestors.induct generalizing n with
  | case1 p ih =>
    rw [ancestors]
    cases n with
    | zero => simp [above?]
    | succ n =>
      rw [List.getElem?_cons_succ, above?_succ]
      split
      · next hparent => simp [hparent]
      · next q hparent => simpa [hparent] using ih q hparent n

/-- Every step up takes a byte off the path at least. -/
theorem length_add_le_of_above? {p q : Path} {n : Nat} (h : p.above? n = some q) :
    q.bytes.length + n ≤ p.bytes.length := by
  induction n generalizing q with
  | zero =>
    obtain rfl := Option.some.inj h
    omega
  | succ n ih =>
    obtain ⟨r, hr, hparent⟩ := Option.bind_eq_some_iff.1 h
    have hbelow := ih hr
    have hshorter := length_lt_of_parent? hparent
    omega

/-- The way up is no longer than the path. -/
theorem above?_eq_none {p : Path} {n : Nat} (h : p.bytes.length < n) : p.above? n = none := by
  cases hq : p.above? n with
  | none => rfl
  | some q =>
    have hlength := length_add_le_of_above? hq
    omega

end Path

/-- A directory is the first on the way up that has a settings file, a number of steps up. -/
structure IsNearest (disk : Disk) (start : Path) (n : Nat) (dir : Path) : Prop where
  above : start.above? n = some dir
  found : disk.isFile (dir.join settingsFile)
  first : ∀ m < n, ∀ nearer ∈ start.above? m, ¬ disk.isFile (nearer.join settingsFile)

section

variable {disk disk' : Disk} {start dir : Path} {n : Nat}

/-- The search through the ancestors finds the nearest directory with a settings file. -/
theorem find?_ancestors_eq_some_iff :
    start.ancestors.find? (hasSettings disk) = some dir ↔ ∃ n, IsNearest disk start n dir := by
  rw [List.find?_eq_some_iff_getElem]
  constructor
  · rintro ⟨hfound, n, hn, hdir, hfirst⟩
    refine ⟨n, ?_, hfound, ?_⟩
    · rw [← Path.getElem?_ancestors, List.getElem?_eq_getElem hn, hdir]
    · intro m hm nearer hnearer
      rw [← Path.getElem?_ancestors] at hnearer
      obtain ⟨-, rfl⟩ := List.getElem?_eq_some_iff.1 hnearer
      simpa [hasSettings] using hfirst m hm
  · rintro ⟨n, habove, hfound, hfirst⟩
    rw [← Path.getElem?_ancestors] at habove
    obtain ⟨hn, rfl⟩ := List.getElem?_eq_some_iff.1 habove
    refine ⟨hfound, n, hn, rfl, ?_⟩
    intro m hm
    have hnearer : start.above? m = some (start.ancestors[m]) := by
      rw [← Path.getElem?_ancestors, List.getElem?_eq_getElem]
    simpa [hasSettings] using hfirst m hm _ hnearer

/-- If a directory on the way up has a settings file, one of them is the first. -/
theorem exists_isNearest (h : ∃ n, ∃ dir ∈ start.above? n, disk.isFile (dir.join settingsFile)) :
    ∃ n dir, IsNearest disk start n dir := by
  classical
  obtain ⟨dir, habove, hfound⟩ := Nat.find_spec h
  refine ⟨Nat.find h, dir, habove, hfound, ?_⟩
  intro m hm nearer hnearer hfile
  exact Nat.find_min h hm ⟨nearer, hnearer, hfile⟩

/-- The settings are those of the nearest settings file. -/
theorem IsNearest.discoverSettings_eq (h : IsNearest disk start n dir) :
    discoverSettings disk start = (loadSettings disk (dir.join settingsFile), dir) := by
  unfold discoverSettings
  rw [find?_ancestors_eq_some_iff.2 ⟨n, h⟩]

/-- Where there is no settings file on the way up, the settings are the defaults. -/
theorem discoverSettings_of_none
    (h : ¬ ∃ n, ∃ dir ∈ start.above? n, disk.isFile (dir.join settingsFile)) :
    discoverSettings disk start = ({}, start) := by
  unfold discoverSettings
  split
  · next dir hdir =>
    obtain ⟨n, hnearest⟩ := find?_ancestors_eq_some_iff.1 hdir
    exact absurd ⟨n, dir, hnearest.above, hnearest.found⟩ h
  · rfl

/-- A directory stays the nearest one on a disk that has the same files up to it. -/
theorem IsNearest.congr (h : IsNearest disk start n dir)
    (hsame : ∀ m ≤ n, ∀ q ∈ start.above? m,
      disk'.isFile (q.join settingsFile) = disk.isFile (q.join settingsFile)) :
    IsNearest disk' start n dir where
  above := h.above
  found := by
    rw [hsame n le_rfl dir h.above]
    exact h.found
  first := by
    intro m hm nearer hnearer
    rw [hsame m (Nat.le_of_lt hm) nearer hnearer]
    exact h.first m hm nearer hnearer

/-- Settings are loaded from the text of a file.  Without one, and if the text spells none, they are
the defaults. -/
theorem loadSettings_eq (disk : Disk) (file : Path) :
    loadSettings disk file =
      ((disk.readText file).toOption.bind Settings.ofText?).getD {} := by
  unfold loadSettings readSettings
  cases disk.readText file with
  | error e => rfl
  | ok text =>
    simp only [Except.toOption, Option.bind_some]
    cases Settings.ofText? text with
    | none => rfl
    | some s => rfl

/-- What a settings file says depends on its bytes alone. -/
theorem loadSettings_congr {file : Path} (h : disk'.read file = disk.read file) :
    loadSettings disk' file = loadSettings disk file := by
  have htext : disk'.readText file = disk.readText file := by
    unfold Disk.readText
    rw [h]
  rw [loadSettings_eq, loadSettings_eq, htext]

end

/-- Discovery finds the nearest settings file and stops there.  The way up from any directory ends.
If some directory on it has a settings file then one is the nearest, and otherwise the result is the
default settings with the directory itself.  For the nearest one the result is what its file loads
to, with that directory; any disk that has the same files up to it, and the same content in that
one, gives the same result; and if its content cannot be read, is not UTF-8 or spells no settings,
the settings are the default ones. -/
theorem discovery_stops_at_nearest_file (disk : Disk) (start : Path) :
    (∃ limit, ∀ n, limit ≤ n → start.above? n = none) ∧
    ((∃ n, ∃ dir ∈ start.above? n, disk.isFile (dir.join settingsFile)) →
      ∃ n dir, IsNearest disk start n dir) ∧
    ((¬ ∃ n, ∃ dir ∈ start.above? n, disk.isFile (dir.join settingsFile)) →
      discoverSettings disk start = ({}, start)) ∧
    ∀ n dir, IsNearest disk start n dir →
      let file := dir.join settingsFile
      discoverSettings disk start = (loadSettings disk file, dir) ∧
      (∀ disk' : Disk, (∀ m ≤ n, ∀ q ∈ start.above? m,
          disk'.isFile (q.join settingsFile) = disk.isFile (q.join settingsFile)) →
        disk'.read file = disk.read file →
        discoverSettings disk' start = discoverSettings disk start) ∧
      (∀ text, disk.readText file = .ok text →
        (discoverSettings disk start).1 = (Settings.ofText? text).getD {}) ∧
      (∀ bytes, disk.read file = .ok bytes → Text.ofUtf8? bytes = none →
        (discoverSettings disk start).1 = {}) ∧
      ∀ e, disk.read file = .error e → (discoverSettings disk start).1 = {} := by
  refine ⟨⟨start.bytes.length + 1, ?_⟩, exists_isNearest, discoverSettings_of_none, ?_⟩
  · intro n hn
    exact Path.above?_eq_none (by omega)
  · intro n dir h file
    have hfound : (discoverSettings disk start).1 =
        ((disk.readText file).toOption.bind Settings.ofText?).getD {} := by
      rw [h.discoverSettings_eq, loadSettings_eq]
    refine ⟨h.discoverSettings_eq, ?_, ?_, ?_, ?_⟩
    · intro disk' hfiles hcontent
      rw [(h.congr hfiles).discoverSettings_eq, h.discoverSettings_eq, loadSettings_congr hcontent]
    · intro text htext
      rw [hfound, htext]
      rfl
    · intro bytes hread hutf8
      have htext : disk.readText file = .error .notUtf8 := by
        simp [Disk.readText, hread, hutf8]
      rw [hfound, htext]
      rfl
    · intro e hread
      have htext : disk.readText file = .error e := by simp [Disk.readText, hread]
      rw [hfound, htext]
      rfl

end DocSignature
