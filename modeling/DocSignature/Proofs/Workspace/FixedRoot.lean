import DocSignature.Proofs.Url.FileSegments
import DocSignature.Proofs.Workspace.Documents
import DocSignature.Url.DomainNames

/-!
# The root of the workspace over whole runs

A client may begin a session (`initialize`) more than once, and may name a root each time or not.  A
step keeps the root that there is, or else takes the one it names, so after a run the root is what
the earliest step that names one names.  From then on the URLs of the documents that requests name
stay the same, whatever the client does; before that, a beginning without a root leaves no trace.
-/

set_option autoImplicit false

namespace DocSignature

namespace Step

/-- A step names the root of the workspace.  It begins the session, and the path is that of the
first folder; if there is no first folder, or it has no path, the path is that of the root. -/
inductive NamesRoot (path : Path) : Step → Prop where
  | folder {first : Url} (others : List Url) (rootUri : Option Url)
      (hfirst : first.toFilePath? = some path) :
      NamesRoot path (.begin (some (first :: others)) rootUri)
  | rootUri {folders : Option (List Url)} {rootUri : Url}
      (hfolders : ∀ first others, folders = some (first :: others) → first.toFilePath? = none)
      (hroot : rootUri.toFilePath? = some path) : NamesRoot path (.begin folders (some rootUri))

/-- The root that a step names, if it does. -/
def root? : Step → Option Path
  | .begin folders rootUri => namedRoot folders rootUri
  | .didOpen .. | .didChange .. | .didClose _ | .askSignature _ | .ping | .shutdown => none

/-- The folders give no root just if there is no first one or it has no path. -/
theorem firstFolder_eq_none_iff {folders : Option (List Url)} :
    (folders.bind (·.head?)).bind Url.toFilePath? = none ↔
      ∀ first others, folders = some (first :: others) → first.toFilePath? = none := by
  rcases folders with _ | _ | ⟨first, others⟩ <;> simp

/-- What a step names is what is read off it. -/
theorem namesRoot_iff {path : Path} {step : Step} :
    step.NamesRoot path ↔ step.root? = some path := by
  constructor
  · rintro (⟨others, rootUri, hfirst⟩ | ⟨hfolders, hroot⟩)
    · simp [root?, namedRoot, hfirst]
    · simp [root?, namedRoot, firstFolder_eq_none_iff.2 hfolders, hroot]
  · intro h
    cases step with
    | begin folders rootUri =>
      rw [root?, namedRoot] at h
      cases hfirst : (folders.bind (·.head?)).bind Url.toFilePath? with
      | none =>
        rw [hfirst] at h
        obtain ⟨url, rfl, hroot⟩ := Option.bind_eq_some_iff.1 h
        exact .rootUri (firstFolder_eq_none_iff.1 hfirst) hroot
      | some p =>
        rw [hfirst] at h
        obtain rfl : p = path := Option.some.inj h
        obtain ⟨first, hhead, hpath⟩ := Option.bind_eq_some_iff.1 hfirst
        obtain ⟨l, rfl, hl⟩ := Option.bind_eq_some_iff.1 hhead
        obtain ⟨others, rfl⟩ := List.head?_eq_some_iff.1 hl
        exact .folder others rootUri hpath
    | _ => simp [root?] at h

/-- A step names no root just if none is read off it. -/
theorem forall_not_namesRoot_iff {step : Step} :
    (∀ path, ¬ step.NamesRoot path) ↔ step.root? = none := by
  simp only [namesRoot_iff]
  exact Option.eq_none_iff_forall_ne_some.symm

end Step

namespace Session

/-- A step keeps the root, or takes the one that it names where there is none. -/
theorem root_step (s : Session) (step : Step) : (s.step step).root = s.root.or step.root? := by
  cases step with
  | begin folders rootUri => exact Option.orElse_eq_or
  | didChange url version texts => cases texts <;> simp [Session.step, Step.root?]
  | _ => simp [Session.step, Step.root?]

/-- A run keeps the root, or takes the first one that a step of it names. -/
theorem root_run (s : Session) (steps : List Step) :
    (s.run steps).root = s.root.or (steps.findSome? Step.root?) := by
  induction steps generalizing s with
  | nil => simp [run]
  | cons step steps ih =>
    have htail : s.run (step :: steps) = (s.step step).run steps := rfl
    rw [htail, ih, root_step, Option.or_assoc, List.findSome?_cons]
    cases step.root? <;> rfl

/-- The earliest step of a run that names a root names a path. -/
def FirstNamed (path : Path) (steps : List Step) : Prop :=
  ∃ before step after, steps = before ++ step :: after ∧ step.NamesRoot path ∧
    ∀ earlier ∈ before, ∀ p, ¬ earlier.NamesRoot p

/-- The path named first is the first one found along the run. -/
theorem firstNamed_iff {path : Path} {steps : List Step} :
    FirstNamed path steps ↔ steps.findSome? Step.root? = some path := by
  rw [List.findSome?_eq_some_iff]
  simp only [FirstNamed, Step.namesRoot_iff, Option.eq_none_iff_forall_ne_some, ne_eq]

/-- After a run requests start from the path named first, else from the working directory. -/
theorem base_run (steps : List Step) (cwd : Path) :
    (run {} steps).base cwd = (steps.findSome? Step.root?).getD cwd := by
  rw [base, root_run, Option.none_or]

/-- Later steps do not change which path was named first. -/
theorem FirstNamed.append {path : Path} {steps : List Step} (h : FirstNamed path steps)
    (later : List Step) : FirstNamed path (steps ++ later) := by
  obtain ⟨before, step, after, rfl, hstep, hbefore⟩ := h
  exact ⟨before, step, after ++ later, by simp, hstep, hbefore⟩

/-- Requests start from the path named first. -/
theorem FirstNamed.base_eq {path : Path} {steps : List Step} (h : FirstNamed path steps)
    (cwd : Path) : (run {} steps).base cwd = path := by
  rw [base_run, firstNamed_iff.1 h, Option.getD_some]

/-- Where a step names a root, some step does so first. -/
theorem exists_firstNamed {steps : List Step} {step : Step} {path : Path} (hmem : step ∈ steps)
    (h : step.NamesRoot path) : ∃ first, FirstNamed first steps := by
  have hsome : (steps.findSome? Step.root?).isSome := by
    rw [List.findSome?_isSome_iff]
    exact ⟨step, hmem, by rw [Step.namesRoot_iff.1 h, Option.isSome_some]⟩
  obtain ⟨first, hfirst⟩ := Option.isSome_iff_exists.1 hsome
  exact ⟨first, firstNamed_iff.2 hfirst⟩

/-- The root of the workspace is fixed once.  After any run, requests are resolved from the path
that the earliest step naming one names, if there is such a step, and from the working directory
otherwise.  So once a step has named a root, the URL of every request stays the same, whatever steps
follow and wherever the server works.  A step that names none makes no difference to the root at any
time, and so a step that names the first one always sets it. -/
theorem root_is_fixed_once [Url.DomainNames] (steps : List Step) :
    (∀ path, FirstNamed path steps → ∀ cwd, (run {} steps).base cwd = path) ∧
    ((∀ step ∈ steps, ∀ path, ¬ step.NamesRoot path) → ∀ cwd, (run {} steps).base cwd = cwd) ∧
    (∀ step ∈ steps, ∀ path, step.NamesRoot path →
      (∃ first, FirstNamed first steps) ∧
      ∀ later uri cwd cwd', documentUrl? uri ((run {} (steps ++ later)).base cwd') =
        documentUrl? uri ((run {} steps).base cwd)) ∧
    (∀ step, (∀ path, ¬ step.NamesRoot path) → ∀ later cwd,
      (run {} (steps ++ step :: later)).base cwd = (run {} (steps ++ later)).base cwd) ∧
    ((∀ step ∈ steps, ∀ path, ¬ step.NamesRoot path) → ∀ step path, step.NamesRoot path →
      ∀ later cwd, (run {} (steps ++ step :: later)).base cwd = path) := by
  refine ⟨fun path h => h.base_eq, ?_, ?_, ?_, ?_⟩
  · intro hnone cwd
    have hfind : steps.findSome? Step.root? = none := by
      rw [List.findSome?_eq_none_iff]
      exact fun step hstep => Step.forall_not_namesRoot_iff.1 (hnone step hstep)
    rw [base_run, hfind, Option.getD_none]
  · intro step hstep path hpath
    obtain ⟨first, hfirst⟩ := exists_firstNamed hstep hpath
    refine ⟨⟨first, hfirst⟩, ?_⟩
    intro later uri cwd cwd'
    rw [hfirst.base_eq, (hfirst.append later).base_eq]
  · intro step hstep later cwd
    rw [base_run, base_run, List.findSome?_append, List.findSome?_append, List.findSome?_cons,
      Step.forall_not_namesRoot_iff.1 hstep]
  · intro hnone step path hpath later cwd
    have hfirst : FirstNamed path (steps ++ step :: later) :=
      ⟨steps, step, later, rfl, hpath, hnone⟩
    exact hfirst.base_eq cwd

/-- The client begins four times: without a root, with a folder elsewhere and no root, with such a
folder and a root, and with a folder.  The third time decides. -/
theorem repeated_beginnings_fix_root :
    let elsewhere : Url := { scheme := "http", authority := some { host := "a.org" }, path := "/x" }
    let work := Url.localFile "/work"
    let steps := [.begin none none, .begin (some [elsewhere, work]) none, .ping,
      .begin (some [elsewhere]) (some work)]
    let later := [.didOpen work "" 1, .begin (some [.localFile "/other"]) none, .shutdown]
    FirstNamed (.ofString "/work") steps ∧
      ∀ cwd, documentUrl? "a.py" ((run {} (steps ++ later)).base cwd) =
        some (.localFile "/work/a.py") := by
  intro elsewhere work steps later
  have hwork : work.toFilePath? = some (.ofString "/work") := by decide +kernel
  have helsewhere : elsewhere.toFilePath? = none := by decide +kernel
  have hnames : Step.NamesRoot (.ofString "/work") (.begin (some [elsewhere]) (some work)) := by
    refine .rootUri ?_ hwork
    intro first others heq
    obtain ⟨rfl, -⟩ := List.cons.inj (Option.some.inj heq)
    exact helsewhere
  have hfirst : FirstNamed (.ofString "/work") steps := by
    refine ⟨steps.take 3, _, [], rfl, hnames, ?_⟩
    simp only [Step.forall_not_namesRoot_iff]
    decide +kernel
  obtain ⟨hbase, -, hstays, -⟩ := root_is_fixed_once steps
  refine ⟨hfirst, fun cwd => ?_⟩
  rw [(hstays _ (by simp [steps]) _ hnames).2 later "a.py" cwd cwd, hbase _ hfirst cwd]
  decide +kernel

end Session

end DocSignature
