import DocSignature.Disk.Ancestors
import DocSignature.Disk.FileTree
import Mathlib.Data.List.Basic
import Mathlib.Data.List.Flatten
import Mathlib.Tactic.SplitIfs

/-!
# Tidy paths

An absolute path is a slash before each of its segments.  Without the segments that stand for no
component it is tidy: it has the same components, and where the path leads to a file of a file tree
the tidy path leads to the same one.  The converse fails, since a slash or a dot after the name of a
file leads nowhere.
-/

set_option autoImplicit false

namespace DocSignature

/-! ## Segments -/

/-- No segment holds a slash. -/
theorem slash_notMem_of_mem_splitSlashes {bs s : List UInt8} (h : s ∈ splitSlashes bs) :
    slash ∉ s := by
  induction bs generalizing s with
  | nil => simp_all [splitSlashes]
  | cons b rest ih =>
    rw [splitSlashes] at h
    split at h
    · rcases List.mem_cons.1 h with rfl | h
      · simp
      · exact ih h
    · next hb =>
      cases hrest : splitSlashes rest with
      | nil => exact absurd hrest (splitSlashes_ne_nil rest)
      | cons first ss =>
        rw [hrest] at h ih
        rcases List.mem_cons.1 h with rfl | h
        · have hfirst := ih List.mem_cons_self
          simp [hfirst, Ne.symm hb]
        · exact ih (List.mem_cons_of_mem _ h)

/-- Bytes without a slash before a slash are the first segment. -/
theorem splitSlashes_append {s : List UInt8} (hs : slash ∉ s) (rest : List UInt8) :
    splitSlashes (s ++ slash :: rest) = s :: splitSlashes rest := by
  induction s with
  | nil => simp [splitSlashes]
  | cons b s ih =>
    obtain ⟨hb, hs⟩ := not_or.1 (mt List.mem_cons.2 hs)
    rw [List.cons_append, splitSlashes, if_neg (Ne.symm hb), ih hs]

/-- Bytes without a slash are the only segment. -/
theorem splitSlashes_of_notMem {s : List UInt8} (hs : slash ∉ s) : splitSlashes s = [s] := by
  induction s with
  | nil => rfl
  | cons b s ih =>
    obtain ⟨hb, hs⟩ := not_or.1 (mt List.mem_cons.2 hs)
    rw [splitSlashes, if_neg (Ne.symm hb), ih hs]

/-- The segments that stand for no component are the empty one and the dot. -/
theorem Path.isTrivial_iff {s : List UInt8} : isTrivial s = true ↔ s = [] ∨ s = [dot] := by
  simp [isTrivial]

/-- An empty segment at the end brings no slash with it. -/
theorem slash_notMem_of_mem_concat_nil {ss : List (List UInt8)} (h : ∀ s ∈ ss, slash ∉ s) :
    ∀ s ∈ ss ++ [[]], slash ∉ s := by
  simpa [or_imp, forall_and] using h

/-- A segment that stands for a component is spelled as the component, the others stand for none. -/
theorem map_bytes_ofSegment? (s : List UInt8) :
    (Component.ofSegment? s).map Component.bytes = if Path.isTrivial s then none else some s := by
  unfold Component.ofSegment?
  simp only [Path.isTrivial_iff]
  split_ifs with htrivial hparent
  · rfl
  · rw [hparent]
    rfl
  · rfl

/-- A segment stands for the directory above or for a name. -/
theorem eq_parent_or_name_of_ofSegment? {s : List UInt8} {c : Component}
    (h : Component.ofSegment? s = some c) : c = .parent ∨ c = .name c.bytes := by
  unfold Component.ofSegment? at h
  split_ifs at h
  · exact .inl (Option.some.inj h).symm
  · obtain rfl := Option.some.inj h
    exact .inr rfl

/-- Components are spelled by the segments that stand for them. -/
theorem map_bytes_filterMap_ofSegment? (ss : List (List UInt8)) :
    (ss.filterMap Component.ofSegment?).map Component.bytes = ss.filter (!Path.isTrivial ·) := by
  rw [List.map_filterMap, ← List.filterMap_eq_filter]
  refine List.filterMap_congr fun s _ => ?_
  rw [map_bytes_ofSegment?]
  cases htrivial : Path.isTrivial s <;> simp [Option.guard, htrivial]

/-- Segments that stand for no component can be left out. -/
theorem filterMap_ofSegment?_filter (ss : List (List UInt8)) :
    (ss.filter (!Path.isTrivial ·)).filterMap Component.ofSegment? =
      ss.filterMap Component.ofSegment? := by
  rw [List.filterMap_filter]
  refine List.filterMap_congr fun s _ => ?_
  have hspelled := map_bytes_ofSegment? s
  cases htrivial : Path.isTrivial s with
  | false => simp
  | true =>
    rw [htrivial, if_pos rfl, Option.map_eq_none_iff] at hspelled
    simp [hspelled]

namespace Path

/-- The absolute path with some segments: a slash before each. -/
def ofSegments (ss : List (List UInt8)) : Path := ⟨ss.flatMap (slash :: ·)⟩

/-- The segments of a path made of segments are an empty one and these. -/
theorem segments_ofSegments {ss : List (List UInt8)} (h : ∀ s ∈ ss, slash ∉ s) :
    (ofSegments ss).segments = [] :: ss := by
  induction ss with
  | nil => rfl
  | cons s ss ih =>
    have hs := h s List.mem_cons_self
    have hrest : splitSlashes (ss.flatMap (slash :: ·)) = [] :: ss :=
      ih fun t ht => h t (List.mem_cons_of_mem _ ht)
    change splitSlashes (slash :: (s ++ ss.flatMap (slash :: ·))) = _
    rw [splitSlashes, if_pos rfl]
    cases ss with
    | nil => rw [List.flatMap_nil, List.append_nil, splitSlashes_of_notMem hs]
    | cons t ss =>
      rw [List.flatMap_cons, List.cons_append, splitSlashes, if_pos rfl, List.cons.injEq] at hrest
      rw [List.flatMap_cons, List.cons_append, splitSlashes_append hs, hrest.2]

/-- A path made of segments is absolute. -/
theorem isAbsolute_ofSegments {ss : List (List UInt8)} (hne : ss ≠ []) :
    (ofSegments ss).isAbsolute = true := by
  obtain ⟨s, ss, rfl⟩ := List.exists_cons_of_ne_nil hne
  rfl

/-- The bytes of a path made of segments are a slash and the segments joined. -/
theorem bytes_ofSegments {ss : List (List UInt8)} (hne : ss ≠ []) :
    (ofSegments ss).bytes = slash :: joinSlashes ss := by
  induction ss with
  | nil => exact absurd rfl hne
  | cons s ss ih =>
    cases ss with
    | nil => simp [ofSegments, joinSlashes]
    | cons t ss =>
      have hfirst : (ofSegments (s :: t :: ss)).bytes =
          slash :: (s ++ (ofSegments (t :: ss)).bytes) := rfl
      rw [hfirst, ih (List.cons_ne_nil t ss), joinSlashes_cons s (List.cons_ne_nil t ss)]

/-- Every absolute path is a slash before each of its segments. -/
theorem exists_eq_ofSegments {p : Path} (h : p.isAbsolute = true) :
    ∃ ss, ss ≠ [] ∧ (∀ s ∈ ss, slash ∉ s) ∧ p = ofSegments ss := by
  obtain ⟨bytes⟩ := p
  cases bytes with
  | nil => simp [isAbsolute] at h
  | cons b rest =>
    obtain rfl : b = slash := by simpa [isAbsolute] using h
    refine ⟨splitSlashes rest, splitSlashes_ne_nil rest,
      fun s hs => slash_notMem_of_mem_splitSlashes hs, ?_⟩
    have hbytes := bytes_ofSegments (splitSlashes_ne_nil rest)
    rw [joinSlashes_splitSlashes] at hbytes
    rw [← hbytes]

/-- The components of a path made of segments are the root and those of its segments. -/
theorem components_ofSegments {ss : List (List UInt8)} (hne : ss ≠ [])
    (h : ∀ s ∈ ss, slash ∉ s) :
    (ofSegments ss).components = .root :: ss.filterMap Component.ofSegment? := by
  simp [components, isAbsolute_ofSegments hne, segments_ofSegments h, Component.ofSegment?]

/-- The segments of a path that stand for components, or an empty one if none does. -/
def tidied (ss : List (List UInt8)) : List (List UInt8) :=
  match ss.filter (!isTrivial ·) with
  | [] => [[]]
  | s :: rest => s :: rest

/-- A tidy path has a segment. -/
theorem tidied_ne_nil (ss : List (List UInt8)) : tidied ss ≠ [] := by
  unfold tidied
  split <;> simp

/-- Tidying adds no segment but an empty one. -/
theorem mem_of_mem_tidied {ss : List (List UInt8)} {s : List UInt8} (h : s ∈ tidied ss) :
    s = [] ∨ s ∈ ss := by
  unfold tidied at h
  split at h
  · exact .inl (List.mem_singleton.1 h)
  · next first rest hfilter =>
    rw [← hfilter] at h
    exact .inr (List.mem_filter.1 h).1

/-- Tidying adds no slash to a segment. -/
theorem slash_notMem_of_mem_tidied {ss : List (List UInt8)} (h : ∀ s ∈ ss, slash ∉ s) :
    ∀ s ∈ tidied ss, slash ∉ s := by
  intro s hs
  rcases mem_of_mem_tidied hs with rfl | hs
  · simp
  · exact h s hs

/-- Tidying a path keeps its components. -/
theorem filterMap_ofSegment?_tidied (ss : List (List UInt8)) :
    (tidied ss).filterMap Component.ofSegment? = ss.filterMap Component.ofSegment? := by
  rw [← filterMap_ofSegment?_filter ss]
  unfold tidied
  split
  · next hnone => rw [hnone]; rfl
  · next hsome => rw [hsome]

/-- Tidying a path makes it no longer. -/
theorem length_ofSegments_tidied_le {ss : List (List UInt8)} (hne : ss ≠ []) :
    (ofSegments (tidied ss)).bytes.length ≤ (ofSegments ss).bytes.length := by
  unfold tidied
  split
  · obtain ⟨s, ss, rfl⟩ := List.exists_cons_of_ne_nil hne
    simp [ofSegments]
  · next first rest hfilter =>
    rw [← hfilter]
    have hsub : (ss.filter (!isTrivial ·)).Sublist ss := List.filter_sublist
    exact (hsub.flatMap _).length_le

end Path

/-! ## File trees -/

namespace FileTree

open DocSignature.Path

variable (t : FileTree)

/-- Segments are followed one after the other. -/
theorem follow_append (here : List Name) (ss ts : List (List UInt8)) :
    t.follow here (ss ++ ts) = (t.follow here ss).bind fun there => t.follow there ts := by
  induction ss generalizing here with
  | nil => rfl
  | cons s ss ih =>
    rw [List.cons_append, follow, follow]
    split
    · rfl
    · rfl
    · split_ifs
      · exact ih here
      · exact ih here.dropLast
      · rfl
      · exact ih (here ++ [s])
      · rfl

variable {t}

/-- What is followed without the segments that stand for no component leads to the same place. -/
theorem follow_filter {here there : List Name} {ss : List (List UInt8)}
    (h : t.follow here ss = .ok there) : t.follow here (ss.filter (!isTrivial ·)) = .ok there := by
  induction ss generalizing here with
  | nil => exact h
  | cons s ss ih =>
    have hstep := h
    rw [follow] at hstep
    split at hstep
    · simp at hstep
    · simp at hstep
    · next hentry =>
      rw [List.filter_cons]
      simp only [← isTrivial_iff] at hstep
      cases htrivial : isTrivial s with
      | true =>
        rw [if_pos htrivial] at hstep
        exact ih hstep
      | false =>
        rw [htrivial, if_neg Bool.false_ne_true] at hstep
        rw [Bool.not_false, if_pos rfl, follow, hentry]
        simp only [← isTrivial_iff, htrivial, Bool.false_eq_true, if_false]
        split_ifs at hstep ⊢
        · exact ih hstep
        · exact ih hstep

/-- The root of a file tree is a directory. -/
theorem entry?_nil : t.entry? [] = some .directory := rfl

/-- Tidy segments lead from the root to the same place. -/
theorem follow_tidied {there : List Name} {ss : List (List UInt8)}
    (h : t.follow [] ss = .ok there) : t.follow [] (tidied ss) = .ok there := by
  have hfilter := follow_filter h
  unfold tidied
  split
  · next hnone =>
    rw [hnone] at hfilter
    simpa [follow, entry?_nil] using hfilter
  · next hsome => rwa [hsome] at hfilter

/-- A path is followed from the root if it is neither too long nor holds a zero byte. -/
theorem locate_ofSegments_eq_ok_iff {ss : List (List UInt8)} (hne : ss ≠ [])
    (hslash : ∀ s ∈ ss, slash ∉ s) {cwd there : List Name} :
    t.locate cwd (ofSegments ss) = .ok there ↔
      (∀ s ∈ ss, 0 ∉ s) ∧ (ofSegments ss).bytes.length < pathLimit ∧
        t.follow [] ss = .ok there := by
  have hzero : (ofSegments ss).bytes.contains 0 = true ↔ ¬ ∀ s ∈ ss, 0 ∉ s := by
    have hslash : (0 : UInt8) ≠ slash := by decide
    simp [ofSegments, hslash]
  have hsome : (ofSegments ss).bytes ≠ [] := by
    obtain ⟨s, ss, rfl⟩ := List.exists_cons_of_ne_nil hne
    simp [ofSegments]
  have hfollow : t.follow [] (ofSegments ss).segments = t.follow [] ss := by
    rw [segments_ofSegments hslash, follow, entry?_nil]
    simp
  unfold locate
  rw [isAbsolute_ofSegments hne, if_pos rfl, hfollow]
  by_cases hz : ∀ s ∈ ss, 0 ∉ s
  · rw [if_neg (by rw [hzero]; exact not_not_intro hz), if_neg hsome]
    split
    · next hlong => simp [Nat.not_lt.2 hlong]
    · next hshort => exact ⟨fun h => ⟨hz, Nat.not_le.1 hshort, h⟩, fun h => h.2.2⟩
  · rw [if_pos (hzero.2 hz)]
    simp [hz]

/-- Where an absolute path leads, there its tidy form leads too. -/
theorem locate_tidied {ss : List (List UInt8)} (hne : ss ≠ []) (hslash : ∀ s ∈ ss, slash ∉ s)
    {cwd there : List Name} (h : t.locate cwd (ofSegments ss) = .ok there) :
    t.locate cwd (ofSegments (tidied ss)) = .ok there := by
  obtain ⟨hzero, hlength, hfollow⟩ := (locate_ofSegments_eq_ok_iff hne hslash).1 h
  refine (locate_ofSegments_eq_ok_iff (tidied_ne_nil ss) (slash_notMem_of_mem_tidied hslash)).2
    ⟨?_, ?_, follow_tidied hfollow⟩
  · intro s hs
    rcases mem_of_mem_tidied hs with rfl | hs
    · simp
    · exact hzero s hs
  · exact Nat.lt_of_le_of_lt (length_ofSegments_tidied_le hne) hlength

/-- A slash after the name of a file leads nowhere. -/
theorem locate_concat_nil_ne_ok {ss : List (List UInt8)} (hne : ss ≠ [])
    (hslash : ∀ s ∈ ss, slash ∉ s) {cwd there : List Name} {content : List UInt8}
    (h : t.locate cwd (ofSegments ss) = .ok there) (hfile : t.entry? there = some (.file content))
    (names : List Name) : t.locate cwd (ofSegments (ss ++ [[]])) ≠ .ok names := by
  intro hlocate
  have hfollow := ((locate_ofSegments_eq_ok_iff hne hslash).1 h).2.2
  have hslash' := slash_notMem_of_mem_concat_nil hslash
  have hconcat := ((locate_ofSegments_eq_ok_iff (by simp) hslash').1 hlocate).2.2
  rw [follow_append, hfollow, Except.bind, follow, hfile] at hconcat
  simp at hconcat

section

variable {cwd : List Name} {p q : Path} {source : String}

/-- A path whose file is read leads to a file. -/
theorem exists_locate_of_readText (h : (t.disk cwd).readText p = .ok source) :
    ∃ there content, t.locate cwd p = .ok there ∧ t.entry? there = some (.file content) := by
  unfold Disk.readText at h
  cases hlocate : t.locate cwd p with
  | error e => simp [disk, hlocate] at h
  | ok there =>
    cases hentry : t.entry? there with
    | none => simp [disk, hlocate, hentry] at h
    | some e =>
      cases e with
      | directory => simp [disk, hlocate, hentry] at h
      | file content => exact ⟨there, content, rfl, hentry⟩

/-- Two paths to the same place read the same text. -/
theorem readText_congr (h : t.locate cwd p = t.locate cwd q) :
    (t.disk cwd).readText p = (t.disk cwd).readText q := by
  simp only [Disk.readText, disk, h]

/-- A path that leads nowhere is not read. -/
theorem exists_readText_eq_error (h : ∀ names, t.locate cwd p ≠ .ok names) :
    ∃ reason, (t.disk cwd).readText p = .error reason := by
  cases hread : (t.disk cwd).readText p with
  | error reason => exact ⟨reason, rfl⟩
  | ok source =>
    obtain ⟨there, -, hlocate, -⟩ := exists_locate_of_readText hread
    exact absurd hlocate (h there)

end

end FileTree

end DocSignature
