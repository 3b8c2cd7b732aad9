import DocSignature.Disk.Path

/-!
# Directories above a path

Going from a path to its parent makes it shorter, so the way up ends (`ancestors`).
-/

set_option autoImplicit false

namespace DocSignature

/-! ## Splitting and joining -/

/-- Splitting gives one segment at least. -/
theorem splitSlashes_ne_nil (bs : List UInt8) : splitSlashes bs ≠ [] := by
  cases bs with
  | nil => simp [splitSlashes]
  | cons b rest =>
    rw [splitSlashes]
    split
    · simp
    · split
      · simp
      · simp

/-- A slash joins a first segment to those that follow. -/
theorem joinSlashes_cons (s : List UInt8) {ss : List (List UInt8)} (h : ss ≠ []) :
    joinSlashes (s :: ss) = s ++ slash :: joinSlashes ss := by
  obtain ⟨t, ts, rfl⟩ := List.exists_cons_of_ne_nil h
  rfl

/-- A byte in front of the first segment is in front of all. -/
theorem joinSlashes_cons_cons (b : UInt8) (s : List UInt8) (ss : List (List UInt8)) :
    joinSlashes ((b :: s) :: ss) = b :: joinSlashes (s :: ss) := by
  cases ss with
  | nil => rfl
  | cons t ts => rfl

/-- Joining puts back what splitting took apart. -/
theorem joinSlashes_splitSlashes (bs : List UInt8) : joinSlashes (splitSlashes bs) = bs := by
  induction bs with
  | nil => rfl
  | cons b rest ih =>
    have hne := splitSlashes_ne_nil rest
    by_cases hb : b = slash
    · rw [splitSlashes, if_pos hb, joinSlashes_cons [] hne, ih, hb, List.nil_append]
    · obtain ⟨s, ss, hsplit⟩ := List.exists_cons_of_ne_nil hne
      have hfirst : splitSlashes (b :: rest) = (b :: s) :: ss := by
        simp only [splitSlashes, if_neg hb, hsplit]
      rw [hfirst, joinSlashes_cons_cons, ← hsplit, ih]

/-! ## Lengths -/

/-- A segment at the end adds its length, and a slash if it is not the only one. -/
theorem length_joinSlashes_append (ss : List (List UInt8)) (s : List UInt8) (h : ss ≠ []) :
    (joinSlashes (ss ++ [s])).length = (joinSlashes ss).length + s.length + 1 := by
  induction ss with
  | nil => exact absurd rfl h
  | cons t ts ih =>
    cases ts with
    | nil => simp [joinSlashes, Nat.add_assoc]
    | cons u us =>
      have hrest := ih (List.cons_ne_nil u us)
      simp only [List.cons_append, joinSlashes, List.length_append, List.length_cons] at hrest ⊢
      omega

/-- A segment at the end makes no path shorter. -/
theorem length_joinSlashes_le_concat (ss : List (List UInt8)) (s : List UInt8) :
    (joinSlashes ss).length ≤ (joinSlashes (ss ++ [s])).length := by
  by_cases hss : ss = []
  · simp [hss, joinSlashes]
  · rw [length_joinSlashes_append ss s hss]
    omega

/-- A segment that is not empty makes every path longer. -/
theorem length_joinSlashes_lt_concat (ss : List (List UInt8)) {s : List UInt8} (h : s ≠ []) :
    (joinSlashes ss).length < (joinSlashes (ss ++ [s])).length := by
  by_cases hss : ss = []
  · simpa [hss, joinSlashes] using List.length_pos_iff.2 h
  · rw [length_joinSlashes_append ss s hss]
    omega

/-- Fewer segments are no longer together. -/
theorem length_joinSlashes_le_append (ss ts : List (List UInt8)) :
    (joinSlashes ss).length ≤ (joinSlashes (ss ++ ts)).length := by
  induction ts generalizing ss with
  | nil => simp
  | cons t ts ih =>
    calc (joinSlashes ss).length
        ≤ (joinSlashes (ss ++ [t])).length := length_joinSlashes_le_concat ss t
      _ ≤ (joinSlashes (ss ++ [t] ++ ts)).length := ih (ss ++ [t])
      _ = (joinSlashes (ss ++ t :: ts)).length := by rw [List.append_assoc, List.singleton_append]

namespace Path

/-- What is dropped at the end comes after what stays. -/
theorem exists_eq_dropTrivialRight_append (ss : List (List UInt8)) :
    ∃ ts, ss = dropTrivialRight ss ++ ts :=
  ⟨(ss.reverse.takeWhile isTrivial).reverse, by
    rw [dropTrivialRight, ← List.reverse_append, List.takeWhile_append_dropWhile,
      List.reverse_reverse]⟩

/-- Without the segments that are dropped at the end, segments are no longer together. -/
theorem length_joinSlashes_dropTrivialRight_le (first ss : List (List UInt8)) :
    (joinSlashes (first ++ dropTrivialRight ss)).length ≤ (joinSlashes (first ++ ss)).length := by
  obtain ⟨ts, hss⟩ := exists_eq_dropTrivialRight_append ss
  have hle := length_joinSlashes_le_append (first ++ dropTrivialRight ss) ts
  rwa [List.append_assoc, ← hss] at hle

/-- What stays ends in a segment that is not empty. -/
theorem getLast_dropTrivialRight_ne_nil (ss : List (List UInt8)) (h : dropTrivialRight ss ≠ []) :
    (dropTrivialRight ss).getLast h ≠ [] := by
  intro hempty
  have hkept : ss.reverse.dropWhile isTrivial ≠ [] := by simpa [dropTrivialRight] using h
  have hlast : (ss.reverse.dropWhile isTrivial).head hkept = (dropTrivialRight ss).getLast h := by
    simp [dropTrivialRight]
  have hnot := List.head_dropWhile_not isTrivial hkept
  rw [hlast, hempty] at hnot
  simp [isTrivial] at hnot

/-- Without the last of those that stay, segments are shorter together. -/
theorem length_joinSlashes_dropLast_lt (first ss : List (List UInt8))
    (h : dropTrivialRight ss ≠ []) :
    (joinSlashes (first ++ dropTrivialRight (dropTrivialRight ss).dropLast)).length
      < (joinSlashes (first ++ ss)).length := by
  have hlast := getLast_dropTrivialRight_ne_nil ss h
  calc (joinSlashes (first ++ dropTrivialRight (dropTrivialRight ss).dropLast)).length
      ≤ (joinSlashes (first ++ (dropTrivialRight ss).dropLast)).length :=
        length_joinSlashes_dropTrivialRight_le first _
    _ < (joinSlashes (first ++ (dropTrivialRight ss).dropLast ++
          [(dropTrivialRight ss).getLast h])).length := length_joinSlashes_lt_concat _ hlast
    _ = (joinSlashes (first ++ dropTrivialRight ss)).length := by
        rw [List.append_assoc, List.dropLast_concat_getLast h]
    _ ≤ (joinSlashes (first ++ ss)).length := length_joinSlashes_dropTrivialRight_le first ss

/-! ## The path above -/

section

variable {p q : Path}

/-- The path above an absolute one is shorter. -/
theorem length_lt_of_parent?_absolute (habsolute : p.isAbsolute = true) (h : p.parent? = some q) :
    q.bytes.length < p.bytes.length := by
  obtain ⟨tail, htail⟩ : ∃ tail, p.bytes = slash :: tail := by
    cases hbytes : p.bytes with
    | nil => simp [isAbsolute, hbytes] at habsolute
    | cons b tail => exact ⟨tail, by simpa [isAbsolute, hbytes] using habsolute⟩
  have hsegments : p.segments.drop 1 = splitSlashes tail := by
    simp [segments, htail, splitSlashes]
  rw [parent?, if_pos habsolute, hsegments] at h
  split at h
  · simp at h
  · next hkept =>
    obtain rfl := Option.some.inj h
    have hlt := length_joinSlashes_dropLast_lt [] (splitSlashes tail) hkept
    rw [List.nil_append, List.nil_append, joinSlashes_splitSlashes] at hlt
    simpa [htail] using hlt

/-- The path above a relative one is shorter. -/
theorem length_lt_of_parent?_relative (hrelative : ¬ p.isAbsolute = true)
    (h : p.parent? = some q) : q.bytes.length < p.bytes.length := by
  obtain ⟨first, rest, hsegments⟩ := List.exists_cons_of_ne_nil (splitSlashes_ne_nil p.bytes)
  have hjoined : joinSlashes ([first] ++ rest) = p.bytes := by
    rw [List.singleton_append, ← hsegments, joinSlashes_splitSlashes]
  simp only [parent?, if_neg hrelative, segments, hsegments] at h
  split at h
  -- after the first segment there is no component
  · split at h
    · simp at h
    · next hfirst =>
      obtain rfl := Option.some.inj h
      calc ([] : List UInt8).length
          < first.length := List.length_pos_iff.2 hfirst
        _ = (joinSlashes [first]).length := rfl
        _ ≤ (joinSlashes ([first] ++ rest)).length := length_joinSlashes_le_append [first] rest
        _ = p.bytes.length := by rw [hjoined]
  · next hkept =>
    obtain rfl := Option.some.inj h
    have hlt := length_joinSlashes_dropLast_lt [first] rest hkept
    rwa [hjoined] at hlt

/-- The path above another is shorter. -/
theorem length_lt_of_parent? (h : p.parent? = some q) : q.bytes.length < p.bytes.length := by
  by_cases habsolute : p.isAbsolute = true
  · exact length_lt_of_parent?_absolute habsolute h
  · exact length_lt_of_parent?_relative habsolute h

end

/-- A path and those above it, the nearest first (`ancestors`). -/
def ancestors (p : Path) : List Path :=
  p :: match _h : p.parent? with
    | none => []
    | some q => q.ancestors
termination_by p.bytes.length
decreasing_by exact length_lt_of_parent? (by assumption)

end Path

end DocSignature
