import DocSignature.Syntax.Tree
import Mathlib.Data.List.TakeWhile
import Mathlib.Data.String.Basic

/-!
# Verbatim text

A byte range of a source whose ends do not split a character stands for a stretch of the source.
`IsVerbatim` says that a text is such a stretch with the blank characters at its ends left out and
nothing else changed, by taking the source apart around it.  `isVerbatim_trim_extract` shows that
cutting the range out by byte positions and trimming the result gives that text.
-/

set_option autoImplicit false

namespace DocSignature.Text

/-- A text is what a byte range of a source holds, without the blank characters at its ends. -/
def IsVerbatim (source : String) (r : Syntax.ByteRange) (s : String) : Prop :=
  ∃ before lead trail after : String,
    source = before ++ (lead ++ s ++ trail) ++ after ∧
    before.utf8ByteSize = r.start ∧ (before ++ (lead ++ s ++ trail)).utf8ByteSize = r.stop ∧
    (∀ c ∈ lead.toList, isBlank c) ∧ (∀ c ∈ trail.toList, isBlank c) ∧
    (∀ c ∈ s.toList.head?, ¬ isBlank c) ∧ ∀ c ∈ s.toList.getLast?, ¬ isBlank c

/-! ## Trimming -/

/-- What is dropped at the end is blank. -/
theorem exists_eq_dropBlanksRight_append (cs : List Char) :
    ∃ trail, cs = dropBlanksRight cs ++ trail ∧ ∀ c ∈ trail, isBlank c := by
  refine ⟨(cs.reverse.takeWhile isBlank).reverse, ?_, ?_⟩
  · rw [dropBlanksRight, ← List.reverse_append, List.takeWhile_append_dropWhile,
      List.reverse_reverse]
  · intro c hc
    exact List.mem_takeWhile_imp (List.mem_reverse.1 hc)

/-- What is left starts with no blank. -/
theorem not_isBlank_of_mem_head?_dropWhile {cs : List Char} {c : Char}
    (h : c ∈ (cs.dropWhile isBlank).head?) : ¬ isBlank c := by
  have hnot := List.head?_dropWhile_not isBlank cs
  rw [Option.mem_def.1 h] at hnot
  simpa using hnot

/-- What trimming leaves begins with no blank character: it begins like the list without the blank
characters at its beginning. -/
theorem not_isBlank_of_mem_head?_trimChars {cs : List Char} {c : Char}
    (h : c ∈ (trimChars cs).head?) : ¬ isBlank c := by
  obtain ⟨trail, heq, -⟩ := exists_eq_dropBlanksRight_append (cs.dropWhile isBlank)
  have hhead : c ∈ (cs.dropWhile isBlank).head? := by
    rw [heq]
    change c ∈ (trimChars cs ++ trail).head?
    rw [List.head?_append, Option.mem_def.1 h]
    rfl
  exact not_isBlank_of_mem_head?_dropWhile hhead

/-- What is trimmed ends with no blank. -/
theorem not_isBlank_of_mem_getLast?_trimChars {cs : List Char} {c : Char}
    (h : c ∈ (trimChars cs).getLast?) : ¬ isBlank c := by
  rw [trimChars, dropBlanksRight, List.getLast?_reverse] at h
  exact not_isBlank_of_mem_head?_dropWhile h

/-- Trimming takes blank characters off both ends. -/
theorem exists_eq_append_trimChars (cs : List Char) :
    ∃ lead trail, cs = lead ++ trimChars cs ++ trail ∧ (∀ c ∈ lead, isBlank c) ∧
      ∀ c ∈ trail, isBlank c := by
  obtain ⟨trail, heq, htrail⟩ := exists_eq_dropBlanksRight_append (cs.dropWhile isBlank)
  refine ⟨cs.takeWhile isBlank, trail, ?_, fun c => List.mem_takeWhile_imp, htrail⟩
  rw [List.append_assoc, trimChars, ← heq, List.takeWhile_append_dropWhile]

/-! ## Slices -/

/-- Of two beginnings of a list the one with fewer bytes is the beginning of the other one. -/
theorem exists_eq_append_of_utf8Len_le {xs ys xs' ys' : List Char} (h : xs ++ ys = xs' ++ ys')
    (hle : String.utf8Len xs ≤ String.utf8Len xs') : ∃ mid, xs' = xs ++ mid := by
  rcases List.append_eq_append_iff.1 h with ⟨mid, hmid, -⟩ | ⟨mid, hmid, -⟩
  · exact ⟨mid, hmid⟩
  · -- the longer beginning has no bytes more, so it has no characters more
    rw [hmid, String.utf8Len_append] at hle
    have hnone : mid = [] := String.utf8Len_eq_zero.1 (by omega)
    exact ⟨[], by rw [hmid, hnone, List.append_nil, List.append_nil]⟩

/-- A range whose ends split no character cuts the source in three. -/
theorem exists_of_isValid {source : String} {r : Syntax.ByteRange}
    (hstart : String.Pos.Raw.IsValid source ⟨r.start⟩)
    (hstop : String.Pos.Raw.IsValid source ⟨r.stop⟩) (hle : r.start ≤ r.stop) :
    ∃ before mid after : List Char, source = String.ofList (before ++ mid ++ after) ∧
      String.utf8Len before = r.start ∧ String.utf8Len before + String.utf8Len mid = r.stop := by
  obtain ⟨before, rest, hsource, hbefore⟩ := String.Pos.Raw.isValid_iff_exists_append.1 hstart
  obtain ⟨upTo, after, hsource', hupTo⟩ := String.Pos.Raw.isValid_iff_exists_append.1 hstop
  have hbytes : String.utf8Len before.toList = r.start := by
    rw [← String.utf8ByteSize_ofList, String.ofList_toList]
    exact (congrArg String.Pos.Raw.byteIdx hbefore).symm
  have hbytes' : String.utf8Len upTo.toList = r.stop := by
    rw [← String.utf8ByteSize_ofList, String.ofList_toList]
    exact (congrArg String.Pos.Raw.byteIdx hupTo).symm
  have hlists : before.toList ++ rest.toList = upTo.toList ++ after.toList := by
    rw [← String.toList_append, ← String.toList_append, ← hsource, ← hsource']
  obtain ⟨mid, hmid⟩ := exists_eq_append_of_utf8Len_le hlists (by omega)
  refine ⟨before.toList, mid, after.toList, ?_, hbytes, ?_⟩
  · rw [← hmid, String.ofList_append, String.ofList_toList, String.ofList_toList, hsource']
  · rw [← String.utf8Len_append, ← hmid, hbytes']

/-- The text of a range is verbatim. -/
theorem isVerbatim_trim_extract {source : String} {r : Syntax.ByteRange}
    (hstart : String.Pos.Raw.IsValid source ⟨r.start⟩)
    (hstop : String.Pos.Raw.IsValid source ⟨r.stop⟩) (hle : r.start ≤ r.stop) :
    IsVerbatim source r (trim (String.Pos.Raw.extract source ⟨r.start⟩ ⟨r.stop⟩)) := by
  obtain ⟨before, mid, after, rfl, hbefore, hmid⟩ := exists_of_isValid hstart hstop hle
  have hslice : String.Pos.Raw.extract (String.ofList (before ++ mid ++ after)) ⟨r.start⟩ ⟨r.stop⟩ =
      String.ofList mid := by
    rw [← hbefore, ← hmid]
    exact String.extract_of_valid before mid after
  obtain ⟨lead, trail, heq, hlead, htrail⟩ := exists_eq_append_trimChars mid
  have hwhole : String.ofList lead ++ String.ofList (trimChars mid) ++ String.ofList trail =
      String.ofList mid := by
    rw [← String.ofList_append, ← String.ofList_append, ← heq]
  rw [hslice, trim, String.toList_ofList]
  refine ⟨.ofList before, .ofList lead, .ofList trail, .ofList after, ?_, ?_, ?_, ?_, ?_, ?_, ?_⟩
  · rw [hwhole, String.ofList_append, String.ofList_append]
  · rw [String.utf8ByteSize_ofList, hbefore]
  · rw [hwhole, ← String.ofList_append, String.utf8ByteSize_ofList, String.utf8Len_append, hmid]
  · simpa using hlead
  · simpa using htrail
  · intro c hc
    rw [String.toList_ofList] at hc
    exact not_isBlank_of_mem_head?_trimChars hc
  · intro c hc
    rw [String.toList_ofList] at hc
    exact not_isBlank_of_mem_getLast?_trimChars hc

end DocSignature.Text
