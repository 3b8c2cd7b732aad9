import DocSignature.Proofs.Url.PercentEncoding
import DocSignature.Url.FilePath
import Mathlib.Data.List.TakeWhile

/-!
# File URLs made of segments

The file URL of an absolute path (`from_file_path`) is put together from the encoded components of
the path.  When its text is read again, the segments are found as they are and only dots are
resolved.  A component is never empty or one dot, and no component but `..` is encoded as a spelling
of two dots, so reading gives the same URL back just if no component is `..`.  A first component
such as `y|` is kept too: in a text without a host it comes after an empty segment and is not taken
for a drive.
-/

set_option autoImplicit false

namespace DocSignature.Url

/-! ## Splitting what was put together -/

section

variable {α : Type} {p : α → Bool}

/-- Without a separator there is one segment. -/
theorem splitAll_of_forall {s : List α} (hs : ∀ x ∈ s, p x = false) : splitAll p s = [s] := by
  induction s with
  | nil => rfl
  | cons y s ih =>
    have hy := hs y List.mem_cons_self
    have hrest := ih fun x hx => hs x (List.mem_cons_of_mem _ hx)
    simp [splitAll, hy, hrest]

/-- What comes before the first separator is the first segment. -/
theorem splitAll_append_cons {s : List α} (hs : ∀ x ∈ s, p x = false) {x : α} (hx : p x = true)
    (rest : List α) : splitAll p (s ++ x :: rest) = s :: splitAll p rest := by
  induction s with
  | nil => simp [splitAll, hx]
  | cons y s ih =>
    have hy := hs y List.mem_cons_self
    have hrest := ih fun x hx => hs x (List.mem_cons_of_mem _ hx)
    simp [splitAll, hy, hrest]

/-- Segments without a separator are found again. -/
theorem splitAll_intercalate {x : α} (hx : p x = true) {segments : List (List α)}
    (hne : segments ≠ []) (hsegments : ∀ s ∈ segments, ∀ y ∈ s, p y = false) :
    splitAll p ([x].intercalate segments) = segments := by
  induction segments with
  | nil => exact absurd rfl hne
  | cons s rest ih =>
    have hs := hsegments s List.mem_cons_self
    cases rest with
    | nil => rw [List.intercalate_singleton, splitAll_of_forall hs]
    | cons t rest =>
      have hrest := ih (List.cons_ne_nil t rest) fun s hs => hsegments s (List.mem_cons_of_mem _ hs)
      rw [List.intercalate_cons_cons, List.append_assoc, List.singleton_append,
        splitAll_append_cons hs hx, hrest]

/-- Dropping separators at the start brings no new segment. -/
theorem mem_splitAll_of_dropWhile {s xs : List α} (h : s ∈ splitAll p (xs.dropWhile p)) :
    s ∈ splitAll p xs := by
  induction xs with
  | nil => exact h
  | cons x xs ih =>
    by_cases hx : p x = true
    · rw [List.dropWhile_cons_of_pos hx] at h
      rw [splitAll, if_pos hx]
      exact List.mem_cons_of_mem _ (ih h)
    · rwa [List.dropWhile_cons_of_neg hx] at h

/-- What is put together is made of separators and of the members of segments. -/
theorem mem_intercalate {x y : α} {segments : List (List α)}
    (h : y ∈ [x].intercalate segments) : y = x ∨ ∃ s ∈ segments, y ∈ s := by
  induction segments with
  | nil => simp at h
  | cons s rest ih =>
    cases rest with
    | nil =>
      rw [List.intercalate_singleton] at h
      exact .inr ⟨s, List.mem_cons_self, h⟩
    | cons t rest =>
      rw [List.intercalate_cons_cons, List.append_assoc, List.singleton_append] at h
      rcases List.mem_append.1 h with hs | hrest
      · exact .inr ⟨s, List.mem_cons_self, hs⟩
      · rcases List.mem_cons.1 hrest with hx | hrest
        · exact .inl hx
        · obtain hx | ⟨u, hu, hy⟩ := ih hrest
          · exact .inl hx
          · exact .inr ⟨u, List.mem_cons_of_mem _ hu, hy⟩

end

/-! ## Dots -/

/-- Where all spellings stand for the same bytes, each of them does. -/
theorem decodeBytes_of_any_spelling {spellings : List String} {bytes : List UInt8}
    {s : List Char} (hall : ∀ t ∈ spellings, decodeBytes t.toList = bytes)
    (h : spellings.any (·.toList == s) = true) : decodeBytes s = bytes := by
  obtain ⟨t, ht, heq⟩ := List.any_eq_true.1 h
  rw [← eq_of_beq heq]
  exact hall t ht

/-- A spelling of one dot stands for one dot. -/
theorem decodeBytes_of_isSingleDot {s : List Char} (h : isSingleDot s = true) :
    decodeBytes s = [dot] :=
  decodeBytes_of_any_spelling (by decide +kernel) h

/-- A spelling of two dots stands for two dots. -/
theorem decodeBytes_of_isDoubleDot {s : List Char} (h : isDoubleDot s = true) :
    decodeBytes s = [dot, dot] :=
  decodeBytes_of_any_spelling (by decide +kernel) h

/-- Going up adds no segment. -/
theorem mem_of_mem_popSegment {s : List Char} {done : List (List Char)}
    (h : s ∈ popSegment done) : s ∈ done := by
  unfold popSegment at h
  split at h
  · exact h
  · split at h
    · exact h
    · exact List.mem_cons_of_mem _ h

/-- Only the first segment of all may be taken for a drive. -/
theorem keptSegment_of_ne_nil (k : SchemeKind) {done : List (List Char)} (hdone : done ≠ [])
    (s : List Char) : keptSegment k done s = s := by
  have hempty : done.isEmpty = false := by simpa using hdone
  simp [keptSegment, hempty]

/-- A segment is kept as it is or, if it is a drive letter, with a colon. -/
theorem keptSegment_eq_or (k : SchemeKind) (done : List (List Char)) (s : List Char) :
    keptSegment k done s = s ∨ ∃ c mark, s = [c, mark] ∧ keptSegment k done s = [c, ':'] := by
  unfold keptSegment
  split
  · next hdrive =>
    simp only [Bool.and_eq_true] at hdrive
    unfold isDriveLetter at hdrive
    split at hdrive
    · next c mark => exact .inr ⟨c, mark, rfl, rfl⟩
    · simp at hdrive
  · exact .inl rfl

/-- There is always a segment after the last slash. -/
theorem resolveDots_ne_nil (k : SchemeKind) (done segments : List (List Char)) :
    resolveDots k done segments ≠ [] := by
  fun_induction resolveDots k done segments with
  | case1 done => simp
  | case2 done last hdouble => simp
  | case3 done last hdouble hsingle => simp
  | case4 done last hdouble hsingle => simp
  | case5 done s rest hrest hdouble ih => exact ih
  | case6 done s rest hrest hdouble hsingle ih => exact ih
  | case7 done s rest hrest hdouble hsingle ih => exact ih

/-- Where no segment is a dot and none is the first of all, there is nothing to resolve. -/
theorem resolveDots_of_forall (k : SchemeKind) {done segments : List (List Char)}
    (hdone : done ≠ []) (hne : segments ≠ [])
    (h : ∀ s ∈ segments, isSingleDot s = false ∧ isDoubleDot s = false) :
    resolveDots k done segments = done.reverse ++ segments := by
  induction segments generalizing done with
  | nil => exact absurd rfl hne
  | cons s rest ih =>
    obtain ⟨hsingle, hdouble⟩ := h s List.mem_cons_self
    have hkept := keptSegment_of_ne_nil k hdone s
    cases rest with
    | nil => simp [resolveDots, hsingle, hdouble, hkept]
    | cons t rest =>
      have hrest := ih (List.cons_ne_nil s done) (List.cons_ne_nil t rest)
        fun s hs => h s (List.mem_cons_of_mem _ hs)
      simp [resolveDots, hsingle, hdouble, hkept, hrest]

/-- What resolving dots leaves is empty, was there before, or is kept of a segment other than two
dots. -/
theorem forall_mem_resolveDots {P : List Char → Prop} (hnil : P []) (k : SchemeKind)
    (done segments : List (List Char)) (hdone : ∀ s ∈ done, P s)
    (hsegments : ∀ s ∈ segments, isDoubleDot s = false → ∀ done, P (keptSegment k done s)) :
    ∀ s ∈ resolveDots k done segments, P s := by
  have hpop : ∀ done, (∀ s ∈ done, P s) → ∀ s ∈ popSegment done, P s :=
    fun done hdone s hs => hdone s (mem_of_mem_popSegment hs)
  have hcons : ∀ last done, P last → (∀ s ∈ done, P s) → ∀ s ∈ last :: done, P s :=
    fun last done hlast hdone => List.forall_mem_cons.2 ⟨hlast, hdone⟩
  have hfinish : ∀ last done, P last → (∀ s ∈ done, P s) → ∀ s ∈ (last :: done).reverse, P s :=
    fun last done hlast hdone s hs => hcons last done hlast hdone s (List.mem_reverse.1 hs)
  -- every segment read may change what is done, so the property of `done` is carried along
  fun_induction resolveDots k done segments with
  | case1 done => exact hfinish [] done hnil hdone
  | case2 done last hdouble => exact hfinish [] _ hnil (hpop done hdone)
  | case3 done last hdouble hsingle => exact hfinish [] done hnil hdone
  | case4 done last hdouble hsingle =>
    have hlast := hsegments last List.mem_cons_self (by simpa using hdouble) done
    exact hfinish _ done hlast hdone
  | case5 done s rest hrest hdouble ih =>
    exact ih (hpop done hdone) fun t ht => hsegments t (List.mem_cons_of_mem _ ht)
  | case6 done s rest hrest hdouble hsingle ih =>
    exact ih hdone fun t ht => hsegments t (List.mem_cons_of_mem _ ht)
  | case7 done s rest hrest hdouble hsingle ih =>
    have hs := hsegments s List.mem_cons_self (by simpa using hdouble) done
    exact ih (hcons _ done hs hdone) fun t ht => hsegments t (List.mem_cons_of_mem _ ht)

/-! ## Reading a file URL -/

/-- A character is one that a segment of a URL holds as it is. -/
def IsSegmentChar (c : Char) : Prop :=
  StandsFor pathSet c ∧ c ≠ '/' ∧ c ≠ '\\'

instance : DecidablePred IsSegmentChar := fun c =>
  inferInstanceAs
    (Decidable ((c.toNat < 128 ∧ pathSet (byteOf c) = false) ∧ c ≠ '/' ∧ c ≠ '\\'))

/-- What a path holds as it is is no control character. -/
theorem controlSet_of_pathSet {b : UInt8} (h : pathSet b = false) : controlSet b = false := by
  simp only [pathSet, fragmentSet, Bool.or_eq_false_iff] at h
  exact h.1.1

/-- What a segment holds as it is is in ASCII. -/
theorem toNat_lt_of_segmentSet {b : UInt8} (h : segmentSet b = false) : b.toNat < 128 := by
  simp only [segmentSet, Bool.or_eq_false_iff] at h
  have hbound := controlSet_eq_false_iff.1 (controlSet_of_pathSet h.1)
  omega

/-- A character of a segment is none that a path encodes. -/
theorem IsSegmentChar.ne {c d : Char} (h : IsSegmentChar c) (hd : pathSet (byteOf d) = true) :
    c ≠ d := by
  rintro rfl
  rw [h.1.2] at hd
  simp at hd

/-- A character of a segment is not left out at the ends of a URL. -/
theorem IsSegmentChar.isEdge_eq {c : Char} (h : IsSegmentChar c) : isEdge c = false := by
  have hbound := (controlSet_eq_false_iff.1 (controlSet_of_pathSet h.1.2)).1
  rw [toNat_byteOf h.1.1] at hbound
  have hspace : c.toNat ≠ 32 := fun hc => h.ne (d := ' ') (by decide) (Char.toNat_inj.1 hc)
  simp only [isEdge, decide_eq_false_iff_not]
  omega

/-- A character of a segment does not end the path. -/
theorem IsSegmentChar.endsPath_eq {c : Char} (h : IsSegmentChar c) : endsPath c = false := by
  have hquery : c ≠ '?' := h.ne (by decide)
  have hfragment : c ≠ '#' := h.ne (by decide)
  simp [endsPath, hquery, hfragment]

/-- A character of a segment is no separator. -/
theorem IsSegmentChar.isSeparator_eq {c : Char} (h : IsSegmentChar c) (k : SchemeKind) :
    isSeparator k c = false := by
  simp [isSeparator, h.2.1, h.2.2]

/-- A file system's bytes are encoded so that they stand in a segment. -/
theorem isSegmentChar_of_mem_encodeBytes {bytes : List UInt8} {c : Char}
    (h : c ∈ encodeBytes segmentSet bytes) : IsSegmentChar c := by
  obtain ⟨b, -, hb⟩ := List.mem_flatMap.1 h
  obtain rfl | ⟨d, hd, rfl⟩ | ⟨hset, rfl⟩ := mem_encodeByte hb
  · decide
  · interval_cases d <;> decide
  · have hascii := toNat_lt_of_segmentSet hset
    simp only [segmentSet, Bool.or_eq_false_iff] at hset
    obtain ⟨hpath, hother⟩ := hset
    have hself := byteOf_ofNat_byte hascii
    have hne : ∀ d ∈ ['/', '%', '\\'], Char.ofNat b.toNat ≠ d := by
      intro d hd hc
      rw [hc] at hself
      have hin : isOneOf ['/', '%', '\\'] b = true :=
        List.any_eq_true.2 ⟨d, hd, beq_iff_eq.2 hself⟩
      rw [hother] at hin
      simp at hin
    refine ⟨⟨?_, ?_⟩, hne '/' (by simp), hne '\\' (by simp)⟩
    · rwa [toNat_ofNat_byte hascii]
    · rwa [hself]

/-- The file URL of this computer with a path. -/
def localFile (path : String) : Url where
  scheme := "file"
  authority := some {}
  path := path

/-- The path with some segments. -/
def slashed (segments : List (List Char)) : String :=
  String.ofList ('/' :: ['/'].intercalate segments)

/-- The characters of a path with some segments. -/
theorem toList_slashed (segments : List (List Char)) :
    (slashed segments).toList = '/' :: ['/'].intercalate segments :=
  String.toList_ofList

/-- The text of a file URL of this computer is its scheme, two slashes and its path. -/
theorem toList_text_localFile (path : String) :
    (localFile path).text.toList = "file://".toList ++ path.toList := by
  simp [text, beforePath, localFile, Authority.text]

/-- All characters of a text count unless there are edges among them. -/
theorem cleaned_of_forall {s : String} (h : ∀ c ∈ s.toList, isEdge c = false) :
    cleaned s = s.toList := by
  have hstart : ∀ cs : List Char, (∀ c ∈ cs, isEdge c = false) → cs.dropWhile isEdge = cs := by
    intro cs hcs
    cases cs with
    | nil => rfl
    | cons c cs => simp [hcs c List.mem_cons_self]
  have hbreak : ∀ c ∈ s.toList, (!isBreak c) = true := by
    intro c hc
    have hedge := h c hc
    have htab : c ≠ '\t' := by rintro rfl; simp [isEdge] at hedge
    have hnewline : c ≠ '\n' := by rintro rfl; simp [isEdge] at hedge
    have hreturn : c ≠ '\r' := by rintro rfl; simp [isEdge] at hedge
    simp [isBreak, htab, hnewline, hreturn]
  rw [cleaned, hstart _ h, hstart _ (fun c hc => h c (List.mem_reverse.1 hc)),
    List.reverse_reverse, List.filter_eq_self.2 hbreak]

/-- A file URL without a host has nothing but its path if no character ends the path. -/
theorem fileUrl_of_forall {cs : List Char} (h : ∀ c ∈ cs, endsPath c = false)
    (done : List (List Char)) :
    fileUrl "" done cs = localFile (pathText .file (pathSegments .file done cs)) := by
  have htake : cs.takeWhile (!endsPath ·) = cs := by
    refine List.takeWhile_eq_self_iff.2 fun c hc => ?_
    simp [h c hc]
  have hdrop : cs.dropWhile (!endsPath ·) = [] := by
    refine List.dropWhile_eq_nil_iff.2 fun c hc => ?_
    simp [h c hc]
  simp only [fileUrl, htake, hdrop, ite_self]
  rfl

/-- Reading the text of a file URL reads its path, after an empty segment, and nothing else. -/
theorem parse?_text_localFile [DomainNames] {segments : List (List Char)}
    (h : ∀ s ∈ segments, ∀ c ∈ s, IsSegmentChar c) :
    parse? (localFile (slashed segments)).text =
      some (localFile (pathText .file (pathSegments .file [[]] (slashed segments).toList))) := by
  have htext : (localFile (slashed segments)).text.toList =
      "file:///".toList ++ ['/'].intercalate segments := by
    have hstart : "file:///".toList = "file://".toList ++ ['/'] := by decide
    rw [toList_text_localFile, toList_slashed, hstart, List.append_assoc, List.singleton_append]
  have hchars : ∀ c ∈ ['/'].intercalate segments, c = '/' ∨ IsSegmentChar c := by
    intro c hc
    obtain hslash | ⟨s, hs, hc⟩ := mem_intercalate hc
    · exact .inl hslash
    · exact .inr (h s hs c hc)
  have hclean : cleaned (localFile (slashed segments)).text =
      "file:///".toList ++ ['/'].intercalate segments := by
    rw [← htext]
    refine cleaned_of_forall fun c hc => ?_
    rw [htext] at hc
    rcases List.mem_append.1 hc with hc | hc
    · have hstart : ∀ c ∈ "file:///".toList, isEdge c = false := by simp [isEdge]
      exact hstart c hc
    · obtain rfl | hc := hchars c hc
      · decide
      · exact hc.isEdge_eq
  have hends : ∀ c ∈ '/' :: ['/'].intercalate segments, endsPath c = false := by
    intro c hc
    rcases List.mem_cons.1 hc with rfl | hc
    · decide
    · obtain rfl | hc := hchars c hc
      · decide
      · exact hc.endsPath_eq
  have hscheme : readScheme? ("file:///".toList ++ ['/'].intercalate segments) =
      some ("file", '/' :: '/' :: '/' :: ['/'].intercalate segments) := rfl
  have hfile : readFile? ('/' :: '/' :: '/' :: ['/'].intercalate segments) =
      some (fileUrl "" [[]] ('/' :: ['/'].intercalate segments)) := rfl
  have hkind : schemeKind "file" = .file := rfl
  simp only [parse?, hclean, hscheme, Option.bind_eq_bind, Option.bind_some, hkind]
  rw [hfile, fileUrl_of_forall hends, toList_slashed]

/-- The segments of a path are found as they were put together. -/
theorem pathSegments_slashed {segments : List (List Char)} (hne : segments ≠ [])
    (h : ∀ s ∈ segments, ∀ c ∈ s, IsSegmentChar c) :
    pathSegments .file [[]] (slashed segments).toList = resolveDots .file [[]] segments := by
  have hsplit : splitAll (isSeparator .file) (['/'].intercalate segments) = segments :=
    splitAll_intercalate rfl hne fun s hs c hc => (h s hs c hc).isSeparator_eq .file
  have hencoded : segments.map (encodeChars pathSet) = segments := by
    refine (List.map_congr_left fun s hs => ?_).trans (List.map_id segments)
    exact encodeChars_of_standsFor fun c hc => (h s hs c hc).1
  rw [toList_slashed]
  simp only [pathSegments, isSeparator, beq_self_eq_true, Bool.true_or, if_true]
  rw [hsplit, hencoded]

/-- The slash of the empty segment before the others is left out of the path. -/
theorem pathText_file {s : List Char} {rest : List (List Char)} (hs : s ≠ [])
    (hslash : ∀ c ∈ s, c ≠ '/') : pathText .file ([] :: s :: rest) = slashed (s :: rest) := by
  obtain ⟨c, s, rfl⟩ := List.exists_cons_of_ne_nil hs
  have hc : (c == '/') = false := by simpa using hslash c List.mem_cons_self
  have hstart : ∃ more, ['/'].intercalate ((c :: s) :: rest) = c :: more := by
    cases rest with
    | nil => exact ⟨_, List.intercalate_singleton⟩
    | cons t rest => exact ⟨_, List.intercalate_cons_cons⟩
  obtain ⟨more, hmore⟩ := hstart
  simp [pathText, slashed, hmore, hc]

/-- A segment is neither two dots nor has it a slash. -/
def IsResolved (s : List Char) : Prop :=
  isDoubleDot s = false ∧ ∀ c ∈ s, (c == '/') = false

/-- Keeping a segment makes no dots and no slash of it. -/
theorem IsResolved.keptSegment {s : List Char} (h : IsResolved s) (k : SchemeKind)
    (done : List (List Char)) : IsResolved (keptSegment k done s) := by
  obtain hkept | ⟨c, mark, rfl, hkept⟩ := keptSegment_eq_or k done s
  · rwa [hkept]
  · rw [hkept]
    have hc := h.2 c List.mem_cons_self
    refine ⟨by simp [isDoubleDot], ?_⟩
    simpa using hc

/-- Resolving dots leaves no segment that is two dots, so a path that it does not change has
none. -/
theorem isDoubleDot_eq_false_of_pathText_resolveDots {segments : List (List Char)}
    (hne : segments ≠ []) (hchars : ∀ s ∈ segments, ∀ c ∈ s, IsSegmentChar c)
    (hpath : pathText .file (resolveDots .file [[]] segments) = slashed segments) :
    ∀ s ∈ segments, isDoubleDot s = false := by
  intro s hs
  have hbody : (['/'].intercalate (resolveDots .file [[]] segments)).dropWhile (· == '/') =
      ['/'].intercalate segments := by
    have htext := congrArg String.toList hpath
    rw [toList_slashed] at htext
    simpa [pathText] using htext
  have hslash : ∀ s ∈ segments, ∀ c ∈ s, (c == '/') = false := by
    intro s hs c hc
    simpa using (hchars s hs c hc).2.1
  have hnil : IsResolved [] := ⟨rfl, by simp⟩
  have hresolved := forall_mem_resolveDots hnil .file [[]] segments (by simpa using hnil)
    fun s hs hdots => IsResolved.keptSegment ⟨hdots, hslash s hs⟩ .file
  -- both sides of `hbody` are split at slashes: the right one gives the segments back, and what the
  -- left one gives was left by resolving dots
  have hleft : splitAll (· == '/') (['/'].intercalate (resolveDots .file [[]] segments)) =
      resolveDots .file [[]] segments :=
    splitAll_intercalate rfl (resolveDots_ne_nil .file [[]] segments)
      fun s hs => (hresolved s hs).2
  have hright : splitAll (· == '/') (['/'].intercalate segments) = segments :=
    splitAll_intercalate rfl hne hslash
  rw [← hright, ← hbody] at hs
  have hmem := mem_splitAll_of_dropWhile hs
  rw [hleft] at hmem
  exact (hresolved s hmem).1

/-- Reading the text of a file URL gives the same URL just if no segment is a spelling of two
dots. -/
theorem parse?_text_localFile_eq_some_iff [DomainNames] {segments : List (List Char)}
    (h : ∀ s ∈ segments, s ≠ [] ∧ isSingleDot s = false ∧ ∀ c ∈ s, IsSegmentChar c) :
    parse? (localFile (slashed segments)).text = some (localFile (slashed segments)) ↔
      ∀ s ∈ segments, isDoubleDot s = false := by
  have hchars : ∀ s ∈ segments, ∀ c ∈ s, IsSegmentChar c := fun s hs => (h s hs).2.2
  rw [parse?_text_localFile hchars, Option.some.injEq, localFile, localFile, Url.mk.injEq]
  simp only [true_and, and_true]
  by_cases hne : segments = []
  · subst hne
    exact ⟨fun _ s hs => absurd hs List.not_mem_nil, fun _ => rfl⟩
  rw [pathSegments_slashed hne hchars]
  constructor
  · exact isDoubleDot_eq_false_of_pathText_resolveDots hne hchars
  · intro hdots
    have hsame : resolveDots .file [[]] segments = [] :: segments :=
      resolveDots_of_forall .file (by simp) hne fun s hs => ⟨(h s hs).2.1, hdots s hs⟩
    rw [hsame]
    obtain ⟨s, rest, rfl⟩ := List.exists_cons_of_ne_nil hne
    exact pathText_file (h s List.mem_cons_self).1 fun c hc =>
      (hchars s List.mem_cons_self c hc).2.1

/-! ## Components -/

/-- A component is decoded to the bytes that were encoded. -/
theorem decodeBytes_encodeBytes_segmentSet (bytes : List UInt8) :
    decodeBytes (encodeBytes segmentSet bytes) = bytes :=
  decodeBytes_encodeBytes (fun _ hb => toNat_lt_of_segmentSet hb) (by decide) bytes

/-- Only two dots are encoded as a spelling of two dots. -/
theorem isDoubleDot_encodeBytes_iff {bytes : List UInt8} :
    isDoubleDot (encodeBytes segmentSet bytes) = true ↔ bytes = [dot, dot] := by
  constructor
  · intro h
    rw [← decodeBytes_encodeBytes_segmentSet bytes, decodeBytes_of_isDoubleDot h]
  · rintro rfl
    decide

/-- Only one dot is encoded as a spelling of one dot. -/
theorem isSingleDot_encodeBytes {bytes : List UInt8} (h : bytes ≠ [dot]) :
    isSingleDot (encodeBytes segmentSet bytes) = false := by
  rw [Bool.eq_false_iff]
  intro hdot
  rw [← decodeBytes_encodeBytes_segmentSet bytes, decodeBytes_of_isSingleDot hdot] at h
  exact h rfl

/-- The components of an absolute path are the root and those of its segments. -/
theorem components_of_isAbsolute {p : Path} (h : p.isAbsolute = true) :
    p.components = .root :: p.segments.filterMap Component.ofSegment? := by
  simp [Path.components, h]

/-- A component after the root is not empty and not one dot, and two dots only as `parent`. -/
theorem bytes_of_ofSegment? {s : List UInt8} {c : Component}
    (h : Component.ofSegment? s = some c) :
    c.bytes ≠ [] ∧ c.bytes ≠ [dot] ∧ (c.bytes = [dot, dot] ↔ c = .parent) := by
  unfold Component.ofSegment? at h
  split_ifs at h with htrivial hparent
  · obtain rfl := Option.some.inj h
    decide
  · obtain rfl := Option.some.inj h
    obtain ⟨hne, hdot⟩ := not_or.1 htrivial
    simp [Component.bytes, hne, hdot, hparent]

/-- The segments of the file URL of a path. -/
def encodedSegments (p : Path) : List (List Char) :=
  (p.components.drop 1).map fun c => encodeBytes segmentSet c.bytes

/-- The URL of an absolute path is the file URL of its encoded components. -/
theorem ofFilePath?_of_isAbsolute {p : Path} (h : p.isAbsolute = true) :
    ofFilePath? p = some (localFile (slashed (encodedSegments p))) := by
  rw [ofFilePath?, if_pos h]
  rfl

/-- Encoded components are made of characters of segments. -/
theorem isSegmentChar_of_mem_encodedSegments {p : Path} :
    ∀ s ∈ encodedSegments p, ∀ c ∈ s, IsSegmentChar c := by
  intro s hs c hc
  obtain ⟨component, -, rfl⟩ := List.mem_map.1 hs
  exact isSegmentChar_of_mem_encodeBytes hc

/-- The text of the file URL of a path reads as a file URL. -/
theorem exists_parse?_text_eq_localFile [DomainNames] {p : Path} (h : p.isAbsolute = true) {u : Url}
    (hu : ofFilePath? p = some u) : ∃ path, parse? u.text = some (localFile path) := by
  rw [ofFilePath?_of_isAbsolute h] at hu
  obtain rfl := Option.some.inj hu
  exact ⟨_, parse?_text_localFile isSegmentChar_of_mem_encodedSegments⟩

/-- The text of the file URL of a path reads as that URL just if the path does not go up. -/
theorem parse?_text_eq_some_iff_parent_not_mem [DomainNames] {p : Path}
    (h : p.isAbsolute = true) {u : Url} (hu : ofFilePath? p = some u) :
    parse? u.text = some u ↔ .parent ∉ p.components := by
  rw [ofFilePath?_of_isAbsolute h] at hu
  obtain rfl := Option.some.inj hu
  have hcomponents := components_of_isAbsolute h
  have hbytes : ∀ c ∈ p.segments.filterMap Component.ofSegment?,
      c.bytes ≠ [] ∧ c.bytes ≠ [dot] ∧ (c.bytes = [dot, dot] ↔ c = .parent) := by
    intro c hc
    obtain ⟨s, -, hs⟩ := List.mem_filterMap.1 hc
    exact bytes_of_ofSegment? hs
  have hsegments : encodedSegments p = (p.segments.filterMap Component.ofSegment?).map
      fun c => encodeBytes segmentSet c.bytes := by
    rw [encodedSegments, hcomponents, List.drop_one, List.tail_cons]
  rw [parse?_text_localFile_eq_some_iff]
  · rw [hsegments, List.forall_mem_map, hcomponents]
    constructor
    · intro hdots hparent
      have hmem : Component.parent ∈ p.segments.filterMap Component.ofSegment? := by
        simpa using hparent
      have hfalse := hdots .parent hmem
      revert hfalse
      decide
    · intro hparent c hc
      rw [Bool.eq_false_iff]
      intro hdots
      have hup := (hbytes c hc).2.2.1 (isDoubleDot_encodeBytes_iff.1 hdots)
      rw [hup] at hc
      exact hparent (List.mem_cons_of_mem _ hc)
  · intro s hs
    have hchars := isSegmentChar_of_mem_encodedSegments s hs
    rw [hsegments] at hs
    obtain ⟨c, hc, rfl⟩ := List.mem_map.1 hs
    obtain ⟨hne, hdot, -⟩ := hbytes c hc
    exact ⟨encodeBytes_ne_nil hne, isSingleDot_encodeBytes hdot, hchars⟩

-- after an empty host a bar is kept, and without a host it marks a drive
example [DomainNames] : parse? "file:///c|/x.py" = some (localFile "/c|/x.py") := by rfl

example [DomainNames] : parse? "file:/c|/x.py" = some (localFile "/c:/x.py") := by rfl

end DocSignature.Url
