import DocSignature.Proofs.Disk.TidyPaths
import DocSignature.Proofs.Workspace.PathRequests
import DocSignature.Url.DomainNames

/-!
# From a path to a URL and back

A request by path is answered through the URL of the path (`document_url`).  The path that this URL
names (`to_file_path`) is the tidy form of the path asked for, so it has the same components and the
file that was asked for is read.  One rule comes between: a path that ends in a letter and a colon
or a bar, as a drive does, gets a slash at the end.  No file has a slash after its name, so a file
with such a name is never read.
-/

set_option autoImplicit false

namespace DocSignature

namespace Path

/-- A path joined to another is absolute just if one of the two is. -/
theorem isAbsolute_join_iff (base p : Path) :
    (base.join p).isAbsolute = true ↔ base.isAbsolute = true ∨ p.isAbsolute = true := by
  constructor
  · intro h
    by_cases hp : p.isAbsolute = true
    · exact .inr hp
    · left
      rw [join, if_neg hp] at h
      cases hbase : base.bytes with
      | nil =>
        rw [hbase] at h
        exact absurd h hp
      | cons b rest =>
        rw [hbase] at h
        split at h <;> simpa [isAbsolute, hbase] using h
  · rintro (hbase | hp)
    · exact isAbsolute_join hbase p
    · rwa [join, if_pos hp]

/-- The last component of a path is a name that ends in a letter and a colon or a bar. -/
def EndsInDrive (p : Path) : Prop :=
  ∃ front letter mark, p.components.getLast? = some (.name (front ++ [letter, mark])) ∧
    Url.isDrive letter mark = true

/-- The path with some segments and, if it ends in a drive, a slash at the end. -/
def ofClosedSegments (ss : List (List UInt8)) : Path :=
  ofSegments (ss ++ if Url.endsInDrive (ofSegments ss).bytes then [[]] else [])

/-- The bytes of a path with some segments, with or without the slash at the end. -/
theorem bytes_ofClosedSegments (ss : List (List UInt8)) :
    (ofClosedSegments ss).bytes = if Url.endsInDrive (ofSegments ss).bytes then
      (ofSegments ss).bytes ++ [slash] else (ofSegments ss).bytes := by
  unfold ofClosedSegments
  split <;> simp [ofSegments]

/-- A slash at the end adds no component. -/
theorem components_ofClosedSegments {ss : List (List UInt8)} (hne : ss ≠ [])
    (hslash : ∀ s ∈ ss, slash ∉ s) :
    (ofClosedSegments ss).components = .root :: ss.filterMap Component.ofSegment? := by
  unfold ofClosedSegments
  split
  · rw [components_ofSegments (by simp) (slash_notMem_of_mem_concat_nil hslash),
      List.filterMap_append]
    simp [Component.ofSegment?]
  · rw [List.append_nil, components_ofSegments hne hslash]

end Path

namespace Url

open DocSignature.Path

/-- A drive letter and its mark are no slash. -/
theorem ne_slash_of_isDrive {letter mark : UInt8} (h : isDrive letter mark = true) :
    letter ≠ slash ∧ mark ≠ slash := by
  have hletter : (Char.ofNat slash.toNat).isAlpha = false := by decide
  have hmark : isDriveMark (Char.ofNat slash.toNat) = false := by decide
  constructor
  · rintro rfl
    simp [isDrive, isDriveLetter, hletter] at h
  · rintro rfl
    simp [isDrive, isDriveLetter, hmark] at h

/-- Bytes end like a drive just if there are others before the letter and its mark. -/
theorem endsInDrive_eq_true_iff {bytes : List UInt8} :
    endsInDrive bytes = true ↔
      ∃ front letter mark, bytes = front ++ [letter, mark] ∧ front ≠ [] ∧
        isDrive letter mark = true := by
  unfold endsInDrive
  split
  · next mark letter x rest hreverse =>
    have hbytes : bytes = (x :: rest).reverse ++ [letter, mark] := by
      rw [← List.reverse_reverse bytes, hreverse]
      simp
    constructor
    · intro hdrive
      exact ⟨_, letter, mark, hbytes, by simp, hdrive⟩
    · rintro ⟨front, letter', mark', heq, -, hdrive⟩
      have hpair := List.append_inj_right' (hbytes.symm.trans heq) rfl
      obtain ⟨rfl, rfl⟩ : letter = letter' ∧ mark = mark' := by simpa using hpair
      exact hdrive
  · next hshort =>
    constructor
    · intro hfalse
      simp at hfalse
    · rintro ⟨front, letter, mark, rfl, hne, -⟩
      obtain ⟨x, rest, hfront⟩ := List.exists_cons_of_ne_nil (List.reverse_ne_nil_iff.2 hne)
      exact absurd (by simp [hfront]) (hshort mark letter x rest)

/-- What follows the last slash decides whether a path ends like a drive. -/
theorem endsInDrive_append_iff (front last : List UInt8) :
    endsInDrive (front ++ slash :: last) = true ↔
      ∃ start letter mark, last = start ++ [letter, mark] ∧ isDrive letter mark = true := by
  rw [endsInDrive_eq_true_iff]
  constructor
  · rintro ⟨start, letter, mark, heq, -, hdrive⟩
    obtain ⟨hletter, hmark⟩ := ne_slash_of_isDrive hdrive
    -- the slash is neither the letter nor its mark, so both come after it
    rcases last.eq_nil_or_concat' with rfl | ⟨init, mark', rfl⟩
    · have hend := congrArg List.getLast? heq
      simp only [List.getLast?_append, List.getLast?_cons] at hend
      exact absurd (by simpa using hend.symm) hmark
    · rcases init.eq_nil_or_concat' with rfl | ⟨init, letter', rfl⟩
      · have hpair : [slash, mark'] = [letter, mark] := List.append_inj_right' heq rfl
        exact absurd (List.cons.inj hpair).1.symm hletter
      · have hsplit : (front ++ slash :: init) ++ [letter', mark'] = start ++ [letter, mark] := by
          simpa using heq
        have hpair := List.append_inj_right' hsplit rfl
        exact ⟨init, letter, mark, by simp [← hpair], hdrive⟩
  · rintro ⟨start, letter, mark, rfl, hdrive⟩
    exact ⟨front ++ slash :: start, letter, mark, by simp, by simp, hdrive⟩

/-- The path that a file URL names has its decoded segments. -/
theorem toFilePath?_localFile (segments : List (List Char)) :
    (localFile (slashed segments)).toFilePath? = some (ofClosedSegments
      ((splitAll (· == '/') (['/'].intercalate segments)).map decodeBytes)) := by
  have hbytes := bytes_ofClosedSegments
    ((splitAll (· == '/') (['/'].intercalate segments)).map decodeBytes)
  rw [ofSegments, List.flatMap_map] at hbytes
  simp only [toFilePath?, localFile, toList_slashed, Option.map_some, Option.getD_some, true_or,
    if_true]
  rw [← hbytes]

section

variable {ss : List (List UInt8)} (hne : ss ≠ []) (hslash : ∀ s ∈ ss, slash ∉ s)

include hne hslash

/-- The segments of a URL made of a path are the encoded segments that stand for components. -/
theorem encodedSegments_ofSegments :
    encodedSegments (ofSegments ss) = (ss.filter (!isTrivial ·)).map (encodeBytes segmentSet) := by
  rw [encodedSegments, components_ofSegments hne hslash, List.drop_one, List.tail_cons,
    ← map_bytes_filterMap_ofSegment?, List.map_map]
  rfl

/-- The path that a URL made of a path names is the tidy form of the path, closed if it ends in a
drive. -/
theorem toFilePath?_of_ofFilePath? {u : Url} (hu : ofFilePath? (ofSegments ss) = some u) :
    u.toFilePath? = some (ofClosedSegments (tidied ss)) := by
  rw [ofFilePath?_of_isAbsolute (isAbsolute_ofSegments hne)] at hu
  obtain rfl := Option.some.inj hu
  have hchars : ∀ s ∈ encodedSegments (ofSegments ss), ∀ c ∈ s, (c == '/') = false := by
    intro s hs c hc
    simpa using (isSegmentChar_of_mem_encodedSegments s hs c hc).2.1
  rw [encodedSegments_ofSegments hne hslash] at hchars ⊢
  rw [toFilePath?_localFile]
  congr 2
  unfold tidied
  split
  · next hnone =>
    rw [hnone]
    rfl
  · next s rest hsome =>
    rw [hsome] at hchars ⊢
    rw [splitAll_intercalate rfl (by simp) hchars, List.map_map]
    refine (List.map_congr_left fun s _ => ?_).trans (List.map_id _)
    exact decodeBytes_encodeBytes_segmentSet s

/-- The tidy form of a path ends in a drive just if the last component of the path does. -/
theorem endsInDrive_tidied_iff :
    endsInDrive (ofSegments (tidied ss)).bytes = true ↔ (ofSegments ss).EndsInDrive := by
  have hspelled := map_bytes_filterMap_ofSegment? ss
  rw [EndsInDrive, components_ofSegments hne hslash]
  unfold tidied
  split
  · next hnone =>
    rw [hnone, List.map_eq_nil_iff] at hspelled
    simp [hspelled, ofSegments, endsInDrive]
  · next first rest hsome =>
    -- the last segment that stands for a component spells the last component
    rw [hsome] at hspelled
    obtain ⟨start, last, hconcat⟩ :=
      ((first :: rest).eq_nil_or_concat').resolve_left (List.cons_ne_nil first rest)
    rw [hconcat] at hspelled ⊢
    obtain ⟨cs, tail, hcs, -, htail⟩ := List.map_eq_append_iff.1 hspelled
    obtain ⟨c, rfl, hc⟩ := List.map_eq_singleton_iff.1 htail
    have hbytes : (ofSegments (start ++ [last])).bytes =
        start.flatMap (slash :: ·) ++ slash :: last := by
      simp [ofSegments]
    have hlast : (Component.root :: ss.filterMap Component.ofSegment?).getLast? = some c := by
      rw [hcs, ← List.cons_append, List.getLast?_concat]
    have hkind : c = .parent ∨ c = .name last := by
      have hmem : c ∈ ss.filterMap Component.ofSegment? := by simp [hcs]
      obtain ⟨s, -, hs⟩ := List.mem_filterMap.1 hmem
      rw [← hc]
      exact eq_parent_or_name_of_ofSegment? hs
    rw [hbytes, endsInDrive_append_iff, hlast]
    constructor
    · rintro ⟨front, letter, mark, heq, hdrive⟩
      refine ⟨front, letter, mark, ?_, hdrive⟩
      rcases hkind with rfl | rfl
      · have hdots : [dot, dot] = front ++ [letter, mark] := hc.trans heq
        have hpair : [dot, dot] = [letter, mark] :=
          List.append_inj_right' ((List.nil_append _).trans hdots) rfl
        obtain ⟨rfl, rfl⟩ : dot = letter ∧ dot = mark := by simpa using hpair
        have hno : isDrive dot dot = false := by decide
        simp [hno] at hdrive
      · rw [heq]
    · rintro ⟨front, letter, mark, heq, hdrive⟩
      refine ⟨front, letter, mark, ?_, hdrive⟩
      rw [Option.some.inj heq] at hc
      exact hc.symm

end

end Url

namespace FileTree

open DocSignature.Path

variable {t : FileTree} {cwd : List Name} {ss : List (List UInt8)} {source : String}
  (hne : ss ≠ []) (hslash : ∀ s ∈ ss, slash ∉ s)
  (hread : (t.disk cwd).readText (ofSegments ss) = .ok source)

include hne hslash hread

/-- A file is read under the path of its URL if its name does not end in a drive. -/
theorem readText_tidied (hdrive : ¬ (ofSegments ss).EndsInDrive) :
    (t.disk cwd).readText (ofClosedSegments (tidied ss)) = .ok source := by
  obtain ⟨there, -, hlocate, -⟩ := exists_locate_of_readText hread
  have htidy := locate_tidied hne hslash hlocate
  rw [ofClosedSegments, if_neg (mt (Url.endsInDrive_tidied_iff hne hslash).1 hdrive),
    List.append_nil, readText_congr (htidy.trans hlocate.symm), hread]

/-- A file whose name ends in a drive is not read under the path of its URL. -/
theorem exists_readText_tidied_eq_error (hdrive : (ofSegments ss).EndsInDrive) :
    ∃ reason, (t.disk cwd).readText (ofClosedSegments (tidied ss)) = .error reason := by
  obtain ⟨there, content, hlocate, hfile⟩ := exists_locate_of_readText hread
  have htidy := locate_tidied hne hslash hlocate
  rw [ofClosedSegments, if_pos ((Url.endsInDrive_tidied_iff hne hslash).2 hdrive)]
  apply exists_readText_eq_error
  exact locate_concat_nil_ne_ok (tidied_ne_nil ss) (slash_notMem_of_mem_tidied hslash) htidy hfile

end FileTree

section

variable [Url.DomainNames] {root : Path} {uri : String}

/-- A path has no URL just if it is relative and starts from a relative root. -/
theorem documentUrl?_eq_none_iff (huri : urlOf? uri = none) :
    documentUrl? uri root = none ↔
      root.isAbsolute = false ∧ (Path.ofString uri).isAbsolute = false := by
  have hjoin := root.isAbsolute_join_iff (.ofString uri)
  rw [documentUrl?_of_urlOf?_eq_none huri, Url.ofFilePath?]
  split
  · next habsolute =>
    rcases hjoin.1 habsolute with h | h <;> simp [h]
  · next hrelative =>
    obtain ⟨hroot, hpath⟩ := not_or.1 (mt hjoin.2 hrelative)
    simp [hroot, hpath]

variable {documents : DocumentStore} {u : Url} {path : Path}

/-- A document that is not open is answered for from what is read under the path of its URL. -/
theorem answerRequest_of_toFilePath? (hu : documentUrl? uri root = some u)
    (hclosed : documents.get? u = none) (hpath : u.toFilePath? = some path) (disk : Disk)
    (line : Nat) :
    answerRequest documents root disk ⟨uri, line⟩ =
      match disk.readText path with
      | .error reason => .error (.unreadable path reason)
      | .ok source => lookupAnswer source line := by
  cases hread : disk.readText path with
  | error reason => exact (Refuses.unreadable hu hclosed hpath hread).answerRequest_eq
  | ok source =>
    have hobtains : Obtains documents root disk uri source := .read hu hclosed hpath hread
    exact Obtains.answerRequest_eq (r := ⟨uri, line⟩) hobtains

end

/-- Requests by path.  A path has a URL unless it is relative to a relative root.  The URL is a file
URL without a host, and the path that it names has the components of the path asked for, joined to
the root.  If the document is not open, the answer is that of the file under this path, on every
disk.  In a file tree this is the file asked for, unless its name ends in a letter and a colon or a
bar: such a file is not read, although it is there. -/
theorem path_requests_reach_named_files [Url.DomainNames] (root : Path) (uri : String)
    (huri : urlOf? uri = none) :
    let named := root.join (.ofString uri)
    (documentUrl? uri root = none ↔
      root.isAbsolute = false ∧ (Path.ofString uri).isAbsolute = false) ∧
    ((Path.ofString uri).isAbsolute = true → named = .ofString uri) ∧
    ∀ u, documentUrl? uri root = some u → u.scheme = "file" ∧ u.host = "" ∧
      ∃ path, u.toFilePath? = some path ∧ path.components = named.components ∧
        ∀ documents : DocumentStore, documents.get? u = none →
          (∀ disk line, answerRequest documents root disk ⟨uri, line⟩ =
            match disk.readText path with
            | .error reason => .error (.unreadable path reason)
            | .ok source => lookupAnswer source line) ∧
          ∀ (tree : FileTree) cwd source line, (tree.disk cwd).readText named = .ok source →
            (¬ named.EndsInDrive → answerRequest documents root (tree.disk cwd) ⟨uri, line⟩ =
              lookupAnswer source line) ∧
            (named.EndsInDrive → ∃ reason, answerRequest documents root (tree.disk cwd)
              ⟨uri, line⟩ = .error (.unreadable path reason)) := by
  intro named
  refine ⟨documentUrl?_eq_none_iff huri, fun h => by simp [named, Path.join, h], ?_⟩
  intro u hu
  have hmade : Url.ofFilePath? named = some u := by
    rw [← documentUrl?_of_urlOf?_eq_none huri, hu]
  have habsolute : named.isAbsolute = true := by
    by_contra hrelative
    rw [Url.ofFilePath?, if_neg hrelative] at hmade
    simp at hmade
  obtain ⟨ss, hne, hslash, hnamed⟩ := Path.exists_eq_ofSegments habsolute
  rw [hnamed] at hmade
  have hpath := Url.toFilePath?_of_ofFilePath? hne hslash hmade
  rw [Url.ofFilePath?_of_isAbsolute (Path.isAbsolute_ofSegments hne)] at hmade
  obtain rfl := Option.some.inj hmade
  refine ⟨rfl, rfl, _, hpath, ?_, ?_⟩
  · rw [hnamed, Path.components_ofSegments hne hslash,
      Path.components_ofClosedSegments (Path.tidied_ne_nil ss)
        (Path.slash_notMem_of_mem_tidied hslash), Path.filterMap_ofSegment?_tidied]
  · intro documents hclosed
    have hanswer := answerRequest_of_toFilePath? hu hclosed hpath
    refine ⟨hanswer, ?_⟩
    intro tree cwd source line hread
    rw [hnamed] at hread ⊢
    constructor
    · intro hdrive
      rw [hanswer, FileTree.readText_tidied hne hslash hread hdrive]
    · intro hdrive
      obtain ⟨reason, hreason⟩ := FileTree.exists_readText_tidied_eq_error hne hslash hread hdrive
      exact ⟨reason, by rw [hanswer, hreason]⟩

/-- A file with a blank and a percent sign in its name is read through a path with dots and doubled
slashes. -/
theorem untidy_path_is_read :
    let root := Path.ofString "/work"
    let uri := "./sub//../50% off.py"
    let saved := "def saved(a):\n    pass\n"
    let names := ["work", "50% off.py"].map Text.utf8Bytes
    let tree := (FileTree.write {} names (Text.utf8Bytes saved)).makeDirectories
      (["work", "sub"].map Text.utf8Bytes)
    urlOf? uri = none ∧ ((tree.disk []).readText (root.join (.ofString uri))) = .ok saved ∧
      ∀ line, answerRequest {} root (tree.disk []) ⟨uri, line⟩ = lookupAnswer saved line := by
  intro root uri saved names tree
  have huri : urlOf? uri = none := by decide +kernel
  have hread : (tree.disk []).readText (root.join (.ofString uri)) = .ok saved := by
    decide +kernel
  have hurl : documentUrl? uri root = some (.localFile "/work/sub/../50%25%20off.py") := by
    decide +kernel
  have hdrive : ¬ (root.join (.ofString uri)).EndsInDrive := by
    rintro ⟨front, letter, mark, hlast, hmark⟩
    have hname : (root.join (.ofString uri)).components.getLast? =
        some (.name (Text.utf8Bytes "50% off." ++ Text.utf8Bytes "py")) := by
      decide +kernel
    have hbytes := Component.name.inj (Option.some.inj (hname.symm.trans hlast))
    have hspelled : Text.utf8Bytes "py" = [Url.byteOf 'p', Url.byteOf 'y'] := by decide +kernel
    have hpair := List.append_inj_right' hbytes rfl
    obtain ⟨rfl, rfl⟩ : Url.byteOf 'p' = letter ∧ Url.byteOf 'y' = mark := by
      simpa [hspelled] using hpair
    revert hmark
    decide
  obtain ⟨-, -, hall⟩ := path_requests_reach_named_files root uri huri
  obtain ⟨-, -, path, -, -, hclosed⟩ := hall _ hurl
  obtain ⟨-, htree⟩ := hclosed {} rfl
  exact ⟨huri, hread, fun line => (htree tree [] saved line hread).1 hdrive⟩

/-- Files that are called `z:` and `y|` are not read: the paths of their URLs have a slash at the
end. -/
theorem drive_name_is_not_read :
    let root := Path.ofString "/work"
    let saved := "def saved(a):\n    pass\n"
    let tree := (FileTree.write {} (["work", "z:"].map Text.utf8Bytes) (Text.utf8Bytes saved)).write
      (["work", "y|"].map Text.utf8Bytes) (Text.utf8Bytes saved)
    let Missed (name : String) : Prop := urlOf? name = none ∧
      (tree.disk []).readText (root.join (.ofString name)) = .ok saved ∧
      ∀ line, answerRequest {} root (tree.disk []) ⟨name, line⟩ =
        .error (.unreadable (.ofString ("/work/" ++ name ++ "/")) .notADirectory)
    Missed "z:" ∧ Missed "y|" := by
  intro root saved tree Missed
  have hmissed : ∀ name, urlOf? name = none →
      (tree.disk []).readText (root.join (.ofString name)) = .ok saved →
      documentUrl? name root = some (.localFile ("/work/" ++ name)) →
      (Url.localFile ("/work/" ++ name)).toFilePath? =
        some (.ofString ("/work/" ++ name ++ "/")) →
      (tree.disk []).readText (.ofString ("/work/" ++ name ++ "/")) = .error .notADirectory →
      Missed name := by
    intro name huri hsaved hurl hpath hread
    refine ⟨huri, hsaved, fun line => ?_⟩
    rw [answerRequest_of_toFilePath? hurl rfl hpath, hread]
  constructor
  · apply hmissed <;> decide +kernel
  · apply hmissed <;> decide +kernel

end DocSignature
