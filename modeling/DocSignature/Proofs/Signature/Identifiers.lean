import DocSignature.Signature.Uuid
import Mathlib.Data.List.Induction
import Mathlib.Tactic.IntervalCases

/-!
# Spellings of UUIDs

Thirty-two hexadecimal digits spell one UUID, and each UUID has its own digits.  The four forms of a
UUID (simple, hyphenated, braced and URN) differ only in what stands around and between the digits.
`Uuid.ofText?_eq_some_iff` says that reading accepts these forms, with digits of either case, and
nothing else.
-/

set_option autoImplicit false

namespace DocSignature

namespace Text

/-- Lower case moves the capital letters of ASCII and nothing else. -/
theorem toNat_toLower (c : Char) :
    c.toLower.toNat = if 65 ≤ c.toNat ∧ c.toNat ≤ 90 then c.toNat + 32 else c.toNat := by
  have hupper : (c.val ≥ 'A'.val ∧ c.val ≤ 'Z'.val) ↔ 65 ≤ c.toNat ∧ c.toNat ≤ 90 := Iff.rfl
  unfold Char.toLower
  by_cases h : c.val ≥ 'A'.val ∧ c.val ≤ 'Z'.val
  · have hbound := hupper.1 h
    have hsum : (c.val + ('a'.val - 'A'.val)).toNat = c.toNat + 32 := by
      have hval : c.val.toNat = c.toNat := rfl
      have hdiff : ('a'.val - 'A'.val).toNat = 32 := rfl
      rw [UInt32.toNat_add, hval, hdiff]
      omega
    rw [dif_pos h, if_pos hbound]
    exact hsum
  · rw [dif_neg h, if_neg (fun hbound => h (hupper.2 hbound))]

/-- The code points of hexadecimal digits. -/
theorem toNat_hexDigit {d : Nat} (h : d < 16) :
    (hexDigit d).toNat = if d < 10 then 48 + d else 87 + d := by
  interval_cases d <;> rfl

/-- A character is a hexadecimal digit of some value just if in lower case it is the digit of that
value. -/
theorem hexValue?_eq_some_iff {c : Char} {d : Nat} :
    hexValue? c = some d ↔ d < 16 ∧ c.toLower = hexDigit d := by
  have hlower : d < 16 → (c.toLower = hexDigit d ↔
      (if 65 ≤ c.toNat ∧ c.toNat ≤ 90 then c.toNat + 32 else c.toNat) =
        if d < 10 then 48 + d else 87 + d) := by
    intro hd
    rw [← Char.toNat_inj, toNat_toLower, toNat_hexDigit hd]
  have hdigit : ('0' ≤ c ∧ c ≤ '9') ↔ 48 ≤ c.toNat ∧ c.toNat ≤ 57 := Iff.rfl
  have hsmall : ('a' ≤ c ∧ c ≤ 'f') ↔ 97 ≤ c.toNat ∧ c.toNat ≤ 102 := Iff.rfl
  have hcapital : ('A' ≤ c ∧ c ≤ 'F') ↔ 65 ≤ c.toNat ∧ c.toNat ≤ 70 := Iff.rfl
  unfold hexValue?
  simp only [hdigit, hsmall, hcapital]
  constructor
  · intro h
    have hd : d < 16 := by
      split_ifs at h <;> simp at h <;> omega
    refine ⟨hd, (hlower hd).2 ?_⟩
    split_ifs at h <;> simp at h <;> split_ifs <;> omega
  · rintro ⟨hd, h⟩
    have hcode := (hlower hd).1 h
    grind

/-- Digits spell what the digits before the last one spell, sixteen times, and the last one. -/
theorem readBase?_concat (base n : Nat) (cs : List Char) (c : Char) :
    readBase? base n (cs ++ [c]) = (readBase? base n cs).bind fun m =>
      (hexValue? c).bind fun d => if d < base then some (base * m + d) else none := by
  induction cs generalizing n with
  | nil =>
    simp only [List.nil_append, readBase?, Option.bind_some]
    cases hexValue? c <;> rfl
  | cons x cs ih =>
    simp only [List.cons_append, readBase?]
    cases hexValue? x with
    | none => rfl
    | some d =>
      by_cases hd : d < base
      · simp only [if_pos hd, ih]
      · simp only [if_neg hd, Option.bind_none]

end Text

namespace Uuid

open Text

/-- Digits spell a number just if in lower case they are the digits of that number. -/
theorem readBase?_eq_some_iff {cs : List Char} {n : Nat} :
    readBase? 16 0 cs = some n ↔
      n < 16 ^ cs.length ∧ cs.map Char.toLower = hexDigits cs.length n := by
  induction cs using List.reverseRecOn generalizing n with
  | nil => simp [readBase?, hexDigits, eq_comm]
  | append_singleton cs c ih =>
    rw [readBase?_concat, List.length_append, List.length_singleton, hexDigits, List.map_append,
      List.map_singleton, Nat.pow_succ]
    constructor
    · intro h
      obtain ⟨m, hm, hlast⟩ := Option.bind_eq_some_iff.1 h
      obtain ⟨d, hd, hn⟩ := Option.bind_eq_some_iff.1 hlast
      obtain ⟨hbound, hdigits⟩ := ih.1 hm
      obtain ⟨hd, hlower⟩ := hexValue?_eq_some_iff.1 hd
      rw [if_pos hd] at hn
      obtain rfl := Option.some.inj hn
      have hquotient : (16 * m + d) / 16 = m := by omega
      have hremainder : (16 * m + d) % 16 = d := by omega
      rw [hquotient, hremainder, hdigits, hlower]
      exact ⟨by omega, rfl⟩
    · rintro ⟨hbound, hdigits⟩
      obtain ⟨hinit, hlast⟩ := List.append_inj' hdigits rfl
      have hm : readBase? 16 0 cs = some (n / 16) := ih.2 ⟨by omega, hinit⟩
      have hd : hexValue? c = some (n % 16) :=
        hexValue?_eq_some_iff.2 ⟨by omega, List.singleton_inj.1 hlast⟩
      rw [hm, Option.bind_some, hd, Option.bind_some, if_pos (by omega)]
      have hsplit : 16 * (n / 16) + n % 16 = n := by omega
      rw [hsplit]

/-- A number is written with as many digits as are asked for. -/
theorem length_hexDigits (count n : Nat) : (hexDigits count n).length = count := by
  induction count generalizing n with
  | zero => rfl
  | succ count ih => rw [hexDigits, List.length_append, ih, List.length_singleton]

/-- Thirty-two characters are the digits of an identifier, in either case. -/
def DigitsOf (id : Uuid) (ds : List Char) : Prop :=
  ds.map Char.toLower = hexDigits 32 id.toNat

/-- An identifier has thirty-two digits. -/
theorem DigitsOf.length_eq {id : Uuid} {ds : List Char} (h : DigitsOf id ds) : ds.length = 32 := by
  have hlength := congrArg List.length h
  rwa [List.length_map, length_hexDigits] at hlength

/-- Thirty-two digits are read as the identifier whose digits they are. -/
theorem ofDigits?_eq_some_iff {cs : List Char} {id : Uuid} :
    ofDigits? cs = some id ↔ DigitsOf id cs := by
  constructor
  · intro h
    unfold ofDigits? at h
    split at h
    · next hlength =>
      obtain ⟨n, hn, rfl⟩ := Option.map_eq_some_iff.1 h
      obtain ⟨hbound, hdigits⟩ := readBase?_eq_some_iff.1 hn
      rw [hlength] at hbound hdigits
      have hnat : (BitVec.ofNat 128 n).toNat = n := by
        rw [BitVec.toNat_ofNat]
        omega
      rw [DigitsOf, hnat, hdigits]
    · simp at h
  · intro h
    have hbound : id.toNat < 16 ^ 32 := by
      have hlt := id.isLt
      omega
    have hread : readBase? 16 0 cs = some id.toNat := by
      refine readBase?_eq_some_iff.2 ?_
      rw [h.length_eq]
      exact ⟨hbound, h⟩
    rw [ofDigits?, if_pos h.length_eq, hread]
    simp

/-! ## Forms -/

/-- Thirty-two digits in their five groups. -/
theorem hyphenate_groups {a b c d e : List Char} (ha : a.length = 8) (hb : b.length = 4)
    (hc : c.length = 4) (hd : d.length = 4) :
    hyphenate (a ++ (b ++ (c ++ (d ++ e)))) =
      a ++ '-' :: (b ++ '-' :: (c ++ '-' :: (d ++ '-' :: e))) := by
  simp (disch := omega) [hyphenate, ha, hb, hc, List.drop_append, List.drop_eq_nil_of_le]

/-- Groups of digits with hyphens between them are read as the digits without the hyphens. -/
theorem ofHyphenated?_groups {a b c d e : List Char} (ha : a.length = 8) (hb : b.length = 4)
    (hc : c.length = 4) (hd : d.length = 4) (he : e.length = 12) :
    ofHyphenated? (a ++ '-' :: (b ++ '-' :: (c ++ '-' :: (d ++ '-' :: e)))) =
      ofDigits? (a ++ (b ++ (c ++ (d ++ e)))) := by
  simp (disch := omega) [ofHyphenated?, ha, hb, hc, hd, he, List.drop_append,
    List.drop_eq_nil_of_le, List.getElem?_append, List.getElem?_cons_zero]

/-- A list of thirty-two members falls into five groups. -/
theorem exists_groups {ds : List Char} (h : ds.length = 32) :
    ∃ a b c d e : List Char, (a.length = 8 ∧ b.length = 4 ∧ c.length = 4 ∧ d.length = 4 ∧
      e.length = 12) ∧ ds = a ++ (b ++ (c ++ (d ++ e))) := by
  refine ⟨ds.take 8, (ds.drop 8).take 4, (ds.drop 12).take 4, (ds.drop 16).take 4, ds.drop 20,
    by simp [h], ?_⟩
  have ha := List.take_append_drop 8 ds
  have hb := List.take_append_drop 4 (ds.drop 8)
  have hc := List.take_append_drop 4 (ds.drop 12)
  have hd := List.take_append_drop 4 (ds.drop 16)
  simp only [List.drop_drop] at hb hc hd
  rw [hd, hc, hb, ha]

/-- A list with hyphens at four places falls into the groups between them. -/
theorem exists_hyphenated_groups {cs : List Char} (h : cs.length = 36) (h8 : cs[8]? = some '-')
    (h13 : cs[13]? = some '-') (h18 : cs[18]? = some '-') (h23 : cs[23]? = some '-') :
    ∃ a b c d e : List Char, (a.length = 8 ∧ b.length = 4 ∧ c.length = 4 ∧ d.length = 4 ∧
      e.length = 12) ∧ cs = a ++ '-' :: (b ++ '-' :: (c ++ '-' :: (d ++ '-' :: e))) := by
  -- a hyphen and what follows it are what is left from its place on
  have hat : ∀ n, cs[n]? = some '-' → cs.drop n = '-' :: cs.drop (n + 1) := by
    intro n hn
    obtain ⟨hlt, heq⟩ := List.getElem?_eq_some_iff.1 hn
    rw [List.drop_eq_getElem_cons hlt, heq]
  refine ⟨cs.take 8, (cs.drop 9).take 4, (cs.drop 14).take 4, (cs.drop 19).take 4, cs.drop 24,
    by simp [h], ?_⟩
  have ha := List.take_append_drop 8 cs
  have hb := List.take_append_drop 4 (cs.drop 9)
  have hc := List.take_append_drop 4 (cs.drop 14)
  have hd := List.take_append_drop 4 (cs.drop 19)
  simp only [List.drop_drop] at hb hc hd
  rw [← hat 23 h23, hd, ← hat 18 h18, hc, ← hat 13 h13, hb, ← hat 8 h8, ha]

/-- Hyphens make thirty-six characters of thirty-two digits. -/
theorem length_hyphenate {ds : List Char} (h : ds.length = 32) : (hyphenate ds).length = 36 := by
  simp [hyphenate, h]

/-- Groups of digits are read just if there are hyphens between them and nowhere else. -/
theorem ofHyphenated?_eq_some_iff {cs : List Char} {id : Uuid} :
    ofHyphenated? cs = some id ↔ ∃ ds, DigitsOf id ds ∧ cs = hyphenate ds := by
  constructor
  · intro h
    have hread := h
    unfold ofHyphenated? at h
    split at h
    · next hform =>
      obtain ⟨hlength, h8, h13, h18, h23⟩ := hform
      obtain ⟨a, b, c, d, e, ⟨ha, hb, hc, hd, he⟩, rfl⟩ :=
        exists_hyphenated_groups hlength h8 h13 h18 h23
      rw [ofHyphenated?_groups ha hb hc hd he, ofDigits?_eq_some_iff] at hread
      exact ⟨_, hread, (hyphenate_groups ha hb hc hd).symm⟩
    · simp at h
  · rintro ⟨ds, hds, rfl⟩
    obtain ⟨a, b, c, d, e, ⟨ha, hb, hc, hd, he⟩, rfl⟩ := exists_groups hds.length_eq
    rw [hyphenate_groups ha hb hc hd, ofHyphenated?_groups ha hb hc hd he]
    exact ofDigits?_eq_some_iff.2 hds

/-- The texts that spell an identifier. -/
inductive SpelledBy (id : Uuid) : List Char → Prop where
  | plain {ds : List Char} (hds : DigitsOf id ds) : SpelledBy id ds
  | hyphenated {ds : List Char} (hds : DigitsOf id ds) : SpelledBy id (hyphenate ds)
  | braced {ds : List Char} (hds : DigitsOf id ds) :
    SpelledBy id ('\x7b' :: (hyphenate ds ++ ['\x7d']))
  | named {mark ds : List Char} (hmark : mark.map Char.toLower = nameMark)
    (hds : DigitsOf id ds) : SpelledBy id (mark ++ hyphenate ds)

/-- Reading an identifier accepts its spellings and nothing else. -/
theorem ofText?_eq_some_iff {s : String} {id : Uuid} :
    ofText? s = some id ↔ SpelledBy id s.toList := by
  rw [ofText?]
  generalize s.toList = cs
  constructor
  · intro h
    unfold ofChars? at h
    split_ifs at h with h32 h36 h38 h45
    · exact .plain (ofDigits?_eq_some_iff.1 h)
    · obtain ⟨ds, hds, rfl⟩ := ofHyphenated?_eq_some_iff.1 h
      exact .hyphenated hds
    · obtain ⟨hlength, hopens, hcloses⟩ := h38
      obtain ⟨ds, hds, hmiddle⟩ := ofHyphenated?_eq_some_iff.1 h
      obtain ⟨init, rfl⟩ := List.getLast?_eq_some_iff.1 hcloses
      have hinit : init.length = 37 := by simpa using hlength
      obtain ⟨middle, rfl⟩ : ∃ middle, init = '\x7b' :: middle := by
        cases init with
        | nil => simp at hinit
        | cons c middle =>
          obtain rfl : c = '\x7b' := by simpa using hopens
          exact ⟨middle, rfl⟩
      have hlast : ((middle ++ ['\x7d']).take 36) = middle := by
        have hmid : middle.length = 36 := by simpa using hinit
        rw [← hmid, List.take_left]
      have heq : middle = hyphenate ds := hlast.symm.trans hmiddle
      rw [heq]
      exact .braced hds
    · obtain ⟨hlength, hmark⟩ := h45
      obtain ⟨ds, hds, hrest⟩ := ofHyphenated?_eq_some_iff.1 h
      rw [← List.take_append_drop 9 cs, hrest]
      exact .named hmark hds
  · intro h
    cases h with
    | plain hds => rw [ofChars?, if_pos hds.length_eq]; exact ofDigits?_eq_some_iff.2 hds
    | @hyphenated ds hds =>
      have hlength := length_hyphenate hds.length_eq
      have hread := ofHyphenated?_eq_some_iff.2 ⟨ds, hds, rfl⟩
      simp [ofChars?, hlength, hread]
    | @braced ds hds =>
      have hlength := length_hyphenate hds.length_eq
      have hread := ofHyphenated?_eq_some_iff.2 ⟨ds, hds, rfl⟩
      have hlast : ('\x7b' :: (hyphenate ds ++ ['\x7d'])).getLast? = some '\x7d' := by
        rw [← List.cons_append, List.getLast?_concat]
      simp [ofChars?, hlength, hread, hlast]
    | @named mark ds hmark hds =>
      have hlength := length_hyphenate hds.length_eq
      have hread := ofHyphenated?_eq_some_iff.2 ⟨ds, hds, rfl⟩
      have hnine : mark.length = 9 := by
        have hmap := congrArg List.length hmark
        rwa [List.length_map] at hmap
      simp [ofChars?, hlength, hnine, hread, hmark]

/-- The digits of a number are in lower case. -/
theorem map_toLower_hexDigits (count n : Nat) :
    (hexDigits count n).map Char.toLower = hexDigits count n := by
  have hdigit : ∀ d < 16, (hexDigit d).toLower = hexDigit d := by decide
  induction count generalizing n with
  | zero => rfl
  | succ count ih =>
    have hlast := hdigit (n % 16) (Nat.mod_lt n (by omega))
    rw [hexDigits, List.map_append, ih, List.map_singleton, hlast]

/-- The text of an identifier is one of its spellings. -/
theorem spelledBy_toText (id : Uuid) : SpelledBy id id.toText.toList := by
  rw [toText, String.toList_ofList]
  exact .hyphenated (map_toLower_hexDigits 32 id.toNat)

end Uuid

end DocSignature
