import DocSignature.Proofs.Signature.Identifiers
import DocSignature.Signature.RecordJson
import Mathlib.Data.List.Forall2

/-!
# Spellings of records

A record (`SignatureRecord`) has one JSON value that it is written as and many that it may be read
from: members in any order, members that mean nothing, optional members left out, arrays in place of
objects, and the forms of its identifier.  `SignatureRecord.SpelledBy` says which values these are
without saying how they are read.  Reading accepts just these values, so what is written after
reading is one form for all spellings of a record.
-/

set_option autoImplicit false

namespace DocSignature

namespace Json

/-! ## Members -/

section

variable {key : String} {ms : List (String × Json)}

/-- An object holds a value under a key: of the members with that key the last one has it. -/
def Holds (ms : List (String × Json)) (key : String) (v : Json) : Prop :=
  ∃ before after, ms = before ++ (key, v) :: after ∧ key ∉ after.map (·.1)

/-- A text that may be absent is held by an object: it is written out, or it is absent and left
out. -/
def HoldsOptional (ms : List (String × Json)) (key : String) (value : Option String) : Prop :=
  Holds ms key (optString value) ∨ value = none ∧ key ∉ ms.map (·.1)

/-- No member is found just if no member has the key. -/
theorem member?_eq_none_iff : member? key ms = none ↔ key ∉ ms.map (·.1) := by
  rw [member?, Option.map_eq_none_iff, List.find?_eq_none]
  constructor
  · intro h hmem
    obtain ⟨m, hm, rfl⟩ := List.mem_map.1 hmem
    exact h m (List.mem_reverse.2 hm) (beq_self_eq_true m.1)
  · intro h m hm hkey
    rw [← eq_of_beq hkey] at h
    exact h (List.mem_map_of_mem (List.mem_reverse.1 hm))

/-- The member that is found is the last one with the key. -/
theorem member?_eq_some_iff {v : Json} : member? key ms = some v ↔ Holds ms key v := by
  constructor
  · intro h
    obtain ⟨⟨key', w⟩, hm, rfl⟩ := Option.map_eq_some_iff.1 h
    obtain ⟨hkey, front, back, hms, hfront⟩ := List.find?_eq_some_iff_append.1 hm
    obtain rfl : key' = key := eq_of_beq hkey
    refine ⟨back.reverse, front.reverse, ?_, ?_⟩
    · rw [← List.reverse_reverse ms, hms]
      simp
    · intro hmem
      obtain ⟨m, hm, hmkey⟩ := List.mem_map.1 hmem
      have hother := hfront m (List.mem_reverse.1 hm)
      simp [hmkey] at hother
  · rintro ⟨before, after, rfl, hlast⟩
    refine Option.map_eq_some_iff.2 ⟨(key, v), ?_, rfl⟩
    refine List.find?_eq_some_iff_append.2
      ⟨beq_self_eq_true key, after.reverse, before.reverse, by simp, ?_⟩
    intro m hm
    have hother : m.1 ≠ key := by
      rintro rfl
      exact hlast (List.mem_map_of_mem (List.mem_reverse.1 hm))
    simpa using hother

/-- A value is read as a string just if it is that string. -/
theorem asString?_eq_some_iff {v : Json} {s : String} : v.asString? = some s ↔ v = .string s := by
  cases v <;> simp [asString?]

/-- A value is read as a list just if it is that list. -/
theorem asArray?_eq_some_iff {v : Json} {items : List Json} :
    v.asArray? = some items ↔ v = .array items := by
  cases v <;> simp [asArray?]

/-- A text that may be absent is read from what it is written as. -/
theorem asOptional?_some_eq_some_iff {v : Json} {value : Option String} :
    asOptional? asString? (some v) = some value ↔ v = optString value := by
  cases v <;> cases value <;> simp [asOptional?, asString?, optString]

/-- A string that may be left out is read off the object that holds it. -/
theorem asOptional?_member?_eq_some_iff {value : Option String} :
    asOptional? asString? (member? key ms) = some value ↔ HoldsOptional ms key value := by
  unfold HoldsOptional
  rw [← member?_eq_some_iff, ← member?_eq_none_iff]
  cases member? key ms with
  | none => simp [asOptional?, eq_comm]
  | some v => simp [asOptional?_some_eq_some_iff]

end

end Json

/-- Reading all members of a list succeeds just if each is read. -/
theorem mapM_eq_some_iff {α β : Type} {f : α → Option β} {xs : List α} {ys : List β} :
    xs.mapM f = some ys ↔ List.Forall₂ (fun y x => f x = some y) ys xs := by
  induction xs generalizing ys with
  | nil => simp [eq_comm]
  | cons x xs ih =>
    simp only [List.mapM_cons, Option.bind_eq_bind, Option.bind_eq_some_iff, Option.pure_def,
      Option.some.injEq]
    constructor
    · rintro ⟨y, hy, ys, hys, rfl⟩
      exact .cons hy (ih.1 hys)
    · intro h
      cases h with
      | cons hy hys => exact ⟨_, hy, _, ih.2 hys, rfl⟩

/-! ## Parameters -/

namespace Parameter

/-- The values that spell a parameter. -/
inductive SpelledBy (p : Parameter) : Json → Prop where
  | object {ms : List (String × Json)} (hname : Json.Holds ms "name" (.string p.name))
    (htypehint : Json.HoldsOptional ms "annotation" p.typehint)
    (hdefault : Json.HoldsOptional ms "default" p.default) : SpelledBy p (.object ms)
  | array : SpelledBy p (.array [.string p.name, .optString p.typehint, .optString p.default])

/-- A parameter is read off its members. -/
theorem ofFields?_eq_some_iff {name typehint default : Option Json} {p : Parameter} :
    ofFields? name typehint default = some p ↔
      name = some (.string p.name) ∧ Json.asOptional? Json.asString? typehint = some p.typehint ∧
        Json.asOptional? Json.asString? default = some p.default := by
  simp only [ofFields?, Option.bind_eq_bind, Option.bind_eq_some_iff, Option.pure_def,
    Option.some.injEq, Json.asString?_eq_some_iff]
  constructor
  · rintro ⟨v, rfl, s, rfl, t, ht, d, hd, rfl⟩
    exact ⟨rfl, ht, hd⟩
  · rintro ⟨rfl, ht, hd⟩
    exact ⟨_, rfl, _, rfl, _, ht, _, hd, rfl⟩

/-- A parameter is read from its spellings and from nothing else. -/
theorem ofJson?_eq_some_iff {j : Json} {p : Parameter} : ofJson? j = some p ↔ p.SpelledBy j := by
  constructor
  · intro h
    unfold ofJson? at h
    split at h
    · obtain ⟨hname, htypehint, hdefault⟩ := ofFields?_eq_some_iff.1 h
      exact .object (Json.member?_eq_some_iff.1 hname)
        (Json.asOptional?_member?_eq_some_iff.1 htypehint)
        (Json.asOptional?_member?_eq_some_iff.1 hdefault)
    · obtain ⟨hname, htypehint, hdefault⟩ := ofFields?_eq_some_iff.1 h
      rw [Json.asOptional?_some_eq_some_iff] at htypehint hdefault
      rw [Option.some.inj hname, htypehint, hdefault]
      exact .array
    · simp at h
  · intro h
    cases h with
    | object hname htypehint hdefault =>
      exact ofFields?_eq_some_iff.2 ⟨Json.member?_eq_some_iff.2 hname,
        Json.asOptional?_member?_eq_some_iff.2 htypehint,
        Json.asOptional?_member?_eq_some_iff.2 hdefault⟩
    | array =>
      exact ofFields?_eq_some_iff.2 ⟨rfl, Json.asOptional?_some_eq_some_iff.2 rfl,
        Json.asOptional?_some_eq_some_iff.2 rfl⟩

/-- What a parameter is written as is one of its spellings. -/
theorem spelledBy_toJson (p : Parameter) : p.SpelledBy p.toJson := by
  refine .object ⟨[], _, rfl, by simp⟩ (.inl ?_) (.inl ?_)
  · exact ⟨[("name", .string p.name)], _, rfl, by simp⟩
  · exact ⟨[("name", .string p.name), ("annotation", .optString p.typehint)], [], rfl, by simp⟩

end Parameter

/-! ## Records -/

namespace SignatureRecord

/-- The values that spell a record. -/
inductive SpelledBy (r : SignatureRecord) : Json → Prop where
  | object {ms : List (String × Json)} {params : List Json} {id : String}
    (hname : Json.Holds ms "func_name" (.string r.funcName))
    (hlist : Json.Holds ms "params" (.array params))
    (hparams : List.Forall₂ Parameter.SpelledBy r.params params)
    (hreturn : Json.HoldsOptional ms "return_typehint" r.returnTypehint)
    (hraises : Json.Holds ms "raise_types" (.array (r.raiseTypes.map .string)))
    (htext : Json.Holds ms "id" (.string id)) (hid : r.id.SpelledBy id.toList) :
    SpelledBy r (.object ms)
  | array {params : List Json} {id : String}
    (hparams : List.Forall₂ Parameter.SpelledBy r.params params)
    (hid : r.id.SpelledBy id.toList) :
    SpelledBy r (.array [.string r.funcName, .array params, .optString r.returnTypehint,
      .array (r.raiseTypes.map .string), .string id])

/-- Values that are texts one by one are these texts. -/
theorem forall₂_string_iff {items : List Json} {texts : List String} :
    List.Forall₂ (fun t j => j = Json.string t) texts items ↔ items = texts.map .string := by
  constructor
  · intro h
    induction h with
    | nil => rfl
    | cons hitem _ ih => rw [hitem, ih, List.map_cons]
  · rintro rfl
    induction texts with
    | nil => exact .nil
    | cons t texts ih => exact .cons rfl ih

/-- A record is read off its members. -/
theorem ofFields?_eq_some_iff {funcName params returnTypehint raiseTypes id : Option Json}
    {r : SignatureRecord} :
    ofFields? funcName params returnTypehint raiseTypes id = some r ↔
      ∃ (list : List Json) (text : String), funcName = some (.string r.funcName) ∧
        params = some (.array list) ∧ List.Forall₂ Parameter.SpelledBy r.params list ∧
        Json.asOptional? Json.asString? returnTypehint = some r.returnTypehint ∧
        raiseTypes = some (.array (r.raiseTypes.map .string)) ∧
        id = some (.string text) ∧ r.id.SpelledBy text.toList := by
  simp only [ofFields?, Option.bind_eq_bind, Option.bind_eq_some_iff, Option.pure_def,
    Option.some.injEq, Json.asString?_eq_some_iff, Json.asArray?_eq_some_iff, mapM_eq_some_iff,
    Parameter.ofJson?_eq_some_iff, forall₂_string_iff, Uuid.ofText?_eq_some_iff]
  constructor
  · rintro ⟨v, rfl, s, rfl, w, rfl, list, rfl, ps, hps, t, ht, x, rfl, items, rfl, es, rfl, y, rfl,
      text, rfl, id, hid, rfl⟩
    exact ⟨list, text, rfl, rfl, hps, ht, rfl, rfl, hid⟩
  · rintro ⟨list, text, rfl, rfl, hps, ht, rfl, rfl, hid⟩
    exact ⟨_, rfl, _, rfl, _, rfl, list, rfl, _, hps, _, ht, _, rfl, _, rfl, _, rfl, _, rfl, text,
      rfl, _, hid, rfl⟩

/-- A record is read from its spellings and from nothing else. -/
theorem ofJson?_eq_some_iff {j : Json} {r : SignatureRecord} :
    ofJson? j = some r ↔ r.SpelledBy j := by
  constructor
  · intro h
    unfold ofJson? at h
    split at h
    · obtain ⟨list, text, hname, hlist, hparams, hreturn, hraises, htext, hid⟩ :=
        ofFields?_eq_some_iff.1 h
      exact .object (Json.member?_eq_some_iff.1 hname) (Json.member?_eq_some_iff.1 hlist) hparams
        (Json.asOptional?_member?_eq_some_iff.1 hreturn) (Json.member?_eq_some_iff.1 hraises)
        (Json.member?_eq_some_iff.1 htext) hid
    · obtain ⟨list, text, hname, hlist, hparams, hreturn, hraises, htext, hid⟩ :=
        ofFields?_eq_some_iff.1 h
      rw [Json.asOptional?_some_eq_some_iff] at hreturn
      rw [Option.some.inj hname, Option.some.inj hlist, hreturn, Option.some.inj hraises,
        Option.some.inj htext]
      exact .array hparams hid
    · simp at h
  · intro h
    cases h with
    | @object ms list text hname hlist hparams hreturn hraises htext hid =>
      exact ofFields?_eq_some_iff.2 ⟨list, text, Json.member?_eq_some_iff.2 hname,
        Json.member?_eq_some_iff.2 hlist, hparams, Json.asOptional?_member?_eq_some_iff.2 hreturn,
        Json.member?_eq_some_iff.2 hraises, Json.member?_eq_some_iff.2 htext, hid⟩
    | @array list text hparams hid =>
      exact ofFields?_eq_some_iff.2 ⟨list, text, rfl, rfl, hparams,
        Json.asOptional?_some_eq_some_iff.2 rfl, rfl, rfl, hid⟩

/-- What a record is written as is one of its spellings. -/
theorem spelledBy_toJson (r : SignatureRecord) : r.SpelledBy r.toJson := by
  have hparams : List.Forall₂ Parameter.SpelledBy r.params (r.params.map Parameter.toJson) := by
    rw [List.forall₂_map_right_iff, List.forall₂_same]
    exact fun p _ => p.spelledBy_toJson
  refine .object ⟨[], _, rfl, by simp⟩ ⟨_ :: [], _, rfl, by simp⟩ hparams
    (.inl ⟨_ :: _ :: [], _, rfl, by simp⟩) ⟨_ :: _ :: _ :: [], _, rfl, by simp⟩
    ⟨_ :: _ :: _ :: _ :: [], _, rfl, by simp⟩ r.id.spelledBy_toText

/-- A record that is written is read back. -/
theorem ofJson?_toJson (r : SignatureRecord) : ofJson? r.toJson = some r :=
  ofJson?_eq_some_iff.2 r.spelledBy_toJson

/-- A record is read back from what it is written as, a value is read as a record just if it spells
that record, and so writing after reading takes all spellings of a record, and of no other record,
to one value that stays what it is when it is read and written again. -/
theorem spellings_have_one_written_form :
    (∀ r : SignatureRecord, ofJson? r.toJson = some r) ∧
      (∀ (r : SignatureRecord) (j : Json), r.SpelledBy j ↔ ofJson? j = some r) ∧
      (∀ (r r' : SignatureRecord) (j j' : Json), r.SpelledBy j → r'.SpelledBy j' →
        ((ofJson? j).map toJson = (ofJson? j').map toJson ↔ r = r')) ∧
      ∀ j c : Json, (ofJson? j).map toJson = some c → (ofJson? c).map toJson = some c := by
  refine ⟨ofJson?_toJson, fun r j => ofJson?_eq_some_iff.symm, ?_, ?_⟩
  · intro r r' j j' hj hj'
    rw [ofJson?_eq_some_iff.2 hj, ofJson?_eq_some_iff.2 hj', Option.map_some, Option.map_some,
      Option.some.injEq]
    constructor
    · intro hwritten
      have hread := congrArg ofJson? hwritten
      rw [ofJson?_toJson, ofJson?_toJson] at hread
      exact Option.some.inj hread
    · exact congrArg toJson
  · intro j c hc
    obtain ⟨r, hr, rfl⟩ := Option.map_eq_some_iff.1 hc
    rw [ofJson?_toJson, Option.map_some]

/-- A record as an array whose parameters are an object and an array. -/
def mixedSpelling : Json :=
  .array
    [.string "load",
     .array
       [.object [("default", .string "0"), ("kind", .null), ("name", .string "depth")],
        .array [.string "*paths", .string "str", .null]],
     .null,
     .array [.string "OSError"],
     .string "URN:uuid:01234567-89ab-CDEF-0123-456789ABCDEF"]

/-- What `mixedSpelling` spells. -/
def mixedRecord : SignatureRecord where
  funcName := "load"
  params := [⟨"depth", none, some "0"⟩, ⟨"*paths", some "str", none⟩]
  returnTypehint := none
  raiseTypes := ["OSError"]
  id := 0x0123456789abcdef0123456789abcdef#128

/-- The record is spelled by the mixture of forms. -/
theorem mixedRecord_spelledBy : mixedRecord.SpelledBy mixedSpelling := by
  refine .array (.cons ?_ (.cons .array .nil)) ?_
  · refine .object ⟨[_, _], [], rfl, by simp⟩ (.inr ⟨rfl, by decide⟩)
      (.inl ⟨[], _, rfl, by decide⟩)
  · have hmark : "URN:uuid:".toList.map Char.toLower = Uuid.nameMark := by decide
    have hds : mixedRecord.id.DigitsOf "0123456789abCDEF0123456789ABCDEF".toList := by
      unfold Uuid.DigitsOf
      decide
    exact .named hmark hds

/-- A mixture of forms is read as the record it spells and written as any other spelling is. -/
theorem mixedSpelling_written :
    (SignatureRecord.ofJson? mixedSpelling).map toJson = some mixedRecord.toJson ∧
      (SignatureRecord.ofJson? mixedRecord.toJson).map toJson = some mixedRecord.toJson := by
  obtain ⟨hback, hreads, -, hagain⟩ := spellings_have_one_written_form
  have hread := (hreads mixedRecord mixedSpelling).1 mixedRecord_spelledBy
  have hwritten : (ofJson? mixedSpelling).map toJson = some mixedRecord.toJson := by
    rw [hread, Option.map_some]
  exact ⟨hwritten, hagain mixedSpelling mixedRecord.toJson hwritten⟩

end SignatureRecord

end DocSignature
