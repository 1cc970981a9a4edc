import Mathlib.Data.List.Induction
import UrlQuery.Media.Registry
import UrlQuery.Proofs.Media.Subtype
import UrlQuery.Proofs.Text.Utf8

/-!
# Codecs after registrations

A registry answers by subtypes: after any registrations, a media type has the name of the last of
them that gave a name to its subtype, or the name it had before (`codecName?_registerAll`). The
codec of a header is that of its first value that has one, among those that are text
(`codecForHeader?_eq_some_iff`). Which values are text is a matter of their bytes
(`HeaderField.text?_eq_some_iff`).

Malformed media types all have the empty subtype, so they have no codec unless a registration names
that subtype, and then they all have the same (`codecName?_of_isMalformed`).
-/

namespace UrlQuery

/-- A call that binds the subtype of a media type to the name of a codec. -/
structure Registration where
  mediaType : String
  name : String
  deriving DecidableEq, Repr

/-- The registration gives a name, and to the subtype of this media type. -/
def Registration.names (registration : Registration) (mediaType : String) : Bool :=
  !registration.name.isEmpty &&
    Media.subtype registration.mediaType == Media.subtype mediaType

/-- The registration gives a name to the empty subtype. -/
def Registration.namesEmptySubtype (registration : Registration) : Bool :=
  !registration.name.isEmpty && Media.subtype registration.mediaType == ""

theorem Registration.names_of_isMalformed (registration : Registration) {mediaType : String}
    (h : Media.IsMalformed mediaType) :
    registration.names mediaType = registration.namesEmptySubtype := by
  rw [names, namesEmptySubtype, Media.subtype_of_isMalformed h]

namespace CodecRegistry

/-! ## Registrations -/

/-- The registry after some registrations, one after the other. -/
def registerAll (r : CodecRegistry) (registrations : List Registration) : CodecRegistry :=
  registrations.foldl (fun r registration => r.register registration.mediaType registration.name) r

theorem registerAll_concat (r : CodecRegistry) (before : List Registration) (last : Registration) :
    r.registerAll (before ++ [last])
      = (r.registerAll before).register last.mediaType last.name := by
  rw [registerAll, registerAll, List.foldl_append, List.foldl_cons, List.foldl_nil]

/-- One registration is about the media types of its subtype. -/
theorem codecName?_register (r : CodecRegistry) (registration : Registration)
    (mediaType : String) :
    (r.register registration.mediaType registration.name).codecName? mediaType
      = if registration.names mediaType then some registration.name
        else r.codecName? mediaType := by
  rw [register, Registration.names]
  by_cases hname : registration.name.isEmpty = true
  · simp [hname]
  · rw [if_neg hname, codecName?, bind]
    by_cases hsubtype : Media.subtype registration.mediaType = Media.subtype mediaType
    · rw [hsubtype]
      simp [hname, Assoc.insert, Assoc.lookup_alter_self _ r.sorted]
    · simp [hsubtype, Assoc.insert, Assoc.lookup_alter_of_ne (Ne.symm hsubtype), codecName?]

/-- **The last registration of a subtype counts**, or what stood in the registry before. -/
theorem codecName?_registerAll (r : CodecRegistry) (registrations : List Registration)
    (mediaType : String) :
    (r.registerAll registrations).codecName? mediaType
      = ((registrations.filter (·.names mediaType)).getLast?.map (·.name)).or
          (r.codecName? mediaType) := by
  -- From the end, as the last registration of the subtype is the one that counts.
  induction registrations using List.reverseRecOn with
  | nil => rfl
  | append_singleton before last ih =>
    rw [registerAll_concat, codecName?_register, ih]
    rw [List.filter_append]
    by_cases hlast : last.names mediaType = true
    · have hone : [last].filter (·.names mediaType) = [last] := by simp [hlast]
      rw [if_pos hlast, hone, List.getLast?_concat]
      rfl
    · have hnone : [last].filter (·.names mediaType) = [] := by simp [hlast]
      rw [if_neg hlast, hnone, List.append_nil]

/-! ## Headers -/

/-- The field is one of the header of this name, in whatever case. -/
def HeaderField.IsNamed (field : HeaderField) (name : String) : Prop :=
  field.name.toLower = name.toLower

theorem HeaderField.isNamed_iff {field : HeaderField} {name : String} :
    field.IsNamed name ↔ field.name.toList.map Char.toLower = name.toList.map Char.toLower := by
  show field.name.map Char.toLower = name.map Char.toLower ↔ _
  rw [← String.toList_inj, String.toList_map, String.toList_map]

instance (field : HeaderField) (name : String) : Decidable (field.IsNamed name) :=
  decidable_of_iff _ HeaderField.isNamed_iff.symm

/-- **A value is text just if it holds visible ASCII characters, spaces and tabs alone**, and then
its bytes are those of the text. -/
theorem HeaderField.text?_eq_some_iff {field : HeaderField} {text : String} :
    field.text? = some text ↔
      (∀ b ∈ field.value, b = 0x09 ∨ (0x20 ≤ b.toNat ∧ b.toNat ≤ 0x7E)) ∧
        Utf8.encode text = field.value := by
  have hbyte : ∀ b : UInt8, (b == 0x09 || (0x20 ≤ b.toNat && b.toNat < 0x7F)) = true ↔
      b = 0x09 ∨ (0x20 ≤ b.toNat ∧ b.toNat ≤ 0x7E) := by
    intro b
    rw [Bool.or_eq_true, Bool.and_eq_true, decide_eq_true_iff, decide_eq_true_iff, beq_iff_eq,
      Nat.lt_succ_iff]
  have hall : (∀ b ∈ field.value, b = 0x09 ∨ (0x20 ≤ b.toNat ∧ b.toNat ≤ 0x7E)) →
      Utf8.encode (String.ofList (field.value.map fun b => Char.ofNat b.toNat)) = field.value := by
    intro h
    rw [Utf8.encode_ofList]
    refine Utf8.bytesOf_map_ofNat fun b hb => ?_
    rcases h b hb with rfl | ⟨-, hle⟩
    · decide
    · omega
  rw [HeaderField.text?]
  simp only [List.all_eq_true, hbyte]
  constructor
  · intro h
    split at h
    · next htext =>
      cases h
      exact ⟨htext, hall htext⟩
    · cases h
  · rintro ⟨htext, hencode⟩
    rw [if_pos htext, ← Utf8.decode_encode text, ← Utf8.decode_encode (String.ofList _),
      hall htext, hencode]

/-- The field is a value of the header, it is text, and the text has a codec. -/
def HasCodec (r : CodecRegistry) (field : HeaderField) (name codec : String) : Prop :=
  field.IsNamed name ∧ ∃ text, field.text? = some text ∧ r.codecName? text = some codec

/-- The codec that one field gives to a header. -/
def fieldCodec? (r : CodecRegistry) (name : String) (field : HeaderField) : Option String :=
  if field.name.toLower = name.toLower then field.text?.bind r.codecName? else none

theorem codecForHeader?_eq (r : CodecRegistry) (headers : List HeaderField) (name : String) :
    r.codecForHeader? headers name = headers.findSome? (r.fieldCodec? name) := rfl

theorem fieldCodec?_eq_some_iff {r : CodecRegistry} {name codec : String} {field : HeaderField} :
    r.fieldCodec? name field = some codec ↔ r.HasCodec field name codec := by
  rw [fieldCodec?, HasCodec, HeaderField.IsNamed]
  by_cases hname : field.name.toLower = name.toLower
  · simp [hname, Option.bind_eq_some_iff]
  · simp [hname]

theorem fieldCodec?_eq_none_iff {r : CodecRegistry} {name : String} {field : HeaderField} :
    r.fieldCodec? name field = none ↔ ∀ codec, ¬ r.HasCodec field name codec := by
  rw [Option.eq_none_iff_forall_ne_some]
  exact forall_congr' fun codec => not_congr fieldCodec?_eq_some_iff

/-- **The first value of a header that has a codec gives it.** -/
theorem codecForHeader?_eq_some_iff {r : CodecRegistry} {headers : List HeaderField}
    {name codec : String} :
    r.codecForHeader? headers name = some codec ↔
      ∃ before field after, headers = before ++ field :: after ∧ r.HasCodec field name codec ∧
        ∀ other ∈ before, ∀ codec, ¬ r.HasCodec other name codec := by
  rw [codecForHeader?_eq, List.findSome?_eq_some_iff]
  simp only [fieldCodec?_eq_some_iff, fieldCodec?_eq_none_iff]

theorem codecForHeader?_eq_none_iff {r : CodecRegistry} {headers : List HeaderField}
    {name : String} :
    r.codecForHeader? headers name = none ↔
      ∀ field ∈ headers, ∀ codec, ¬ r.HasCodec field name codec := by
  rw [codecForHeader?_eq, List.findSome?_eq_none_iff]
  simp only [fieldCodec?_eq_none_iff]

/--
**Codecs are found by subtypes.**

* After any registrations a media type has the name of the last that gave a name to its subtype, or
  the name that it had before if there is none.
* The codec of a header is that of the first of its values that is text and has a codec. There is
  none just if no value of the header that is text has one.
* A media type has the codec of any other that differs in the main type, in what stands behind a
  semicolon, or in a vendor with a plus sign in front of the rest.
-/
theorem codecName?_by_subtype (r : CodecRegistry) :
    (∀ (registrations : List Registration) (mediaType : String),
      (r.registerAll registrations).codecName? mediaType
        = ((registrations.filter (·.names mediaType)).getLast?.map (·.name)).or
            (r.codecName? mediaType)) ∧
    (∀ (headers : List HeaderField) (name : String),
      (∀ codec, r.codecForHeader? headers name = some codec ↔
        ∃ before field after, headers = before ++ field :: after ∧ r.HasCodec field name codec ∧
          ∀ other ∈ before, ∀ codec, ¬ r.HasCodec other name codec) ∧
      (r.codecForHeader? headers name = none ↔
        ∀ field ∈ headers, ∀ codec, ¬ r.HasCodec field name codec)) ∧
    ∀ main main' vendor suffix parameters : String,
      '/' ∉ main.toList → ';' ∉ main.toList → '/' ∉ main'.toList → ';' ∉ main'.toList →
      '+' ∉ vendor.toList → ';' ∉ vendor.toList → '+' ∉ suffix.toList → ';' ∉ suffix.toList →
      r.codecName? (main' ++ "/" ++ suffix) = r.codecName? (main ++ "/" ++ suffix) ∧
      r.codecName? (main ++ "/" ++ suffix ++ ";" ++ parameters)
        = r.codecName? (main ++ "/" ++ suffix) ∧
      r.codecName? (main ++ "/" ++ (vendor ++ "+" ++ suffix) ++ ";" ++ parameters)
        = r.codecName? (main ++ "/" ++ suffix) := by
  refine ⟨r.codecName?_registerAll,
    fun headers name => ⟨fun codec => codecForHeader?_eq_some_iff, codecForHeader?_eq_none_iff⟩, ?_⟩
  intro main main' vendor suffix parameters hslash hsemicolon hslash' hsemicolon' hplus hvendor
    hsuffix hfree
  have hsame : ∀ a b, Media.subtype a = Media.subtype b → r.codecName? a = r.codecName? b := by
    intro a b h
    rw [codecName?, codecName?, h]
  have hmain := Media.subtype_of_suffix hslash hsemicolon hfree hsuffix
  refine ⟨hsame _ _ ?_, hsame _ _ ?_, hsame _ _ ?_⟩
  · rw [hmain, Media.subtype_of_suffix hslash' hsemicolon' hfree hsuffix]
  · rw [Media.subtype_parameters]
  · rw [hmain, Media.subtype_parameters,
      Media.subtype_of_vendor hslash hsemicolon hplus hvendor hfree]

/-- A subtype bound twice and once to nothing, a header whose first values have no codec or are no
text, and a type with a vendor and parameters. -/
theorem codecName?_by_subtype_rebound :
    let registrations : List Registration :=
      [⟨"a/x", "one"⟩, ⟨"b/v+x; q", "two"⟩, ⟨"c/x", ""⟩, ⟨"a/y", "three"⟩]
    let field (name value : String) : HeaderField :=
      ⟨name, value.toList.map fun c => UInt8.ofNat c.toNat⟩
    let unbound := field "Content-Type" "a/z"
    let noText := field "content-type" "a/é"
    let found := field "content-TYPE" "text/xml; a"
    let last := field "content-type" "a/json"
    let headers := [unbound, noText, found, last]
    (standard.registerAll registrations).codecName? "d/x" = some "two" ∧
      (standard.registerAll registrations).codecName? "text/json" = some "json" ∧
      standard.codecForHeader? headers "Content-type" = some "xml" ∧
      standard.codecName? "image/svg+xml;a/b+c" = standard.codecName? "image/xml" := by
  intro registrations field unbound noText found last headers
  obtain ⟨hregister, hheader, hsame⟩ := codecName?_by_subtype standard
  refine ⟨?_, ?_, ?_, ?_⟩
  · rw [hregister]
    decide
  · rw [hregister]
    decide
  · have hfound : standard.HasCodec found "Content-type" "xml" :=
      ⟨by decide, "text/xml; a", by decide, by decide⟩
    have hunbound : unbound.text? = some "a/z" := by decide
    have hnone : standard.codecName? "a/z" = none := by decide
    have hnoText : noText.text? = none := by decide
    have hothers : ∀ other ∈ [unbound, noText], ∀ codec,
        ¬ standard.HasCodec other "Content-type" codec := by
      rintro other hother codec ⟨-, text, htext, hcodec⟩
      rcases List.mem_cons.1 hother with rfl | hother
      · rw [hunbound] at htext
        cases htext
        rw [hnone] at hcodec
        cases hcodec
      · rw [List.mem_singleton.1 hother, hnoText] at htext
        cases htext
    exact ((hheader headers "Content-type").1 "xml").2
      ⟨[unbound, noText], found, [last], rfl, hfound, hothers⟩
  · exact (hsame "image" "image" "svg" "xml" "a/b+c" (by decide) (by decide) (by decide)
      (by decide) (by decide) (by decide) (by decide) (by decide)).2.2

/-! ## Malformed types -/

/-- A registry before any registration. -/
def IsInitial (r : CodecRegistry) : Prop :=
  r = standard ∨ r = empty

theorem IsInitial.codecName?_eq_none {r : CodecRegistry} (h : r.IsInitial) {mediaType : String}
    (hmalformed : Media.IsMalformed mediaType) : r.codecName? mediaType = none := by
  rw [codecName?, Media.subtype_of_isMalformed hmalformed]
  rcases h with rfl | rfl
  · decide
  · rfl

/-- The name that a run of registrations gives to the empty subtype: the last one. -/
def emptySubtypeName? (registrations : List Registration) : Option String :=
  (registrations.filter (·.namesEmptySubtype)).getLast?.map (·.name)

theorem emptySubtypeName?_eq_none_iff {registrations : List Registration} :
    emptySubtypeName? registrations = none ↔
      ∀ registration ∈ registrations, registration.namesEmptySubtype = false := by
  rw [emptySubtypeName?, Option.map_eq_none_iff, List.getLast?_eq_none_iff, List.filter_eq_nil_iff]
  simp only [Bool.not_eq_true]

theorem codecName?_registerAll_of_isMalformed {start : CodecRegistry} (hstart : start.IsInitial)
    (registrations : List Registration) {mediaType : String}
    (h : Media.IsMalformed mediaType) :
    (start.registerAll registrations).codecName? mediaType = emptySubtypeName? registrations := by
  have hnames : (fun registration : Registration => registration.names mediaType)
      = (·.namesEmptySubtype) := by
    funext registration
    exact registration.names_of_isMalformed h
  rw [codecName?_registerAll, hnames, hstart.codecName?_eq_none h, Option.or_none,
    emptySubtypeName?]

/-- A registration under a malformed type is one of the empty subtype. -/
theorem codecName?_register_of_isMalformed (r : CodecRegistry) {registration : Registration}
    (h : Media.IsMalformed registration.mediaType) (mediaType : String) :
    (r.register registration.mediaType registration.name).codecName? mediaType
      = if registration.name ≠ "" ∧ Media.subtype mediaType = "" then some registration.name
        else r.codecName? mediaType := by
  have hnames : registration.names mediaType = true ↔
      registration.name ≠ "" ∧ Media.subtype mediaType = "" := by
    rw [Registration.names, Media.subtype_of_isMalformed h, Bool.and_eq_true, beq_iff_eq]
    refine and_congr ?_ eq_comm
    simp
  rw [codecName?_register]
  by_cases hname : registration.names mediaType = true
  · rw [if_pos hname, if_pos (hnames.1 hname)]
  · rw [if_neg hname, if_neg (mt hnames.2 hname)]

/-- The codecs of a header with one value in the middle. -/
theorem codecForHeader?_append_cons (r : CodecRegistry) (before : List HeaderField)
    (field : HeaderField) (after : List HeaderField) (name : String) :
    r.codecForHeader? (before ++ field :: after) name
      = ((r.codecForHeader? before name).or (r.fieldCodec? name field)).or
          (r.codecForHeader? after name) := by
  simp only [codecForHeader?_eq, List.findSome?_append, List.findSome?_cons, Option.or_assoc]
  cases r.fieldCodec? name field <;> rfl

/-- A value without a codec is skipped. -/
theorem codecForHeader?_skip (r : CodecRegistry) (before : List HeaderField) {field : HeaderField}
    (after : List HeaderField) {name : String} (h : r.fieldCodec? name field = none) :
    r.codecForHeader? (before ++ field :: after) name
      = r.codecForHeader? (before ++ after) name := by
  rw [codecForHeader?_append_cons, h, Option.or_none]
  simp only [codecForHeader?_eq, List.findSome?_append]

/-- What a value that is text gives to a header. -/
theorem fieldCodec?_of_text? (r : CodecRegistry) {field : HeaderField} {text : String}
    (h : field.text? = some text) (name : String) :
    r.fieldCodec? name field = if field.IsNamed name then r.codecName? text else none := by
  rw [fieldCodec?, h, Option.bind_some]
  by_cases hname : field.IsNamed name
  · rw [if_pos hname]
    exact if_pos hname
  · rw [if_neg hname]
    exact if_neg hname

/--
**Malformed media types have the codec that is registered for the empty subtype, if there is one.**

* After any registrations in an initial registry, all malformed types have the name that the last
  registration of the empty subtype gave to it. They have none just if there is no such
  registration.
* In a header, a malformed value gives that codec where no value in front of it gives one; it is
  skipped if the empty subtype has no name.
* A registration under a malformed type changes the codecs of types of the empty subtype alone, and
  with the empty name no codec at all.
-/
theorem codecName?_of_isMalformed {start : CodecRegistry} (hstart : start.IsInitial)
    (registrations : List Registration) :
    let r := start.registerAll registrations
    let shared := emptySubtypeName? registrations
    (shared = none ↔
      ∀ registration ∈ registrations, registration.namesEmptySubtype = false) ∧
    (∀ mediaType, Media.IsMalformed mediaType → r.codecName? mediaType = shared) ∧
    (∀ before field after text name,
      HeaderField.text? field = some text → Media.IsMalformed text →
      (field.IsNamed name → r.codecForHeader? (before ++ field :: after) name
        = ((r.codecForHeader? before name).or shared).or (r.codecForHeader? after name)) ∧
      (shared = none → r.codecForHeader? (before ++ field :: after) name
        = r.codecForHeader? (before ++ after) name)) ∧
    ∀ registration : Registration, Media.IsMalformed registration.mediaType → ∀ mediaType,
      (r.register registration.mediaType registration.name).codecName? mediaType
        = if registration.name ≠ "" ∧ Media.subtype mediaType = "" then some registration.name
          else r.codecName? mediaType := by
  intro r shared
  have hshared : ∀ mediaType, Media.IsMalformed mediaType → r.codecName? mediaType = shared :=
    fun mediaType h => codecName?_registerAll_of_isMalformed hstart registrations h
  refine ⟨emptySubtypeName?_eq_none_iff, hshared, ?_,
    fun registration h => r.codecName?_register_of_isMalformed h⟩
  intro before field after text name htext hmalformed
  have hfield := r.fieldCodec?_of_text? htext name
  rw [hshared text hmalformed] at hfield
  constructor
  · intro hname
    rw [if_pos hname] at hfield
    rw [codecForHeader?_append_cons, hfield]
  · intro hnone
    rw [hnone, ite_self] at hfield
    exact r.codecForHeader?_skip before after hfield

/-- The empty subtype named twice and once by nothing, and a run that does not name it. -/
theorem codecName?_of_isMalformed_named :
    let named : List Registration :=
      [⟨"json", "x"⟩, ⟨"a/;q", "y"⟩, ⟨"b;c/d", ""⟩, ⟨"a/b", "z"⟩]
    let unnamed : List Registration := [⟨"a/b", "z"⟩, ⟨"json", ""⟩]
    let field (value : String) : HeaderField :=
      ⟨"Content-Type", value.toList.map fun c => UInt8.ofNat c.toNat⟩
    let malformed := field "d;e/f"
    let headers := [field "a/z", malformed, field "text/b"]
    standard.IsInitial ∧ malformed.text? = some "d;e/f" ∧ Media.IsMalformed "d;e/f" ∧
      malformed.IsNamed "content-type" ∧
      (standard.registerAll named).codecName? "d;e/f" = some "y" ∧
      (standard.registerAll named).codecForHeader? [malformed, field "text/b"] "content-type"
        = some "y" ∧
      emptySubtypeName? unnamed = none ∧
      (standard.registerAll unnamed).codecForHeader? headers "content-type"
        = (standard.registerAll unnamed).codecForHeader? [field "a/z", field "text/b"]
            "content-type" ∧
      ((standard.registerAll named).register "json" "w").codecName? "text/b" = some "z" := by
  intro named unnamed field malformed headers
  have hinitial : standard.IsInitial := .inl rfl
  have htext : malformed.text? = some "d;e/f" := by decide
  have hmalformed : Media.IsMalformed "d;e/f" := by decide
  have hnamed : malformed.IsNamed "content-type" := by decide
  obtain ⟨-, hname, hheader, hregister⟩ := codecName?_of_isMalformed hinitial named
  obtain ⟨hnone, -, hskip, -⟩ := codecName?_of_isMalformed hinitial unnamed
  have hunnamed : emptySubtypeName? unnamed = none := hnone.2 (by decide)
  refine ⟨hinitial, htext, hmalformed, hnamed, ?_, ?_, hunnamed, ?_, ?_⟩
  · rw [hname "d;e/f" hmalformed]
    decide
  · exact (hheader [] malformed [field "text/b"] "d;e/f" "content-type" htext hmalformed).1 hnamed
  · exact (hskip [field "a/z"] malformed [field "text/b"] "d;e/f" "content-type" htext
      hmalformed).2 hunnamed
  · refine (hregister ⟨"json", "w"⟩ (by decide) "text/b").trans ?_
    decide

/-- One registration under a text without a slash is found under another. -/
theorem codecName?_empty_subtype :
    Media.IsMalformed "json" ∧ Media.IsMalformed "charset=utf-8; text/plain" ∧
      (empty.register "json" "x").codecName? "charset=utf-8; text/plain" = some "x" := by
  decide

end CodecRegistry

end UrlQuery
