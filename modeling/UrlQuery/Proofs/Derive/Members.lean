import UrlQuery.Derive.Item
import UrlQuery.Proofs.Encoding.Redacted

/-!
# Derived tables and hidden fields

Whether a field takes part in an encoding is asked twice: of the attributes, when the table of a
struct is derived (`FieldItem.takesPart`), and of the table, when a value is encoded
(`FieldRules.skipped`). Both give the same answer, so a derived table is the table of all declared
fields less the hidden ones (`members_eq_filter`), and encodes every value as that table does
(`Item.members_eq_declared`).

A field is declared under the name that its identifier spells, which may be marked as raw
(`FieldItem.plainName_eq_iff`).
-/

namespace UrlQuery

/-- Hidden fields can all be dropped at once. -/
theorem Value.fieldsRedacted_filter (fields : List (Field × Value)) :
    FieldsRedacted fields (fields.filter fun entry => !entry.1.rules.skipped) := by
  induction fields with
  | nil => exact .nil
  | cons entry rest ih =>
    obtain ⟨field, value⟩ := entry
    cases hskipped : field.rules.skipped with
    | true =>
      rw [List.filter_cons_of_neg (by simp [hskipped])]
      exact .dropped (.inl (Field.skipped_iff.1 hskipped)) ih
    | false =>
      rw [List.filter_cons_of_pos (by simp [hskipped])]
      exact .cons field (.same value) ih

namespace Derive

/-! ## Declared fields -/

/-- The field that an item declares by a name, whether it takes part or not. The word that skips it
stands as the tag that does. -/
def FieldItem.declared (item : FieldItem) (rule : Option RenameRule) (name : String)
    (options : FieldOptions) : Field :=
  { name := rule.elim name fun rule => rule.apply name
    tag := if options.skip then "-" else options.tag.getD ""
    layout := options.layout
    delimiter := options.del
    exported := !item.isPrivate
    embedded := options.flatten }

/-- The table of all fields of some items, in order. -/
def declaredMembers (rule : Option RenameRule) (names : FieldItem → String)
    (options : FieldItem → FieldOptions) (items : List FieldItem) : List Member :=
  items.map fun item => (item.identifier, item.declared rule (names item) (options item))

/-- The item is a struct with named fields, and its attributes are valid: those of the struct set
the rule, and those of each field say its options. The identifiers of the fields spell their
names. -/
structure Item.Declares (item : Item) (rule : Option RenameRule) (names : FieldItem → String)
    (options : FieldItem → FieldOptions) : Prop where
  named : item.shape = .named
  check : item.check = .ok ()
  rule : renameRule? item.attributes = .ok rule
  names : ∀ field ∈ item.fields, Spells (names field) field.identifier
  options : ∀ field ∈ item.fields, FieldOptions.ofAttributes field.attributes = .ok (options field)

/-! ## Names -/

/-- **The plain name of a field is the name that its identifier spells.** -/
theorem FieldItem.plainName_eq_iff {item : FieldItem} {name : String} :
    item.plainName = name ↔ Spells name item.identifier := by
  rw [plainName]
  generalize item.identifier = identifier
  constructor
  · rintro rfl
    split
    · next rest hrest =>
      have hraw : identifier = "r#" ++ String.ofList rest := by
        rw [← String.toList_inj, hrest]
        simp
      exact hraw ▸ .raw
    · next hplain =>
      refine .plain fun ⟨rest, hrest⟩ => hplain rest.toList ?_
      rw [hrest]
      simp
  · intro h
    cases h with
    | raw => simp
    | plain hplain =>
      split
      · next rest hrest =>
        refine absurd ⟨String.ofList rest, ?_⟩ hplain
        rw [← String.toList_inj, hrest]
        simp
      · rfl

/-! ## One question, two answers -/

/-- **A field takes part just if it is not hidden as it is declared.** -/
theorem FieldItem.takesPart_eq (item : FieldItem) (rule : Option RenameRule) (name : String)
    (options : FieldOptions) :
    item.takesPart options = !(item.declared rule name options).rules.skipped := by
  have htag : (item.declared rule name options).tag = "-"
      ↔ options.skip = true ∨ options.tag = some "-" := by
    unfold declared
    cases options.skip with
    | true => simp
    | false => cases options.tag <;> simp
  rw [Bool.eq_iff_iff, Bool.not_eq_true', ← Bool.not_eq_true, Field.skipped_iff, Field.IsHidden,
    htag]
  cases hprivate : item.isPrivate <;>
    simp [takesPart, FieldOptions.isSkipped, declared, not_or, hprivate]

/-- A field that takes part is in the table as it is declared. -/
theorem FieldItem.field_eq_declared {item : FieldItem} {name : String} {options : FieldOptions}
    (hname : Spells name item.identifier) (htakes : item.takesPart options = true)
    (rule : Option RenameRule) :
    item.field rule options = item.declared rule name options := by
  obtain rfl : item.plainName = name := plainName_eq_iff.2 hname
  have hskip : options.skip = false := by
    cases hs : options.skip with
    | false => rfl
    | true => simp [takesPart, FieldOptions.isSkipped, hs] at htakes
  cases rule <;> simp [field, declared, hskip]

/-! ## Tables -/

/-- The table of some items begins with the first, if it takes part. -/
theorem members_cons {rule : Option RenameRule} {item : FieldItem} {rest : List FieldItem}
    {options : FieldOptions} {others : List Member}
    (hitem : FieldOptions.ofAttributes item.attributes = .ok options)
    (hrest : members rule rest = .ok others) :
    members rule (item :: rest)
      = .ok (if item.takesPart options then (item.identifier, item.field rule options) :: others
          else others) := by
  rw [members, hitem, hrest]
  rfl

/-- **A derived table is that of all declared fields, less the hidden ones.** -/
theorem members_eq_filter (rule : Option RenameRule) {names : FieldItem → String}
    {options : FieldItem → FieldOptions} :
    ∀ {items : List FieldItem}, (∀ item ∈ items, Spells (names item) item.identifier) →
      (∀ item ∈ items, FieldOptions.ofAttributes item.attributes = .ok (options item)) →
        members rule items
          = .ok ((declaredMembers rule names options items).filter fun member =>
              !member.2.rules.skipped)
  | [], _, _ => rfl
  | item :: rest, hnames, hoptions => by
    obtain ⟨hname, hnames⟩ := List.forall_mem_cons.1 hnames
    obtain ⟨hitem, hoptions⟩ := List.forall_mem_cons.1 hoptions
    have hdeclared : declaredMembers rule names options (item :: rest)
        = (item.identifier, item.declared rule (names item) (options item))
          :: declaredMembers rule names options rest := rfl
    rw [members_cons hitem (members_eq_filter rule hnames hoptions), hdeclared, List.filter_cons,
      ← item.takesPart_eq rule (names item) (options item)]
    split
    · next htakes => rw [FieldItem.field_eq_declared hname htakes]
    · rfl

/-- A table is derived only where the attributes of all fields are valid. -/
theorem ofAttributes_of_members {rule : Option RenameRule} :
    ∀ {items : List FieldItem} {table : List Member}, members rule items = .ok table →
      ∀ item ∈ items, ∃ options, FieldOptions.ofAttributes item.attributes = .ok options
  | first :: rest, table, h, item, hmem => by
    rw [members] at h
    cases hfirst : FieldOptions.ofAttributes first.attributes with
    | error e => rw [hfirst] at h; cases h
    | ok options =>
      cases hothers : members rule rest with
      | error e => rw [hfirst, hothers] at h; cases h
      | ok others =>
        rcases List.mem_cons.1 hmem with rfl | hmem
        · exact ⟨options, hfirst⟩
        · exact ofAttributes_of_members hothers item hmem

/-- The table of an item that declares fields. -/
theorem Item.members_of_declares {item : Item} {rule : Option RenameRule}
    {names : FieldItem → String} {options : FieldItem → FieldOptions}
    (h : item.Declares rule names options) :
    item.members = .ok ((declaredMembers rule names options item.fields).filter fun member =>
      !member.2.rules.skipped) := by
  rw [Item.members, h.check, h.rule, h.named]
  exact members_eq_filter rule h.names h.options

/-- **A table is derived just for structs with named fields and valid attributes.** -/
theorem Item.members_ok_iff {item : Item} :
    (∃ table, item.members = .ok table) ↔
      ∃ rule names options, item.Declares rule names options := by
  refine ⟨fun ⟨table, htable⟩ => ?_,
    fun ⟨rule, names, options, h⟩ => ⟨_, item.members_of_declares h⟩⟩
  rw [Item.members] at htable
  cases hcheck : item.check with
  | error e => rw [hcheck] at htable; cases htable
  | ok =>
    cases hrule : renameRule? item.attributes with
    | error e => rw [hcheck, hrule] at htable; cases htable
    | ok rule =>
      rw [hcheck, hrule] at htable
      cases hshape : item.shape with
      | named =>
        rw [hshape] at htable
        refine ⟨rule, FieldItem.plainName,
          fun field => (FieldOptions.ofAttributes field.attributes).toOption.getD {},
          hshape, hcheck, hrule, fun field _ => FieldItem.plainName_eq_iff.1 rfl,
          fun field hfield => ?_⟩
        obtain ⟨options, hoptions⟩ := ofAttributes_of_members htable field hfield
        rw [hoptions]
        rfl
      | tuple | unit | enumeration | union => rw [hshape] at htable; cases htable

/-! ## Encoding by a table -/

/-- Whatever its members hold, a struct is encoded by the table of its declared fields as by that of
those which are not hidden. -/
theorem structValue_redacted (table : List Member) (valueOf : String → Value) :
    (structValue table valueOf).Redacted
      (structValue (table.filter fun member => !member.2.rules.skipped) valueOf) := by
  have hfilter := Value.fieldsRedacted_filter
    (table.map fun member => (member.2, valueOf member.1))
  rw [List.filter_map] at hfilter
  exact .struct hfilter

/--
**A derived table encodes as the table of all declared fields.**

* A table is derived just for structs with named fields and valid attributes.
* Whatever the fields hold, it gives the same result as the table that lists all of them under the
  names that their identifiers spell, and leaves the same parameters.
* It lists no hidden field, and it is a part of that table in the same order.
-/
theorem Item.members_eq_declared (item : Item) :
    ((∃ table, item.members = .ok table) ↔
      ∃ rule names options, item.Declares rule names options) ∧
    ∀ rule names options, item.Declares rule names options →
      ∃ table, item.members = .ok table ∧
        (∀ (valueOf : String → Value) (config : Config) (p : Params),
          (structValue table valueOf).encodeInto config p
            = (structValue (declaredMembers rule names options item.fields) valueOf).encodeInto
                config p) ∧
        (∀ member ∈ table, member.2.rules.skipped = false) ∧
        table.Sublist (declaredMembers rule names options item.fields) := by
  refine ⟨members_ok_iff, fun rule names options h => ⟨_, members_of_declares h, ?_, ?_, ?_⟩⟩
  · intro valueOf config p
    rw [Value.encodeInto_eq, Value.encodeInto_eq,
      Encoding.rootSteps_redacted config.scopeJoin (structValue_redacted _ valueOf)]
  · intro member hmember
    simpa using (List.mem_filter.1 hmember).2
  · exact List.filter_sublist

/-- Of six fields two are hidden: a private one, and one that a word skips although it has a tag.
One of the two raw identifiers shows its name, and the tag of the other stands for it. -/
theorem Item.members_eq_declared_renamed :
    let item : Item :=
      { attributes := [.query [.assignment "rename_all" "camelCase"]]
        fields := [
          { identifier := "page_size", attributes := [.query [.literal ",omitempty"]] },
          { identifier := "r#type" },
          { identifier := "r#ref", attributes := [.query [.literal "-,"]] },
          { identifier := "base", isPrivate := true, attributes := [.query [.word "flatten"]] },
          { identifier := "secret", isPrivate := true },
          { identifier := "old", attributes := [.query [.word "skip"], .query [.literal "o"]] }] }
    let names (field : FieldItem) :=
      if field.identifier = "r#type" then "type"
      else if field.identifier = "r#ref" then "ref" else field.identifier
    let options (field : FieldItem) :=
      (FieldOptions.ofAttributes field.attributes).toOption.getD {}
    item.Declares (some .camelCase) names options ∧
      ∃ table, item.members = .ok table ∧
        table.map (·.1) = ["page_size", "r#type", "r#ref", "base"] ∧
        (structValue table .text).encodeInto {} Params.empty
          = (structValue (declaredMembers (some .camelCase) names options item.fields)
              .text).encodeInto {} Params.empty ∧
        (structValue table .text).encodeInto {} Params.empty
          = (.ok (), Params.ofPairs [("pageSize", "page_size"), ("type", "r#type"), ("-", "r#ref"),
              ("base", "base")]) := by
  intro item names options
  have h : item.Declares (some .camelCase) names options := by
    refine ⟨rfl, rfl, rfl, fun field hfield => FieldItem.plainName_eq_iff.1 ?_,
      fun field hfield => ?_⟩
    all_goals
      simp only [item, List.mem_cons, List.not_mem_nil, or_false] at hfield
      rcases hfield with rfl | rfl | rfl | rfl | rfl | rfl <;> rfl
  obtain ⟨table, htable, hencode, -, -⟩ := item.members_eq_declared.2 _ _ _ h
  have hresult := hencode .text {} Params.empty
  have hmembers := item.members_of_declares h
  rw [htable] at hmembers
  cases hmembers
  subst options names item
  exact ⟨h, _, htable, rfl, hresult, rfl⟩

end Derive

end UrlQuery
