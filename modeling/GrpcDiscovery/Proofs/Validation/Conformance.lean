import GrpcDiscovery.Proofs.Template.Accepted

namespace GrpcDiscovery

/-!
# Conforming requests

What a request must look like is said here without the check: an object conforms to a
message if each of its members holds a value of the field that its key selects. The
check reports faults in two ways, of a value as a whole and of what is inside it, and
it reports none just when the request conforms.
-/

/--
Every JSON value has a property if every array has it whose items do, and every object
whose members' values do.
-/
theorem Json.induction
    {motive : Json → Prop}
    (null : motive .null)
    (bool : ∀ value, motive (.bool value))
    (number : ∀ value, motive (.number value))
    (string : ∀ text, motive (.string text))
    (array : ∀ items, (∀ item ∈ items, motive item) → motive (.array items))
    (object : ∀ members, (∀ member ∈ members, motive member.2) → motive (.object members)) :
    (value : Json) →
    motive value
  | .null =>
      null
  | .bool value =>
      bool value
  | .number value =>
      number value
  | .string text =>
      string text
  | .array items =>
      array items fun item _ =>
        Json.induction null bool number string array object item
  | .object members =>
      object members fun member _ =>
        Json.induction null bool number string array object member.2
termination_by value => sizeOf value
decreasing_by
  · have := List.sizeOf_lt_of_mem ‹item ∈ items›
    simp only [Json.array.sizeOf_spec]
    omega
  · have := List.sizeOf_lt_of_mem ‹member ∈ members›
    cases member
    simp only [Json.object.sizeOf_spec, Prod.mk.sizeOf_spec] at *
    omega

namespace Validation

/--
Whether a key selects a field of a message: the first of that name, or, where no field
has the name, the first with it as its JSON name.
-/
inductive Selects (schema : MessageSchema) (key : String) (field : FieldSchema) : Prop where
  | name
      {before after : List FieldSchema}
      (fields : schema.fields = before ++ field :: after)
      (isNamed : field.descriptor.name = key)
      (isFirst : ∀ other ∈ before, other.descriptor.name ≠ key)
  | jsonName
      {before after : List FieldSchema}
      (fields : schema.fields = before ++ field :: after)
      (isNamed : field.descriptor.jsonName = key)
      (isFirst : ∀ other ∈ before, other.descriptor.jsonName ≠ key)
      (noName : ∀ other ∈ schema.fields, other.descriptor.name ≠ key)

/-- Whether a value is of a kind. -/
inductive HasKind : JsonKind → Json → Prop where
  | number
      (value : JsonNumber) :
      HasKind .number (.number value)
  | boolean
      (value : Bool) :
      HasKind .boolean (.bool value)
  | string
      (text : String) :
      HasKind .string (.string text)
  | object
      (members : List (String × Json)) :
      HasKind .object (.object members)
  | enumName
      (text : String) :
      HasKind .enumString (.string text)
  | enumNumber
      (value : JsonNumber) :
      HasKind .enumString (.number value)
  | any
      (value : Json) :
      HasKind .any value

/-- Whether a value stands for one of a well-known type, as far as its kind goes. -/
inductive IsRendered : WellKnownType → Json → Prop where
  | value
      (value : Json) :
      IsRendered .value value
  | listValue
      (items : List Json) :
      IsRendered .listValue (.array items)
  | struct
      (members : List (String × Json)) :
      IsRendered .struct (.object members)
  | any
      (members : List (String × Json)) :
      IsRendered .any (.object members)
  | scalar
      {type : WellKnownType}
      {kind : JsonKind}
      {value : Json}
      (rendering : type.jsonKind? = some kind)
      (notObject : kind ≠ .object)
      (hasKind : HasKind kind value) :
      IsRendered type value

/-- Whether objects of a message may have any members. -/
def IsFreeForm (schema : MessageSchema) : Prop :=
  schema.wellKnown = some .struct ∨ schema.wellKnown = some .value ∨
    schema.wellKnown = some .any

mutual

/-- Whether a value conforms to a message. -/
inductive Conforms : MessageSchema → Json → Prop where
  | freeForm
      {schema : MessageSchema}
      (isFreeForm : IsFreeForm schema)
      (members : List (String × Json)) :
      Conforms schema (.object members)
  | members
      {schema : MessageSchema}
      {members : List (String × Json)}
      (each : ∀ member ∈ members, MemberConforms schema member.1 member.2) :
      Conforms schema (.object members)

/-- Whether the value of a key conforms to the field of a message that the key selects. -/
inductive MemberConforms : MessageSchema → String → Json → Prop where
  | unset
      {schema : MessageSchema}
      {key : String}
      {field : FieldSchema}
      (selects : Selects schema key field) :
      MemberConforms schema key .null
  | single
      {schema : MessageSchema}
      {key : String}
      {field : FieldSchema}
      {value : Json}
      (selects : Selects schema key field)
      (single : field.isRepeated = false)
      (conforms : ValueConforms field value) :
      MemberConforms schema key value
  | repeated
      {schema : MessageSchema}
      {key : String}
      {field : FieldSchema}
      {items : List Json}
      (selects : Selects schema key field)
      (repeated : field.isRepeated = true)
      (each : ∀ item ∈ items, ValueConforms field item) :
      MemberConforms schema key (.array items)

/-- Whether a value conforms to a field as one value of it. -/
inductive ValueConforms : FieldSchema → Json → Prop where
  /-- A field that leads to no message asks for a kind only. -/
  | plain
      {field : FieldSchema}
      {value : Json}
      (noMessage : field.descriptor.type.jsonKind = .object →
        ∀ schema, field.nested ≠ some (.message schema))
      (hasKind : HasKind field.descriptor.type.jsonKind value) :
      ValueConforms field value
  | wellKnown
      {field : FieldSchema}
      {schema : MessageSchema}
      {type : WellKnownType}
      {value : Json}
      (object : field.descriptor.type.jsonKind = .object)
      (nested : field.nested = some (.message schema))
      (wellKnown : schema.wellKnown = some type)
      (isRendered : IsRendered type value) :
      ValueConforms field value
  | message
      {field : FieldSchema}
      {schema : MessageSchema}
      {value : Json}
      (object : field.descriptor.type.jsonKind = .object)
      (nested : field.nested = some (.message schema))
      (ordinary : schema.wellKnown = none ∨ schema.wellKnown = some .empty)
      (conforms : Conforms schema value) :
      ValueConforms field value

end

/-! ## Fields by key -/

private theorem find?_eq_some_iff_first
    {fields : List FieldSchema}
    {field : FieldSchema}
    {nameOf : FieldSchema → String}
    {key : String} :
    fields.find? (fun field => nameOf field == key) = some field ↔
      ∃ before after, fields = before ++ field :: after ∧ nameOf field = key ∧
        ∀ other ∈ before, nameOf other ≠ key := by
  rw [List.find?_eq_some_iff_append]
  constructor
  · rintro ⟨found, before, after, rfl, isFirst⟩
    exact ⟨before, after, rfl, by simpa using found, by simpa using isFirst⟩
  · rintro ⟨before, after, rfl, found, isFirst⟩
    exact ⟨by simpa using found, before, after, rfl, by simpa using isFirst⟩

/-- The field of a key is the one that it selects. -/
theorem field?_eq_some_iff_selects
    {schema : MessageSchema}
    {key : String}
    {field : FieldSchema} :
    schema.field? key = some field ↔ Selects schema key field := by
  rw [MessageSchema.field?]
  cases named : schema.fields.find? fun field => field.descriptor.name == key with
  | some first =>
      constructor
      · rintro ⟨⟩
        obtain ⟨before, after, fields, isNamed, isFirst⟩ :=
          find?_eq_some_iff_first.mp named
        exact .name fields isNamed isFirst
      · intro selects
        cases selects with
        | name fields isNamed isFirst =>
            exact named.symm.trans
              (find?_eq_some_iff_first.mpr ⟨_, _, fields, isNamed, isFirst⟩)
        | jsonName _ _ _ noName =>
            have isNamed := List.find?_some named
            exact absurd (beq_iff_eq.mp isNamed)
              (noName first (List.mem_of_find?_eq_some named))
  | none =>
      have noName : ∀ other ∈ schema.fields, other.descriptor.name ≠ key := by
        simpa using named
      dsimp only
      rw [find?_eq_some_iff_first]
      constructor
      · rintro ⟨before, after, fields, isNamed, isFirst⟩
        exact .jsonName fields isNamed isFirst noName
      · intro selects
        cases selects with
        | name fields isNamed _ =>
            refine absurd isNamed (noName field ?_)
            rw [fields]
            exact List.mem_append_right _ List.mem_cons_self
        | jsonName fields isNamed isFirst _ =>
            exact ⟨_, _, fields, isNamed, isFirst⟩

/-! ## One value -/

/-- A value is of a kind when the check finds it to be. -/
theorem isOfKind_iff_hasKind
    {kind : JsonKind}
    {value : Json} :
    isOfKind value kind = true ↔ HasKind kind value := by
  constructor
  · intro ofKind
    cases kind <;> cases value <;> first | constructor | cases ofKind
  · intro hasKind
    cases hasKind <;> rfl

/-- Whether the check has nothing to say about a value, neither as a whole nor inside. -/
def Expectation.IsMetAt
    (expectation : Expectation)
    (path : String)
    (value : Json) :
    Prop :=
  expectation.mismatch? value = none ∧ insideFaults path expectation value = []

variable {path : String} {value : Json}

theorem Expectation.valueOf_isMetAt_iff {kind : JsonKind} :
    (Expectation.valueOf kind).IsMetAt path value ↔ HasKind kind value := by
  rw [← isOfKind_iff_hasKind]
  constructor
  · rintro ⟨noMismatch, _⟩
    simpa [mismatch?] using noMismatch
  · intro ofKind
    exact ⟨(accepts_valueOf ofKind).1, (accepts_valueOf ofKind).2 path⟩

theorem Expectation.anyArray_isMetAt_iff :
    Expectation.anyArray.IsMetAt path value ↔ ∃ items, value = .array items := by
  cases value <;> simp [IsMetAt, mismatch?, Json.isArray, insideFaults]

/-- Of a message the members are checked. -/
theorem Expectation.message_isMetAt_iff {schema : MessageSchema} :
    (Expectation.message schema).IsMetAt path value ↔
      ∃ members, value = .object members ∧ memberFaults (path ++ ".") schema members = [] := by
  cases value <;> simp [IsMetAt, mismatch?, Json.isObject, insideFaults]

/-- A type with a kind of its own is rendered as a value of the kind. -/
theorem isRendered_iff_hasKind
    {type : WellKnownType}
    {kind : JsonKind}
    (rendering : type.jsonKind? = some kind)
    (notEmpty : type ≠ .empty) :
    IsRendered type value ↔ HasKind kind value := by
  constructor
  · intro isRendered
    cases isRendered with
    | value =>
        cases rendering
    | listValue =>
        cases rendering
    | struct members =>
        cases rendering
        exact .object members
    | any members =>
        cases rendering
        exact .object members
    | scalar sameRendering _ hasKind =>
        rw [rendering] at sameRendering
        cases sameRendering
        exact hasKind
  · intro hasKind
    by_cases object : kind = .object
    · -- Of the types that are rendered as objects, `Empty` is left out.
      subst object
      cases hasKind with
      | object members =>
          cases type with
          | empty =>
              exact absurd rfl notEmpty
          | struct =>
              exact .struct members
          | any =>
              exact .any members
          | _ =>
              cases rendering
    · exact .scalar rendering object hasKind

/-- A well-known type that is not checked member by member asks for its rendering. -/
theorem Expectation.ofWellKnown_isMetAt_iff
    {type : WellKnownType}
    (notEmpty : type ≠ .empty) :
    (Expectation.ofWellKnown type).IsMetAt path value ↔ IsRendered type value := by
  cases type with
  | value =>
      rw [ofWellKnown, valueOf_isMetAt_iff]
      exact ⟨fun _ => .value value, fun _ => .any value⟩
  | listValue =>
      rw [ofWellKnown, anyArray_isMetAt_iff]
      constructor
      · rintro ⟨items, rfl⟩
        exact .listValue items
      · intro isRendered
        cases isRendered with
        | listValue items =>
            exact ⟨items, rfl⟩
        | scalar rendering =>
            cases rendering
  | _ =>
      exact valueOf_isMetAt_iff.trans (isRendered_iff_hasKind rfl notEmpty).symm

/-! ## What conformance to a field comes to -/

variable {field : FieldSchema} {schema : MessageSchema}

theorem not_isFreeForm_of_ordinary
    (ordinary : schema.wellKnown = none ∨ schema.wellKnown = some .empty) :
    ¬ IsFreeForm schema := by
  rcases ordinary with wellKnown | wellKnown <;> simp [IsFreeForm, wellKnown]

theorem Expectation.ofField_of_ordinary
    (object : field.descriptor.type.jsonKind = .object)
    (nested : field.nested = some (.message schema))
    (ordinary : schema.wellKnown = none ∨ schema.wellKnown = some .empty) :
    Expectation.ofField field = .message schema := by
  rcases ordinary with wellKnown | wellKnown <;>
    simp only [Expectation.ofField, object, nested, wellKnown]

theorem Expectation.ofField_of_wellKnown
    {type : WellKnownType}
    (object : field.descriptor.type.jsonKind = .object)
    (nested : field.nested = some (.message schema))
    (wellKnown : schema.wellKnown = some type)
    (notEmpty : type ≠ .empty) :
    Expectation.ofField field = .ofWellKnown type := by
  simp only [Expectation.ofField, object, nested, wellKnown]

theorem valueConforms_iff_of_noMessage
    (noMessage : field.descriptor.type.jsonKind = .object →
      ∀ schema, field.nested ≠ some (.message schema)) :
    ValueConforms field value ↔ HasKind field.descriptor.type.jsonKind value := by
  constructor
  · intro conforms
    cases conforms with
    | plain _ hasKind =>
        exact hasKind
    | wellKnown object nested =>
        exact absurd nested (noMessage object _)
    | message object nested =>
        exact absurd nested (noMessage object _)
  · exact .plain noMessage

theorem valueConforms_iff_of_wellKnown
    {type : WellKnownType}
    (object : field.descriptor.type.jsonKind = .object)
    (nested : field.nested = some (.message schema))
    (wellKnown : schema.wellKnown = some type)
    (notEmpty : type ≠ .empty) :
    ValueConforms field value ↔ IsRendered type value := by
  constructor
  · intro conforms
    cases conforms with
    | plain noMessage _ =>
        exact absurd nested (noMessage object _)
    | wellKnown _ otherNested otherWellKnown isRendered =>
        rw [nested] at otherNested
        cases otherNested
        rw [wellKnown] at otherWellKnown
        cases otherWellKnown
        exact isRendered
    | message _ otherNested ordinary _ =>
        rw [nested] at otherNested
        cases otherNested
        simp [wellKnown, notEmpty] at ordinary
  · exact .wellKnown object nested wellKnown

theorem valueConforms_iff_of_ordinary
    (object : field.descriptor.type.jsonKind = .object)
    (nested : field.nested = some (.message schema))
    (ordinary : schema.wellKnown = none ∨ schema.wellKnown = some .empty) :
    ValueConforms field value ↔ Conforms schema value := by
  constructor
  · intro conforms
    cases conforms with
    | plain noMessage _ =>
        exact absurd nested (noMessage object _)
    | wellKnown _ otherNested wellKnown isRendered =>
        rw [nested] at otherNested
        cases otherNested
        -- Nothing is a rendering of `Empty`.
        rw [wellKnown] at ordinary
        simp only [reduceCtorEq, Option.some.injEq, false_or] at ordinary
        subst ordinary
        cases isRendered with
        | scalar rendering notObject _ =>
            cases rendering
            exact absurd rfl notObject
    | message _ otherNested _ conforms =>
        rw [nested] at otherNested
        cases otherNested
        exact conforms
  · exact .message object nested ordinary

theorem conforms_iff_of_not_freeForm
    (notFreeForm : ¬ IsFreeForm schema) :
    Conforms schema value ↔
      ∃ members, value = .object members ∧
        ∀ member ∈ members, MemberConforms schema member.1 member.2 := by
  constructor
  · intro conforms
    cases conforms with
    | freeForm isFreeForm =>
        exact absurd isFreeForm notFreeForm
    | members each =>
        exact ⟨_, rfl, each⟩
  · rintro ⟨members, rfl, each⟩
    exact .members each

/-! ## Faults of items and members -/

/-- The items of an array have no faults when the check has nothing to say about any. -/
theorem itemFaults_eq_nil_iff
    {expectation : Expectation}
    (index : Nat)
    (items : List Json) :
    itemFaults path expectation index items = [] ↔
      ∀ item ∈ items, expectation.IsMetAt path item := by
  induction items generalizing index with
  | nil =>
      simp [itemFaults]
  | cons item rest inductionHypothesis =>
      rw [itemFaults, List.append_eq_nil_iff, inductionHypothesis, List.forall_mem_cons,
        Expectation.IsMetAt]
      refine and_congr_left fun _ => ?_
      cases expectation.mismatch? item <;> simp

theorem memberFaults_cons
    (scope : String)
    (schema : MessageSchema)
    (member : String × Json)
    (rest : List (String × Json)) :
    memberFaults scope schema (member :: rest) =
      memberFaults scope schema [member] ++ memberFaults scope schema rest := by
  obtain ⟨key, value⟩ := member
  rw [memberFaults, memberFaults, memberFaults, List.append_nil]

/-- Members have no faults when none of them has any. -/
theorem memberFaults_eq_nil_iff
    (scope : String)
    (members : List (String × Json)) :
    memberFaults scope schema members = [] ↔
      ∀ member ∈ members, memberFaults scope schema [member] = [] := by
  induction members with
  | nil =>
      rw [memberFaults]
      simp only [List.not_mem_nil, false_implies, implies_true]
  | cons member rest inductionHypothesis =>
      rw [memberFaults_cons, List.append_eq_nil_iff, inductionHypothesis,
        List.forall_mem_cons]

/-- A member has no faults when its key names a field that is unset or held. -/
theorem memberFaults_singleton_eq_nil_iff
    {scope key : String} :
    memberFaults scope schema [(key, value)] = [] ↔
      ∃ field, schema.field? key = some field ∧
        (value = .null ∨
          field.isRepeated = false ∧
            (Expectation.ofField field).IsMetAt (scope ++ key) value ∨
          field.isRepeated = true ∧
            ∃ items, value = .array items ∧
              ∀ item ∈ items, (Expectation.ofField field).IsMetAt (scope ++ key) item) := by
  rw [memberFaults, memberFaults, List.append_nil]
  cases schema.field? key with
  | none =>
      simp
  | some field =>
      simp only [Option.some.injEq, exists_eq_left']
      cases repeated : field.isRepeated with
      | true =>
          cases value <;> simp [Json.isNull, itemFaults_eq_nil_iff]
      | false =>
          rw [Expectation.IsMetAt]
          cases (Expectation.ofField field).mismatch? value <;>
            cases value <;> simp [Json.isNull]

/-! ## The check -/

/-- Whether the check of a value as one value of a field finds out if it conforms. -/
def IsChecked (value : Json) : Prop :=
  ∀ path field, (Expectation.ofField field).IsMetAt path value ↔ ValueConforms field value

/-- Whether the items of a value that is an array are checked. -/
def HasCheckedItems (value : Json) : Prop :=
  ∀ items, value = .array items → ∀ item ∈ items, IsChecked item

/-- Whether the check of a value that is an object finds out if the members conform. -/
def HasCheckedMembers (value : Json) : Prop :=
  ∀ members, value = .object members → ∀ scope schema,
    memberFaults scope schema members = [] ↔
      ∀ member ∈ members, MemberConforms schema member.1 member.2

/-- A member is checked if its value is, and so are the items of its value. -/
theorem memberFaults_singleton_eq_nil_iff_conforms
    (isChecked : IsChecked value)
    (itemsChecked : HasCheckedItems value)
    (scope key : String) :
    memberFaults scope schema [(key, value)] = [] ↔ MemberConforms schema key value := by
  rw [memberFaults_singleton_eq_nil_iff]
  constructor
  · rintro ⟨field, found, rfl | ⟨single, met⟩ | ⟨repeated, items, rfl, each⟩⟩
    · exact .unset (field?_eq_some_iff_selects.mp found)
    · exact .single (field?_eq_some_iff_selects.mp found) single
        ((isChecked _ _).mp met)
    · exact .repeated (field?_eq_some_iff_selects.mp found) repeated
        fun item inside => (itemsChecked _ rfl item inside _ _).mp (each item inside)
  · intro conforms
    cases conforms with
    | unset selects =>
        exact ⟨_, field?_eq_some_iff_selects.mpr selects, .inl rfl⟩
    | single selects single conforms =>
        exact ⟨_, field?_eq_some_iff_selects.mpr selects,
          .inr (.inl ⟨single, (isChecked _ _).mpr conforms⟩)⟩
    | repeated selects repeated each =>
        exact ⟨_, field?_eq_some_iff_selects.mpr selects,
          .inr (.inr ⟨repeated, _, rfl, fun item inside =>
            (itemsChecked _ rfl item inside _ _).mpr (each item inside)⟩)⟩

/-- Members are checked if their values are, and so are the items of these. -/
theorem memberFaults_eq_nil_iff_conforms
    {members : List (String × Json)}
    (valuesChecked : ∀ member ∈ members, IsChecked member.2 ∧ HasCheckedItems member.2)
    (scope : String)
    (schema : MessageSchema) :
    memberFaults scope schema members = [] ↔
      ∀ member ∈ members, MemberConforms schema member.1 member.2 := by
  rw [memberFaults_eq_nil_iff]
  refine forall₂_congr fun member inside => ?_
  exact memberFaults_singleton_eq_nil_iff_conforms (valuesChecked member inside).1
    (valuesChecked member inside).2 scope member.1

/-- An expectation of a message that is not free-form is met by what conforms to it. -/
theorem message_isMetAt_iff_conforms
    (membersChecked : HasCheckedMembers value)
    (notFreeForm : ¬ IsFreeForm schema) :
    (Expectation.message schema).IsMetAt path value ↔ Conforms schema value := by
  rw [Expectation.message_isMetAt_iff, conforms_iff_of_not_freeForm notFreeForm]
  refine exists_congr fun members => and_congr_right fun isObject => ?_
  exact membersChecked members isObject _ schema

/-- A value is checked if the members are that it may have. -/
theorem isChecked_of_members
    (membersChecked : HasCheckedMembers value) :
    IsChecked value := by
  intro path field
  by_cases noMessage : field.descriptor.type.jsonKind = .object →
      ∀ schema, field.nested ≠ some (.message schema)
  · rw [Template.ofField_eq_valueOf field noMessage, Expectation.valueOf_isMetAt_iff,
      valueConforms_iff_of_noMessage noMessage]
  · simp only [Classical.not_imp, Classical.not_forall, Classical.not_not] at noMessage
    obtain ⟨object, schema, nested⟩ := noMessage
    by_cases ordinary : schema.wellKnown = none ∨ schema.wellKnown = some .empty
    · rw [Expectation.ofField_of_ordinary object nested ordinary,
        valueConforms_iff_of_ordinary object nested ordinary]
      exact message_isMetAt_iff_conforms membersChecked (not_isFreeForm_of_ordinary ordinary)
    · rw [not_or] at ordinary
      obtain ⟨type, wellKnown⟩ := Option.ne_none_iff_exists'.mp ordinary.1
      have notEmpty : type ≠ .empty := by
        rintro rfl
        exact ordinary.2 wellKnown
      rw [Expectation.ofField_of_wellKnown object nested wellKnown notEmpty,
        Expectation.ofWellKnown_isMetAt_iff notEmpty,
        valueConforms_iff_of_wellKnown object nested wellKnown notEmpty]

/--
Every value is checked, and so are the items of an array. The items take part in the
induction, for an array that a repeated field holds is checked item by item.
-/
theorem isChecked_and_items
    (value : Json) :
    IsChecked value ∧ HasCheckedItems value := by
  induction value using Json.induction with
  | array items inductionHypothesis =>
      have itemsChecked : HasCheckedItems (.array items) := by
        rintro _ ⟨⟩ item inside
        exact (inductionHypothesis item inside).1
      exact ⟨isChecked_of_members nofun, itemsChecked⟩
  | object members inductionHypothesis =>
      have membersChecked : HasCheckedMembers (.object members) := by
        rintro _ ⟨⟩
        exact memberFaults_eq_nil_iff_conforms inductionHypothesis
      exact ⟨isChecked_of_members membersChecked, nofun⟩
  | _ =>
      exact ⟨isChecked_of_members nofun, nofun⟩

end Validation

open Validation

/-- The check of an object is that of its members, unless it may have any. -/
theorem MessageSchema.isValid_validate_object_iff
    (schema : MessageSchema)
    (members : List (String × Json)) :
    (schema.validate (.object members)).isValid = true ↔
      IsFreeForm schema ∨ memberFaults "" schema members = [] := by
  rw [validate, IsFreeForm]
  split <;> simp_all [isValid]

/-- A request is valid just when it conforms to the message. -/
theorem MessageSchema.isValid_validate_iff_conforms
    (schema : MessageSchema)
    (candidate : Json) :
    (schema.validate candidate).isValid = true ↔ Conforms schema candidate := by
  cases candidate with
  | object members =>
      rw [isValid_validate_object_iff]
      by_cases isFreeForm : IsFreeForm schema
      · exact ⟨fun _ => .freeForm isFreeForm members, fun _ => .inl isFreeForm⟩
      · have membersChecked :
            memberFaults "" schema members = [] ↔
              ∀ member ∈ members, MemberConforms schema member.1 member.2 :=
          memberFaults_eq_nil_iff_conforms
            (fun member _ => isChecked_and_items member.2) "" schema
        rw [conforms_iff_of_not_freeForm isFreeForm, membersChecked]
        simp [isFreeForm]
  | _ =>
      exact ⟨nofun, nofun⟩

end GrpcDiscovery
