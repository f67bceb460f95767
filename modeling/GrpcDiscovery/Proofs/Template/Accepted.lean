import GrpcDiscovery.Template
import GrpcDiscovery.Validation

namespace GrpcDiscovery

/-!
# Templates are valid requests

A template and a check walk over the same schema, each with case distinctions of
its own. They agree as long as no message of the schema has two fields of one
name: the members of a template are then its fields, in order, and the check
finds under each key the field that the member was made for.
-/

namespace JsonMembers

theorem insert_of_notMem
    (key : String)
    (value : Json)
    (members : List (String × Json))
    (absent : key ∉ members.map Prod.fst) :
    insert key value members = members ++ [(key, value)] := by
  induction members with
  | nil =>
      rfl
  | cons first rest inductionHypothesis =>
      rcases first with ⟨present, old⟩
      rw [List.map_cons, List.mem_cons, not_or] at absent
      have later := inductionHypothesis absent.2
      simp [insert, Ne.symm absent.1, later]

/-- Members whose keys are new and distinct are added one after the other. -/
theorem foldl_insert_of_nodup
    (members collected : List (String × Json))
    (distinct : ((collected ++ members).map Prod.fst).Nodup) :
    members.foldl
      (fun collected member => insert member.1 member.2 collected)
      collected = collected ++ members := by
  induction members generalizing collected with
  | nil =>
      simp
  | cons first rest inductionHypothesis =>
      have absent : first.1 ∉ collected.map Prod.fst := by
        intro present
        rw [List.map_append, List.nodup_append] at distinct
        exact distinct.2.2 first.1 present first.1 (by simp) rfl
      rw [List.foldl_cons, insert_of_notMem _ _ _ absent,
        inductionHypothesis (collected ++ [first]) (by simpa using distinct)]
      simp

/-- Members with distinct keys are kept as they are. -/
theorem ofList_of_nodup
    (members : List (String × Json))
    (distinct : (members.map Prod.fst).Nodup) :
    ofList members = members :=
  foldl_insert_of_nodup members [] distinct

end JsonMembers

namespace MessageSchema

/--
No message of a schema has two fields of one name.

The messages of a schema are the one at its root and those that its fields carry.
-/
inductive DistinctNames : MessageSchema → Prop where
  | intro
      (schema : MessageSchema)
      (names : schema.fieldNames.Nodup)
      (nested : ∀ field ∈ schema.fields, ∀ message,
        field.nested = some (.message message) → DistinctNames message) :
      DistinctNames schema

theorem DistinctNames.names
    {schema : MessageSchema}
    (distinct : schema.DistinctNames) :
    schema.fieldNames.Nodup := by
  cases distinct with
  | intro _ names _ =>
      exact names

/-- Fields of distinct names are found by their names. -/
theorem field?_name_of_mem
    {schema : MessageSchema}
    {field : FieldSchema}
    (names : schema.fieldNames.Nodup)
    (member : field ∈ schema.fields) :
    schema.field? field.name = some field := by
  obtain ⟨before, after, split⟩ := List.mem_iff_append.mp member
  have notBefore : ∀ other ∈ before, other.name ≠ field.name := by
    intro other inside same
    rw [fieldNames, split, List.map_append, List.nodup_append] at names
    exact names.2.2 other.name (List.mem_map_of_mem inside) field.name (by simp) same
  have found :
      schema.fields.find? (fun other => other.descriptor.name == field.name) =
        some field := by
    rw [split, List.find?_append,
      List.find?_eq_none.mpr (by simpa [FieldSchema.name] using notBefore)]
    simp [FieldSchema.name]
  simp [field?, found]

end MessageSchema

namespace Validation

/-- A value has no fault as a single value of a field, at any path. -/
def Expectation.Accepts
    (expectation : Expectation)
    (value : Json) :
    Prop :=
  expectation.mismatch? value = none ∧
    ∀ path, insideFaults path expectation value = []

/-- A value of the kind expected has no fault where the inside is not looked at. -/
theorem Expectation.accepts_valueOf
    {kind : JsonKind}
    {value : Json}
    (ofKind : isOfKind value kind = true) :
    (Expectation.valueOf kind).Accepts value := by
  refine ⟨by simp [Expectation.mismatch?, ofKind], ?_⟩
  intro path
  cases value <;> rfl

theorem Expectation.accepts_message
    {schema : MessageSchema}
    {members : List (String × Json)}
    (accepted : ∀ scope, memberFaults scope schema members = []) :
    (Expectation.message schema).Accepts (.object members) := by
  refine ⟨rfl, ?_⟩
  intro path
  rw [insideFaults]
  exact accepted (path ++ ".")

/-- A field with one accepted placeholder, in an array where the field is repeated. -/
def holdsOne
    (field : FieldSchema)
    (value : Json) :
    Json :=
  if field.isRepeated then .array [value] else value

/-- Members that each hold one accepted value of the field of their key have no faults. -/
theorem memberFaults_eq_nil
    {schema : MessageSchema}
    {members : List (String × Json)}
    (accepted : ∀ member ∈ members, ∃ field value,
      schema.field? member.1 = some field ∧
        (Expectation.ofField field).Accepts value ∧
          member.2 = holdsOne field value)
    (scope : String) :
    memberFaults scope schema members = [] := by
  induction members with
  | nil =>
      rw [memberFaults]
  | cons first rest inductionHypothesis =>
      have later := inductionHypothesis fun member inside =>
        accepted member (List.mem_cons_of_mem first inside)
      obtain ⟨field, value, found, fits, content⟩ := accepted first List.mem_cons_self
      rcases first with ⟨key, held⟩
      obtain rfl : held = holdsOne field value := content
      rw [memberFaults, later, List.append_nil]
      by_cases repeated : field.isRepeated = true
      · simp [found, holdsOne, repeated, Json.isNull, itemFaults, fits.1, fits.2]
      · simp [found, holdsOne, repeated, fits.1, fits.2]

end Validation

namespace Template

open Validation

/-- The placeholder of a single value of a field. -/
def placeholder
    (depth : Nat)
    (field : FieldSchema) :
    Json :=
  match field.descriptor.type.jsonKind, field.nested with
  | .object, some reference =>
      ofReference depth field.name reference
  | .object, none =>
      .object []
  | .enumString, nested =>
      enumPlaceholder nested
  | _, _ =>
      scalarPlaceholder field.descriptor

/-- The member of a field holds one placeholder under the name of the field. -/
theorem ofField_eq
    (depth : Nat)
    (field : FieldSchema) :
    ofField depth field = (field.name, holdsOne field (placeholder depth field)) := by
  rcases field with ⟨descriptor, nested⟩
  cases kind : descriptor.type.jsonKind <;> cases nested <;>
    simp [ofField, placeholder, kind, holdsOne, FieldSchema.isRepeated, FieldSchema.name]

theorem ofFields_eq_map
    (depth : Nat)
    (fields : List FieldSchema) :
    ofFields depth fields = fields.map (ofField depth) := by
  induction fields with
  | nil =>
      rw [ofFields, List.map_nil]
  | cons field rest inductionHypothesis =>
      rw [ofFields, List.map_cons, inductionHypothesis]

theorem map_fst_ofField
    (depth : Nat)
    (schema : MessageSchema) :
    (schema.fields.map (ofField depth)).map Prod.fst = schema.fieldNames := by
  rw [List.map_map, MessageSchema.fieldNames]
  refine List.map_congr_left ?_
  intro field _
  rw [Function.comp_apply, ofField_eq]

/-- A message is laid out by its fields, unless it is `Any`. -/
theorem ofMessage_eq_object
    {schema : MessageSchema}
    (names : schema.fieldNames.Nodup)
    (notAny : schema.wellKnown ≠ some .any)
    (depth : Nat) :
    ofMessage depth schema = .object (schema.fields.map (ofField depth)) := by
  have distinct : ((schema.fields.map (ofField depth)).map Prod.fst).Nodup := by
    rw [map_fst_ofField]
    exact names
  rcases schema with ⟨name, fullName, fields, wellKnown⟩
  have kept := JsonMembers.ofList_of_nodup _ distinct
  rw [ofMessage, ofFields_eq_map, kept]
  intro any
  exact notAny any

/-- `Any` has its type key only. -/
theorem ofMessage_any
    {schema : MessageSchema}
    (any : schema.wellKnown = some .any)
    (depth : Nat) :
    ofMessage depth schema = .object [("@type", .string "")] := by
  rcases schema with ⟨name, fullName, fields, wellKnown⟩
  obtain rfl : wellKnown = some .any := any
  rw [ofMessage]
  rfl

/-- The placeholder of a scalar is of the kind of its type. -/
theorem scalarPlaceholder_isOfKind
    (field : FieldDescriptor)
    (notObject : field.type.jsonKind ≠ .object) :
    isOfKind (scalarPlaceholder field) field.type.jsonKind = true := by
  rw [scalarPlaceholder]
  cases type : field.type <;>
    first
    | rfl
    | exact absurd (congrArg FieldType.jsonKind type) notObject

theorem enumPlaceholder_isString (nested : Option NestedSchema) :
    (enumPlaceholder nested).isString = true := by
  rcases nested with _ | (_ | _ | _) <;> rfl

/-- The placeholder of a well-known type is of the kind that the check expects of it. -/
theorem wellKnownPlaceholder_accepted
    (type : WellKnownType)
    (notEmpty : type ≠ .empty)
    (fieldName : String) :
    (Expectation.ofWellKnown type).Accepts (wellKnownPlaceholder type fieldName) := by
  cases type with
  | empty =>
      exact absurd rfl notEmpty
  | listValue =>
      exact ⟨rfl, fun path => by rw [wellKnownPlaceholder, insideFaults]; nofun⟩
  | _ =>
      exact Expectation.accepts_valueOf rfl

/-- What is expected of a field that refers to no message is a value of its kind. -/
theorem ofField_eq_valueOf
    (field : FieldSchema)
    (noMessage : field.descriptor.type.jsonKind = .object →
      ∀ message, field.nested ≠ some (.message message)) :
    Expectation.ofField field = .valueOf field.descriptor.type.jsonKind := by
  rw [Expectation.ofField]
  split
  · rename_i message kind nested
    exact absurd nested (noMessage kind message)
  · rfl

/-- A field that refers to no message has an accepted placeholder. -/
theorem placeholder_accepted_of_noMessage
    (depth : Nat)
    (field : FieldSchema)
    (noMessage : field.descriptor.type.jsonKind = .object →
      ∀ message, field.nested ≠ some (.message message)) :
    (Expectation.ofField field).Accepts (placeholder depth field) := by
  rw [ofField_eq_valueOf field noMessage]
  apply Expectation.accepts_valueOf
  by_cases object : field.descriptor.type.jsonKind = .object
  · have shape : placeholder depth field = .object [] := by
      rcases nested : field.nested with _ | (message | _ | _)
      · simp only [placeholder, object, nested]
      · exact absurd nested (noMessage object message)
      · simp only [placeholder, object, nested, ofReference]
      · simp only [placeholder, object, nested, ofReference]
    rw [shape, object]
    rfl
  · by_cases enum : field.descriptor.type.jsonKind = .enumString
    · have shape : placeholder depth field = enumPlaceholder field.nested := by
        simp only [placeholder, enum]
      rw [shape, enum, isOfKind, enumPlaceholder_isString, Bool.true_or]
    · have shape : placeholder depth field = scalarPlaceholder field.descriptor := by
        rw [placeholder]
        split
        · contradiction
        · contradiction
        · contradiction
        · rfl
      rw [shape]
      exact scalarPlaceholder_isOfKind field.descriptor object

/-- The template of a message is an object without faults, at every depth. -/
def LaidOut (schema : MessageSchema) : Prop :=
  ∀ depth, ∃ members, ofMessage depth schema = .object members ∧
    ∀ scope, memberFaults scope schema members = []

/-- The placeholder of a message is accepted if the message can be laid out. -/
theorem ofReference_accepted
    (depth : Nat)
    (fieldName : String)
    (field : FieldSchema)
    (message : MessageSchema)
    (kind : field.descriptor.type.jsonKind = .object)
    (nested : field.nested = some (.message message))
    (laidOut : message.wellKnown = none → LaidOut message) :
    (Expectation.ofField field).Accepts
      (ofReference depth fieldName (.message message)) := by
  have emptyObject : ∀ scope, memberFaults scope message [] = [] := by
    intro scope
    rw [memberFaults]
  cases wellKnown : message.wellKnown with
  | none =>
      have expected : Expectation.ofField field = .message message := by
        simp only [Expectation.ofField, kind, nested, wellKnown]
      rw [expected]
      -- Below the last level stands an empty object, whatever the fields are.
      cases depth with
      | zero =>
          simpa only [ofReference, wellKnown] using
            Expectation.accepts_message emptyObject
      | succ depth =>
          obtain ⟨members, shape, faultless⟩ := laidOut wellKnown depth
          simpa only [ofReference, wellKnown, shape] using
            Expectation.accepts_message faultless
  | some type =>
      by_cases empty : type = .empty
      · have expected : Expectation.ofField field = .message message := by
          simp only [Expectation.ofField, kind, nested, wellKnown, empty]
        rw [expected]
        simpa only [ofReference, wellKnown, empty, wellKnownPlaceholder] using
          Expectation.accepts_message emptyObject
      · have expected : Expectation.ofField field = .ofWellKnown type := by
          simp only [Expectation.ofField, kind, nested, wellKnown]
        rw [expected]
        simpa only [ofReference, wellKnown] using
          wellKnownPlaceholder_accepted type empty fieldName

/-- Every field has an accepted placeholder if the message it carries can be laid out. -/
theorem placeholder_accepted
    (depth : Nat)
    (field : FieldSchema)
    (laidOut : ∀ message, field.nested = some (.message message) →
      message.wellKnown = none → LaidOut message) :
    (Expectation.ofField field).Accepts (placeholder depth field) := by
  by_cases carries : field.descriptor.type.jsonKind = .object ∧
      ∃ message, field.nested = some (.message message)
  · obtain ⟨kind, message, nested⟩ := carries
    have reference : placeholder depth field =
        ofReference depth field.name (.message message) := by
      simp only [placeholder, kind, nested]
    rw [reference]
    exact ofReference_accepted depth field.name field message kind nested
      (laidOut message nested)
  · refine placeholder_accepted_of_noMessage depth field ?_
    intro kind message nested
    exact carries ⟨kind, message, nested⟩

/-- A message is laid out without faults if the messages of its fields are. -/
theorem laidOut_of_fields
    {schema : MessageSchema}
    (names : schema.fieldNames.Nodup)
    (notAny : schema.wellKnown ≠ some .any)
    (nested : ∀ field ∈ schema.fields, ∀ message,
      field.nested = some (.message message) →
        message.wellKnown = none → LaidOut message) :
    LaidOut schema := by
  intro depth
  refine ⟨_, ofMessage_eq_object names notAny depth, memberFaults_eq_nil ?_⟩
  intro member inside
  obtain ⟨field, present, rfl⟩ := List.mem_map.mp inside
  rw [ofField_eq]
  exact ⟨field, placeholder depth field,
    MessageSchema.field?_name_of_mem names present,
    placeholder_accepted depth field (nested field present), rfl⟩

/-- Every message but `Any` is laid out without faults, by induction on its nesting. -/
theorem laidOut_of_distinctNames
    {schema : MessageSchema}
    (distinct : schema.DistinctNames)
    (notAny : schema.wellKnown ≠ some .any) :
    LaidOut schema := by
  induction distinct with
  | intro schema names nested inductionHypothesis =>
      refine laidOut_of_fields names notAny ?_
      intro field present message carried ordinary
      refine inductionHypothesis field present message carried ?_
      rw [ordinary]
      nofun

end Template

/--
The template of a schema is a valid request for it, at every depth.

It is an object with a member for each field, in order; for `Any`, whose fields
are not looked at, it has the type key only.
-/
theorem MessageSchema.template_isValid
    (schema : MessageSchema)
    (maxDepth : Nat)
    (distinct : schema.DistinctNames) :
    ∃ members,
      schema.template maxDepth = .object members ∧
      (schema.wellKnown ≠ some .any → members.map Prod.fst = schema.fieldNames) ∧
      (schema.validate (schema.template maxDepth)).isValid = true ∧
      (schema.validate (schema.template maxDepth)).messages = [] := by
  by_cases any : schema.wellKnown = some .any
  · have shape := Template.ofMessage_any any maxDepth
    have faultless : schema.validate (schema.template maxDepth) = ⟨[]⟩ := by
      rw [template, shape, validate, any]
    rw [faultless]
    exact ⟨_, shape, fun notAny => absurd any notAny, rfl, rfl⟩
  · have shape := Template.ofMessage_eq_object distinct.names any maxDepth
    obtain ⟨members, laidOut, accepted⟩ :=
      Template.laidOut_of_distinctNames distinct any maxDepth
    obtain rfl : members = _ := Json.object.inj (laidOut.symm.trans shape)
    have faultless : schema.validate (schema.template maxDepth) = ⟨[]⟩ := by
      rw [template, shape, validate, accepted]
      split <;> rfl
    rw [faultless]
    exact ⟨_, shape, fun _ => Template.map_fst_ofField maxDepth schema, rfl, rfl⟩

/-- A message with a text and a field of a type without a meaning. -/
def guestSchema : MessageSchema where
  name := "Guest"
  fullName := "test.Guest"
  fields := [.plain "name" 1 .string .optional, .plain "id" 2 (.unknown 99) .required]
  wellKnown := none

/-- A message with a list of guests, a point in time and a reference that is not resolved. -/
def visitSchema : MessageSchema where
  name := "Visit"
  fullName := "test.Visit"
  fields := [
    { FieldSchema.plain "guests" 1 .message .repeated with
      nested := some (.message guestSchema) },
    { FieldSchema.plain "at" 2 .message .optional with
      nested := some (.message (.ofWellKnown .timestamp)) },
    { FieldSchema.plain "host" 3 .group .optional with
      nested := some .unresolved }]
  wellKnown := none

/-- The template of a visit with one level below it is a valid visit. -/
theorem MessageSchema.template_isValid_visit :
    visitSchema.DistinctNames ∧
      (∃ members, visitSchema.template 1 = .object members ∧
        members.map Prod.fst = ["guests", "at", "host"]) ∧
      (visitSchema.validate (visitSchema.template 1)).isValid = true := by
  have distinct : visitSchema.DistinctNames := by
    refine .intro _ (by decide) ?_
    simp only [visitSchema, List.forall_mem_cons, Option.some.injEq,
      NestedSchema.message.injEq, forall_eq']
    refine ⟨?_, ?_, ?_⟩
    · refine .intro _ (by decide) ?_
      simp [guestSchema, FieldSchema.plain]
    · refine .intro _ (by decide) ?_
      simp [ofWellKnown, ofWellKnownFields, wellKnownFields, secondsAndNanos,
        FieldSchema.plain]
    · simp
  obtain ⟨members, shape, keys, valid, _⟩ := template_isValid visitSchema 1 distinct
  exact ⟨distinct, ⟨members, shape, keys nofun⟩, valid⟩

end GrpcDiscovery
