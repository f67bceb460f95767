import GrpcDiscovery.Proofs.Validation.Conformance
import Mathlib.Data.List.Basic

namespace GrpcDiscovery

/-!
# Faults by key and by path

The check of an object goes key by key, and the faults of one key do not depend on the
other keys. What is inside a message is checked as if the message stood alone; only the
paths of its faults are longer by the keys that lead to it. Both hold of the faults, and
so of the wordings that are reported: there the longer path shows as a text that is put
in right before the path, which stands behind `Field '` or behind `Unknown field: `.
-/

/-- A fault as it is reported of a value that a path leads to. -/
def Fault.under (outer : String) : Fault → Fault
  | .notAnObject =>
      .notAnObject
  | .unknownField path =>
      .unknownField (outer ++ path)
  | .notAnArray path =>
      .notAnArray (outer ++ path)
  | .wrongKind path expected found =>
      .wrongKind (outer ++ path) expected found
  | .wrongItemKind path index expected found =>
      .wrongItemKind (outer ++ path) index expected found

theorem Fault.under_empty (fault : Fault) : fault.under "" = fault := by
  cases fault <;> simp only [under, String.empty_append]

theorem Fault.under_append
    (outer inner : String)
    (fault : Fault) :
    fault.under (outer ++ inner) = (fault.under inner).under outer := by
  cases fault <;> simp only [under, String.append_assoc]

/-- A value as the only one behind keys, each in an object of its own. -/
def Json.behind
    (keys : List String)
    (value : Json) :
    Json :=
  keys.foldr (fun key inner => .object [(key, inner)]) value

namespace Validation

/-! ## Paths inside of wordings -/

/-- A text with a path in front of the path that it reports, if it reports one. -/
def insertPath (outer text : String) : String :=
  match text.toList.dropPrefix? "Field '".toList with
  | some rest =>
      "Field '" ++ outer ++ String.ofList rest
  | none =>
      match text.toList.dropPrefix? "Unknown field: ".toList with
      | some rest =>
          "Unknown field: " ++ outer ++ String.ofList rest
      | none =>
          text

theorem insertPath_field (outer rest : String) :
    insertPath outer ("Field '" ++ rest) = "Field '" ++ outer ++ rest := by
  have label : ("Field '" ++ rest).toList.dropPrefix? "Field '".toList = some rest.toList := by
    rw [String.toList_append]
    exact List.dropPrefix?_append_of_beq _ (beq_self_eq_true _)
  rw [insertPath, label]
  simp only [String.ofList_toList]

theorem insertPath_unknownField (outer rest : String) :
    insertPath outer ("Unknown field: " ++ rest) = "Unknown field: " ++ outer ++ rest := by
  have other : ("Unknown field: " ++ rest).toList.dropPrefix? "Field '".toList = none := by
    rw [String.toList_append]
    rfl
  have label : ("Unknown field: " ++ rest).toList.dropPrefix? "Unknown field: ".toList =
      some rest.toList := by
    rw [String.toList_append]
    exact List.dropPrefix?_append_of_beq _ (beq_self_eq_true _)
  rw [insertPath, other, label]
  simp only [String.ofList_toList]

/-- The wording of a fault under a path is its wording with the path put in. -/
theorem message_under
    (outer : String)
    (fault : Fault) :
    (fault.under outer).message = insertPath outer fault.message := by
  cases fault with
  | notAnObject =>
      rfl
  | unknownField path =>
      simp only [Fault.under, Fault.message, insertPath_unknownField, String.append_assoc]
  | _ =>
      simp only [Fault.under, Fault.message, String.append_assoc, insertPath_field]

theorem messages_under
    (outer : String)
    (faults : List Fault) :
    messages ⟨faults.map (Fault.under outer)⟩ =
      (messages ⟨faults⟩).map (insertPath outer) := by
  rw [messages, messages, List.map_map, List.map_map]
  exact List.map_congr_left fun fault _ => message_under outer fault

/-! ## Checks below a path -/

/-- What is inside a value is reported under every path that leads to the value. -/
def ReportsUnder (value : Json) : Prop :=
  ∀ outer path expectation,
    insideFaults (outer ++ path) expectation value =
      (insideFaults path expectation value).map (Fault.under outer)

/-- Items are reported under a path if what is inside each is; the count of items stays. -/
theorem itemFaults_under
    {items : List Json}
    (each : ∀ item ∈ items, ReportsUnder item)
    (outer path : String)
    (expectation : Expectation)
    (index : Nat) :
    itemFaults (outer ++ path) expectation index items =
      (itemFaults path expectation index items).map (Fault.under outer) := by
  induction items generalizing index with
  | nil =>
      rw [itemFaults, itemFaults, List.map_nil]
  | cons item rest inductionHypothesis =>
      rw [List.forall_mem_cons] at each
      rw [itemFaults, itemFaults, List.map_append, inductionHypothesis each.2]
      congr 1
      cases expectation.mismatch? item with
      | some expected =>
          rfl
      | none =>
          exact each.1 outer path expectation

/-- A value and, if it is an array, its items report under paths. -/
structure ReportsUnderWithItems (value : Json) : Prop where
  itself : ReportsUnder value
  items : ∀ items, value = .array items → ∀ item ∈ items, ReportsUnder item

/-- The faults of the value of a field, at a path. -/
def fieldFaults
    (path : String)
    (field : FieldSchema)
    (value : Json) :
    List Fault :=
  if value.isNull then
    []
  else if field.isRepeated then
    match value with
    | .array items =>
        itemFaults path (.ofField field) 0 items
    | _ =>
        [.notAnArray path]
  else
    match (Expectation.ofField field).mismatch? value with
    | some expected =>
        [.wrongKind path expected value.kindName]
    | none =>
        insideFaults path (.ofField field) value

/-- A key that selects no field is unknown. -/
theorem memberFaults_of_no_field
    {schema : MessageSchema}
    {key : String}
    (missing : schema.field? key = none)
    (scope : String)
    (value : Json) :
    memberFaults scope schema [(key, value)] = [.unknownField (scope ++ key)] := by
  rw [memberFaults, memberFaults, List.append_nil]
  simp only [missing]

/-- A member whose key is that of a field has the faults of its value, at the key. -/
theorem memberFaults_of_field?
    {schema : MessageSchema}
    {key : String}
    {field : FieldSchema}
    (found : schema.field? key = some field)
    (scope : String)
    (value : Json) :
    memberFaults scope schema [(key, value)] = fieldFaults (scope ++ key) field value := by
  rw [memberFaults, memberFaults, List.append_nil]
  simp only [found]
  rfl

/-- The value of a field is reported under a path if what is inside it is. -/
theorem fieldFaults_under_of_value
    {value : Json}
    (reports : ReportsUnderWithItems value)
    (outer path : String)
    (field : FieldSchema) :
    fieldFaults (outer ++ path) field value =
      (fieldFaults path field value).map (Fault.under outer) := by
  unfold fieldFaults
  by_cases null : value.isNull
  · simp only [null, if_true, List.map_nil]
  by_cases repeated : field.isRepeated
  · simp only [null, repeated, if_true]
    cases value with
    | array items =>
        exact itemFaults_under (reports.items items rfl) outer _ _ 0
    | _ =>
        rfl
  · simp only [null, repeated]
    cases (Expectation.ofField field).mismatch? value with
    | some expected =>
        rfl
    | none =>
        exact reports.itself outer _ _

/-- Members are reported under a path if what is inside each value is. -/
theorem memberFaults_under_of_values
    {members : List (String × Json)}
    (each : ∀ member ∈ members, ReportsUnderWithItems member.2)
    (outer scope : String)
    (schema : MessageSchema) :
    memberFaults (outer ++ scope) schema members =
      (memberFaults scope schema members).map (Fault.under outer) := by
  induction members with
  | nil =>
      rw [memberFaults, memberFaults, List.map_nil]
  | cons member rest inductionHypothesis =>
      obtain ⟨key, value⟩ := member
      rw [List.forall_mem_cons] at each
      rw [memberFaults_cons (outer ++ scope), memberFaults_cons scope, List.map_append,
        inductionHypothesis each.2]
      congr 1
      cases found : schema.field? key with
      | none =>
          rw [memberFaults_of_no_field found, memberFaults_of_no_field found, String.append_assoc]
          rfl
      | some field =>
          rw [memberFaults_of_field? found, memberFaults_of_field? found, String.append_assoc,
            fieldFaults_under_of_value each.1]

/-- Every value reports under paths, by induction on it together with its items. -/
theorem reportsUnderWithItems (value : Json) : ReportsUnderWithItems value := by
  induction value using Json.induction with
  | array items inductionHypothesis =>
      refine ⟨fun _ _ _ => rfl, ?_⟩
      intro others same item member
      cases same
      exact (inductionHypothesis item member).itself
  | object members inductionHypothesis =>
      refine ⟨?_, ?_⟩
      · intro outer path expectation
        cases expectation with
        | message schema =>
            rw [insideFaults, insideFaults, String.append_assoc]
            exact memberFaults_under_of_values inductionHypothesis outer (path ++ ".") schema
        | _ =>
            rfl
      · intro items same
        cases same
  | _ =>
      refine ⟨fun _ _ _ => rfl, ?_⟩
      intro items same
      cases same

/-- The members of an object below a path have the faults of the object alone, under the path. -/
theorem memberFaults_under
    (outer : String)
    (schema : MessageSchema)
    (members : List (String × Json)) :
    memberFaults outer schema members =
      (memberFaults "" schema members).map (Fault.under outer) := by
  have each : ∀ member ∈ members, ReportsUnderWithItems member.2 :=
    fun member _ => reportsUnderWithItems member.2
  have moved := memberFaults_under_of_values each outer "" schema
  rw [String.append_empty] at moved
  exact moved

/-- The faults of members are those of each member, in order. -/
theorem memberFaults_eq_flatMap
    (scope : String)
    (schema : MessageSchema)
    (members : List (String × Json)) :
    memberFaults scope schema members =
      members.flatMap fun member => memberFaults scope schema [member] := by
  induction members with
  | nil =>
      rw [memberFaults, List.flatMap_nil]
  | cons member rest inductionHypothesis =>
      rw [memberFaults_cons, inductionHypothesis, List.flatMap_cons]

/-! ## Messages inside of messages -/

/-- A key selects a field of messages whose schema is known and not well-known. -/
structure LeadsTo
    (schema : MessageSchema)
    (key : String)
    (field : FieldSchema)
    (nested : MessageSchema) :
    Prop where
  selects : schema.field? key = some field
  ofMessages : field.descriptor.type = .message ∨ field.descriptor.type = .group
  resolved : field.nested = some (.message nested)
  ordinary : nested.wellKnown = none

variable {schema nested : MessageSchema} {key : String} {field : FieldSchema}

theorem LeadsTo.ofField_eq
    (leads : LeadsTo schema key field nested) :
    Expectation.ofField field = .message nested := by
  have object : field.descriptor.type.jsonKind = .object := by
    rcases leads.ofMessages with isMessage | isGroup
    · rw [isMessage]
      rfl
    · rw [isGroup]
      rfl
  exact Expectation.ofField_of_ordinary object leads.resolved (.inl leads.ordinary)

/-- An object in a field that is not repeated has the faults of its members below the key. -/
theorem LeadsTo.memberFaults_object
    (leads : LeadsTo schema key field nested)
    (single : field.isRepeated = false)
    (members : List (String × Json)) :
    memberFaults "" schema [(key, .object members)] =
      (memberFaults "" nested members).map (Fault.under (key ++ ".")) := by
  rw [memberFaults, memberFaults, List.append_nil, String.empty_append,
    ← memberFaults_under]
  simp only [leads.selects, Json.isNull, single, leads.ofField_eq, Expectation.mismatch?,
    Json.isObject, insideFaults, if_true, Bool.false_eq_true, if_false]

/-- The faults of one item of a repeated field of messages. -/
def faultsOfItem
    (key : String)
    (nested : MessageSchema)
    (index : Nat) :
    Json →
    List Fault
  | .object members =>
      (memberFaults "" nested members).map (Fault.under (key ++ "."))
  | item =>
      [.wrongItemKind key index "object" item.kindName]

theorem itemFaults_message
    (key : String)
    (nested : MessageSchema)
    (index : Nat)
    (items : List Json) :
    itemFaults key (.message nested) index items =
      (items.zipIdx index).flatMap fun item => faultsOfItem key nested item.2 item.1 := by
  induction items generalizing index with
  | nil =>
      rw [itemFaults, List.zipIdx_nil, List.flatMap_nil]
  | cons item rest inductionHypothesis =>
      rw [itemFaults, inductionHypothesis, List.zipIdx_cons, List.flatMap_cons]
      congr 1
      cases item with
      | object members =>
          rw [faultsOfItem, ← memberFaults_under]
          rfl
      | _ =>
          rfl

/-- An array in a repeated field has the faults of its items, in order. -/
theorem LeadsTo.memberFaults_array
    (leads : LeadsTo schema key field nested)
    (repeated : field.isRepeated = true)
    (items : List Json) :
    memberFaults "" schema [(key, .array items)] =
      items.zipIdx.flatMap fun item => faultsOfItem key nested item.2 item.1 := by
  rw [memberFaults, memberFaults, List.append_nil, String.empty_append,
    ← itemFaults_message]
  simp only [leads.selects, Json.isNull, repeated, leads.ofField_eq, if_true,
    Bool.false_eq_true, if_false]

/-- Keys that lead from a message to one inside it, through fields that are not repeated. -/
inductive Descends : MessageSchema → List String → MessageSchema → Prop where
  | here
      (schema : MessageSchema) :
      Descends schema [] schema
  | into
      {schema between inner : MessageSchema}
      {key : String}
      {field : FieldSchema}
      {keys : List String}
      (leads : LeadsTo schema key field between)
      (single : field.isRepeated = false)
      (further : Descends between keys inner) :
      Descends schema (key :: keys) inner

/-- The path that keys make, with a dot behind each. -/
def pathOf (keys : List String) : String :=
  keys.foldr (fun key path => key ++ "." ++ path) ""

theorem pathOf_cons
    (key : String)
    (keys : List String) :
    pathOf (key :: keys) = key ++ "." ++ pathOf keys :=
  rfl

/-- Behind keys an object has the faults that it has alone, by induction on the keys. -/
theorem Descends.exists_memberFaults
    {schema inner : MessageSchema}
    {keys : List String}
    (descends : Descends schema keys inner)
    (members : List (String × Json)) :
    ∃ outerMembers, Json.behind keys (.object members) = .object outerMembers ∧
      memberFaults "" schema outerMembers =
        (memberFaults "" inner members).map (Fault.under (pathOf keys)) := by
  induction descends with
  | here schema =>
      refine ⟨members, rfl, ?_⟩
      rw [pathOf, List.foldr_nil, List.map_congr_left fun fault _ => fault.under_empty,
        List.map_id']
  | @into schema between inner key field keys leads single further inductionHypothesis =>
      obtain ⟨outerMembers, same, faults⟩ := inductionHypothesis
      refine ⟨[(key, .object outerMembers)], ?_, ?_⟩
      · rw [← same]
        rfl
      · rw [leads.memberFaults_object single, faults, List.map_map, pathOf_cons]
        exact List.map_congr_left fun fault _ => (fault.under_append _ _).symm

/-! ## What is reported -/

/-- An object of a message that is not free-form has the faults of its members. -/
theorem validate_object
    {schema : MessageSchema}
    (checked : ¬ IsFreeForm schema)
    (members : List (String × Json)) :
    schema.validate (.object members) = ⟨memberFaults "" schema members⟩ := by
  rw [MessageSchema.validate]
  split <;> simp_all [IsFreeForm]

/-- What is said of one item of a repeated field of messages, given by key and position. -/
def messagesOfItem
    (key : String)
    (nested : MessageSchema)
    (index : Nat) :
    Json →
    List String
  | .object members =>
      (nested.validate (.object members)).messages.map (insertPath (key ++ "."))
  | item =>
      ["Field '" ++ key ++ "' item " ++ toString index ++ " expected object, got " ++
        item.kindName]

theorem not_isFreeForm_of_leadsTo
    {schema nested : MessageSchema}
    {key : String}
    {field : FieldSchema}
    (leads : LeadsTo schema key field nested) :
    ¬ IsFreeForm nested :=
  not_isFreeForm_of_ordinary (.inl leads.ordinary)

/-- No message behind keys is free-form. -/
theorem Descends.not_isFreeForm
    {schema inner : MessageSchema}
    {keys : List String}
    (descends : Descends schema keys inner)
    (checked : ¬ IsFreeForm schema) :
    ¬ IsFreeForm inner := by
  induction descends with
  | here schema =>
      exact checked
  | into leads single further inductionHypothesis =>
      exact inductionHypothesis (not_isFreeForm_of_leadsTo leads)

theorem messages_faultsOfItem
    {nested : MessageSchema}
    (checked : ¬ IsFreeForm nested)
    (key : String)
    (index : Nat)
    (item : Json) :
    messages ⟨faultsOfItem key nested index item⟩ = messagesOfItem key nested index item := by
  cases item with
  | object members =>
      rw [faultsOfItem, messagesOfItem, messages_under, validate_object checked]
  | _ =>
      simp [messages, faultsOfItem, messagesOfItem, Fault.message, Json.kindName,
        String.append_assoc]

theorem messages_flatMap
    {α : Type}
    (elements : List α)
    (faults : α → List Fault) :
    messages ⟨elements.flatMap faults⟩ =
      elements.flatMap fun element => messages ⟨faults element⟩ := by
  rw [messages, List.map_flatMap]
  rfl

end Validation

open Validation

/--
What is reported of an object is what is reported of each of its members alone, in order.

Of an object in a field of messages it is what is reported of the object alone, with the
key in front of every path; of an array in a repeated field of messages it is this for
every item that is an object, and one report for every other item, in order. The first
holds below any number of keys.
-/
theorem MessageSchema.validate_composes
    {schema : MessageSchema}
    (checked : ¬ IsFreeForm schema) :
    (∀ members,
      (schema.validate (.object members)).messages =
        members.flatMap fun member => (schema.validate (.object [member])).messages) ∧
    (∀ key field nested, LeadsTo schema key field nested →
      (field.isRepeated = false → ∀ members,
        (schema.validate (.object [(key, .object members)])).messages =
          (nested.validate (.object members)).messages.map (insertPath (key ++ "."))) ∧
      (field.isRepeated = true → ∀ items,
        (schema.validate (.object [(key, .array items)])).messages =
          items.zipIdx.flatMap fun item => messagesOfItem key nested item.2 item.1)) ∧
    (∀ keys inner, Descends schema keys inner → ∀ members,
      (schema.validate (Json.behind keys (.object members))).messages =
        (inner.validate (.object members)).messages.map (insertPath (pathOf keys))) := by
  refine ⟨?_, ?_, ?_⟩
  · intro members
    simp only [validate_object checked]
    rw [memberFaults_eq_flatMap, messages_flatMap]
  · intro key field nested leads
    have nestedChecked := not_isFreeForm_of_leadsTo leads
    refine ⟨?_, ?_⟩
    · intro single members
      rw [validate_object checked, validate_object nestedChecked,
        leads.memberFaults_object single, messages_under]
    · intro repeated items
      rw [validate_object checked, leads.memberFaults_array repeated, messages_flatMap]
      simp only [messages_faultsOfItem nestedChecked]
  · intro keys inner descends members
    obtain ⟨outerMembers, same, faults⟩ := descends.exists_memberFaults members
    rw [same, validate_object checked, validate_object (descends.not_isFreeForm checked), faults,
      messages_under]

namespace Validation

/-- A field of messages with a schema. -/
def fieldOfMessages
    (name : String)
    (type : FieldType)
    (label : Label)
    (schema : MessageSchema) :
    FieldSchema :=
  { FieldSchema.plain name 1 type label with nested := some (.message schema) }

/-- A message with fields and no name. -/
def messageOf (fields : List FieldSchema) : MessageSchema :=
  ⟨"", "", fields, none⟩

/-- A message with a text. -/
def leafSchema : MessageSchema :=
  messageOf [.plain "s" 1 .string .optional]

/-- A message with one message. -/
def middleSchema : MessageSchema :=
  messageOf [fieldOfMessages "m" .message .optional leafSchema]

/-- A message with one message, two levels deep, and a list of messages. -/
def outerSchema : MessageSchema :=
  messageOf
    [fieldOfMessages "a" .message .optional middleSchema,
      fieldOfMessages "b" .group .repeated leafSchema]

theorem descends_outerSchema : Descends outerSchema ["a", "m"] leafSchema :=
  .into ⟨rfl, .inl rfl, rfl, rfl⟩ rfl (.into ⟨rfl, .inl rfl, rfl, rfl⟩ rfl (.here leafSchema))

end Validation

/-- Faults two levels deep and in a list, in the order of the keys and of the items. -/
theorem MessageSchema.validate_composes_nested :
    ¬ IsFreeForm outerSchema ∧ Descends outerSchema ["a", "m"] leafSchema ∧
    (outerSchema.validate (.object
      [("a", .object [("m", .object [("s", .int 1)])]),
        ("b", .array [.object [("t", .null)], .int 2])])).messages =
      ["Field 'a.m.s' expected string, got number", "Unknown field: b.t",
        "Field 'b' item 1 expected object, got number"] := by
  have checked : ¬ IsFreeForm outerSchema := not_isFreeForm_of_ordinary (.inl rfl)
  obtain ⟨byMember, byKey, byKeys⟩ := validate_composes checked
  have deep : (outerSchema.validate (.object
      [("a", .object [("m", .object [("s", .int 1)])])])).messages =
        (leafSchema.validate (.object [("s", .int 1)])).messages.map
          (insertPath (pathOf ["a", "m"])) :=
    byKeys ["a", "m"] leafSchema descends_outerSchema [("s", .int 1)]
  have listed := (byKey "b" _ leafSchema ⟨rfl, .inr rfl, rfl, rfl⟩).2 rfl
    [.object [("t", .null)], .int 2]
  have ofText : (leafSchema.validate (.object [("s", .int 1)])).messages =
      ["Field 's' expected string, got number"] := by
    decide +kernel
  refine ⟨checked, descends_outerSchema, (byMember _).trans ?_⟩
  rw [List.flatMap_cons, List.flatMap_cons, deep, ofText, listed]
  decide +kernel

end GrpcDiscovery
