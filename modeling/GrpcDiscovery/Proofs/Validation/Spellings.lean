import GrpcDiscovery.Proofs.Validation.Paths

namespace GrpcDiscovery

/-!
# Spellings of keys

A key may spell a field by its name or by its JSON name. Where no spelling of a field is
one of another field, it makes no difference which of the two is used: the check finds the
same faults in the same order, and only in the faults of that key and of what is behind it
does the path show the spelling.
-/

/-- A key is the name of a field or its JSON name. -/
def FieldSchema.IsSpelledAs
    (field : FieldSchema)
    (key : String) :
    Prop :=
  key = field.name ∨ key = field.descriptor.jsonName

/-- No spelling of one field is a spelling of the other. -/
structure FieldSchema.IsSpelledApart (field other : FieldSchema) : Prop where
  names : field.name ≠ other.name
  nameJsonName : field.name ≠ other.descriptor.jsonName
  jsonNameName : field.descriptor.jsonName ≠ other.name
  jsonNames : field.descriptor.jsonName ≠ other.descriptor.jsonName

theorem FieldSchema.IsSpelledApart.symm
    {field other : FieldSchema}
    (apart : field.IsSpelledApart other) :
    other.IsSpelledApart field where
  names := apart.names.symm
  nameJsonName := apart.jsonNameName.symm
  jsonNameName := apart.nameJsonName.symm
  jsonNames := apart.jsonNames.symm

namespace MessageSchema

/-- The fields of each message of a schema are spelled apart. -/
inductive IsUnambiguous : MessageSchema → Prop where
  | intro
      (schema : MessageSchema)
      (fields : schema.fields.Pairwise FieldSchema.IsSpelledApart)
      (nested : ∀ field ∈ schema.fields, ∀ message,
        field.nested = some (.message message) → IsUnambiguous message) :
      IsUnambiguous schema

/-- A field is found by each of its spellings, if fields are spelled apart. -/
theorem field?_of_isSpelledAs
    {schema : MessageSchema}
    {field : FieldSchema}
    {key : String}
    (fields : schema.fields.Pairwise FieldSchema.IsSpelledApart)
    (member : field ∈ schema.fields)
    (spelled : field.IsSpelledAs key) :
    schema.field? key = some field := by
  obtain ⟨before, after, split⟩ := List.mem_iff_append.mp member
  rw [split, List.pairwise_append, List.pairwise_cons] at fields
  have apartBefore (other : FieldSchema) (inside : other ∈ before) : other.IsSpelledApart field :=
    fields.2.2 other inside field List.mem_cons_self
  have apartAfter (other : FieldSchema) (inside : other ∈ after) : other.IsSpelledApart field :=
    (fields.2.1.1 other inside).symm
  rw [Validation.field?_eq_some_iff_selects]
  have byName : Validation.Selects schema field.name field :=
    .name split rfl fun other inside => (apartBefore other inside).names
  rcases spelled with rfl | rfl
  · exact byName
  · by_cases same : field.name = field.descriptor.jsonName
    · rwa [← same]
    refine .jsonName split rfl (fun other inside => (apartBefore other inside).jsonNames) ?_
    intro other inside
    rw [split, List.mem_append, List.mem_cons] at inside
    rcases inside with inBefore | rfl | inAfter
    · exact (apartBefore other inBefore).nameJsonName
    · exact same
    · exact (apartAfter other inAfter).nameJsonName

end MessageSchema

namespace Fault

/-- The path that a fault reports, if it reports one. -/
def path? : Fault → Option String
  | .notAnObject =>
      none
  | .unknownField path =>
      some path
  | .notAnArray path =>
      some path
  | .wrongKind path _ _ =>
      some path
  | .wrongItemKind path _ _ _ =>
      some path

/-- A fault of a value itself, or of what is inside, whose path goes on behind a dot. -/
inductive IsWithin : Fault → Prop where
  | atValue
      {fault : Fault}
      (path : fault.path? = some "") :
      IsWithin fault
  | inside
      (fault : Fault) :
      IsWithin (fault.under ".")

end Fault

namespace Validation

/-! ## Faults that differ in a path -/

/-- Lists of the same faults, but that some in a row are reported of one path or the other. -/
inductive DifferAt (path other : String) : List Fault → List Fault → Prop where
  | intro
      (before inside after : List Fault)
      (within : ∀ fault ∈ inside, fault.IsWithin) :
      DifferAt path other
        (before ++ inside.map (Fault.under path) ++ after)
        (before ++ inside.map (Fault.under other) ++ after)

namespace DifferAt

variable {path other : String} {faults others : List Fault}

theorem refl (faults : List Fault) : DifferAt path other faults faults := by
  have differ : DifferAt path other (faults ++ [] ++ []) (faults ++ [] ++ []) :=
    .intro faults [] [] nofun
  rwa [List.append_nil, List.append_nil] at differ

theorem of_within
    {inside : List Fault}
    (within : ∀ fault ∈ inside, fault.IsWithin) :
    DifferAt path other (inside.map (Fault.under path)) (inside.map (Fault.under other)) := by
  simpa using DifferAt.intro [] inside [] within

theorem between
    (differ : DifferAt path other faults others)
    (front back : List Fault) :
    DifferAt path other (front ++ faults ++ back) (front ++ others ++ back) := by
  cases differ with
  | intro before inside after within =>
      simpa using DifferAt.intro (front ++ before) inside (after ++ back) within

theorem under
    (differ : DifferAt path other faults others)
    (outer : String) :
    DifferAt (outer ++ path) (outer ++ other) (faults.map (Fault.under outer))
      (others.map (Fault.under outer)) := by
  cases differ with
  | intro before inside after within =>
      have joined (inner : String) :
          inside.map (Fault.under (outer ++ inner)) =
            (inside.map (Fault.under inner)).map (Fault.under outer) := by
        rw [List.map_map]
        exact List.map_congr_left fun fault _ => fault.under_append outer inner
      rw [List.map_append, List.map_append, List.map_append, List.map_append, ← joined, ← joined]
      exact .intro (before.map (Fault.under outer)) inside (after.map (Fault.under outer)) within

end DifferAt

/-! ## Objects with one key spelled another way -/

/--
Two lists of members differ in the spelling of one key of a field, in themselves or in an
object to which the given keys lead through fields of messages and the items of arrays.
-/
inductive IsRespelled :
    MessageSchema →
    List String →
    String →
    String →
    List (String × Json) →
    List (String × Json) →
    Prop where
  | here
      {schema : MessageSchema}
      {field : FieldSchema}
      {key other : String}
      (member : field ∈ schema.fields)
      (spelled : field.IsSpelledAs key)
      (respelled : field.IsSpelledAs other)
      (before after : List (String × Json))
      (value : Json) :
      IsRespelled schema [] key other
        (before ++ (key, value) :: after) (before ++ (other, value) :: after)
  | inObject
      {schema message : MessageSchema}
      {field : FieldSchema}
      {outer key other : String}
      {keys : List String}
      {members others : List (String × Json)}
      (member : field ∈ schema.fields)
      (spelled : field.IsSpelledAs outer)
      (nested : field.nested = some (.message message))
      (inside : IsRespelled message keys key other members others)
      (before after : List (String × Json)) :
      IsRespelled schema (outer :: keys) key other
        (before ++ (outer, .object members) :: after)
        (before ++ (outer, .object others) :: after)
  | inItem
      {schema message : MessageSchema}
      {field : FieldSchema}
      {outer key other : String}
      {keys : List String}
      {members others : List (String × Json)}
      (member : field ∈ schema.fields)
      (spelled : field.IsSpelledAs outer)
      (nested : field.nested = some (.message message))
      (inside : IsRespelled message keys key other members others)
      (before after : List (String × Json))
      (front back : List Json) :
      IsRespelled schema (outer :: keys) key other
        (before ++ (outer, .array (front ++ .object members :: back)) :: after)
        (before ++ (outer, .array (front ++ .object others :: back)) :: after)

/-! ## Faults of one member -/

theorem memberFaults_append
    (scope : String)
    (schema : MessageSchema)
    (members others : List (String × Json)) :
    memberFaults scope schema (members ++ others) =
      memberFaults scope schema members ++ memberFaults scope schema others := by
  rw [memberFaults_eq_flatMap, List.flatMap_append, ← memberFaults_eq_flatMap,
    ← memberFaults_eq_flatMap]

theorem itemFaults_append
    (path : String)
    (expectation : Expectation)
    (index : Nat)
    (items others : List Json) :
    itemFaults path expectation index (items ++ others) =
      itemFaults path expectation index items ++
        itemFaults path expectation (index + items.length) others := by
  induction items generalizing index with
  | nil =>
      rw [itemFaults]
      rfl
  | cons item rest inductionHypothesis =>
      rw [List.cons_append, itemFaults, itemFaults, inductionHypothesis, List.append_assoc,
        List.length_cons, Nat.add_assoc, Nat.add_comm 1]

/-- What is found inside of a value has a path that goes on. -/
theorem isWithin_of_mem_insideFaults
    {expectation : Expectation}
    {value : Json}
    {fault : Fault}
    (found : fault ∈ insideFaults "" expectation value) :
    fault.IsWithin := by
  cases value with
  | object members =>
      cases expectation with
      | message schema =>
          rw [insideFaults, String.empty_append, memberFaults_under] at found
          obtain ⟨inner, _, rfl⟩ := List.mem_map.mp found
          exact .inside inner
      | _ =>
          exact absurd found List.not_mem_nil
  | _ =>
      exact absurd found List.not_mem_nil

theorem isWithin_of_mem_itemFaults
    {expectation : Expectation}
    {index : Nat}
    {items : List Json}
    {fault : Fault}
    (found : fault ∈ itemFaults "" expectation index items) :
    fault.IsWithin := by
  induction items generalizing index with
  | nil =>
      rw [itemFaults] at found
      cases found
  | cons item rest inductionHypothesis =>
      rw [itemFaults, List.mem_append] at found
      rcases found with ofItem | ofRest
      · cases mismatch : expectation.mismatch? item with
        | some expected =>
            simp only [mismatch, List.mem_singleton] at ofItem
            subst ofItem
            exact .atValue rfl
        | none =>
            simp only [mismatch] at ofItem
            exact isWithin_of_mem_insideFaults ofItem
      · exact inductionHypothesis ofRest

/-- The faults of a value are of it or of what is inside. -/
theorem isWithin_of_mem_fieldFaults
    {field : FieldSchema}
    {value : Json}
    {fault : Fault}
    (found : fault ∈ fieldFaults "" field value) :
    fault.IsWithin := by
  unfold fieldFaults at found
  split at found
  · cases found
  split at found
  · split at found
    · exact isWithin_of_mem_itemFaults found
    · obtain rfl := List.mem_singleton.mp found
      exact .atValue rfl
  · split at found
    · obtain rfl := List.mem_singleton.mp found
      exact .atValue rfl
    · exact isWithin_of_mem_insideFaults found

/-- Another key of the same field makes a difference in the key only. -/
theorem differAt_memberFaults_of_field?
    {schema : MessageSchema}
    {field : FieldSchema}
    {key other : String}
    (found : schema.field? key = some field)
    (otherFound : schema.field? other = some field)
    (value : Json) :
    DifferAt key other (memberFaults "" schema [(key, value)])
      (memberFaults "" schema [(other, value)]) := by
  have moved (path : String) :
      fieldFaults path field value = (fieldFaults "" field value).map (Fault.under path) := by
    have moved := fieldFaults_under_of_value (reportsUnderWithItems value) path "" field
    rwa [String.append_empty] at moved
  rw [memberFaults_of_field? found, memberFaults_of_field? otherFound, String.empty_append,
    String.empty_append, moved key, moved other]
  exact .of_within fun fault => isWithin_of_mem_fieldFaults

/-! ## Faults of objects that differ inside -/

/-- Objects are all of the same kinds. -/
theorem Expectation.mismatch?_object
    (expectation : Expectation)
    (members others : List (String × Json)) :
    expectation.mismatch? (.object members) = expectation.mismatch? (.object others) := by
  cases expectation with
  | valueOf kind =>
      cases kind <;> rfl
  | _ =>
      rfl

/-- So are arrays. -/
theorem Expectation.mismatch?_array
    (expectation : Expectation)
    (items others : List Json) :
    expectation.mismatch? (.array items) = expectation.mismatch? (.array others) := by
  cases expectation with
  | valueOf kind =>
      cases kind <;> rfl
  | _ =>
      rfl

/-- Members are only checked against the schema that a field carries. -/
theorem nested_of_ofField_eq_message
    {field : FieldSchema}
    {schema : MessageSchema}
    (checked : Expectation.ofField field = .message schema) :
    field.nested = some (.message schema) := by
  unfold Expectation.ofField at checked
  split at checked
  · rename_i message _ nested
    split at checked
    · cases checked
      exact nested
    · cases checked
      exact nested
    · unfold Expectation.ofWellKnown at checked
      split at checked <;> cases checked
  · cases checked

section Inside

variable {field : FieldSchema} {message : MessageSchema} {path other : String}
variable {members others : List (String × Json)}

/-- A difference between members is one between the objects, behind the key of the objects. -/
theorem differAt_insideFaults
    (nested : field.nested = some (.message message))
    (differ : DifferAt path other (memberFaults "" message members)
      (memberFaults "" message others))
    (key : String) :
    DifferAt (key ++ "." ++ path) (key ++ "." ++ other)
      (insideFaults key (.ofField field) (.object members))
      (insideFaults key (.ofField field) (.object others)) := by
  cases expectation : Expectation.ofField field with
  | message schema =>
      have same := nested_of_ofField_eq_message expectation
      rw [nested] at same
      cases same
      rw [insideFaults, insideFaults, memberFaults_under, memberFaults_under (key ++ ".") _ others]
      exact differ.under (key ++ ".")
  | _ =>
      exact .refl []

theorem differAt_fieldFaults_object
    (nested : field.nested = some (.message message))
    (differ : DifferAt path other (memberFaults "" message members)
      (memberFaults "" message others))
    (key : String) :
    DifferAt (key ++ "." ++ path) (key ++ "." ++ other)
      (fieldFaults key field (.object members)) (fieldFaults key field (.object others)) := by
  unfold fieldFaults
  simp only [Json.isNull, Bool.false_eq_true, if_false,
    (Expectation.ofField field).mismatch?_object members others]
  by_cases repeated : field.isRepeated
  · simp only [repeated, if_true]
    exact .refl [.notAnArray key]
  · simp only [repeated]
    cases (Expectation.ofField field).mismatch? (.object others) with
    | some expected =>
        exact .refl [.wrongKind key expected "object"]
    | none =>
        exact differAt_insideFaults nested differ key

theorem differAt_itemFaults
    (nested : field.nested = some (.message message))
    (differ : DifferAt path other (memberFaults "" message members)
      (memberFaults "" message others))
    (key : String)
    (front back : List Json) :
    DifferAt (key ++ "." ++ path) (key ++ "." ++ other)
      (itemFaults key (.ofField field) 0 (front ++ .object members :: back))
      (itemFaults key (.ofField field) 0 (front ++ .object others :: back)) := by
  rw [itemFaults_append, itemFaults_append, itemFaults, itemFaults, ← List.append_assoc,
    ← List.append_assoc, (Expectation.ofField field).mismatch?_object members others]
  refine DifferAt.between ?_ _ _
  cases (Expectation.ofField field).mismatch? (.object others) with
  | some expected =>
      exact .refl [.wrongItemKind key (0 + front.length) expected "object"]
  | none =>
      exact differAt_insideFaults nested differ key

theorem differAt_fieldFaults_array
    (nested : field.nested = some (.message message))
    (differ : DifferAt path other (memberFaults "" message members)
      (memberFaults "" message others))
    (key : String)
    (front back : List Json) :
    DifferAt (key ++ "." ++ path) (key ++ "." ++ other)
      (fieldFaults key field (.array (front ++ .object members :: back)))
      (fieldFaults key field (.array (front ++ .object others :: back))) := by
  unfold fieldFaults
  simp only [Json.isNull, Bool.false_eq_true, if_false,
    (Expectation.ofField field).mismatch?_array (front ++ .object members :: back)
      (front ++ .object others :: back)]
  by_cases repeated : field.isRepeated
  · simp only [repeated, if_true]
    exact differAt_itemFaults nested differ key front back
  · simp only [repeated]
    cases (Expectation.ofField field).mismatch? (.array (front ++ .object others :: back)) with
    | some expected =>
        exact .refl [.wrongKind key expected "array"]
    | none =>
        exact .refl []

end Inside

namespace DifferAt

variable {path other : String}

/-- A difference in one member is one in the whole object. -/
theorem ofMember
    {schema : MessageSchema}
    {member otherMember : String × Json}
    (differ : DifferAt path other (memberFaults "" schema [member])
      (memberFaults "" schema [otherMember]))
    (before after : List (String × Json)) :
    DifferAt path other (memberFaults "" schema (before ++ member :: after))
      (memberFaults "" schema (before ++ otherMember :: after)) := by
  rw [memberFaults_append, memberFaults_append, memberFaults_cons "" schema member,
    memberFaults_cons "" schema otherMember, ← List.append_assoc, ← List.append_assoc]
  exact differ.between _ _

/-- A difference in the value of a field is one in the whole object. -/
theorem ofField
    {schema : MessageSchema}
    {field : FieldSchema}
    {key : String}
    {value otherValue : Json}
    (found : schema.field? key = some field)
    (differ : DifferAt path other (fieldFaults key field value)
      (fieldFaults key field otherValue))
    (before after : List (String × Json)) :
    DifferAt path other (memberFaults "" schema (before ++ (key, value) :: after))
      (memberFaults "" schema (before ++ (key, otherValue) :: after)) := by
  refine ofMember ?_ before after
  rw [memberFaults_of_field? found, memberFaults_of_field? found, String.empty_append]
  exact differ

theorem length_eq
    {faults others : List Fault}
    (differ : DifferAt path other faults others) :
    others.length = faults.length := by
  cases differ with
  | intro before inside after within =>
      simp only [List.length_append, List.length_map]

/-- The wordings differ where the faults do. -/
theorem exists_messages
    {faults others : List Fault}
    (differ : DifferAt path other faults others) :
    ∃ (before after : List String) (inside : List Fault),
      (∀ fault ∈ inside, fault.IsWithin) ∧
      messages ⟨faults⟩ =
        before ++ inside.map (fun fault => (fault.under path).message) ++ after ∧
      messages ⟨others⟩ =
        before ++ inside.map (fun fault => (fault.under other).message) ++ after := by
  cases differ with
  | intro before inside after within =>
      refine ⟨before.map Fault.message, after.map Fault.message, inside, within, ?_, ?_⟩
      · simp only [messages, List.map_append, List.map_map, Function.comp_def]
      · simp only [messages, List.map_append, List.map_map, Function.comp_def]

end DifferAt

theorem pathOf_cons_append
    (key : String)
    (keys : List String)
    (last : String) :
    pathOf (key :: keys) ++ last = key ++ "." ++ (pathOf keys ++ last) := by
  rw [pathOf_cons, String.append_assoc]

/-- Objects that differ in a spelling differ in faults there, by induction on the way to it. -/
theorem IsRespelled.differAt
    {schema : MessageSchema}
    {keys : List String}
    {key other : String}
    {members others : List (String × Json)}
    (respelled : IsRespelled schema keys key other members others)
    (unambiguous : schema.IsUnambiguous) :
    DifferAt (pathOf keys ++ key) (pathOf keys ++ other) (memberFaults "" schema members)
      (memberFaults "" schema others) := by
  induction respelled with
  | here member spelled respelled before after value =>
      cases unambiguous with
      | intro schema fields nested =>
          have found := MessageSchema.field?_of_isSpelledAs fields member spelled
          have otherFound := MessageSchema.field?_of_isSpelledAs fields member respelled
          rw [pathOf, List.foldr_nil, String.empty_append, String.empty_append]
          exact (differAt_memberFaults_of_field? found otherFound value).ofMember before after
  | @inObject schema message field outer key other keys members others member spelled carries
      inside before after inductionHypothesis =>
      cases unambiguous with
      | intro schema fields nested =>
          have found := MessageSchema.field?_of_isSpelledAs fields member spelled
          have differ := inductionHypothesis (nested field member message carries)
          rw [pathOf_cons_append, pathOf_cons_append]
          exact .ofField found (differAt_fieldFaults_object carries differ outer) before after
  | @inItem schema message field outer key other keys members others member spelled carries
      inside before after front back inductionHypothesis =>
      cases unambiguous with
      | intro schema fields nested =>
          have found := MessageSchema.field?_of_isSpelledAs fields member spelled
          have differ := inductionHypothesis (nested field member message carries)
          rw [pathOf_cons_append, pathOf_cons_append]
          exact .ofField found (differAt_fieldFaults_array carries differ outer front back)
            before after

theorem validate_of_isFreeForm
    {schema : MessageSchema}
    (freeForm : IsFreeForm schema)
    (members : List (String × Json)) :
    schema.validate (.object members) = ⟨[]⟩ := by
  rw [MessageSchema.validate]
  rcases freeForm with wellKnown | wellKnown | wellKnown <;> rw [wellKnown]

/-- The same holds of the check of whole requests, free-form ones among them. -/
theorem IsRespelled.differAt_validate
    {schema : MessageSchema}
    {keys : List String}
    {key other : String}
    {members others : List (String × Json)}
    (respelled : IsRespelled schema keys key other members others)
    (unambiguous : schema.IsUnambiguous) :
    DifferAt (pathOf keys ++ key) (pathOf keys ++ other)
      (schema.validate (.object members)).faults (schema.validate (.object others)).faults := by
  by_cases freeForm : IsFreeForm schema
  · rw [validate_of_isFreeForm freeForm, validate_of_isFreeForm freeForm]
    exact .refl []
  · rw [validate_object freeForm, validate_object freeForm]
    exact respelled.differAt unambiguous

end Validation

open Validation

/--
Another spelling of one key, anywhere in an object, makes no difference to whether the
object is valid, nor to how many faults are reported and in which order. The texts differ
in those faults only whose path leads to the key or on behind it, and there in the key.
-/
theorem MessageSchema.validate_respelled
    {schema : MessageSchema}
    (unambiguous : schema.IsUnambiguous)
    {keys : List String}
    {key other : String}
    {members others : List (String × Json)}
    (respelled : IsRespelled schema keys key other members others) :
    (schema.validate (.object others)).isValid = (schema.validate (.object members)).isValid ∧
    (schema.validate (.object others)).messages.length =
      (schema.validate (.object members)).messages.length ∧
    ∃ (before after : List String) (inside : List Fault),
      (∀ fault ∈ inside, fault.IsWithin) ∧
      (schema.validate (.object members)).messages =
        before ++ inside.map (fun fault => (fault.under (pathOf keys ++ key)).message) ++
          after ∧
      (schema.validate (.object others)).messages =
        before ++ inside.map (fun fault => (fault.under (pathOf keys ++ other)).message) ++
          after := by
  have differ := respelled.differAt_validate unambiguous
  refine ⟨?_, ?_, differ.exists_messages⟩
  · rw [isValid, isValid, Bool.eq_iff_iff, List.isEmpty_iff_length_eq_zero,
      List.isEmpty_iff_length_eq_zero, differ.length_eq]
  · rw [messages, messages, List.length_map, List.length_map, differ.length_eq]

namespace Validation

/-- A field with a name and another JSON name. -/
def fieldOfTwoNames (name jsonName : String) : FieldSchema :=
  let field := FieldSchema.plain name 1 .string .optional
  { field with descriptor := { field.descriptor with jsonName := jsonName } }

/-- A message with two texts, the first of which has two names. -/
def twoNamesSchema : MessageSchema :=
  messageOf [fieldOfTwoNames "full_name" "fullName", .plain "s" 2 .string .optional]

/-- A message with a list of these. -/
def listOfTwoNames : MessageSchema :=
  messageOf [fieldOfMessages "b" .message .repeated twoNamesSchema]

/-- A list with faults in front of a key, at the key, and behind it. -/
def listSpelledBy (key : String) : List (String × Json) :=
  [("b", .array [.object [("s", .int 1)], .object [(key, .int 2)], .int 3])]

theorem isUnambiguous_listOfTwoNames : listOfTwoNames.IsUnambiguous := by
  have twoNames : twoNamesSchema.IsUnambiguous := by
    refine .intro _ ?_ ?_
    · exact List.pairwise_pair.mpr ⟨by decide, by decide, by decide, by decide⟩
    · simp [twoNamesSchema, messageOf, fieldOfTwoNames, FieldSchema.plain]
  refine .intro _ (List.pairwise_singleton _ _) ?_
  intro field member message carries
  obtain rfl := List.mem_singleton.mp member
  cases carries
  exact twoNames

theorem isRespelled_listSpelledBy :
    IsRespelled listOfTwoNames ["b"] "full_name" "fullName" (listSpelledBy "full_name")
      (listSpelledBy "fullName") := by
  have twoNames : fieldOfTwoNames "full_name" "fullName" ∈ twoNamesSchema.fields :=
    List.mem_cons_self
  have inside : IsRespelled twoNamesSchema [] "full_name" "fullName"
      [("full_name", .int 2)] [("fullName", .int 2)] :=
    .here twoNames (.inl rfl) (.inr rfl) [] [] (.int 2)
  have listed : fieldOfMessages "b" .message .repeated twoNamesSchema ∈ listOfTwoNames.fields :=
    List.mem_cons_self
  exact .inItem listed (.inl rfl) rfl inside [] [] [.object [("s", .int 1)]] [.int 3]

end Validation

/-- The second of three faults is at the key, and it is the only one that shows the spelling. -/
theorem MessageSchema.validate_respelled_item :
    listOfTwoNames.IsUnambiguous ∧
    IsRespelled listOfTwoNames ["b"] "full_name" "fullName" (listSpelledBy "full_name")
      (listSpelledBy "fullName") ∧
    (listOfTwoNames.validate (.object (listSpelledBy "full_name"))).messages =
      ["Field 'b.s' expected string, got number",
        "Field 'b.full_name' expected string, got number",
        "Field 'b' item 2 expected object, got number"] ∧
    (listOfTwoNames.validate (.object (listSpelledBy "fullName"))).messages.length = 3 ∧
    (listOfTwoNames.validate (.object (listSpelledBy "fullName"))).isValid = false := by
  have reported : (listOfTwoNames.validate (.object (listSpelledBy "full_name"))).messages =
      ["Field 'b.s' expected string, got number",
        "Field 'b.full_name' expected string, got number",
        "Field 'b' item 2 expected object, got number"] := by
    decide +kernel
  have invalid :
      (listOfTwoNames.validate (.object (listSpelledBy "full_name"))).isValid = false := by
    decide +kernel
  obtain ⟨sameValidity, sameCount, _⟩ :=
    validate_respelled isUnambiguous_listOfTwoNames isRespelled_listSpelledBy
  refine ⟨isUnambiguous_listOfTwoNames, isRespelled_listSpelledBy, reported, ?_, ?_⟩
  · rw [sameCount, reported]
    rfl
  · rw [sameValidity, invalid]

end GrpcDiscovery
