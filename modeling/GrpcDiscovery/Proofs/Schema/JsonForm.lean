import GrpcDiscovery.Schema.Json

namespace GrpcDiscovery

/-!
# Reading schemas that were written

Every schema is read back from its JSON form as it was, whatever its fields refer to and
however deep that goes. Of a JSON value that comes from elsewhere, reading takes the
members under the keys of each record and no others, so that a value reads as what is left
of it when all further members are dropped.
-/

namespace SchemaJson

/-! ## The parts of a record -/

@[simp]
theorem text?_string (text : String) : text? (.string text) = some text :=
  rfl

@[simp]
theorem int32?_ofInt32 (value : Int32) : int32? (ofInt32 value) = some value := by
  have within : -2147483648 ≤ value.toInt ∧ value.toInt ≤ 2147483647 :=
    ⟨value.le_toInt, Int.lt_add_one_iff.mp value.toInt_lt⟩
  rw [ofInt32, Json.int, int32?, if_pos within, Int32.ofInt_toInt]

/-- A type without a meaning is read by its code, be it that of another type. -/
@[simp]
theorem fieldType?_ofFieldType (type : FieldType) :
    fieldType? (ofFieldType type) = some type := by
  cases type with
  | unknown code =>
      simp [ofFieldType, FieldType.jsonName, fieldType?]
  | _ =>
      rfl

@[simp]
theorem label?_jsonName (label : Label) : label? (.string label.jsonName) = some label := by
  cases label <;> rfl

@[simp]
theorem wellKnown?_shortName (type : WellKnownType) :
    wellKnown? (.string type.shortName) = some type := by
  cases type <;> rfl

theorem optional?_ofText? (text : Option String) :
    optional? text? (some (.ofText? text)) = some text := by
  cases text <;> rfl

theorem optional?_null
    {α : Type}
    (read : Json → Option α) :
    optional? read (some .null) = some none :=
  rfl

theorem optional?_ofInt32 (value : Int32) :
    optional? int32? (some (ofInt32 value)) = some (some value) :=
  congrArg (Option.map some) (int32?_ofInt32 value)

/-- The description of a field is read from its members, whatever follows them. -/
theorem descriptor?_fieldMembers
    (field : FieldDescriptor)
    (others : List (String × Json)) :
    descriptor? (fieldMembers field ++ others) = some field := by
  obtain ⟨name, jsonName, number, type, label, typeName, index⟩ := field
  cases index with
  | none =>
      simp [descriptor?, fieldMembers, JsonMembers.find?, required?, optional?_ofText?,
        optional?_null]
  | some index =>
      simp [descriptor?, fieldMembers, JsonMembers.find?, required?, optional?_ofText?,
        optional?_ofInt32]

/-- The members that describe a field say nothing of what it refers to. -/
theorem nestedMember?_fieldMembers
    (field : FieldDescriptor)
    (others : List (String × Json)) :
    nestedMember? (fieldMembers field ++ others) = nestedMember? others := by
  simp [fieldMembers, nestedMember?]

/-! ## Reading what was written -/

theorem enumValue?_ofEnumValue (value : EnumValue) :
    enumValue? (ofEnumValue value) = some value := by
  simp [enumValue?, ofEnumValue, record?, JsonMembers.find?, required?]

theorem enumValues?_map_ofEnumValue (values : List EnumValue) :
    enumValues? (.array (values.map ofEnumValue)) = some values := by
  rw [enumValues?]
  induction values with
  | nil =>
      rfl
  | cons value rest inductionHypothesis =>
      rw [List.map_cons, List.mapM_cons, enumValue?_ofEnumValue, inductionHypothesis]
      rfl

/-- An enum is read back as it was. -/
theorem enum?_enumMembers (schema : EnumSchema) :
    enum? (.object (enumMembers schema)) = some schema := by
  simp [enum?, enumMembers, record?, JsonMembers.find?, required?,
    enumValues?_map_ofEnumValue]

mutual

/-- A message is read back as it was, by induction on its fields and what they refer to. -/
theorem message?_ofMessage (schema : MessageSchema) :
    message? (ofMessage schema) = some schema := by
  obtain ⟨name, fullName, fields, wellKnown⟩ := schema
  have read := fieldItems?_ofFields fields
  cases wellKnown with
  | none =>
      simp [ofMessage, wellKnownMember, message?, fieldsMember?, fields?, JsonMembers.find?,
        required?, optional?, read]
  | some type =>
      simp [ofMessage, wellKnownMember, message?, fieldsMember?, fields?, JsonMembers.find?,
        required?, optional?, read]

theorem fieldItems?_ofFields (fields : List FieldSchema) :
    fieldItems? (ofFields fields) = some fields := by
  cases fields with
  | nil =>
      rfl
  | cons field rest =>
      have readField := field?_ofField field
      have readRest := fieldItems?_ofFields rest
      simp [ofFields, fieldItems?, readField, readRest]

theorem field?_ofField (field : FieldSchema) :
    field? (ofField field) = some field := by
  obtain ⟨descriptor, nested⟩ := field
  cases nested with
  | none =>
      rw [ofField]
      simp only [field?, descriptor?_fieldMembers, nestedMember?_fieldMembers, nestedMember?]
      rfl
  | some reference =>
      have read := nested?_ofNested reference
      have present : (ofNested reference).isNull = false := by
        cases reference <;> rfl
      simp [ofField, field?, descriptor?_fieldMembers, nestedMember?_fieldMembers,
        nestedMember?, present, read]

theorem nested?_ofNested (reference : NestedSchema) :
    nested? (ofNested reference) = some reference := by
  cases reference with
  | message schema =>
      have read := message?_ofMessage schema
      simp [ofNested, nested?, read]
  | enum schema =>
      simp [ofNested, nested?, enum?_enumMembers]
  | unresolved =>
      rfl

end

/-! ## The members that count -/

/-- The keys of a message schema. -/
def messageKeys : List String :=
  ["name", "fullName", "fields", "wellKnown"]

/-- The keys of a field. -/
def fieldKeys : List String :=
  ["name", "jsonName", "number", "type", "label", "typeName", "oneofIndex", "nested"]

/-- The keys of an enum schema. -/
def enumKeys : List String :=
  ["name", "fullName", "values"]

/-- The keys of a value of an enum. -/
def enumValueKeys : List String :=
  ["name", "number"]

/-- The members under some keys, where the value of one of them may lose members as well. -/
def keepListed
    (keys : List String)
    (inner : String)
    (keepInner : Json → Json)
    (members : List (String × Json)) :
    List (String × Json) :=
  (members.filter fun member => member.1 ∈ keys).map fun member =>
    if member.1 = inner then (member.1, keepInner member.2) else member

/-- A value of an enum without the members under other keys. -/
def listedEnumValue : Json → Json
  | .object members =>
      .object (members.filter fun member => member.1 ∈ enumValueKeys)
  | other =>
      other

/-- Values of an enum, each without the members under other keys. -/
def listedEnumValues : Json → Json
  | .array items =>
      .array (items.map listedEnumValue)
  | other =>
      other

/-- An enum schema without the members under other keys, here and in its values. -/
def listedEnum : Json → Json
  | .object members =>
      .object (keepListed enumKeys "values" listedEnumValues members)
  | .array [namePart, fullNamePart, valuesPart] =>
      .array [namePart, fullNamePart, listedEnumValues valuesPart]
  | other =>
      other

mutual

/-- A message schema without the members under other keys, here and in all that is below. -/
def listedMessage (json : Json) : Json :=
  match json with
  | .object members =>
      .object (listedMessageMembers members)
  | .array [namePart, fullNamePart, fieldsPart, wellKnownPart] =>
      .array [namePart, fullNamePart, listedFields fieldsPart, wellKnownPart]
  | other =>
      other

/-- The members of a message schema that are under its keys. -/
def listedMessageMembers (members : List (String × Json)) : List (String × Json) :=
  match members with
  | [] =>
      []
  | (key, value) :: rest =>
      if key = "fields" then
        (key, listedFields value) :: listedMessageMembers rest
      else if key ∈ messageKeys then
        (key, value) :: listedMessageMembers rest
      else
        listedMessageMembers rest

/-- Fields, each without the members under other keys. -/
def listedFields (json : Json) : Json :=
  match json with
  | .array items =>
      .array (listedFieldItems items)
  | other =>
      other

/-- Fields one after the other, each without the members under other keys. -/
def listedFieldItems (items : List Json) : List Json :=
  match items with
  | [] =>
      []
  | item :: rest =>
      listedField item :: listedFieldItems rest

/-- A field without the members under other keys. -/
def listedField (json : Json) : Json :=
  match json with
  | .object members =>
      .object (listedFieldMembers members)
  | other =>
      other

/-- The members of a field that are under its keys. -/
def listedFieldMembers (members : List (String × Json)) : List (String × Json) :=
  match members with
  | [] =>
      []
  | (key, value) :: rest =>
      if key = "nested" then
        (key, listedNested value) :: listedFieldMembers rest
      else if key ∈ fieldKeys then
        (key, value) :: listedFieldMembers rest
      else
        listedFieldMembers rest

/-- What a field refers to, without the members under other keys. -/
def listedNested (json : Json) : Json :=
  match json with
  | .object [(key, content)] =>
      if key = "message" then
        .object [(key, listedMessage content)]
      else if key = "enum" then
        .object [(key, listedEnum content)]
      else
        .object [(key, content)]
  | other =>
      other

end

/-- A member under a key that is kept is found where others are dropped. -/
theorem find?_filter
    {keys : List String}
    {key : String}
    (listed : key ∈ keys)
    (members : List (String × Json)) :
    JsonMembers.find? key (members.filter fun member => member.1 ∈ keys) =
      JsonMembers.find? key members := by
  induction members with
  | nil =>
      rfl
  | cons member rest inductionHypothesis =>
      obtain ⟨present, value⟩ := member
      by_cases same : present = key
      · simp [JsonMembers.find?, same, listed]
      · by_cases kept : present ∈ keys
        · simp [JsonMembers.find?, same, kept, inductionHypothesis]
        · simp [JsonMembers.find?, same, kept, inductionHypothesis]

/-- The values of other keys stay as they are. -/
theorem find?_keepListed
    {keys : List String}
    {key inner : String}
    (listed : key ∈ keys)
    (other : key ≠ inner)
    (keepInner : Json → Json)
    (members : List (String × Json)) :
    JsonMembers.find? key (keepListed keys inner keepInner members) =
      JsonMembers.find? key members := by
  rw [← find?_filter listed members, keepListed]
  induction members.filter fun member => member.1 ∈ keys with
  | nil =>
      rfl
  | cons member rest inductionHypothesis =>
      obtain ⟨present, value⟩ := member
      by_cases isInner : present = inner
      · simp [JsonMembers.find?, isInner, other.symm, inductionHypothesis]
      · simp [JsonMembers.find?, isInner, inductionHypothesis]

theorem find?_keepListed_inner
    {keys : List String}
    {inner : String}
    (listed : inner ∈ keys)
    (keepInner : Json → Json)
    (members : List (String × Json)) :
    JsonMembers.find? inner (keepListed keys inner keepInner members) =
      (JsonMembers.find? inner members).map keepInner := by
  rw [← find?_filter listed members, keepListed]
  induction members.filter fun member => member.1 ∈ keys with
  | nil =>
      rfl
  | cons member rest inductionHypothesis =>
      obtain ⟨present, value⟩ := member
      by_cases isInner : present = inner
      · simp [JsonMembers.find?, isInner]
      · simp [JsonMembers.find?, isInner, inductionHypothesis]

/-! Each record reads as it does without further members. -/

theorem enumValue?_listedEnumValue (json : Json) :
    enumValue? (listedEnumValue json) = enumValue? json := by
  cases json with
  | object members =>
      simp (disch := decide) only [enumValue?, listedEnumValue, record?, Option.bind_eq_bind,
        Option.bind_some, find?_filter]
  | _ =>
      rfl

theorem enumValues?_listedEnumValues (json : Json) :
    enumValues? (listedEnumValues json) = enumValues? json := by
  cases json with
  | array items =>
      rw [listedEnumValues, enumValues?, enumValues?, List.mapM_map]
      congr 1
      funext item
      exact enumValue?_listedEnumValue item
  | _ =>
      rfl

theorem required?_map_listedEnumValues (part : Option Json) :
    required? enumValues? (part.map listedEnumValues) = required? enumValues? part := by
  cases part with
  | none =>
      rfl
  | some json =>
      exact enumValues?_listedEnumValues json

theorem enum?_listedEnum (json : Json) :
    enum? (listedEnum json) = enum? json := by
  cases json with
  | object members =>
      simp (disch := decide) only [enum?, listedEnum, record?, Option.bind_eq_bind,
        Option.bind_some, find?_keepListed, find?_keepListed_inner,
        required?_map_listedEnumValues]
  | array items =>
      rcases items with _ | ⟨namePart, _ | ⟨fullNamePart, _ | ⟨valuesPart, _ | ⟨_, _⟩⟩⟩⟩
      case cons.cons.cons.nil =>
        have values := enumValues?_listedEnumValues valuesPart
        simp [enum?, listedEnum, record?, partMembers?, JsonMembers.find?, required?, values]
      all_goals rfl
  | _ =>
      rfl

/-! In messages and fields, members of the inner key are looked up on the way. -/

theorem listedMessageMembers_eq (members : List (String × Json)) :
    listedMessageMembers members = keepListed messageKeys "fields" listedFields members := by
  induction members with
  | nil =>
      rfl
  | cons member rest inductionHypothesis =>
      obtain ⟨key, value⟩ := member
      by_cases isFields : key = "fields"
      · simp [listedMessageMembers, keepListed, isFields, inductionHypothesis, messageKeys]
      · by_cases listed : key ∈ messageKeys
        · simp [listedMessageMembers, keepListed, isFields, listed, inductionHypothesis]
        · simp [listedMessageMembers, keepListed, isFields, listed, inductionHypothesis]

theorem listedFieldMembers_eq (members : List (String × Json)) :
    listedFieldMembers members = keepListed fieldKeys "nested" listedNested members := by
  induction members with
  | nil =>
      rfl
  | cons member rest inductionHypothesis =>
      obtain ⟨key, value⟩ := member
      by_cases isNested : key = "nested"
      · simp [listedFieldMembers, keepListed, isNested, inductionHypothesis, fieldKeys]
      · by_cases listed : key ∈ fieldKeys
        · simp [listedFieldMembers, keepListed, isNested, listed, inductionHypothesis]
        · simp [listedFieldMembers, keepListed, isNested, listed, inductionHypothesis]

theorem descriptor?_listedFieldMembers (members : List (String × Json)) :
    descriptor? (listedFieldMembers members) = descriptor? members := by
  rw [listedFieldMembers_eq]
  simp (disch := decide) only [descriptor?, find?_keepListed]

theorem isNull_listedNested (json : Json) : (listedNested json).isNull = json.isNull := by
  rw [listedNested.eq_def]
  split
  · split
    · rfl
    · split <;> rfl
  · rfl

mutual

/-- A message reads as it does without further members, by induction on the JSON value. -/
theorem message?_listedMessage (json : Json) :
    message? (listedMessage json) = message? json := by
  cases json with
  | object members =>
      have fields := fieldsMember?_listedMessageMembers members
      rw [listedMessageMembers_eq] at fields
      simp (disch := decide) only [listedMessage, listedMessageMembers_eq, message?, fields,
        find?_keepListed]
  | array items =>
      rcases items with
        _ | ⟨namePart, _ | ⟨fullNamePart, _ | ⟨fieldsPart, _ | ⟨wellKnownPart, _ | ⟨_, _⟩⟩⟩⟩⟩
      case cons.cons.cons.cons.nil =>
        have fields := fields?_listedFields fieldsPart
        simp only [listedMessage, message?, fields]
      all_goals rfl
  | _ =>
      rfl

theorem fieldsMember?_listedMessageMembers (members : List (String × Json)) :
    fieldsMember? (listedMessageMembers members) = fieldsMember? members := by
  cases members with
  | nil =>
      rfl
  | cons member rest =>
      obtain ⟨key, value⟩ := member
      have further := fieldsMember?_listedMessageMembers rest
      by_cases isFields : key = "fields"
      · simp only [listedMessageMembers, fieldsMember?, if_pos isFields,
          fields?_listedFields value]
      · by_cases listed : key ∈ messageKeys
        · simp only [listedMessageMembers, fieldsMember?, if_neg isFields, if_pos listed, further]
        · simp only [listedMessageMembers, fieldsMember?, if_neg isFields, if_neg listed, further]

theorem fields?_listedFields (json : Json) :
    fields? (listedFields json) = fields? json := by
  cases json with
  | array items =>
      simp only [listedFields, fields?, fieldItems?_listedFieldItems items]
  | _ =>
      rfl

theorem fieldItems?_listedFieldItems (items : List Json) :
    fieldItems? (listedFieldItems items) = fieldItems? items := by
  cases items with
  | nil =>
      rfl
  | cons item rest =>
      simp only [listedFieldItems, fieldItems?, field?_listedField item,
        fieldItems?_listedFieldItems rest]

theorem field?_listedField (json : Json) :
    field? (listedField json) = field? json := by
  cases json with
  | object members =>
      simp only [listedField, field?, descriptor?_listedFieldMembers,
        nestedMember?_listedFieldMembers members]
  | _ =>
      rfl

theorem nestedMember?_listedFieldMembers (members : List (String × Json)) :
    nestedMember? (listedFieldMembers members) = nestedMember? members := by
  cases members with
  | nil =>
      rfl
  | cons member rest =>
      obtain ⟨key, value⟩ := member
      have further := nestedMember?_listedFieldMembers rest
      by_cases isNested : key = "nested"
      · simp only [listedFieldMembers, nestedMember?, if_pos isNested, isNull_listedNested,
          nested?_listedNested value]
      · by_cases listed : key ∈ fieldKeys
        · simp only [listedFieldMembers, nestedMember?, if_neg isNested, if_pos listed, further]
        · simp only [listedFieldMembers, nestedMember?, if_neg isNested, if_neg listed, further]

theorem nested?_listedNested (json : Json) :
    nested? (listedNested json) = nested? json := by
  cases json with
  | object members =>
      rcases members with _ | ⟨⟨key, content⟩, _ | ⟨_, _⟩⟩
      case cons.nil =>
        by_cases isMessage : key = "message"
        · simp only [listedNested, nested?, if_pos isMessage, message?_listedMessage content]
        · by_cases isEnum : key = "enum"
          · simp only [listedNested, nested?, if_neg isMessage, if_pos isEnum, enum?_listedEnum]
          · simp only [listedNested, if_neg isMessage, if_neg isEnum]
      all_goals rfl
  | _ =>
      rfl

end

end SchemaJson

namespace MessageSchema

/--
Every schema is read back from its JSON form as it was. Whatever is read as a schema from
elsewhere is the same schema after it was written again, and the members under other keys,
of the message or of any record inside it, make no difference to it.
-/
theorem ofJson?_inverts_toJson
    (schema : MessageSchema)
    (json : Json) :
    ofJson? schema.toJson = some schema ∧
      ((ofJson? json).bind fun read => ofJson? read.toJson) = ofJson? json ∧
      ofJson? (SchemaJson.listedMessage json) = ofJson? json := by
  have inverts (written : MessageSchema) : ofJson? written.toJson = some written :=
    SchemaJson.message?_ofMessage written
  refine ⟨inverts schema, ?_, SchemaJson.message?_listedMessage json⟩
  cases ofJson? json with
  | none =>
      rfl
  | some read =>
      exact inverts read

/-- Of a message with a field, a member is dropped on either level. -/
example :
    SchemaJson.listedMessage
        (.object
          [("name", .string "M"), ("more", .null),
            ("fields", .array [.object [("more", .null), ("number", .nat 1)]])]) =
      .object
        [("name", .string "M"),
          ("fields", .array [.object [("number", .nat 1)]])] := by
  cbv

end MessageSchema

end GrpcDiscovery
