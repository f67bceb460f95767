import GrpcDiscovery.Proofs.Schema.Coherent

namespace GrpcDiscovery

/-!
# Schemas level by level

A schema is the graph of the indexed messages, laid out from its root and cut off below a
level. There may be cycles in the graph, and nothing keeps track of them: it is the levels
alone that end a schema. Well-known types take up no level, and enums none either.
-/

mutual

/-- A message schema without the messages that lie more than so many levels below. -/
def MessageSchema.cutBelow
    (levels : Nat) :
    MessageSchema →
    MessageSchema
  | ⟨name, fullName, fields, wellKnown⟩ =>
      ⟨name, fullName, FieldSchema.listCutBelow levels fields, wellKnown⟩

/-- Fields without the messages that lie more than so many levels below. -/
def FieldSchema.listCutBelow
    (levels : Nat) :
    List FieldSchema →
    List FieldSchema
  | [] =>
      []
  | ⟨descriptor, none⟩ :: rest =>
      ⟨descriptor, none⟩ :: FieldSchema.listCutBelow levels rest
  | ⟨descriptor, some nested⟩ :: rest =>
      ⟨descriptor, some (nested.cutBelow levels)⟩ :: FieldSchema.listCutBelow levels rest

/-- What a reference leads to, if a level is left for it; well-known types need none. -/
def NestedSchema.cutBelow
    (levels : Nat) :
    NestedSchema →
    NestedSchema
  | .message schema =>
      match schema.wellKnown, levels with
      | some _, levels =>
          .message (schema.cutBelow levels)
      | none, 0 =>
          .unresolved
      | none, levels + 1 =>
          .message (schema.cutBelow levels)
  | .enum schema =>
      .enum schema
  | .unresolved =>
      .unresolved

end

theorem FieldSchema.listCutBelow_eq_map
    (levels : Nat)
    (fields : List FieldSchema) :
    FieldSchema.listCutBelow levels fields =
      fields.map fun field => ⟨field.descriptor, field.nested.map (·.cutBelow levels)⟩ := by
  induction fields with
  | nil =>
      rw [listCutBelow, List.map_nil]
  | cons field rest inductionHypothesis =>
      obtain ⟨descriptor, nested⟩ := field
      cases nested with
      | none =>
          rw [listCutBelow, inductionHypothesis]
          rfl
      | some nested =>
          rw [listCutBelow, inductionHypothesis]
          rfl

/-- There is no level below a well-known type. -/
theorem MessageSchema.cutBelow_ofWellKnown
    (levels : Nat)
    (type : WellKnownType) :
    (ofWellKnown type).cutBelow levels = ofWellKnown type := by
  cases type <;>
    simp [ofWellKnown, ofWellKnownFields, wellKnownFields, secondsAndNanos, wrapped,
      listValueItems, FieldSchema.plain, cutBelow, FieldSchema.listCutBelow,
      NestedSchema.cutBelow]

namespace TypeIndex

variable {index : TypeIndex}

/-- What a field refers to without a look at the messages below is not cut. -/
theorem IsShallow.cutBelow
    {nested : Option NestedSchema}
    (shallow : IsShallow nested)
    (levels : Nat) :
    nested.map (·.cutBelow levels) = nested := by
  cases shallow with
  | nothing =>
      rfl
  | unresolved =>
      rw [Option.map_some, NestedSchema.cutBelow]
  | wellKnown type =>
      have uncut : (NestedSchema.message (.ofWellKnown type)).cutBelow levels =
          .message ((MessageSchema.ofWellKnown type).cutBelow levels) := by
        simp only [NestedSchema.cutBelow, MessageSchema.ofWellKnown,
          MessageSchema.ofWellKnownFields]
      rw [Option.map_some, uncut, MessageSchema.cutBelow_ofWellKnown]

/-- Enums take up no level. -/
theorem leadingToEnum_cutBelow
    (schema : Option EnumSchema)
    (levels : Nat) :
    (leadingToEnum schema).cutBelow levels = leadingToEnum schema := by
  cases schema with
  | none =>
      rw [leadingToEnum, Option.map_none, Option.getD_none, NestedSchema.cutBelow]
  | some schema =>
      rw [leadingToEnum, Option.map_some, Option.getD_some, NestedSchema.cutBelow]

/-- A message is cut if no level is left for it. -/
theorem leadingTo_cutBelow_zero
    {OfEnum : String → Option EnumSchema → Prop}
    {levels : Nat}
    {name : String}
    (ordinary : WellKnownType.ofName? name = none)
    {schema : Option MessageSchema}
    (built : index.IsBuilt OfEnum levels name schema) :
    (leadingTo schema).cutBelow 0 = .unresolved := by
  cases schema with
  | none =>
      rw [leadingTo, Option.map_none, Option.getD_none, NestedSchema.cutBelow]
  | some schema =>
      simp only [leadingTo, Option.map_some, Option.getD_some, NestedSchema.cutBelow,
        built.wellKnown_eq_none ordinary]

/-- A message takes up the first level that is left. -/
theorem leadingTo_cutBelow_succ
    {OfEnum : String → Option EnumSchema → Prop}
    {levels less : Nat}
    {name : String}
    (ordinary : WellKnownType.ofName? name = none)
    {schema : Option MessageSchema}
    (built : index.IsBuilt OfEnum levels name schema) :
    (leadingTo schema).cutBelow (less + 1) = leadingTo (schema.map (·.cutBelow less)) := by
  cases schema with
  | none =>
      rw [leadingTo, Option.map_none, Option.getD_none, NestedSchema.cutBelow]
      rfl
  | some schema =>
      simp only [leadingTo, Option.map_some, Option.getD_some, NestedSchema.cutBelow,
        built.wellKnown_eq_none ordinary]

/-- Of two schemas of one message the first is the second one cut, if its fields are. -/
theorem BuiltAlike.eq_cutBelow
    {levels : Nat}
    {name : String}
    {schema deeper : Option MessageSchema}
    (alike : BuiltAlike
      (fun field deeper => field = ⟨deeper.descriptor, deeper.nested.map (·.cutBelow levels)⟩)
      name schema deeper) :
    schema = deeper.map (·.cutBelow levels) := by
  cases alike with
  | missing =>
      rfl
  | wellKnown _ =>
      rw [Option.map_some, MessageSchema.cutBelow_ofWellKnown]
  | @message simpleName fields others related =>
      have same : fields = FieldSchema.listCutBelow levels others := by
        rw [FieldSchema.listCutBelow_eq_map, ← List.forall₂_eq_eq_eq,
          List.forall₂_map_right_iff]
        exact related
      rw [Option.map_some, MessageSchema.cutBelow, same]

/-- A schema with one level less is the other one cut, if this holds of the messages below. -/
theorem eq_cutBelow_of_below
    (hidesNone : index.HidesNoWellKnown)
    {levels : Nat}
    (below : ∀ name schema deeper, WellKnownType.ofName? name = none →
      index.IsBuilt index.FindsEnum levels name schema →
        index.IsBuilt index.FindsEnum (levels + 1) name deeper →
          leadingTo schema = (leadingTo deeper).cutBelow levels)
    {name : String}
    {schema deeper : Option MessageSchema}
    (built : index.IsBuilt index.FindsEnum (levels + 1) name schema)
    (deeperBuilt : index.IsBuilt index.FindsEnum (levels + 2) name deeper) :
    schema = deeper.map (·.cutBelow levels) := by
  apply BuiltAlike.eq_cutBelow
  apply IsBuiltFrom.alike built deeperBuilt
  intro descriptor indexed field member nested deeperNested reference deeperReference
  suffices cut : nested = deeperNested.map (·.cutBelow levels) by
    rw [cut]
  apply IsReference.related reference deeperReference
  case shallow =>
    intro nested shallow
    exact (shallow.cutBelow levels).symm
  case enum =>
    intro typeName schema other _ _ found otherFound
    rw [Option.map_some, leadingToEnum_cutBelow, found, otherFound]
  case message =>
    intro typeName schema deeper kind refers ordinary built deeperBuilt
    rw [Option.map_some, below _ schema deeper
      (hidesNone.ordinary indexed member kind refers ordinary) built deeperBuilt]

/-- A schema with one level less is the other one cut, by induction on the levels. -/
theorem eq_cutBelow_of_isBuilt
    (hidesNone : index.HidesNoWellKnown)
    {levels : Nat}
    {name : String}
    {schema deeper : Option MessageSchema}
    (built : index.IsBuilt index.FindsEnum (levels + 1) name schema)
    (deeperBuilt : index.IsBuilt index.FindsEnum (levels + 2) name deeper) :
    schema = deeper.map (·.cutBelow levels) := by
  induction levels generalizing name schema deeper with
  | zero =>
      apply eq_cutBelow_of_below hidesNone ?_ built deeperBuilt
      intro name schema deeper ordinary absent deeperBuilt
      -- Nothing is built where the levels are used up, and there the deeper schema is cut.
      rw [leadingTo_cutBelow_zero ordinary deeperBuilt, absent]
      rfl
  | succ levels inductionHypothesis =>
      apply eq_cutBelow_of_below hidesNone ?_ built deeperBuilt
      intro name schema deeper ordinary built deeperBuilt
      rw [leadingTo_cutBelow_succ ordinary deeperBuilt, inductionHypothesis built deeperBuilt]

end TypeIndex

/--
A message stands at a level of a schema, of which the root is the first.

A message inside another stands one level below it, unless it is a well-known type, which
stands at the same level.
-/
inductive MessageSchema.StandsIn (root : MessageSchema) : Nat → MessageSchema → Prop where
  | root :
      StandsIn root 1 root
  | ordinary
      {level : Nat}
      {outer inner : MessageSchema}
      {field : FieldSchema}
      (stands : StandsIn root level outer)
      (member : field ∈ outer.fields)
      (leads : field.nested = some (.message inner))
      (isOrdinary : inner.wellKnown = none) :
      StandsIn root (level + 1) inner
  | wellKnown
      {level : Nat}
      {outer inner : MessageSchema}
      {field : FieldSchema}
      (stands : StandsIn root level outer)
      (member : field ∈ outer.fields)
      (leads : field.nested = some (.message inner))
      (isWellKnown : inner.wellKnown ≠ none) :
      StandsIn root level inner

/--
A reference to a message was followed, at the last level or above it.

The message is left out if it has no name, or is not a well-known type and either is not
indexed or would stand below the last level.
-/
structure FieldSchema.FollowsMessage
    (index : TypeIndex)
    (isLast : Prop)
    (field : FieldSchema) :
    Prop where
  unresolved : field.nested = some .unresolved ↔
    field.descriptor.typeName = none ∨
      ∃ typeName, field.descriptor.typeName = some typeName ∧
        WellKnownType.ofName? typeName = none ∧
        (index.message? (TypeName.normalize typeName) = none ∨ isLast)
  wellKnown : ∀ typeName type, field.descriptor.typeName = some typeName →
    WellKnownType.ofName? typeName = some type →
      field.nested = some (.message (.ofWellKnown type))
  ordinary : ∀ typeName, field.descriptor.typeName = some typeName →
    WellKnownType.ofName? typeName = none →
      field.nested = some .unresolved ∨
        ∃ message : MessageSchema, field.nested = some (.message message) ∧
          message.wellKnown = none ∧ message.fullName = TypeName.normalize typeName

/-- A reference to an enum was followed, which is left out if it has no name or is not indexed. -/
structure FieldSchema.FollowsEnum
    (index : TypeIndex)
    (field : FieldSchema) :
    Prop where
  unresolved : field.nested = some .unresolved ↔
    field.descriptor.typeName = none ∨
      ∃ typeName, field.descriptor.typeName = some typeName ∧ index.enum? typeName = none
  resolved : ∀ typeName descriptor, field.descriptor.typeName = some typeName →
    index.enum? typeName = some descriptor →
      field.nested = some (.enum (.ofDescriptor (TypeName.normalize typeName) descriptor))

/-- The reference of a field was followed, if its type refers to anything. -/
def FieldSchema.Follows
    (index : TypeIndex)
    (isLast : Prop)
    (field : FieldSchema) :
    Prop :=
  match field.descriptor.type.jsonKind with
  | .object =>
      field.FollowsMessage index isLast
  | .enumString =>
      field.FollowsEnum index
  | _ =>
      field.nested = none

/-- A schema is the graph of the indexed messages, laid out from its root down to a level. -/
structure MessageSchema.IsUnfolding
    (index : TypeIndex)
    (levels : Nat)
    (root : MessageSchema) :
    Prop where
  bounded : ∀ level message, root.StandsIn level message → level ≤ levels
  indexed : ∀ level message, root.StandsIn level message → message.wellKnown = none →
    ∃ descriptor, index.message? message.fullName = some descriptor ∧
      message.name = descriptor.name ∧
      message.fields.map FieldSchema.descriptor = descriptor.fields
  follows : ∀ level message, root.StandsIn level message → ∀ field ∈ message.fields,
    field.Follows index (level = levels)

namespace TypeIndex

variable {index : TypeIndex}

/-- A message of a schema, with the levels that are left below it. -/
inductive StandsAt (index : TypeIndex) (levels : Nat) : Nat → MessageSchema → Prop where
  | ordinary
      {level below : Nat}
      {descriptor : MessageDescriptor}
      {message : MessageSchema}
      (left : level + below = levels)
      (isOrdinary : WellKnownType.ofName? message.fullName = none)
      (indexed : index.message? message.fullName = some descriptor)
      (isMessage : IsMessage index.FindsEnum (index.IsBuilt index.FindsEnum below)
        message.fullName descriptor message) :
      StandsAt index levels level message
  | wellKnown
      {level : Nat}
      (type : WellKnownType)
      (left : level ≤ levels) :
      StandsAt index levels level (.ofWellKnown type)

/-- What is built under a name that is not well-known has its levels below it. -/
theorem StandsAt.of_isBuilt
    {levels level below : Nat}
    (left : level + below = levels + 1)
    {name : String}
    (ordinary : WellKnownType.ofName? name = none)
    {message : MessageSchema}
    (built : index.IsBuilt index.FindsEnum below name (some message)) :
    index.StandsAt levels level message := by
  obtain ⟨less, descriptor, rfl, indexed, isMessage⟩ := built.exists_isMessage ordinary
  have named := isMessage.fullName
  rw [← named] at ordinary indexed isMessage
  exact .ordinary (Nat.succ.inj left) ordinary indexed isMessage

/-- The fields of a message are those of its descriptor, in order. -/
theorem IsMessage.descriptors_eq
    {OfEnum : String → Option EnumSchema → Prop}
    {Below : String → Option MessageSchema → Prop}
    {name : String}
    {descriptor : MessageDescriptor}
    {schema : MessageSchema}
    (isMessage : IsMessage OfEnum Below name descriptor schema) :
    schema.fields.map FieldSchema.descriptor = descriptor.fields := by
  rw [← List.forall₂_eq_eq_eq, List.forall₂_map_left_iff]
  exact List.Forall₂.flip (isMessage.fields.imp fun _ _ related => related.1)

/-- An element of the second of two lists that go together is related to one of the first. -/
theorem exists_related_of_mem
    {α β : Type}
    {Related : α → β → Prop}
    {first : List α}
    {second : List β}
    (related : List.Forall₂ Related first second)
    {other : β}
    (member : other ∈ second) :
    ∃ element ∈ first, Related element other := by
  induction related with
  | nil =>
      cases member
  | cons head _ inductionHypothesis =>
      rcases List.mem_cons.mp member with rfl | later
      · exact ⟨_, List.mem_cons_self, head⟩
      · obtain ⟨element, inside, here⟩ := inductionHypothesis later
        exact ⟨element, List.mem_cons_of_mem _ inside, here⟩

/-- Each field of a message goes with one of the descriptor. -/
theorem IsMessage.isReference
    {OfEnum : String → Option EnumSchema → Prop}
    {Below : String → Option MessageSchema → Prop}
    {name : String}
    {descriptor : MessageDescriptor}
    {schema : MessageSchema}
    (isMessage : IsMessage OfEnum Below name descriptor schema)
    {field : FieldSchema}
    (member : field ∈ schema.fields) :
    field.descriptor ∈ descriptor.fields ∧
      IsReference OfEnum Below field.descriptor field.nested := by
  obtain ⟨described, inside, rfl, reference⟩ := exists_related_of_mem isMessage.fields member
  exact ⟨inside, reference⟩

/-- A message below one that was built is a well-known type, or was built with a level less. -/
theorem IsReference.leadsTo_message
    {OfEnum : String → Option EnumSchema → Prop}
    {Below : String → Option MessageSchema → Prop}
    {field : FieldDescriptor}
    {inner : MessageSchema}
    (reference : IsReference OfEnum Below field (some (.message inner))) :
    (∃ type, inner = .ofWellKnown type) ∨
      ∃ typeName, field.type.jsonKind = .object ∧ field.typeName = some typeName ∧
        WellKnownType.ofName? typeName = none ∧
        Below (TypeName.normalize typeName) (some inner) := by
  unfold IsReference at reference
  cases kind : field.type.jsonKind <;> cases refers : field.typeName <;>
    simp only [kind, refers, reduceCtorEq, Option.some.injEq] at reference
  case enumString.some typeName =>
    obtain ⟨schema, _, leads⟩ := reference
    cases schema <;> cases leads
  case object.some typeName =>
    cases wellKnown : WellKnownType.ofName? typeName with
    | some type =>
        simp only [wellKnown, NestedSchema.message.injEq] at reference
        exact .inl ⟨type, reference⟩
    | none =>
        simp only [wellKnown] at reference
        obtain ⟨schema, built, leads⟩ := reference
        cases schema with
        | none =>
            cases leads
        | some schema =>
            cases leads
            exact .inr ⟨typeName, rfl, rfl, wellKnown, built⟩

/-- The fields of well-known types are scalars, apart from the items of a list value. -/
theorem isScalar_or_listValueItems_of_mem
    {type : WellKnownType}
    {field : FieldSchema}
    (member : field ∈ (MessageSchema.ofWellKnown type).fields) :
    (field.nested = none ∧ field.descriptor.type.jsonKind ≠ .object ∧
      field.descriptor.type.jsonKind ≠ .enumString) ∨
        field = MessageSchema.listValueItems := by
  cases type <;>
    simp only [MessageSchema.ofWellKnown, MessageSchema.ofWellKnownFields,
      MessageSchema.wellKnownFields, MessageSchema.secondsAndNanos, MessageSchema.wrapped,
      List.mem_cons, List.not_mem_nil, or_false] at member
  case listValue =>
    exact .inr member
  case timestamp | duration =>
    rcases member with rfl | rfl <;> exact .inl ⟨rfl, by decide, by decide⟩
  all_goals
    subst member
    exact .inl ⟨rfl, by decide, by decide⟩

/-- A message below one that stands in a schema stands there as well. -/
theorem StandsAt.below
    (hidesNone : index.HidesNoWellKnown)
    {levels level : Nat}
    {outer inner : MessageSchema}
    (stands : index.StandsAt levels level outer)
    {field : FieldSchema}
    (member : field ∈ outer.fields)
    (leads : field.nested = some (.message inner)) :
    (inner.wellKnown = none → index.StandsAt levels (level + 1) inner) ∧
      (inner.wellKnown ≠ none → index.StandsAt levels level inner) := by
  cases stands with
  | ordinary left _ indexed isMessage =>
      obtain ⟨described, reference⟩ := isMessage.isReference member
      rw [leads] at reference
      rcases reference.leadsTo_message with ⟨type, rfl⟩ | ⟨typeName, kind, refers, ordinary, built⟩
      · exact ⟨fun absent => absurd absent (Option.some_ne_none type),
          fun _ => .wellKnown type (by omega)⟩
      · have ordinaryBelow := hidesNone.ordinary indexed described kind refers ordinary
        exact ⟨fun _ => .of_isBuilt (by omega) ordinaryBelow built,
          fun isWellKnown => absurd (built.wellKnown_eq_none ordinaryBelow) isWellKnown⟩
  | wellKnown type left =>
      rcases isScalar_or_listValueItems_of_mem member with ⟨scalar, _⟩ | rfl
      · rw [scalar] at leads
        cases leads
      · cases leads
        exact ⟨fun absent => absurd absent (Option.some_ne_none WellKnownType.value),
          fun _ => .wellKnown .value left⟩

/-- Every message of a schema that was built stands at one of its levels. -/
theorem standsAt_of_standsIn
    (hidesNone : index.HidesNoWellKnown)
    {levels : Nat}
    {name : String}
    (ordinary : WellKnownType.ofName? name = none)
    {root : MessageSchema}
    (built : index.IsBuilt index.FindsEnum levels name (some root))
    {level : Nat}
    {message : MessageSchema}
    (stands : root.StandsIn level message) :
    index.StandsAt levels level message := by
  induction stands with
  | root =>
      exact .of_isBuilt (Nat.add_comm 1 levels) ordinary built
  | ordinary _ member leads isOrdinary inductionHypothesis =>
      exact (inductionHypothesis.below hidesNone member leads).1 isOrdinary
  | wellKnown _ member leads isWellKnown inductionHypothesis =>
      exact (inductionHypothesis.below hidesNone member leads).2 isWellKnown

/-- There is no schema of a message that is not indexed, or for which no level is left. -/
theorem IsBuilt.eq_none_iff
    {OfEnum : String → Option EnumSchema → Prop}
    {levels : Nat}
    {name : String}
    (ordinary : WellKnownType.ofName? name = none)
    {schema : Option MessageSchema}
    (built : index.IsBuilt OfEnum levels name schema) :
    schema = none ↔ index.message? name = none ∨ levels = 0 := by
  constructor
  · rintro rfl
    cases levels with
    | zero =>
        exact .inr rfl
    | succ levels =>
        apply Or.inl
        by_contra indexed
        obtain ⟨message, same⟩ := built.exists_of_indexed indexed
        cases same
  · intro missing
    cases schema with
    | none =>
        rfl
    | some schema =>
        obtain ⟨less, descriptor, rfl, indexed, _⟩ := built.exists_isMessage ordinary
        rw [indexed] at missing
        rcases missing with missing | missing <;> cases missing

/-- A reference to a message that is not well-known leads to what is built of it. -/
theorem followsMessage_of_isBuilt
    {below : Nat}
    {field : FieldDescriptor}
    {typeName : String}
    (refers : field.typeName = some typeName)
    (unknown : WellKnownType.ofName? typeName = none)
    (ordinary : WellKnownType.ofName? (TypeName.normalize typeName) = none)
    {schema : Option MessageSchema}
    (built : index.IsBuilt index.FindsEnum below (TypeName.normalize typeName) schema) :
    FieldSchema.FollowsMessage index (below = 0) ⟨field, some (leadingTo schema)⟩ where
  unresolved := by
    have missing := built.eq_none_iff ordinary
    simp only [refers, reduceCtorEq, false_or, Option.some.injEq, exists_eq_left', unknown,
      true_and, ← missing]
    cases schema <;> simp [leadingTo]
  wellKnown other type same isType := by
    obtain rfl := Option.some.inj (refers.symm.trans same)
    rw [unknown] at isType
    cases isType
  ordinary other same _ := by
    obtain rfl := Option.some.inj (refers.symm.trans same)
    cases schema with
    | none =>
        exact .inl rfl
    | some schema =>
        exact .inr ⟨schema, rfl, built.wellKnown_eq_none ordinary, built.fullName_eq ordinary⟩

/-- A reference to a well-known type leads to it at every level. -/
theorem followsMessage_of_wellKnown
    {field : FieldDescriptor}
    {typeName : String}
    {type : WellKnownType}
    (refers : field.typeName = some typeName)
    (isType : WellKnownType.ofName? typeName = some type)
    (isLast : Prop) :
    FieldSchema.FollowsMessage index isLast ⟨field, some (.message (.ofWellKnown type))⟩ where
  unresolved := by
    simp [refers, isType]
  wellKnown other otherType same isOther := by
    obtain rfl := Option.some.inj (refers.symm.trans same)
    obtain rfl := Option.some.inj (isType.symm.trans isOther)
    rfl
  ordinary other same unknown := by
    obtain rfl := Option.some.inj (refers.symm.trans same)
    rw [isType] at unknown
    cases unknown

/-- A reference to an enum leads to what the index has, at every level. -/
theorem followsEnum_of_name
    {field : FieldDescriptor}
    {typeName : String}
    (refers : field.typeName = some typeName) :
    FieldSchema.FollowsEnum index
      ⟨field, some (leadingToEnum (index.enumSchema? typeName))⟩ where
  unresolved := by
    simp only [refers, reduceCtorEq, false_or, Option.some.injEq, exists_eq_left', enum?,
      enumSchema?]
    cases index.enums[TypeName.normalize typeName]? <;> simp [leadingToEnum]
  resolved other descriptor same found := by
    obtain rfl := Option.some.inj (refers.symm.trans same)
    rw [enum?] at found
    simp only [enumSchema?, found]
    rfl

/-- The reference of a field of an indexed message was followed. -/
theorem IsReference.follows
    {below : Nat}
    {field : FieldDescriptor}
    {nested : Option NestedSchema}
    (ordinaryBelow : ∀ typeName, field.type.jsonKind = .object →
      field.typeName = some typeName → WellKnownType.ofName? typeName = none →
        WellKnownType.ofName? (TypeName.normalize typeName) = none)
    (reference : IsReference index.FindsEnum (index.IsBuilt index.FindsEnum below)
      field nested) :
    FieldSchema.Follows index (below = 0) ⟨field, nested⟩ := by
  unfold IsReference at reference
  unfold FieldSchema.Follows
  cases kind : field.type.jsonKind <;> cases refers : field.typeName <;>
    simp only [kind, refers] at reference ⊢
  case object.none =>
    subst reference
    constructor <;> simp [refers]
  case enumString.none =>
    subst reference
    constructor <;> simp [refers]
  case enumString.some typeName =>
    obtain ⟨schema, rfl, rfl⟩ := reference
    exact followsEnum_of_name refers
  case object.some typeName =>
    cases wellKnown : WellKnownType.ofName? typeName with
    | some type =>
        simp only [wellKnown] at reference
        subst reference
        exact followsMessage_of_wellKnown refers wellKnown _
    | none =>
        simp only [wellKnown] at reference
        obtain ⟨schema, built, rfl⟩ := reference
        exact followsMessage_of_isBuilt refers wellKnown
          (ordinaryBelow typeName kind refers wellKnown) built
  all_goals exact reference

/-- The references of the fields of a message that stands in a schema were followed. -/
theorem StandsAt.follows
    (hidesNone : index.HidesNoWellKnown)
    {levels level : Nat}
    {message : MessageSchema}
    (stands : index.StandsAt levels level message)
    {field : FieldSchema}
    (member : field ∈ message.fields) :
    field.Follows index (level = levels) := by
  cases stands with
  | ordinary left isOrdinary indexed isMessage =>
      rename_i below descriptor
      rcases field with ⟨field, nested⟩
      obtain ⟨described, reference⟩ := isMessage.isReference member
      have isLast : (level = levels) = (below = 0) := propext (by omega)
      rw [isLast]
      exact reference.follows fun typeName kind refers ordinary =>
        hidesNone.ordinary indexed described kind refers ordinary
  | wellKnown type left =>
      rcases isScalar_or_listValueItems_of_mem member with ⟨scalar, notObject, notEnum⟩ | rfl
      · unfold FieldSchema.Follows
        split
        · exact absurd ‹_› notObject
        · exact absurd ‹_› notEnum
        · exact scalar
      · exact followsMessage_of_wellKnown rfl (by decide +kernel) _

/-- What is built of an indexed message is its unfolding. -/
theorem isUnfolding_of_isBuilt
    (hidesNone : index.HidesNoWellKnown)
    {levels : Nat}
    {name : String}
    (ordinary : WellKnownType.ofName? name = none)
    {root : MessageSchema}
    (built : index.IsBuilt index.FindsEnum levels name (some root)) :
    root.IsUnfolding index levels where
  bounded level message stands := by
    cases standsAt_of_standsIn hidesNone ordinary built stands with
    | ordinary left _ _ _ =>
        omega
    | wellKnown _ left =>
        exact left
  indexed level message stands isOrdinary := by
    cases standsAt_of_standsIn hidesNone ordinary built stands with
    | ordinary left _ indexed isMessage =>
        exact ⟨_, indexed, isMessage.simpleName, isMessage.descriptors_eq⟩
    | wellKnown type _ =>
        exact absurd isOrdinary (Option.some_ne_none type)
  follows level message stands field member :=
    (standsAt_of_standsIn hidesNone ordinary built stands).follows hidesNone member

end TypeIndex

/-- With plain references to enums, what is rebuilt has the enums of the index. -/
theorem Resolver.rebuilt_findsEnum
    (resolver : Resolver)
    (plain : resolver.index.HasPlainEnumReferences)
    (name : String) :
    resolver.index.IsBuilt resolver.index.FindsEnum (resolver.maxDepth - 1 + 1)
      (TypeName.normalize name) (resolver.rebuilt name) :=
  isBuilt_rebuildMessage _ (resolveEnum_findsEnum plain SchemaCache.empty.messages) name
    ⟨SchemaCache.coherent_empty resolver.index, rfl⟩

/--
The schemas of an index are unfoldings of it, each of them the next deeper one cut off
below its last level. A depth of nothing counts as one.

Of the deeper schema the root takes up the first level, and so it is cut where one level
less than the depth is used up below it.
-/
def TypeIndex.UnfoldsByLevels (index : TypeIndex) : Prop :=
  ∀ (depth : Nat) (name : String), WellKnownType.ofName? (TypeName.normalize name) = none →
    index.message? (TypeName.normalize name) ≠ none →
      ∃ schema deeper,
        (Resolver.mk index depth).rebuilt name = some schema ∧
          (Resolver.mk index (depth + 1)).rebuilt name = some deeper ∧
            schema.fullName = TypeName.normalize name ∧
              schema.wellKnown = none ∧
                schema.IsUnfolding index (max depth 1) ∧
                  schema = if depth = 0 then deeper else deeper.cutBelow (depth - 1)

/--
An index is unfolded by levels, if no reference to a message hides a well-known type
behind two dots and references to enums start with one dot at most.
-/
theorem TypeIndex.unfoldsByLevels
    {index : TypeIndex}
    (hidesNone : index.HidesNoWellKnown)
    (plain : index.HasPlainEnumReferences) :
    index.UnfoldsByLevels := by
  intro depth name ordinary indexed
  have built := Resolver.rebuilt_findsEnum ⟨index, depth⟩ plain name
  have deeperBuilt := Resolver.rebuilt_findsEnum ⟨index, depth + 1⟩ plain name
  obtain ⟨schema, isSchema⟩ := built.exists_of_indexed indexed
  obtain ⟨deeper, isDeeper⟩ := deeperBuilt.exists_of_indexed indexed
  have cut : (some schema : Option MessageSchema) =
      some (if depth = 0 then deeper else deeper.cutBelow (depth - 1)) := by
    cases depth with
    | zero =>
        rw [← isSchema, if_pos rfl, ← isDeeper, built.eq_messageSchema?,
          deeperBuilt.eq_messageSchema?]
        rfl
    | succ depth =>
        rw [if_neg (Nat.succ_ne_zero depth), ← isSchema, ← Option.map_some,
          eq_cutBelow_of_isBuilt hidesNone built deeperBuilt, isDeeper]
  have levels : max depth 1 = depth - 1 + 1 := by omega
  rw [isSchema] at built
  refine ⟨schema, deeper, isSchema, isDeeper, built.fullName_eq ordinary,
    built.wellKnown_eq_none ordinary, ?_, Option.some.inj cut⟩
  rw [levels]
  exact isUnfolding_of_isBuilt hidesNone ordinary built

/-- A message that refers to itself, two levels of it and three. -/
theorem TypeIndex.unfoldsByLevels_cycle :
    TypeIndex.ofCycle.HidesNoWellKnown ∧
    TypeIndex.ofCycle.HasPlainEnumReferences ∧
    ∃ schema deeper,
      (Resolver.mk TypeIndex.ofCycle 2).rebuilt "M" = some schema ∧
        (Resolver.mk TypeIndex.ofCycle 3).rebuilt "M" = some deeper ∧
          schema.fullName = "M" ∧ schema.wellKnown = none ∧
            schema.IsUnfolding TypeIndex.ofCycle 2 ∧ schema = deeper.cutBelow 1 := by
  have plain : TypeIndex.ofCycle.HasPlainEnumReferences := by decide +kernel
  have normal : TypeName.normalize "M" = "M" := TypeName.normalize_eq_self (by decide)
  have unfolded :=
    unfoldsByLevels hidesNoWellKnown_ofCycle plain 2 "M" ordinary_name indexed_ofCycle
  rw [normal] at unfolded
  exact ⟨hidesNoWellKnown_ofCycle, plain, unfolded⟩

/-- The full names of what the fields of a message lead to. -/
def MessageSchema.reached (schema : MessageSchema) : List String :=
  schema.fields.filterMap fun field =>
    match field.nested with
    | some (.message inner) =>
        some inner.fullName
    | some (.enum enum) =>
        some enum.fullName
    | _ =>
        none

/-- A root with one level leads to what is left of the same root with two when it is cut. -/
theorem TypeIndex.UnfoldsByLevels.reached_eq
    {index : TypeIndex}
    (unfolds : index.UnfoldsByLevels)
    {name : String}
    (ordinary : WellKnownType.ofName? (TypeName.normalize name) = none)
    (indexed : index.message? (TypeName.normalize name) ≠ none) :
    ((Resolver.mk index 1).rebuilt name).map MessageSchema.reached =
      ((Resolver.mk index 2).rebuilt name).map fun deeper => (deeper.cutBelow 0).reached := by
  obtain ⟨schema, deeper, built, deeperBuilt, _, _, _, cut⟩ := unfolds 1 name ordinary indexed
  rw [built, deeperBuilt, cut]
  rfl

/-- Neither condition can be left out. -/
theorem TypeIndex.not_forall_unfoldsByLevels :
    ¬ (∀ index : TypeIndex, index.HasPlainEnumReferences → index.UnfoldsByLevels) ∧
    ¬ (∀ index : TypeIndex, index.HidesNoWellKnown → index.UnfoldsByLevels) := by
  constructor
  · intro always
    have reached := (always ofHidden (by decide +kernel)).reached_eq ordinary_name
      indexed_ofHidden
    exact absurd reached (by decide +kernel)
  · intro always
    have reached := (always (ofEnumReferences ".E" "..E") (by decide +kernel)).reached_eq
      ordinary_name (by decide +kernel)
    exact absurd reached (by decide +kernel)

end GrpcDiscovery
