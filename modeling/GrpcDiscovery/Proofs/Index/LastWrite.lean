import GrpcDiscovery.Proofs.Index.Lookup
import Mathlib.Data.Set.Card

namespace GrpcDiscovery

/-!
# The last definition of a name

A file lists its definitions in an order: of every message first the messages inside it,
then its enums and then the message itself, and after all messages the enums and the
services of the file. Each stands under its simple name inside the scopes around it, and
since simple names may be empty or have dots, definitions from different scopes can meet
under one full name.

Registering a file enters the list from front to back. So of every kind and full name
the last definition of the list is found afterwards, and where there is none, what was
found before.
-/

/-- The definitions of messages in a scope, in the order in which they are registered. -/
inductive MessageDescriptor.ListAs :
    (scope : String) →
    List MessageDescriptor →
    List Definition →
    Prop where
  | nil
      {scope : String} :
      ListAs scope [] []
  | cons
      {scope : String}
      {message : MessageDescriptor}
      {rest : List MessageDescriptor}
      {inside further : List Definition}
      (nested :
        ListAs (TypeName.qualify scope message.name) message.nestedTypes inside)
      (others : ListAs scope rest further) :
      ListAs scope (message :: rest)
        (inside ++
          message.enumTypes.map (fun enum =>
            .enum (TypeName.qualify (TypeName.qualify scope message.name) enum.name) enum) ++
          [.message (TypeName.qualify scope message.name) message] ++
          further)

/-- The definitions of a file, in the order in which they are registered. -/
inductive FileDescriptor.ListsAs (file : FileDescriptor) : List Definition → Prop where
  | inOrder
      {messages : List Definition}
      (listed : MessageDescriptor.ListAs file.package file.messageTypes messages) :
      ListsAs file
        (messages ++
          file.enumTypes.map (fun enum =>
            .enum (TypeName.qualify file.package enum.name) enum) ++
          file.services.map (fun service =>
            .service (TypeName.qualify file.package service.name) service))

namespace MessageDescriptor

mutual

theorem listAs_singleton_definitions
    (scope : String)
    (message : MessageDescriptor) :
    ListAs scope [message] (message.definitions scope) := by
  rcases message with ⟨name, fields, nestedTypes, enumTypes⟩
  have nested := listAs_listDefinitions (TypeName.qualify scope name) nestedTypes
  rw [definitions, ← List.append_nil (_ ++ [_])]
  exact .cons nested .nil

theorem listAs_listDefinitions
    (scope : String)
    (messages : List MessageDescriptor) :
    ListAs scope messages (listDefinitions scope messages) := by
  cases messages with
  | nil =>
      exact .nil
  | cons message rest =>
      have first := listAs_singleton_definitions scope message
      have others := listAs_listDefinitions scope rest
      rw [listDefinitions]
      generalize message.definitions scope = own at first
      cases first with
      | cons nested none =>
          cases none
          rw [List.append_nil]
          exact .cons nested others

end

/-- There is one list of the definitions of messages, by induction on how it comes about. -/
theorem ListAs.eq_listDefinitions
    {scope : String}
    {messages : List MessageDescriptor}
    {listed : List Definition}
    (list : ListAs scope messages listed) :
    listed = listDefinitions scope messages := by
  induction list with
  | nil =>
      rw [listDefinitions]
  | @cons scope message rest inside further nested others insideSame furtherSame =>
      subst insideSame furtherSame
      rcases message with ⟨name, fields, nestedTypes, enumTypes⟩
      rw [listDefinitions, definitions]
      rfl

end MessageDescriptor

/-- What a file lists is what is registered of it. -/
theorem FileDescriptor.listsAs_iff
    {file : FileDescriptor}
    {listed : List Definition} :
    file.ListsAs listed ↔ listed = file.definitions := by
  constructor
  · rintro ⟨list⟩
    rw [list.eq_listDefinitions, definitions]
    rfl
  · rintro rfl
    exact .inOrder (MessageDescriptor.listAs_listDefinitions file.package file.messageTypes)

/-! ## What a definition says of a name -/

namespace Definition

/-- The message that a definition gives to a full name. -/
def messageNamed?
    (name : String) :
    Definition →
    Option MessageDescriptor
  | .message fullName descriptor =>
      if fullName = name then some descriptor else none
  | _ =>
      none

/-- The enum that a definition gives to a full name. -/
def enumNamed?
    (name : String) :
    Definition →
    Option EnumDescriptor
  | .enum fullName descriptor =>
      if fullName = name then some descriptor else none
  | _ =>
      none

/-- The service that a definition gives to a full name. -/
def serviceNamed?
    (name : String) :
    Definition →
    Option ServiceDescriptor
  | .service fullName descriptor =>
      if fullName = name then some descriptor else none
  | _ =>
      none

/-- The full name of a message. -/
def messageName? : Definition → Option String
  | .message fullName _ =>
      some fullName
  | _ =>
      none

/-- The full name of an enum. -/
def enumName? : Definition → Option String
  | .enum fullName _ =>
      some fullName
  | _ =>
      none

end Definition

namespace TypeIndex

/--
A view that every entry either sets or leaves alone shows the last value that was set,
or else what it showed at first.
-/
theorem view_defineEach
    {Value : Type}
    (view : TypeIndex → Option Value)
    (setBy : Definition → Option Value)
    (view_define : ∀ index definition,
      view (index.define definition) = (setBy definition).or (view index))
    (index : TypeIndex)
    (definitions : List Definition) :
    view (index.defineEach definitions) =
      (definitions.filterMap setBy).getLast?.or (view index) := by
  induction definitions using List.reverseRecOn with
  | nil =>
      rfl
  | append_singleton earlier last inductionHypothesis =>
      rw [defineEach, List.foldl_append, List.foldl_cons, List.foldl_nil, view_define,
        ← defineEach, inductionHypothesis, List.filterMap_append, List.getLast?_append,
        Option.or_assoc]
      congr 1
      cases set : setBy last with
      | none =>
          rw [List.filterMap_cons_none set]
          rfl
      | some value =>
          rw [List.filterMap_cons_some set]
          rfl

/-! Each of the three look-ups is such a view. -/

theorem message?_define
    (index : TypeIndex)
    (definition : Definition)
    (query : String) :
    (index.define definition).message? query =
      (definition.messageNamed? (TypeName.normalize query)).or (index.message? query) := by
  cases definition with
  | message fullName descriptor =>
      simp only [define, message?, Std.TreeMap.getElem?_insert,
        Std.LawfulEqOrd.compare_eq_iff_eq, Definition.messageNamed?]
      split <;> rfl
  | _ =>
      rfl

theorem enum?_define
    (index : TypeIndex)
    (definition : Definition)
    (query : String) :
    (index.define definition).enum? query =
      (definition.enumNamed? (TypeName.normalize query)).or (index.enum? query) := by
  cases definition with
  | enum fullName descriptor =>
      simp only [define, enum?, Std.TreeMap.getElem?_insert,
        Std.LawfulEqOrd.compare_eq_iff_eq, Definition.enumNamed?]
      split <;> rfl
  | _ =>
      rfl

theorem service?_define
    (index : TypeIndex)
    (definition : Definition)
    (query : String) :
    (index.define definition).service? query =
      (definition.serviceNamed? (TypeName.normalize query)).or (index.service? query) := by
  cases definition with
  | service fullName descriptor =>
      simp only [define, service?, Std.TreeMap.getElem?_insert,
        Std.LawfulEqOrd.compare_eq_iff_eq, Definition.serviceNamed?]
      split <;> rfl
  | _ =>
      rfl

/--
An index finds of every name the last of some definitions, or else what another index
finds, and it has one file more.
-/
structure IsLastWrite
    (before : TypeIndex)
    (path : String)
    (definitions : List Definition)
    (after : TypeIndex) :
    Prop where
  message : ∀ query, after.message? query =
    (definitions.filterMap (Definition.messageNamed? (TypeName.normalize query))).getLast?.or
      (before.message? query)
  enum : ∀ query, after.enum? query =
    (definitions.filterMap (Definition.enumNamed? (TypeName.normalize query))).getLast?.or
      (before.enum? query)
  service : ∀ query, after.service? query =
    (definitions.filterMap (Definition.serviceNamed? (TypeName.normalize query))).getLast?.or
      (before.service? query)
  file : ∀ other, after.hasFile other = true ↔ other = path ∨ before.hasFile other = true

/-- Registering a file is a last write of its definitions. -/
theorem isLastWrite_definitions
    (index : TypeIndex)
    (file : FileDescriptor) :
    index.IsLastWrite file.name file.definitions (index.register file).1 where
  message query := by
    rw [register_fst]
    exact view_defineEach (·.message? query) (Definition.messageNamed? (TypeName.normalize query))
      (message?_define · · query) index file.definitions
  enum query := by
    rw [register_fst]
    exact view_defineEach (·.enum? query) (Definition.enumNamed? (TypeName.normalize query))
      (enum?_define · · query) index file.definitions
  service query := by
    rw [register_fst]
    exact view_defineEach (·.service? query) (Definition.serviceNamed? (TypeName.normalize query))
      (service?_define · · query) index file.definitions
  file := hasFile_register_iff index file

/-! ## The number of messages -/

/-- The full names of the messages in an index. -/
def messageNames (index : TypeIndex) : Set String :=
  {name | name ∈ index.messages}

/-- Every message counts once. -/
theorem messageCount_eq_ncard (index : TypeIndex) :
    index.messageCount = index.messageNames.ncard := by
  have distinct : index.messages.keys.Nodup := by
    have apart := index.messages.distinct_keys
    simpa [List.Nodup] using apart
  have same : index.messageNames = ↑index.messages.keys.toFinset := by
    ext name
    simp [messageNames]
  rw [same, Set.ncard_coe_finset, List.toFinset_card_of_nodup distinct,
    Std.TreeMap.length_keys, messageCount]

theorem messageNames_define
    (index : TypeIndex)
    (definition : Definition) :
    (index.define definition).messageNames =
      index.messageNames ∪ {name | definition.messageName? = some name} := by
  ext name
  cases definition with
  | message fullName descriptor =>
      simp only [messageNames, define, Definition.messageName?, Set.mem_ofPred_eq, Set.mem_union,
        Std.TreeMap.mem_insert, Std.LawfulEqOrd.compare_eq_iff_eq, Option.some.injEq]
      exact or_comm
  | _ =>
      simp [messageNames, define, Definition.messageName?]

theorem messageNames_defineEach
    (index : TypeIndex)
    (definitions : List Definition) :
    (index.defineEach definitions).messageNames =
      index.messageNames ∪
        {name | ∃ definition ∈ definitions, definition.messageName? = some name} := by
  induction definitions generalizing index with
  | nil =>
      simp [defineEach]
  | cons definition rest inductionHypothesis =>
      rw [defineEach, List.foldl_cons, ← defineEach, inductionHypothesis, messageNames_define,
        Set.union_assoc]
      congr 1
      ext name
      simp

end TypeIndex

/-- One of the definitions that a file lists is a message of a full name. -/
def FileDescriptor.HasMessage
    (file : FileDescriptor)
    (name : String) :
    Prop :=
  ∃ listed descriptor, file.ListsAs listed ∧ Definition.message name descriptor ∈ listed

theorem FileDescriptor.hasMessage_iff
    {file : FileDescriptor}
    {name : String} :
    file.HasMessage name ↔
      ∃ definition ∈ file.definitions, definition.messageName? = some name := by
  constructor
  · rintro ⟨listed, descriptor, lists, member⟩
    obtain rfl := listsAs_iff.mp lists
    exact ⟨_, member, rfl⟩
  · rintro ⟨definition, member, named⟩
    cases definition with
    | message fullName descriptor =>
        obtain rfl := Option.some.inj named
        exact ⟨_, descriptor, listsAs_iff.mpr rfl, member⟩
    | _ =>
        cases named

namespace TypeIndex

theorem messageNames_register
    (index : TypeIndex)
    (file : FileDescriptor) :
    (index.register file).1.messageNames = index.messageNames ∪ {name | file.HasMessage name} := by
  have names := index.messageNames_defineEach file.definitions
  simp only [FileDescriptor.hasMessage_iff]
  rw [← names, register_fst]
  rfl

/-- Registering files adds the names of all their messages. -/
theorem messageNames_registerEach
    (index : TypeIndex)
    (files : List FileDescriptor) :
    (index.registerEach files).messageNames =
      index.messageNames ∪ {name | ∃ file ∈ files, file.HasMessage name} := by
  induction files generalizing index with
  | nil =>
      simp [registerEach]
  | cons file rest inductionHypothesis =>
      rw [registerEach, List.foldl_cons, ← registerEach, inductionHypothesis,
        messageNames_register, Set.union_assoc]
      congr 1
      ext name
      simp

theorem messageNames_eq_empty
    {index : TypeIndex}
    (noMessages : index.messageCount = 0) :
    index.messageNames = ∅ := by
  have isEmpty : index.messages.isEmpty = true := by
    rw [Std.TreeMap.isEmpty_eq_size_eq_zero]
    exact beq_iff_eq.mpr noMessages
  ext name
  simp [messageNames, Std.TreeMap.mem_iff_contains,
    Std.TreeMap.contains_of_isEmpty isEmpty]

/--
After a file is registered, the last of its definitions of a kind and a name is what is
found, and what was found before where there is none; of the files only its own joins.

The file lists its definitions in one way only. There are as many messages as the files
that were registered since there was none have names for them.
-/
theorem register_isLastWrite
    (index : TypeIndex)
    (file : FileDescriptor) :
    ∃ listed, (∀ other, file.ListsAs other ↔ other = listed) ∧
      index.IsLastWrite file.name listed (index.register file).1 ∧
      ∀ (start : TypeIndex) (files : List FileDescriptor),
        start.messageCount = 0 → index = start.registerEach files →
        (index.register file).1.messageCount =
          {name | ∃ other ∈ files ++ [file], other.HasMessage name}.ncard := by
  refine ⟨file.definitions, fun _ => FileDescriptor.listsAs_iff,
    isLastWrite_definitions index file, ?_⟩
  rintro start files noMessages rfl
  have names := start.messageNames_registerEach (files ++ [file])
  rw [messageNames_eq_empty noMessages, Set.empty_union] at names
  rw [← names, ← messageCount_eq_ncard, registerEach, registerEach, List.foldl_append]
  rfl

/-- A message `A.B` with a field of a name. -/
def dottedMessage (fieldName : String) : MessageDescriptor :=
  { name := "A.B"
    fields :=
      [{ name := fieldName, jsonName := fieldName, number := 1, type := .string, label := .optional,
         typeName := none, oneofIndex := none }] }

/-- A file with a message `B` inside a message `A`, and a message `A.B` after them. -/
def collidingFile : FileDescriptor :=
  { name := "c"
    messageTypes := [{ name := "A", nestedTypes := [{ name := "B" }] }, dottedMessage "new"] }

/-- Of three definitions of one name, two in one file, the last one is found. -/
theorem register_isLastWrite_colliding :
    let index := empty.registerEach [{ name := "a", messageTypes := [dottedMessage "old"] }]
    empty.messageCount = 0 ∧
      (index.register collidingFile).1.message? ".A.B" = some (dottedMessage "new") ∧
      (index.register collidingFile).1.messageCount =
        {name | ∃ other ∈
          [{ name := "a", messageTypes := [dottedMessage "old"] }, collidingFile],
          other.HasMessage name}.ncard := by
  intro index
  obtain ⟨listed, lists, written, counted⟩ := register_isLastWrite index collidingFile
  refine ⟨rfl, ?_, counted empty _ rfl rfl⟩
  obtain rfl : collidingFile.definitions = listed :=
    (lists _).mp (FileDescriptor.listsAs_iff.mpr rfl)
  have last : (collidingFile.definitions.filterMap
      (Definition.messageNamed? (TypeName.normalize ".A.B"))).getLast? =
        some (dottedMessage "new") := by
    decide +kernel
  rw [written.message, last, Option.some_or]

end TypeIndex

end GrpcDiscovery
