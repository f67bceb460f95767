import GrpcDiscovery.Schema.Cache
import GrpcDiscovery.Schema.WellKnown
import GrpcDiscovery.TypeIndex

namespace GrpcDiscovery

/-!
# Resolution

A resolver follows the references of an indexed message and builds its schema,
down to a depth. A chain of messages one inside the other, well-known types
apart, is no longer than the depth, and a depth of nothing counts as one; what
lies below stays unresolved. References to enums are followed at every depth.

Message schemas of full depth and every enum schema met on the way are kept in a
cache. A look-up by `resolveMessage` answers from the cache where it can, while
`rebuildMessage` always reads the index.
-/

/-- The default depth of schemas and of templates. -/
def defaultMaxDepth : Nat := 6

/-- What schemas are built from, and how deep. -/
structure Resolver where
  index : TypeIndex
  maxDepth : Nat := defaultMaxDepth

namespace Resolver

/-- A computation that may use and fill the schema cache. -/
abbrev Cached := StateM SchemaCache

/-- The schema of an enum, from the cache or else from the index. -/
def resolveEnum
    (resolver : Resolver)
    (name : String) :
    Cached (Option EnumSchema) := do
  let fullName := TypeName.normalize name
  let cache ← get
  match cache.enum? fullName with
  | some cached =>
      return some cached
  | none =>
      match resolver.index.enum? fullName with
      | none =>
          return none
      | some descriptor =>
          let schema := EnumSchema.ofDescriptor fullName descriptor
          set (cache.insertEnum schema)
          return some schema

/--
What a field refers to, given how the messages below are built.

Only fields of message and enum types refer to anything. `deeper` is absent
where the depth is used up.
-/
def resolveReference
    (resolver : Resolver)
    (deeper : Option (String → Cached (Option MessageSchema)))
    (field : FieldDescriptor) :
    Cached (Option NestedSchema) := do
  match field.type.jsonKind, field.typeName with
  | .object, none =>
      return some .unresolved
  | .enumString, none =>
      return some .unresolved
  | .enumString, some typeName =>
      match ← resolver.resolveEnum typeName with
      | some schema =>
          return some (.enum schema)
      | none =>
          return some .unresolved
  | .object, some typeName =>
      match WellKnownType.ofName? typeName, deeper with
      | some type, _ =>
          return some (.message (.ofWellKnown type))
      | none, none =>
          return some .unresolved
      | none, some build =>
          match ← build (TypeName.normalize typeName) with
          | some schema =>
              return some (.message schema)
          | none =>
              return some .unresolved
  | _, _ =>
      return none

/-- The fields of a message with their references followed, in order. -/
def resolveFields
    (resolver : Resolver)
    (deeper : Option (String → Cached (Option MessageSchema))) :
    List FieldDescriptor →
    Cached (List FieldSchema)
  | [] =>
      return []
  | field :: rest => do
      let nested ← resolver.resolveReference deeper field
      let others ← resolver.resolveFields deeper rest
      return ⟨field, nested⟩ :: others

/-- The schema of a message with at most `levels` levels of messages below it. -/
def buildMessage
    (resolver : Resolver) :
    (levels : Nat) →
    (name : String) →
    Cached (Option MessageSchema)
  | levels, name => do
      match WellKnownType.ofName? name with
      | some type =>
          return some (.ofWellKnown type)
      | none =>
          match resolver.index.message? name with
          | none =>
              return none
          | some descriptor =>
              let deeper :=
                match levels with
                | 0 =>
                    none
                | levels + 1 =>
                    some (resolver.buildMessage levels)
              let fields ← resolver.resolveFields deeper descriptor.fields
              return some {
                name := descriptor.name
                fullName := name
                fields := fields
                wellKnown := none
              }

/-- The schema of a message as the index has it now, which takes the place of a cached one. -/
def rebuildMessage
    (resolver : Resolver)
    (name : String) :
    Cached (Option MessageSchema) := do
  let fullName := TypeName.normalize name
  match WellKnownType.ofName? fullName with
  | some type =>
      return some (.ofWellKnown type)
  | none =>
      match ← resolver.buildMessage (resolver.maxDepth - 1) fullName with
      | none =>
          return none
      | some schema =>
          modify fun cache => cache.insertMessage schema
          return some schema

/-- The schema of a message, from the cache or else from the index. -/
def resolveMessage
    (resolver : Resolver)
    (name : String) :
    Cached (Option MessageSchema) := do
  let fullName := TypeName.normalize name
  match WellKnownType.ofName? fullName with
  | some type =>
      return some (.ofWellKnown type)
  | none =>
      let cache ← get
      match cache.message? fullName with
      | some cached =>
          return some cached
      | none =>
          resolver.rebuildMessage fullName

/-- The schema of a message of that name, or else of an enum. -/
def resolve
    (resolver : Resolver)
    (name : String) :
    Cached (Option ResolvedSchema) := do
  match ← resolver.resolveMessage name with
  | some schema =>
      return some (.message schema)
  | none =>
      match ← resolver.resolveEnum name with
      | some schema =>
          return some (.enum schema)
      | none =>
          return none

end Resolver

end GrpcDiscovery
