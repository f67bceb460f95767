import GrpcDiscovery.Schema.Basic
import GrpcDiscovery.TypeName
import Std.Data.TreeMap

namespace GrpcDiscovery

/-!
# The schema cache

Schemas that were built once are kept by full name until the cache is emptied.
Storing a schema under a name that is taken replaces what was there.
-/

/-- The schemas built so far. -/
structure SchemaCache where
  messages : Std.TreeMap String MessageSchema := ∅
  enums : Std.TreeMap String EnumSchema := ∅

namespace SchemaCache

/-- The cache without schemas. -/
def empty : SchemaCache := {}

/-- The message schema of a name. -/
def message?
    (cache : SchemaCache)
    (name : String) :
    Option MessageSchema :=
  cache.messages[TypeName.normalize name]?

/-- The enum schema of a name. -/
def enum?
    (cache : SchemaCache)
    (name : String) :
    Option EnumSchema :=
  cache.enums[TypeName.normalize name]?

/-- Keep a message schema under its full name as it stands. -/
def insertMessage
    (cache : SchemaCache)
    (schema : MessageSchema) :
    SchemaCache :=
  { cache with messages := cache.messages.insert schema.fullName schema }

/-- Keep an enum schema under its full name as it stands. -/
def insertEnum
    (cache : SchemaCache)
    (schema : EnumSchema) :
    SchemaCache :=
  { cache with enums := cache.enums.insert schema.fullName schema }

/-- The number of schemas. -/
def size (cache : SchemaCache) : Nat :=
  cache.messages.size + cache.enums.size

/-- Whether there are no schemas. -/
def isEmpty (cache : SchemaCache) : Bool :=
  cache.size == 0

end SchemaCache

end GrpcDiscovery
