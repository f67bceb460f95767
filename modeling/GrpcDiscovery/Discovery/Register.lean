import GrpcDiscovery.Descriptor.Decode
import GrpcDiscovery.Reflection.Channel
import GrpcDiscovery.Schema.Cache
import GrpcDiscovery.TypeIndex

namespace GrpcDiscovery

/-!
# Registering files

Files that a server sends are decoded and registered one after the other. When
one of them changed a definition that was there before, the schemas built so far
are no longer right, and the cache is emptied. What is still to be fetched
afterwards are the imported files that are not registered, apart from those that
every client has.
-/

/-- What a client knows, with the exchanges that brought it there. -/
structure DiscoveryState where
  index : TypeIndex := .empty
  cache : SchemaCache := .empty
  history : List Exchange := []

/-- A computation on what a client knows that may fail. -/
abbrev Discovery :=
  EStateM ReflectionError DiscoveryState

namespace Discovery

/-- Carry out exchanges. -/
def exchanging
    {α : Type}
    (action : Exchanging α) :
    Discovery α := fun state =>
  match action state.history with
  | (.ok value, history) =>
      .ok value { state with history := history }
  | (.error failure, history) =>
      .error failure { state with history := history }

/-- Decode files and register them, with their imports and whether they changed anything. -/
def registerEach : List Bytes → Discovery (List String × Bool)
  | [], state =>
      .ok ([], false) state
  | bytes :: rest, state =>
      match FileDescriptor.decode bytes with
      | .error failure =>
          .error (.malformedDescriptor (.file failure)) state
      | .ok file =>
          let (index, replaced) := state.index.register file
          match registerEach rest { state with index := index } with
          | .error failure state =>
              .error failure state
          | .ok (imports, later) state =>
              .ok (file.dependencies ++ imports, replaced || later) state

/-- Whether every client has a file. -/
def isBundled (path : String) : Bool :=
  path.startsWith "google/protobuf/"

/-- Whether an imported file is still to be fetched. -/
def isMissing
    (index : TypeIndex)
    (path : String) :
    Bool :=
  !isBundled path && !index.hasFile path

/-- Register files, and list the imports that are missing then. -/
def registerFiles
    (files : List Bytes)
    (state : DiscoveryState) :
    EStateM.Result ReflectionError DiscoveryState (List String) :=
  match registerEach files state with
  | .error failure state =>
      .error failure state
  | .ok (imports, replaced) state =>
      let cache := if replaced then .empty else state.cache
      .ok (imports.filter (isMissing state.index)) { state with cache := cache }

/-- The paths that a file imports, if it can be read. -/
def importsOf (bytes : Bytes) : List String :=
  match FileDescriptor.decode bytes with
  | .ok file =>
      file.dependencies
  | .error _ =>
      []

/-- The imports of registered files are those of the files. -/
theorem imports_of_registerEach
    {files : List Bytes}
    {state later : DiscoveryState}
    {imports : List String}
    {replaced : Bool}
    (registered :
      registerEach files state = .ok (imports, replaced) later) :
    imports = files.flatMap importsOf := by
  induction files generalizing state imports replaced later with
  | nil =>
      simp only [registerEach, EStateM.Result.ok.injEq, Prod.mk.injEq] at registered
      simp [registered.1.1]
  | cons bytes rest inductionHypothesis =>
      simp only [registerEach] at registered
      cases decoded : FileDescriptor.decode bytes with
      | error failure =>
          simp [decoded] at registered
      | ok file =>
          simp only [decoded] at registered
          cases tail : registerEach rest
              { state with index := (state.index.register file).1 } with
          | error failure next =>
              simp [tail] at registered
          | ok result next =>
              obtain ⟨others, changed⟩ := result
              simp only [tail, EStateM.Result.ok.injEq, Prod.mk.injEq] at registered
              rw [← registered.1.1, inductionHypothesis tail]
              simp [importsOf, decoded]

/-- What is missing after registering files are imports of these files. -/
theorem mem_imports_of_registerFiles
    {files : List Bytes}
    {state later : DiscoveryState}
    {missing : List String}
    (registered :
      registerFiles files state = .ok missing later)
    {path : String}
    (member : path ∈ missing) :
    path ∈ files.flatMap importsOf := by
  simp only [registerFiles] at registered
  cases each : registerEach files state with
  | error failure next =>
      simp [each] at registered
  | ok result next =>
      obtain ⟨imports, replaced⟩ := result
      simp only [each, EStateM.Result.ok.injEq] at registered
      rw [← registered.1] at member
      rw [← imports_of_registerEach each]
      exact (List.mem_filter.mp member).1

end Discovery

end GrpcDiscovery
