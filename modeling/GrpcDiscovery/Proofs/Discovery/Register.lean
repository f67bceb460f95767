import GrpcDiscovery.Discovery.Register
import GrpcDiscovery.Proofs.Index.Register

namespace GrpcDiscovery

/-!
# What registering files leaves behind

Files are registered up to the first that cannot be read. If there is none, the
cache is emptied whenever one of them redefined something. If there is one, the
failure ends the matter before the cache is looked at: the definitions of the
files before it stand in the index, and the schemas built from the definitions
that they replaced stay in the cache.
-/

namespace Discovery

variable {α : Type}

/-- What is known after a step, whether it failed or not. -/
def stateAfter : EStateM.Result ReflectionError DiscoveryState α → DiscoveryState
  | .ok _ state =>
      state
  | .error _ state =>
      state

/-- The files that are registered: those before the first that cannot be read. -/
def readable : List Bytes → List FileDescriptor
  | [] =>
      []
  | bytes :: rest =>
      match FileDescriptor.decode bytes with
      | .ok file =>
          file :: readable rest
      | .error _ =>
          []

/-- Every file can be read. -/
def AllReadable (files : List Bytes) : Prop :=
  ∀ bytes ∈ files, ∃ file, FileDescriptor.decode bytes = .ok file

/-- What is registered are files that were read. -/
theorem exists_decode_of_mem_readable
    {files : List Bytes}
    {file : FileDescriptor}
    (member : file ∈ readable files) :
    ∃ bytes ∈ files, FileDescriptor.decode bytes = .ok file := by
  induction files with
  | nil =>
      simp [readable] at member
  | cons bytes rest inductionHypothesis =>
      rw [readable] at member
      split at member
      · rename_i first decoded
        rcases List.mem_cons.mp member with rfl | later
        · exact ⟨bytes, List.mem_cons_self, decoded⟩
        · obtain ⟨others, inside, decodedLater⟩ := inductionHypothesis later
          exact ⟨others, List.mem_cons_of_mem bytes inside, decodedLater⟩
      · simp at member

/-- Files that can all be read are registered, and redefinitions are told. -/
theorem registerEach_of_allReadable
    {files : List Bytes}
    (allReadable : AllReadable files)
    (state : DiscoveryState) :
    ∃ imports replaced,
      registerEach files state =
        .ok (imports, replaced)
          { state with index := state.index.registerEach (readable files) } ∧
      (replaced = true ↔ state.index.RedefinedByFiles (readable files)) := by
  induction files generalizing state with
  | nil =>
      exact ⟨[], false, rfl, by simp [readable, TypeIndex.RedefinedByFiles]⟩
  | cons bytes rest inductionHypothesis =>
      obtain ⟨file, decoded⟩ := allReadable bytes List.mem_cons_self
      obtain ⟨imports, replaced, registered, told⟩ :=
        inductionHypothesis
          (fun other member => allReadable other (List.mem_cons_of_mem bytes member))
          { state with index := (state.index.register file).1 }
      refine ⟨file.dependencies ++ imports,
        (state.index.register file).2 || replaced, ?_, ?_⟩
      · simp only [registerEach, decoded, registered, readable]
        rfl
      · simp only [readable, decoded, TypeIndex.RedefinedByFiles, Bool.or_eq_true, told,
          TypeIndex.register_snd_iff]

/-- The first file that cannot be read ends the matter, with those before it registered. -/
theorem registerEach_of_not_allReadable
    {files : List Bytes}
    (unreadable : ¬ AllReadable files)
    (state : DiscoveryState) :
    ∃ failure,
      registerEach files state =
        .error failure
          { state with index := state.index.registerEach (readable files) } := by
  induction files generalizing state with
  | nil =>
      exact absurd (by simp [AllReadable]) unreadable
  | cons bytes rest inductionHypothesis =>
      cases decoded : FileDescriptor.decode bytes with
      | error failure =>
          refine ⟨.malformedDescriptor (.file failure), ?_⟩
          simp only [registerEach, decoded, readable]
          rfl
      | ok file =>
          have unreadableRest : ¬ AllReadable rest := by
            intro readableRest
            apply unreadable
            rw [AllReadable, List.forall_mem_cons]
            exact ⟨⟨file, decoded⟩, readableRest⟩
          obtain ⟨failure, registered⟩ :=
            inductionHypothesis unreadableRest
              { state with index := (state.index.register file).1 }
          refine ⟨failure, ?_⟩
          simp only [registerEach, decoded, registered, readable]
          rfl

/-- Files that can all be read leave an empty cache if and only if they redefine something. -/
theorem registerFiles_of_allReadable
    {files : List Bytes}
    (allReadable : AllReadable files)
    (state : DiscoveryState) :
    ∃ missing cache,
      registerFiles files state =
        .ok missing
          { state with
            index := state.index.registerEach (readable files)
            cache := cache } ∧
      (state.index.RedefinedByFiles (readable files) → cache = .empty) ∧
      (¬ state.index.RedefinedByFiles (readable files) → cache = state.cache) := by
  obtain ⟨imports, replaced, registered, told⟩ :=
    registerEach_of_allReadable allReadable state
  rw [← told, registerFiles, registered]
  refine ⟨_, _, rfl, ?_, ?_⟩
  · intro redefined
    rw [if_pos redefined]
  · intro untouched
    rw [if_neg untouched]

/-- A file that cannot be read leaves the cache as it was. -/
theorem registerFiles_of_not_allReadable
    {files : List Bytes}
    (unreadable : ¬ AllReadable files)
    (state : DiscoveryState) :
    ∃ failure,
      registerFiles files state =
        .error failure
          { state with index := state.index.registerEach (readable files) } := by
  obtain ⟨failure, registered⟩ := registerEach_of_not_allReadable unreadable state
  exact ⟨failure, by rw [registerFiles, registered]⟩

theorem registerFiles_history
    (files : List Bytes)
    (state : DiscoveryState) :
    (stateAfter (registerFiles files state)).history = state.history := by
  by_cases allReadable : AllReadable files
  · obtain ⟨missing, cache, registered, _⟩ := registerFiles_of_allReadable allReadable state
    rw [registered]
    rfl
  · obtain ⟨failure, registered⟩ := registerFiles_of_not_allReadable allReadable state
    rw [registered]
    rfl

end Discovery

namespace SchemaCache

/-- A later cache has none of the entries that a cache had before. -/
def KeepsNothingOf (later before : SchemaCache) : Prop :=
  (∀ (name : String) (schema : MessageSchema),
    before.messages[name]? = some schema → later.messages[name]? ≠ some schema) ∧
  (∀ (name : String) (schema : EnumSchema),
    before.enums[name]? = some schema → later.enums[name]? ≠ some schema)

theorem empty_keepsNothingOf (before : SchemaCache) : empty.KeepsNothingOf before := by
  refine ⟨?_, ?_⟩
  all_goals
    intro name schema _ kept
    simp [empty] at kept

/-- Entries that contradict themselves are no entries. -/
theorem forall_entry_ne_self_iff
    {β : Type}
    (entries : Std.TreeMap String β) :
    (∀ (name : String) (value : β),
      entries[name]? = some value → entries[name]? ≠ some value) ↔
        entries.isEmpty = true := by
  rw [Std.TreeMap.isEmpty_iff_forall_not_mem]
  constructor
  · intro none name present
    have found := Std.TreeMap.getElem?_eq_some_getElem present
    exact none name _ found found
  · intro none name value found
    have present : name ∈ entries := by
      rw [Std.TreeMap.mem_iff_isSome_getElem?, found]
      rfl
    exact absurd present (none name)

/-- A cache keeps nothing of itself only if there is nothing in it. -/
theorem keepsNothingOf_self_iff (cache : SchemaCache) :
    cache.KeepsNothingOf cache ↔ cache.isEmpty = true := by
  rw [KeepsNothingOf, forall_entry_ne_self_iff, forall_entry_ne_self_iff, isEmpty, size]
  simp [Std.TreeMap.isEmpty_eq_size_eq_zero]

end SchemaCache

namespace Discovery

/--
A redefinition rids the cache of what was in it exactly where every file of the
batch can be read, or nothing was in it.
-/
theorem registerFiles_keepsNothing_iff
    (files : List Bytes)
    (state : DiscoveryState)
    (redefined : state.index.RedefinedByFiles (readable files)) :
    (stateAfter (registerFiles files state)).cache.KeepsNothingOf state.cache ↔
      AllReadable files ∨ state.cache.isEmpty = true := by
  by_cases allReadable : AllReadable files
  · obtain ⟨missing, cache, registered, emptied, _⟩ :=
      registerFiles_of_allReadable allReadable state
    obtain rfl := emptied redefined
    rw [registered]
    exact iff_of_true (SchemaCache.empty_keepsNothingOf state.cache) (.inl allReadable)
  · obtain ⟨failure, registered⟩ := registerFiles_of_not_allReadable allReadable state
    rw [registered, or_iff_right allReadable]
    exact SchemaCache.keepsNothingOf_self_iff state.cache

/-- The bytes of a file with the enum `E`, whose only value is `A`. -/
def enumFileBytes : Bytes :=
  [0x2a, 0x0a, 0x0a, 0x01, 0x45, 0x12, 0x05, 0x0a, 0x01, 0x41, 0x10, 0x00]

/-- Bytes that end in the middle of a name. -/
def truncatedBytes : Bytes :=
  [0x0a, 0x05, 0x61]

/-- What is known of the enum `E` from a file that gave it no values. -/
def emptyEnumKnown : DiscoveryState where
  index := TypeIndex.empty.define (.enum "E" ⟨"E", []⟩)
  cache := SchemaCache.empty.insertEnum ⟨"E", "E", []⟩

theorem emptyEnumKnown_cached :
    emptyEnumKnown.cache.enums["E"]? = some ⟨"E", "E", []⟩ :=
  Std.TreeMap.getElem?_insert_self

/-- The file that gives `E` a value redefines it, and is registered first. -/
theorem redefined_enumFile :
    emptyEnumKnown.index.RedefinedByFiles (readable [enumFileBytes, truncatedBytes]) := by
  decide +kernel

theorem not_allReadable_truncated : ¬ AllReadable [enumFileBytes, truncatedBytes] := by
  intro allReadable
  obtain ⟨file, decoded⟩ := allReadable truncatedBytes (by simp)
  have unreadable : (FileDescriptor.decode truncatedBytes).isOk = false := by
    decide +kernel
  rw [decoded] at unreadable
  exact Bool.noConfusion unreadable

/-- With the truncated bytes after it, the redefinition leaves the old schema of `E`. -/
theorem registerFiles_keepsNothing_iff_truncated :
    emptyEnumKnown.index.RedefinedByFiles (readable [enumFileBytes, truncatedBytes]) ∧
      ¬ (stateAfter (registerFiles [enumFileBytes, truncatedBytes]
        emptyEnumKnown)).cache.KeepsNothingOf emptyEnumKnown.cache := by
  refine ⟨redefined_enumFile, ?_⟩
  rw [registerFiles_keepsNothing_iff _ _ redefined_enumFile, not_or]
  refine ⟨not_allReadable_truncated, ?_⟩
  rw [← SchemaCache.keepsNothingOf_self_iff]
  intro kept
  exact kept.2 "E" _ emptyEnumKnown_cached emptyEnumKnown_cached

/-- Not every redefinition rids the cache of what was in it. -/
theorem not_forall_redefined_keepsNothing :
    ¬ ∀ files state, state.index.RedefinedByFiles (readable files) →
      (stateAfter (registerFiles files state)).cache.KeepsNothingOf state.cache := by
  intro always
  obtain ⟨failure, registered⟩ :=
    registerFiles_of_not_allReadable not_allReadable_truncated emptyEnumKnown
  have kept := always _ _ redefined_enumFile
  rw [registered] at kept
  exact kept.2 "E" _ emptyEnumKnown_cached emptyEnumKnown_cached

end Discovery

end GrpcDiscovery
