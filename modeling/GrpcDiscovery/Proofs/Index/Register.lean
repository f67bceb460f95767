import GrpcDiscovery.TypeIndex

namespace GrpcDiscovery

/-!
# What registering does to an index

Registering enters definitions one after the other, each into the index that the
earlier ones left. A redefinition is an entry that changes the fields of a message
or the values of an enum that stands in the index at that moment, whether a file
before or the same file put it there. Without one, every message keeps its fields
and every enum its values, and in any case nothing enters an index but what the
files define.
-/

namespace TypeIndex

/-- The index after entering definitions in order. -/
def defineEach
    (index : TypeIndex)
    (definitions : List Definition) :
    TypeIndex :=
  definitions.foldl define index

/-- One of the definitions changes what is in the index when it is entered. -/
def RedefinedBy : TypeIndex → List Definition → Prop
  | _, [] =>
      False
  | index, definition :: rest =>
      index.redefines definition = true ∨ (index.define definition).RedefinedBy rest

/-- The index after registering files in order. -/
def registerEach
    (index : TypeIndex)
    (files : List FileDescriptor) :
    TypeIndex :=
  files.foldl (fun index file => (index.register file).1) index

/-- One of the files redefines something when it is registered. -/
def RedefinedByFiles : TypeIndex → List FileDescriptor → Prop
  | _, [] =>
      False
  | index, file :: rest =>
      index.RedefinedBy file.definitions ∨ (index.register file).1.RedefinedByFiles rest

instance decidableRedefinedBy :
    (index : TypeIndex) →
    (definitions : List Definition) →
    Decidable (index.RedefinedBy definitions)
  | _, [] =>
      inferInstanceAs (Decidable False)
  | index, definition :: rest =>
      have := decidableRedefinedBy (index.define definition) rest
      inferInstanceAs (Decidable (_ ∨ _))

instance decidableRedefinedByFiles :
    (index : TypeIndex) →
    (files : List FileDescriptor) →
    Decidable (index.RedefinedByFiles files)
  | _, [] =>
      inferInstanceAs (Decidable False)
  | index, file :: rest =>
      have := decidableRedefinedByFiles (index.register file).1 rest
      inferInstanceAs (Decidable (_ ∨ _))

/-- Entering definitions gives the index after each of them, and tells a redefinition. -/
theorem foldl_define
    (definitions : List Definition)
    (index : TypeIndex)
    (replaced : Bool) :
    let entered :=
      definitions.foldl
        (fun state definition =>
          (state.1.define definition, state.2 || state.1.redefines definition))
        (index, replaced)
    entered.1 = index.defineEach definitions ∧
      (entered.2 = true ↔ replaced = true ∨ index.RedefinedBy definitions) := by
  induction definitions generalizing index replaced with
  | nil =>
      simp [defineEach, RedefinedBy]
  | cons definition rest inductionHypothesis =>
      obtain ⟨same, told⟩ :=
        inductionHypothesis (index.define definition)
          (replaced || index.redefines definition)
      refine ⟨same, told.trans ?_⟩
      rw [Bool.or_eq_true, or_assoc, RedefinedBy]

/-! What entering a list of definitions and registering a file come to. -/

theorem defineAll_fst
    (index : TypeIndex)
    (definitions : List Definition) :
    (index.defineAll definitions).1 = index.defineEach definitions :=
  (foldl_define definitions index false).1

theorem defineAll_snd_iff
    (index : TypeIndex)
    (definitions : List Definition) :
    (index.defineAll definitions).2 = true ↔ index.RedefinedBy definitions := by
  have told := (foldl_define definitions index false).2
  simpa [defineAll] using told

/-- Registering a file enters its definitions, and besides them the file itself. -/
theorem register_fst
    (index : TypeIndex)
    (file : FileDescriptor) :
    (index.register file).1 =
      { index.defineEach file.definitions with
        files := (index.defineEach file.definitions).files.insert file.name file } := by
  rw [← defineAll_fst]
  rfl

/-- Registering a file tells whether one of its definitions changed another. -/
theorem register_snd_iff
    (index : TypeIndex)
    (file : FileDescriptor) :
    (index.register file).2 = true ↔ index.RedefinedBy file.definitions :=
  defineAll_snd_iff index file.definitions

/-! ## What an index holds -/

/-- An index holds a definition under its full name. -/
def Holds (index : TypeIndex) : Definition → Prop
  | .message fullName descriptor =>
      index.messages[fullName]? = some descriptor
  | .enum fullName descriptor =>
      index.enums[fullName]? = some descriptor
  | .service fullName descriptor =>
      index.services[fullName]? = some descriptor

/-- The only definition that is new is the one that was entered. -/
theorem holds_of_define
    {index : TypeIndex}
    {entered definition : Definition}
    (held : (index.define entered).Holds definition) :
    definition = entered ∨ index.Holds definition := by
  cases entered <;> cases definition <;>
    simp only [define, Holds, Std.TreeMap.getElem?_insert] at held ⊢ <;>
    try exact .inr held
  all_goals
    split at held
    · rename_i same
      obtain rfl := Std.LawfulEqOrd.eq_of_compare same
      obtain rfl := Option.some.inj held
      exact .inl rfl
    · exact .inr held

theorem holds_of_defineEach
    {index : TypeIndex}
    {definitions : List Definition}
    {definition : Definition}
    (held : (index.defineEach definitions).Holds definition) :
    definition ∈ definitions ∨ index.Holds definition := by
  induction definitions generalizing index with
  | nil =>
      exact .inr held
  | cons entered rest inductionHypothesis =>
      rcases inductionHypothesis held with later | before
      · exact .inl (List.mem_cons_of_mem entered later)
      · rcases holds_of_define before with rfl | earlier
        · exact .inl List.mem_cons_self
        · exact .inr earlier

/-- What is new after registering a file is one of its definitions. -/
theorem holds_of_register
    {index : TypeIndex}
    {file : FileDescriptor}
    {definition : Definition}
    (held : (index.register file).1.Holds definition) :
    definition ∈ file.definitions ∨ index.Holds definition := by
  apply holds_of_defineEach
  rw [register_fst] at held
  cases definition <;> exact held

/-- What is new after registering files is one of their definitions. -/
theorem holds_of_registerEach
    {index : TypeIndex}
    {files : List FileDescriptor}
    {definition : Definition}
    (held : (index.registerEach files).Holds definition) :
    definition ∈ files.flatMap FileDescriptor.definitions ∨ index.Holds definition := by
  induction files generalizing index with
  | nil =>
      exact .inr held
  | cons file rest inductionHypothesis =>
      rw [List.flatMap_cons, List.mem_append]
      rcases inductionHypothesis held with later | before
      · exact .inl (.inr later)
      · exact (holds_of_register before).imp_left .inl

/-! ## What an index keeps -/

/-- A later index has every message with the fields, and every enum with the values. -/
structure Extends (later index : TypeIndex) : Prop where
  messages : ∀ (name : String) (descriptor : MessageDescriptor),
    index.messages[name]? = some descriptor →
      ∃ other, later.messages[name]? = some other ∧ other.fields = descriptor.fields
  enums : ∀ (name : String) (descriptor : EnumDescriptor),
    index.enums[name]? = some descriptor →
      ∃ other, later.enums[name]? = some other ∧ other.values = descriptor.values

theorem Extends.refl (index : TypeIndex) : index.Extends index where
  messages _ descriptor found := ⟨descriptor, found, rfl⟩
  enums _ descriptor found := ⟨descriptor, found, rfl⟩

theorem Extends.trans
    {first second third : TypeIndex}
    (later : third.Extends second)
    (earlier : second.Extends first) :
    third.Extends first where
  messages := by
    intro name descriptor found
    obtain ⟨middle, foundMiddle, sameMiddle⟩ := earlier.messages name descriptor found
    obtain ⟨last, foundLast, sameLast⟩ := later.messages name middle foundMiddle
    exact ⟨last, foundLast, sameLast.trans sameMiddle⟩
  enums := by
    intro name descriptor found
    obtain ⟨middle, foundMiddle, sameMiddle⟩ := earlier.enums name descriptor found
    obtain ⟨last, foundLast, sameLast⟩ := later.enums name middle foundMiddle
    exact ⟨last, foundLast, sameLast.trans sameMiddle⟩

/-- Entering a definition extends an index, unless the definition changes another. -/
theorem extends_define
    {index : TypeIndex}
    {definition : Definition}
    (kept : index.redefines definition = false) :
    (index.define definition).Extends index := by
  cases definition with
  | message fullName descriptor =>
      refine ⟨?_, (Extends.refl index).enums⟩
      intro name previous found
      rw [define, Std.TreeMap.getElem?_insert]
      split
      · rename_i same
        obtain rfl := Std.LawfulEqOrd.eq_of_compare same
        refine ⟨descriptor, rfl, ?_⟩
        simp only [redefines, found, bne_eq_false_iff_eq] at kept
        exact kept.symm
      · exact ⟨previous, found, rfl⟩
  | enum fullName descriptor =>
      refine ⟨(Extends.refl index).messages, ?_⟩
      intro name previous found
      rw [define, Std.TreeMap.getElem?_insert]
      split
      · rename_i same
        obtain rfl := Std.LawfulEqOrd.eq_of_compare same
        refine ⟨descriptor, rfl, ?_⟩
        simp only [redefines, found, bne_eq_false_iff_eq] at kept
        exact kept.symm
      · exact ⟨previous, found, rfl⟩
  | service fullName descriptor =>
      exact ⟨(Extends.refl index).messages, (Extends.refl index).enums⟩

theorem extends_defineEach
    {index : TypeIndex}
    {definitions : List Definition}
    (kept : ¬ index.RedefinedBy definitions) :
    (index.defineEach definitions).Extends index := by
  induction definitions generalizing index with
  | nil =>
      exact .refl index
  | cons definition rest inductionHypothesis =>
      rw [RedefinedBy, not_or, Bool.not_eq_true] at kept
      exact (inductionHypothesis kept.2).trans (extends_define kept.1)

theorem extends_register
    {index : TypeIndex}
    {file : FileDescriptor}
    (kept : ¬ index.RedefinedBy file.definitions) :
    (index.register file).1.Extends index := by
  rw [register_fst]
  exact ⟨(extends_defineEach kept).messages, (extends_defineEach kept).enums⟩

/-- Registering files extends an index, unless one of them redefines something. -/
theorem extends_registerEach
    {index : TypeIndex}
    {files : List FileDescriptor}
    (kept : ¬ index.RedefinedByFiles files) :
    (index.registerEach files).Extends index := by
  induction files generalizing index with
  | nil =>
      exact .refl index
  | cons file rest inductionHypothesis =>
      rw [RedefinedByFiles, not_or] at kept
      exact (inductionHypothesis kept.2).trans (extends_register kept.1)

end TypeIndex

end GrpcDiscovery
