import GrpcDiscovery.Proofs.Index.LastWrite

namespace GrpcDiscovery

/-!
# Whether a file replaces what is indexed

Registering a file tells whether one of its definitions changed what the index held when
its turn came. If nothing is told, every message has kept its fields and every enum its
values. The other direction needs a file that names its messages and its enums apart:
then no definition meets one of the same file, and what is told is just that something
from before the file has changed. Such a file changes nothing when it comes again.
-/

namespace Definition

/-- Two messages, or two enums, of one full name; a service never counts as changed. -/
structure MeetsWith (first second : Definition) : Prop where
  kind : first.kind = second.kind
  fullName : first.fullName = second.fullName
  notService : first.kind ≠ .service

/-- The messages of some definitions have different full names, and so have the enums. -/
structure AreNamedApart (definitions : List Definition) : Prop where
  messages : (definitions.filterMap messageName?).Nodup
  enums : (definitions.filterMap enumName?).Nodup

/-- Definitions that are named apart do not meet. -/
theorem AreNamedApart.pairwise
    {definitions : List Definition}
    (apart : AreNamedApart definitions) :
    definitions.Pairwise fun first second => ¬ first.MeetsWith second := by
  have messages := List.pairwise_filterMap.mp apart.messages
  have enums := List.pairwise_filterMap.mp apart.enums
  refine (messages.and enums).imp ?_
  rintro first second ⟨apartAsMessages, apartAsEnums⟩ ⟨sameKind, sameName, notService⟩
  cases first <;> cases second <;> cases sameKind
  case message.message.refl =>
    exact apartAsMessages _ rfl _ rfl sameName
  case enum.enum.refl =>
    exact apartAsEnums _ rfl _ rfl sameName
  case service.service.refl =>
    exact notService rfl

end Definition

namespace TypeIndex

/-! ## Definitions that do not meet -/

/-- What a definition changes does not depend on another one that it does not meet. -/
theorem redefines_define
    (index : TypeIndex)
    {entered definition : Definition}
    (apart : ¬ entered.MeetsWith definition) :
    (index.define entered).redefines definition = index.redefines definition := by
  cases definition with
  | service fullName descriptor =>
      rfl
  | message fullName descriptor =>
      cases entered with
      | message otherName other =>
          have different : otherName ≠ fullName := by
            intro same
            exact apart ⟨rfl, same, by rintro ⟨⟩⟩
          simp only [define, redefines, Std.TreeMap.getElem?_insert,
            Std.LawfulEqOrd.compare_eq_iff_eq, different, if_false]
      | _ =>
          rfl
  | enum fullName descriptor =>
      cases entered with
      | enum otherName other =>
          have different : otherName ≠ fullName := by
            intro same
            exact apart ⟨rfl, same, by rintro ⟨⟩⟩
          simp only [define, redefines, Std.TreeMap.getElem?_insert,
            Std.LawfulEqOrd.compare_eq_iff_eq, different, if_false]
      | _ =>
          rfl

/-- A definition that stands in an index already changes nothing. -/
theorem redefines_define_self
    (index : TypeIndex)
    (definition : Definition) :
    (index.define definition).redefines definition = false := by
  cases definition with
  | service fullName descriptor =>
      rfl
  | _ fullName descriptor =>
      simp only [define, redefines, Std.TreeMap.getElem?_insert_self, bne_self_eq_false]

theorem redefines_defineEach
    (index : TypeIndex)
    {definitions : List Definition}
    {definition : Definition}
    (apart : ∀ entered ∈ definitions, ¬ entered.MeetsWith definition) :
    (index.defineEach definitions).redefines definition = index.redefines definition := by
  induction definitions generalizing index with
  | nil =>
      rfl
  | cons entered rest inductionHypothesis =>
      rw [List.forall_mem_cons] at apart
      rw [defineEach, List.foldl_cons, ← defineEach,
        inductionHypothesis (index.define entered) apart.2, redefines_define index apart.1]

/-- Of definitions that do not meet, one changes something if it does so on its own. -/
theorem redefinedBy_iff
    (index : TypeIndex)
    {definitions : List Definition}
    (apart : definitions.Pairwise fun first second => ¬ first.MeetsWith second) :
    index.RedefinedBy definitions ↔
      ∃ definition ∈ definitions, index.redefines definition = true := by
  induction definitions generalizing index with
  | nil =>
      simp [RedefinedBy]
  | cons entered rest inductionHypothesis =>
      rw [List.pairwise_cons] at apart
      rw [RedefinedBy, inductionHypothesis (index.define entered) apart.2, List.exists_mem_cons_iff]
      refine or_congr_right (exists_congr fun definition => and_congr_right fun member => ?_)
      rw [redefines_define index (apart.1 definition member)]

/-- Once definitions that do not meet are entered, none of them changes anything. -/
theorem redefines_defineEach_of_mem
    (index : TypeIndex)
    {definitions : List Definition}
    (apart : definitions.Pairwise fun first second => ¬ first.MeetsWith second)
    {definition : Definition}
    (member : definition ∈ definitions) :
    (index.defineEach definitions).redefines definition = false := by
  induction definitions generalizing index with
  | nil =>
      cases member
  | cons entered rest inductionHypothesis =>
      rw [List.pairwise_cons] at apart
      rw [defineEach, List.foldl_cons, ← defineEach]
      rcases List.mem_cons.mp member with rfl | later
      · have apartFrom : ∀ other ∈ rest, ¬ other.MeetsWith definition := by
          intro other inRest meets
          have notService : definition.kind ≠ .service := meets.kind ▸ meets.notService
          exact apart.1 other inRest ⟨meets.kind.symm, meets.fullName.symm, notService⟩
        rw [redefines_defineEach _ apartFrom, redefines_define_self]
      · exact inductionHypothesis (index.define entered) apart.2 later

/-! ## What is told -/

/-- A message or an enum of an index is among some definitions, with other fields or values. -/
inductive IsChangedBy (index : TypeIndex) (definitions : List Definition) : Prop where
  | message
      {fullName : String}
      {previous descriptor : MessageDescriptor}
      (indexed : index.messages[fullName]? = some previous)
      (member : Definition.message fullName descriptor ∈ definitions)
      (changed : descriptor.fields ≠ previous.fields)
  | enum
      {fullName : String}
      {previous descriptor : EnumDescriptor}
      (indexed : index.enums[fullName]? = some previous)
      (member : Definition.enum fullName descriptor ∈ definitions)
      (changed : descriptor.values ≠ previous.values)

theorem isChangedBy_iff_redefines
    {index : TypeIndex}
    {definitions : List Definition} :
    index.IsChangedBy definitions ↔
      ∃ definition ∈ definitions, index.redefines definition = true := by
  constructor
  · rintro (⟨indexed, member, changed⟩ | ⟨indexed, member, changed⟩)
    all_goals
      refine ⟨_, member, ?_⟩
      simp only [redefines, indexed, bne_iff_ne]
      exact changed.symm
  · rintro ⟨definition, member, changes⟩
    cases definition with
    | message fullName descriptor =>
        rw [redefines] at changes
        cases indexed : index.messages[fullName]? with
        | none =>
            simp only [indexed, Bool.false_eq_true] at changes
        | some previous =>
            simp only [indexed, bne_iff_ne] at changes
            exact .message indexed member changes.symm
    | enum fullName descriptor =>
        rw [redefines] at changes
        cases indexed : index.enums[fullName]? with
        | none =>
            simp only [indexed, Bool.false_eq_true] at changes
        | some previous =>
            simp only [indexed, bne_iff_ne] at changes
            exact .enum indexed member changes.symm
    | service fullName descriptor =>
        cases changes

/-- Two indices find the same by every name and know the same files. -/
structure FindsLike (index other : TypeIndex) : Prop where
  message : ∀ query, index.message? query = other.message? query
  enum : ∀ query, index.enum? query = other.enum? query
  service : ∀ query, index.service? query = other.service? query
  file : ∀ path, index.hasFile path = other.hasFile path

/-- A file that is registered once more writes what it wrote before. -/
theorem findsLike_register_again
    (index : TypeIndex)
    (file : FileDescriptor) :
    ((index.register file).1.register file).1.FindsLike (index.register file).1 := by
  have first := isLastWrite_definitions index file
  have again := isLastWrite_definitions (index.register file).1 file
  refine ⟨fun query => ?_, fun query => ?_, fun query => ?_, fun path => ?_⟩
  · rw [again.message, first.message, ← Option.or_assoc, Option.or_self]
  · rw [again.enum, first.enum, ← Option.or_assoc, Option.or_self]
  · rw [again.service, first.service, ← Option.or_assoc, Option.or_self]
  · rw [Bool.eq_iff_iff, again.file, first.file, ← or_assoc, or_self]

/-- If registering a file tells of no change, fields and values are kept. -/
theorem extends_register_of_not_replaced
    {index : TypeIndex}
    {file : FileDescriptor}
    (notReplaced : (index.register file).2 = false) :
    (index.register file).1.Extends index := by
  apply extends_register
  rw [← register_snd_iff, notReplaced]
  exact Bool.false_ne_true

/-- Registering a file whose definitions do not meet tells of a change if there is one. -/
theorem register_snd_iff_isChangedBy
    (index : TypeIndex)
    {file : FileDescriptor}
    (apart : Definition.AreNamedApart file.definitions) :
    (index.register file).2 = true ↔ index.IsChangedBy file.definitions := by
  rw [register_snd_iff, redefinedBy_iff index apart.pairwise, isChangedBy_iff_redefines]

theorem register_again_snd
    (index : TypeIndex)
    {file : FileDescriptor}
    (apart : Definition.AreNamedApart file.definitions) :
    ((index.register file).1.register file).2 = false := by
  rw [← Bool.not_eq_true, register_snd_iff, redefinedBy_iff _ apart.pairwise]
  rintro ⟨definition, member, changes⟩
  have unchanged := redefines_defineEach_of_mem index apart.pairwise member
  rw [register_fst] at changes
  exact Bool.false_ne_true (unchanged.symm.trans changes)

/--
If registering a file tells of no replacement, every message keeps its fields and every
enum its values. For a file that names its messages apart and its enums apart, a
replacement is told just when an indexed message or enum is listed with other fields or
values; and registering the file again tells of none and leaves every look-up as it is.
-/
theorem register_tellsReplacement
    (index : TypeIndex)
    {file : FileDescriptor}
    {listed : List Definition}
    (lists : file.ListsAs listed) :
    ((index.register file).2 = false → (index.register file).1.Extends index) ∧
    (Definition.AreNamedApart listed →
      ((index.register file).2 = true ↔ index.IsChangedBy listed) ∧
      ((index.register file).1.register file).2 = false ∧
      ((index.register file).1.register file).1.FindsLike (index.register file).1) := by
  obtain rfl := FileDescriptor.listsAs_iff.mp lists
  exact ⟨extends_register_of_not_replaced, fun apart =>
    ⟨register_snd_iff_isChangedBy index apart, register_again_snd index apart,
      findsLike_register_again index file⟩⟩

/-- A file with an enum inside a message, with the values that are given. -/
def fileOfNestedEnum (values : List (String × Int32)) : FileDescriptor :=
  { name := "a"
    package := "p"
    messageTypes := [{ name := "M", enumTypes := [{ name := "E", values := values }] }] }

/-- An enum inside a message is replaced, though the message around it stays as it is. -/
theorem register_tellsReplacement_nestedEnum :
    (fileOfNestedEnum [("B", 0)]).ListsAs (fileOfNestedEnum [("B", 0)]).definitions ∧
      Definition.AreNamedApart (fileOfNestedEnum [("B", 0)]).definitions ∧
      ((empty.register (fileOfNestedEnum [("A", 0)])).1.register
        (fileOfNestedEnum [("B", 0)])).2 = true := by
  have lists : (fileOfNestedEnum [("B", 0)]).ListsAs (fileOfNestedEnum [("B", 0)]).definitions :=
    FileDescriptor.listsAs_iff.mpr rfl
  have apart : Definition.AreNamedApart (fileOfNestedEnum [("B", 0)]).definitions :=
    ⟨by decide +kernel, by decide +kernel⟩
  obtain ⟨told, _⟩ :=
    (register_tellsReplacement (empty.register (fileOfNestedEnum [("A", 0)])).1 lists).2 apart
  refine ⟨lists, apart, told.mpr ?_⟩
  have indexed :
      (empty.register (fileOfNestedEnum [("A", 0)])).1.enums["p.M.E"]? =
        some { name := "E", values := [("A", 0)] } := by
    decide +kernel
  have member :
      Definition.enum "p.M.E" { name := "E", values := [("B", 0)] } ∈
        (fileOfNestedEnum [("B", 0)]).definitions :=
    List.mem_iff_getElem?.mpr ⟨0, by decide +kernel⟩
  exact .enum indexed member (by decide)

end TypeIndex

end GrpcDiscovery
