import GrpcDiscovery.Proofs.Json.Tokens
import GrpcDiscovery.Proofs.Schema.JsonForm
import GrpcDiscovery.Reflection.Answer

namespace GrpcDiscovery

/-!
# The form of answers

Which written JSON is an answer is said here without a reader: what parts a record has, and
what each of the parts must be. The readers take what has the form, give what it stands for,
and refuse anything else. Under a key without a meaning, anything may be written.
-/

namespace AnswerJson

open Json (Written StandsFor)

/-! ## Parts of records -/

/-- A member whose key stands for a text. -/
inductive IsKeyed : List Char × Written → String × Written → Prop where
  | intro
      {chars : List Char}
      {key : String}
      (stands : StandsFor chars key.toList)
      (value : Written) :
      IsKeyed (chars, value) (key, value)

theorem keyed?_eq_some_iff
    {member : List Char × Written}
    {keyed : String × Written} :
    keyed? member = some keyed ↔ IsKeyed member keyed := by
  rw [keyed?, Option.map_eq_some_iff]
  simp only [Json.text?_eq_some_iff]
  constructor
  · rintro ⟨key, stands, rfl⟩
    exact .intro stands member.2
  · rintro ⟨stands⟩
    exact ⟨_, stands, rfl⟩

/-- What an object has under a key that does not occur twice. -/
inductive HasMember
    (members : List (String × Written))
    (key : String) :
    Option Written →
    Prop where
  | absent
      (absent : ∀ member ∈ members, member.1 ≠ key) :
      HasMember members key none
  | present
      {before after : List (String × Written)}
      {value : Written}
      (split : members = before ++ (key, value) :: after)
      (once : ∀ member ∈ before ++ after, member.1 ≠ key) :
      HasMember members key (some value)

/-- Members that all have other keys are not found. -/
theorem filter_key_eq_nil_iff
    {members : List (String × Written)}
    {key : String} :
    members.filter (fun member => member.1 == key) = [] ↔
      ∀ member ∈ members, member.1 ≠ key := by
  simp only [List.filter_eq_nil_iff, beq_iff_eq, ne_eq]

theorem uniqueMember?_eq_some_iff
    {members : List (String × Written)}
    {key : String}
    {part : Option Written} :
    uniqueMember? key members = some part ↔ HasMember members key part := by
  constructor
  · intro read
    rw [uniqueMember?] at read
    split at read
    · rename_i found
      cases read
      exact .absent (filter_key_eq_nil_iff.mp found)
    · rename_i name value found
      cases read
      obtain ⟨before, after, split, notBefore, isFirst, notAfter⟩ :=
        List.filter_eq_cons_iff.mp found
      obtain rfl : name = key := beq_iff_eq.mp isFirst
      refine .present split (List.forall_mem_append.mpr ⟨?_, filter_key_eq_nil_iff.mp notAfter⟩)
      simpa using notBefore
    · cases read
  · intro has
    cases has with
    | absent absent =>
        rw [uniqueMember?, filter_key_eq_nil_iff.mpr absent]
    | @present before after value split once =>
        rw [List.forall_mem_append] at once
        have found : members.filter (fun member => member.1 == key) = [(key, value)] := by
          rw [split, List.filter_append, filter_key_eq_nil_iff.mpr once.1, List.nil_append,
            List.filter_cons, if_pos (beq_self_eq_true key), filter_key_eq_nil_iff.mpr once.2]
        rw [uniqueMember?, found]

/--
The parts of a record in order of its keys: the members of an object, all of whose keys are
texts, or the items of an array, of which there may be too few but not too many.
-/
inductive HasParts (keys : List String) : Written → List (Option Written) → Prop where
  | object
      {members : List (List Char × Written)}
      {keyed : List (String × Written)}
      {parts : List (Option Written)}
      (areKeyed : List.Forall₂ IsKeyed members keyed)
      (each : List.Forall₂ (HasMember keyed) keys parts) :
      HasParts keys (.object members) parts
  | array
      {items : List Written}
      {missing : Nat}
      (fits : items.length + missing = keys.length) :
      HasParts keys (.array items) (items.map some ++ List.replicate missing none)

theorem parts?_eq_some_iff
    {keys : List String}
    {written : Written}
    {parts : List (Option Written)} :
    parts? keys written = some parts ↔ HasParts keys written parts := by
  constructor
  · intro read
    cases written with
    | object members =>
        rw [parts?, Option.bind_eq_bind, Option.bind_eq_some_iff] at read
        obtain ⟨keyed, readKeys, readParts⟩ := read
        exact .object ((mapM_eq_some_iff fun _ _ => keyed?_eq_some_iff).mp readKeys)
          ((mapM_eq_some_iff fun _ _ => uniqueMember?_eq_some_iff).mp readParts)
    | array items =>
        rw [parts?] at read
        split at read
        · rename_i fits
          cases read
          exact .array (Nat.add_sub_cancel' fits)
        · cases read
    | _ =>
        cases read
  · intro has
    cases has with
    | object areKeyed each =>
        have readKeys := (mapM_eq_some_iff fun _ _ => keyed?_eq_some_iff).mpr areKeyed
        have readParts := (mapM_eq_some_iff fun _ _ => uniqueMember?_eq_some_iff).mpr each
        rw [parts?, Option.bind_eq_bind, readKeys]
        exact readParts
    | @array items missing fits =>
        rw [parts?, if_pos (by omega), show keys.length - items.length = missing by omega]

theorem uniqueMember?_insert
    (before after : List (String × Written))
    {key other : String}
    (isOther : other ≠ key)
    (value : Written) :
    uniqueMember? key (before ++ (other, value) :: after) =
      uniqueMember? key (before ++ after) := by
  have sameMembers :
      (before ++ (other, value) :: after).filter (fun member => member.1 == key) =
        (before ++ after).filter fun member => member.1 == key := by
    simp [isOther]
  rw [uniqueMember?, uniqueMember?, sameMembers]

/--
Whatever is written under a key without a meaning, a record has the parts that it has
without that member.
-/
theorem hasParts_insert_iff
    {keys : List String}
    {before after : List (List Char × Written)}
    {chars : List Char}
    {key : String}
    (stands : StandsFor chars key.toList)
    (noMeaning : key ∉ keys)
    (value : Written)
    (parts : List (Option Written)) :
    HasParts keys (.object (before ++ (chars, value) :: after)) parts ↔
      HasParts keys (.object (before ++ after)) parts := by
  have readMember : keyed? (chars, value) = some (key, value) :=
    keyed?_eq_some_iff.mpr (.intro stands value)
  have sameParts (front back : List (String × Written)) :
      keys.mapM (fun known => uniqueMember? known (front ++ (key, value) :: back)) =
        keys.mapM fun known => uniqueMember? known (front ++ back) :=
    mapM_congr fun known member =>
      uniqueMember?_insert front back (ne_of_mem_of_not_mem member noMeaning).symm value
  rw [← parts?_eq_some_iff, ← parts?_eq_some_iff]
  simp only [parts?, List.mapM_append, List.mapM_cons, readMember, Option.bind_eq_bind,
    Option.bind_some, Option.pure_def, Option.bind_assoc, sameParts]

/-! ## Values of parts -/

/-- A part that may be missing or null. -/
inductive IsOptional
    {α : Type}
    (IsValue : Written → α → Prop) :
    Option Written →
    Option α →
    Prop where
  | absent :
      IsOptional IsValue none none
  | null :
      IsOptional IsValue (some .null) none
  | present
      {written : Written}
      {value : α}
      (isValue : IsValue written value) :
      IsOptional IsValue (some written) (some value)

/-- A part for which something else stands when it is missing. -/
inductive IsDefaulted
    {α : Type}
    (IsValue : Written → α → Prop)
    (default : α) :
    Option Written →
    α →
    Prop where
  | absent :
      IsDefaulted IsValue default none default
  | present
      {written : Written}
      {value : α}
      (isValue : IsValue written value) :
      IsDefaulted IsValue default (some written) value

/-- A text. -/
inductive IsText : Written → String → Prop where
  | intro
      {chars : List Char}
      {text : String}
      (stands : StandsFor chars text.toList) :
      IsText (.string chars) text

/-- An integer of thirty-two bits. -/
inductive IsInt32 : Written → Int32 → Prop where
  | intro
      {numeral : Json.Numeral}
      {value : Int32}
      (isInteger : Json.IsInteger numeral value.toInt) :
      IsInt32 (.number numeral) value

/-- A list of values. -/
inductive IsList
    {α : Type}
    (IsItem : Written → α → Prop) :
    Written →
    List α →
    Prop where
  | intro
      {items : List Written}
      {values : List α}
      (each : List.Forall₂ IsItem items values) :
      IsList IsItem (.array items) values

section Values

variable {α : Type} {read : Written → Option α} {IsValue : Written → α → Prop}

theorem optional?_of_ne_null
    {written : Written}
    (notNull : written ≠ .null) :
    optional? read (some written) = (read written).map some := by
  cases written with
  | null =>
      exact absurd rfl notNull
  | _ =>
      rfl

theorem optional?_eq_some_iff
    (reads : ∀ written value, read written = some value ↔ IsValue written value)
    (noValue : read .null = none)
    {part : Option Written}
    {value : Option α} :
    optional? read part = some value ↔ IsOptional IsValue part value := by
  constructor
  · intro accepted
    cases part with
    | none =>
        cases accepted
        exact .absent
    | some written =>
        by_cases null : written = .null
        · subst null
          cases accepted
          exact .null
        · rw [optional?_of_ne_null null, Option.map_eq_some_iff] at accepted
          obtain ⟨found, isRead, rfl⟩ := accepted
          exact .present ((reads written found).mp isRead)
  · intro isOptional
    cases isOptional with
    | absent =>
        rfl
    | null =>
        rfl
    | @present written found isValue =>
        have isRead := (reads written found).mpr isValue
        have notNull : written ≠ .null := by
          rintro rfl
          rw [noValue] at isRead
          cases isRead
        rw [optional?_of_ne_null notNull, isRead]
        rfl

theorem defaulted?_eq_some_iff
    (reads : ∀ written value, read written = some value ↔ IsValue written value)
    {default : α}
    {part : Option Written}
    {value : α} :
    defaulted? read default part = some value ↔ IsDefaulted IsValue default part value := by
  constructor
  · intro accepted
    cases part with
    | none =>
        cases accepted
        exact .absent
    | some written =>
        exact .present ((reads written value).mp accepted)
  · intro isDefaulted
    cases isDefaulted with
    | absent =>
        rfl
    | present isValue =>
        exact (reads _ value).mpr isValue

theorem list?_eq_some_iff
    (reads : ∀ written value, read written = some value ↔ IsValue written value)
    {written : Written}
    {values : List α} :
    list? read written = some values ↔ IsList IsValue written values := by
  constructor
  · intro accepted
    cases written with
    | array items =>
        exact .intro ((mapM_eq_some_iff reads).mp accepted)
    | _ =>
        cases accepted
  · intro isList
    cases isList with
    | intro each =>
        exact (mapM_eq_some_iff reads).mpr each

end Values

theorem text?_eq_some_iff
    {written : Written}
    {text : String} :
    text? written = some text ↔ IsText written text := by
  constructor
  · intro accepted
    cases written with
    | string chars =>
        exact .intro (Json.text?_eq_some_iff.mp accepted)
    | _ =>
        cases accepted
  · rintro ⟨stands⟩
    exact Json.text?_eq_some_iff.mpr stands

theorem int32?_eq_some_iff
    {written : Written}
    {value : Int32} :
    int32? written = some value ↔ IsInt32 written value := by
  constructor
  · intro accepted
    cases written with
    | number numeral =>
        rw [int32?, Option.bind_eq_some_iff] at accepted
        obtain ⟨number, isNumber, accepted⟩ := accepted
        rw [SchemaJson.int32?.eq_def] at accepted
        split at accepted
        · rename_i integer isInteger
          cases isInteger
          split at accepted
          · rename_i within
            obtain rfl := Option.some.inj accepted
            have same : (Int32.ofInt integer).toInt = integer :=
              Int32.toInt_ofInt_of_le within.1 (Int.lt_add_one_iff.mpr within.2)
            refine .intro ?_
            rw [same]
            exact Json.isInteger_of_number? isNumber
          · cases accepted
        · cases accepted
    | _ =>
        cases accepted
  · rintro ⟨isInteger⟩
    have within : -2147483648 ≤ value.toInt ∧ value.toInt ≤ 2147483647 :=
      ⟨value.le_toInt, Int.lt_add_one_iff.mp value.toInt_lt⟩
    rw [int32?, Json.number?_of_isInteger isInteger (by omega)]
    exact SchemaJson.int32?_ofInt32 value

/-! ## Records -/

/-- A service that is listed by its name. -/
inductive IsService : Written → String → Prop where
  | intro
      {written part : Written}
      {name : String}
      (parts : HasParts ["name"] written [some part])
      (isText : IsText part name) :
      IsService written name

/-- A record of one part, a list that may be missing. -/
inductive IsListRecord
    {α : Type}
    (key : String)
    (IsItem : Written → α → Prop) :
    Written →
    List α →
    Prop where
  | intro
      {written : Written}
      {part : Option Written}
      {values : List α}
      (parts : HasParts [key] written [part])
      (isListed : IsDefaulted (IsList IsItem) [] part values) :
      IsListRecord key IsItem written values

/-- The services that are listed. -/
abbrev IsListing : Written → List String → Prop :=
  IsListRecord "service" IsService

/-- The texts in which descriptors are sent. -/
abbrev IsDelivery : Written → List String → Prop :=
  IsListRecord "fileDescriptorProto" IsText

/-- The code and the words of a refusal, nought and nothing where they are missing. -/
inductive IsRefusal : Written → Int32 × String → Prop where
  | intro
      {written : Written}
      {codePart messagePart : Option Written}
      {code : Int32}
      {message : String}
      (parts : HasParts ["errorCode", "errorMessage"] written [codePart, messagePart])
      (isCode : IsDefaulted IsInt32 0 codePart code)
      (isMessage : IsDefaulted IsText "" messagePart message) :
      IsRefusal written (code, message)

/-- An answer: each of its parts may be missing or null, but an array has all of them. -/
inductive IsAnswer : Written → ReflectionAnswer → Prop where
  | intro
      {written : Written}
      {servicesPart descriptorsPart refusalPart : Option Written}
      {services descriptors : Option (List String)}
      {refusal : Option (Int32 × String)}
      (complete : ∀ items, written = .array items → items.length = 3)
      (parts : HasParts
        ["listServicesResponse", "fileDescriptorResponse", "errorResponse"] written
        [servicesPart, descriptorsPart, refusalPart])
      (isListing : IsOptional IsListing servicesPart services)
      (isDelivery : IsOptional IsDelivery descriptorsPart descriptors)
      (isRefusal : IsOptional IsRefusal refusalPart refusal) :
      IsAnswer written ⟨services, descriptors, refusal⟩

/-- The words of an error, which may be missing or null. -/
inductive IsFailure : Written → Option String → Prop where
  | intro
      {written : Written}
      {part : Option Written}
      {message : Option String}
      (parts : HasParts ["message"] written [part])
      (isMessage : IsOptional IsText part message) :
      IsFailure written message

theorem serviceName?_eq_some_iff
    {written : Written}
    {name : String} :
    serviceName? written = some name ↔ IsService written name := by
  rw [serviceName?, Option.bind_eq_bind, Option.bind_eq_some_iff]
  constructor
  · rintro ⟨parts, read, accepted⟩
    split at accepted
    · exact .intro (parts?_eq_some_iff.mp read) (text?_eq_some_iff.mp accepted)
    · cases accepted
  · rintro ⟨parts, isText⟩
    exact ⟨_, parts?_eq_some_iff.mpr parts, text?_eq_some_iff.mpr isText⟩

theorem services?_eq_some_iff
    {written : Written}
    {names : List String} :
    services? written = some names ↔ IsListing written names := by
  have reads {part : Option Written} :
      defaulted? (list? serviceName?) [] part = some names ↔
        IsDefaulted (IsList IsService) [] part names :=
    defaulted?_eq_some_iff fun _ _ => list?_eq_some_iff fun _ _ => serviceName?_eq_some_iff
  rw [services?, Option.bind_eq_bind, Option.bind_eq_some_iff]
  constructor
  · rintro ⟨parts, read, accepted⟩
    split at accepted
    · exact .intro (parts?_eq_some_iff.mp read) (reads.mp accepted)
    · cases accepted
  · rintro ⟨parts, isListed⟩
    exact ⟨_, parts?_eq_some_iff.mpr parts, reads.mpr isListed⟩

theorem descriptors?_eq_some_iff
    {written : Written}
    {texts : List String} :
    descriptors? written = some texts ↔ IsDelivery written texts := by
  have reads {part : Option Written} :
      defaulted? (list? text?) [] part = some texts ↔
        IsDefaulted (IsList IsText) [] part texts :=
    defaulted?_eq_some_iff fun _ _ => list?_eq_some_iff fun _ _ => text?_eq_some_iff
  rw [descriptors?, Option.bind_eq_bind, Option.bind_eq_some_iff]
  constructor
  · rintro ⟨parts, read, accepted⟩
    split at accepted
    · exact .intro (parts?_eq_some_iff.mp read) (reads.mp accepted)
    · cases accepted
  · rintro ⟨parts, isListed⟩
    exact ⟨_, parts?_eq_some_iff.mpr parts, reads.mpr isListed⟩

theorem refusal?_eq_some_iff
    {written : Written}
    {refusal : Int32 × String} :
    refusal? written = some refusal ↔ IsRefusal written refusal := by
  rw [refusal?, Option.bind_eq_bind, Option.bind_eq_some_iff]
  constructor
  · rintro ⟨parts, read, accepted⟩
    split at accepted
    · simp only [Option.bind_eq_bind, Option.bind_eq_some_iff] at accepted
      obtain ⟨code, readCode, message, readMessage, same⟩ := accepted
      cases same
      exact .intro (parts?_eq_some_iff.mp read)
        ((defaulted?_eq_some_iff fun _ _ => int32?_eq_some_iff).mp readCode)
        ((defaulted?_eq_some_iff fun _ _ => text?_eq_some_iff).mp readMessage)
    · cases accepted
  · rintro ⟨parts, isCode, isMessage⟩
    refine ⟨_, parts?_eq_some_iff.mpr parts, ?_⟩
    simp only [(defaulted?_eq_some_iff fun _ _ => int32?_eq_some_iff).mpr isCode,
      (defaulted?_eq_some_iff fun _ _ => text?_eq_some_iff).mpr isMessage]
    rfl

theorem errorMessage?_eq_some_iff
    {written : Written}
    {message : String} :
    errorMessage? written = some message ↔ IsFailure written (some message) := by
  have reads {part : Option Written} {message : Option String} :
      optional? text? part = some message ↔
        IsOptional IsText part message :=
    optional?_eq_some_iff (fun _ _ => text?_eq_some_iff) rfl
  rw [errorMessage?, Option.bind_eq_bind, Option.bind_eq_some_iff]
  constructor
  · rintro ⟨parts, read, accepted⟩
    split at accepted
    · rw [Option.bind_eq_bind, Option.bind_eq_some_iff] at accepted
      obtain ⟨found, readMessage, rfl⟩ := accepted
      exact .intro (parts?_eq_some_iff.mp read) (reads.mp readMessage)
    · cases accepted
  · rintro ⟨parts, isMessage⟩
    refine ⟨_, parts?_eq_some_iff.mpr parts, ?_⟩
    simp only [reads.mpr isMessage]
    rfl

theorem isComplete_iff
    {keys : List String}
    {written : Written} :
    isComplete keys written = true ↔
      ∀ items, written = .array items → items.length = keys.length := by
  cases written <;> simp [isComplete]

/-- An answer is read from JSON of its form, and from nothing else. -/
theorem answer?_eq_some_iff
    {written : Written}
    {answer : ReflectionAnswer} :
    answer? written = some answer ↔ IsAnswer written answer := by
  have readsServices {part : Option Written} {services : Option (List String)} :
      optional? services? part = some services ↔ IsOptional IsListing part services :=
    optional?_eq_some_iff (fun _ _ => services?_eq_some_iff) rfl
  have readsDescriptors {part : Option Written} {descriptors : Option (List String)} :
      optional? descriptors? part = some descriptors ↔
        IsOptional IsDelivery part descriptors :=
    optional?_eq_some_iff (fun _ _ => descriptors?_eq_some_iff) rfl
  have readsRefusal {part : Option Written} {refusal : Option (Int32 × String)} :
      optional? refusal? part = some refusal ↔ IsOptional IsRefusal part refusal :=
    optional?_eq_some_iff (fun _ _ => refusal?_eq_some_iff) rfl
  rw [answer?, Option.bind_eq_bind, Option.bind_eq_some_iff]
  constructor
  · rintro ⟨parts, read, accepted⟩
    split at accepted
    · rename_i complete
      simp only [Option.bind_eq_bind, Option.bind_eq_some_iff] at accepted
      obtain ⟨services, readServices, descriptors, readDescriptors, refusal, readRefusal, same⟩ :=
        accepted
      cases same
      exact .intro (isComplete_iff.mp complete) (parts?_eq_some_iff.mp read)
        (readsServices.mp readServices) (readsDescriptors.mp readDescriptors)
        (readsRefusal.mp readRefusal)
    · cases accepted
  · rintro ⟨complete, parts, isListing, isDelivery, isRefusal⟩
    refine ⟨_, parts?_eq_some_iff.mpr parts, ?_⟩
    have isComplete : isComplete answerKeys written = true := isComplete_iff.mpr complete
    simp only [isComplete, readsServices.mpr isListing, readsDescriptors.mpr isDelivery,
      readsRefusal.mpr isRefusal]
    rfl

end AnswerJson

end GrpcDiscovery
