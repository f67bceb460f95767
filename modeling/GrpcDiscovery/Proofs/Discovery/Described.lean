import GrpcDiscovery.Proofs.Discovery.Fresh
import GrpcDiscovery.Proofs.Discovery.Lockstep
import GrpcDiscovery.Proofs.Schema.Overlay

namespace GrpcDiscovery

/-!
# What an index says about services

A discovery that works reports the services that were listed as the index has them in
the end, with the schemas that an empty cache would give. So two discoveries report
the same if they were told of the same services, and the index of the one lies over
that of the other without resolving anything more.
-/

/-- A method with the schema that an empty cache would give. -/
def MethodInfo.describedBy
    (resolver : Resolver)
    (method : MethodInfo) :
    MethodInfo :=
  { method with inputSchema := resolver.fresh method.inputType }

/-- A service as an index describes it, if one of that name is there. -/
def TypeIndex.describe?
    (index : TypeIndex)
    (maxDepth : Nat)
    (name : String) :
    Option ServiceInfo :=
  (index.service? name).map fun descriptor =>
    ⟨descriptor.name, TypeName.normalize name,
      (descriptor.methods.map (MethodInfo.ofDescriptor (TypeName.normalize name))).map
        (MethodInfo.describedBy ⟨index, maxDepth⟩)⟩

/-- A method that is up to date is described by what it is without the schema. -/
theorem MethodInfo.IsUpToDate.describedBy_withoutSchema
    {method : MethodInfo}
    {resolver : Resolver}
    {cache : SchemaCache}
    (upToDate : method.IsUpToDate resolver cache) :
    method.withoutSchema.describedBy resolver = method := by
  rw [describedBy, withoutSchema, ← upToDate.schema]

/-- A service is reported as the index describes it, if all of its methods are up to date. -/
theorem ServiceInfo.Reports.describe?_eq
    {service : ServiceInfo}
    {index : TypeIndex}
    {name : String}
    {descriptor : ServiceDescriptor}
    (reports : service.Reports index name descriptor)
    {maxDepth : Nat}
    {cache : SchemaCache}
    (upToDate : ∀ method ∈ service.methods, method.IsUpToDate ⟨index, maxDepth⟩ cache) :
    index.describe? maxDepth name = some service := by
  have methods : (service.methods.map MethodInfo.withoutSchema).map
      (MethodInfo.describedBy ⟨index, maxDepth⟩) = service.methods := by
    rw [List.map_map]
    exact (List.map_congr_left fun method member =>
      (upToDate method member).describedBy_withoutSchema).trans (List.map_id _)
  rw [TypeIndex.describe?, reports.indexed, Option.map_some, ← reports.methods, methods,
    ← reports.simpleName, ← reports.fullName]

namespace TypeIndex

variable {index upper lower : TypeIndex}

/-- What a method of the upper index takes has the schema of the upper index. -/
theorem IsOver.describedBy_eq
    (isOver : index.IsOver upper lower)
    (adds : lower.AddsNothingTo upper)
    (plain : index.HasPlainNames)
    (plainUpper : upper.HasPlainNames)
    (maxDepth : Nat)
    (serviceName : String)
    {method : MethodDescriptor}
    (reference : method.inputType ∈ upper.references) :
    (MethodInfo.ofDescriptor serviceName method).describedBy ⟨index, maxDepth⟩ =
      (MethodInfo.ofDescriptor serviceName method).describedBy ⟨upper, maxDepth⟩ := by
  have normal := TypeName.normalize_normalize (plainUpper.hasOneDotAtMost reference)
  have fresh : (Resolver.mk index maxDepth).fresh (TypeName.normalize method.inputType) =
      (Resolver.mk upper maxDepth).fresh (TypeName.normalize method.inputType) := by
    rw [@Resolver.fresh_eq_schema? ⟨index, maxDepth⟩ plain _ (congrArg TypeName.normalize normal),
      @Resolver.fresh_eq_schema? ⟨upper, maxDepth⟩ plainUpper _
        (congrArg TypeName.normalize normal),
      Resolver.schema?, Resolver.schema?, normal]
    exact isOver.messageSchema?_of_reference adds plainUpper (max maxDepth 1) reference
  rw [MethodInfo.describedBy, MethodInfo.describedBy, MethodInfo.ofDescriptor]
  simp only [fresh]

/-- A service that the upper index has is described as by the upper index alone. -/
theorem IsOver.describe?_eq
    (isOver : index.IsOver upper lower)
    (adds : lower.AddsNothingTo upper)
    (plain : index.HasPlainNames)
    (plainUpper : upper.HasPlainNames)
    {maxDepth : Nat}
    {name : String}
    {service : ServiceInfo}
    (described : upper.describe? maxDepth name = some service) :
    index.describe? maxDepth name = some service := by
  obtain ⟨descriptor, found, rfl⟩ := Option.map_eq_some_iff.mp described
  have methods : (descriptor.methods.map (MethodInfo.ofDescriptor (TypeName.normalize name))).map
      (MethodInfo.describedBy ⟨index, maxDepth⟩) =
        (descriptor.methods.map (MethodInfo.ofDescriptor (TypeName.normalize name))).map
          (MethodInfo.describedBy ⟨upper, maxDepth⟩) := by
    rw [List.map_map, List.map_map]
    exact List.map_congr_left fun method member =>
      isOver.describedBy_eq adds plain plainUpper maxDepth _
        (mem_references_of_method found member)
  rw [describe?, isOver.service?_eq, found, Option.some_or, Option.map_some, methods]

/-- Services that the upper index describes are described so by the one over the lower. -/
theorem IsOver.services_eq
    (isOver : index.IsOver upper lower)
    (adds : lower.AddsNothingTo upper)
    (plain : index.HasPlainNames)
    (plainUpper : upper.HasPlainNames)
    {maxDepth : Nat}
    {names : List String}
    {services upperServices : List ServiceInfo}
    (described : List.Forall₂ (fun name service => index.describe? maxDepth name = some service)
      names services)
    (upperDescribed : List.Forall₂
      (fun name service => upper.describe? maxDepth name = some service) names upperServices) :
    services = upperServices := by
  induction described generalizing upperServices with
  | nil =>
      cases upperDescribed
      rfl
  | cons first _ inductionHypothesis =>
      cases upperDescribed with
      | cons upperFirst upperRest =>
          rw [isOver.describe?_eq adds plain plainUpper upperFirst] at first
          rw [Option.some.inj first, inductionHypothesis upperRest]

end TypeIndex

namespace Discovery

/-- A service that is described is as the index describes it. -/
theorem describe?_of_describeService
    {maxDepth : Nat}
    {name : String}
    {state later : DiscoveryState}
    {service : ServiceInfo}
    (sound : state.IsSound)
    (ran : describeService maxDepth name state = .ok service later) :
    later.index = state.index ∧ later.IsSound ∧
      state.index.describe? maxDepth name = some service := by
  have describes := describes_of_describeService sound ran
  refine ⟨describes.index, describes.sound, ?_⟩
  rcases describeService_cases maxDepth name state with
    ⟨_, failed⟩ | ⟨other, cache, descriptor, succeeded, reports⟩
  · rw [failed] at ran
    cases ran
  · rw [succeeded] at ran
    cases ran
    exact reports.describe?_eq describes.upToDate

theorem describe?_of_describeServices
    {maxDepth : Nat}
    {names : List String}
    {state later : DiscoveryState}
    {services : List ServiceInfo}
    (sound : state.IsSound)
    (ran : describeServices maxDepth names state = .ok services later) :
    later.index = state.index ∧
      List.Forall₂ (fun name service => state.index.describe? maxDepth name = some service)
        names services := by
  induction names generalizing state services with
  | nil =>
      cases ran
      exact ⟨rfl, .nil⟩
  | cons name rest inductionHypothesis =>
      obtain ⟨service, middle, first, ranRest⟩ := exists_of_bind_ok ran
      obtain ⟨others, last, further, finished⟩ := exists_of_bind_ok ranRest
      cases finished
      obtain ⟨same, soundMiddle, described⟩ := describe?_of_describeService sound first
      obtain ⟨sameRest, describedRest⟩ := inductionHypothesis soundMiddle further
      rw [same] at sameRest describedRest
      exact ⟨sameRest, .cons described describedRest⟩

/-- Services that are reported one by one have the names to be described, without a dot. -/
theorem fullNames_of_reports
    {index : TypeIndex}
    {names : List String}
    {services : List ServiceInfo}
    (reports : List.Forall₂ (fun name (service : ServiceInfo) =>
      ∃ descriptor, service.Reports index name descriptor) names services) :
    services.map ServiceInfo.fullName = names.map TypeName.normalize := by
  induction reports with
  | nil =>
      rfl
  | cons first _ inductionHypothesis =>
      obtain ⟨descriptor, reported⟩ := first
      rw [List.map_cons, List.map_cons, reported.fullName, inductionHypothesis]

/-- Services are reported by the full names of those that are to be described. -/
theorem fullNames_of_describeServices
    {maxDepth : Nat}
    {names : List String}
    {state later : DiscoveryState}
    {services : List ServiceInfo}
    (ran : describeServices maxDepth names state = .ok services later) :
    services.map ServiceInfo.fullName = names.map TypeName.normalize := by
  rcases describeServices_cases maxDepth names state with
    ⟨name, cache, _, failed⟩ | ⟨others, cache, succeeded, reports⟩
  · rw [failed] at ran
    cases ran
  · rw [succeeded] at ran
    cases ran
    exact fullNames_of_reports reports

/-! ## Attempts that work -/

variable {channel : ReflectionChannel} {url : Url} {reply : ReflectionQuery → ReflectionReply}
variable {maxDepth : Nat} {state later : DiscoveryState} {services : List ServiceInfo}

/-- An attempt that works fetches the services that are listed, and then describes them. -/
theorem exists_listed_of_attempt
    (answers : channel.AnswersBy url reply)
    (ran : attempt channel maxDepth state = .ok services later) :
    ∃ listed middle,
      ((reply .listServices).answer url channel.timeout).bind
        ReflectionAnswer.listedServices = .ok listed ∧
      state.LeadsTo IsPlainFile DiscoveryState.IsSound middle ∧
      describeServices maxDepth (describedNames listed) middle = .ok services later := by
  have asked := answers.ask .listServices ReflectionAnswer.listedServices state.history
  cases answered : ((reply .listServices).answer url channel.timeout).bind
      ReflectionAnswer.listedServices with
  | error failure =>
      rw [answered] at asked
      rw [attempt_of_error asked] at ran
      cases ran
  | ok listed =>
      rw [answered] at asked
      rw [attempt_of_ok asked] at ran
      have led := (survivesFiles_isSound.leadsTo_ask asked).trans
        (survivesFiles_isSound.fetchServices channel (describedNames listed) _)
      cases fetched : fetchServices channel (describedNames listed)
          { state with history := state.history ++
            [channel.exchange url reply .listServices] } with
      | error failure middle =>
          rw [fetched] at ran
          cases ran
      | ok _ middle =>
          rw [fetched] at ran led
          exact ⟨listed, middle, rfl, led, ran⟩

theorem firstFault?_eq_none_iff (files : List Bytes) :
    firstFault? files = none ↔ AllReadable files := by
  rw [firstFault?, List.findSome?_eq_none_iff, AllReadable]
  refine forall₂_congr fun bytes _ => ?_
  rw [fault?]
  cases FileDescriptor.decode bytes <;> simp

/-- The files that came on a visit that worked can all be read. -/
theorem ServiceVisit.allReadable
    {visit : ServiceVisit}
    (worked : visit.failure? channel url = none)
    {exchange : Exchange}
    (member : exchange ∈ visit.exchanges) :
    AllReadable exchange.reply.files := by
  rw [ServiceVisit.failure?] at worked
  cases answered : (visit.definition.reply.answer url channel.timeout).bind
      ReflectionAnswer.files with
  | error failure =>
      rw [answered] at worked
      cases worked
  | ok files =>
      simp only [answered, firstFault?_eq_none_iff] at worked
      intro bytes inside
      apply worked bytes
      rcases List.mem_cons.mp member with rfl | imported
      · rw [← files_eq_of_answer answered]
        exact List.mem_append_left _ inside
      · exact List.mem_append_right _ (List.mem_flatMap.mpr ⟨exchange, imported, inside⟩)

theorem VisitsInOrder.allReadable
    {names : List String}
    {visits : List ServiceVisit}
    {outcome : Option ReflectionError}
    (inOrder : VisitsInOrder channel url names visits outcome)
    (worked : outcome = none) :
    ∀ exchange ∈ visits.flatMap ServiceVisit.exchanges, AllReadable exchange.reply.files := by
  induction inOrder with
  | done =>
      exact List.forall_mem_nil _
  | failed =>
      cases worked
  | next _ visited _ inductionHypothesis =>
      intro exchange member
      rw [List.flatMap_cons, List.mem_append] at member
      exact member.elim (ServiceVisit.allReadable visited)
        (inductionHypothesis worked exchange)

/-- All files that come in an attempt that works can be read. -/
theorem exists_allReadable_of_attempt
    (ran : attempt channel maxDepth state = .ok services later) :
    ∃ exchanges, later.history = state.history ++ exchanges ∧
      ∀ exchange ∈ exchanges, exchange.request.query ≠ .listServices →
        AllReadable exchange.reply.files := by
  obtain ⟨url, target⟩ := exists_target_of_attempt ran
  obtain ⟨exchanges, isAttempt, grown⟩ := exists_isAttempt target maxDepth state
  rw [ran] at isAttempt grown
  refine ⟨exchanges, grown, ?_⟩
  cases isAttempt with
  | completed isListing inOrder _ =>
      rw [List.forall_mem_cons]
      refine ⟨fun forFiles => absurd (congrArg ReflectionRequest.query isListing.request) forFiles,
        fun exchange member _ => inOrder.allReadable rfl exchange member⟩

/-! ## Plain names -/

end Discovery

/-- If bytes can be read as a file, the names in it are plain. -/
def IsPlainIfReadable (bytes : Bytes) : Prop :=
  ∀ file, FileDescriptor.decode bytes = .ok file → file.HasPlainNames

instance (bytes : Bytes) : Decidable (IsPlainIfReadable bytes) :=
  match decoded : FileDescriptor.decode bytes with
  | .ok file =>
      decidable_of_iff file.HasPlainNames (by simp [IsPlainIfReadable, decoded])
  | .error _ =>
      .isTrue (by simp [IsPlainIfReadable, decoded])

/-- The names in every file that a query for files brought are plain, if it can be read. -/
abbrev Exchange.BringsPlainNames : Exchange → Prop :=
  Exchange.Brings IsPlainIfReadable

instance (exchange : Exchange) : Decidable exchange.BringsPlainNames :=
  inferInstanceAs (Decidable (_ → ∀ bytes ∈ exchange.reply.files, IsPlainIfReadable bytes))

theorem Exchange.BringsPlainNames.bringsPlainFiles
    {exchange : Exchange}
    (plain : exchange.BringsPlainNames)
    (readable : exchange.request.query ≠ .listServices →
      Discovery.AllReadable exchange.reply.files) :
    exchange.BringsPlainFiles := by
  intro forFiles bytes member
  obtain ⟨file, decoded⟩ := readable forFiles bytes member
  exact ⟨file, decoded, plain forFiles bytes member file decoded⟩

theorem Exchange.BringsPlainFiles.bringsPlainNames
    {exchange : Exchange}
    (plain : exchange.BringsPlainFiles) :
    exchange.BringsPlainNames := by
  intro forFiles bytes member file decoded
  obtain ⟨other, decodedAlso, plainFile⟩ := plain forFiles bytes member
  obtain rfl := Except.ok.inj (decoded.symm.trans decodedAlso)
  exact plainFile

namespace DiscoveryState

/-- The names in the index are plain, and nothing is cached. -/
structure IsBlank (state : DiscoveryState) : Prop where
  plain : state.index.HasPlainNames
  uncached : state.cache = .empty

theorem IsBlank.isSound
    {state : DiscoveryState}
    (blank : state.IsBlank) :
    state.IsSound := by
  refine ⟨blank.plain, ?_⟩
  rw [blank.uncached]
  exact SchemaCache.coherent_empty _

end DiscoveryState

namespace Discovery

variable {channel : ReflectionChannel} {url : Url} {reply : ReflectionQuery → ReflectionReply}
variable {maxDepth : Nat} {state later : DiscoveryState} {services : List ServiceInfo}

/-- Where nothing is cached, there is nothing for a file that cannot be read to leave behind. -/
theorem survivesFiles_isBlank : SurvivesFiles IsPlainIfReadable DiscoveryState.IsBlank where
  history _ _ blank := ⟨blank.plain, blank.uncached⟩
  files := by
    intro state files plain blank
    constructor
    · rw [registerFiles_index]
      apply blank.plain.registerEach
      intro file member
      obtain ⟨bytes, inside, decoded⟩ := exists_decode_of_mem_readable member
      exact plain bytes inside file decoded
    · by_cases allReadable : AllReadable files
      · obtain ⟨missing, cache, registered, emptied, kept⟩ :=
          registerFiles_of_allReadable allReadable state
        rw [registered]
        by_cases redefined : state.index.RedefinedByFiles (readable files)
        · exact emptied redefined
        · exact (kept redefined).trans blank.uncached
      · obtain ⟨failure, registered⟩ := registerFiles_of_not_allReadable allReadable state
        rw [registered]
        exact blank.uncached

/-- An attempt with nothing cached leaves what is known sound, whether it fails or not. -/
theorem exists_isSound_attempt
    (channel : ReflectionChannel)
    (maxDepth : Nat)
    (state : DiscoveryState) :
    ∃ exchanges,
      (stateAfter (attempt channel maxDepth state)).history = state.history ++ exchanges ∧
      ((∀ exchange ∈ exchanges, exchange.BringsPlainNames) → state.IsBlank →
        (stateAfter (attempt channel maxDepth state)).IsSound) := by
  rcases attempt_cases channel maxDepth state with
    ⟨failure, last, failed, led⟩ | ⟨names, middle, described, led⟩
  · obtain ⟨exchanges, grown, fetched⟩ := led _ _ survivesFiles_isBlank
    rw [failed]
    exact ⟨exchanges, grown, fun plain blank => (fetched plain blank).isSound⟩
  · obtain ⟨exchanges, grown, fetched⟩ := led _ _ survivesFiles_isBlank
    obtain ⟨others, grownFurther, soundLater⟩ :=
      (survivesRebuilds_isSound maxDepth).describeServices names middle
    rw [described]
    refine ⟨exchanges ++ others, by rw [grownFurther, grown, List.append_assoc], ?_⟩
    intro plain blank
    rw [List.forall_mem_append] at plain
    exact soundLater plain.2 (fetched plain.1 blank).isSound

/--
An attempt that works, by a client whose cache is coherent, reports what the index
that it leaves describes of the services that are listed.
-/
theorem exists_described_of_attempt
    (answers : channel.AnswersBy url reply)
    (ran : attempt channel maxDepth state = .ok services later) :
    ∃ exchanges, later.history = state.history ++ exchanges ∧
      ((∀ exchange ∈ exchanges, exchange.BringsPlainNames) → state.IsSound →
        later.index.HasPlainNames ∧
        ∀ listed, ((reply .listServices).answer url channel.timeout).bind
          ReflectionAnswer.listedServices = .ok listed →
          List.Forall₂ (fun name service => later.index.describe? maxDepth name = some service)
            (describedNames listed) services) := by
  obtain ⟨listed, middle, answered, led, described⟩ := exists_listed_of_attempt answers ran
  obtain ⟨exchanges, grown, readable⟩ := exists_allReadable_of_attempt ran
  obtain ⟨others, grownAlso, soundMiddle⟩ := led
  obtain ⟨cache, changed⟩ :=
    exists_stateAfter_describeServices maxDepth (describedNames listed) middle
  rw [described] at changed
  obtain rfl : later = { middle with cache := cache } := changed
  obtain rfl : exchanges = others := List.append_cancel_left (grown.symm.trans grownAlso)
  refine ⟨exchanges, grown, fun plain sound => ?_⟩
  have soundFetched := soundMiddle
    (fun exchange member => (plain exchange member).bringsPlainFiles (readable exchange member))
    sound
  obtain ⟨_, reported⟩ := describe?_of_describeServices soundFetched described
  refine ⟨soundFetched.plain, fun other answeredAlso => ?_⟩
  rw [answered] at answeredAlso
  obtain rfl := Except.ok.inj answeredAlso
  exact reported

/-! ## Two attempts that work -/

section Both

variable {other : ReflectionChannel} {otherUrl : Url}
variable {otherState otherLater : DiscoveryState} {otherServices : List ServiceInfo}
variable (answers : channel.AnswersBy url reply) (otherAnswers : other.AnswersBy otherUrl reply)
variable (ran : attempt channel maxDepth state = .ok services later)
variable (otherRan : attempt other maxDepth otherState = .ok otherServices otherLater)

include answers otherAnswers ran otherRan

/-- Services of the same full names are reported, for the same were listed. -/
theorem fullNames_eq_of_attempts :
    services.map ServiceInfo.fullName = otherServices.map ServiceInfo.fullName := by
  obtain ⟨listed, middle, answered, _, described⟩ := exists_listed_of_attempt answers ran
  obtain ⟨otherListed, otherMiddle, answeredAlso, _, describedAlso⟩ :=
    exists_listed_of_attempt otherAnswers otherRan
  rw [ReflectionReply.answer_eq_ok answered otherUrl other.timeout] at answeredAlso
  obtain rfl := Except.ok.inj answeredAlso
  rw [fullNames_of_describeServices described, fullNames_of_describeServices describedAlso]

/--
The same services are reported, if the one index lies over the other in the end and
nothing below it shows.
-/
theorem exists_services_eq_of_attempts :
    ∃ exchanges others,
      later.history = state.history ++ exchanges ∧
      otherLater.history = otherState.history ++ others ∧
      ((∀ exchange ∈ exchanges, exchange.BringsPlainNames) → state.IsSound →
        (∀ exchange ∈ others, exchange.BringsPlainNames) → otherState.IsSound →
        ∀ lower, later.index.IsOver otherLater.index lower →
          lower.AddsNothingTo otherLater.index → services = otherServices) := by
  obtain ⟨listed, _, answered, _⟩ := exists_listed_of_attempt answers ran
  obtain ⟨exchanges, grown, reported⟩ := exists_described_of_attempt answers ran
  obtain ⟨others, otherGrown, otherReported⟩ :=
    exists_described_of_attempt otherAnswers otherRan
  refine ⟨exchanges, others, grown, otherGrown, ?_⟩
  intro plain sound otherPlain otherSound lower isOver adds
  obtain ⟨plainNames, described⟩ := reported plain sound
  obtain ⟨otherPlainNames, otherDescribed⟩ := otherReported otherPlain otherSound
  exact isOver.services_eq adds plainNames otherPlainNames (described listed answered)
    (otherDescribed listed (ReflectionReply.answer_eq_ok answered otherUrl other.timeout))

end Both

end Discovery

end GrpcDiscovery
