import GrpcDiscovery.Proofs.Discovery.Latest
import GrpcDiscovery.Proofs.Index.References

namespace GrpcDiscovery

/-!
# Names under which services are reported

The reflection services are left out of what is listed by their names as these stand. The
others are reported without a dot in front, and the look-up of their descriptors takes a
name with or without it. So a reflection service is reported exactly if it is listed with
a dot, by which the first of these steps does not know it.
-/

namespace TypeName

/-- A name without a dot in front is what two names come to: itself, and itself after a dot. -/
theorem normalize_eq_iff
    {plain : String}
    (noDot : ¬ ['.'] <+: plain.toList)
    (name : String) :
    normalize name = plain ↔ name = plain ∨ name = "." ++ plain := by
  constructor
  · intro same
    by_cases dotted : ['.'] <+: name.toList
    · obtain ⟨rest, shape⟩ := dotted
      have split : name = "." ++ String.ofList rest := by
        apply String.toList_injective
        simp [← shape]
      rw [split, normalize_dot] at same
      exact .inr (by rw [split, same])
    · exact .inl ((normalize_eq_self dotted).symm.trans same)
  · rintro (rfl | rfl)
    · exact normalize_eq_self noDot
    · exact normalize_dot plain

end TypeName

/-- The name of a reflection service has no dot in front. -/
theorem ReflectionVersion.serviceName_noDot (version : ReflectionVersion) :
    ¬ ['.'] <+: version.serviceName.toList := by
  cases version <;> decide

/-- With a dot in front it is not known as such. -/
theorem isReflectionService_dot (version : ReflectionVersion) :
    isReflectionService ("." ++ version.serviceName) = false := by
  cases version <;> decide +kernel

theorem isReflectionService_serviceName (version : ReflectionVersion) :
    isReflectionService version.serviceName = true := by
  cases version <;> decide +kernel

namespace Discovery

/-- Of the names to be described one comes to a reflection service if it is listed with a dot. -/
theorem serviceName_mem_described_iff
    (reserved : ReflectionVersion)
    (listed : List String) :
    reserved.serviceName ∈ (describedNames listed).map TypeName.normalize ↔
      "." ++ reserved.serviceName ∈ listed := by
  rw [List.mem_map, describedNames]
  constructor
  · rintro ⟨name, described, same⟩
    rw [List.mem_filter] at described
    rcases (TypeName.normalize_eq_iff reserved.serviceName_noDot name).mp same with rfl | rfl
    · rw [isReflectionService_serviceName] at described
      exact absurd described.2 (by simp)
    · exact described.1
  · intro member
    refine ⟨_, List.mem_filter.mpr ⟨member, ?_⟩, TypeName.normalize_dot reserved.serviceName⟩
    rw [isReflectionService_dot]
    rfl

/-- An attempt that works reports the names to be described of those that it found listed. -/
theorem IsAttempt.exists_listing
    {channel : ReflectionChannel}
    {index : TypeIndex}
    {exchanges : List Exchange}
    {services : List ServiceInfo}
    (isAttempt : IsAttempt channel index exchanges (.ok services)) :
    ∃ url listing listed, listing ∈ exchanges ∧ IsListing channel url listing (.ok listed) ∧
      services.map ServiceInfo.fullName = (describedNames listed).map TypeName.normalize := by
  cases isAttempt with
  | completed isListing _ reports =>
      exact ⟨_, _, _, List.mem_cons_self, isListing, fullNames_of_reports reports⟩

end Discovery

namespace ReflectionClient

/-- A discovery that works has exchanged a listing, of which it reports what is to be described. -/
theorem exists_listing_of_succeeded
    {client : ReflectionClient}
    {server : ReflectionServer}
    {serverUrl : String}
    {timeout : Option Nat}
    {history : List Exchange}
    {version : ReflectionVersion}
    {services : List ServiceInfo}
    (succeeded : (client.tried server serverUrl timeout history).1 = .ok (version, services)) :
    ∃ exchanges url listing listed,
      (client.tried server serverUrl timeout history).2.history = history ++ exchanges ∧
      listing ∈ exchanges ∧
      Discovery.IsListing (client.channel server serverUrl timeout version) url listing
        (.ok listed) ∧
      services.map ServiceInfo.fullName =
        (Discovery.describedNames listed).map TypeName.normalize := by
  have ran := attempt_of_succeeded succeeded
  obtain ⟨earlier, grown, _⟩ :=
    exists_isSound_knownBefore client server serverUrl timeout history version
  obtain ⟨url, target⟩ := Discovery.exists_target_of_attempt ran
  obtain ⟨exchanges, isAttempt, grownFurther⟩ :=
    Discovery.exists_isAttempt target client.config.maxDepth
      (client.knownBefore server serverUrl timeout history version)
  rw [ran] at isAttempt grownFurther
  obtain ⟨url, listing, listed, member, isListing, names⟩ := isAttempt.exists_listing
  refine ⟨earlier ++ exchanges, url, listing, listed, ?_, List.mem_append_right _ member,
    isListing, names⟩
  rw [← List.append_assoc, ← grown]
  exact grownFurther

/--
A discovery that works reports a reflection service exactly if it is listed with a dot.

The services that are reported are all that are listed, in order, by their names without a
dot, apart from those that are listed by the plain name of a reflection service.
-/
theorem discover_reportsReserved_iff
    {client later : ReflectionClient}
    {server : ReflectionServer}
    {serverUrl : String}
    {timeout : Option Nat}
    {history total : List Exchange}
    {result : DiscoveryResult}
    (discovered : client.discover server serverUrl timeout history = (result, later, total))
    {version : ReflectionVersion}
    {services : List ServiceInfo}
    (succeeded : result.outcome = .ok (version, services)) :
    ∃ url listing listed,
      listing ∈ total.drop history.length ∧
      Discovery.IsListing (client.channel server serverUrl timeout version) url listing
        (.ok listed) ∧
      services.map ServiceInfo.fullName =
        (Discovery.describedNames listed).map TypeName.normalize ∧
      ∀ reserved : ReflectionVersion,
        (∃ service ∈ services, service.fullName = reserved.serviceName) ↔
          "." ++ reserved.serviceName ∈ listed := by
  rw [discover_eq, Prod.mk.injEq, Prod.mk.injEq] at discovered
  obtain ⟨rfl, rfl, rfl⟩ := discovered
  obtain ⟨exchanges, url, listing, listed, grown, member, isListing, names⟩ :=
    exists_listing_of_succeeded succeeded
  refine ⟨url, listing, listed, ?_, isListing, names, ?_⟩
  · rw [grown, List.drop_left]
    exact member
  · intro reserved
    rw [← Discovery.serviceName_mem_described_iff, ← names, List.mem_map]

/-- A file that defines the reflection service of the first version. -/
def sentReflectionFile : String :=
  "EhJncnBjLnJlZmxlY3Rpb24udjEyEgoQU2VydmVyUmVmbGVjdGlvbg=="

/-- A server that lists its first reflection service with a dot and the second without. -/
def dottedServer : ReflectionServer :=
  .ofReplies {
    listing := .response 200 (Utf8.encode
      ("\x7b\"listServicesResponse\":\x7b\"service\":[" ++
        "\x7b\"name\":\".grpc.reflection.v1.ServerReflection\"\x7d," ++
        "\x7b\"name\":\"grpc.reflection.v1alpha.ServerReflection\"\x7d]\x7d\x7d"))
    definition := filesReply [sentReflectionFile]
  }

/-- What a new client is told of that server. -/
def resultOfDotted : DiscoveryResult × ReflectionClient × List Exchange :=
  discover { config := {} } dottedServer "http://a" none []

/-- The version by which services were discovered, and the names under which they are reported. -/
def reportedNames? (result : DiscoveryResult) : Option (ReflectionVersion × List String) :=
  result.outcome.toOption.map fun found => (found.1, found.2.map ServiceInfo.fullName)

theorem exists_succeeded_of_reportedNames?
    {result : DiscoveryResult}
    {version : ReflectionVersion}
    {names : List String}
    (reported : reportedNames? result = some (version, names)) :
    ∃ services, result.outcome = .ok (version, services) ∧
      services.map ServiceInfo.fullName = names := by
  rw [reportedNames?] at reported
  cases outcome : result.outcome with
  | error failure =>
      rw [outcome] at reported
      cases reported
  | ok found =>
      rw [outcome] at reported
      cases reported
      exact ⟨found.2, rfl, rfl⟩

/-- The one that is listed with a dot is reported, by its plain name. -/
theorem reportedNames?_resultOfDotted :
    reportedNames? resultOfDotted.1 = some (.v1, [ReflectionVersion.v1.serviceName]) := by
  decide +kernel

/-- The first reflection service was listed with a dot, and the second was not. -/
theorem discover_reportsReserved_dotted :
    ∃ url listing listed,
      listing ∈ resultOfDotted.2.2 ∧
      Discovery.IsListing (channel { config := {} } dottedServer "http://a" none .v1) url listing
        (.ok listed) ∧
      "." ++ ReflectionVersion.v1.serviceName ∈ listed ∧
      "." ++ ReflectionVersion.v1alpha.serviceName ∉ listed := by
  obtain ⟨services, succeeded, names⟩ :=
    exists_succeeded_of_reportedNames? reportedNames?_resultOfDotted
  obtain ⟨url, listing, listed, member, isListing, _, reserved⟩ :=
    discover_reportsReserved_iff
      (show resultOfDotted = (resultOfDotted.1, resultOfDotted.2.1, resultOfDotted.2.2) from rfl)
      succeeded
  obtain ⟨service, rfl, fullName⟩ := List.map_eq_singleton_iff.mp names
  refine ⟨url, listing, listed, member, isListing, ?_, ?_⟩
  · exact (reserved .v1).mp ⟨service, List.mem_cons_self, fullName⟩
  · intro dotted
    obtain ⟨other, only, otherName⟩ := (reserved .v1alpha).mpr dotted
    obtain rfl := List.mem_singleton.mp only
    rw [fullName] at otherName
    exact absurd otherName (by decide)

/-- A reflection service can be among the services that are reported. -/
theorem not_forall_reserved_unreported :
    ¬ ∀ (client : ReflectionClient) (server : ReflectionServer) (serverUrl : String)
      (timeout : Option Nat) (history : List Exchange),
      ∀ service ∈ (client.discover server serverUrl timeout history).1.services,
        isReflectionService service.fullName = false := by
  intro never
  obtain ⟨services, succeeded, names⟩ :=
    exists_succeeded_of_reportedNames? reportedNames?_resultOfDotted
  obtain ⟨service, rfl, fullName⟩ := List.map_eq_singleton_iff.mp names
  have unreserved := never { config := {} } dottedServer "http://a" none [] service (by
    rw [← resultOfDotted, DiscoveryResult.services, succeeded]
    exact List.mem_cons_self)
  rw [fullName, isReflectionService_serviceName] at unreserved
  cases unreserved

end ReflectionClient

end GrpcDiscovery
