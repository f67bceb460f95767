import GrpcDiscovery.Proofs.Reflection.Endpoint
import GrpcDiscovery.Proofs.Url.Web
import GrpcDiscovery.Reflection.Channel

namespace GrpcDiscovery

open Url

/-!
# Servers that can be asked

A request goes to the URL that is read from the address of a reflection service. For a
server on the web that URL is one of the web too, and has a host. So a request can be sent
if the address is a URL at all, its host is one that a request line can name, and it is not
too long.

The address of most servers is a URL, namely the server's own but for the path and what
comes behind it. Only where the text of a server ends in a blank, and has no query and no
fragment to take it up, it may be none: what is a blank at the end of one text stands in
the middle of the other.
-/

/-- A text that is a URL of the web. -/
def IsWebServer (serverUrl : String) : Prop :=
  ∃ own, Url.parse serverUrl = .ok own ∧ own.IsOfWeb

instance (serverUrl : String) : Decidable (IsWebServer serverUrl) :=
  decidable_of_iff ((Url.parse serverUrl).toOption.any fun own => decide own.IsOfWeb) <| by
    cases isRead : Url.parse serverUrl <;> simp [IsWebServer, isRead, Except.toOption]

namespace Url

/-- A URL whose host a request line can name. -/
def IsNameable (url : Url) : Prop :=
  ∀ host ∈ url.host, ∀ char ∈ host.text.toList, char ∉ unsendableChars

/-- A URL that is short enough for a request line. -/
def IsShort (url : Url) : Prop :=
  url.withoutCredentials.text.utf8ByteSize < sizeLimit

instance (url : Url) : Decidable url.IsNameable :=
  decidable_of_iff (url.host.all fun host => !host.text.toList.any unsendableChars.contains) <| by
    cases isHost : url.host <;> simp [IsNameable, isHost]

instance (url : Url) : Decidable url.IsShort :=
  inferInstanceAs (Decidable (_ < _))

end Url

/-- A server to whose reflection service of a version a request can be addressed. -/
def CanBeAsked
    (serverUrl : String)
    (version : ReflectionVersion) :
    Prop :=
  ∃ url,
    Url.parse (withoutTrailingSlashes serverUrl ++ version.endpointPath) = .ok url ∧
      url.IsNameable ∧ url.IsShort

instance
    (serverUrl : String)
    (version : ReflectionVersion) :
    Decidable (CanBeAsked serverUrl version) :=
  decidable_of_iff
    ((Url.parse (withoutTrailingSlashes serverUrl ++ version.endpointPath)).toOption.any
      fun url => decide (url.IsNameable ∧ url.IsShort)) <| by
    cases isRead : Url.parse (withoutTrailingSlashes serverUrl ++ version.endpointPath) <;>
      simp [CanBeAsked, isRead, Except.toOption]

variable
  {version : ReflectionVersion}
  {serverUrl : String}
  {own url : Url}

/-! ## Targets -/

theorem leadingChars_slashes
    (front : List Char)
    (count : Nat) :
    leadingChars (front ++ List.replicate count '/') =
      leadingChars front ++ List.replicate count '/' := by
  induction count with
  | zero =>
      simp
  | succ count inductionHypothesis =>
      rw [List.replicate_succ', ← List.append_assoc, leadingChars_concat (by decide),
        inductionHypothesis, List.append_assoc]

theorem exists_scheme_of_isOwn
    (isOwn : Url.parse serverUrl = .ok own) :
    ∃ front,
      scheme? (leadingChars (withoutTrailingSlashes serverUrl).toList) =
        some (own.scheme, front) := by
  obtain ⟨chars, -, -, isScheme, -⟩ := exists_read_of_parse isOwn
  obtain ⟨rest, isLead⟩ := scheme?_leadingChars isScheme
  obtain ⟨count, isBase⟩ := toList_withoutTrailingSlashes serverUrl
  have ended :
      ∀ char ∈ (List.replicate count '/').head?, isSchemeChar char = false ∧ char ≠ ':' := by
    intro char isFirst
    rw [head?_slashes isFirst]
    decide
  rw [isBase, leadingChars_slashes, scheme?_append ended] at isLead
  obtain ⟨⟨scheme, front⟩, isFront, same⟩ := Option.map_eq_some_iff.mp isLead
  cases same
  exact ⟨front, isFront⟩

/-- The address of a server has the scheme of the server. -/
theorem scheme_of_address
    (isOwn : Url.parse serverUrl = .ok own)
    (isUrl : Url.parse (withoutTrailingSlashes serverUrl ++ version.endpointPath) = .ok url) :
    url.scheme = own.scheme := by
  obtain ⟨front, isFront⟩ := exists_scheme_of_isOwn isOwn
  obtain ⟨chars, -, -, isScheme, -⟩ := exists_read_of_parse isUrl
  have isText := significantChars_ending (withoutTrailingSlashes serverUrl)
    (endpointPath_mem_endings version)
  rw [String.ofList_toList] at isText
  rw [isText, scheme?_append_of_some isFront] at isScheme
  exact (congrArg Prod.fst (Option.some.inj isScheme)).symm

theorem Url.withoutCredentials_eq
    (url : Url) :
    url.withoutCredentials = {
      url with
      username := url.withoutCredentials.username
      password := url.withoutCredentials.password
    } := by
  unfold Url.withoutCredentials
  split <;> rfl

theorem isSendable_withoutCredentials_iff
    (isOfWeb : url.IsOfWeb)
    (hasHost : url.hasHost) :
    url.withoutCredentials.isSendable ↔ url.IsNameable ∧ url.IsShort := by
  have isBare := url.withoutCredentials_eq
  have sameScheme : url.withoutCredentials.scheme = url.scheme := by rw [isBare]
  have sameHost : url.withoutCredentials.host = url.host := by rw [isBare]
  simp only [isSendable, Url.hasHost, IsNameable, IsShort, sameScheme, sameHost] at hasHost ⊢
  cases isHost : url.host with
  | none =>
      simp [isHost] at hasHost
  | some host =>
      have isOfWeb : url.scheme = "http" ∨ url.scheme = "https" := isOfWeb
      simp only [isHost, Bool.not_eq_true'] at hasHost
      simp [hasHost, isOfWeb, and_comm]

/-- The servers of the web that have a target are those that can be asked. -/
theorem exists_target_iff
    (channel : ReflectionChannel)
    (isServer : IsWebServer channel.serverUrl) :
    (∃ url, channel.target = .ok url) ↔ CanBeAsked channel.serverUrl channel.version := by
  obtain ⟨own, isOwn, isOfWeb⟩ := isServer
  have isAddress : endpoint channel.serverUrl channel.version =
      .ok (withoutTrailingSlashes channel.serverUrl ++ channel.version.endpointPath) := by
    simp only [endpoint, isOwn]
  simp only [ReflectionChannel.target, isAddress, ofEndpoint, CanBeAsked]
  cases isRead : Url.parse
      (withoutTrailingSlashes channel.serverUrl ++ channel.version.endpointPath) with
  | error cause =>
      simp
  | ok url =>
      have isOfWeb : url.IsOfWeb := by
        rwa [IsOfWeb, scheme_of_address isOwn isRead]
      have sendableIff := isSendable_withoutCredentials_iff isOfWeb
        (hasHost_of_isOfWeb isOfWeb isRead)
      by_cases sendable : url.withoutCredentials.isSendable
      · simp [sendable, sendableIff.mp sendable]
      · simp [sendable, mt sendableIff.mpr sendable]

/-! ## Servers whose address is a URL -/

section

variable
  (isOwn : Url.parse serverUrl = .ok own)
  (isOfWeb : own.IsOfWeb)

include isOwn isOfWeb

theorem exists_address_of_no_blank
    (noBlankAtEnd :
      ∀ last ∈ (withoutTrailingSlashes serverUrl).toList.getLast?, isBlank last = false)
    (version : ReflectionVersion) :
    ∃ url,
      Url.parse (withoutTrailingSlashes serverUrl ++ version.endpointPath) = .ok url ∧
        SameAuthority url own := by
  obtain ⟨count, isBase⟩ := toList_withoutTrailingSlashes serverUrl
  obtain ⟨front, isFront⟩ := exists_scheme_of_isOwn isOwn
  obtain ⟨defaultPort, isKind⟩ := isOfWeb.exists_special
  have required : ¬ AuthorityIsOptional (.special defaultPort) := fun optional =>
    optional defaultPort rfl
  have ownRead :=
    parse_of_significantChars (significantChars_slashes isBase noBlankAtEnd) fun char isFirst => by
      rw [head?_slashes isFirst]
      decide
  have addressRead :=
    parse_ending (withoutTrailingSlashes serverUrl) (endpointPath_mem_endings version)
  simp only [isFront, isKind, isOwn] at ownRead
  simp only [isFront, isKind, String.ofList_toList] at addressRead
  cases opening (.special defaultPort) front with
  | nothing optional | oneSlash optional _ =>
      exact absurd optional required
  | slashes _ same =>
      have nothingFollows :
          authorityStart? (.special defaultPort) (List.replicate count '/') = some [] :=
        authorityStart?_slashes required fun char isChar =>
          List.eq_of_mem_replicate isChar ▸ isSlash_slash _
      rw [beforePath?_of_nothing required _ ((same _).trans nothingFollows)] at ownRead
      cases ownRead
  | decided opens _ =>
      have ended :
          EndAuthority (.special defaultPort)
            {List.replicate count '/', version.endpointPath.toList} := by
        rintro _ (rfl | rfl) char isFirst
        · rw [head?_slashes isFirst]
          rfl
        · exact endAuthority_endings version _ _ (endpointPath_mem_endings version) char isFirst
      have notNil : version.endpointPath.toList ≠ [] := fun isNil =>
        nil_not_mem_endings version (.inr isNil.symm)
      obtain ⟨url, isUrl, same⟩ :=
        exists_sameAuthority_of_opens ended (opens _) notNil ownRead.symm
      exact ⟨url, addressRead.trans isUrl, same⟩

/--
The address of a server is a URL that is the server's own up to the path, unless a blank
at the end of the server's text comes to stand in the middle.
-/
theorem exists_address
    (noBlankAtEnd :
      HasNoMark serverUrl →
        ∀ last ∈ (withoutTrailingSlashes serverUrl).toList.getLast?, isBlank last = false)
    (version : ReflectionVersion) :
    ∃ url,
      Url.parse (withoutTrailingSlashes serverUrl ++ version.endpointPath) = .ok url ∧
        SameAuthority url own := by
  by_cases noMark : HasNoMark serverUrl
  · exact exists_address_of_no_blank isOwn isOfWeb (noBlankAtEnd noMark) version
  · obtain ⟨count, isBase⟩ := toList_withoutTrailingSlashes serverUrl
    obtain ⟨own', url, isOwn', isUrl, same, -⟩ :=
      landsBehindMark isBase version (mt (hasNoMark_iff isBase).mpr noMark) isOwn
    cases isOwn.symm.trans isOwn'
    refine ⟨url, isUrl, ?_⟩
    rw [same]
    exact ⟨rfl, rfl, rfl, rfl, rfl⟩

/-- Such a server can be asked if its host is nameable and its address is not too long. -/
theorem canBeAsked_iff
    (noBlankAtEnd :
      HasNoMark serverUrl →
        ∀ last ∈ (withoutTrailingSlashes serverUrl).toList.getLast?, isBlank last = false) :
    CanBeAsked serverUrl version ↔
      own.IsNameable ∧
        ∀ url,
          Url.parse (withoutTrailingSlashes serverUrl ++ version.endpointPath) = .ok url →
            url.IsShort := by
  obtain ⟨url, isUrl, same⟩ := exists_address isOwn isOfWeb noBlankAtEnd version
  have nameableIff : url.IsNameable ↔ own.IsNameable := by
    rw [IsNameable, IsNameable, same.host]
  simp [CanBeAsked, isUrl, nameableIff]

end

end GrpcDiscovery
