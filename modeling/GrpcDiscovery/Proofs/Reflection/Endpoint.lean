import GrpcDiscovery.Proofs.Url.Parts
import GrpcDiscovery.Reflection.Endpoint

namespace GrpcDiscovery

open Url

/-!
# Where the path of a reflection service lands

The address of a reflection service is the text of a server's URL and a path behind it.
Only the text is extended, not the URL that was read from it. So the path lands in the
path of the address if nothing in the text comes in between: no query and no fragment,
no blanks at the end that would no longer be at the end, no at sign that would be
followed by nothing, and no slashes that would make a host of what follows.

Behind a question mark or a number sign the path lands in the query or the fragment, and
behind two slashes the name of the service is read as the host. A text that cannot be
read with a slash at its end cannot be read with the path there either.
-/

namespace ReflectionVersion

/-- The segments of the path that a version adds to a server. -/
def segments (version : ReflectionVersion) : List (List Char) :=
  [version.serviceName.toList, "ServerReflectionInfo".toList]

theorem segments_ordinary
    (version : ReflectionVersion) :
    ∀ segment ∈ version.segments, UrlPath.IsOrdinary segment := by
  cases version <;> decide

theorem endpointPath_toList
    (version : ReflectionVersion) :
    version.endpointPath.toList = UrlPath.slashed version.segments := by
  cases version <;> rfl

theorem endpointPath_noBlank
    (version : ReflectionVersion) :
    ∀ char ∈ version.endpointPath.toList.tail, isBlank char = false := by
  have noBlank : version.endpointPath.toList.tail.all fun char => !isBlank char := by
    cases version <;> decide
  simpa using noBlank

theorem endpointPath_unencoded
    (version : ReflectionVersion) :
    ∀ char ∈ version.endpointPath.toList,
      char.toNat < 0x80 ∧
        Percent.specialQuerySet char = false ∧ Percent.fragmentSet char = false := by
  have unencoded :
      version.endpointPath.toList.all fun char =>
        decide (char.toNat < 0x80) &&
          (!Percent.specialQuerySet char && !Percent.fragmentSet char) := by
    cases version <;> decide
  simpa using unencoded

theorem serviceName_plain
    (version : ReflectionVersion) :
    ∀ char ∈ version.serviceName.toList,
      endsAuthority .file char = false ∧ char ≠ ':' ∧ char ≠ '@' := by
  have plain :
      version.serviceName.toList.all fun char =>
        !endsAuthority .file char && (char != ':' && char != '@') := by
    cases version <;> decide
  simpa using plain

end ReflectionVersion

/-- A text without question marks and number signs. -/
def HasNoMark (text : String) : Prop :=
  ∀ char ∈ text.toList, endsPath char = false

instance (text : String) : Decidable (HasNoMark text) :=
  decidable_of_iff (text.toList.all fun char => !endsPath char) (by simp [HasNoMark])

/-- An address whose path ends in that of a version, with nothing behind it. -/
structure LandsInPath
    (version : ReflectionVersion)
    (address : String) :
    Prop where
  behindNoMark :
    ∃ front, address = front ++ version.endpointPath ∧ HasNoMark front
  read :
    ∃ url,
      Url.parse address = .ok url ∧
        url.query = none ∧
          url.fragment = none ∧
            ∃ above, url.path.text = above ++ version.endpointPath

/-- An address that is a server's own but for the query and the fragment, where the path is. -/
def LandsBehindMark
    (version : ReflectionVersion)
    (serverUrl address : String) :
    Prop :=
  ∃ own url,
    Url.parse serverUrl = .ok own ∧
      Url.parse address = .ok url ∧
        url = { own with query := url.query, fragment := url.fragment } ∧
          ((∃ above, url.fragment = some (above ++ version.endpointPath)) ∨
            url.fragment = none ∧ ∃ above, url.query = some (above ++ version.endpointPath))

/-- Whether a text has two slashes behind the scheme, and nothing else. -/
def endsBeforeAuthority (text : String) : Bool :=
  match scheme? (significantChars text) with
  | some (scheme, [first, second]) =>
      isSlash (SchemeKind.ofScheme scheme) first &&
        isSlash (SchemeKind.ofScheme scheme) second
  | _ =>
      false

/-- A text to which a path can be added. -/
structure TakesPath (base : String) : Prop where
  noMark : HasNoMark base
  readable : ∃ url, Url.parse (base ++ "/") = .ok url
  hasBegun : endsBeforeAuthority (base ++ "/") = false

/-- A text whose last character is neither blank nor an at sign. -/
def EndsPlainly (text : String) : Prop :=
  ∀ char ∈ text.toList.getLast?, isBlank char = false ∧ char ≠ '@'

instance (text : String) : Decidable (EndsPlainly text) :=
  decidable_of_iff (text.toList.getLast?.all fun char => !isBlank char && char != '@')
    (by cases isLast : text.toList.getLast? <;> simp [EndsPlainly, isLast])

variable
  {version : ReflectionVersion}
  {base scheme serverUrl : String}
  {front : List Char}

theorem LandsInPath.hasNoMark
    (lands : LandsInPath version (base ++ version.endpointPath)) :
    HasNoMark base := by
  obtain ⟨front, isAddress, noMark⟩ := lands.behindNoMark
  have sameFront : base.toList = front.toList := by
    simpa using congrArg String.toList isAddress
  rwa [HasNoMark, sameFront]

/-! ## Texts behind a server -/

/-- The texts that are read behind a server: a slash and the path of a version. -/
def endings (version : ReflectionVersion) : Set (List Char) :=
  {['/'], version.endpointPath.toList}

theorem slash_mem_endings (version : ReflectionVersion) : ['/'] ∈ endings version :=
  .inl rfl

theorem endpointPath_mem_endings
    (version : ReflectionVersion) :
    version.endpointPath.toList ∈ endings version :=
  .inr rfl

theorem eq_slash_of_mem_endings
    {ending : List Char}
    (isEnding : ending ∈ endings version) :
    ∃ rest, ending = '/' :: rest ∧
      (∀ char ∈ rest.head?, isSlash .file char = false) ∧
        ∀ char ∈ rest, isBlank char = false := by
  rcases isEnding with rfl | rfl
  · exact ⟨[], rfl, by simp, by simp⟩
  · refine ⟨version.endpointPath.toList.tail, ?_, ?_, version.endpointPath_noBlank⟩
    · cases version <;> rfl
    · have isFirst : version.endpointPath.toList.tail.head? = some 'g' := by
        cases version <;> rfl
      simp [isFirst, isSlash]

theorem endAuthority_endings
    (version : ReflectionVersion)
    (kind : SchemeKind) :
    EndAuthority kind (endings version) := by
  intro ending isEnding char isFirst
  obtain ⟨rest, rfl, -⟩ := eq_slash_of_mem_endings isEnding
  obtain rfl : '/' = char := by simpa using isFirst
  rfl

theorem nil_not_mem_endings (version : ReflectionVersion) : [] ∉ endings version := by
  intro isEnding
  obtain ⟨_, isCons, -⟩ := eq_slash_of_mem_endings isEnding
  cases isCons

theorem opens_endings_nil
    {kind : SchemeKind}
    (optional : AuthorityIsOptional kind) :
    Opens kind (endings version) [] := by
  refine opens_nil optional fun ending isEnding _ _ next isNext => .inr ?_
  obtain ⟨rest, rfl, noSlash, -⟩ := eq_slash_of_mem_endings isEnding
  exact isSlash_eq_false (noSlash next isNext) kind

theorem significantChars_ending
    (base : String)
    {ending : List Char}
    (isEnding : ending ∈ endings version) :
    significantChars (base ++ String.ofList ending) = leadingChars base.toList ++ ending := by
  obtain ⟨rest, rfl, -, noBlank⟩ := eq_slash_of_mem_endings isEnding
  have isText :
      base ++ String.ofList ('/' :: rest) = String.ofList (base.toList ++ '/' :: rest) := by
    simp
  rw [isText, significantChars_append (by decide), trailingChars_of_no_blank noBlank]

theorem parse_ending
    (base : String)
    {ending : List Char}
    (isEnding : ending ∈ endings version) :
    Url.parse (base ++ String.ofList ending) =
      match scheme? (leadingChars base.toList) with
      | none =>
          .error .relativeWithoutBase
      | some (scheme, front) =>
          (beforePath? scheme (SchemeKind.ofScheme scheme) (front ++ ending)).map
            fun (url, rest) => withRest (SchemeKind.ofScheme scheme) url rest := by
  refine parse_of_significantChars (significantChars_ending base isEnding) ?_
  obtain ⟨rest, rfl, -⟩ := eq_slash_of_mem_endings isEnding
  simp [isSchemeChar]

theorem trailingChars_endpointPath
    (version : ReflectionVersion)
    (front : List Char) :
    trailingChars (front ++ version.endpointPath.toList) =
      (front.filter fun char => !isIgnored char) ++ version.endpointPath.toList := by
  obtain ⟨rest, isEndpoint, -, noBlank⟩ :=
    eq_slash_of_mem_endings (endpointPath_mem_endings version)
  rw [isEndpoint, trailingChars_append (by decide), trailingChars_of_no_blank noBlank]

theorem endsBeforeAuthority_slash
    (isScheme : scheme? (leadingChars base.toList) = some (scheme, front)) :
    endsBeforeAuthority (base ++ "/") ↔
      ∃ char, front = [char] ∧ isSlash (SchemeKind.ofScheme scheme) char := by
  have isText := significantChars_ending base (slash_mem_endings .v1)
  have isRead :
      scheme? (leadingChars base.toList ++ ['/']) = some (scheme, front ++ ['/']) := by
    rw [scheme?_append (by simp [isSchemeChar]), isScheme]
    rfl
  change endsBeforeAuthority (base ++ String.ofList ['/']) ↔ _
  simp only [endsBeforeAuthority, isText, isRead]
  match front with
  | [] | _ :: _ :: _ =>
      simp
  | [char] =>
      simp

/-! ## Servers whose authority has begun -/

theorem withRest_endpointPath
    (version : ReflectionVersion)
    (kind : SchemeKind)
    (url : Url)
    {left : List Char}
    (noMark : ∀ char ∈ left, endsPath char = false) :
    let read := withRest kind url (left ++ version.endpointPath.toList)
    read.query = none ∧
      read.fragment = none ∧
        ∃ above, read.path.text = above ++ version.endpointPath := by
  have ordinary := version.segments_ordinary
  have noMarkAtAll :
      ∀ char ∈ left ++ UrlPath.slashed version.segments, endsPath char = false := by
    intro char isChar
    cases List.mem_append.mp isChar with
    | inl isLeft =>
        exact noMark char isLeft
    | inr isEnding =>
        exact UrlPath.endsPath_eq_false (UrlPath.unencoded_slashed ordinary char isEnding).2
  have endsWith :=
    pathOf_endsWith kind url.host.isSome ordinary (by simp [ReflectionVersion.segments]) left
  rw [← version.endpointPath_toList, String.ofList_toList, version.endpointPath_toList] at endsWith
  rw [version.endpointPath_toList]
  simp only [withRest_of_no_mark kind url noMarkAtAll, true_and]
  exact endsWith

theorem landsInPath_iff_of_unreadable
    {cause slashCause : UrlError}
    (unreadable : Url.parse (base ++ version.endpointPath) = .error cause)
    (slashUnreadable : Url.parse (base ++ "/") = .error slashCause) :
    LandsInPath version (base ++ version.endpointPath) ↔ TakesPath base := by
  refine iff_of_false (fun lands => ?_) fun takes => ?_
  · obtain ⟨url, isUrl, -⟩ := lands.read
    cases unreadable.symm.trans isUrl
  · obtain ⟨url, isUrl⟩ := takes.readable
    cases slashUnreadable.symm.trans isUrl

/-- Once it is decided where the authority begins, a path lands as a slash would. -/
theorem landsInPath_iff_of_opens
    (isScheme : scheme? (leadingChars base.toList) = some (scheme, front))
    (opens : Opens (SchemeKind.ofScheme scheme) (endings version) front)
    (notOneSlash : ∀ char, isSlash (SchemeKind.ofScheme scheme) char → front ≠ [char]) :
    LandsInPath version (base ++ version.endpointPath) ↔ TakesPath base := by
  obtain ⟨outcome, within, isRead⟩ :=
    beforePath?_readsWithin scheme (endAuthority_endings version _) opens
      fun _ => nil_not_mem_endings version
  have slashRead := parse_ending base (slash_mem_endings version)
  have addressRead := parse_ending base (endpointPath_mem_endings version)
  simp only [isScheme, isRead _ (slash_mem_endings version)] at slashRead
  simp only [isScheme, isRead _ (endpointPath_mem_endings version), String.ofList_toList]
    at addressRead
  match outcome with
  | .error cause =>
      exact landsInPath_iff_of_unreadable addressRead slashRead
  | .ok (url, left) =>
      have hasBegun : endsBeforeAuthority (base ++ "/") = false := by
        rw [Bool.eq_false_iff, ne_eq, endsBeforeAuthority_slash isScheme]
        rintro ⟨char, isFront, slash⟩
        exact notOneSlash char slash isFront
      refine ⟨fun lands => ⟨lands.hasNoMark, ⟨_, slashRead⟩, hasBegun⟩, fun takes => ?_⟩
      -- What is left of the text is part of it, so that no mark is left either.
      have noMarkLeft : ∀ char ∈ left, endsPath char = false := fun char isChar =>
        takes.noMark char
          (mem_of_mem_leadingChars
            ((scheme?_suffix isScheme).subset ((within url left rfl).subset isChar)))
      exact ⟨⟨base, rfl, takes.noMark⟩, _, addressRead,
        withRest_endpointPath version _ url noMarkLeft⟩

/-! ## Servers whose authority is still to come -/

theorem pathOf_methodPath
    (kind : SchemeKind)
    (hasAuthority : Bool) :
    (pathOf kind hasAuthority "/ServerReflectionInfo".toList).text = "/ServerReflectionInfo" := by
  cases kind <;> cases hasAuthority <;> rfl

/-- Where the authority would begin with the name of the service, that is the host. -/
theorem path_eq_of_awaits
    {url : Url}
    (isScheme : scheme? (leadingChars base.toList) = some (scheme, front))
    (awaits :
      authorityStart? (SchemeKind.ofScheme scheme) (front ++ version.endpointPath.toList) =
        some version.endpointPath.toList.tail)
    (isUrl : Url.parse (base ++ version.endpointPath) = .ok url) :
    url.path.text = "/ServerReflectionInfo" := by
  have isRead := parse_ending base (endpointPath_mem_endings version)
  simp only [String.ofList_toList, isScheme, isUrl] at isRead
  have isTail :
      version.endpointPath.toList.tail =
        version.serviceName.toList ++ "/ServerReflectionInfo".toList := by
    cases version <;> rfl
  cases isBefore :
      beforePath? scheme (SchemeKind.ofScheme scheme) (front ++ version.endpointPath.toList) with
  | error cause =>
      rw [isBefore] at isRead
      cases isRead
  | ok found =>
      obtain ⟨before, rest⟩ := found
      have isRest : rest = "/ServerReflectionInfo".toList :=
        eq_of_beforePath?_plain (isTail ▸ awaits) version.serviceName_plain
          (by cases version <;> rfl) (by simp [endsAuthority]) isBefore
      simp only [isBefore, isRest, Except.map] at isRead
      cases isRead
      rw [withRest_of_no_mark _ _ (by simp [endsPath])]
      exact pathOf_methodPath _ _

theorem not_landsInPath_of_awaits
    (isScheme : scheme? (leadingChars base.toList) = some (scheme, front))
    (awaits :
      authorityStart? (SchemeKind.ofScheme scheme) (front ++ version.endpointPath.toList) =
        some version.endpointPath.toList.tail) :
    ¬ LandsInPath version (base ++ version.endpointPath) := by
  intro lands
  obtain ⟨url, isUrl, -, -, above, isPath⟩ := lands.read
  have sameLength :=
    congrArg String.length ((path_eq_of_awaits isScheme awaits isUrl).symm.trans isPath)
  have isLonger : "/ServerReflectionInfo".length < version.endpointPath.length := by
    cases version <;> decide
  rw [String.length_append] at sameLength
  omega

/-! ## All servers -/

/-- The path lands in the path exactly behind the texts to which a path can be added. -/
theorem landsInPath_append_iff
    (version : ReflectionVersion)
    (base : String) :
    LandsInPath version (base ++ version.endpointPath) ↔ TakesPath base := by
  obtain ⟨rest, isEndpoint, noSlash, -⟩ :=
    eq_slash_of_mem_endings (endpointPath_mem_endings version)
  have slashRead := parse_ending base (slash_mem_endings version)
  cases isScheme : scheme? (leadingChars base.toList) with
  | none =>
      have addressRead := parse_ending base (endpointPath_mem_endings version)
      simp only [isScheme, String.ofList_toList] at slashRead addressRead
      exact landsInPath_iff_of_unreadable addressRead slashRead
  | some found =>
      obtain ⟨scheme, front⟩ := found
      cases opening (SchemeKind.ofScheme scheme) front with
      | decided opens notOneSlash =>
          exact landsInPath_iff_of_opens isScheme (opens _) notOneSlash
      | nothing optional =>
          exact landsInPath_iff_of_opens isScheme (opens_endings_nil optional) (by simp)
      | oneSlash optional slash =>
          refine iff_of_false (not_landsInPath_of_awaits isScheme ?_) fun takes => ?_
          · simp [isEndpoint, authorityStart?_cons_cons optional, slash]
          · have isBefore := (endsBeforeAuthority_slash isScheme).mpr ⟨_, rfl, slash⟩
            simp [takes.hasBegun] at isBefore
      | slashes required same =>
          refine iff_of_false (not_landsInPath_of_awaits isScheme ?_) fun takes => ?_
          · rw [same, isEndpoint]
            exact authorityStart?_slash required fun char isFirst =>
              isSlash_eq_false (noSlash char isFirst) _
          · have startsThere := (same ['/']).trans (authorityStart?_slash required (by simp))
            simp only [isScheme, beforePath?_of_nothing required scheme startsThere] at slashRead
            obtain ⟨url, isUrl⟩ := takes.readable
            cases slashRead.symm.trans isUrl

/-! ## Servers whose text ends plainly -/

theorem toList_withoutTrailingSlashes
    (text : String) :
    ∃ count,
      text.toList = (withoutTrailingSlashes text).toList ++ List.replicate count '/' := by
  have isSplit := List.takeWhile_append_dropWhile (p := (· == '/')) (l := text.toList.reverse)
  have areSlashes :
      ∀ char ∈ text.toList.reverse.takeWhile (· == '/'), char = '/' := fun char isChar => by
    simpa using List.mem_takeWhile_imp isChar
  refine ⟨(text.toList.reverse.takeWhile (· == '/')).length, ?_⟩
  have isReversed := congrArg List.reverse isSplit
  rw [List.reverse_append, List.reverse_reverse, List.eq_replicate_of_mem areSlashes,
    List.reverse_replicate] at isReversed
  simpa [withoutTrailingSlashes] using isReversed.symm

theorem not_sign_suffix
    (plainly : EndsPlainly base) :
    ¬ ['@'] <:+ leadingChars base.toList := by
  intro isSuffix
  cases List.eq_nil_or_concat base.toList with
  | inl isNil =>
      rw [isNil] at isSuffix
      simp [leadingChars] at isSuffix
  | inr isConcat =>
      obtain ⟨init, last, isConcat⟩ := isConcat
      rw [List.concat_eq_append] at isConcat
      obtain ⟨notBlank, notSign⟩ := plainly last (by simp [isConcat])
      rw [isConcat, leadingChars_concat notBlank] at isSuffix
      obtain ⟨front, isFront⟩ := isSuffix
      exact notSign (List.singleton_inj.mp (List.append_inj' isFront rfl).2).symm

theorem head?_slashes
    {count : Nat}
    {char : Char}
    (isFirst : char ∈ (List.replicate count '/').head?) :
    char = '/' :=
  List.eq_of_mem_replicate (List.mem_of_mem_head? isFirst)

section Slashes

variable
  {count : Nat}
  (isBase : serverUrl.toList = base.toList ++ List.replicate count '/')

include isBase

theorem hasNoMark_iff : HasNoMark serverUrl ↔ HasNoMark base := by
  refine ⟨fun noMark char isChar => noMark char ?_, fun noMark char isChar => ?_⟩
  · exact isBase ▸ List.mem_append_left _ isChar
  · cases List.mem_append.mp (isBase ▸ isChar) with
    | inl isInBase =>
        exact noMark char isInBase
    | inr isSlash =>
        rw [List.eq_of_mem_replicate isSlash]
        rfl

theorem significantChars_slashes
    (noBlankAtEnd : ∀ last ∈ base.toList.getLast?, isBlank last = false) :
    significantChars serverUrl = leadingChars base.toList ++ List.replicate count '/' := by
  rw [← String.ofList_toList (s := serverUrl), isBase]
  cases count with
  | zero =>
      cases List.eq_nil_or_concat base.toList with
      | inl isNil =>
          rw [isNil]
          rfl
      | inr isConcat =>
          obtain ⟨init, last, isConcat⟩ := isConcat
          rw [List.concat_eq_append] at isConcat
          have notBlank := noBlankAtEnd last (by simp [isConcat])
          rw [isConcat, List.replicate_zero, List.append_nil, List.append_nil,
            significantChars_append notBlank, leadingChars_concat notBlank]
          rfl
  | succ count =>
      rw [List.replicate_succ, significantChars_append (by decide),
        trailingChars_of_no_blank fun char isChar => by
          rw [List.eq_of_mem_replicate isChar]
          decide]

/-- A server that ends plainly is read with one slash at its end if it is with any number. -/
theorem parse_slash
    {own : Url}
    (plainly : EndsPlainly base)
    (hasBegun : endsBeforeAuthority (base ++ "/") = false)
    (isOwn : Url.parse serverUrl = .ok own) :
    ∃ url, Url.parse (base ++ "/") = .ok url := by
  let tails : Set (List Char) := {tail | ∃ count, tail = List.replicate count '/'}
  have isText := significantChars_slashes isBase fun last isLast => (plainly last isLast).1
  have ownRead := parse_of_significantChars isText fun char isFirst => by
    rw [head?_slashes isFirst]
    decide
  have slashRead := parse_ending base (slash_mem_endings .v1)
  cases isScheme : scheme? (leadingChars base.toList) with
  | none =>
      simp only [isScheme, isOwn] at ownRead
      cases ownRead
  | some found =>
      obtain ⟨scheme, front⟩ := found
      simp only [isScheme, isOwn] at ownRead slashRead
      cases opening (SchemeKind.ofScheme scheme) front with
      | decided opens notOneSlash =>
          have ended : EndAuthority (SchemeKind.ofScheme scheme) tails := by
            rintro _ ⟨count, rfl⟩ char isFirst
            rw [head?_slashes isFirst]
            rfl
          have notSign : ¬ ['@'] <:+ front := fun isSuffix =>
            not_sign_suffix plainly (isSuffix.trans (scheme?_suffix isScheme))
          -- Both numbers of slashes are tails of the same text, read with the same outcome.
          obtain ⟨outcome, -, isBefore⟩ :=
            beforePath?_readsWithin scheme ended (opens tails) fun isStart =>
              absurd (authorityStart?_suffix isStart) notSign
          match outcome with
          | .error cause =>
              rw [isBefore _ ⟨count, rfl⟩] at ownRead
              cases ownRead
          | .ok (before, left) =>
              rw [isBefore ['/'] ⟨1, rfl⟩] at slashRead
              exact ⟨_, slashRead⟩
      | nothing optional =>
          have noStart : authorityStart? (SchemeKind.ofScheme scheme) ([] ++ ['/']) = none :=
            authorityStart?_of_length_lt_two optional (by simp)
          simp only [beforePath?, noStart] at slashRead
          exact ⟨_, slashRead⟩
      | oneSlash optional slash =>
          have isBefore := (endsBeforeAuthority_slash isScheme).mpr ⟨_, rfl, slash⟩
          simp [hasBegun] at isBefore
      | slashes required same =>
          have nothingFollows :
              authorityStart? (SchemeKind.ofScheme scheme) (List.replicate count '/') = some [] :=
            authorityStart?_slashes required fun char isChar =>
              List.eq_of_mem_replicate isChar ▸ isSlash_slash _
          rw [beforePath?_of_nothing required scheme ((same _).trans nothingFollows)] at ownRead
          cases ownRead

/-! ## Servers with a query or a fragment -/

theorem landsBehindMark
    {own : Url}
    (version : ReflectionVersion)
    (hasMark : ¬ HasNoMark base)
    (isOwn : Url.parse serverUrl = .ok own) :
    LandsBehindMark version serverUrl (base ++ version.endpointPath) := by
  obtain ⟨mark, isFirst⟩ : ∃ mark, base.toList.find? endsPath = some mark := by
    simpa [HasNoMark, ← Option.isSome_iff_exists] using hasMark
  obtain ⟨isMark, front, rest, isSplit, noMark⟩ := List.find?_eq_some_iff_append.mp isFirst
  have noMark : ∀ char ∈ front, endsPath char = false := by
    simpa using noMark
  obtain ⟨outcome, isRead⟩ := parse_mark isMark noMark
  have ownText :
      serverUrl = String.ofList (front ++ mark :: (rest ++ List.replicate count '/')) := by
    apply String.toList_injective
    simp [isBase, isSplit]
  have addressText :
      base ++ version.endpointPath =
        String.ofList (front ++ mark :: (rest ++ version.endpointPath.toList)) := by
    apply String.toList_injective
    simp [isSplit]
  match outcome with
  | .error cause =>
      rw [ownText, isRead] at isOwn
      cases isOwn
  | .ok (kind, url) =>
      have ownRead := isRead (rest ++ List.replicate count '/')
      have addressRead := isRead (rest ++ version.endpointPath.toList)
      rw [← ownText] at ownRead
      rw [← addressText, trailingChars_endpointPath] at addressRead
      have endsWith := withQueryAndFragment_endsWith isMark kind url
        (rest.filter fun char => !isIgnored char) version.endpointPath_unencoded
      rw [String.ofList_toList] at endsWith
      exact ⟨_, _, ownRead, addressRead, withQueryAndFragment_eq isMark kind url _ _, endsWith⟩

end Slashes

/-! ## Endpoints -/

/--
Which of the accepted servers have the path of their reflection service in the path of
its address, and where it is for a server with a query or a fragment.
-/
theorem endpoint_landsInPath_iff
    {address : String}
    (accepted : endpoint serverUrl version = .ok address) :
    (LandsInPath version address ↔ TakesPath (withoutTrailingSlashes serverUrl)) ∧
      (HasNoMark serverUrl →
        EndsPlainly (withoutTrailingSlashes serverUrl) →
        endsBeforeAuthority (withoutTrailingSlashes serverUrl ++ "/") = false →
        LandsInPath version address) ∧
      (¬ HasNoMark serverUrl →
        LandsBehindMark version serverUrl address) := by
  obtain ⟨own, isOwn, rfl⟩ :
      ∃ own, Url.parse serverUrl = .ok own ∧
        address = withoutTrailingSlashes serverUrl ++ version.endpointPath := by
    unfold endpoint at accepted
    split at accepted
    next own isOwn =>
        cases accepted
        exact ⟨own, isOwn, rfl⟩
    next =>
        cases accepted
  obtain ⟨count, isBase⟩ := toList_withoutTrailingSlashes serverUrl
  have sameMarks := hasNoMark_iff isBase
  have landsIff := landsInPath_append_iff version (withoutTrailingSlashes serverUrl)
  refine ⟨landsIff, fun noMark plainly hasBegun => ?_, fun hasMark => ?_⟩
  · exact landsIff.mpr
      ⟨sameMarks.mp noMark, parse_slash isBase plainly hasBegun isOwn, hasBegun⟩
  · exact landsBehindMark isBase version (mt sameMarks.mpr hasMark) isOwn

/-- Slashes at the end are left out and the rest of a server stays; a query takes the path. -/
theorem endpoint_landsInPath_iff_rpc :
    LandsInPath .v1alpha
        ("https://u:p@api.example.com:8443/rpc" ++ ReflectionVersion.v1alpha.endpointPath) ∧
      LandsBehindMark .v1 "http://localhost:8080/?tenant=a"
        ("http://localhost:8080/?tenant=a" ++ ReflectionVersion.v1.endpointPath) := by
  have withSlashes :
      endpoint "https://u:p@api.example.com:8443/rpc//" .v1alpha =
        .ok ("https://u:p@api.example.com:8443/rpc" ++
          ReflectionVersion.v1alpha.endpointPath) := by
    decide +kernel
  have withQuery :
      endpoint "http://localhost:8080/?tenant=a" .v1 =
        .ok ("http://localhost:8080/?tenant=a" ++ ReflectionVersion.v1.endpointPath) := by
    decide +kernel
  exact
    ⟨(endpoint_landsInPath_iff withSlashes).2.1 (by decide) (by decide +kernel)
        (by decide +kernel),
      (endpoint_landsInPath_iff withQuery).2.2 (by decide)⟩

/-- The path of a service is not in the path of every address that an accepted server gets. -/
theorem not_forall_endpoint_landsInPath :
    ¬ ∀ (serverUrl address : String) (version : ReflectionVersion),
      endpoint serverUrl version = .ok address →
        LandsInPath version address := by
  intro lands
  have accepted :
      endpoint "http://localhost:8080/?tenant=a" .v1 =
        .ok ("http://localhost:8080/?tenant=a" ++ ReflectionVersion.v1.endpointPath) := by
    decide +kernel
  have noMark := (lands _ _ _ accepted).hasNoMark
  exact absurd (noMark '?' (by decide)) (by decide)

end GrpcDiscovery
