import GrpcDiscovery.Proofs.Url.Authority
import GrpcDiscovery.Proofs.Url.Segments

namespace GrpcDiscovery.Url

/-!
# The parts of a URL

Behind the scheme, a URL is read in two steps: first what stands before the path, then
the path, the query and the fragment. The first step is the same for all continuations
of a beginning, except where only slashes have been read: two of them, and under the
special schemes any number, introduce an authority, which then is still to come.

A question mark or a number sign ends the first two parts. Whatever stands behind it
belongs to the query or the fragment, and nothing else depends on it.
-/

/-! ## Before the path and behind -/

/-- What follows the slashes that introduce an authority, if there is one. -/
def authorityStart? : SchemeKind → List Char → Option (List Char)
  | .special defaultPort, chars =>
      some (chars.dropWhile (isSlash (.special defaultPort)))
  | kind, first :: second :: rest =>
      if isSlash kind first && isSlash kind second then
        some rest
      else
        none
  | _, _ =>
      none

/-- A URL of which the scheme alone is known. -/
def ofSchemeAlone (scheme : String) : SchemeKind → Url
  | .file =>
      { scheme := "file", host := some (.other ""), path := .segments [] }
  | _ =>
      { scheme := scheme, path := .segments [] }

/-- Read what stands between the scheme and the path. -/
def beforePath?
    (scheme : String)
    (kind : SchemeKind)
    (chars : List Char) :
    Except UrlError (Url × List Char) :=
  match authorityStart? kind chars, kind with
  | none, _ =>
      .ok (ofSchemeAlone scheme kind, chars)
  | some rest, .file =>
      fileAuthority? rest
  | some rest, _ =>
      authority? scheme kind rest

/-- The host of a URL whose path is known; a file on a drive has none. -/
def hostBefore
    (kind : SchemeKind)
    (path : List Char)
    (host : Option Host) :
    Option Host :=
  if kind = .file ∧ UrlPath.beginsWithDrive (pathSegments kind path) then
    some (.other "")
  else
    host

/-- A URL with the path, the query and the fragment that characters stand for. -/
def withRest
    (kind : SchemeKind)
    (url : Url)
    (chars : List Char) :
    Url :=
  let (path, rest) := chars.span fun char => !endsPath char
  withQueryAndFragment kind rest {
    url with
    host := hostBefore kind path url.host
    path := pathOf kind url.host.isSome path
    query := none
  }

theorem withAuthority_eq
    (scheme : String)
    {kind : SchemeKind}
    (notFile : kind ≠ .file)
    (chars : List Char) :
    withAuthority scheme kind chars =
      (authority? scheme kind chars).map fun (url, rest) => withRest kind url rest := by
  unfold withAuthority authority?
  cases credentials? kind chars with
  | error cause =>
      rfl
  | ok credentialsRead =>
      obtain ⟨⟨username, password⟩, rest⟩ := credentialsRead
      simp only [bind, Except.bind]
      cases host? kind rest with
      | error cause =>
          rfl
      | ok hostRead =>
          obtain ⟨host, rest⟩ := hostRead
          by_cases isMissing : host.isEmpty ∧ (username ≠ "" ∨ password ≠ "")
          · simp only [if_pos isMissing]
            rfl
          · simp only [if_neg isMissing]
            cases port? kind rest with
            | error cause =>
                rfl
            | ok portRead =>
                cases kind with
                | special defaultPort =>
                    rfl
                | file =>
                    exact absurd rfl notFile
                | other =>
                    rfl

theorem withFile_eq
    (scheme : String)
    (chars : List Char) :
    withFile chars =
      (beforePath? scheme .file chars).map fun (url, rest) => withRest .file url rest := by
  have hostIs (path rest : List Char) (host : Host) :
      (withQueryAndFragment .file rest {
        scheme := "file"
        host :=
          some (if UrlPath.beginsWithDrive (pathSegments .file path) then .other "" else host)
        path := .ofSegments (UrlPath.fileSegments (pathSegments .file path))
      }) =
        withQueryAndFragment .file rest {
          scheme := "file"
          host := hostBefore .file path (some host)
          path := pathOf .file true path
        } := by
    cases drive : UrlPath.beginsWithDrive (pathSegments .file path) <;>
      simp [hostBefore, drive, pathOf]
  match chars with
  | [] =>
      exact congrArg Except.ok (hostIs _ _ _)
  | [char] =>
      exact congrArg Except.ok (hostIs _ _ _)
  | first :: second :: rest =>
      cases slashes : isSlash .file first && isSlash .file second with
      | false =>
          have noStart : authorityStart? .file (first :: second :: rest) = none := by
            simp only [authorityStart?, slashes]
            rfl
          simp only [withFile, slashes, beforePath?, noStart]
          exact congrArg Except.ok (hostIs _ _ _)
      | true =>
          have start : authorityStart? .file (first :: second :: rest) = some rest := by
            simp only [authorityStart?, slashes]
            rfl
          simp only [withFile, slashes, beforePath?, start, fileAuthority?]
          generalize rest.span (fun char => !endsAuthority .file char) = split
          by_cases isDrive : UrlPath.isDriveLetter split.1
          · simp only [if_pos isDrive]
            exact congrArg Except.ok (hostIs _ _ _)
          · simp only [if_neg isDrive]
            cases fileHost? split.1 with
            | error cause =>
                rfl
            | ok host =>
                exact congrArg Except.ok (hostIs _ _ _)

theorem withOther_eq
    (scheme : String)
    (chars : List Char) :
    withOther scheme chars =
      (beforePath? scheme .other chars).map fun (url, rest) => withRest .other url rest := by
  unfold withOther
  split
  next chars =>
      exact withAuthority_eq scheme (by simp) chars
  next notAuthority =>
      have noStart : authorityStart? .other chars = none := by
        match chars with
        | [] | [_] =>
            rfl
        | first :: second :: rest =>
            have notBoth : (isSlash .other first && isSlash .other second) = false := by
              rw [Bool.eq_false_iff]
              intro both
              obtain ⟨rfl, rfl⟩ : first = '/' ∧ second = '/' := by
                simpa [isSlash, SchemeKind.isSpecial] using both
              exact notAuthority rest rfl
            simp only [authorityStart?, notBoth]
            rfl
      simp only [beforePath?, noStart]
      rfl

/-- Reading in two steps is reading. -/
theorem parse_eq
    (text : String) :
    parse text =
      match scheme? (significantChars text) with
      | none =>
          .error .relativeWithoutBase
      | some (scheme, chars) =>
          (beforePath? scheme (SchemeKind.ofScheme scheme) chars).map fun (url, rest) =>
            withRest (SchemeKind.ofScheme scheme) url rest := by
  unfold parse
  cases scheme? (significantChars text) with
  | none =>
      rfl
  | some found =>
      obtain ⟨scheme, chars⟩ := found
      cases kindIs : SchemeKind.ofScheme scheme with
      | special defaultPort =>
          simp only [kindIs]
          rw [withAuthority_eq scheme (by simp)]
          rfl
      | file =>
          simp only [kindIs]
          exact withFile_eq scheme chars
      | other =>
          simp only [kindIs]
          exact withOther_eq scheme chars

theorem parse_of_significantChars
    {text : String}
    {lead tail : List Char}
    (isText : significantChars text = lead ++ tail)
    (ended : ∀ char ∈ tail.head?, isSchemeChar char = false ∧ char ≠ ':') :
    parse text =
      match scheme? lead with
      | none =>
          .error .relativeWithoutBase
      | some (scheme, front) =>
          (beforePath? scheme (SchemeKind.ofScheme scheme) (front ++ tail)).map
            fun (url, rest) => withRest (SchemeKind.ofScheme scheme) url rest := by
  rw [parse_eq, isText, scheme?_append ended]
  cases scheme? lead <;> rfl

/-! ## Where an authority begins -/

variable
  {kind : SchemeKind}
  {tails : Set (List Char)}
  {front : List Char}

theorem authorityStart?_suffix
    {chars start : List Char}
    (isStart : authorityStart? kind chars = some start) :
    start <:+ chars := by
  unfold authorityStart? at isStart
  split at isStart
  next =>
      cases isStart
      exact List.dropWhile_suffix _
  next =>
      split at isStart
      next =>
          cases isStart
          exact ⟨[_, _], rfl⟩
      next =>
          cases isStart
  next =>
      cases isStart

/-- A kind of scheme under which two slashes introduce an authority, and none need to. -/
def AuthorityIsOptional (kind : SchemeKind) : Prop :=
  ∀ defaultPort, kind ≠ .special defaultPort

theorem eq_special
    (required : ¬ AuthorityIsOptional kind) :
    ∃ defaultPort, kind = .special defaultPort := by
  simpa [AuthorityIsOptional] using required

section Optional

variable (optional : AuthorityIsOptional kind)

include optional

theorem authorityStart?_cons_cons
    (first second : Char)
    (rest : List Char) :
    authorityStart? kind (first :: second :: rest) =
      if isSlash kind first && isSlash kind second then some rest else none := by
  cases kind with
  | special defaultPort =>
      exact absurd rfl (optional defaultPort)
  | file | other =>
      rfl

theorem authorityStart?_of_length_lt_two
    {chars : List Char}
    (isShort : chars.length < 2) :
    authorityStart? kind chars = none := by
  match kind, chars with
  | .special defaultPort, _ =>
      exact absurd rfl (optional defaultPort)
  | .file, [] | .other, [] | .file, [_] | .other, [_] =>
      rfl

end Optional

section Required

variable (required : ¬ AuthorityIsOptional kind)

include required

theorem authorityStart?_slash
    {rest : List Char}
    (noSlash : ∀ char ∈ rest.head?, isSlash kind char = false) :
    authorityStart? kind ('/' :: rest) = some rest := by
  obtain ⟨defaultPort, rfl⟩ := eq_special required
  rw [authorityStart?, List.dropWhile_cons_of_pos (isSlash_slash _), dropWhile_eq_self noSlash]

theorem authorityStart?_slashes
    {chars : List Char}
    (slashes : ∀ char ∈ chars, isSlash kind char) :
    authorityStart? kind chars = some [] := by
  obtain ⟨defaultPort, rfl⟩ := eq_special required
  rw [authorityStart?, List.dropWhile_eq_nil_iff.mpr slashes]

theorem beforePath?_of_nothing
    (scheme : String)
    {chars : List Char}
    (isStart : authorityStart? kind chars = some []) :
    beforePath? scheme kind chars = .error .emptyHost := by
  obtain ⟨defaultPort, rfl⟩ := eq_special required
  simp only [beforePath?, isStart]
  rfl

end Required

/-- A beginning that says where the authority begins, before all the tails. -/
def Opens
    (kind : SchemeKind)
    (tails : Set (List Char))
    (front : List Char) :
    Prop :=
  ∀ tail ∈ tails,
    authorityStart? kind (front ++ tail) = (authorityStart? kind front).map (· ++ tail)

section Optional

variable (optional : AuthorityIsOptional kind)

include optional

theorem opens_nil
    (oneSlash :
      ∀ tail ∈ tails, ∀ char ∈ tail.head?, ∀ next ∈ tail.tail.head?,
        isSlash kind char = false ∨ isSlash kind next = false) :
    Opens kind tails [] := by
  intro tail isTail
  have noStart : authorityStart? kind [] = none :=
    authorityStart?_of_length_lt_two optional (by simp)
  rw [noStart]
  match tail with
  | [] | [_] =>
      exact authorityStart?_of_length_lt_two optional (by simp)
  | char :: next :: rest =>
      have notBoth : (isSlash kind char && isSlash kind next) = false :=
        Bool.and_eq_false_iff.mpr (oneSlash _ isTail char rfl next rfl)
      simp [authorityStart?_cons_cons optional, notBoth]

theorem opens_singleton
    {char : Char}
    (oneSlash :
      isSlash kind char = false ∨
        ∀ tail ∈ tails, ∀ next ∈ tail.head?, isSlash kind next = false) :
    Opens kind tails [char] := by
  intro tail isTail
  have noStart : authorityStart? kind [char] = none :=
    authorityStart?_of_length_lt_two optional (by simp)
  rw [noStart]
  cases tail with
  | nil =>
      exact noStart
  | cons next tail =>
      have notBoth : (isSlash kind char && isSlash kind next) = false :=
        Bool.and_eq_false_iff.mpr (oneSlash.imp_right fun noSlash => noSlash _ isTail next rfl)
      simp [authorityStart?_cons_cons optional, notBoth]

theorem opens_cons_cons
    (first second : Char)
    (front : List Char) :
    Opens kind tails (first :: second :: front) := by
  intro tail _
  simp only [List.cons_append, authorityStart?_cons_cons optional]
  split <;> rfl

end Optional

theorem opens_special
    {defaultPort : Nat}
    (notSlashes : front.dropWhile (isSlash (.special defaultPort)) ≠ []) :
    Opens (.special defaultPort) tails front := by
  intro tail _
  have notEmpty : (front.dropWhile (isSlash (.special defaultPort))).isEmpty = false := by
    simpa using notSlashes
  simp only [authorityStart?, List.dropWhile_append, notEmpty]
  rfl

theorem opens_of_no_slash
    (noSlash : ∀ tail ∈ tails, ∀ char ∈ tail.head?, isSlash kind char = false) :
    Opens kind tails front := by
  by_cases optional : AuthorityIsOptional kind
  · match front with
    | [] =>
        exact opens_nil optional fun tail isTail char isFirst _ _ =>
          .inl (noSlash tail isTail char isFirst)
    | [char] =>
        exact opens_singleton optional (.inr noSlash)
    | first :: second :: front =>
        exact opens_cons_cons optional first second front
  · obtain ⟨defaultPort, rfl⟩ := eq_special optional
    intro tail isTail
    simp only [authorityStart?, dropWhile_append (noSlash tail isTail)]
    rfl

/--
The ways in which a URL begins behind the scheme.

Either it is decided where the authority begins, or slashes may still introduce one.
-/
inductive Opening
    (kind : SchemeKind) :
    List Char →
    Prop where
  | decided
      {front : List Char}
      (opens : ∀ tails, Opens kind tails front)
      (notOneSlash : ∀ char, isSlash kind char → front ≠ [char]) :
      Opening kind front
  | nothing
      (optional : AuthorityIsOptional kind) :
      Opening kind []
  | oneSlash
      {char : Char}
      (optional : AuthorityIsOptional kind)
      (slash : isSlash kind char) :
      Opening kind [char]
  | slashes
      {front : List Char}
      (required : ¬ AuthorityIsOptional kind)
      (same : ∀ tail, authorityStart? kind (front ++ tail) = authorityStart? kind tail) :
      Opening kind front

theorem opening
    (kind : SchemeKind)
    (front : List Char) :
    Opening kind front := by
  by_cases optional : AuthorityIsOptional kind
  · match front with
    | [] =>
        exact .nothing optional
    | [char] =>
        cases slash : isSlash kind char with
        | true =>
            exact .oneSlash optional slash
        | false =>
            refine .decided (fun _ => opens_singleton optional (.inl slash)) ?_
            rintro _ isSlash ⟨⟩
            simp [slash] at isSlash
    | first :: second :: front =>
        exact .decided (fun _ => opens_cons_cons optional first second front) (by simp)
  · obtain ⟨defaultPort, rfl⟩ := eq_special optional
    by_cases allSlashes : front.dropWhile (isSlash (.special defaultPort)) = []
    · refine .slashes optional fun tail => ?_
      simp [authorityStart?, List.dropWhile_append, allSlashes]
    · refine .decided (fun _ => opens_special allSlashes) ?_
      rintro char isSlash rfl
      simp [isSlash] at allSlashes

theorem beforePath?_readsWithin
    (scheme : String)
    (ended : EndAuthority kind tails)
    (opens : Opens kind tails front)
    (behindSign : authorityStart? kind front = some ['@'] → [] ∉ tails) :
    ReadsWithin tails front (beforePath? scheme kind) := by
  cases isStart : authorityStart? kind front with
  | none =>
      refine .of_value (.ok (ofSchemeAlone scheme kind)) front List.suffix_rfl
        fun tail isTail => ?_
      simp only [beforePath?, opens tail isTail, isStart]
      rfl
  | some start =>
      have isSuffix := authorityStart?_suffix isStart
      have behindStart : start = ['@'] → [] ∉ tails := by
        rintro rfl
        exact behindSign isStart
      cases kind with
      | file =>
          refine .skip isSuffix (fileAuthority?_readsWithin ended) fun tail isTail => ?_
          simp only [beforePath?, opens tail isTail, isStart]
          rfl
      | special defaultPort =>
          refine .skip isSuffix (authority?_readsWithin scheme ended behindStart)
            fun tail isTail => ?_
          simp only [beforePath?, opens tail isTail, isStart]
          rfl
      | other =>
          refine .skip isSuffix (authority?_readsWithin scheme ended behindStart)
            fun tail isTail => ?_
          simp only [beforePath?, opens tail isTail, isStart]
          rfl

/-- Where a plain host name stands for the authority, it is all that is read before the path. -/
theorem eq_of_beforePath?_plain
    {scheme : String}
    {chars tail rest : List Char}
    {url : Url}
    (isStart : authorityStart? kind chars = some (front ++ tail))
    (plain : ∀ char ∈ front, endsAuthority .file char = false ∧ char ≠ ':' ∧ char ≠ '@')
    (notDrive : UrlPath.isDriveLetter front = false)
    (ended : ∀ char ∈ tail.head?, endsAuthority kind char)
    (read : beforePath? scheme kind chars = .ok (url, rest)) :
    rest = tail := by
  have plainHere :
      ∀ char ∈ front, endsAuthority kind char = false ∧ char ≠ ':' ∧ char ≠ '@' :=
    fun char isChar => (plain char isChar).imp_left fun goesOn =>
      endsAuthority_eq_false goesOn kind
  cases kind with
  | file =>
      simp only [beforePath?, isStart] at read
      exact eq_of_fileAuthority?_plain (fun char isChar => (plain char isChar).1) notDrive ended
        read
  | special defaultPort =>
      simp only [beforePath?, isStart] at read
      exact eq_of_authority?_plain plainHere ended read
  | other =>
      simp only [beforePath?, isStart] at read
      exact eq_of_authority?_plain plainHere ended read

/-! ## Queries and fragments -/

theorem withRest_of_no_mark
    (kind : SchemeKind)
    (url : Url)
    {chars : List Char}
    (noMark : ∀ char ∈ chars, endsPath char = false) :
    withRest kind url chars = {
      url with
      host := hostBefore kind chars url.host
      path := pathOf kind url.host.isSome chars
      query := none
      fragment := none
    } := by
  have goesOn : ∀ char ∈ chars, (!endsPath char) = true := by
    simpa using noMark
  simp only [withRest, span_eq_self goesOn]
  rfl

section Mark

variable
  {mark : Char}
  (isMark : endsPath mark)

include isMark

theorem mark_cases : mark = '?' ∨ mark = '#' := by
  simpa [endsPath] using isMark

theorem withRest_of_mark
    (kind : SchemeKind)
    (url : Url)
    {left : List Char}
    (noMark : ∀ char ∈ left, endsPath char = false)
    (rest : List Char) :
    withRest kind url (left ++ mark :: rest) =
      withQueryAndFragment kind (mark :: rest) (withRest kind url left) := by
  have ended : ∀ char ∈ (mark :: rest).head?, (!endsPath char) = false := by
    simpa using isMark
  have isSplit := span_of_runsOn ended fun char isChar => by
    simpa using noMark char isChar
  rw [withRest_of_no_mark kind url noMark]
  simp only [withRest, isSplit]
  rcases mark_cases isMark with rfl | rfl
  · rfl
  · rfl

/-- All URLs that begin alike before a mark are alike but for the query and the fragment. -/
theorem parse_mark
    {front : List Char}
    (noMark : ∀ char ∈ front, endsPath char = false) :
    ∃ outcome : Except UrlError (SchemeKind × Url),
      ∀ rest,
        parse (String.ofList (front ++ mark :: rest)) =
          outcome.map fun (kind, url) =>
            withQueryAndFragment kind (mark :: trailingChars rest) url := by
  have notBlank : isBlank mark = false := by
    rcases mark_cases isMark with rfl | rfl <;> rfl
  have endsScheme : isSchemeChar mark = false ∧ mark ≠ ':' := by
    rcases mark_cases isMark with rfl | rfl <;> decide
  have isRead := fun rest =>
    parse_of_significantChars (significantChars_append notBlank front rest)
      (by simpa using endsScheme)
  cases isScheme : scheme? (leadingChars front) with
  | none =>
      exact ⟨.error .relativeWithoutBase, fun rest => by rw [isRead, isScheme]; rfl⟩
  | some found =>
      obtain ⟨scheme, left⟩ := found
      simp only [isScheme] at isRead
      generalize SchemeKind.ofScheme scheme = kind at isRead
      let tails : Set (List Char) := {tail | ∃ rest, tail = mark :: rest}
      have ended : EndAuthority kind tails := by
        rintro _ ⟨rest, rfl⟩ _ ⟨⟩
        rcases mark_cases isMark with rfl | rfl <;> simp [endsAuthority]
      have noSlash : ∀ tail ∈ tails, ∀ char ∈ tail.head?, isSlash kind char = false := by
        rintro _ ⟨rest, rfl⟩ _ ⟨⟩
        rcases mark_cases isMark with rfl | rfl <;> simp [isSlash]
      have opens : Opens kind tails left := opens_of_no_slash noSlash
      have noNil : [] ∉ tails := by
        rintro ⟨rest, isCons⟩
        cases isCons
      obtain ⟨outcome, within, isBefore⟩ :=
        beforePath?_readsWithin scheme ended opens fun _ => noNil
      cases outcome with
      | error cause =>
          refine ⟨.error cause, fun rest => ?_⟩
          rw [isRead, isBefore _ ⟨_, rfl⟩]
          rfl
      | ok found =>
          obtain ⟨url, behind⟩ := found
          refine ⟨.ok (kind, withRest kind url behind), fun rest => ?_⟩
          have noMarkBehind : ∀ char ∈ behind, endsPath char = false := fun char isChar =>
            noMark char
              (mem_of_mem_leadingChars
                ((scheme?_suffix isScheme).subset ((within url behind rfl).subset isChar)))
          rw [isRead, isBefore _ ⟨_, rfl⟩]
          exact congrArg Except.ok (withRest_of_mark isMark kind url noMarkBehind _)

theorem withQueryAndFragment_eq
    (kind : SchemeKind)
    (url : Url)
    (rest other : List Char) :
    withQueryAndFragment kind (mark :: rest) url = {
      withQueryAndFragment kind (mark :: other) url with
      query := (withQueryAndFragment kind (mark :: rest) url).query
      fragment := (withQueryAndFragment kind (mark :: rest) url).fragment
    } := by
  rcases mark_cases isMark with rfl | rfl <;> rfl

/-- Characters at the end that need no encoding end the fragment, or else the query. -/
theorem withQueryAndFragment_endsWith
    (kind : SchemeKind)
    (url : Url)
    (rest : List Char)
    {ending : List Char}
    (unencoded :
      ∀ char ∈ ending,
        char.toNat < 0x80 ∧
          Percent.specialQuerySet char = false ∧ Percent.fragmentSet char = false) :
    let read := withQueryAndFragment kind (mark :: (rest ++ ending)) url
    (∃ above, read.fragment = some (above ++ String.ofList ending)) ∨
      read.fragment = none ∧ ∃ above, read.query = some (above ++ String.ofList ending) := by
  have inFragment (front : List Char) :
      Percent.encode Percent.fragmentSet (front ++ ending) =
        Percent.encode Percent.fragmentSet front ++ String.ofList ending := by
    rw [UrlPath.encode_append, UrlPath.encode_of_unencoded fun char isChar =>
      ⟨(unencoded char isChar).1, (unencoded char isChar).2.2⟩]
  have inQuery (front : List Char) :
      Percent.encode (if kind.isSpecial then Percent.specialQuerySet else Percent.querySet)
          (front ++ ending) =
        Percent.encode (if kind.isSpecial then Percent.specialQuerySet else Percent.querySet)
          front ++ String.ofList ending := by
    have unencodedHere :
        ∀ char ∈ ending,
          char.toNat < 0x80 ∧
            (if kind.isSpecial then Percent.specialQuerySet else Percent.querySet) char =
              false := by
      intro char isChar
      obtain ⟨isAscii, notInQuery, -⟩ := unencoded char isChar
      refine ⟨isAscii, ?_⟩
      split
      next =>
          exact notInQuery
      next =>
          simp only [Percent.specialQuerySet, Percent.also, Bool.or_eq_false_iff] at notInQuery
          exact notInQuery.1
    rw [UrlPath.encode_append, UrlPath.encode_of_unencoded unencodedHere]
  intro read
  rcases mark_cases isMark with rfl | rfl
  · by_cases hasFragment : '#' ∈ rest
    · obtain ⟨query, fragment, rfl, notInQuery⟩ := List.eq_append_cons_of_mem hasFragment
      have ended : ∀ char ∈ ('#' :: (fragment ++ ending)).head?, (char != '#') = false := by
        simp
      have isSplit := span_of_runsOn ended fun char isChar => by
        simpa using ne_of_mem_of_not_mem isChar notInQuery
      simp only [read, List.append_assoc, List.cons_append, withQueryAndFragment, isSplit]
      exact .inl ⟨_, congrArg some (inFragment fragment)⟩
    · have isQuery : ∀ char ∈ rest ++ ending, char != '#' := by
        intro char isChar
        rw [bne_iff_ne]
        rintro rfl
        cases List.mem_append.mp isChar with
        | inl isRest =>
            exact hasFragment isRest
        | inr isEnding =>
            cases (unencoded '#' isEnding).2.1
      simp only [read, withQueryAndFragment, span_eq_self isQuery]
      exact .inr ⟨rfl, _, congrArg some (inQuery rest)⟩
  · exact .inl ⟨_, congrArg some (inFragment rest)⟩

end Mark

end GrpcDiscovery.Url
