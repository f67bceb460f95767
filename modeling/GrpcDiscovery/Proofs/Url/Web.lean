import Mathlib.Data.List.DropRight
import GrpcDiscovery.Proofs.Url.Parts

namespace GrpcDiscovery

/-!
# URLs of the web

A URL has the scheme with which its text begins. Under the schemes of the web, and the
other special ones, a text is no URL unless it has a host that is not empty.
-/

/-! ## Hosts that have a text -/

theorem Ipv4.text_ne_empty (address : Nat) : Ipv4.text address ≠ "" := by
  simp [Ipv4.text, ← String.toList_inj]

namespace Host

theorem isEmpty_ofDomainChars?
    {name : List Char}
    {host : Host}
    (read : ofDomainChars? name = .ok host) :
    host.isEmpty = false := by
  simp only [ofDomainChars?] at read
  split at read
  next =>
      cases read
  next nonempty =>
      split at read
      next =>
          split at read
          next address _ =>
              cases read
              simpa [isEmpty, text] using Ipv4.text_ne_empty address
          next =>
              cases read
      next =>
          cases read
          simpa [isEmpty, text] using nonempty

theorem isEmpty_bracketed?
    {chars : List Char}
    {host : Host}
    (read : bracketed? chars = .ok host) :
    host.isEmpty = false := by
  unfold bracketed? at read
  split at read
  next =>
      cases read
      simp [isEmpty, text]
  next =>
      cases read

/-- Under a special scheme no host is empty. -/
theorem isEmpty_special?
    {chars : List Char}
    {host : Host}
    (read : special? chars = .ok host) :
    host.isEmpty = false := by
  unfold special? at read
  split at read
  next =>
      exact isEmpty_bracketed? read
  next =>
      split at read
      next =>
          exact isEmpty_ofDomainChars? read
      next =>
          cases read

end Host

namespace Url

variable
  {url : Url}
  {text scheme : String}
  {defaultPort : Nat}
  {chars rest : List Char}

/-! ## Schemes -/

/-- A scheme that has been read does not depend on what follows. -/
theorem scheme?_append_of_some
    (isScheme : scheme? chars = some (scheme, rest))
    (more : List Char) :
    scheme? (chars ++ more) = some (scheme, rest ++ more) := by
  cases chars with
  | nil =>
      cases isScheme
  | cons first chars =>
      rw [scheme?_cons] at isScheme
      split at isScheme
      next behindColon isRest =>
          have ended :
              ∀ char ∈ (':' :: (behindColon ++ more)).head?, isSchemeChar char = false := by
            simp [isSchemeChar]
          have sameScheme :
              (first :: (chars ++ more)).takeWhile isSchemeChar =
                (first :: chars).takeWhile isSchemeChar := by
            have isSplit := List.takeWhile_append_dropWhile
              (p := isSchemeChar) (l := first :: chars)
            rw [isRest] at isSplit
            rw [← List.cons_append, ← isSplit, List.append_assoc, List.cons_append,
              takeWhile_append ended, takeWhile_append (by simp [isSchemeChar])]
          have sameRest :
              (first :: (chars ++ more)).dropWhile isSchemeChar =
                ':' :: (behindColon ++ more) := by
            rw [← List.cons_append, List.dropWhile_append, isRest]
            rfl
          rw [List.cons_append, scheme?_cons, sameRest, sameScheme]
          split at isScheme
          next isAlpha =>
              cases isScheme
              simp only [if_pos isAlpha]
          next =>
              cases isScheme
      next =>
          cases isScheme

/-- What counts of a text begins like what counts of it as a beginning. -/
theorem significantChars_prefix (text : String) :
    significantChars text <+: leadingChars text.toList := by
  have isTrimmed :
      ((text.toList.dropWhile isBlank).reverse.dropWhile isBlank).reverse <+:
        text.toList.dropWhile isBlank :=
    List.rdropWhile_prefix isBlank _
  exact isTrimmed.filter _

/-- A text that has a scheme has the same one before whatever follows. -/
theorem scheme?_leadingChars
    (isScheme : scheme? (significantChars text) = some (scheme, rest)) :
    ∃ front, scheme? (leadingChars text.toList) = some (scheme, front) := by
  obtain ⟨more, isLead⟩ := significantChars_prefix text
  exact ⟨rest ++ more, isLead ▸ scheme?_append_of_some isScheme more⟩

/-! ## Authorities under a special scheme -/

theorem exists_ok_of_bind
    {Value Next : Type}
    {outcome : Except UrlError Value}
    {next : Value → Except UrlError Next}
    {result : Next}
    (isOk : (outcome >>= next) = .ok result) :
    ∃ value, outcome = .ok value ∧ next value = .ok result := by
  cases outcome with
  | error cause =>
      cases isOk
  | ok value =>
      exact ⟨value, rfl, isOk⟩

theorem exists_host_of_authority?
    {kind : SchemeKind}
    (read : authority? scheme kind chars = .ok (url, rest)) :
    url.scheme = scheme ∧
      ∃ before behind host,
        host? kind before = .ok (host, behind) ∧ url.host = some host := by
  obtain ⟨⟨⟨username, password⟩, behindCredentials⟩, -, read⟩ := exists_ok_of_bind read
  obtain ⟨⟨host, behindHost⟩, hostRead, read⟩ := exists_ok_of_bind read
  simp only at read
  split at read
  next =>
      cases read
  next =>
      obtain ⟨⟨port, behindPort⟩, -, isResult⟩ := exists_ok_of_bind read
      cases isResult
      exact ⟨rfl, _, _, host, hostRead, rfl⟩

theorem fileAuthority?_scheme
    (read : fileAuthority? chars = .ok (url, rest)) :
    url.scheme = "file" := by
  by_cases isDrive :
      UrlPath.isDriveLetter (chars.span fun char => !endsAuthority .file char).1
  · simp only [fileAuthority?, if_pos isDrive] at read
    cases read
    rfl
  · simp only [fileAuthority?, if_neg isDrive] at read
    cases isHost : fileHost? (chars.span fun char => !endsAuthority .file char).1 with
    | error cause =>
        rw [isHost] at read
        cases read
    | ok host =>
        rw [isHost] at read
        cases read
        rfl

theorem eq_file
    (isFile : SchemeKind.ofScheme scheme = .file) :
    scheme = "file" := by
  unfold SchemeKind.ofScheme at isFile
  split at isFile <;> cases isFile
  rfl

theorem beforePath?_scheme
    (read : beforePath? scheme (SchemeKind.ofScheme scheme) chars = .ok (url, rest)) :
    url.scheme = scheme := by
  unfold beforePath? at read
  cases isKind : SchemeKind.ofScheme scheme with
  | file =>
      obtain rfl := eq_file isKind
      rw [isKind] at read
      split at read
      next =>
          cases read
          rfl
      next =>
          exact fileAuthority?_scheme read
      next notFile =>
          exact (notFile rfl).elim
  | special defaultPort | other =>
      rw [isKind] at read
      split at read
      next =>
          cases read
          rfl
      next isFile =>
          cases isFile
      next =>
          exact (exists_host_of_authority? read).1

theorem withRest_scheme
    (kind : SchemeKind)
    (url : Url)
    (chars : List Char) :
    (withRest kind url chars).scheme = url.scheme := by
  simp only [withRest, withQueryAndFragment]
  split
  next =>
      rfl
  next =>
      rfl

/-- URLs that are alike up to the path. -/
structure SameAuthority (url other : Url) : Prop where
  scheme : url.scheme = other.scheme
  username : url.username = other.username
  password : url.password = other.password
  host : url.host = other.host
  port : url.port = other.port

namespace SameAuthority

variable {other third : Url}

theorem symm
    (same : SameAuthority url other) :
    SameAuthority other url :=
  ⟨same.scheme.symm, same.username.symm, same.password.symm, same.host.symm, same.port.symm⟩

theorem trans
    (same : SameAuthority url other)
    (next : SameAuthority other third) :
    SameAuthority url third where
  scheme := same.scheme.trans next.scheme
  username := same.username.trans next.username
  password := same.password.trans next.password
  host := same.host.trans next.host
  port := same.port.trans next.port

/-- What follows an authority adds a path, a query and a fragment. -/
theorem withRest
    {kind : SchemeKind}
    (notFile : kind ≠ .file)
    (url : Url)
    (chars : List Char) :
    SameAuthority (withRest kind url chars) url := by
  simp only [Url.withRest, hostBefore, notFile, false_and, if_false, withQueryAndFragment]
  split
  next =>
      exact ⟨rfl, rfl, rfl, rfl, rfl⟩
  next =>
      exact ⟨rfl, rfl, rfl, rfl, rfl⟩

end SameAuthority

theorem isEmpty_host?
    {host : Host}
    (read : host? (.special defaultPort) chars = .ok (host, rest)) :
    host.isEmpty = false := by
  simp only [host?] at read
  split at read
  next =>
      cases read
  next =>
      obtain ⟨found, isFound, isResult⟩ := exists_ok_of_bind read
      cases isResult
      exact Host.isEmpty_special? isFound

theorem beforePath?_hasHost
    (read : beforePath? scheme (.special defaultPort) chars = .ok (url, rest)) :
    url.hasHost := by
  obtain ⟨-, before, behind, host, hostRead, isHost⟩ := exists_host_of_authority? read
  simp [hasHost, isHost, isEmpty_host? hostRead]

/-- An at sign alone is no authority under a special scheme. -/
theorem beforePath?_sign
    (isStart : authorityStart? (.special defaultPort) chars = some ['@']) :
    beforePath? scheme (.special defaultPort) chars = .error .emptyHost := by
  simp only [beforePath?, isStart]
  rfl

/-- Two tails that leave a beginning alone, if one is read, are read with the same authority. -/
theorem exists_sameAuthority_of_opens
    {front tail other : List Char}
    {own : Url}
    (ended : EndAuthority (.special defaultPort) {tail, other})
    (opens : Opens (.special defaultPort) {tail, other} front)
    (notNil : other ≠ [])
    (isOwn :
      ((beforePath? scheme (.special defaultPort) (front ++ tail)).map fun (url, rest) =>
        withRest (.special defaultPort) url rest) = .ok own) :
    ∃ url,
      ((beforePath? scheme (.special defaultPort) (front ++ other)).map fun (url, rest) =>
        withRest (.special defaultPort) url rest) = .ok url ∧
        SameAuthority url own := by
  have behindSign :
      authorityStart? (.special defaultPort) front = some ['@'] →
        [] ∉ ({tail, other} : Set (List Char)) := by
    rintro isStart (isNil | isNil)
    · rw [← isNil, List.append_nil, beforePath?_sign isStart] at isOwn
      cases isOwn
    · exact notNil isNil.symm
  obtain ⟨outcome, -, isBefore⟩ := beforePath?_readsWithin scheme ended opens behindSign
  rw [isBefore _ (.inl rfl)] at isOwn
  rw [isBefore _ (.inr rfl)]
  match outcome with
  | .error cause =>
      cases isOwn
  | .ok (before, left) =>
      cases isOwn
      have alike (rest : List Char) :
          SameAuthority (withRest (.special defaultPort) before rest) before :=
        .withRest (by simp) before rest
      exact ⟨_, rfl, (alike _).trans (alike _).symm⟩

/-! ## URLs of the web -/

/-- A URL under one of the schemes of the web. -/
def IsOfWeb (url : Url) : Prop :=
  url.scheme = "http" ∨ url.scheme = "https"

instance (url : Url) : Decidable url.IsOfWeb :=
  inferInstanceAs (Decidable (_ ∨ _))

theorem IsOfWeb.exists_special
    (isOfWeb : url.IsOfWeb) :
    ∃ defaultPort, SchemeKind.ofScheme url.scheme = .special defaultPort := by
  rcases isOfWeb with isHttp | isHttps
  · exact ⟨80, isHttp ▸ rfl⟩
  · exact ⟨443, isHttps ▸ rfl⟩

/-- What was read of a text that is a URL. -/
theorem exists_read_of_parse
    (isUrl : parse text = .ok url) :
    ∃ chars before rest,
      scheme? (significantChars text) = some (url.scheme, chars) ∧
        beforePath? url.scheme (SchemeKind.ofScheme url.scheme) chars = .ok (before, rest) ∧
          url = withRest (SchemeKind.ofScheme url.scheme) before rest := by
  rw [parse_eq] at isUrl
  cases isScheme : scheme? (significantChars text) with
  | none =>
      rw [isScheme] at isUrl
      cases isUrl
  | some found =>
      obtain ⟨scheme, chars⟩ := found
      simp only [isScheme] at isUrl
      cases isBefore : beforePath? scheme (SchemeKind.ofScheme scheme) chars with
      | error cause =>
          rw [isBefore] at isUrl
          cases isUrl
      | ok found =>
          obtain ⟨before, rest⟩ := found
          rw [isBefore] at isUrl
          cases isUrl
          obtain rfl : scheme = before.scheme := (beforePath?_scheme isBefore).symm
          refine ⟨chars, before, rest, ?_⟩
          rw [withRest_scheme]
          exact ⟨rfl, isBefore, rfl⟩

/-- Every URL of the web has a host. -/
theorem hasHost_of_isOfWeb
    (isOfWeb : url.IsOfWeb)
    (isUrl : parse text = .ok url) :
    url.hasHost := by
  obtain ⟨chars, before, rest, -, isBefore, isWhole⟩ := exists_read_of_parse isUrl
  obtain ⟨defaultPort, isKind⟩ := isOfWeb.exists_special
  rw [isKind] at isBefore isWhole
  have sameHost : url.host = before.host :=
    isWhole ▸ (SameAuthority.withRest (by simp) before rest).host
  rw [hasHost, sameHost]
  exact beforePath?_hasHost isBefore

end Url

end GrpcDiscovery
