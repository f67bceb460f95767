import Mathlib.Data.Set.Basic
import GrpcDiscovery.Proofs.Url.Characters

namespace GrpcDiscovery.Url

/-!
# The authority of a URL and what stands behind it

Credentials, host and port are read from left to right, up to a character that ends
the authority. What stands from there on changes nothing of what is read, and is what
is left to read. A reader with this property reads within what stands before; readers
one after the other have it if each of them has it.

There is one exception. An at sign alone is an empty host where the text ends, and an
error where it goes on.
-/

variable {Value Next : Type}

/-- A reader that takes none of the tails behind a text, and reads the same before all. -/
def ReadsWithin
    (tails : Set (List Char))
    (front : List Char)
    (reader : List Char → Except UrlError (Value × List Char)) :
    Prop :=
  ∃ outcome : Except UrlError (Value × List Char),
    (∀ value left, outcome = .ok (value, left) → left <:+ front) ∧
      ∀ tail ∈ tails,
        reader (front ++ tail) =
          outcome.map fun (value, left) => (value, left ++ tail)

namespace ReadsWithin

variable
  {tails : Set (List Char)}
  {front : List Char}
  {reader : List Char → Except UrlError (Value × List Char)}

theorem pure
    (value : Value) :
    ReadsWithin tails front fun chars => .ok (value, chars) := by
  refine ⟨.ok (value, front), ?_, fun tail _ => rfl⟩
  rintro _ _ ⟨⟩
  exact List.suffix_rfl

theorem error
    (cause : UrlError) :
    ReadsWithin tails front fun _ => (.error cause : Except UrlError (Value × List Char)) :=
  ⟨.error cause, nofun, fun _ _ => rfl⟩

/-- Readers of which it is known where they stop, whether they find a value or not. -/
theorem of_value
    (value? : Except UrlError Value)
    (left : List Char)
    (isSuffix : left <:+ front)
    (read :
      ∀ tail ∈ tails,
        reader (front ++ tail) = value?.map fun value => (value, left ++ tail)) :
    ReadsWithin tails front reader := by
  refine ⟨value?.map fun value => (value, left), ?_, fun tail isTail => ?_⟩
  · intro value rest isOk
    cases value? with
    | error cause =>
        cases isOk
    | ok found =>
        cases isOk
        exact isSuffix
  · rw [read tail isTail]
    cases value? <;> rfl

theorem bind
    {continuation : Value × List Char → Except UrlError (Next × List Char)}
    (first : ReadsWithin tails front reader)
    (following :
      ∀ value left,
        left <:+ front →
          ReadsWithin tails left fun chars => continuation (value, chars)) :
    ReadsWithin tails front fun chars => reader chars >>= continuation := by
  obtain ⟨outcome, within, read⟩ := first
  match outcome with
  | .error cause =>
      refine ⟨.error cause, nofun, fun tail isTail => ?_⟩
      simp only [read tail isTail]
      rfl
  | .ok (value, left) =>
      have isLeft := within value left rfl
      obtain ⟨laterOutcome, laterWithin, laterRead⟩ := following value left isLeft
      refine ⟨laterOutcome, fun _ _ ended => (laterWithin _ _ ended).trans isLeft, ?_⟩
      intro tail isTail
      simp only [read tail isTail]
      exact laterRead tail isTail

/-- A reader that reads like another one further on in the text. -/
theorem skip
    {later : List Char}
    {laterReader : List Char → Except UrlError (Value × List Char)}
    (isSuffix : later <:+ front)
    (read : ReadsWithin tails later laterReader)
    (same : ∀ tail ∈ tails, reader (front ++ tail) = laterReader (later ++ tail)) :
    ReadsWithin tails front reader := by
  obtain ⟨outcome, within, isRead⟩ := read
  exact ⟨outcome, fun value left isOk => (within value left isOk).trans isSuffix,
    fun tail isTail => (same tail isTail).trans (isRead tail isTail)⟩

end ReadsWithin

/-- Tails that are empty or begin with a character that ends an authority. -/
def EndAuthority
    (kind : SchemeKind)
    (tails : Set (List Char)) :
    Prop :=
  ∀ tail ∈ tails, ∀ char ∈ tail.head?, endsAuthority kind char

variable
  {kind : SchemeKind}
  {tails : Set (List Char)}
  {front : List Char}

theorem endsAuthority_eq_false
    {char : Char}
    (goesOn : endsAuthority .file char = false)
    (kind : SchemeKind) :
    endsAuthority kind char = false := by
  simp only [endsAuthority, SchemeKind.isSpecial, Bool.true_and, Bool.or_eq_false_iff] at goesOn
  simp [endsAuthority, goesOn]

section Tail

variable
  {tail : List Char}
  (ended : ∀ char ∈ tail.head?, endsAuthority kind char)

include ended

theorem not_goesOn : ∀ char ∈ tail.head?, (!endsAuthority kind char) = false := by
  simpa using ended

theorem head?_append_eq_colon
    (left : List Char) :
    (left ++ tail).head? = some ':' ↔ left.head? = some ':' := by
  cases left with
  | nil =>
      have notColon : tail.head? ≠ some ':' := fun isColon => by
        have endsThere := ended ':' isColon
        cases kind <;> cases endsThere
      simp [notColon]
  | cons char rest =>
      simp

theorem not_isDigit : ∀ char ∈ tail.head?, char.isDigit = false := by
  intro char isFirst
  have ends := ended char isFirst
  cases kind <;> simp [endsAuthority, SchemeKind.isSpecial] at ends <;>
    rcases ends with ((rfl | rfl) | rfl) | rfl <;> rfl

end Tail

/-! ## Credentials -/

theorem atLast?_eq_some
    {separator : Char}
    {chars before after : List Char}
    (found : Split.atLast? separator chars = some (before, after)) :
    chars = before ++ separator :: after := by
  induction chars generalizing before with
  | nil =>
      simp [Split.atLast?] at found
  | cons char rest inductionHypothesis =>
      unfold Split.atLast? at found
      split at found
      next earlier later foundInRest =>
          cases found
          rw [inductionHypothesis foundInRest]
          rfl
      next =>
          split at found
          next isSeparator =>
              cases found
              rw [isSeparator]
              rfl
          next =>
              cases found

theorem atLast?_of_not_mem
    {separator : Char}
    {chars : List Char}
    (notThere : separator ∉ chars) :
    Split.atLast? separator chars = none := by
  cases found : Split.atLast? separator chars with
  | none =>
      rfl
  | some parts =>
      obtain ⟨before, after⟩ := parts
      refine absurd ?_ notThere
      rw [atLast?_eq_some found]
      simp

/-- The empty tail is excluded behind an at sign alone, where it decides about the host. -/
theorem credentials?_readsWithin
    (ended : EndAuthority kind tails)
    (behindSign : front = ['@'] → [] ∉ tails) :
    ReadsWithin tails front (credentials? kind) := by
  have isSplit := fun tail isTail => span_append (not_goesOn (ended tail isTail)) front
  have isFront := List.takeWhile_append_dropWhile
    (p := fun char => !endsAuthority kind char) (l := front)
  cases found : Split.atLast? '@' (front.takeWhile fun char => !endsAuthority kind char) with
  | none =>
      refine .of_value (.ok ("", "")) front List.suffix_rfl fun tail isTail => ?_
      simp only [credentials?, isSplit tail isTail, found]
      rfl
  | some parts =>
      obtain ⟨before, after⟩ := parts
      rw [atLast?_eq_some found] at isFront
      generalize front.dropWhile (fun char => !endsAuthority kind char) = rest
        at isFront isSplit
      have read :
          ∀ tail ∈ tails,
            credentials? kind (front ++ tail) =
              if before.isEmpty ∧ after.isEmpty ∧ ¬ (rest ++ tail).isEmpty then
                .error .emptyHost
              else
                .ok (credentials before, after ++ (rest ++ tail)) := by
        intro tail isTail
        simp only [credentials?, isSplit tail isTail, found]
      by_cases signAlone : before.isEmpty ∧ after.isEmpty
      · refine .of_value (.error .emptyHost) front List.suffix_rfl fun tail isTail => ?_
        have goesOn : ¬ (rest ++ tail).isEmpty := by
          intro isLast
          simp only [List.isEmpty_iff, List.append_eq_nil_iff] at signAlone isLast
          simp only [signAlone, isLast] at isFront
          exact behindSign isFront.symm (isLast.2 ▸ isTail)
        rw [read tail isTail, if_pos ⟨signAlone.1, signAlone.2, goesOn⟩]
        rfl
      · refine .of_value (.ok (credentials before)) (after ++ rest)
          ⟨before ++ ['@'], by simpa using isFront⟩ fun tail isTail => ?_
        rw [read tail isTail, if_neg fun alone => signAlone ⟨alone.1, alone.2.1⟩,
          ← List.append_assoc]
        rfl

/-! ## Hosts -/

theorem hostChars_append
    {tail : List Char}
    (ended : ∀ char ∈ tail.head?, endsAuthority kind char)
    (bracketed : Bool)
    (front : List Char) :
    hostChars kind bracketed (front ++ tail) =
      ((hostChars kind bracketed front).1, (hostChars kind bracketed front).2 ++ tail) := by
  induction front generalizing bracketed with
  | nil =>
      cases tail with
      | nil =>
          rfl
      | cons char rest =>
          simp [hostChars, ended char rfl]
  | cons char front inductionHypothesis =>
      rw [List.cons_append]
      unfold hostChars
      split
      next =>
          rfl
      next =>
          simp only [inductionHypothesis]

theorem hostChars_append_eq
    (bracketed : Bool)
    (chars : List Char) :
    (hostChars kind bracketed chars).1 ++ (hostChars kind bracketed chars).2 = chars := by
  induction chars generalizing bracketed with
  | nil =>
      rfl
  | cons char rest inductionHypothesis =>
      unfold hostChars
      split
      next =>
          rfl
      next =>
          exact congrArg (char :: ·) (inductionHypothesis _)

theorem hostChars_of_plain
    {chars : List Char}
    (plain : ∀ char ∈ chars, endsAuthority kind char = false ∧ char ≠ ':')
    (bracketed : Bool) :
    hostChars kind bracketed chars = (chars, []) := by
  induction chars generalizing bracketed with
  | nil =>
      rfl
  | cons char rest inductionHypothesis =>
      obtain ⟨goesOn, notColon⟩ := plain char List.mem_cons_self
      unfold hostChars
      rw [if_neg (by simp [goesOn, notColon])]
      simp only [inductionHypothesis fun other isOther =>
        plain other (List.mem_cons_of_mem char isOther)]

/-- The host of the characters that were split off, with or without a colon behind them. -/
def hostOf?
    (kind : SchemeKind)
    (beforeColon : Bool)
    (chars : List Char) :
    Except UrlError Host :=
  match kind with
  | .other => do
      let host ← Host.other? chars
      if host.isEmpty ∧ beforeColon then
        .error .emptyHost
      else
        return host
  | _ =>
      if chars.isEmpty then
        .error .emptyHost
      else
        Host.special? chars

theorem host?_eq
    (kind : SchemeKind)
    (chars : List Char) :
    host? kind chars =
      (hostOf? kind ((hostChars kind false chars).2.head? = some ':')
        (hostChars kind false chars).1).map fun host =>
          (host, (hostChars kind false chars).2) := by
  cases kind with
  | other =>
      simp only [host?, hostOf?, decide_eq_true_eq]
      cases Host.other? (hostChars .other false chars).1 with
      | error cause =>
          rfl
      | ok host =>
          simp only [bind, Except.bind]
          split <;> rfl
  | special defaultPort =>
      simp only [host?, hostOf?]
      split
      next =>
          rfl
      next =>
          cases Host.special? (hostChars (.special defaultPort) false chars).1 <;> rfl
  | file =>
      simp only [host?, hostOf?]
      split
      next =>
          rfl
      next =>
          cases Host.special? (hostChars .file false chars).1 <;> rfl

theorem host?_readsWithin
    (ended : EndAuthority kind tails) :
    ReadsWithin tails front (host? kind) := by
  refine .of_value
    (hostOf? kind ((hostChars kind false front).2.head? = some ':')
      (hostChars kind false front).1)
    (hostChars kind false front).2
    ⟨_, hostChars_append_eq false front⟩ fun tail isTail => ?_
  rw [host?_eq, hostChars_append (ended tail isTail)]
  simp only [head?_append_eq_colon (ended tail isTail)]

/-! ## Ports -/

/-- Whether what follows the digits of a port may follow it. -/
def endsPort
    (kind : SchemeKind) :
    List Char →
    Bool
  | [] =>
      true
  | char :: _ =>
      char == '\\' || endsAuthority kind char

/-- The port of digits, behind which it has ended or not. -/
def portOf?
    (kind : SchemeKind)
    (hasEnded : Bool)
    (digits : List Char) :
    Except UrlError (Option Nat) := do
  let port ← portNumber? digits
  if hasEnded then
    return if port.map .special = some kind then none else port
  else
    .error .invalidPort

theorem port?_cons_colon
    (kind : SchemeKind)
    (chars : List Char) :
    port? kind (':' :: chars) =
      (portOf? kind (endsPort kind (chars.dropWhile Char.isDigit))
        (chars.takeWhile Char.isDigit)).map fun port =>
          (port, chars.dropWhile Char.isDigit) := by
  simp only [port?, List.span_eq_takeWhile_dropWhile, portOf?]
  generalize chars.dropWhile Char.isDigit = rest
  cases portNumber? (chars.takeWhile Char.isDigit) with
  | error cause =>
      rfl
  | ok port =>
      change
        (if endsPort kind rest then
          .ok (if port.map .special = some kind then none else port, rest)
        else
          .error .invalidPort) =
          (if endsPort kind rest then
            .ok (if port.map .special = some kind then none else port)
          else
            .error .invalidPort : Except UrlError (Option Nat)).map fun port => (port, rest)
      split <;> rfl

theorem port?_of_not_colon
    {chars : List Char}
    (notColon : chars.head? ≠ some ':') :
    port? kind chars = .ok (none, chars) := by
  unfold port?
  split
  next =>
      simp at notColon
  next =>
      rfl

theorem endsPort_append
    {left tail : List Char}
    (ended : ∀ char ∈ tail.head?, endsAuthority kind char) :
    endsPort kind (left ++ tail) = endsPort kind left := by
  cases left with
  | nil =>
      cases tail with
      | nil =>
          rfl
      | cons char rest =>
          simp [endsPort, ended char rfl]
  | cons char rest =>
      rfl

theorem port?_readsWithin
    (ended : EndAuthority kind tails) :
    ReadsWithin tails front (port? kind) := by
  by_cases isColon : front.head? = some ':'
  · cases front with
    | nil =>
        simp at isColon
    | cons colon chars =>
        obtain rfl : colon = ':' := by simpa using isColon
        refine .of_value
          (portOf? kind (endsPort kind (chars.dropWhile Char.isDigit))
            (chars.takeWhile Char.isDigit))
          (chars.dropWhile Char.isDigit)
          ((List.dropWhile_suffix _).trans (List.suffix_cons _ _)) fun tail isTail => ?_
        have notDigit := not_isDigit (ended tail isTail)
        rw [List.cons_append, port?_cons_colon, takeWhile_append notDigit,
          dropWhile_append notDigit, endsPort_append (ended tail isTail)]
  · refine .of_value (.ok none) front List.suffix_rfl fun tail isTail => ?_
    rw [port?_of_not_colon (mt (head?_append_eq_colon (ended tail isTail) _).mp isColon)]
    rfl

/-! ## Whole authorities -/

/-- Read what stands between the slashes before an authority and the path. -/
def authority?
    (scheme : String)
    (kind : SchemeKind)
    (chars : List Char) :
    Except UrlError (Url × List Char) := do
  let ((username, password), rest) ← credentials? kind chars
  let (host, rest) ← host? kind rest
  if host.isEmpty ∧ (username ≠ "" ∨ password ≠ "") then
    .error .emptyHost
  else do
    let (port, rest) ← port? kind rest
    return ({
      scheme := scheme
      username := username
      password := password
      host := some host
      port := port
      path := .segments []
    }, rest)

theorem authority?_readsWithin
    (scheme : String)
    (ended : EndAuthority kind tails)
    (behindSign : front = ['@'] → [] ∉ tails) :
    ReadsWithin tails front (authority? scheme kind) := by
  refine (credentials?_readsWithin ended behindSign).bind fun credentials left _ => ?_
  refine (host?_readsWithin ended).bind fun host left _ => ?_
  by_cases isMissing : host.isEmpty ∧ (credentials.1 ≠ "" ∨ credentials.2 ≠ "")
  · simp only [if_pos isMissing]
    exact .error .emptyHost
  · simp only [if_neg isMissing]
    refine (port?_readsWithin ended).bind fun port left _ => ?_
    dsimp only
    exact .pure _

/-- A host name without signs is all that there is before the end of an authority. -/
theorem eq_of_authority?_plain
    {scheme : String}
    {tail rest : List Char}
    {url : Url}
    (plain : ∀ char ∈ front, endsAuthority kind char = false ∧ char ≠ ':' ∧ char ≠ '@')
    (ended : ∀ char ∈ tail.head?, endsAuthority kind char)
    (read : authority? scheme kind (front ++ tail) = .ok (url, rest)) :
    rest = tail := by
  have noCredentials : credentials? kind (front ++ tail) = .ok (("", ""), front ++ tail) := by
    have isSplit := span_of_runsOn (not_goesOn ended) fun char isChar => by
      simpa using (plain char isChar).1
    have noSign : Split.atLast? '@' front = none :=
      atLast?_of_not_mem fun isSign => (plain '@' isSign).2.2 rfl
    simp only [credentials?, isSplit, noSign]
  have isHost : hostChars kind false (front ++ tail) = (front, tail) := by
    rw [hostChars_append ended, hostChars_of_plain fun char isChar =>
      ⟨(plain char isChar).1, (plain char isChar).2.1⟩]
    rfl
  have noPort : port? kind tail = .ok (none, tail) :=
    port?_of_not_colon fun isColon => by
      simpa using (head?_append_eq_colon ended []).mp isColon
  simp only [authority?, noCredentials, bind, Except.bind, host?_eq, isHost] at read
  cases isHostOf : hostOf? kind (tail.head? = some ':') front with
  | error cause =>
      simp [isHostOf, Except.map] at read
  | ok host =>
      simp only [isHostOf, Except.map, noPort, ne_eq, not_true_eq_false, or_self, and_false,
        if_false] at read
      cases read
      rfl

/-- Read the authority of a file; a drive letter is none. -/
def fileAuthority? (chars : List Char) : Except UrlError (Url × List Char) :=
  let (host, rest) := chars.span fun char => !endsAuthority .file char
  let (host?, rest) :=
    if UrlPath.isDriveLetter host then
      (.ok (.other ""), chars)
    else
      (fileHost? host, rest)
  host?.map fun host =>
    ({ scheme := "file", host := some host, path := .segments [] }, rest)

theorem fileAuthority?_readsWithin
    (ended : EndAuthority .file tails) :
    ReadsWithin tails front fileAuthority? := by
  have isSplit := fun tail isTail => span_append (not_goesOn (ended tail isTail)) front
  by_cases isDrive :
      UrlPath.isDriveLetter (front.takeWhile fun char => !endsAuthority .file char)
  · refine .of_value (.ok { scheme := "file", host := some (.other ""), path := .segments [] })
      front List.suffix_rfl fun tail isTail => ?_
    simp only [fileAuthority?, isSplit tail isTail, if_pos isDrive]
    rfl
  · refine .of_value
      ((fileHost? (front.takeWhile fun char => !endsAuthority .file char)).map fun host =>
        { scheme := "file", host := some host, path := .segments [] })
      (front.dropWhile fun char => !endsAuthority .file char)
      (List.dropWhile_suffix _) fun tail isTail => ?_
    simp only [fileAuthority?, isSplit tail isTail, if_neg isDrive]
    cases fileHost? (front.takeWhile fun char => !endsAuthority .file char) <;> rfl

theorem eq_of_fileAuthority?_plain
    {tail rest : List Char}
    {url : Url}
    (plain : ∀ char ∈ front, endsAuthority .file char = false)
    (notDrive : UrlPath.isDriveLetter front = false)
    (ended : ∀ char ∈ tail.head?, endsAuthority .file char)
    (read : fileAuthority? (front ++ tail) = .ok (url, rest)) :
    rest = tail := by
  have isSplit := span_of_runsOn (not_goesOn ended) fun char isChar => by
    simpa using plain char isChar
  simp only [fileAuthority?, isSplit, notDrive] at read
  cases isHost : fileHost? front with
  | error cause =>
      simp [isHost, Except.map] at read
  | ok host =>
      simp only [isHost, Except.map, Bool.false_eq_true, if_false, Except.ok.injEq,
        Prod.mk.injEq] at read
      exact read.2.symm

end GrpcDiscovery.Url
