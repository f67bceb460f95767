import GrpcDiscovery.Proofs.Lists
import GrpcDiscovery.Url.Reader

namespace GrpcDiscovery.Url

/-!
# The characters that a URL is read from

A text is read without the blanks at its ends and without line ends and tabs. What
of its beginning counts is the same whatever stands behind it, once a character
follows that is not blank; and the scheme of a URL is that of its beginning, once a
character follows that no scheme has.
-/

/-! ## Characters that count -/

/-- What counts of a beginning, if a character follows that is not blank. -/
def leadingChars (front : List Char) : List Char :=
  (front.dropWhile isBlank).filter fun char => !isIgnored char

/-- What counts of an end, if a character stands before it that is not blank. -/
def trailingChars (rest : List Char) : List Char :=
  (rest.reverse.dropWhile isBlank).reverse.filter fun char => !isIgnored char

theorem mem_of_mem_leadingChars
    {char : Char}
    {front : List Char}
    (isLeading : char ∈ leadingChars front) :
    char ∈ front :=
  (List.dropWhile_suffix _).subset (List.mem_filter.mp isLeading).1

section NotBlank

variable
  {char : Char}
  (notBlank : isBlank char = false)

include notBlank

theorem isIgnored_eq_false : isIgnored char = false := by
  rw [Bool.eq_false_iff]
  intro ignored
  simp only [isIgnored, Bool.or_eq_true, beq_iff_eq] at ignored
  rcases ignored with (rfl | rfl) | rfl <;> cases notBlank

/-- A character that is not blank parts what counts before it from what counts behind. -/
theorem significantChars_append
    (front rest : List Char) :
    significantChars (String.ofList (front ++ char :: rest)) =
      leadingChars front ++ char :: trailingChars rest := by
  have ended : ∀ first ∈ (char :: rest).head?, isBlank first = false := by
    simpa using notBlank
  have endedBehind :
      ∀ last ∈ (char :: (front.dropWhile isBlank).reverse).head?, isBlank last = false := by
    simpa using notBlank
  have isReversed :
      (front.dropWhile isBlank ++ char :: rest).reverse =
        rest.reverse ++ char :: (front.dropWhile isBlank).reverse := by
    simp
  simp only [significantChars, String.toList_ofList, dropWhile_append ended, isReversed,
    dropWhile_append endedBehind]
  simp [leadingChars, trailingChars, isIgnored_eq_false notBlank]

theorem trailingChars_append
    (front rest : List Char) :
    trailingChars (front ++ char :: rest) =
      (front.filter fun char => !isIgnored char) ++ char :: trailingChars rest := by
  have endedBehind : ∀ last ∈ (char :: front.reverse).head?, isBlank last = false := by
    simpa using notBlank
  have isReversed : (front ++ char :: rest).reverse = rest.reverse ++ char :: front.reverse := by
    simp
  simp only [trailingChars, isReversed, dropWhile_append endedBehind]
  simp [isIgnored_eq_false notBlank]

theorem leadingChars_concat
    (front : List Char) :
    leadingChars (front ++ [char]) = leadingChars front ++ [char] := by
  have ended : ∀ first ∈ [char].head?, isBlank first = false := by
    simpa using notBlank
  simp [leadingChars, dropWhile_append ended, isIgnored_eq_false notBlank]

end NotBlank

theorem trailingChars_of_no_blank
    {rest : List Char}
    (noBlank : ∀ char ∈ rest, isBlank char = false) :
    trailingChars rest = rest := by
  have lastNotBlank : ∀ last ∈ rest.reverse.head?, isBlank last = false := fun last isLast =>
    noBlank last (List.mem_reverse.mp (List.mem_of_mem_head? isLast))
  have noneIgnored : ∀ char ∈ rest, (!isIgnored char) = true := fun char isChar => by
    simp [isIgnored_eq_false (noBlank char isChar)]
  rw [trailingChars, dropWhile_eq_self lastNotBlank, List.reverse_reverse,
    List.filter_eq_self.mpr noneIgnored]

/-! ## Schemes -/

theorem scheme?_cons
    (first : Char)
    (front : List Char) :
    scheme? (first :: front) =
      match (first :: front).dropWhile isSchemeChar with
      | ':' :: rest =>
          if first.isAlpha then
            some
              (String.ofList (((first :: front).takeWhile isSchemeChar).map Char.toLower), rest)
          else
            none
      | _ =>
          none := by
  simp only [scheme?, List.head?_cons, List.span_eq_takeWhile_dropWhile]
  split
  next isFirst isSplit =>
      obtain ⟨rfl, isRest⟩ := Prod.mk.inj isSplit
      cases isFirst
      rw [isRest]
      rfl
  next noColon =>
      split
      next rest isRest =>
          exact absurd (congrArg (Prod.mk _) isRest) (noColon first _ rest rfl)
      next =>
          rfl

theorem scheme?_suffix
    {chars rest : List Char}
    {scheme : String}
    (isScheme : scheme? chars = some (scheme, rest)) :
    rest <:+ chars := by
  cases chars with
  | nil =>
      cases isScheme
  | cons first chars =>
      rw [scheme?_cons] at isScheme
      split at isScheme
      next behindColon isRest =>
          split at isScheme
          next =>
              cases isScheme
              have isSuffix : ':' :: rest <:+ first :: chars :=
                isRest ▸ List.dropWhile_suffix isSchemeChar
              exact (List.suffix_cons ':' rest).trans isSuffix
          next =>
              cases isScheme
      next =>
          cases isScheme

/-- A tail that continues no scheme, and ends none, stays behind the scheme. -/
theorem scheme?_append
    {tail : List Char}
    (ended : ∀ char ∈ tail.head?, isSchemeChar char = false ∧ char ≠ ':')
    (front : List Char) :
    scheme? (front ++ tail) =
      (scheme? front).map fun (scheme, rest) => (scheme, rest ++ tail) := by
  have notScheme : ∀ char ∈ tail.head?, isSchemeChar char = false :=
    fun char isFirst => (ended char isFirst).1
  cases front with
  | nil =>
      cases tail with
      | nil =>
          rfl
      | cons char rest =>
          obtain ⟨endsScheme, notColon⟩ := ended char rfl
          rw [List.nil_append, scheme?_cons, List.dropWhile_cons_of_neg (by simp [endsScheme])]
          split
          next rest isColon =>
              cases isColon
              exact absurd rfl notColon
          next =>
              rfl
  | cons first front =>
      rw [List.cons_append, scheme?_cons, scheme?_cons, ← List.cons_append,
        takeWhile_append notScheme, dropWhile_append notScheme]
      cases (first :: front).dropWhile isSchemeChar with
      | nil =>
          rw [List.nil_append]
          split
          next rest isColon =>
              exact absurd rfl (ended ':' rfl).2
          next =>
              rfl
      | cons char rest =>
          by_cases isColon : char = ':'
          · subst isColon
            simp only [List.cons_append]
            split <;> rfl
          · simp [isColon]

end GrpcDiscovery.Url
