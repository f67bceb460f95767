import GrpcDiscovery.Json.Reader
import GrpcDiscovery.Proofs.Lists

namespace GrpcDiscovery.Json

/-!
# The words of JSON

Blanks, strings and numerals: which characters spell them is said here without a reader,
and the readers take what is spelled and nothing else. What stands between the quotes of
a string need not stand for a text. If it does, the text is read from it.
-/

/-! ## Blanks -/

/-- Characters that may stand between any two others. -/
def AreBlank (chars : List Char) : Prop :=
  ∀ char ∈ chars, isBlank char

theorem skipBlank_append
    {blanks : List Char}
    (areBlank : AreBlank blanks)
    (rest : List Char) :
    skipBlank (blanks ++ rest) = skipBlank rest :=
  List.dropWhile_append_of_pos areBlank

theorem skipBlank_cons
    {char : Char}
    (notBlank : isBlank char = false)
    (rest : List Char) :
    skipBlank (char :: rest) = char :: rest :=
  List.dropWhile_cons_of_neg (by simp [notBlank])

theorem exists_blanks (chars : List Char) :
    ∃ blanks, AreBlank blanks ∧ chars = blanks ++ skipBlank chars :=
  ⟨chars.takeWhile isBlank, fun _ => List.mem_takeWhile_imp,
    List.takeWhile_append_dropWhile.symm⟩

theorem skipBlank_eq_nil_iff {chars : List Char} :
    skipBlank chars = [] ↔ AreBlank chars :=
  List.dropWhile_eq_nil_iff

/-! ## Strings -/

/-- What may stand between the quotes of a string. -/
inductive IsStringBody : List Char → Prop where
  | nil :
      IsStringBody []
  | plain
      {char : Char}
      {rest : List Char}
      (notQuote : char ≠ '"')
      (notBackslash : char ≠ '\\')
      (noControl : 0x20 ≤ char.toNat)
      (isBody : IsStringBody rest) :
      IsStringBody (char :: rest)
  | escape
      {letter char : Char}
      {rest : List Char}
      (isEscape : simpleEscape? letter = some char)
      (isBody : IsStringBody rest) :
      IsStringBody ('\\' :: letter :: rest)
  /-- Any four digits will do, those of surrogates included. -/
  | unit
      {a b c d : Char}
      {unit : Nat}
      {rest : List Char}
      (isUnit : Hex.number? [a, b, c, d] = some unit)
      (isBody : IsStringBody rest) :
      IsStringBody ('\\' :: 'u' :: a :: b :: c :: d :: rest)

theorem stringRest_of_isStringBody
    {body : List Char}
    (isBody : IsStringBody body)
    (rest : List Char) :
    stringRest (body ++ '"' :: rest) = some (body, rest) := by
  induction isBody with
  | nil =>
      rfl
  | @plain char body notQuote notBackslash noControl isBody inductionHypothesis =>
      rw [List.cons_append, stringRest, if_neg (Nat.not_lt.mpr noControl), inductionHypothesis]
      · rfl
      · exact notQuote
      · exact fun a b c d rest isUnit => absurd isUnit notBackslash
      · exact fun letter rest isEscape => absurd isEscape notBackslash
  | @escape letter char body isEscape isBody inductionHypothesis =>
      rw [List.cons_append, List.cons_append, stringRest, isEscape, inductionHypothesis]
      · rfl
      · rintro a b c d rest rfl
        cases isEscape
  | unit isUnit isBody inductionHypothesis =>
      simp only [List.cons_append, stringRest, isUnit, inductionHypothesis]
      rfl

theorem isStringBody_of_stringRest
    {chars body rest : List Char}
    (read : stringRest chars = some (body, rest)) :
    IsStringBody body ∧ chars = body ++ '"' :: rest := by
  fun_induction stringRest chars generalizing body rest with
  | case1 =>
      cases read
  | case2 =>
      cases read
      exact ⟨.nil, rfl⟩
  | case3 a b c d chars inductionHypothesis =>
      simp only [Option.bind_eq_bind, Option.bind_eq_some_iff] at read
      obtain ⟨unit, isUnit, ⟨others, behind⟩, readRest, same⟩ := read
      cases same
      obtain ⟨isBody, rfl⟩ := inductionHypothesis readRest
      exact ⟨.unit isUnit isBody, rfl⟩
  | case4 letter chars notUnit inductionHypothesis =>
      simp only [Option.bind_eq_bind, Option.bind_eq_some_iff] at read
      obtain ⟨char, isEscape, ⟨others, behind⟩, readRest, same⟩ := read
      cases same
      obtain ⟨isBody, rfl⟩ := inductionHypothesis readRest
      exact ⟨.escape isEscape isBody, rfl⟩
  | case5 =>
      cases read
  | case6 char chars notQuote _ notEscape noControl inductionHypothesis =>
      simp only [Option.bind_eq_bind, Option.bind_eq_some_iff] at read
      obtain ⟨⟨others, behind⟩, readRest, same⟩ := read
      cases same
      obtain ⟨isBody, rfl⟩ := inductionHypothesis readRest
      refine ⟨.plain (fun isQuote => notQuote isQuote) ?_ (Nat.not_lt.mp noControl) isBody, rfl⟩
      -- A backslash with something behind it begins an escape.
      rintro rfl
      cases others with
      | nil =>
          exact notEscape _ _ rfl rfl
      | cons =>
          exact notEscape _ _ rfl rfl

/-- A string body and the characters for which it stands. -/
inductive StandsFor : List Char → List Char → Prop where
  | nil :
      StandsFor [] []
  | plain
      {char : Char}
      {rest chars : List Char}
      (notBackslash : char ≠ '\\')
      (stands : StandsFor rest chars) :
      StandsFor (char :: rest) (char :: chars)
  | escape
      {letter char : Char}
      {rest chars : List Char}
      (isEscape : simpleEscape? letter = some char)
      (stands : StandsFor rest chars) :
      StandsFor ('\\' :: letter :: rest) (char :: chars)
  /-- A number that is no surrogate is that of a character. -/
  | unit
      {a b c d : Char}
      {unit : Nat}
      {rest chars : List Char}
      (isUnit : Hex.number? [a, b, c, d] = some unit)
      (noSurrogate : unit < 0xD800 ∨ 0xDFFF < unit)
      (stands : StandsFor rest chars) :
      StandsFor ('\\' :: 'u' :: a :: b :: c :: d :: rest) (Char.ofNat unit :: chars)
  /-- A high and a low surrogate stand for one character together. -/
  | pair
      {a b c d e f g h : Char}
      {high low : Nat}
      {rest chars : List Char}
      (isHigh : Hex.number? [a, b, c, d] = some high)
      (high_range : 0xD800 ≤ high ∧ high ≤ 0xDBFF)
      (isLow : Hex.number? [e, f, g, h] = some low)
      (low_range : 0xDC00 ≤ low ∧ low ≤ 0xDFFF)
      (stands : StandsFor rest chars) :
      StandsFor
        ('\\' :: 'u' :: a :: b :: c :: d :: '\\' :: 'u' :: e :: f :: g :: h :: rest)
        (ofSurrogates high low :: chars)

theorem unescape?_of_standsFor
    {body chars : List Char}
    (stands : StandsFor body chars) :
    unescape? body = some chars := by
  induction stands with
  | nil =>
      rfl
  | plain notBackslash stands inductionHypothesis =>
      rw [unescape?, inductionHypothesis]
      · rfl
      · exact fun a b c d rest isUnit => absurd isUnit notBackslash
      · exact fun letter rest isEscape => absurd isEscape notBackslash
      · exact fun isBackslash => absurd isBackslash notBackslash
  | escape isEscape stands inductionHypothesis =>
      rw [unescape?, isEscape, inductionHypothesis]
      · rfl
      · rintro a b c d rest rfl
        cases isEscape
  | @unit a b c d unit rest chars isUnit noSurrogate stands inductionHypothesis =>
      have notHigh : ¬ (0xD800 ≤ unit ∧ unit ≤ 0xDBFF) := by omega
      have notLow : ¬ (0xDC00 ≤ unit ∧ unit ≤ 0xDFFF) := by omega
      rw [unescape?, isUnit]
      simp only [Option.bind_eq_bind, Option.bind_some, if_neg notHigh, if_neg notLow,
        inductionHypothesis]
      rfl
  | pair isHigh high_range isLow low_range stands inductionHypothesis =>
      rw [unescape?, isHigh]
      simp only [Option.bind_eq_bind, Option.bind_some, if_pos high_range, isLow,
        if_pos low_range, inductionHypothesis]
      rfl

theorem standsFor_of_unescape?
    {body chars : List Char}
    (read : unescape? body = some chars) :
    StandsFor body chars := by
  fun_induction unescape? body generalizing chars with
  | case1 =>
      cases read
      exact .nil
  | case2 a b c d rest behindPair inductionHypothesis =>
      simp only [Option.bind_eq_bind, Option.bind_eq_some_iff] at read
      obtain ⟨unit, isUnit, read⟩ := read
      split at read
      · rename_i high_range
        split at read
        · simp only [Option.bind_eq_some_iff] at read
          obtain ⟨low, isLow, read⟩ := read
          split at read
          · rename_i low_range
            simp only [Option.bind_eq_some_iff] at read
            obtain ⟨others, readOthers, same⟩ := read
            cases same
            exact .pair isUnit high_range isLow low_range (behindPair readOthers)
          · cases read
        · cases read
      · rename_i notHigh
        split at read
        · cases read
        · rename_i notLow
          simp only [Option.bind_eq_some_iff] at read
          obtain ⟨others, readOthers, same⟩ := read
          cases same
          exact .unit isUnit (by omega) (inductionHypothesis readOthers)
  | case3 letter rest notUnit inductionHypothesis =>
      simp only [Option.bind_eq_bind, Option.bind_eq_some_iff] at read
      obtain ⟨char, isEscape, others, readOthers, same⟩ := read
      cases same
      exact .escape isEscape (inductionHypothesis readOthers)
  | case4 =>
      cases read
  | case5 char rest _ notEscape notLast inductionHypothesis =>
      simp only [Option.bind_eq_bind, Option.bind_eq_some_iff] at read
      obtain ⟨others, readOthers, same⟩ := read
      cases same
      refine .plain ?_ (inductionHypothesis readOthers)
      -- A backslash begins an escape or is the last character.
      rintro rfl
      cases rest with
      | nil =>
          exact notLast rfl rfl
      | cons =>
          exact notEscape _ _ rfl rfl

theorem text?_eq_some_iff
    {body : List Char}
    {text : String} :
    text? body = some text ↔ StandsFor body text.toList := by
  rw [text?, Option.map_eq_some_iff]
  constructor
  · rintro ⟨chars, read, rfl⟩
    rw [String.toList_ofList]
    exact standsFor_of_unescape? read
  · intro stands
    exact ⟨_, unescape?_of_standsFor stands, String.ofList_toList⟩

/-! ## Numerals -/

/-- One decimal digit or more. -/
structure AreDigits (chars : List Char) : Prop where
  ne_nil : chars ≠ []
  digits : ∀ char ∈ chars, char.isDigit

/-- What may stand before the point of a numeral: digits, of which a zero is the only one. -/
inductive IsWhole : List Char → Prop where
  | zero :
      IsWhole ['0']
  | digits
      {chars : List Char}
      (areDigits : AreDigits chars)
      (noZero : chars.head? ≠ some '0') :
      IsWhole chars

/-- The point and the digits of a fraction, if there is one. -/
inductive SpellsFraction : Option (List Char) → List Char → Prop where
  | absent :
      SpellsFraction none []
  | present
      {fraction : List Char}
      (areDigits : AreDigits fraction) :
      SpellsFraction (some fraction) ('.' :: fraction)

/-- The letter, the sign and the digits of an exponent, if there is one. -/
inductive SpellsExponent : Option (Option Char × List Char) → List Char → Prop where
  | absent :
      SpellsExponent none []
  | present
      {letter : Char}
      {sign : Option Char}
      {exponent : List Char}
      (isLetter : letter = 'e' ∨ letter = 'E')
      (isSign : ∀ char ∈ sign, char = '+' ∨ char = '-')
      (areDigits : AreDigits exponent) :
      SpellsExponent (some (sign, exponent)) (letter :: (sign.toList ++ exponent))

/-- The parts of a numeral, one behind the other. -/
inductive SpellsNumeral : Numeral → List Char → Prop where
  | intro
      {negative : Bool}
      {whole fractionChars exponentChars : List Char}
      {fraction : Option (List Char)}
      {exponent : Option (Option Char × List Char)}
      (isWhole : IsWhole whole)
      (isFraction : SpellsFraction fraction fractionChars)
      (isExponent : SpellsExponent exponent exponentChars) :
      SpellsNumeral ⟨negative, whole, fraction, exponent⟩
        ((if negative then ['-'] else []) ++ (whole ++ (fractionChars ++ exponentChars)))

/-- Characters that do not continue a numeral. -/
def EndsNumeral (rest : List Char) : Prop :=
  ∀ char ∈ rest.head?, char.isDigit = false ∧ char ≠ '.' ∧ char ≠ 'e' ∧ char ≠ 'E'

theorem digits_append
    {chars rest : List Char}
    (areDigits : AreDigits chars)
    (ended : ∀ char ∈ rest.head?, char.isDigit = false) :
    digits (chars ++ rest) = (chars, rest) :=
  span_of_runsOn ended areDigits.digits

theorem areDigits_of_digits
    {chars found rest : List Char}
    (split : digits chars = (found, rest))
    (notNone : found ≠ []) :
    AreDigits found ∧ chars = found ++ rest := by
  rw [digits, List.span_eq_takeWhile_dropWhile, Prod.mk.injEq] at split
  obtain ⟨rfl, rfl⟩ := split
  exact ⟨⟨notNone, fun _ => List.mem_takeWhile_imp⟩, List.takeWhile_append_dropWhile.symm⟩

theorem wholePart_append
    {whole rest : List Char}
    (isWhole : IsWhole whole)
    (ended : ∀ char ∈ rest.head?, char.isDigit = false) :
    wholePart (whole ++ rest) = some (whole, rest) := by
  cases isWhole with
  | zero =>
      rfl
  | digits areDigits noZero =>
      cases whole with
      | nil =>
          exact absurd rfl areDigits.ne_nil
      | cons first others =>
          have split := digits_append areDigits ended
          rw [List.cons_append] at split ⊢
          rw [wholePart, split]
          intro behind isZero
          exact noZero (congrArg List.head? isZero)

theorem isWhole_of_wholePart
    {chars whole rest : List Char}
    (read : wholePart chars = some (whole, rest)) :
    IsWhole whole ∧ chars = whole ++ rest := by
  unfold wholePart at read
  split at read
  · cases read
    exact ⟨.zero, rfl⟩
  · rename_i notZero
    split at read
    · cases read
    · rename_i found behind notNone split
      cases read
      obtain ⟨areDigits, rfl⟩ := areDigits_of_digits split notNone
      refine ⟨.digits areDigits fun isZero => ?_, rfl⟩
      obtain ⟨others, rfl⟩ := List.head?_eq_some_iff.mp isZero
      exact notZero _ rfl

theorem fractionPart_append
    {fraction : Option (List Char)}
    {chars rest : List Char}
    (isFraction : SpellsFraction fraction chars)
    (ended : ∀ char ∈ rest.head?, char.isDigit = false ∧ char ≠ '.') :
    fractionPart (chars ++ rest) = some (fraction, rest) := by
  cases isFraction with
  | absent =>
      rw [List.nil_append]
      unfold fractionPart
      split
      · exact absurd rfl (ended '.' rfl).2
      · rfl
  | present areDigits =>
      have split := digits_append areDigits fun char isFirst => (ended char isFirst).1
      rw [List.cons_append, fractionPart, split]
      split
      · rename_i isNil
        cases isNil
        exact absurd rfl areDigits.ne_nil
      · rename_i same
        cases same
        rfl

theorem isFraction_of_fractionPart
    {chars rest : List Char}
    {fraction : Option (List Char)}
    (read : fractionPart chars = some (fraction, rest)) :
    ∃ fractionChars, SpellsFraction fraction fractionChars ∧ chars = fractionChars ++ rest := by
  unfold fractionPart at read
  split at read
  · split at read
    · cases read
    · rename_i found behind notNone split
      cases read
      obtain ⟨areDigits, rfl⟩ := areDigits_of_digits split notNone
      exact ⟨_, .present areDigits, rfl⟩
  · cases read
    exact ⟨[], .absent, rfl⟩

theorem exponentSign_append
    {sign : Option Char}
    (isSign : ∀ char ∈ sign, char = '+' ∨ char = '-')
    {exponent rest : List Char}
    (areDigits : AreDigits exponent) :
    exponentSign (sign.toList ++ (exponent ++ rest)) = (sign, exponent ++ rest) := by
  cases sign with
  | some char =>
      rcases isSign char rfl with rfl | rfl
      · rfl
      · rfl
  | none =>
      cases exponent with
      | nil =>
          exact absurd rfl areDigits.ne_nil
      | cons first others =>
          have isDigit := areDigits.digits first List.mem_cons_self
          change exponentSign (first :: (others ++ rest)) = (none, first :: (others ++ rest))
          unfold exponentSign
          split
          · rename_i same
            cases same
            cases isDigit
          · rename_i same
            cases same
            cases isDigit
          · rfl

theorem exists_of_exponentSign
    {chars rest : List Char}
    {sign : Option Char}
    (read : exponentSign chars = (sign, rest)) :
    (∀ char ∈ sign, char = '+' ∨ char = '-') ∧ chars = sign.toList ++ rest := by
  unfold exponentSign at read
  split at read
  · cases read
    exact ⟨by simp, rfl⟩
  · cases read
    exact ⟨by simp, rfl⟩
  · cases read
    exact ⟨by simp, rfl⟩

theorem exponentPart_append
    {exponent : Option (Option Char × List Char)}
    {chars rest : List Char}
    (isExponent : SpellsExponent exponent chars)
    (ended : EndsNumeral rest) :
    exponentPart (chars ++ rest) = some (exponent, rest) := by
  cases isExponent with
  | absent =>
      cases rest with
      | nil =>
          rfl
      | cons char rest =>
          obtain ⟨_, _, notLower, notUpper⟩ := ended char rfl
          rw [List.nil_append, exponentPart, if_neg (not_or.mpr ⟨notLower, notUpper⟩)]
  | present isLetter isSign areDigits =>
      have split := digits_append areDigits fun char isFirst => (ended char isFirst).1
      rw [List.cons_append, List.append_assoc, exponentPart, if_pos isLetter,
        exponentSign_append isSign areDigits]
      simp only [split]
      split
      · rename_i isNil
        cases isNil
        exact absurd rfl areDigits.ne_nil
      · rename_i same
        cases same
        rfl

theorem isExponent_of_exponentPart
    {chars rest : List Char}
    {exponent : Option (Option Char × List Char)}
    (read : exponentPart chars = some (exponent, rest)) :
    ∃ exponentChars, SpellsExponent exponent exponentChars ∧ chars = exponentChars ++ rest := by
  cases chars with
  | nil =>
      cases read
      exact ⟨[], .absent, rfl⟩
  | cons char chars =>
      rw [exponentPart] at read
      split at read
      · rename_i isLetter
        cases signed : exponentSign chars with
        | mk sign behind =>
            obtain ⟨isSign, rfl⟩ := exists_of_exponentSign signed
            simp only [signed] at read
            split at read
            · cases read
            · rename_i found after notNone split
              cases read
              obtain ⟨areDigits, rfl⟩ := areDigits_of_digits split notNone
              exact ⟨_, .present isLetter isSign areDigits, by simp⟩
      · cases read
        exact ⟨[], .absent, rfl⟩

/-- What follows the whole part of a numeral goes on with no digit. -/
theorem not_isDigit_of_parts
    {fraction : Option (List Char)}
    {exponent : Option (Option Char × List Char)}
    {fractionChars exponentChars rest : List Char}
    (isFraction : SpellsFraction fraction fractionChars)
    (isExponent : SpellsExponent exponent exponentChars)
    (ended : EndsNumeral rest) :
    ∀ char ∈ (fractionChars ++ (exponentChars ++ rest)).head?, char.isDigit = false := by
  intro char isFirst
  cases isFraction with
  | present =>
      cases isFirst
      rfl
  | absent =>
      cases isExponent with
      | present isLetter =>
          cases isFirst
          rcases isLetter with rfl | rfl
          · rfl
          · rfl
      | absent =>
          exact (ended char isFirst).1

theorem endsFraction_of_exponent
    {exponent : Option (Option Char × List Char)}
    {exponentChars rest : List Char}
    (isExponent : SpellsExponent exponent exponentChars)
    (ended : EndsNumeral rest) :
    ∀ char ∈ (exponentChars ++ rest).head?, char.isDigit = false ∧ char ≠ '.' := by
  intro char isFirst
  cases isExponent with
  | present isLetter =>
      cases isFirst
      rcases isLetter with rfl | rfl
      · exact ⟨rfl, by decide⟩
      · exact ⟨rfl, by decide⟩
  | absent =>
      exact ⟨(ended char isFirst).1, (ended char isFirst).2.1⟩

theorem minusSign_append
    (negative : Bool)
    {whole : List Char}
    (isWhole : IsWhole whole)
    (rest : List Char) :
    minusSign ((if negative then ['-'] else []) ++ (whole ++ rest)) =
      (negative, whole ++ rest) := by
  cases negative with
  | true =>
      rfl
  | false =>
      cases isWhole with
      | zero =>
          rfl
      | digits areDigits =>
          cases whole with
          | nil =>
              exact absurd rfl areDigits.ne_nil
          | cons first others =>
              have isDigit := areDigits.digits first List.mem_cons_self
              change minusSign (first :: (others ++ rest)) = (false, first :: (others ++ rest))
              unfold minusSign
              split
              · rename_i same
                cases same
                cases isDigit
              · rfl

theorem eq_of_minusSign
    {chars rest : List Char}
    {negative : Bool}
    (read : minusSign chars = (negative, rest)) :
    chars = (if negative then ['-'] else []) ++ rest := by
  unfold minusSign at read
  split at read
  · cases read
    rfl
  · cases read
    rfl

/-- A numeral is read up to characters that do not continue it. -/
theorem numeral_append
    {found : Numeral}
    {chars rest : List Char}
    (isNumeral : SpellsNumeral found chars)
    (ended : EndsNumeral rest) :
    numeral (chars ++ rest) = some (found, rest) := by
  cases isNumeral with
  | intro isWhole isFraction isExponent =>
      have readWhole := wholePart_append isWhole
        (not_isDigit_of_parts isFraction isExponent ended)
      have readFraction := fractionPart_append isFraction
        (endsFraction_of_exponent isExponent ended)
      have readExponent := exponentPart_append isExponent ended
      simp only [numeral, List.append_assoc, minusSign_append _ isWhole, Option.bind_eq_bind,
        readWhole, Option.bind_some, readFraction, readExponent]
      rfl

theorem spellsNumeral_of_numeral
    {chars rest : List Char}
    {found : Numeral}
    (read : numeral chars = some (found, rest)) :
    ∃ spelled, SpellsNumeral found spelled ∧ chars = spelled ++ rest := by
  cases signed : minusSign chars with
  | mk negative behind =>
      obtain rfl := eq_of_minusSign signed
      simp only [numeral, signed, Option.bind_eq_bind, Option.bind_eq_some_iff] at read
      obtain ⟨⟨whole, _⟩, readWhole, ⟨fraction, _⟩, readFraction, ⟨exponent, _⟩, readExponent,
        same⟩ := read
      cases same
      obtain ⟨isWhole, rfl⟩ := isWhole_of_wholePart readWhole
      obtain ⟨_, isFraction, rfl⟩ := isFraction_of_fractionPart readFraction
      obtain ⟨_, isExponent, rfl⟩ := isExponent_of_exponentPart readExponent
      exact ⟨_, .intro isWhole isFraction isExponent, by simp only [List.append_assoc]⟩

/-- A numeral begins with a minus sign or a digit. -/
theorem SpellsNumeral.exists_begin
    {found : Numeral}
    {chars : List Char}
    (isNumeral : SpellsNumeral found chars) :
    ∃ first rest, chars = first :: rest ∧ (first = '-' ∨ first.isDigit) := by
  cases isNumeral with
  | @intro negative whole _ _ _ _ isWhole =>
      cases negative with
      | true =>
          exact ⟨'-', _, rfl, .inl rfl⟩
      | false =>
          cases isWhole with
          | zero =>
              exact ⟨'0', _, rfl, .inr rfl⟩
          | digits areDigits =>
              cases whole with
              | nil =>
                  exact absurd rfl areDigits.ne_nil
              | cons first others =>
                  exact ⟨first, _, rfl, .inr (areDigits.digits first List.mem_cons_self)⟩

/-- A numeral of digits alone stands for an integer; nought has no sign. -/
inductive IsInteger : Numeral → Int → Prop where
  | natural
      (whole : List Char) :
      IsInteger ⟨false, whole, none, none⟩ (digitsValue whole)
  | negative
      {whole : List Char}
      (notZero : digitsValue whole ≠ 0) :
      IsInteger ⟨true, whole, none, none⟩ (-digitsValue whole)

theorem number?_of_isInteger
    {numeral : Numeral}
    {value : Int}
    (isInteger : IsInteger numeral value)
    (within : -9223372036854775808 ≤ value ∧ value ≤ 18446744073709551615) :
    numeral.number? = some (.integer value) := by
  cases isInteger with
  | natural whole =>
      have fits : digitsValue whole ≤ 18446744073709551615 := by omega
      simp [Numeral.number?, fits]
  | @negative whole notZero =>
      have fits : 0 < digitsValue whole ∧ digitsValue whole ≤ 9223372036854775808 := by omega
      simp [Numeral.number?, fits]

theorem isInteger_of_number?
    {numeral : Numeral}
    {value : Int}
    (read : numeral.number? = some (.integer value)) :
    IsInteger numeral value := by
  obtain ⟨negative, whole, fraction, exponent⟩ := numeral
  simp only [Numeral.number?, Bool.and_eq_true, Option.isNone_iff_eq_none] at read
  split at read
  · rename_i natural
    obtain ⟨⟨rfl, rfl⟩, notNegative, _⟩ := natural
    obtain rfl : negative = false := by simpa using notNegative
    cases read
    exact .natural whole
  · split at read
    · rename_i isNegative
      obtain ⟨⟨rfl, rfl⟩, rfl, positive, _⟩ := isNegative
      cases read
      exact .negative (Nat.pos_iff_ne_zero.mp positive)
    · split at read
      · cases read
      · cases read

end GrpcDiscovery.Json
