import GrpcDiscovery.Proofs.Json.Tokens

namespace GrpcDiscovery.Json

/-!
# The grammar of JSON

Which characters spell a value is said here without a reader. The reader takes a text
exactly if it spells a value, and finds that value; how deep its containers are nested
does not matter.

Readers of items, of members and of values are brought under one notion: they find what
is spelled behind blanks, and leave what follows, which must not continue a numeral.
-/

/-! ## Values -/

/-- Items with commas between them, each of them between blanks. -/
inductive Listed
    {α : Type}
    (Spelling : α → List Char → Prop) :
    List α →
    List Char →
    Prop where
  | last
      {item : α}
      {before chars after : List Char}
      (blankBefore : AreBlank before)
      (spelled : Spelling item chars)
      (blankAfter : AreBlank after) :
      Listed Spelling [item] (before ++ (chars ++ after))
  | next
      {item : α}
      {items : List α}
      {before chars after others : List Char}
      (blankBefore : AreBlank before)
      (spelled : Spelling item chars)
      (blankAfter : AreBlank after)
      (listed : Listed Spelling items others) :
      Listed Spelling (item :: items) (before ++ (chars ++ (after ++ ',' :: others)))

/-- What stands between the brackets of a container. -/
inductive Fills
    {α : Type}
    (Spelling : α → List Char → Prop) :
    List α →
    List Char →
    Prop where
  | nothing
      {blanks : List Char}
      (areBlank : AreBlank blanks) :
      Fills Spelling [] blanks
  | items
      {items : List α}
      {chars : List Char}
      (listed : Listed Spelling items chars) :
      Fills Spelling items chars

/-- A key between quotes, a colon and a value. -/
inductive SpellsMember
    (Spelling : Written → List Char → Prop) :
    List Char × Written →
    List Char →
    Prop where
  | intro
      {key before after chars : List Char}
      {content : Written}
      (isBody : IsStringBody key)
      (blankBefore : AreBlank before)
      (blankAfter : AreBlank after)
      (spelled : Spelling content chars) :
      SpellsMember Spelling (key, content)
        ('"' :: (key ++ '"' :: (before ++ ':' :: (after ++ chars))))

/-- The characters that spell a value, from its first to its last. -/
inductive Spells : Written → List Char → Prop where
  | null :
      Spells .null ['n', 'u', 'l', 'l']
  | true :
      Spells (.bool Bool.true) ['t', 'r', 'u', 'e']
  | false :
      Spells (.bool Bool.false) ['f', 'a', 'l', 's', 'e']
  | number
      {numeral : Numeral}
      {chars : List Char}
      (isNumeral : SpellsNumeral numeral chars) :
      Spells (.number numeral) chars
  | string
      {chars : List Char}
      (isBody : IsStringBody chars) :
      Spells (.string chars) ('"' :: (chars ++ ['"']))
  | array
      {items : List Written}
      {chars : List Char}
      (fills : Fills Spells items chars) :
      Spells (.array items) ('[' :: (chars ++ [']']))
  | object
      {members : List (List Char × Written)}
      {chars : List Char}
      (fills : Fills (SpellsMember Spells) members chars) :
      Spells (.object members) ('{' :: (chars ++ ['}']))

/-- A text that spells a value, with blanks around it. -/
def Written.IsIn
    (written : Written)
    (text : String) :
    Prop :=
  ∃ before chars after,
    AreBlank before ∧ Spells written chars ∧ AreBlank after ∧
      text.toList = before ++ (chars ++ after)

/-! ## Containers -/

/-- A bracket that closes a container. -/
def Closes (char : Char) : Prop :=
  char = ']' ∨ char = '}'

/-- Spellings that begin with a character of their own. -/
def BeginsAlways
    {α : Type}
    (Spelling : α → List Char → Prop) :
    Prop :=
  ∀ item chars, Spelling item chars →
    ∃ first rest, chars = first :: rest ∧ isBlank first = false ∧ ¬ Closes first

/-- A reader that finds spelled items, those of bounded length wherever they stand. -/
structure Reads
    {α : Type}
    (Spelling : α → List Char → Prop)
    (reader : Parse α)
    (length : Nat) :
    Prop where
  begins : BeginsAlways Spelling
  sound {chars rest : List Char} {item : α} :
    reader chars = some (item, rest) →
      ∃ before spelled, AreBlank before ∧ Spelling item spelled ∧
        chars = before ++ (spelled ++ rest)
  complete {before spelled rest : List Char} {item : α} :
    AreBlank before →
      Spelling item spelled →
        spelled.length ≤ length →
          EndsNumeral rest →
            reader (before ++ (spelled ++ rest)) = some (item, rest)

section Container

variable
  {α : Type}
  {Spelling : α → List Char → Prop}
  {element : Parse α}
  {length : Nat}
  {closing : Char}

theorem endsNumeral_of_blank
    {blanks rest : List Char}
    (areBlank : AreBlank blanks)
    (ended : EndsNumeral rest) :
    EndsNumeral (blanks ++ rest) := by
  cases blanks with
  | nil =>
      exact ended
  | cons first others =>
      intro char isFirst
      cases isFirst
      have isBlank := areBlank first List.mem_cons_self
      simp only [Json.isBlank, Bool.or_eq_true, beq_iff_eq] at isBlank
      rcases isBlank with ((rfl | rfl) | rfl) | rfl
      all_goals decide

theorem endsNumeral_cons
    {char : Char}
    (ends : char = ',' ∨ Closes char)
    (rest : List Char) :
    EndsNumeral (char :: rest) := by
  rintro _ ⟨⟩
  rcases ends with rfl | rfl | rfl
  all_goals decide

theorem Closes.isBlank_eq_false
    {char : Char}
    (closes : Closes char) :
    isBlank char = false := by
  rcases closes with rfl | rfl
  · rfl
  · rfl

/-- Behind an item and blanks, a reader finds the comma or the bracket that follows. -/
theorem Reads.element_eq
    (reads : Reads Spelling element length)
    {item : α}
    {before chars after : List Char}
    {char : Char}
    (blankBefore : AreBlank before)
    (spelled : Spelling item chars)
    (blankAfter : AreBlank after)
    (short : chars.length ≤ length)
    (ends : char = ',' ∨ Closes char)
    (rest : List Char) :
    element (before ++ (chars ++ (after ++ char :: rest))) =
        some (item, after ++ char :: rest) ∧
      skipBlank (after ++ char :: rest) = char :: rest := by
  have notBlank : isBlank char = false := by
    rcases ends with rfl | closes
    · rfl
    · exact closes.isBlank_eq_false
  refine ⟨reads.complete blankBefore spelled short
    (endsNumeral_of_blank blankAfter (endsNumeral_cons ends rest)), ?_⟩
  rw [skipBlank_append blankAfter, skipBlank_cons notBlank]

/-- Listed items are read up to the bracket that closes their container. -/
theorem elements_append
    (reads : Reads Spelling element length)
    (closes : Closes closing)
    {items : List α}
    {chars : List Char}
    (listed : Listed Spelling items chars)
    (short : chars.length ≤ length)
    (rest : List Char)
    {fuel : Nat}
    (enough : chars.length ≤ fuel) :
    elements element closing fuel (chars ++ closing :: rest) = some (items, rest) := by
  induction listed generalizing fuel with
  | @last item before chars after blankBefore spelled blankAfter =>
      obtain ⟨first, others, rfl, -⟩ := reads.begins item chars spelled
      simp only [List.length_append, List.length_cons] at short enough
      obtain ⟨fuel, rfl⟩ : ∃ less, fuel = less + 1 := ⟨fuel - 1, by omega⟩
      obtain ⟨isRead, isStop⟩ := reads.element_eq blankBefore spelled blankAfter
        (by rw [List.length_cons]; omega) (.inr closes) rest
      rw [List.append_assoc, List.append_assoc, elements, isRead]
      simp only [Option.bind_eq_bind, Option.bind_some, isStop]
      rcases closes with rfl | rfl
      · rfl
      · rfl
  | @next item items before chars after others blankBefore spelled blankAfter listed
      inductionHypothesis =>
      simp only [List.length_append, List.length_cons] at short enough
      obtain ⟨fuel, rfl⟩ : ∃ less, fuel = less + 1 := ⟨fuel - 1, by omega⟩
      obtain ⟨isRead, isStop⟩ := reads.element_eq blankBefore spelled blankAfter
        (by omega) (.inl rfl) (others ++ closing :: rest)
      have readOthers := @inductionHypothesis (by omega) fuel (by omega)
      simp only [List.append_assoc, List.cons_append]
      rw [elements, isRead]
      simp only [Option.bind_eq_bind, Option.bind_some, isStop, readOthers]
      rfl

theorem listed_of_elements
    (reads : Reads Spelling element length)
    {fuel : Nat}
    {chars rest : List Char}
    {items : List α}
    (read : elements element closing fuel chars = some (items, rest)) :
    ∃ spelled, Listed Spelling items spelled ∧ chars = spelled ++ closing :: rest := by
  induction fuel generalizing chars items with
  | zero =>
      cases read
  | succ fuel inductionHypothesis =>
      simp only [elements, Option.bind_eq_bind, Option.bind_eq_some_iff] at read
      obtain ⟨⟨item, behind⟩, readFirst, read⟩ := read
      obtain ⟨before, spelled, blankBefore, isSpelled, rfl⟩ := reads.sound readFirst
      obtain ⟨after, blankAfter, isBehind⟩ := exists_blanks behind
      split at read
      · rename_i next isNext
        simp only [Option.bind_eq_some_iff] at read
        obtain ⟨⟨others, last⟩, readOthers, same⟩ := read
        cases same
        obtain ⟨spelledOthers, listed, rfl⟩ := inductionHypothesis readOthers
        rw [isNext] at isBehind
        exact ⟨_, .next blankBefore isSpelled blankAfter listed, by simp [isBehind]⟩
      · rename_i char next _ isNext
        split at read
        · rename_i isClosing
          cases read
          rw [isNext, isClosing] at isBehind
          exact ⟨_, .last blankBefore isSpelled blankAfter, by simp [isBehind]⟩
        · cases read
      · cases read

theorem Listed.exists_begin
    (begins : BeginsAlways Spelling)
    {items : List α}
    {chars : List Char}
    (listed : Listed Spelling items chars) :
    ∃ before first others, AreBlank before ∧ isBlank first = false ∧ ¬ Closes first ∧
      chars = before ++ first :: others := by
  cases listed with
  | last blankBefore spelled =>
      obtain ⟨first, others, rfl, notBlank, notClosing⟩ := begins _ _ spelled
      exact ⟨_, first, _, blankBefore, notBlank, notClosing, rfl⟩
  | next blankBefore spelled =>
      obtain ⟨first, others, rfl, notBlank, notClosing⟩ := begins _ _ spelled
      exact ⟨_, first, _, blankBefore, notBlank, notClosing, rfl⟩

/-- A container is read up to the bracket that closes it. -/
theorem container_append
    (reads : Reads Spelling element length)
    (closes : Closes closing)
    {items : List α}
    {chars : List Char}
    (fills : Fills Spelling items chars)
    (short : chars.length ≤ length)
    (rest : List Char) :
    container element closing (chars ++ closing :: rest) = some (items, rest) := by
  cases fills with
  | nothing areBlank =>
      rw [container, skipBlank_append areBlank, skipBlank_cons closes.isBlank_eq_false]
      simp only [if_true]
  | items listed =>
      obtain ⟨before, first, others, blankBefore, notBlank, notClosing, isChars⟩ :=
        listed.exists_begin reads.begins
      have isFirst :
          skipBlank (chars ++ closing :: rest) = first :: (others ++ closing :: rest) := by
        rw [isChars, List.append_assoc, List.cons_append, skipBlank_append blankBefore,
          skipBlank_cons notBlank]
      have notLast : first ≠ closing := by
        rintro rfl
        exact notClosing closes
      rw [container, isFirst]
      simp only [if_neg notLast]
      exact elements_append reads closes listed short rest (by simp)

theorem fills_of_container
    (reads : Reads Spelling element length)
    {chars rest : List Char}
    {items : List α}
    (read : container element closing chars = some (items, rest)) :
    ∃ spelled, Fills Spelling items spelled ∧ chars = spelled ++ closing :: rest := by
  obtain ⟨blanks, areBlank, isText⟩ := exists_blanks chars
  unfold container at read
  split at read
  · cases read
  · rename_i first others isFirst
    split at read
    · rename_i isClosing
      cases read
      rw [isFirst, isClosing] at isText
      exact ⟨blanks, .nothing areBlank, isText⟩
    · obtain ⟨spelled, listed, same⟩ := listed_of_elements reads read
      exact ⟨spelled, .items listed, same⟩

end Container

/-! ## Reading values -/

/-- What begins like a numeral begins like nothing else. -/
theorem ne_of_begins
    {first other : Char}
    (begins : first = '-' ∨ first.isDigit)
    (notMinus : other ≠ '-')
    (notDigit : other.isDigit = false) :
    first ≠ other := by
  rintro rfl
  rcases begins with isMinus | isDigit
  · exact notMinus isMinus
  · rw [notDigit] at isDigit
    cases isDigit

theorem beginsAlways_spells : BeginsAlways Spells := by
  intro written chars spelled
  cases spelled with
  | number isNumeral =>
      obtain ⟨first, rest, rfl, begins⟩ := isNumeral.exists_begin
      refine ⟨first, rest, rfl, ?_, ?_⟩
      · simp [isBlank, ne_of_begins begins]
      · simp [Closes, ne_of_begins begins]
  | _ =>
      refine ⟨_, _, rfl, rfl, ?_⟩
      simp [Closes]

theorem beginsAlways_spellsMember
    (Spelling : Written → List Char → Prop) :
    BeginsAlways (SpellsMember Spelling) := by
  rintro _ _ ⟨⟩
  refine ⟨_, _, rfl, rfl, ?_⟩
  simp [Closes]

theorem reads_member
    {reader : Parse Written}
    {length : Nat}
    (reads : Reads Spells reader length) :
    Reads (SpellsMember Spells) (member reader) length where
  begins := beginsAlways_spellsMember Spells
  sound := by
    intro chars rest item read
    obtain ⟨blanks, areBlank, isText⟩ := exists_blanks chars
    unfold member at read
    split at read
    · rename_i behind isQuote
      simp only [Option.bind_eq_bind, Option.bind_eq_some_iff] at read
      obtain ⟨⟨key, afterKey⟩, readKey, read⟩ := read
      obtain ⟨isBody, rfl⟩ := isStringBody_of_stringRest readKey
      obtain ⟨before, blankBefore, isAfterKey⟩ := exists_blanks afterKey
      split at read
      · rename_i afterColon isColon
        simp only [Option.bind_eq_some_iff] at read
        obtain ⟨⟨content, last⟩, readContent, same⟩ := read
        cases same
        obtain ⟨after, spelled, blankAfter, isSpelled, rfl⟩ := reads.sound readContent
        rw [isColon] at isAfterKey
        rw [isQuote, isAfterKey] at isText
        exact ⟨blanks, _, areBlank, .intro isBody blankBefore blankAfter isSpelled, by
          simp [isText]⟩
      · cases read
    · cases read
  complete := by
    intro before spelled rest item areBlank isSpelled short ended
    cases isSpelled with
    | @intro key between after chars content isBody blankBetween blankAfter isSpelled =>
        simp only [List.length_cons, List.length_append] at short
        have readContent := reads.complete blankAfter isSpelled (by omega) ended
        have isQuote (behind : List Char) :
            skipBlank (before ++ '"' :: behind) = '"' :: behind := by
          rw [skipBlank_append areBlank, skipBlank_cons rfl]
        have isColon (behind : List Char) :
            skipBlank (between ++ ':' :: behind) = ':' :: behind := by
          rw [skipBlank_append blankBetween, skipBlank_cons rfl]
        simp only [List.cons_append, List.append_assoc]
        rw [member, isQuote]
        simp only [stringRest_of_isStringBody isBody, Option.bind_eq_bind, Option.bind_some,
          isColon, readContent]
        rfl

theorem scalar_append
    {numeral : Numeral}
    {chars rest : List Char}
    (isNumeral : SpellsNumeral numeral chars)
    (ended : EndsNumeral rest) :
    scalar (chars ++ rest) = some (.number numeral, rest) := by
  have read := numeral_append isNumeral ended
  obtain ⟨first, others, rfl, begins⟩ := isNumeral.exists_begin
  unfold scalar
  split
  · rename_i same
    exact absurd (List.cons.inj same).1 (ne_of_begins begins (by decide) (by decide))
  · rename_i same
    exact absurd (List.cons.inj same).1 (ne_of_begins begins (by decide) (by decide))
  · rename_i same
    exact absurd (List.cons.inj same).1 (ne_of_begins begins (by decide) (by decide))
  · rw [read]
    rfl

theorem spells_of_scalar
    {chars rest : List Char}
    {written : Written}
    (read : scalar chars = some (written, rest)) :
    ∃ spelled, Spells written spelled ∧ chars = spelled ++ rest := by
  unfold scalar at read
  split at read
  · cases read
    exact ⟨_, .null, rfl⟩
  · cases read
    exact ⟨_, .true, rfl⟩
  · cases read
    exact ⟨_, .false, rfl⟩
  · simp only [Option.bind_eq_bind, Option.bind_eq_some_iff] at read
    obtain ⟨⟨numeral, last⟩, readNumeral, same⟩ := read
    cases same
    obtain ⟨spelled, isNumeral, rfl⟩ := spellsNumeral_of_numeral readNumeral
    exact ⟨spelled, .number isNumeral, rfl⟩

theorem value_eq_scalar
    (levels : Nat)
    {chars : List Char}
    (others : ∀ char ∈ (skipBlank chars).head?, char ≠ '[' ∧ char ≠ '{' ∧ char ≠ '"') :
    value levels chars = scalar (skipBlank chars) := by
  unfold value
  split
  · rename_i isArray
    exact absurd rfl (others '[' (by rw [isArray]; rfl)).1
  · rename_i isObject
    exact absurd rfl (others '{' (by rw [isObject]; rfl)).2.1
  · rename_i isString
    exact absurd rfl (others '"' (by rw [isString]; rfl)).2.2
  · rfl

section Value

variable
  {levels : Nat}
  (below : ∀ less, levels = less + 1 → Reads Spells (value less) less)

include below

/-- What is read as a value spells it, if that holds of the values inside. -/
theorem spells_of_value
    {chars rest : List Char}
    {written : Written}
    (read : value levels chars = some (written, rest)) :
    ∃ before spelled, AreBlank before ∧ Spells written spelled ∧
      chars = before ++ (spelled ++ rest) := by
  obtain ⟨before, blankBefore, isText⟩ := exists_blanks chars
  refine ⟨before, ?_⟩
  unfold value at read
  split at read
  · rename_i less behind isArray
    simp only [Option.bind_eq_bind, Option.bind_eq_some_iff] at read
    obtain ⟨⟨items, last⟩, readItems, same⟩ := read
    cases same
    obtain ⟨spelled, fills, rfl⟩ := fills_of_container (below less rfl) readItems
    exact ⟨_, blankBefore, .array fills, by rw [isText, isArray]; simp⟩
  · rename_i less behind isObject
    simp only [Option.bind_eq_bind, Option.bind_eq_some_iff] at read
    obtain ⟨⟨members, last⟩, readMembers, same⟩ := read
    cases same
    obtain ⟨spelled, fills, rfl⟩ := fills_of_container (reads_member (below less rfl)) readMembers
    exact ⟨_, blankBefore, .object fills, by rw [isText, isObject]; simp⟩
  · rename_i behind isString
    simp only [Option.bind_eq_bind, Option.bind_eq_some_iff] at read
    obtain ⟨⟨body, last⟩, readBody, same⟩ := read
    cases same
    obtain ⟨isBody, rfl⟩ := isStringBody_of_stringRest readBody
    exact ⟨_, blankBefore, .string isBody, by rw [isText, isString]; simp⟩
  · obtain ⟨spelled, isSpelled, same⟩ := spells_of_scalar read
    exact ⟨spelled, blankBefore, isSpelled, by rw [isText, same]⟩

/-- A spelled value is read, if that holds of the shorter ones inside. -/
theorem value_append
    {before spelled rest : List Char}
    {written : Written}
    (blankBefore : AreBlank before)
    (isSpelled : Spells written spelled)
    (short : spelled.length ≤ levels)
    (ended : EndsNumeral rest) :
    value levels (before ++ (spelled ++ rest)) = some (written, rest) := by
  have skipped : skipBlank (before ++ (spelled ++ rest)) = spelled ++ rest := by
    obtain ⟨first, others, rfl, notBlank, -⟩ := beginsAlways_spells _ _ isSpelled
    rw [skipBlank_append blankBefore, List.cons_append, skipBlank_cons notBlank]
  cases isSpelled with
  | null =>
      rw [value_eq_scalar _ (by rw [skipped]; simp), skipped]
      rfl
  | true =>
      rw [value_eq_scalar _ (by rw [skipped]; simp), skipped]
      rfl
  | false =>
      rw [value_eq_scalar _ (by rw [skipped]; simp), skipped]
      rfl
  | number isNumeral =>
      obtain ⟨first, others, rfl, begins⟩ := isNumeral.exists_begin
      have isScalar : ∀ char ∈ (first :: others ++ rest).head?,
          char ≠ '[' ∧ char ≠ '{' ∧ char ≠ '"' := by
        rintro _ ⟨⟩
        exact ⟨ne_of_begins begins (by decide) (by decide),
          ne_of_begins begins (by decide) (by decide),
          ne_of_begins begins (by decide) (by decide)⟩
      rw [value_eq_scalar _ (by rwa [skipped]), skipped, scalar_append isNumeral ended]
  | string isBody =>
      simp only [List.cons_append, List.append_assoc, List.nil_append] at skipped ⊢
      rw [value.eq_def]
      cases levels <;> simp [skipped, stringRest_of_isStringBody isBody]
  | array fills =>
      simp only [List.length_cons, List.length_append] at short
      obtain ⟨less, rfl⟩ : ∃ less, levels = less + 1 := ⟨levels - 1, by omega⟩
      have read := container_append (below less rfl) (.inl rfl) fills (by omega) rest
      simp only [List.cons_append, List.append_assoc, List.nil_append] at skipped ⊢
      rw [value.eq_def]
      simp [skipped, read]
  | object fills =>
      simp only [List.length_cons, List.length_append] at short
      obtain ⟨less, rfl⟩ : ∃ less, levels = less + 1 := ⟨levels - 1, by omega⟩
      have read :=
        container_append (reads_member (below less rfl)) (.inr rfl) fills (by omega) rest
      simp only [List.cons_append, List.append_assoc, List.nil_append] at skipped ⊢
      rw [value.eq_def]
      simp [skipped, read]

end Value

/-- Values of at most as many characters as there are levels are read, however they are nested. -/
theorem reads_value (levels : Nat) : Reads Spells (value levels) levels := by
  induction levels with
  | zero =>
      have below (less : Nat) (same : 0 = less + 1) : Reads Spells (value less) less := by
        cases same
      exact ⟨beginsAlways_spells, spells_of_value below, value_append below⟩
  | succ levels inductionHypothesis =>
      have below (less : Nat) (same : levels + 1 = less + 1) : Reads Spells (value less) less := by
        cases same
        exact inductionHypothesis
      exact ⟨beginsAlways_spells, spells_of_value below, value_append below⟩

/-- A text is read as a value exactly if it spells it. -/
theorem Written.parse?_eq_some_iff
    {text : String}
    {written : Written} :
    parse? text = some written ↔ written.IsIn text := by
  have reads := reads_value text.length
  simp only [parse?, Option.bind_eq_bind, Option.bind_eq_some_iff]
  constructor
  · rintro ⟨⟨found, rest⟩, read, accepted⟩
    obtain ⟨before, spelled, blankBefore, isSpelled, isText⟩ := reads.sound read
    split at accepted
    · rename_i isLast
      cases accepted
      exact ⟨before, spelled, rest, blankBefore, isSpelled,
        skipBlank_eq_nil_iff.mp (List.isEmpty_iff.mp isLast), isText⟩
    · cases accepted
  · rintro ⟨before, spelled, after, blankBefore, isSpelled, blankAfter, isText⟩
    have short : spelled.length ≤ text.length := by
      rw [← String.length_toList, isText]
      simp only [List.length_append]
      omega
    have ended : EndsNumeral after := by
      have nothingElse : EndsNumeral [] := by
        simp [EndsNumeral]
      simpa using endsNumeral_of_blank blankAfter nothingElse
    refine ⟨(written, after), ?_, ?_⟩
    · rw [isText]
      exact reads.complete blankBefore isSpelled short ended
    · simp [skipBlank_eq_nil_iff.mpr blankAfter]

end GrpcDiscovery.Json
