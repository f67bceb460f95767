import GrpcDiscovery.Url.Reader

namespace GrpcDiscovery

/-!
# Segments at the end of a path

Dots take back segments before them, drive letters are rewritten where a path begins,
and empty segments are dropped there. So ordinary segments at the end of a path, which
say nothing of the kind and need no encoding, stay as they are at its end, whatever
stands before them and under every scheme.
-/

/-! ## Splitting at a separator -/

namespace Split

variable {isSeparator : Char → Bool}

theorem on_ne_nil
    (isSeparator : Char → Bool)
    (chars : List Char) :
    on isSeparator chars ≠ [] := by
  cases chars with
  | nil =>
      simp [on]
  | cons char rest =>
      unfold on
      split
      next =>
          simp
      next =>
          split <;> simp

theorem on_append_separator
    {separator : Char}
    (separates : isSeparator separator)
    (front rest : List Char) :
    on isSeparator (front ++ separator :: rest) = on isSeparator front ++ on isSeparator rest := by
  induction front with
  | nil =>
      simp [on, separates]
  | cons char front inductionHypothesis =>
      obtain ⟨piece, others, isPieces⟩ :=
        List.exists_cons_of_ne_nil (on_ne_nil isSeparator front)
      simp only [List.cons_append, on, inductionHypothesis, isPieces]
      split <;> rfl

theorem on_of_none
    {chars : List Char}
    (noSeparator : ∀ char ∈ chars, isSeparator char = false) :
    on isSeparator chars = [chars] := by
  induction chars with
  | nil =>
      rfl
  | cons char rest inductionHypothesis =>
      have restWhole := inductionHypothesis fun other isOther =>
        noSeparator other (List.mem_cons_of_mem char isOther)
      simp [on, noSeparator char List.mem_cons_self, restWhole]

end Split

namespace UrlPath

/-! ## Ordinary segments -/

/-- A segment that is kept and written as it is, wherever it stands. -/
structure IsOrdinary (segment : List Char) : Prop where
  nonempty : segment ≠ []
  notSingleDot : isSingleDot segment = false
  notDoubleDot : isDoubleDot segment = false
  noSlash : ∀ char ∈ segment, Url.isSlash .file char = false
  noDriveSign : ∀ char ∈ segment, char ≠ ':' ∧ char ≠ '|'
  unencoded : ∀ char ∈ segment, char.toNat < 0x80 ∧ Percent.pathSet char = false

/-- Whether a segment is ordinary. -/
def isOrdinary (segment : List Char) : Bool :=
  !segment.isEmpty && !isSingleDot segment && !isDoubleDot segment &&
    segment.all fun char =>
      !Url.isSlash .file char && char != ':' && char != '|' &&
        decide (char.toNat < 0x80) && !Percent.pathSet char

theorem isOrdinary_iff
    (segment : List Char) :
    isOrdinary segment ↔ IsOrdinary segment := by
  simp only [isOrdinary, Bool.and_eq_true, Bool.not_eq_true', List.all_eq_true,
    List.isEmpty_eq_false_iff, bne_iff_ne, decide_eq_true_eq]
  constructor
  · rintro ⟨⟨⟨nonempty, notSingleDot⟩, notDoubleDot⟩, plain⟩
    exact {
      nonempty := nonempty
      notSingleDot := notSingleDot
      notDoubleDot := notDoubleDot
      noSlash := fun char isChar => (plain char isChar).1.1.1.1
      noDriveSign := fun char isChar =>
        ⟨(plain char isChar).1.1.1.2, (plain char isChar).1.1.2⟩
      unencoded := fun char isChar => ⟨(plain char isChar).1.2, (plain char isChar).2⟩
    }
  · rintro ⟨nonempty, notSingleDot, notDoubleDot, noSlash, noDriveSign, unencoded⟩
    exact ⟨⟨⟨nonempty, notSingleDot⟩, notDoubleDot⟩, fun char isChar =>
      ⟨⟨⟨⟨noSlash char isChar, (noDriveSign char isChar).1⟩, (noDriveSign char isChar).2⟩,
        (unencoded char isChar).1⟩, (unencoded char isChar).2⟩⟩

instance (segment : List Char) : Decidable (IsOrdinary segment) :=
  decidable_of_iff _ (isOrdinary_iff segment)

/-- Segments, each after a slash. -/
def slashed (segments : List (List Char)) : List Char :=
  segments.flatMap ('/' :: ·)

variable {ending segments : List (List Char)}

theorem unencoded_slashed
    (ordinary : ∀ segment ∈ ending, IsOrdinary segment) :
    ∀ char ∈ slashed ending, char.toNat < 0x80 ∧ Percent.pathSet char = false := by
  intro char isChar
  obtain ⟨segment, isSegment, isInSegment⟩ := List.mem_flatMap.mp isChar
  cases List.mem_cons.mp isInSegment with
  | inl isSlash =>
      subst isSlash
      decide
  | inr isInside =>
      exact (ordinary segment isSegment).unencoded char isInside

/-! ## Segments that are kept -/

theorem settle_ordinary
    (ordinary : ∀ segment ∈ ending, IsOrdinary segment)
    (kept : List (List Char)) :
    settle kept ending = ending.reverse ++ kept := by
  induction ending generalizing kept with
  | nil =>
      rfl
  | cons segment rest inductionHypothesis =>
      have isOrdinary := ordinary segment List.mem_cons_self
      simp [settle, isOrdinary.notSingleDot, isOrdinary.notDoubleDot,
        inductionHypothesis fun other isOther => ordinary other (List.mem_cons_of_mem _ isOther)]

theorem settle_append
    (ordinary : ∀ segment ∈ ending, IsOrdinary segment)
    (earlier kept : List (List Char)) :
    ∃ below, settle kept (earlier ++ ending) = ending.reverse ++ below := by
  induction earlier generalizing kept with
  | nil =>
      exact ⟨kept, settle_ordinary ordinary kept⟩
  | cons segment rest inductionHypothesis =>
      simp only [List.cons_append, settle]
      split
      next =>
          exact inductionHypothesis _
      next =>
          split
          next =>
              exact inductionHypothesis _
          next =>
              exact inductionHypothesis _

theorem suffix_settled
    (ordinary : ∀ segment ∈ ending, IsOrdinary segment)
    (isSuffix : ending <:+ segments) :
    ending <:+ settled segments := by
  obtain ⟨earlier, rfl⟩ := isSuffix
  obtain ⟨below, isSettled⟩ := settle_append ordinary earlier []
  exact ⟨below.reverse, by simp [settled, isSettled]⟩

/-- A change that concerns the first segment only, and only if that is not ordinary. -/
structure ChangesFirstOnly (change : List (List Char) → List (List Char)) : Prop where
  nil : change [] = []
  ofOrdinary :
    ∀ {segment}, IsOrdinary segment → ∀ rest, change (segment :: rest) = segment :: rest
  keepsRest : ∀ first rest, rest <:+ change (first :: rest)

theorem ChangesFirstOnly.suffix
    {change : List (List Char) → List (List Char)}
    (changesFirstOnly : ChangesFirstOnly change)
    (ordinary : ∀ segment ∈ ending, IsOrdinary segment)
    (isSuffix : ending <:+ segments) :
    ending <:+ change segments := by
  cases segments with
  | nil =>
      rwa [changesFirstOnly.nil]
  | cons first rest =>
      cases List.suffix_cons_iff.mp isSuffix with
      | inl isWhole =>
          subst isWhole
          simp only [changesFirstOnly.ofOrdinary (ordinary first List.mem_cons_self),
            List.suffix_rfl]
      | inr isSuffixOfRest =>
          exact isSuffixOfRest.trans (changesFirstOnly.keepsRest first rest)

theorem changesFirstOnly_separateDrive : ChangesFirstOnly separateDrive where
  nil := rfl
  ofOrdinary := by
    intro segment ordinary rest
    unfold separateDrive
    split
    next letter char more others isSegment =>
        obtain ⟨rfl, rfl⟩ := List.cons_eq_cons.mp isSegment
        exact absurd rfl (ordinary.noDriveSign ':' (by simp)).1
    next =>
        rfl
  keepsRest := by
    intro first rest
    unfold separateDrive
    split
    next letter char more others isFirst =>
        obtain ⟨-, rfl⟩ := List.cons_eq_cons.mp isFirst
        split
        next =>
            exact ⟨[_, _], rfl⟩
        next =>
            exact List.suffix_cons _ _
    next =>
        exact List.suffix_cons _ _

theorem changesFirstOnly_normalizeDrive : ChangesFirstOnly normalizeDrive where
  nil := rfl
  ofOrdinary := by
    intro segment ordinary rest
    unfold normalizeDrive
    split
    next letter others isSegment =>
        obtain ⟨rfl, rfl⟩ := List.cons_eq_cons.mp isSegment
        exact absurd rfl (ordinary.noDriveSign '|' (by simp)).2
    next =>
        rfl
  keepsRest := by
    intro first rest
    unfold normalizeDrive
    split
    next letter others isFirst =>
        obtain ⟨-, rfl⟩ := List.cons_eq_cons.mp isFirst
        split
        next =>
            exact List.suffix_cons _ _
        next =>
            exact List.suffix_cons _ _
    next =>
        exact List.suffix_cons _ _

theorem suffix_dropLeadingEmpty
    (ordinary : ∀ segment ∈ ending, IsOrdinary segment)
    (isSuffix : ending <:+ segments) :
    ending <:+ dropLeadingEmpty segments := by
  obtain ⟨earlier, rfl⟩ := isSuffix
  have kept : ending.dropWhile List.isEmpty = ending := by
    cases ending with
    | nil =>
        rfl
    | cons segment rest =>
        simp [(ordinary segment List.mem_cons_self).nonempty]
  have isSuffix : ending <:+ (earlier ++ ending).dropWhile List.isEmpty := by
    rw [List.dropWhile_append]
    split
    next =>
        simp only [kept, List.suffix_rfl]
    next =>
        exact List.suffix_append _ _
  unfold dropLeadingEmpty
  split
  next isNil =>
      rw [isNil, List.suffix_nil] at isSuffix
      rw [isSuffix]
      exact List.nil_suffix
  next =>
      exact isSuffix

theorem suffix_fileSegments
    (ordinary : ∀ segment ∈ ending, IsOrdinary segment)
    (isSuffix : ending <:+ segments) :
    ending <:+ fileSegments segments :=
  suffix_dropLeadingEmpty ordinary
    (changesFirstOnly_normalizeDrive.suffix ordinary
      (suffix_settled ordinary
        (changesFirstOnly_separateDrive.suffix ordinary isSuffix)))

/-! ## Characters that are not encoded -/

section Unencoded

variable
  {char : Char}
  (unencoded : Percent.pathSet char = false)

include unencoded

theorem controls_eq_false : Percent.controls char = false := by
  simp only [Percent.pathSet, Percent.fragmentSet, Percent.also, Bool.or_eq_false_iff]
    at unencoded
  exact unencoded.1.1

theorem endsPath_eq_false : Url.endsPath char = false := by
  have notMark : char ≠ '#' ∧ char ≠ '?' := by
    constructor <;> rintro rfl <;> cases unencoded
  simp [Url.endsPath, notMark]

end Unencoded

theorem encode_append
    (set : Percent.EncodeSet)
    (front rest : List Char) :
    Percent.encode set (front ++ rest) = Percent.encode set front ++ Percent.encode set rest := by
  simp [Percent.encode]

theorem encode_of_unencoded
    {set : Percent.EncodeSet}
    {chars : List Char}
    (unencoded : ∀ char ∈ chars, char.toNat < 0x80 ∧ set char = false) :
    Percent.encode set chars = String.ofList chars := by
  unfold Percent.encode
  congr 1
  induction chars with
  | nil =>
      rfl
  | cons char rest inductionHypothesis =>
      obtain ⟨isAscii, notInSet⟩ := unencoded char List.mem_cons_self
      have restKept := inductionHypothesis fun other isOther =>
        unencoded other (List.mem_cons_of_mem char isOther)
      simp [Percent.encodeChar, isAscii, notInSet, restKept]

theorem text_ofSegments_append
    (earlier later : List (List Char)) :
    (ofSegments (earlier ++ later)).text = (ofSegments earlier).text ++ (ofSegments later).text := by
  simp [ofSegments, text]

theorem text_ofSegments_ordinary
    (ordinary : ∀ segment ∈ ending, IsOrdinary segment) :
    (ofSegments ending).text = String.ofList (slashed ending) := by
  induction ending with
  | nil =>
      rfl
  | cons segment rest inductionHypothesis =>
      have firstText : (ofSegments [segment]).text = String.ofList ('/' :: segment) := by
        simp [ofSegments, text,
          encode_of_unencoded (ordinary segment List.mem_cons_self).unencoded]
      rw [← List.singleton_append, text_ofSegments_append, firstText,
        inductionHypothesis fun other isOther => ordinary other (List.mem_cons_of_mem _ isOther),
        ← String.ofList_append]
      rfl

theorem text_ofSegments_of_suffix
    (ordinary : ∀ segment ∈ ending, IsOrdinary segment)
    (isSuffix : ending <:+ segments) :
    ∃ above, (ofSegments segments).text = above ++ String.ofList (slashed ending) := by
  obtain ⟨earlier, rfl⟩ := isSuffix
  exact ⟨_, by rw [text_ofSegments_append, text_ofSegments_ordinary ordinary]⟩

end UrlPath

/-! ## Paths of URLs -/

namespace Url

variable {ending : List (List Char)}

@[simp]
theorem isSlash_slash (kind : SchemeKind) : isSlash kind '/' = true := by
  simp [isSlash]

theorem isSlash_eq_false
    {char : Char}
    (noSlash : isSlash .file char = false)
    (kind : SchemeKind) :
    isSlash kind char = false := by
  simp only [isSlash, SchemeKind.isSpecial, Bool.true_and, Bool.or_eq_false_iff] at noSlash
  simp [isSlash, noSlash.1, noSlash.2]

theorem on_slashed
    (kind : SchemeKind)
    {segment : List Char}
    (ordinary : ∀ other ∈ segment :: ending, UrlPath.IsOrdinary other) :
    Split.on (isSlash kind) (segment ++ UrlPath.slashed ending) = segment :: ending := by
  induction ending generalizing segment with
  | nil =>
      have isWhole := Split.on_of_none fun char isChar =>
        isSlash_eq_false ((ordinary segment List.mem_cons_self).noSlash char isChar) kind
      simpa [UrlPath.slashed] using isWhole
  | cons next rest inductionHypothesis =>
      have isWhole := Split.on_of_none fun char isChar =>
        isSlash_eq_false ((ordinary segment List.mem_cons_self).noSlash char isChar) kind
      have restSplit := inductionHypothesis fun other isOther =>
        ordinary other (List.mem_cons_of_mem segment isOther)
      change Split.on (isSlash kind) (segment ++ '/' :: (next ++ UrlPath.slashed rest)) = _
      rw [Split.on_append_separator (isSlash_slash kind), isWhole, restSplit]
      rfl

theorem suffix_pathSegments
    (kind : SchemeKind)
    (ordinary : ∀ segment ∈ ending, UrlPath.IsOrdinary segment)
    (left : List Char) :
    ending <:+ pathSegments kind (left ++ UrlPath.slashed ending) := by
  cases ending with
  | nil =>
      exact List.nil_suffix
  | cons segment rest =>
      change _ <:+ pathSegments kind (left ++ '/' :: (segment ++ UrlPath.slashed rest))
      have isSlashed := isSlash_slash kind
      cases left with
      | nil =>
          simp only [List.nil_append, pathSegments, if_pos isSlashed, on_slashed kind ordinary]
          exact List.suffix_rfl
      | cons first left =>
          simp only [List.cons_append, pathSegments]
          split
          next =>
              rw [Split.on_append_separator isSlashed, on_slashed kind ordinary]
              exact List.suffix_append _ _
          next =>
              rw [← List.cons_append, Split.on_append_separator isSlashed,
                on_slashed kind ordinary]
              exact List.suffix_append _ _

/-- The path that characters stand for, with or without an authority before them. -/
def pathOf
    (kind : SchemeKind)
    (hasAuthority : Bool)
    (chars : List Char) :
    UrlPath :=
  match kind with
  | .file =>
      .ofSegments (UrlPath.fileSegments (pathSegments .file chars))
  | kind =>
      if hasAuthority then
        .ofSegments
          (if chars.isEmpty ∧ ¬ kind.isSpecial then
            []
          else
            UrlPath.settled (pathSegments kind chars))
      else if chars.head? = some '/' then
        .ofSegments (UrlPath.settled (pathSegments kind chars))
      else
        .unstructured (Percent.encode Percent.controls chars)

/-- Under every scheme the text of a path ends as its characters do, in ordinary segments. -/
theorem pathOf_endsWith
    (kind : SchemeKind)
    (hasAuthority : Bool)
    (ordinary : ∀ segment ∈ ending, UrlPath.IsOrdinary segment)
    (nonempty : ending ≠ [])
    (left : List Char) :
    ∃ above,
      (pathOf kind hasAuthority (left ++ UrlPath.slashed ending)).text =
        above ++ String.ofList (UrlPath.slashed ending) := by
  have isSuffix := suffix_pathSegments kind ordinary left
  have settledText := UrlPath.text_ofSegments_of_suffix ordinary
    (UrlPath.suffix_settled ordinary isSuffix)
  have notEmpty : (left ++ UrlPath.slashed ending).isEmpty = false := by
    cases ending with
    | nil =>
        exact absurd rfl nonempty
    | cons segment rest =>
        simp [UrlPath.slashed]
  have unstructuredText :
      Percent.encode Percent.controls (left ++ UrlPath.slashed ending) =
        Percent.encode Percent.controls left ++ String.ofList (UrlPath.slashed ending) := by
    rw [UrlPath.encode_append, UrlPath.encode_of_unencoded fun char isChar =>
      let ⟨isAscii, unencoded⟩ := UrlPath.unencoded_slashed ordinary char isChar
      ⟨isAscii, UrlPath.controls_eq_false unencoded⟩]
  unfold pathOf
  split
  next =>
      exact UrlPath.text_ofSegments_of_suffix ordinary
        (UrlPath.suffix_fileSegments ordinary isSuffix)
  next =>
      split
      next =>
          rw [if_neg (by simp [notEmpty])]
          exact settledText
      next =>
          split
          next =>
              exact settledText
          next =>
              exact ⟨_, unstructuredText⟩

end Url

end GrpcDiscovery
