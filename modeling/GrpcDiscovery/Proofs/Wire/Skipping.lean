import GrpcDiscovery.Proofs.Wire.Groups
import GrpcDiscovery.Wire.Step

namespace GrpcDiscovery.Wire

/-!
# Skipping a group

What a cursor does that is told to skip a group: it accepts what has the body of
the group ahead, and stands behind the body then. Of the errors, two say how groups
nest. No reader of integers, tags or other payloads raises these, and so each tells
exactly what was met, and with which groups open.
-/

/-! ## Errors about groups -/

/-- Whether an error says how groups nest. -/
def isAboutGroups : WireError → Bool
  | .unexpectedEndGroup =>
      true
  | .recursionLimitExceeded _ =>
      true
  | _ =>
      false

/-- A reader whose errors say nothing about groups. -/
def IgnoresGroups
    {α : Type}
    (reader : Reader α) :
    Prop :=
  ∀ bytes cause rest, reader bytes = .error cause rest → isAboutGroups cause = false

section IgnoresGroups

variable {α β : Type}

theorem ignoresGroups_pure (value : α) :
    IgnoresGroups (pure value) := by
  intro bytes cause rest failed
  cases failed

theorem ignoresGroups_throw
    {cause : WireError}
    (notAboutGroups : isAboutGroups cause = false) :
    IgnoresGroups (throw cause : Reader α) := by
  intro bytes _ rest failed
  cases failed
  exact notAboutGroups

theorem IgnoresGroups.bind
    {reader : Reader α}
    {next : α → Reader β}
    (ignores : IgnoresGroups reader)
    (nextIgnores : ∀ value, IgnoresGroups (next value)) :
    IgnoresGroups (reader >>= next) := by
  intro bytes cause rest failed
  change EStateM.bind reader next bytes = .error cause rest at failed
  rw [EStateM.bind] at failed
  split at failed
  · exact nextIgnores _ _ _ _ failed
  · rename_i readerFailed
    cases failed
    exact ignores _ _ _ readerFailed

theorem ignoresGroups_readVarint :
    IgnoresGroups readVarint := by
  intro bytes cause rest failed
  rw [eq_malformedVarint_of_readVarintWithin failed]
  rfl

theorem ignoresGroups_readBytes (count : Nat) :
    IgnoresGroups (readBytes count) := by
  intro bytes cause rest failed
  rw [readBytes] at failed
  split at failed
  · cases failed
  · cases failed
    rfl

theorem ignoresGroups_readTag :
    IgnoresGroups readTag := by
  refine ignoresGroups_readVarint.bind fun key => ?_
  dsimp only
  split
  · exact ignoresGroups_pure _
  · exact ignoresGroups_throw rfl

/-- A payload that is no group fails for reasons of its own. -/
theorem ignoresGroups_readScalarPayload
    {wireType : WireType}
    (noStart : wireType ≠ .startGroup)
    (noEnd : wireType ≠ .endGroup) :
    IgnoresGroups (readScalarPayload wireType) := by
  cases wireType with
  | varint =>
      exact ignoresGroups_readVarint.bind fun _ => ignoresGroups_pure _
  | fixed64 =>
      exact ((ignoresGroups_readBytes 8).bind fun _ => ignoresGroups_pure _).bind
        fun _ => ignoresGroups_pure _
  | lengthDelimited =>
      exact (ignoresGroups_readVarint.bind fun _ => ignoresGroups_readBytes _).bind
        fun _ => ignoresGroups_pure _
  | fixed32 =>
      exact ((ignoresGroups_readBytes 4).bind fun _ => ignoresGroups_pure _).bind
        fun _ => ignoresGroups_pure _
  | startGroup =>
      exact absurd rfl noStart
  | endGroup =>
      exact absurd rfl noEnd

end IgnoresGroups

/-! ## A group at a position of a buffer -/

/-- A cursor at a position of a buffer. -/
def Cursor.ofPosition
    (buffer : Bytes)
    (position : Nat) :
    Cursor :=
  ⟨buffer, buffer.drop position⟩

/-- A cursor skips a group by reading over it. -/
theorem Cursor.advance_skip_startGroup
    (cursor : Cursor)
    (number : UInt32) :
    cursor.advance (.skip ⟨number, .startGroup⟩) =
      match skipGroups [number] cursor.rest with
      | .ok _ rest =>
          (.ok .skipped, { cursor with rest := rest })
      | .error cause rest =>
          (.error cause, { cursor with rest := rest }) := by
  have read :
      (Step.skip ⟨number, .startGroup⟩).reader cursor.rest =
        match skipGroups [number] cursor.rest with
        | .ok _ rest =>
            .ok .skipped rest
        | .error cause rest =>
            .error cause rest := by
    simp only [Step.reader, skipPayload, readPayload, bind, EStateM.bind]
    cases skipGroups [number] cursor.rest <;> rfl
  rw [Cursor.advance, read]
  cases skipGroups [number] cursor.rest <;> rfl

section Position

variable {buffer : Bytes} {position : Nat} {number : UInt32}

/-- Behind a prefix that is not empty, a cursor is as far as the prefix is long. -/
theorem position_ofPosition
    {taken : Bytes}
    (isPrefix : taken <+: buffer.drop position)
    (notEmpty : 0 < taken.length) :
    (Cursor.ofPosition buffer (position + taken.length)).position = position + taken.length := by
  have within := isPrefix.length_le
  rw [List.length_drop] at within
  change buffer.length - (buffer.drop (position + taken.length)).length = _
  rw [List.length_drop]
  omega

theorem advance_skip_startGroup_of_isGroupBody
    {body : Bytes}
    (isPrefix : body <+: buffer.drop position)
    (isBody : IsGroupBody nestingLimit number body) :
    (Cursor.ofPosition buffer position).advance (.skip ⟨number, .startGroup⟩) =
      (.ok .skipped, Cursor.ofPosition buffer (position + body.length)) := by
  obtain ⟨rest, shape⟩ := isPrefix
  have skipped := skipGroups_eq_ok_iff.mpr ⟨body, isBody, shape.symm⟩
  have behind : buffer.drop (position + body.length) = rest := by
    rw [← List.drop_drop, ← shape, List.drop_left]
  rw [Cursor.advance_skip_startGroup]
  simp only [Cursor.ofPosition, skipped, behind]

theorem advance_skip_startGroup_eq_ok_iff :
    ((Cursor.ofPosition buffer position).advance (.skip ⟨number, .startGroup⟩)).1 =
        .ok .skipped ↔
      ∃ body, body <+: buffer.drop position ∧ IsGroupBody nestingLimit number body := by
  constructor
  · intro accepted
    rw [Cursor.advance_skip_startGroup] at accepted
    split at accepted
    · rename_i rest skipped
      obtain ⟨body, isBody, shape⟩ := skipGroups_eq_ok_iff.mp skipped
      exact ⟨body, ⟨rest, shape.symm⟩, isBody⟩
    · cases accepted
  · rintro ⟨body, isPrefix, isBody⟩
    rw [advance_skip_startGroup_of_isGroupBody isPrefix isBody]

theorem advance_skip_startGroup_eq_error_iff {cause : WireError} :
    ((Cursor.ofPosition buffer position).advance (.skip ⟨number, .startGroup⟩)).1 =
        .error cause ↔
      ∃ start stillOpen behind rest, IsGroupStart nestingLimit number start stillOpen ∧
        GroupFault stillOpen behind cause rest ∧ buffer.drop position = start ++ behind := by
  rw [Cursor.advance_skip_startGroup]
  constructor
  · intro refused
    split at refused
    · cases refused
    · rename_i failed
      cases refused
      obtain ⟨start, stillOpen, behind, found⟩ := skipGroups_eq_error_iff.mp failed
      exact ⟨start, stillOpen, behind, _, found⟩
  · rintro ⟨start, stillOpen, behind, rest, found⟩
    have failed := skipGroups_eq_error_iff.mpr ⟨start, stillOpen, behind, found⟩
    simp only [Cursor.ofPosition, failed]

/-- The limit is met where a group is opened inside of a hundred others. -/
theorem advance_skip_startGroup_tooDeep_iff :
    ((Cursor.ofPosition buffer position).advance (.skip ⟨number, .startGroup⟩)).1 =
        .error (.recursionLimitExceeded nestingLimit) ↔
      ∃ start stillOpen opening member, start ++ opening <+: buffer.drop position ∧
        IsGroupStart nestingLimit number start stillOpen ∧
        stillOpen.length = nestingLimit ∧ IsTag ⟨member, .startGroup⟩ opening := by
  rw [advance_skip_startGroup_eq_error_iff]
  constructor
  · rintro ⟨start, stillOpen, behind, rest, isStart, fault, shape⟩
    cases fault with
    | noTag failed =>
        cases ignoresGroups_readTag _ _ _ failed
    | noPayload _ noStart noEnd failed =>
        cases ignoresGroups_readScalarPayload noStart noEnd _ _ _ failed
    | @tooDeep _ member opening _ isTag full =>
        refine ⟨start, stillOpen, opening, member, ⟨rest, ?_⟩, isStart,
          Nat.le_antisymm isStart.length_le.2 full, isTag⟩
        rw [shape, List.append_assoc]
  · rintro ⟨start, stillOpen, opening, member, ⟨rest, shape⟩, isStart, full, isTag⟩
    exact ⟨start, stillOpen, opening ++ rest, rest, isStart,
      .tooDeep isTag (Nat.le_of_eq full.symm), by rw [← shape, List.append_assoc]⟩

/-- An end is unexpected where the innermost group is another one. -/
theorem advance_skip_startGroup_foreignEnd_iff :
    ((Cursor.ofPosition buffer position).advance (.skip ⟨number, .startGroup⟩)).1 =
        .error .unexpectedEndGroup ↔
      ∃ start innermost outer closing member, start ++ closing <+: buffer.drop position ∧
        IsGroupStart nestingLimit number start (innermost :: outer) ∧
        IsTag ⟨member, .endGroup⟩ closing ∧ member ≠ innermost := by
  rw [advance_skip_startGroup_eq_error_iff]
  constructor
  · rintro ⟨start, stillOpen, behind, rest, isStart, fault, shape⟩
    cases fault with
    | noTag failed =>
        cases ignoresGroups_readTag _ _ _ failed
    | noPayload _ noStart noEnd failed =>
        cases ignoresGroups_readScalarPayload noStart noEnd _ _ _ failed
    | @foreignEnd innermost member outer closing _ isTag differs =>
        refine ⟨start, innermost, outer, closing, member, ⟨rest, ?_⟩, isStart, isTag, differs⟩
        rw [shape, List.append_assoc]
  · rintro ⟨start, innermost, outer, closing, member, ⟨rest, shape⟩, isStart, isTag, differs⟩
    exact ⟨start, innermost :: outer, closing ++ rest, rest, isStart,
      .foreignEnd isTag differs, by rw [← shape, List.append_assoc]⟩

end Position

/--
A group is skipped exactly where its body stands, which can be one prefix only.

The cursor then stands right behind the body. Skipping fails at the limit exactly
when a start tag is met with a hundred groups open, and at an unexpected end exactly
when an end tag is met that is not the innermost group's.
-/
theorem skip_startGroup_iff_isGroupBody
    (buffer : Bytes)
    (position : Nat)
    (number : UInt32) :
    let ahead := buffer.drop position
    let outcome :=
      (Cursor.ofPosition buffer position).advance (.skip ⟨number, .startGroup⟩)
    (outcome.1 = .ok .skipped ↔
        ∃ body, body <+: ahead ∧ IsGroupBody 100 number body) ∧
      (∀ body, body <+: ahead → IsGroupBody 100 number body →
        (∀ other, other <+: ahead → IsGroupBody 100 number other → other = body) ∧
          outcome.2 = .ofPosition buffer (position + body.length) ∧
          outcome.2.position = position + body.length) ∧
      (outcome.1 = .error (.recursionLimitExceeded 100) ↔
        ∃ start stillOpen opening member, start ++ opening <+: ahead ∧
          IsGroupStart 100 number start stillOpen ∧ stillOpen.length = 100 ∧
          IsTag ⟨member, .startGroup⟩ opening) ∧
      (outcome.1 = .error .unexpectedEndGroup ↔
        ∃ start innermost outer closing member, start ++ closing <+: ahead ∧
          IsGroupStart 100 number start (innermost :: outer) ∧
          IsTag ⟨member, .endGroup⟩ closing ∧ member ≠ innermost) := by
  intro ahead outcome
  refine ⟨advance_skip_startGroup_eq_ok_iff, fun body isPrefix isBody => ?_,
    advance_skip_startGroup_tooDeep_iff, advance_skip_startGroup_foreignEnd_iff⟩
  have moved : outcome.2 = .ofPosition buffer (position + body.length) :=
    congrArg Prod.snd (advance_skip_startGroup_of_isGroupBody isPrefix isBody)
  refine ⟨fun other otherPrefix otherBody => otherBody.eq_of_isPrefix isBody otherPrefix isPrefix,
    moved, ?_⟩
  rw [moved]
  exact position_ofPosition isPrefix isBody.length_pos

end GrpcDiscovery.Wire
