import GrpcDiscovery.Proofs.Wire.Varints

namespace GrpcDiscovery.Wire

/-!
# Cursors in their buffers

Whether a reader succeeds or fails, it leaves an end of the bytes that it was given.
So a cursor that starts in its buffer stays there and never goes back, whatever is read
and however often a read fails. A read that succeeds takes at least one byte, and one
that misses bytes tells how many there are.
-/

/-! ## What a reader leaves -/

/-- Whether an error about missing bytes tells how many are left, fewer than needed. -/
def TellsShortage
    (cause : WireError)
    (rest : Bytes) :
    Prop :=
  ∀ needed remaining, cause = .truncatedMessage needed remaining →
    remaining = rest.length ∧ remaining < needed

/-- A reader that leaves an end of its bytes, also where it fails. -/
structure StaysInside
    {α : Type}
    (reader : Reader α) :
    Prop where
  of_ok :
    ∀ {bytes value rest}, reader bytes = .ok value rest → rest <:+ bytes
  of_error :
    ∀ {bytes cause rest}, reader bytes = .error cause rest →
      rest <:+ bytes ∧ TellsShortage cause rest

/-- A reader that stays inside, and takes at least one byte where it succeeds. -/
structure TakesBytes
    {α : Type}
    (reader : Reader α) :
    Prop extends StaysInside reader where
  shorter :
    ∀ {bytes value rest}, reader bytes = .ok value rest → rest.length < bytes.length

section Readers

variable {α β : Type} {reader : Reader α} {next : α → Reader β}

theorem staysInside_pure (value : α) :
    StaysInside (pure value) where
  of_ok read := by
    cases read
    exact List.suffix_refl _
  of_error failed := by
    cases failed

theorem staysInside_throw
    {cause : WireError}
    (noShortage : ∀ needed remaining, cause ≠ .truncatedMessage needed remaining) :
    StaysInside (throw cause : Reader α) where
  of_ok read := by
    cases read
  of_error failed := by
    cases failed
    exact ⟨List.suffix_refl _, fun needed remaining shortage =>
      absurd shortage (noShortage needed remaining)⟩

theorem StaysInside.bind
    (stays : StaysInside reader)
    (nextStays : ∀ value, StaysInside (next value)) :
    StaysInside (reader >>= next) where
  of_ok read := by
    obtain ⟨value, middle, first, second⟩ := bind_eq_ok_iff.mp read
    exact ((nextStays value).of_ok second).trans (stays.of_ok first)
  of_error {bytes cause rest} failed := by
    change EStateM.bind reader next bytes = .error cause rest at failed
    rw [EStateM.bind] at failed
    split at failed
    · rename_i value middle first
      obtain ⟨isEnd, tells⟩ := (nextStays value).of_error failed
      exact ⟨isEnd.trans (stays.of_ok first), tells⟩
    · rename_i first
      cases failed
      exact stays.of_error first

theorem TakesBytes.bind
    (takes : TakesBytes reader)
    (nextStays : ∀ value, StaysInside (next value)) :
    TakesBytes (reader >>= next) where
  toStaysInside := takes.toStaysInside.bind nextStays
  shorter read := by
    obtain ⟨value, middle, first, second⟩ := bind_eq_ok_iff.mp read
    exact Nat.lt_of_le_of_lt ((nextStays value).of_ok second).length_le (takes.shorter first)

/-- A value that is read and then converted. -/
theorem TakesBytes.bind_pure
    (takes : TakesBytes reader)
    (convert : α → β) :
    TakesBytes (reader >>= fun value => pure (convert value)) :=
  takes.bind fun value => staysInside_pure (convert value)

end Readers

/-! ## The readers of values -/

theorem suffix_of_readVarintWithin_error
    {width : Nat}
    {bytes rest : Bytes}
    {cause : WireError}
    (failed : readVarintWithin width bytes = .error cause rest) :
    rest <:+ bytes := by
  fun_induction readVarintWithin width bytes with
  | case1 =>
      cases failed
      exact List.suffix_refl _
  | case2 =>
      cases failed
      exact List.suffix_refl _
  | case3 =>
      cases failed
  | case4 =>
      cases failed
  | case5 _ _ _ _ _ _ tailFailed inductionHypothesis =>
      cases failed
      exact (inductionHypothesis tailFailed).trans (List.suffix_cons _ _)

theorem takesBytes_readVarint :
    TakesBytes readVarint where
  of_ok read := by
    obtain ⟨consumed, _, _, rfl⟩ := readVarint_eq_ok_iff.mp read
    exact List.suffix_append consumed _
  of_error failed := by
    refine ⟨suffix_of_readVarintWithin_error failed, fun needed remaining shortage => ?_⟩
    rw [eq_malformedVarint_of_readVarintWithin failed] at shortage
    cases shortage
  shorter := readVarintWithin_shorter

theorem staysInside_readBytes (count : Nat) :
    StaysInside (readBytes count) where
  of_ok read := by
    obtain ⟨_, rfl⟩ := readBytes_eq_ok_iff.mp read
    exact List.suffix_append _ _
  of_error {bytes cause rest} failed := by
    rw [readBytes] at failed
    split at failed
    · cases failed
    · rename_i tooMany
      cases failed
      refine ⟨List.suffix_refl _, fun needed remaining shortage => ?_⟩
      cases shortage
      exact ⟨rfl, Nat.lt_of_not_le tooMany⟩

theorem takesBytes_readBytes
    {count : Nat}
    (positive : 0 < count) :
    TakesBytes (readBytes count) where
  toStaysInside := staysInside_readBytes count
  shorter read := by
    obtain ⟨rfl, rfl⟩ := readBytes_eq_ok_iff.mp read
    rw [List.length_append]
    exact Nat.lt_add_of_pos_left positive

theorem takesBytes_readTag :
    TakesBytes readTag := by
  refine takesBytes_readVarint.bind fun key => ?_
  dsimp only
  split
  · exact staysInside_pure _
  · exact staysInside_throw fun _ _ => WireError.noConfusion

theorem takesBytes_readLengthDelimited :
    TakesBytes readLengthDelimited :=
  takesBytes_readVarint.bind fun _ => staysInside_readBytes _

theorem takesBytes_readString :
    TakesBytes readString := by
  refine takesBytes_readLengthDelimited.bind fun bytes => ?_
  rw [textOf]
  cases Utf8.decode bytes with
  | ok text =>
      exact staysInside_pure text
  | error fault =>
      exact staysInside_throw fun _ _ => WireError.noConfusion

theorem takesBytes_readFixed64 :
    TakesBytes readFixed64 :=
  (takesBytes_readBytes (by decide)).bind_pure _

theorem takesBytes_readFixed32 :
    TakesBytes readFixed32 :=
  (takesBytes_readBytes (by decide)).bind_pure _

/-! ## The readers of payloads -/

theorem takesBytes_readScalarPayload (wireType : WireType) :
    TakesBytes (readScalarPayload wireType) := by
  have refused : TakesBytes (throw .unexpectedEndGroup : Reader Payload) :=
    { toStaysInside := staysInside_throw fun _ _ => WireError.noConfusion
      shorter := fun read => nomatch read }
  cases wireType with
  | varint =>
      exact takesBytes_readVarint.bind_pure _
  | fixed64 =>
      exact takesBytes_readFixed64.bind_pure _
  | lengthDelimited =>
      exact takesBytes_readLengthDelimited.bind_pure _
  | fixed32 =>
      exact takesBytes_readFixed32.bind_pure _
  | startGroup =>
      exact refused
  | endGroup =>
      exact refused

/-- What is left at a fault inside a group is an end of what was ahead there. -/
theorem GroupFault.suffix_and_tells
    {openGroups : List UInt32}
    {ahead rest : Bytes}
    {cause : WireError}
    (fault : GroupFault openGroups ahead cause rest) :
    rest <:+ ahead ∧ TellsShortage cause rest := by
  cases fault with
  | noTag failed =>
      exact takesBytes_readTag.of_error failed
  | noPayload _ _ _ failed =>
      obtain ⟨isEnd, tells⟩ := (takesBytes_readScalarPayload _).of_error failed
      exact ⟨isEnd.trans (List.suffix_append _ _), tells⟩
  | tooDeep =>
      exact ⟨List.suffix_append _ _, fun _ _ => WireError.noConfusion⟩
  | foreignEnd =>
      exact ⟨List.suffix_append _ _, fun _ _ => WireError.noConfusion⟩

theorem takesBytes_skipGroups (number : UInt32) :
    TakesBytes (skipGroups [number]) where
  of_ok skipped := by
    obtain ⟨body, _, rfl⟩ := skipGroups_eq_ok_iff.mp skipped
    exact List.suffix_append body _
  of_error failed := by
    obtain ⟨start, _, ahead, _, fault, rfl⟩ := skipGroups_eq_error_iff.mp failed
    obtain ⟨isEnd, tells⟩ := fault.suffix_and_tells
    exact ⟨isEnd.trans (List.suffix_append start ahead), tells⟩
  shorter skipped := by
    obtain ⟨body, isBody, rfl⟩ := skipGroups_eq_ok_iff.mp skipped
    rw [List.length_append]
    exact Nat.lt_add_of_pos_left isBody.length_pos

theorem takesBytes_readPayload (tag : Tag) :
    TakesBytes (readPayload tag) := by
  obtain ⟨number, wireType⟩ := tag
  cases wireType with
  | startGroup =>
      exact (takesBytes_skipGroups number).bind_pure fun _ => Payload.group
  | _ =>
      simp only [readPayload]
      exact takesBytes_readScalarPayload _

theorem takesBytes_skipPayload (tag : Tag) :
    TakesBytes (skipPayload tag) :=
  (takesBytes_readPayload tag).bind_pure fun _ => ()

/-! ## Steps -/

theorem takesBytes_step (step : Step) :
    TakesBytes step.reader := by
  cases step with
  | varint =>
      exact takesBytes_readVarint.bind_pure _
  | tag =>
      exact takesBytes_readTag.bind_pure _
  | lengthDelimited =>
      exact takesBytes_readLengthDelimited.bind_pure _
  | string =>
      exact takesBytes_readString.bind_pure _
  | bool =>
      exact (takesBytes_readVarint.bind_pure boolOf).bind_pure _
  | int32 =>
      exact (takesBytes_readVarint.bind_pure int32Of).bind_pure _
  | fixed32 =>
      exact takesBytes_readFixed32.bind_pure _
  | fixed64 =>
      exact takesBytes_readFixed64.bind_pure _
  | skip opening =>
      exact (takesBytes_skipPayload opening).bind_pure _
  | skipRecord =>
      exact takesBytes_readTag.bind fun opening =>
        ((takesBytes_skipPayload opening).bind_pure _).toStaysInside

/-! ## What a value was read from -/

/-- Whether a value is a run of bytes, or what these say as a text or a number of fixed width. -/
def StepValue.IsReadFrom : StepValue → Bytes → Prop
  | .lengthDelimited content, slice =>
      content = slice
  | .string text, slice =>
      Utf8.decode slice = .ok text
  | .fixed32 value, slice =>
      slice.length = 4 ∧ UInt32.ofNat (littleEndian slice) = value
  | .fixed64 value, slice =>
      slice.length = 8 ∧ UInt64.ofNat (littleEndian slice) = value
  | _, slice =>
      slice = []

/-- A text is that of the bytes that its length announces. -/
theorem exists_content_of_readString
    {bytes rest : Bytes}
    {text : String}
    (read : readString bytes = .ok text rest) :
    ∃ content, readLengthDelimited bytes = .ok content rest ∧ Utf8.decode content = .ok text := by
  obtain ⟨content, middle, contentRead, textRead⟩ := bind_eq_ok_iff.mp read
  cases decoded : Utf8.decode content with
  | ok found =>
      simp only [textOf, decoded] at textRead
      cases textRead
      exact ⟨content, contentRead, decoded⟩
  | error fault =>
      simp only [textOf, decoded] at textRead
      cases textRead

/-- What is read by its length or its width stands right before what is left. -/
theorem exists_slice_of_step
    {step : Step}
    {bytes rest : Bytes}
    {value : StepValue}
    (read : step.reader bytes = .ok value rest) :
    ∃ passed slice, value.IsReadFrom slice ∧ bytes = passed ++ (slice ++ rest) := by
  have nothing : value.IsReadFrom [] →
      ∃ passed slice, value.IsReadFrom slice ∧ bytes = passed ++ (slice ++ rest) := by
    intro isNothing
    obtain ⟨passed, shape⟩ := (takesBytes_step step).of_ok read
    exact ⟨passed, [], isNothing, shape.symm⟩
  cases step with
  | lengthDelimited =>
      obtain ⟨content, contentRead, rfl⟩ := bind_pure_eq_ok_iff.mp read
      obtain ⟨length, _, _, rfl⟩ := readLengthDelimited_eq_ok_iff.mp contentRead
      exact ⟨length, content, rfl, List.append_assoc _ _ _⟩
  | string =>
      obtain ⟨text, textRead, rfl⟩ := bind_pure_eq_ok_iff.mp read
      obtain ⟨content, contentRead, decoded⟩ := exists_content_of_readString textRead
      obtain ⟨length, _, _, rfl⟩ := readLengthDelimited_eq_ok_iff.mp contentRead
      exact ⟨length, content, decoded, List.append_assoc _ _ _⟩
  | fixed32 =>
      obtain ⟨number, numberRead, rfl⟩ := bind_pure_eq_ok_iff.mp read
      obtain ⟨slice, width, sum, rfl⟩ := readFixed32_eq_ok_iff.mp numberRead
      exact ⟨[], slice, ⟨width, sum⟩, rfl⟩
  | fixed64 =>
      obtain ⟨number, numberRead, rfl⟩ := bind_pure_eq_ok_iff.mp read
      obtain ⟨slice, width, sum, rfl⟩ := readFixed64_eq_ok_iff.mp numberRead
      exact ⟨[], slice, ⟨width, sum⟩, rfl⟩
  | skipRecord =>
      obtain ⟨opening, _, _, finished⟩ := bind_eq_ok_iff.mp read
      obtain ⟨_, _, rfl⟩ := bind_pure_eq_ok_iff.mp finished
      exact nothing rfl
  | _ =>
      obtain ⟨_, _, rfl⟩ := bind_pure_eq_ok_iff.mp read
      exact nothing rfl

/-! ## Cursors -/

namespace Cursor

/-- A later cursor of the same buffer, which has an end of what the earlier one had ahead. -/
structure LeadsTo (earlier later : Cursor) : Prop where
  buffer_eq : later.buffer = earlier.buffer
  rest_suffix : later.rest <:+ earlier.rest

variable {cursor earlier middle later : Cursor}

theorem LeadsTo.refl (cursor : Cursor) :
    cursor.LeadsTo cursor :=
  ⟨rfl, List.suffix_refl _⟩

theorem LeadsTo.trans
    (first : earlier.LeadsTo middle)
    (second : middle.LeadsTo later) :
    earlier.LeadsTo later :=
  ⟨second.buffer_eq.trans first.buffer_eq, second.rest_suffix.trans first.rest_suffix⟩

/-- No cursor goes back. -/
theorem LeadsTo.position_le (leads : earlier.LeadsTo later) :
    earlier.position ≤ later.position := by
  rw [position, position, leads.buffer_eq]
  exact Nat.sub_le_sub_left leads.rest_suffix.length_le _

/-- What a cursor that came from the start of a buffer has ahead. -/
theorem LeadsTo.rest_eq
    {buffer : Bytes}
    (leads : (start buffer).LeadsTo cursor) :
    cursor.position ≤ buffer.length ∧ cursor.rest = buffer.drop cursor.position := by
  rw [position, leads.buffer_eq]
  exact ⟨Nat.sub_le _ _, List.suffix_iff_eq_drop.mp leads.rest_suffix⟩

/-! ### One step -/

theorem reader_of_advance_ok
    {step : Step}
    {value : StepValue}
    (advanced : cursor.advance step = (.ok value, later)) :
    later.buffer = cursor.buffer ∧ step.reader cursor.rest = .ok value later.rest := by
  rw [advance] at advanced
  split at advanced
  · rename_i read
    cases advanced
    exact ⟨rfl, read⟩
  · cases advanced

theorem reader_of_advance_error
    {step : Step}
    {cause : WireError}
    (advanced : cursor.advance step = (.error cause, later)) :
    later.buffer = cursor.buffer ∧ step.reader cursor.rest = .error cause later.rest := by
  rw [advance] at advanced
  split at advanced
  · cases advanced
  · rename_i failed
    cases advanced
    exact ⟨rfl, failed⟩

/-- A step leads on, also where it fails. -/
theorem leadsTo_of_advance
    {step : Step}
    {outcome : Except WireError StepValue}
    (advanced : cursor.advance step = (outcome, later)) :
    cursor.LeadsTo later := by
  cases outcome with
  | ok value =>
      obtain ⟨sameBuffer, read⟩ := reader_of_advance_ok advanced
      exact ⟨sameBuffer, (takesBytes_step step).of_ok read⟩
  | error cause =>
      obtain ⟨sameBuffer, failed⟩ := reader_of_advance_error advanced
      exact ⟨sameBuffer, ((takesBytes_step step).of_error failed).1⟩

/-- A step that succeeds moves a cursor that stands in its buffer. -/
theorem position_lt_of_advance
    {step : Step}
    {value : StepValue}
    (inside : cursor.rest <:+ cursor.buffer)
    (advanced : cursor.advance step = (.ok value, later)) :
    cursor.position < later.position := by
  obtain ⟨sameBuffer, read⟩ := reader_of_advance_ok advanced
  have shorter := (takesBytes_step step).shorter read
  have within := inside.length_le
  rw [position, position, sameBuffer]
  omega

/-- What a step reads by its length or its width is a slice of the buffer that it passes. -/
theorem exists_slice_of_advance
    {step : Step}
    {value : StepValue}
    (inside : cursor.rest <:+ cursor.buffer)
    (advanced : cursor.advance step = (.ok value, later)) :
    ∃ slice, value.IsReadFrom slice ∧ cursor.position + slice.length ≤ later.position ∧
      slice = (cursor.buffer.drop (later.position - slice.length)).take slice.length := by
  obtain ⟨sameBuffer, read⟩ := reader_of_advance_ok advanced
  obtain ⟨passed, slice, isReadFrom, shape⟩ := exists_slice_of_step read
  obtain ⟨before, buffer_eq⟩ := inside
  have whole : cursor.buffer = before ++ passed ++ (slice ++ later.rest) := by
    rw [← buffer_eq, shape, List.append_assoc]
  have lengths := congrArg List.length whole
  have restLength := congrArg List.length shape
  simp only [List.length_append] at lengths restLength
  have place : later.position - slice.length = (before ++ passed).length := by
    rw [position, sameBuffer, List.length_append]
    omega
  refine ⟨slice, isReadFrom, ?_, ?_⟩
  · rw [position, position, sameBuffer]
    omega
  · rw [place, whole, List.drop_left, List.take_left]

/-! ### Runs -/

variable {steps : List Step}

theorem length_run (cursor : Cursor) :
    (cursor.run steps).length = steps.length := by
  induction steps generalizing cursor with
  | nil =>
      rfl
  | cons step steps inductionHypothesis =>
      rw [run, List.length_cons, List.length_cons, inductionHypothesis]

/-- Each cursor of a run leads to the next one. -/
theorem isChain_run (cursor : Cursor) :
    (cursor :: (cursor.run steps).map Prod.snd).IsChain LeadsTo := by
  induction steps generalizing cursor with
  | nil =>
      exact .singleton cursor
  | cons step steps inductionHypothesis =>
      exact .cons_cons (leadsTo_of_advance rfl) (inductionHypothesis _)

/-- The cursors of a run lead on in order. -/
theorem pairwise_run (cursor : Cursor) :
    (cursor :: (cursor.run steps).map Prod.snd).Pairwise LeadsTo :=
  haveI : Trans LeadsTo LeadsTo LeadsTo := ⟨LeadsTo.trans⟩
  (isChain_run cursor).pairwise

theorem leadsTo_of_mem_run
    (member : later ∈ cursor :: (cursor.run steps).map Prod.snd) :
    cursor.LeadsTo later := by
  obtain rfl | reached := List.mem_cons.mp member
  · exact .refl later
  · exact List.rel_of_pairwise_cons (pairwise_run cursor) reached

/-- Each outcome of a run is that of its step at the cursor before it. -/
theorem exists_advance_of_run
    {index : Nat}
    {before after : Cursor}
    {outcome : Except WireError StepValue}
    (stands : (cursor :: (cursor.run steps).map Prod.snd)[index]? = some before)
    (comes : (cursor.run steps)[index]? = some (outcome, after)) :
    ∃ step, steps[index]? = some step ∧ before.advance step = (outcome, after) := by
  induction steps generalizing cursor index with
  | nil =>
      cases comes
  | cons step steps inductionHypothesis =>
      cases index with
      | zero =>
          cases stands
          exact ⟨step, rfl, Option.some.inj comes⟩
      | succ index =>
          exact inductionHypothesis stands comes

theorem exists_advance_of_mem_run
    {after : Cursor}
    {outcome : Except WireError StepValue}
    (member : (outcome, after) ∈ cursor.run steps) :
    ∃ (before : Cursor) (step : Step), before.advance step = (outcome, after) := by
  obtain ⟨index, comes⟩ := List.getElem?_of_mem member
  have within := (List.getElem?_eq_some_iff.mp comes).1
  have inRange : index < (cursor :: (cursor.run steps).map Prod.snd).length := by
    rw [List.length_cons, List.length_map]
    omega
  obtain ⟨step, _, advanced⟩ :=
    exists_advance_of_run (List.getElem?_eq_getElem inRange) comes
  exact ⟨_, step, advanced⟩

end Cursor

/--
On every run of steps over a buffer, failed ones among them, no cursor goes back or leaves
the buffer, and what is ahead of it is the end of the buffer at its position. A step that
succeeds moves the cursor, and what it reads by its length or its width is a slice of the
buffer that the cursor passes. An error about missing bytes tells how many are left at the
position where it leaves the cursor, and these are fewer than the bytes needed.
-/
theorem run_staysInBounds
    (buffer : Bytes)
    (steps : List Step) :
    let outcomes := (Cursor.start buffer).run steps
    let cursors := Cursor.start buffer :: outcomes.map Prod.snd
    outcomes.length = steps.length ∧
      (∀ cursor ∈ cursors, cursor.buffer = buffer ∧ cursor.position ≤ buffer.length ∧
        cursor.rest = buffer.drop cursor.position) ∧
      (cursors.map Cursor.position).Pairwise (· ≤ ·) ∧
      (∀ (index : Nat) (before after : Cursor) (value : StepValue),
        cursors[index]? = some before → outcomes[index]? = some (.ok value, after) →
          before.position < after.position ∧
            ∃ slice, value.IsReadFrom slice ∧
              before.position + slice.length ≤ after.position ∧
              slice = (buffer.drop (after.position - slice.length)).take slice.length) ∧
      ∀ needed remaining after,
        (.error (.truncatedMessage needed remaining), after) ∈ outcomes →
          remaining = buffer.length - after.position ∧ remaining < needed := by
  intro outcomes cursors
  have reached : ∀ cursor ∈ cursors, (Cursor.start buffer).LeadsTo cursor :=
    fun _ => Cursor.leadsTo_of_mem_run
  refine ⟨Cursor.length_run _, fun cursor member => ?_, ?_, ?_, ?_⟩
  · exact ⟨(reached cursor member).buffer_eq, (reached cursor member).rest_eq⟩
  · exact (Cursor.pairwise_run _).map _ fun _ _ => Cursor.LeadsTo.position_le
  · intro index before after value stands comes
    have leads := reached before (List.mem_of_getElem? stands)
    obtain ⟨step, _, advanced⟩ := Cursor.exists_advance_of_run stands comes
    have inside : before.rest <:+ before.buffer := leads.buffer_eq ▸ leads.rest_suffix
    have slices := Cursor.exists_slice_of_advance inside advanced
    rw [leads.buffer_eq] at slices
    exact ⟨Cursor.position_lt_of_advance inside advanced, slices⟩
  · intro needed remaining after member
    obtain ⟨before, step, advanced⟩ := Cursor.exists_advance_of_mem_run member
    obtain ⟨_, failed⟩ := Cursor.reader_of_advance_error advanced
    obtain ⟨remaining_eq, less⟩ := ((takesBytes_step step).of_error failed).2 _ _ rfl
    have leads := reached after (List.mem_cons_of_mem _ (List.mem_map_of_mem member))
    rw [leads.rest_eq.2, List.length_drop] at remaining_eq
    exact ⟨remaining_eq, less⟩

end GrpcDiscovery.Wire
