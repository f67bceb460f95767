import GrpcDiscovery.Proofs.Wire.Grammar

namespace GrpcDiscovery.Wire

/-!
# Groups

The body of a group is given by a grammar that calls itself for the groups inside,
while reading over a group keeps the numbers of the open groups on a stack. What a
stack still demands of the bytes ahead is one body after the other, and so both
agree on every byte string, up to the limit on open groups.

Where the bytes are no body, they are the beginning of one up to a fault, and the
fault is found with the groups open that this beginning leaves open.
-/

/--
The body of a group: records, groups among them, and then the end tag of its number.

At most `levels` groups are open at once, itself included.
-/
inductive IsGroupBody : (levels : Nat) → (number : UInt32) → Bytes → Prop where
  | close
      {levels : Nat}
      {number : UInt32}
      {closing : Bytes} :
      IsTag ⟨number, .endGroup⟩ closing →
      IsGroupBody (levels + 1) number closing
  | scalar
      {levels : Nat}
      {number member : UInt32}
      {wireType : WireType}
      {payload : Payload}
      {opening content rest : Bytes} :
      IsTag ⟨member, wireType⟩ opening →
      IsScalar wireType payload content →
      IsGroupBody (levels + 1) number rest →
      IsGroupBody (levels + 1) number (opening ++ (content ++ rest))
  | group
      {levels : Nat}
      {number member : UInt32}
      {opening inner rest : Bytes} :
      IsTag ⟨member, .startGroup⟩ opening →
      IsGroupBody levels member inner →
      IsGroupBody (levels + 1) number rest →
      IsGroupBody (levels + 1) number (opening ++ (inner ++ rest))

/--
The beginning of the body of a group, which stops between two records.

The groups that are still open there are listed, the innermost first.
-/
inductive IsGroupStart : (levels : Nat) → (number : UInt32) → Bytes → List UInt32 → Prop where
  | nothing
      {levels : Nat}
      {number : UInt32} :
      IsGroupStart (levels + 1) number [] [number]
  | scalar
      {levels : Nat}
      {number member : UInt32}
      {wireType : WireType}
      {payload : Payload}
      {opening content rest : Bytes}
      {stillOpen : List UInt32} :
      IsTag ⟨member, wireType⟩ opening →
      IsScalar wireType payload content →
      IsGroupStart (levels + 1) number rest stillOpen →
      IsGroupStart (levels + 1) number (opening ++ (content ++ rest)) stillOpen
  | group
      {levels : Nat}
      {number member : UInt32}
      {opening inner rest : Bytes}
      {stillOpen : List UInt32} :
      IsTag ⟨member, .startGroup⟩ opening →
      IsGroupBody levels member inner →
      IsGroupStart (levels + 1) number rest stillOpen →
      IsGroupStart (levels + 1) number (opening ++ (inner ++ rest)) stillOpen
  | inside
      {levels : Nat}
      {number member : UInt32}
      {opening rest : Bytes}
      {stillOpen : List UInt32} :
      IsTag ⟨member, .startGroup⟩ opening →
      IsGroupStart levels member rest stillOpen →
      IsGroupStart (levels + 1) number (opening ++ rest) (stillOpen ++ [number])

/-- What is wrong with the bytes ahead when groups are open, and what is left after it. -/
inductive GroupFault : (openGroups : List UInt32) → Bytes → WireError → Bytes → Prop where
  | noTag
      {openGroups : List UInt32}
      {ahead rest : Bytes}
      {cause : WireError} :
      readTag ahead = .error cause rest →
      GroupFault openGroups ahead cause rest
  | noPayload
      {openGroups : List UInt32}
      {tag : Tag}
      {opening ahead rest : Bytes}
      {cause : WireError} :
      IsTag tag opening →
      tag.wireType ≠ .startGroup →
      tag.wireType ≠ .endGroup →
      readScalarPayload tag.wireType ahead = .error cause rest →
      GroupFault openGroups (opening ++ ahead) cause rest
  | tooDeep
      {openGroups : List UInt32}
      {member : UInt32}
      {opening rest : Bytes} :
      IsTag ⟨member, .startGroup⟩ opening →
      nestingLimit ≤ openGroups.length →
      GroupFault openGroups (opening ++ rest) (.recursionLimitExceeded nestingLimit) rest
  | foreignEnd
      {innermost member : UInt32}
      {outer : List UInt32}
      {closing rest : Bytes} :
      IsTag ⟨member, .endGroup⟩ closing →
      member ≠ innermost →
      GroupFault (innermost :: outer) (closing ++ rest) .unexpectedEndGroup rest

/-! ## One record -/

section Step

variable {number member : UInt32} {outer : List UInt32} {opening rest : Bytes}

/-- What a record does to the stack is up to the wire type of its tag. -/
theorem skipGroups_cons
    {wireType : WireType}
    (isTag : IsTag ⟨member, wireType⟩ opening) :
    skipGroups (number :: outer) (opening ++ rest) =
      match wireType with
      | .startGroup =>
          if nestingLimit ≤ (number :: outer).length then
            .error (.recursionLimitExceeded nestingLimit) rest
          else
            skipGroups (member :: number :: outer) rest
      | .endGroup =>
          if member = number then
            skipGroups outer rest
          else
            .error .unexpectedEndGroup rest
      | wireType =>
          match readScalarPayload wireType rest with
          | .error cause rest =>
              .error cause rest
          | .ok _ rest =>
              skipGroups (number :: outer) rest := by
  rw [skipGroups]
  split
  · rename_i failed
    rw [isTag.read] at failed
    cases failed
  · rename_i read
    rw [isTag.read] at read
    cases read
    cases wireType with
    | startGroup =>
        rfl
    | endGroup =>
        rfl
    | _ =>
        dsimp only
        split <;> rename_i payloadRead <;> rw [payloadRead]

/-- A record that neither opens nor ends a group is passed over. -/
theorem skipGroups_scalar
    {wireType : WireType}
    {payload : Payload}
    {content : Bytes}
    (isTag : IsTag ⟨member, wireType⟩ opening)
    (isScalar : IsScalar wireType payload content) :
    skipGroups (number :: outer) (opening ++ (content ++ rest)) =
      skipGroups (number :: outer) rest := by
  have payloadRead := isScalar.read rest
  rw [skipGroups_cons isTag]
  cases isScalar <;> simp only [payloadRead]

end Step

/-! ## From the grammar to the stack -/

theorem IsGroupBody.levels_pos
    {levels : Nat}
    {number : UInt32}
    {body : Bytes}
    (isBody : IsGroupBody levels number body) :
    0 < levels := by
  cases isBody <;> exact Nat.succ_pos _

theorem IsGroupStart.levels_pos
    {levels : Nat}
    {number : UInt32}
    {start : Bytes}
    {stillOpen : List UInt32}
    (isStart : IsGroupStart levels number start stillOpen) :
    0 < levels := by
  cases isStart <;> exact Nat.succ_pos _

/-- What fits inside a group still fits when the group is on the stack. -/
private theorem length_cons_add_le
    {levels : Nat}
    {number : UInt32}
    {outer : List UInt32}
    (fits : outer.length + (levels + 1) ≤ nestingLimit) :
    (number :: outer).length + levels ≤ nestingLimit := by
  rw [List.length_cons]
  omega

/-- A group that may be opened inside another is put on the stack. -/
theorem skipGroups_inside
    {levels : Nat}
    {number member : UInt32}
    {outer : List UInt32}
    {opening : Bytes}
    (isTag : IsTag ⟨member, .startGroup⟩ opening)
    (fits : outer.length + (levels + 1) ≤ nestingLimit)
    (more : 0 < levels)
    (rest : Bytes) :
    skipGroups (number :: outer) (opening ++ rest) =
      skipGroups (member :: number :: outer) rest := by
  have room : ¬ nestingLimit ≤ (number :: outer).length := by
    rw [List.length_cons]
    omega
  rw [skipGroups_cons isTag]
  exact if_neg room

/-- The body of the innermost group takes it off the stack. -/
theorem IsGroupBody.skipGroups
    {levels : Nat}
    {number : UInt32}
    {body : Bytes}
    (isBody : IsGroupBody levels number body)
    {outer : List UInt32}
    (fits : outer.length + levels ≤ nestingLimit)
    (rest : Bytes) :
    skipGroups (number :: outer) (body ++ rest) = skipGroups outer rest := by
  induction isBody generalizing outer rest with
  | close isTag =>
      rw [skipGroups_cons isTag]
      exact if_pos rfl
  | scalar isTag isScalar _ inductionHypothesis =>
      rw [List.append_assoc, List.append_assoc, skipGroups_scalar isTag isScalar,
        inductionHypothesis fits]
  | group isTag inner _ innerHypothesis restHypothesis =>
      rw [List.append_assoc, List.append_assoc,
        skipGroups_inside isTag fits inner.levels_pos,
        innerHypothesis (length_cons_add_le fits), restHypothesis fits]

/-- The beginning of a body leaves the groups on the stack that it leaves open. -/
theorem IsGroupStart.skipGroups
    {levels : Nat}
    {number : UInt32}
    {start : Bytes}
    {stillOpen : List UInt32}
    (isStart : IsGroupStart levels number start stillOpen)
    {outer : List UInt32}
    (fits : outer.length + levels ≤ nestingLimit)
    (rest : Bytes) :
    skipGroups (number :: outer) (start ++ rest) = skipGroups (stillOpen ++ outer) rest := by
  induction isStart generalizing outer rest with
  | nothing =>
      rfl
  | scalar isTag isScalar _ inductionHypothesis =>
      rw [List.append_assoc, List.append_assoc, skipGroups_scalar isTag isScalar,
        inductionHypothesis fits]
  | group isTag inner _ restHypothesis =>
      rw [List.append_assoc, List.append_assoc,
        skipGroups_inside isTag fits inner.levels_pos,
        inner.skipGroups (length_cons_add_le fits), restHypothesis fits]
  | inside isTag inner innerHypothesis =>
      rw [List.append_assoc, skipGroups_inside isTag fits inner.levels_pos,
        innerHypothesis (length_cons_add_le fits), List.append_assoc, List.singleton_append]

/-- A fault ends the reading. -/
theorem GroupFault.skipGroups
    {innermost : UInt32}
    {outer : List UInt32}
    {ahead rest : Bytes}
    {cause : WireError}
    (fault : GroupFault (innermost :: outer) ahead cause rest) :
    skipGroups (innermost :: outer) ahead = .error cause rest := by
  cases fault with
  | noTag failed =>
      rw [Wire.skipGroups]
      split
      · rename_i read
        rw [failed] at read
        cases read
        rfl
      · rename_i read
        rw [failed] at read
        cases read
  | @noPayload _ tag _ _ _ _ isTag noStart noEnd failed =>
      obtain ⟨member, wireType⟩ := tag
      rw [skipGroups_cons isTag]
      cases wireType with
      | startGroup =>
          exact absurd rfl noStart
      | endGroup =>
          exact absurd rfl noEnd
      | _ =>
          simp only [failed]
  | tooDeep isTag full =>
      rw [skipGroups_cons isTag]
      exact if_pos full
  | foreignEnd isTag differs =>
      rw [skipGroups_cons isTag]
      exact if_neg differs

/-! ## From the stack to the grammar -/

/-- What the open groups still demand, when so many more may be opened: a body for each. -/
inductive Closes : (levels : Nat) → (openGroups : List UInt32) → Bytes → Prop where
  | nothing
      {levels : Nat} :
      Closes levels [] []
  | body
      {levels : Nat}
      {innermost : UInt32}
      {outer : List UInt32}
      {body rest : Bytes} :
      IsGroupBody (levels + 1) innermost body →
      Closes (levels + 1) outer rest →
      Closes levels (innermost :: outer) (body ++ rest)

theorem Closes.exists_body
    {levels : Nat}
    {innermost : UInt32}
    {outer : List UInt32}
    {closed : Bytes}
    (closes : Closes levels (innermost :: outer) closed) :
    ∃ body rest, IsGroupBody (levels + 1) innermost body ∧
      Closes (levels + 1) outer rest ∧ closed = body ++ rest := by
  cases closes with
  | body isBody closes =>
      exact ⟨_, _, isBody, closes, rfl⟩

/-- Reading over the open groups takes a body for each of them. -/
theorem exists_closes_of_skipGroups
    {levels : Nat}
    {openGroups : List UInt32}
    {bytes rest : Bytes}
    (fits : openGroups.length + levels = nestingLimit)
    (skipped : skipGroups openGroups bytes = .ok () rest) :
    ∃ closed, Closes levels openGroups closed ∧ bytes = closed ++ rest := by
  fun_induction Wire.skipGroups openGroups bytes generalizing levels with
  | case1 bytes =>
      cases skipped
      exact ⟨[], .nothing, rfl⟩
  | case2 =>
      cases skipped
  | case3 =>
      cases skipped
  | case4 bytes innermost outer tag ahead tagRead _ isStart room inductionHypothesis =>
      obtain ⟨member, _⟩ := tag
      obtain rfl := isStart
      obtain ⟨opening, isTag, rfl⟩ := readTag_eq_ok_iff.mp tagRead
      obtain ⟨levels, rfl⟩ : ∃ fewer, levels = fewer + 1 :=
        ⟨levels - 1, by omega⟩
      have innerFits : (member :: innermost :: outer).length + levels = nestingLimit := by
        rw [← fits, List.length_cons, Nat.add_right_comm, Nat.add_assoc]
      obtain ⟨_, allClose, rfl⟩ := inductionHypothesis innerFits skipped
      obtain ⟨inner, _, isInner, outerClose, rfl⟩ := allClose.exists_body
      obtain ⟨body, closed, isBody, closes, rfl⟩ := outerClose.exists_body
      exact ⟨(opening ++ (inner ++ body)) ++ closed, .body (.group isTag isInner isBody) closes,
        by simp only [List.append_assoc]⟩
  | case5 bytes outer tag ahead tagRead _ isEnd inductionHypothesis =>
      obtain ⟨member, _⟩ := tag
      obtain rfl := isEnd
      obtain ⟨closing, isTag, rfl⟩ := readTag_eq_ok_iff.mp tagRead
      have outerFits : outer.length + (levels + 1) = nestingLimit := by
        rw [← fits, List.length_cons, Nat.add_right_comm, Nat.add_assoc]
      obtain ⟨closed, closes, rfl⟩ := inductionHypothesis outerFits skipped
      exact ⟨closing ++ closed, .body (.close isTag) closes, (List.append_assoc _ _ _).symm⟩
  | case6 =>
      cases skipped
  | case7 =>
      cases skipped
  | case8 bytes innermost outer tag ahead tagRead _ payload behind noStart noEnd payloadRead _
      inductionHypothesis =>
      obtain ⟨member, wireType⟩ := tag
      obtain ⟨opening, isTag, rfl⟩ := readTag_eq_ok_iff.mp tagRead
      obtain ⟨content, isScalar, rfl⟩ := readScalarPayload_eq_ok_iff.mp payloadRead
      obtain ⟨_, allClose, rfl⟩ := inductionHypothesis fits skipped
      obtain ⟨body, closed, isBody, closes, rfl⟩ := allClose.exists_body
      exact ⟨(opening ++ (content ++ body)) ++ closed,
        .body (.scalar isTag isScalar isBody) closes, by simp only [List.append_assoc]⟩

/-- Where the open groups may be before a fault: in the innermost, or behind its body. -/
inductive Reaches :
    (levels : Nat) →
    (openGroups : List UInt32) →
    Bytes →
    (stillOpen : List UInt32) →
    Prop where
  | within
      {levels : Nat}
      {innermost : UInt32}
      {outer stillOpen : List UInt32}
      {start : Bytes} :
      IsGroupStart (levels + 1) innermost start stillOpen →
      Reaches levels (innermost :: outer) start (stillOpen ++ outer)
  | behind
      {levels : Nat}
      {innermost : UInt32}
      {outer stillOpen : List UInt32}
      {body start : Bytes} :
      IsGroupBody (levels + 1) innermost body →
      Reaches (levels + 1) outer start stillOpen →
      Reaches levels (innermost :: outer) (body ++ start) stillOpen

/-- A record that neither opens nor ends a group may come before. -/
theorem Reaches.scalar
    {levels : Nat}
    {innermost member : UInt32}
    {outer stillOpen : List UInt32}
    {wireType : WireType}
    {payload : Payload}
    {opening content start : Bytes}
    (isTag : IsTag ⟨member, wireType⟩ opening)
    (isScalar : IsScalar wireType payload content)
    (reaches : Reaches levels (innermost :: outer) start stillOpen) :
    Reaches levels (innermost :: outer) (opening ++ (content ++ start)) stillOpen := by
  cases reaches with
  | within isStart =>
      exact .within (.scalar isTag isScalar isStart)
  | behind isBody reaches =>
      rw [← List.append_assoc content, ← List.append_assoc opening]
      exact .behind (.scalar isTag isScalar isBody) reaches

/-- So may a tag that opens another group. -/
theorem Reaches.startGroup
    {levels : Nat}
    {innermost member : UInt32}
    {outer stillOpen : List UInt32}
    {opening start : Bytes}
    (isTag : IsTag ⟨member, .startGroup⟩ opening)
    (reaches : Reaches levels (member :: innermost :: outer) start stillOpen) :
    Reaches (levels + 1) (innermost :: outer) (opening ++ start) stillOpen := by
  cases reaches with
  | @within _ _ _ stillOpen start isStart =>
      rw [List.append_cons]
      exact .within (.inside isTag isStart)
  | behind isInner reaches =>
      cases reaches with
      | within isStart =>
          exact .within (.group isTag isInner isStart)
      | behind isBody reaches =>
          rw [← List.append_assoc, ← List.append_assoc, List.append_assoc opening]
          exact .behind (.group isTag isInner isBody) reaches

/-- Reading over the open groups fails with a fault behind the beginning of their bodies. -/
theorem exists_fault_of_skipGroups
    {levels : Nat}
    {openGroups : List UInt32}
    {bytes rest : Bytes}
    {cause : WireError}
    (fits : openGroups.length + levels = nestingLimit)
    (failed : skipGroups openGroups bytes = .error cause rest) :
    ∃ start stillOpen ahead, Reaches levels openGroups start stillOpen ∧
      GroupFault stillOpen ahead cause rest ∧ bytes = start ++ ahead := by
  fun_induction Wire.skipGroups openGroups bytes generalizing levels with
  | case1 bytes =>
      cases failed
  | case2 bytes innermost outer _ _ tagFailed =>
      cases failed
      exact ⟨[], _, bytes, .within .nothing, .noTag tagFailed, rfl⟩
  | case3 bytes innermost outer tag ahead tagRead _ isStart full =>
      obtain ⟨member, _⟩ := tag
      obtain rfl := isStart
      obtain ⟨opening, isTag, rfl⟩ := readTag_eq_ok_iff.mp tagRead
      cases failed
      exact ⟨[], _, _, .within .nothing, .tooDeep isTag full, rfl⟩
  | case4 bytes innermost outer tag ahead tagRead _ isStart room inductionHypothesis =>
      obtain ⟨member, _⟩ := tag
      obtain rfl := isStart
      obtain ⟨opening, isTag, rfl⟩ := readTag_eq_ok_iff.mp tagRead
      obtain ⟨levels, rfl⟩ : ∃ fewer, levels = fewer + 1 :=
        ⟨levels - 1, by omega⟩
      have innerFits : (member :: innermost :: outer).length + levels = nestingLimit := by
        rw [← fits, List.length_cons, Nat.add_right_comm, Nat.add_assoc]
      obtain ⟨start, stillOpen, ahead, reaches, fault, rfl⟩ :=
        inductionHypothesis innerFits failed
      exact ⟨opening ++ start, stillOpen, ahead, reaches.startGroup isTag, fault,
        (List.append_assoc _ _ _).symm⟩
  | case5 bytes outer tag ahead tagRead _ isEnd inductionHypothesis =>
      obtain ⟨member, _⟩ := tag
      obtain rfl := isEnd
      obtain ⟨closing, isTag, rfl⟩ := readTag_eq_ok_iff.mp tagRead
      have outerFits : outer.length + (levels + 1) = nestingLimit := by
        rw [← fits, List.length_cons, Nat.add_right_comm, Nat.add_assoc]
      obtain ⟨start, stillOpen, ahead, reaches, fault, rfl⟩ :=
        inductionHypothesis outerFits failed
      exact ⟨closing ++ start, stillOpen, ahead, .behind (.close isTag) reaches, fault,
        (List.append_assoc _ _ _).symm⟩
  | case6 bytes innermost outer tag ahead tagRead _ isEnd differs =>
      obtain ⟨member, _⟩ := tag
      obtain rfl := isEnd
      obtain ⟨closing, isTag, rfl⟩ := readTag_eq_ok_iff.mp tagRead
      cases failed
      exact ⟨[], _, _, .within .nothing, .foreignEnd isTag differs, rfl⟩
  | case7 bytes innermost outer tag ahead tagRead _ _ _ noStart noEnd payloadFailed =>
      obtain ⟨opening, isTag, rfl⟩ := readTag_eq_ok_iff.mp tagRead
      cases failed
      exact ⟨[], _, _, .within .nothing, .noPayload isTag noStart noEnd payloadFailed, rfl⟩
  | case8 bytes innermost outer tag ahead tagRead _ payload behind noStart noEnd payloadRead _
      inductionHypothesis =>
      obtain ⟨member, wireType⟩ := tag
      obtain ⟨opening, isTag, rfl⟩ := readTag_eq_ok_iff.mp tagRead
      obtain ⟨content, isScalar, rfl⟩ := readScalarPayload_eq_ok_iff.mp payloadRead
      obtain ⟨start, stillOpen, ahead, reaches, fault, rfl⟩ := inductionHypothesis fits failed
      exact ⟨opening ++ (content ++ start), stillOpen, ahead, reaches.scalar isTag isScalar,
        fault, by simp only [List.append_assoc]⟩

/-! ## One group -/

theorem IsGroupStart.length_le
    {levels : Nat}
    {number : UInt32}
    {start : Bytes}
    {stillOpen : List UInt32}
    (isStart : IsGroupStart levels number start stillOpen) :
    0 < stillOpen.length ∧ stillOpen.length ≤ levels := by
  induction isStart with
  | nothing =>
      exact ⟨Nat.one_pos, Nat.le_add_left 1 _⟩
  | scalar _ _ _ inductionHypothesis =>
      exact inductionHypothesis
  | group _ _ _ inductionHypothesis =>
      exact inductionHypothesis
  | inside _ _ inductionHypothesis =>
      rw [List.length_append, List.length_singleton]
      exact ⟨Nat.succ_pos _, Nat.succ_le_succ inductionHypothesis.2⟩

/-- Reading over a group takes exactly a body of it. -/
theorem skipGroups_eq_ok_iff
    {number : UInt32}
    {bytes rest : Bytes} :
    skipGroups [number] bytes = .ok () rest ↔
      ∃ body, IsGroupBody nestingLimit number body ∧ bytes = body ++ rest := by
  constructor
  · intro skipped
    obtain ⟨_, allClose, rfl⟩ :=
      @exists_closes_of_skipGroups (nestingLimit - 1) _ _ _ rfl skipped
    obtain ⟨body, _, isBody, closes, rfl⟩ := allClose.exists_body
    cases closes
    exact ⟨body, isBody, by rw [List.append_nil]⟩
  · rintro ⟨body, isBody, rfl⟩
    rw [isBody.skipGroups (Nat.le_of_eq (Nat.zero_add _)), skipGroups]

/-- Reading over a group fails exactly at a fault behind the beginning of a body. -/
theorem skipGroups_eq_error_iff
    {number : UInt32}
    {bytes rest : Bytes}
    {cause : WireError} :
    skipGroups [number] bytes = .error cause rest ↔
      ∃ start stillOpen ahead, IsGroupStart nestingLimit number start stillOpen ∧
        GroupFault stillOpen ahead cause rest ∧ bytes = start ++ ahead := by
  constructor
  · intro failed
    obtain ⟨_, _, ahead, reaches, fault, rfl⟩ :=
      @exists_fault_of_skipGroups (nestingLimit - 1) _ _ _ _ rfl failed
    cases reaches with
    | within isStart =>
        rw [List.append_nil] at fault
        exact ⟨_, _, ahead, isStart, fault, rfl⟩
    | behind _ reaches =>
        cases reaches
  · rintro ⟨start, stillOpen, ahead, isStart, fault, rfl⟩
    rw [isStart.skipGroups (Nat.le_of_eq (Nat.zero_add _)), List.append_nil]
    obtain ⟨innermost, outer, rfl⟩ := List.exists_cons_of_length_pos isStart.length_le.1
    exact fault.skipGroups

/-- No two bodies of a group begin at one place. -/
theorem IsGroupBody.eq_of_isPrefix
    {number : UInt32}
    {body other ahead : Bytes}
    (isBody : IsGroupBody nestingLimit number body)
    (otherBody : IsGroupBody nestingLimit number other)
    (isPrefix : body <+: ahead)
    (otherPrefix : other <+: ahead) :
    body = other := by
  obtain ⟨rest, rfl⟩ := isPrefix
  obtain ⟨otherRest, same⟩ := otherPrefix
  have skipped : Wire.skipGroups [number] (body ++ rest) = .ok () rest :=
    skipGroups_eq_ok_iff.mpr ⟨body, isBody, rfl⟩
  have otherSkipped : Wire.skipGroups [number] (body ++ rest) = .ok () otherRest :=
    skipGroups_eq_ok_iff.mpr ⟨other, otherBody, same.symm⟩
  rw [skipped] at otherSkipped
  cases otherSkipped
  exact (List.append_cancel_right same).symm

theorem IsGroupBody.length_pos
    {levels : Nat}
    {number : UInt32}
    {body : Bytes}
    (isBody : IsGroupBody levels number body) :
    0 < body.length := by
  cases isBody with
  | close isTag =>
      exact isTag.length_pos
  | scalar isTag =>
      have := isTag.length_pos
      rw [List.length_append]
      omega
  | group isTag =>
      have := isTag.length_pos
      rw [List.length_append]
      omega

/-! ## Payloads of every kind -/

/-- The payload that a tag announces. -/
inductive IsPayload : Tag → Payload → Bytes → Prop where
  | scalar
      {number : UInt32}
      {wireType : WireType}
      {payload : Payload}
      {content : Bytes} :
      IsScalar wireType payload content →
      IsPayload ⟨number, wireType⟩ payload content
  | group
      {number : UInt32}
      {body : Bytes} :
      IsGroupBody nestingLimit number body →
      IsPayload ⟨number, .startGroup⟩ .group body

/-- Reading a payload takes exactly the bytes of one. -/
theorem readPayload_eq_ok_iff
    {tag : Tag}
    {payload : Payload}
    {bytes rest : Bytes} :
    readPayload tag bytes = .ok payload rest ↔
      ∃ content, IsPayload tag payload content ∧ bytes = content ++ rest := by
  obtain ⟨number, wireType⟩ := tag
  by_cases start : wireType = .startGroup
  · subst start
    refine Iff.trans bind_pure_eq_ok_iff ?_
    constructor
    · rintro ⟨_, skipped, rfl⟩
      obtain ⟨body, isBody, rfl⟩ := skipGroups_eq_ok_iff.mp skipped
      exact ⟨body, .group isBody, rfl⟩
    · rintro ⟨body, isPayload, rfl⟩
      cases isPayload with
      | scalar isScalar =>
          cases isScalar
      | group isBody =>
          exact ⟨(), skipGroups_eq_ok_iff.mpr ⟨body, isBody, rfl⟩, rfl⟩
  · have scalar : readPayload ⟨number, wireType⟩ = readScalarPayload wireType := by
      cases wireType with
      | startGroup =>
          exact absurd rfl start
      | _ =>
          rfl
    rw [scalar, readScalarPayload_eq_ok_iff]
    refine exists_congr fun content => and_congr_left fun _ => ?_
    constructor
    · exact .scalar
    · intro isPayload
      cases isPayload with
      | scalar isScalar =>
          exact isScalar
      | group =>
          exact absurd rfl start

theorem IsPayload.read
    {tag : Tag}
    {payload : Payload}
    {content : Bytes}
    (isPayload : IsPayload tag payload content)
    (rest : Bytes) :
    readPayload tag (content ++ rest) = .ok payload rest :=
  readPayload_eq_ok_iff.mpr ⟨content, isPayload, rfl⟩

end GrpcDiscovery.Wire
