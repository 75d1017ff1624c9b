import TemplateServer.Proofs.Markup.Edges
import TemplateServer.Proofs.Markup.RoundTrip
import TemplateServer.Proofs.Markup.Scope
import TemplateServer.Proofs.Markup.Settling

/-!
Editing behind a tag does not change it. A tag that has ended before some offset
is the same in every text that goes on differently from that offset on, and so is
the scope of every offset in it. Wherever the scan looks ahead past such an
offset, it has not found the end of a tag in front of it.
-/

namespace TemplateServer.Markup

open Text

/-- The rest of a tag is the same as where nothing follows, or ends behind the
front in both cases. -/
def RemainderAgreed (front : List UInt8) (alone followed : TagRemainder) : Prop :=
  followed = alone ∨ front.length ≤ alone.length ∧ front.length ≤ followed.length

theorem remainder_agreed_after {front : List UInt8} {count : Nat} {alone followed : TagRemainder}
    (within : count ≤ front.length) (rest : RemainderAgreed (front.drop count) alone followed) :
    RemainderAgreed front (alone.after count) (followed.after count) := by
  rcases rest with rfl | ⟨aloneLong, followedLong⟩
  · exact Or.inl rfl
  · rw [List.length_drop] at aloneLong followedLong
    simp only [RemainderAgreed, TagRemainder.after]
    exact Or.inr ⟨by omega, by omega⟩

theorem remainder_agreed_attribute {front : List UInt8} {alone followed : TagRemainder}
    (attr : Attribute) (agreed : RemainderAgreed front alone followed) :
    RemainderAgreed front (alone.withAttribute attr) (followed.withAttribute attr) := by
  rcases agreed with rfl | long
  · exact Or.inl rfl
  · exact Or.inr long

/-- A tag that goes on with bytes that end no tag takes the whole front. -/
theorem unclosed_reaches {front : List UInt8} {count : Nat} (unclosed : Unclosed (front.drop count))
    (position : Nat) (later : List UInt8) :
    front.length ≤ count + (tagRemainder position ((front ++ later).drop count)).length := by
  by_cases within : count ≤ front.length
  · have reached := unclosed position later
    rw [← List.drop_append_of_le_length within, List.length_drop] at reached
    omega
  · omega

theorem separators_settled {front rest : List UInt8} {byte : UInt8}
    (found : front.drop (runLength isSeparator front) = byte :: rest) (later : List UInt8) :
    runLength isSeparator (front ++ later) = runLength isSeparator front ∧
      (front ++ later).drop (runLength isSeparator (front ++ later)) = byte :: (rest ++ later) := by
  have same : runLength isSeparator (front ++ later) = runLength isSeparator front := by
    rcases run_length_settled isSeparator front later with same | ⟨full, -⟩
    · exact same
    · rw [full, List.drop_length] at found
      cases found
  refine ⟨same, ?_⟩
  rw [same, List.drop_append_of_le_length (run_length_le isSeparator front), found,
    List.cons_append]

theorem tag_remainder_agreed (position : Nat) (front later : List UInt8) :
    RemainderAgreed front (tagRemainder position front)
      (tagRemainder position (front ++ later)) := by
  fun_induction tagRemainder position front with
  | case1 position front separators ended =>
      have run : runLength isSeparator front = front.length :=
        Nat.le_antisymm (run_length_le isSeparator front) (List.drop_eq_nil_iff.mp ended)
      have followed : front.length ≤ runLength isSeparator (front ++ later) := by
        rcases run_length_settled isSeparator front later with same | ⟨-, longer⟩
        · omega
        · exact longer
      exact Or.inr ⟨Nat.le_of_eq run.symm,
        Nat.le_trans followed (separators_le_remainder position (front ++ later))⟩
  | case2 position front separators rest found =>
      obtain ⟨run, behind⟩ := separators_settled found later
      rw [tag_remainder_cons behind, run]
      exact Or.inl rfl
  | case3 position front separators byte rest found greater closed =>
      obtain ⟨run, behind⟩ := separators_settled found later
      have still : (decide (byte = Byte.slash) && (rest ++ later).head? == some Byte.greater) =
          true := by
        simp only [Bool.and_eq_true, decide_eq_true_eq, beq_iff_eq] at closed ⊢
        rw [List.head?_append, closed.2]
        exact ⟨closed.1, rfl⟩
      rw [tag_remainder_cons behind, run]
      dsimp only
      rw [if_neg greater, if_pos still]
      exact Or.inl rfl
  | case4 position front separators rest found greater closed =>
      obtain ⟨run, behind⟩ := separators_settled found later
      rw [tag_remainder_cons behind, run]
      exact Or.inl rfl
  | case5 position front separators byte rest found greater closed less named start taken
      induction =>
      obtain ⟨run, behind⟩ := separators_settled found later
      have size : front.length = separators + (byte :: rest).length := by
        rw [← found, List.length_drop]
        exact (Nat.add_sub_cancel' (run_length_le isSeparator front)).symm
      have within : taken ≤ (byte :: rest).length := cut_le (attribute_length_cut (byte :: rest))
      have slash := (attribute_byte_facts named).2.2.2.2.2.2.2.1
      rw [tag_remainder_cons behind, run]
      simp only [greater, less, slash, decide_false, Bool.false_and, Bool.false_eq_true, if_false,
        named, if_true]
      rw [← List.cons_append]
      rcases attribute_agreed (byte :: rest) later with ⟨length, same⟩ | ⟨alone, followed⟩
      · rw [length, same, List.drop_append_of_le_length within]
        apply remainder_agreed_after (by omega)
        rw [← List.drop_drop, found]
        exact remainder_agreed_attribute _ induction
      · have aloneReaches := unclosed_reaches alone (start + taken) []
        rw [List.append_nil] at aloneReaches
        have followedReaches := unclosed_reaches followed
          (start + attributeLength (byte :: rest ++ later)) later
        simp only [RemainderAgreed, TagRemainder.after, TagRemainder.withAttribute, size,
          Nat.add_assoc separators]
        refine Or.inr ⟨Nat.add_le_add_left aloneReaches separators, ?_⟩
        rw [Nat.add_assoc]
        exact Nat.add_le_add_left followedReaches separators
  | case6 position front separators byte rest found greater closed less unnamed taken induction =>
      obtain ⟨run, behind⟩ := separators_settled found later
      have size : front.length = separators + (1 + rest.length) := by
        have length := congrArg List.length found
        rw [List.length_drop, List.length_cons] at length
        have within := run_length_le isSeparator front
        omega
      by_cases across : (decide (byte = Byte.slash) &&
          (rest ++ later).head? == some Byte.greater) = true
      · -- a slash at the end of the front, with the rest of its mark behind it
        have ended : rest = [] := by
          cases rest with
          | nil => rfl
          | cons next rest => exact absurd across closed
        rw [tag_remainder_cons behind, run]
        dsimp only
        rw [if_neg greater, if_pos across]
        simp only [RemainderAgreed, TagRemainder.after, size, ended, List.length_nil]
        exact Or.inr ⟨by omega, by omega⟩
      · rw [tag_remainder_cons behind, run]
        dsimp only
        rw [if_neg greater, if_neg across, if_neg less, if_neg unnamed]
        have passed : Settled rest taken
            (if isQuote byte then stringTail byte (rest ++ later) else 0) := by
          simp only [taken]
          split
          · exact string_tail_settled byte rest later
          · exact settled_same rest 0
        have within : taken ≤ rest.length := by
          simp only [taken]
          split
          · rename_i quoted
            exact cut_le (string_tail_cut (quote_ascii quoted) rest)
          · exact Nat.zero_le _
        rcases passed with same | ⟨full, longer⟩
        · rw [same, List.drop_append_of_le_length within]
          apply remainder_agreed_after (by omega)
          rw [Nat.add_assoc, ← List.drop_drop, found, Nat.add_comm 1, List.drop_succ_cons]
          exact induction
        · simp only [RemainderAgreed, TagRemainder.after, size]
          exact Or.inr ⟨by omega, by omega⟩

def tagHeadLength (input : List UInt8) : Nat :=
  tagNameLength input + tagSuffixLength (input.drop (tagNameLength input))

def tagLength (input : List UInt8) : Nat :=
  tagHeadLength input + (tagRemainder 0 (input.drop (tagHeadLength input))).length

theorem tag_at_parts (position : Nat) (input : List UInt8) :
    tagAt position input =
      { name := decode (input.take (tagNameLength input))
        span := ⟨position, position + 1 + tagHeadLength input +
          (tagRemainder (position + 1 + tagHeadLength input)
            (input.drop (tagHeadLength input))).length⟩
        nameEnd := position + 1 + tagNameLength input
        attributes := (tagRemainder (position + 1 + tagHeadLength input)
          (input.drop (tagHeadLength input))).attributes } := by
  simp only [tagAt, tagHeadLength, Nat.add_assoc]

theorem tag_extent_parts (input : List UInt8) :
    tagExtent input =
      if (tagRemainder 0 (input.drop (tagHeadLength input))).opensBody &&
          isRawElement (input.take (tagNameLength input)) then
        tagLength input +
          rawBodyLength (input.take (tagNameLength input)) (input.drop (tagLength input))
      else tagLength input := rfl

theorem tag_at_stop (position : Nat) (input : List UInt8) :
    (tagAt position input).span.stop = position + 1 + tagLength input := by
  rw [tag_at_parts, tagLength, tag_remainder_length _ 0, Nat.add_assoc]

theorem tag_length_le_extent (input : List UInt8) : tagLength input ≤ tagExtent input := by
  rw [tag_extent_parts]
  split
  · exact Nat.le_add_right _ _
  · exact Nat.le_refl _

theorem tag_head_le (input : List UInt8) : tagHeadLength input ≤ input.length := by
  have name := cut_le (tag_name_length_cut input)
  have suffix := lands_le (tag_suffix_length_lands (input.drop (tagNameLength input)))
  rw [List.length_drop] at suffix
  rw [tagHeadLength]
  omega

theorem tag_head_settled (front later : List UInt8) :
    Settled front (tagHeadLength front) (tagHeadLength (front ++ later)) :=
  settled_add tagSuffixLength rfl (cut_le (tag_name_length_cut front))
    (tag_name_length_settled front later) (tag_suffix_length_settled _ later)

/-- A tag whose parts are all read alike whatever follows. -/
structure TagAgreed (front later : List UInt8) : Prop where
  name : tagNameLength (front ++ later) = tagNameLength front
  head : tagHeadLength (front ++ later) = tagHeadLength front
  remainder : ∀ position, tagRemainder position ((front ++ later).drop (tagHeadLength front)) =
    tagRemainder position (front.drop (tagHeadLength front))
  ended : tagLength front < front.length

theorem tag_agreed (front later : List UInt8) :
    TagAgreed front later ∨ front.length ≤ tagLength front ∧
      front.length ≤ tagLength (front ++ later) := by
  have within := tag_head_le front
  have behind : (front ++ later).drop (tagHeadLength front) =
      front.drop (tagHeadLength front) ++ later := List.drop_append_of_le_length within
  have rest := List.length_drop (i := tagHeadLength front) (l := front)
  rcases tag_name_length_settled front later with name | ⟨full, longer⟩
  · rcases tag_head_settled front later with head | ⟨full, longer⟩
    · rcases tag_remainder_agreed 0 (front.drop (tagHeadLength front)) later with
        same | ⟨alone, followed⟩
      · by_cases ended : (tagRemainder 0 (front.drop (tagHeadLength front))).length <
            (front.drop (tagHeadLength front)).length
        · refine Or.inl ⟨name, head, ?_, ?_⟩
          · intro position
            rw [tag_remainder_length 0 position] at ended
            rw [behind]
            rcases tag_remainder_agreed position _ later with same | ⟨reached, -⟩
            · exact same
            · omega
          · rw [tagLength]
            omega
        · rw [tagLength, tagLength, head, behind, same]
          exact Or.inr ⟨by omega, by omega⟩
      · rw [tagLength, tagLength, head, behind]
        exact Or.inr ⟨by omega, by omega⟩
    · rw [tagLength, tagLength]
      exact Or.inr ⟨by omega, by omega⟩
  · rw [tagLength, tagLength, tagHeadLength, tagHeadLength]
    exact Or.inr ⟨by omega, by omega⟩

theorem tag_at_agreed {front later : List UInt8} (agreed : TagAgreed front later)
    (position : Nat) : tagAt position (front ++ later) = tagAt position front := by
  rw [tag_at_parts, tag_at_parts, agreed.name, agreed.head, agreed.remainder,
    List.take_append_of_le_length (cut_le (tag_name_length_cut front))]

theorem lower_byte_low {byte mark : UInt8} (low : mark < 0x61) (lower : lowerByte byte = mark) :
    byte = mark := by
  rw [lowerByte] at lower
  split at lower
  · rename_i upper
    simp only [Bool.and_eq_true, decide_eq_true_eq, UInt8.le_iff_toNat_le] at upper
    have sum := congrArg UInt8.toNat lower
    rw [UInt8.lt_iff_toNat_lt] at low
    rw [UInt8.toNat_add] at sum
    simp only [UInt8.reduceToNat] at sum upper low
    omega
  · exact lower

theorem declaration_tail_append {front : List UInt8}
    (inside : ∀ byte ∈ front, byte ≠ Byte.less ∧ byte ≠ Byte.greater) (rest : List UInt8) :
    declarationTail (front ++ rest) = front.length + declarationTail rest := by
  induction front with
  | nil => simp
  | cons byte front induction =>
      rw [List.forall_mem_cons] at inside
      rw [List.cons_append, declarationTail, if_neg inside.1.2, if_neg inside.1.1,
        induction inside.2, List.length_cons]
      omega

theorem raw_element_inside {name : List UInt8} (raw : isRawElement name = true) :
    ∀ byte ∈ name.map lowerByte, byte ≠ Byte.less ∧ byte ≠ Byte.greater := by
  simp only [isRawElement, Bool.or_eq_true, beq_iff_eq] at raw
  have script : (Text.bytes "script").all fun byte =>
      byte ≠ Byte.less ∧ byte ≠ Byte.greater := by decide
  have style : (Text.bytes "style").all fun byte =>
      byte ≠ Byte.less ∧ byte ≠ Byte.greater := by decide
  rw [List.all_eq_true] at script style
  rcases raw with same | same
  · rw [same]
    exact fun byte member => of_decide_eq_true (script byte member)
  · rw [same]
    exact fun byte member => of_decide_eq_true (style byte member)

/-- The scan passes over the start of a closing tag as a whole. -/
theorem gap_length_starts_closing {name input : List UInt8} (raw : isRawElement name = true)
    (closes : startsClosing name input = true) : 2 + name.length ≤ gapLength input := by
  rw [startsClosing, beq_iff_eq, Nat.add_comm 2] at closes
  cases input with
  | nil => cases closes
  | cons first behind =>
      cases behind with
      | nil => cases (List.cons.inj closes).2
      | cons second rest =>
          obtain ⟨less, others⟩ := List.cons.inj closes
          obtain ⟨slash, named⟩ := List.cons.inj others
          obtain rfl := lower_byte_low (by decide) less
          obtain rfl := lower_byte_low (by decide) slash
          have size : (rest.take name.length).length = name.length := by
            simpa using congrArg List.length named
          have inside : ∀ byte ∈ rest.take name.length, byte ≠ Byte.less ∧ byte ≠ Byte.greater := by
            intro byte member
            have lowered : lowerByte byte ∈ name.map lowerByte := by
              change _ = name.map lowerByte at named
              rw [← named]
              exact List.mem_map_of_mem member
            have clean := raw_element_inside raw (lowerByte byte) lowered
            constructor
            · rintro rfl
              exact clean.1 rfl
            · rintro rfl
              exact clean.2 rfl
          have taken := declaration_tail_append inside (rest.drop name.length)
          rw [List.take_append_drop, size] at taken
          have passed : passOver? Byte.less (Byte.slash :: rest) =
              some (1 + declarationTail rest) := rfl
          rw [gap_length_pass passed]
          omega

theorem raw_body_length_short {name input : List UInt8} (short : input.length < 2 + name.length) :
    rawBodyLength name input = input.length := by
  induction input with
  | nil => rfl
  | cons byte rest induction =>
      have unclosed : ¬ startsClosing name (byte :: rest) = true := by
        intro closes
        rw [startsClosing, beq_iff_eq] at closes
        have size := congrArg List.length closes
        simp only [List.length_map, List.length_take, List.length_append, List.length_cons,
          List.length_nil] at size short
        omega
      rw [List.length_cons] at short
      rw [rawBodyLength, if_neg unclosed, induction (by omega), List.length_cons, Nat.add_comm]

/-- The body of a raw element is read alike whatever follows, or else the scan
passes over the whole front from the end of the body on. -/
theorem raw_body_agreed {name : List UInt8} (raw : isRawElement name = true)
    (front later : List UInt8) :
    rawBodyLength name (front ++ later) = rawBodyLength name front ∨
      rawBodyLength name front = front.length ∧
        front.length ≤ rawBodyLength name (front ++ later) +
          gapLength ((front ++ later).drop (rawBodyLength name (front ++ later))) := by
  induction front with
  | nil => exact Or.inr ⟨rfl, Nat.zero_le _⟩
  | cons byte rest induction =>
      have step (length : Nat) : (byte :: (rest ++ later)).drop (1 + length) =
          (rest ++ later).drop length := by
        rw [Nat.add_comm, List.drop_succ_cons]
      by_cases short : (byte :: rest).length < 2 + name.length
      · -- the front has no room for a closing tag, which can at most begin in it
        refine Or.inr ⟨raw_body_length_short short, ?_⟩
        rw [List.length_cons] at short
        rw [raw_body_length_short (by omega : rest.length < 2 + name.length)] at induction
        rw [List.cons_append, rawBodyLength, List.length_cons]
        split
        · rename_i closes
          have passed := gap_length_starts_closing raw closes
          rw [List.drop_zero]
          omega
        · rw [step]
          omega
      · have same : startsClosing name (byte :: (rest ++ later)) =
            startsClosing name (byte :: rest) := by
          rw [startsClosing, ← List.cons_append,
            List.take_append_of_le_length (Nat.le_of_not_lt short), startsClosing]
        rw [List.cons_append, rawBodyLength, rawBodyLength, same]
        split
        · exact Or.inl rfl
        · rw [step, List.length_cons]
          omega

theorem tag_extent_le {front : List UInt8} (ended : tagLength front ≤ front.length) :
    tagExtent front ≤ front.length := by
  rw [tag_extent_parts]
  split
  · have body := cut_le (raw_body_length_cut (front.take (tagNameLength front))
      (front.drop (tagLength front)))
    rw [List.length_drop] at body
    omega
  · exact ended

theorem tag_extent_agreed {front later : List UInt8} (agreed : TagAgreed front later) :
    tagExtent (front ++ later) = tagExtent front ∨
      tagExtent front = front.length ∧ front.length ≤ tagExtent (front ++ later) +
        gapLength ((front ++ later).drop (tagExtent (front ++ later))) := by
  have ended := Nat.le_of_lt agreed.ended
  have length : tagLength (front ++ later) = tagLength front := by
    rw [tagLength, tagLength, agreed.head, agreed.remainder]
  rw [tag_extent_parts, tag_extent_parts, agreed.name, agreed.head, agreed.remainder, length,
    List.take_append_of_le_length (cut_le (tag_name_length_cut front)),
    List.drop_append_of_le_length ended]
  split
  · rename_i opens
    rw [Bool.and_eq_true] at opens
    have body := raw_body_agreed opens.2 (front.drop (tagLength front)) later
    rw [List.length_drop, ← List.drop_append_of_le_length ended, List.drop_drop] at body
    rw [← List.drop_append_of_le_length ended]
    omega
  · exact Or.inl rfl

theorem pass_over_comment {rest : List UInt8}
    (comment : [Byte.exclamation, Byte.hyphen, Byte.hyphen].isPrefixOf rest = true) :
    passOver? Byte.less rest =
      some (3 + lengthThrough [Byte.hyphen, Byte.hyphen, Byte.greater] (rest.drop 3)) := by
  rw [passOver?.eq_def, if_neg (by decide), if_pos rfl, if_pos comment]

theorem pass_over_mark {next : UInt8} {rest : List UInt8}
    (other : ¬ [Byte.exclamation, Byte.hyphen, Byte.hyphen].isPrefixOf (next :: rest) = true) :
    passOver? Byte.less (next :: rest) =
      if next = Byte.exclamation || next = Byte.question || next = Byte.slash then
        some (1 + declarationTail rest)
      else if isTagStart next then none
      else some 0 := by
  rw [passOver?.eq_def, if_neg (by decide), if_pos rfl, if_neg other]

/-- A comment that only what follows the front opens is up to there a declaration
that is not closed. -/
theorem comment_across {next : UInt8} {rest later : List UInt8}
    (other : ¬ [Byte.exclamation, Byte.hyphen, Byte.hyphen].isPrefixOf (next :: rest) = true)
    (comment : [Byte.exclamation, Byte.hyphen, Byte.hyphen].isPrefixOf (next :: rest ++ later) =
      true) :
    next = Byte.exclamation ∧ rest.length ≤ 1 ∧ declarationTail rest = rest.length := by
  match rest with
  | [] =>
      simp only [List.isPrefixOf, List.cons_append, Bool.and_eq_true, beq_iff_eq] at comment
      exact ⟨comment.1.symm, Nat.zero_le 1, rfl⟩
  | [second] =>
      simp only [List.isPrefixOf, List.cons_append, Bool.and_eq_true, beq_iff_eq] at comment
      obtain ⟨rfl, rfl, -⟩ := comment
      exact ⟨rfl, Nat.le_refl 1, rfl⟩
  | second :: third :: more =>
      simp only [List.isPrefixOf, List.cons_append] at other comment
      exact absurd comment other

/-- What is passed over between tags is settled, but for a `<` at the end of the
front, which may start a tag. -/
theorem pass_over_settled {byte : UInt8} {rest : List UInt8} {more : Nat}
    (passed : passOver? byte rest = some more) (later : List UInt8) :
    (∃ longer, passOver? byte (rest ++ later) = some longer ∧ Settled rest more longer) ∨
      rest = [] ∧ passOver? byte later = none := by
  cases rest with
  | nil =>
      obtain rfl : more = 0 := Nat.le_zero.mp (pass_over_le passed)
      cases followed : passOver? byte later with
      | none => exact Or.inr ⟨rfl, rfl⟩
      | some longer => exact Or.inl ⟨longer, followed, settled_nil longer⟩
  | cons next rest =>
      left
      by_cases less : byte = Byte.less
      · subst less
        by_cases comment :
            [Byte.exclamation, Byte.hyphen, Byte.hyphen].isPrefixOf (next :: rest) = true
        · have within : 3 ≤ (next :: rest).length :=
            (List.isPrefixOf_iff_prefix.mp comment).length_le
          have still := List.isPrefixOf_iff_prefix.mpr
            ((List.isPrefixOf_iff_prefix.mp comment).trans (List.prefix_append _ later))
          rw [pass_over_comment comment, Option.some.injEq] at passed
          refine ⟨_, pass_over_comment still, ?_⟩
          rw [← passed, List.drop_append_of_le_length within]
          exact settled_drop within (length_through_settled _ _ later)
        · rw [pass_over_mark comment] at passed
          by_cases across :
              [Byte.exclamation, Byte.hyphen, Byte.hyphen].isPrefixOf (next :: rest ++ later) =
                true
          · obtain ⟨rfl, short, tail⟩ := comment_across comment across
            refine ⟨_, pass_over_comment across, Or.inr ⟨?_, ?_⟩⟩
            · rw [if_pos (by decide), Option.some.injEq, tail] at passed
              rw [← passed, List.length_cons, Nat.add_comm]
            · rw [List.length_cons]
              omega
          · rw [List.cons_append] at across ⊢
            rw [pass_over_mark across]
            split at passed
            · rename_i mark
              rw [Option.some.injEq] at passed
              rw [if_pos mark, ← passed]
              exact ⟨_, rfl, settled_cons next (declaration_tail_settled rest later)⟩
            · rename_i mark
              rw [if_neg mark]
              split at passed
              · cases passed
              · rename_i starts
                rw [if_neg starts]
                exact ⟨more, passed, settled_same _ more⟩
      · rw [passOver?.eq_def] at passed ⊢
        split at passed
        · rename_i dollar
          rw [Option.some.injEq] at passed
          rw [if_pos dollar, ← passed]
          exact ⟨_, rfl, group_length_settled Byte.openBrace (next :: rest) later⟩
        · rename_i other
          rw [if_neg other, if_neg less]
          exact ⟨more, passed, settled_same _ more⟩

theorem pass_over_none_append {byte : UInt8} {rest : List UInt8}
    (stopped : passOver? byte rest = none) (later : List UInt8) :
    gapLength (byte :: (rest ++ later)) = 0 := by
  obtain ⟨rfl, first, more, rfl, starts⟩ := pass_over_none stopped
  exact gap_length_tag starts (more ++ later)

/-- What stands between tags is the same whatever follows, or else it takes all
of the front, or all but a `<` at its end. -/
theorem gap_length_agreed (front later : List UInt8) :
    gapLength (front ++ later) = gapLength front ∨
      gapLength front = front.length ∧ front.length ≤ gapLength (front ++ later) + 1 := by
  fun_induction gapLength front with
  | case1 => exact Or.inr ⟨rfl, Nat.zero_le _⟩
  | case2 byte rest stopped => exact Or.inl (pass_over_none_append stopped later)
  | case3 byte rest more passed induction =>
      have within := pass_over_le passed
      rcases pass_over_settled passed later with ⟨longer, followed, settled⟩ | ⟨rfl, stopped⟩
      · rw [List.cons_append, gap_length_pass followed]
        rcases settled with rfl | ⟨full, reached⟩
        · rw [List.drop_append_of_le_length within, List.length_cons]
          rw [List.length_drop] at induction
          omega
        · rw [full, List.drop_length, gapLength, List.length_cons]
          omega
      · obtain rfl : more = 0 := Nat.le_zero.mp within
        refine Or.inr ⟨?_, Nat.le_add_left 1 _⟩
        rw [List.drop_zero, gapLength]
        rfl

/-- What one step of the scan reads: a gap, then a tag. -/
theorem next_tag_parts {cursor after : Cursor} {tag : Tag}
    (found : cursor.nextTag? = some (tag, after)) :
    ∃ input, cursor.rest.drop (gapLength cursor.rest) = Byte.less :: input ∧
      tag = tagAt (cursor.position + gapLength cursor.rest) input ∧
      after = ⟨cursor.position + gapLength cursor.rest + 1 + tagExtent input,
        input.drop (tagExtent input)⟩ := by
  simp only [Cursor.nextTag?, Cursor.advance] at found
  rcases gap_length_stop cursor.rest with ended | ⟨first, later, stands, starts⟩
  · simp [ended] at found
  · rw [stands] at found ⊢
    simp only [Option.some.injEq, Prod.mk.injEq] at found
    refine ⟨first :: later, rfl, found.1.symm, ?_⟩
    rw [← found.2, Nat.add_comm 1, List.drop_succ_cons, ← Nat.add_assoc, Nat.add_right_comm]

theorem tags_behind_gap (cursor : Cursor) :
    ∀ tag ∈ cursor.tags, cursor.position + gapLength cursor.rest < tag.span.stop := by
  fun_induction Cursor.tags cursor with
  | case1 cursor ended => exact List.forall_mem_nil _
  | case2 cursor tag after found induction =>
      obtain ⟨input, -, rfl, rfl⟩ := next_tag_parts found
      rw [List.forall_mem_cons]
      constructor
      · rw [tag_at_stop]
        omega
      · intro other member
        have behind := induction other member
        dsimp only at behind
        omega

def Tag.endsBefore (limit : Nat) (tag : Tag) : Bool := tag.span.stop < limit

theorem filter_tags_behind {cursor : Cursor} {limit : Nat}
    (behind : limit ≤ cursor.position + gapLength cursor.rest + 1) :
    cursor.tags.filter (Tag.endsBefore limit) = [] := by
  rw [List.filter_eq_nil_iff]
  intro tag member
  have stop := tags_behind_gap cursor tag member
  simp only [Tag.endsBefore, decide_eq_true_eq]
  omega

/-- A tag that is found where the input ends is found where more follows too. -/
theorem next_tag_followed {cursor : Cursor} {input : List UInt8}
    (stands : cursor.rest.drop (gapLength cursor.rest) = Byte.less :: input) (later : List UInt8) :
    Cursor.nextTag? ⟨cursor.position, cursor.rest ++ later⟩ =
      some (tagAt (cursor.position + gapLength cursor.rest) (input ++ later),
        ⟨cursor.position + gapLength cursor.rest + 1 + tagExtent (input ++ later),
          (input ++ later).drop (tagExtent (input ++ later))⟩) := by
  have same : gapLength (cursor.rest ++ later) = gapLength cursor.rest := by
    rcases gap_length_agreed cursor.rest later with same | ⟨full, -⟩
    · exact same
    · rw [full, List.drop_length] at stands
      cases stands
  have within := cut_le (gap_length_cut cursor.rest)
  simp only [Cursor.nextTag?, Cursor.advance, same, List.drop_append_of_le_length within, stands,
    List.cons_append, Nat.add_comm 1, List.drop_succ_cons]
  rw [← Nat.add_assoc, Nat.add_right_comm]

theorem cursor_tags_agreed (cursor : Cursor) (later : List UInt8) {limit : Nat}
    (reached : limit = cursor.position + cursor.rest.length) :
    (Cursor.tags ⟨cursor.position, cursor.rest ++ later⟩).filter (Tag.endsBefore limit) =
      cursor.tags.filter (Tag.endsBefore limit) := by
  fun_induction Cursor.tags cursor with
  | case1 cursor ended =>
      have empty : cursor.rest.drop (gapLength cursor.rest) = [] := by
        rcases gap_length_stop cursor.rest with empty | ⟨first, more, stands, -⟩
        · exact empty
        · have found := next_tag_followed stands []
          rw [List.append_nil] at found
          rw [found] at ended
          cases ended
      have full := List.drop_eq_nil_iff.mp empty
      apply filter_tags_behind
      rcases gap_length_agreed cursor.rest later with same | ⟨-, longer⟩
      · dsimp only
        omega
      · dsimp only
        omega
  | case2 cursor tag after found induction =>
      obtain ⟨input, stands, rfl, rfl⟩ := next_tag_parts found
      have size : limit = cursor.position + gapLength cursor.rest + 1 + input.length := by
        have length := congrArg List.length stands
        rw [List.length_drop, List.length_cons] at length
        omega
      rw [tags_of_next_some (next_tag_followed stands later), List.filter_cons, List.filter_cons]
      rcases tag_agreed input later with agreed | ⟨aloneLong, followedLong⟩
      · have within := tag_extent_le (Nat.le_of_lt agreed.ended)
        have tails : (Cursor.tags
              ⟨cursor.position + gapLength cursor.rest + 1 + tagExtent (input ++ later),
                (input ++ later).drop (tagExtent (input ++ later))⟩).filter
              (Tag.endsBefore limit) =
            (Cursor.tags ⟨cursor.position + gapLength cursor.rest + 1 + tagExtent input,
              input.drop (tagExtent input)⟩).filter (Tag.endsBefore limit) := by
          rcases tag_extent_agreed agreed with same | ⟨full, longer⟩
          · rw [same, List.drop_append_of_le_length within]
            apply induction
            rw [List.length_drop]
            dsimp only
            omega
          · -- the front ends in a raw body, behind which no tag ends in front of the limit
            rw [filter_tags_behind (by dsimp only; omega),
              filter_tags_behind (by dsimp only; omega)]
        rw [tag_at_agreed agreed, tails]
      · -- the tag ends behind the front, and so does all that follows it
        have aloneExtent := tag_length_le_extent input
        have followedExtent := tag_length_le_extent (input ++ later)
        have aloneOut : Tag.endsBefore limit
            (tagAt (cursor.position + gapLength cursor.rest) input) = false := by
          simp only [Tag.endsBefore, tag_at_stop, decide_eq_false_iff_not]
          omega
        have followedOut : Tag.endsBefore limit
            (tagAt (cursor.position + gapLength cursor.rest) (input ++ later)) = false := by
          simp only [Tag.endsBefore, tag_at_stop, decide_eq_false_iff_not]
          omega
        rw [if_neg (Bool.eq_false_iff.mp aloneOut), if_neg (Bool.eq_false_iff.mp followedOut),
          filter_tags_behind (by dsimp only; omega), filter_tags_behind (by dsimp only; omega)]

theorem tags_before_edit (front later : String) :
    (tags (front ++ later)).filter (Tag.endsBefore front.utf8ByteSize) =
      (tags front).filter (Tag.endsBefore front.utf8ByteSize) := by
  rw [tags, bytes_append]
  exact cursor_tags_agreed ⟨0, bytes front⟩ (bytes later) (Nat.zero_add _).symm

def Event.endsBefore (limit : Nat) : Event → Bool
  | .openTag tag => tag.endsBefore limit
  | .finished => false

theorem events_filter_before (text : String) (limit : Nat) :
    (events text).filter (Event.endsBefore limit) =
      ((tags text).filter (Tag.endsBefore limit)).map Event.openTag := by
  rw [events_eq_tags, List.filter_append, List.filter_map]
  exact List.append_nil _

/-- Since tags are in order, the first tag around an offset ends no later than
any other around it: the tags that end in front of a limit decide. -/
theorem find_covering_before {found : List Tag} {limit offset : Nat} {tag : Tag}
    (ordered : found.Pairwise fun first second => first.span.stop ≤ second.span.start)
    (member : tag ∈ found) (ended : tag.endsBefore limit = true) (contains : tag.Contains offset) :
    (found.find? fun tag => tag.span.covers offset) =
      (found.filter (Tag.endsBefore limit)).find? fun tag => tag.span.covers offset := by
  induction found with
  | nil => rfl
  | cons earlier found induction =>
      obtain ⟨behind, ordered⟩ := List.pairwise_cons.mp ordered
      rw [List.find?_cons, List.filter_cons]
      by_cases covered : earlier.span.covers offset = true
      · have earlierEnded : earlier.endsBefore limit = true := by
          rcases List.mem_cons.mp member with rfl | member
          · exact ended
          · have order := behind tag member
            simp only [Tag.endsBefore, decide_eq_true_eq] at ended ⊢
            exact Nat.lt_of_le_of_lt (Nat.le_trans order (Nat.le_trans contains.1 contains.2)) ended
        rw [if_pos earlierEnded, List.find?_cons, covered]
      · have member : tag ∈ found := by
          rcases List.mem_cons.mp member with rfl | member
          · exact absurd ((covers_iff tag offset).mpr contains) covered
          · exact member
        rw [Bool.not_eq_true] at covered
        by_cases earlierEnded : earlier.endsBefore limit = true
        · rw [if_pos earlierEnded, List.find?_cons, covered]
          exact induction ordered member
        · rw [if_neg earlierEnded, covered]
          exact induction ordered member

theorem on_name_before_edit (front later : String) {offset : Nat}
    (inside : offset < front.utf8ByteSize) :
    onName (front ++ later) offset = onName front offset := by
  rw [onName, onName, bytes_append, List.getElem?_append_left (by rwa [length_bytes])]

theorem scope_before_edit {front later : String} {offset : Nat} {tag : Tag}
    (member : tag ∈ (tags front).filter (Tag.endsBefore front.utf8ByteSize))
    (contains : tag.Contains offset) : scopeAt (front ++ later) offset = scopeAt front offset := by
  have sameTags := tags_before_edit front later
  have followedMember := List.mem_filter.mp (sameTags ▸ member)
  obtain ⟨member, ended⟩ := List.mem_filter.mp member
  have inside : offset < front.utf8ByteSize :=
    Nat.lt_of_le_of_lt contains.2 (of_decide_eq_true ended)
  have followed :=
    find_covering_before (tags_placed (front ++ later)).2 followedMember.1 ended contains
  have alone := find_covering_before (tags_placed front).2 member ended contains
  rw [scope_at_find, scope_at_find, followed, alone, sameTags]
  congr 1
  funext found
  rw [Tag.scopeAt, Tag.scopeAt, on_name_before_edit front later inside]

/-- Two texts that start alike report the same tags that end inside what they
share, and in those tags every offset has the same scope in both. -/
theorem tags_stable_under_later_edits (front first second : String) :
    (events (front ++ first)).filter (Event.endsBefore front.utf8ByteSize) =
        (events (front ++ second)).filter (Event.endsBefore front.utf8ByteSize) ∧
      ∀ tag, Event.openTag tag ∈ events (front ++ first) →
        tag.span.stop < front.utf8ByteSize →
        ∀ offset, tag.span.start ≤ offset → offset ≤ tag.span.stop →
          scopeAt (front ++ first) offset = scopeAt (front ++ second) offset := by
  constructor
  · simp only [events_filter_before, tags_before_edit]
  · intro tag reported ended offset start stop
    have among : Event.openTag tag ∈
        (events (front ++ first)).filter (Event.endsBefore front.utf8ByteSize) :=
      List.mem_filter.mpr ⟨reported, decide_eq_true ended⟩
    rw [events_filter_before, tags_before_edit, List.mem_map] at among
    obtain ⟨same, member, equal⟩ := among
    cases equal
    rw [scope_before_edit member ⟨start, stop⟩, scope_before_edit member ⟨start, stop⟩]

/-- The edit turns what follows the tag into the body of a style sheet. -/
theorem tags_stable_under_later_edits_style :
    scopeAt ("<a b('c')=d><style" ++ " x><p>") 6 = scopeAt ("<a b('c')=d><style" ++ ">{}<!--") 6 ∧
      scopeAt ("<a b('c')=d><style" ++ " x><p>") 6 = some ⟨"a", .attributeValue "c"⟩ := by
  have scope : scopeAt ("<a b('c')=d><style" ++ " x><p>") 6 =
      some ⟨"a", .attributeValue "c"⟩ := by decide +kernel
  have reported : Event.openTag ⟨"a", ⟨0, 12⟩, 2, [⟨"b", ⟨4, 11⟩, some ⟨⟨4, 9⟩, "'c'"⟩⟩]⟩ ∈
      events ("<a b('c')=d><style" ++ " x><p>") := by decide +kernel
  exact ⟨(tags_stable_under_later_edits "<a b('c')=d><style" " x><p>" ">{}<!--").2 _ reported
    (by decide) 6 (by decide) (by decide), scope⟩

end TemplateServer.Markup
