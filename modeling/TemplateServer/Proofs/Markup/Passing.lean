import TemplateServer.Proofs.Markup.Cuts
import TemplateServer.Proofs.Markup.Grammar
import TemplateServer.Proofs.Markup.InPlace

/-!
What the scan in place passes over between the tags and inside of them. Every round
of its loops goes forward and stays inside the text, so the loops end, and they pass
over as many bytes as the scan counts.
-/

namespace TemplateServer.Markup.InPlace

open Text (bytes length_bytes cut_le Boundary RestAt rest_at_cut cut_behind)

section Loops

variable {State Result : Type} {round : State → Run (Turn State Result)} {state next : State}
  {result : Result}

theorem loop_again (turn : round state = pure (.again next)) :
    loop round state = loop round next := by
  rw [loop, Turn.follow, turn, pure_bind, loop]

theorem loop_done (turn : round state = pure (.done result)) :
    loop round state = pure result := by
  rw [loop, Turn.follow, turn, pure_bind, Turn.follow]

end Loops

section Bytes

variable {text : String} {index : Nat} {byte : UInt8} {rest : List UInt8}

theorem demand_allowed {access : Access} (allowed : access.Allowed text) :
    demand text access = pure () := if_pos allowed

theorem drop_of_outside (outside : text.utf8ByteSize ≤ index) : (bytes text).drop index = [] := by
  rwa [List.drop_eq_nil_iff, length_bytes]

theorem size_eq (stands : (bytes text).drop index = byte :: rest) :
    index + 1 + rest.length = text.utf8ByteSize := by
  have length := congrArg List.length stands
  rw [List.length_drop, length_bytes, List.length_cons] at length
  omega

theorem inside (stands : (bytes text).drop index = byte :: rest) :
    index < text.utf8ByteSize := by
  have size := size_eq stands
  omega

theorem drop_next (stands : (bytes text).drop index = byte :: rest) :
    (bytes text).drop (index + 1) = rest := by
  rw [← List.drop_drop, stands]
  rfl

theorem drop_behind (stands : (bytes text).drop index = byte :: rest) (count : Nat) :
    (bytes text).drop (index + 1 + count) = rest.drop count := by
  rw [← List.drop_drop, drop_next stands]

theorem byte_at_eq (stands : (bytes text).drop index = byte :: rest) :
    byteAt text index = pure byte := by
  have read : (bytes text).getD index 0 = byte := by
    rw [List.getD_eq_getElem?_getD, ← List.head?_drop, stands]
    rfl
  have allowed : (Access.byte index).Allowed text := inside stands
  rw [byteAt, demand_allowed allowed, pure_bind, read]

/-- A round that looks at a byte inside the text. -/
theorem at_byte {Result : Type} (stands : (bytes text).drop index = byte :: rest)
    (go : UInt8 → Run Result) (ended : Run Result) :
    (if index < text.utf8ByteSize then byteAt text index >>= go else ended) = go byte := by
  rw [if_pos (inside stands), byte_at_eq stands, pure_bind]

theorem peek_eq (text : String) (index : Nat) :
    peek text index = ((bytes text).drop index).head? := by
  rw [peek, List.head?_drop]

theorem peek_next (stands : (bytes text).drop index = byte :: rest) :
    peek text (index + 1) = rest.head? := by
  rw [peek_eq, drop_next stands]

/-- An ASCII byte stands between two boundaries. -/
theorem rest_at_ascii (stands : (bytes text).drop index = byte :: rest) (ascii : byte < 0x80) :
    RestAt text index (byte :: rest) := by
  have within := inside stands
  have split : bytes text = (bytes text).take index ++ byte :: rest := by
    rw [← stands, List.take_append_drop]
  have cut := Text.cut_before ascii ((bytes text).take index) rest
  rw [← split, List.length_take, length_bytes, Nat.min_eq_left (Nat.le_of_lt within)] at cut
  have place := rest_at_cut (Text.rest_at_start text) cut
  rwa [Nat.zero_add, stands] at place

end Bytes

/-- A loop over the bytes of a text that goes forward in every round and does not
leave the text. The value belongs to an index and the bytes from there on, and
passing over bytes keeps it. -/
structure Passes (text : String) {Result : Type} (round : Nat → Run (Turn Nat Result))
    (value : Nat → List UInt8 → Result) : Prop where
  outside : ∀ index, text.utf8ByteSize ≤ index → ∃ result, round index = pure (.done result) ∧
    (index = text.utf8ByteSize → result = value index [])
  forward : ∀ index byte rest, (bytes text).drop index = byte :: rest →
    round index = pure (.done (value index (byte :: rest))) ∨
      ∃ count, count ≤ rest.length ∧ round index = pure (.again (index + 1 + count)) ∧
        value (index + 1 + count) (rest.drop count) = value index (byte :: rest)

theorem Passes.loop_eq {text : String} {Result : Type} {round : Nat → Run (Turn Nat Result)}
    {value : Nat → List UInt8 → Result} (passes : Passes text round value) {index : Nat}
    (within : index ≤ text.utf8ByteSize) :
    loop round index = pure (value index ((bytes text).drop index)) := by
  -- By the number of bytes that are left: a round that goes on leaves fewer of them.
  induction left : text.utf8ByteSize - index using Nat.strongRecOn generalizing index with
  | ind left induction =>
      cases stands : (bytes text).drop index with
      | nil =>
          rw [List.drop_eq_nil_iff, length_bytes] at stands
          obtain ⟨result, turn, same⟩ := passes.outside index stands
          rw [loop_done turn, same (Nat.le_antisymm within stands)]
      | cons byte rest =>
          have size := size_eq stands
          rcases passes.forward index byte rest stands with ended | ⟨count, fits, turn, same⟩
          · exact loop_done ended
          · rw [loop_again turn, induction _ (by omega) (by omega) rfl, drop_behind stands, same]

section Skips

variable {text : String} {index : Nat} {byte : UInt8} {rest : List UInt8}

theorem run_length_next {member : UInt8 → Bool} (found : member byte = true) (rest : List UInt8) :
    runLength member (byte :: rest) = 1 + runLength member rest := by
  rw [runLength, List.takeWhile_cons, if_pos found, List.length_cons, Nat.add_comm, runLength]

theorem run_passes (text : String) (member : UInt8 → Bool) :
    Passes text (runRound text member) (fun index rest => index + runLength member rest) := by
  constructor
  · intro index outside
    rw [runRound, if_neg (Nat.not_lt.mpr outside)]
    exact ⟨index, rfl, fun _ => rfl⟩
  · intro index byte rest stands
    rw [runRound, at_byte stands]
    cases found : member byte with
    | false =>
        rw [run_length_stop found]
        exact Or.inl rfl
    | true =>
        refine Or.inr ⟨0, Nat.zero_le _, rfl, ?_⟩
        rw [run_length_next found, List.drop_zero]
        omega

theorem skip_run_eq (text : String) (member : UInt8 → Bool) (index : Nat) :
    skipRun text member index = pure (index + runLength member ((bytes text).drop index)) := by
  by_cases within : index ≤ text.utf8ByteSize
  · exact (run_passes text member).loop_eq within
  · have outside : text.utf8ByteSize ≤ index := by omega
    have turn : runRound text member index = pure (.done index) := by
      rw [runRound, if_neg (Nat.not_lt.mpr outside)]
    rw [skipRun, loop_done turn, drop_of_outside outside]
    rfl

/-- The loop of a string may step past the end, behind a backslash that is the last
byte, but does not go on from there. -/
theorem string_loop_eq {quote : UInt8} {input : List UInt8}
    (stands : (bytes text).drop index = input) (within : index ≤ text.utf8ByteSize) :
    loop (stringRound text quote) index = pure (index + stringTail quote input) := by
  have outside : ∀ past, text.utf8ByteSize ≤ past →
      stringRound text quote past = pure (.done text.utf8ByteSize) := by
    intro past ended
    rw [stringRound, if_neg (Nat.not_lt.mpr ended)]
  fun_induction stringTail quote input generalizing index with
  | case1 =>
      rw [List.drop_eq_nil_iff, length_bytes] at stands
      rw [loop_done (outside index stands), Nat.le_antisymm within stands, Nat.add_zero]
  | case2 =>
      have size := size_eq stands
      have turn : stringRound text quote index = pure (.again (index + 2)) := by
        rw [stringRound, at_byte stands, if_pos rfl]
      rw [List.length_nil] at size
      rw [loop_again turn, loop_done (outside _ (by omega)), ← size, Nat.add_zero]
  | case3 byte later induction =>
      have size := size_eq stands
      have turn : stringRound text quote index = pure (.again (index + 2)) := by
        rw [stringRound, at_byte stands, if_pos rfl]
      have behind : (bytes text).drop (index + 2) = later := drop_behind stands 1
      rw [List.length_cons] at size
      rw [loop_again turn, induction behind (by omega), Nat.add_assoc]
  | case4 rest unescaped =>
      have turn : stringRound text quote index = pure (.done (index + 1)) := by
        rw [stringRound, at_byte stands, if_neg unescaped, if_pos rfl]
      exact loop_done turn
  | case5 byte rest unescaped different induction =>
      have size := size_eq stands
      have turn : stringRound text quote index = pure (.again (index + 1)) := by
        rw [stringRound, at_byte stands, if_neg unescaped, if_neg different]
      rw [loop_again turn, induction (drop_next stands) (by omega), Nat.add_assoc]

theorem skip_string_eq (stands : (bytes text).drop index = byte :: rest) :
    skipString text index = pure (index + 1 + stringTail byte rest) := by
  rw [skipString, byte_at_eq stands, pure_bind, string_loop_eq (drop_next stands) (inside stands)]

/-- All that a round inside of a group can do. -/
theorem group_round_eq (stands : (bytes text).drop index = byte :: rest) (outer : Nat) :
    groupRound text ⟨index, outer + 1⟩ = pure (
      if isQuote byte then .again ⟨index + 1 + stringTail byte rest, outer + 1⟩
      else if isOpener byte then .again ⟨index + 1, outer + 2⟩
      else if isCloser byte then
        match outer with
        | 0 => .done (index + 1)
        | inner + 1 => .again ⟨index + 1, inner + 1⟩
      else .again ⟨index + 1, outer + 1⟩) := by
  rw [groupRound, at_byte stands]
  cases quoted : isQuote byte with
  | true => simp only [skip_string_eq stands, pure_bind, if_true]
  | false =>
      have entered : (Access.leave (outer + 1)).Allowed text := Nat.succ_pos outer
      simp only [Bool.false_eq_true, if_false, demand_allowed entered, pure_bind,
        Nat.add_sub_cancel]
      cases outer <;> split <;> try split
      all_goals rfl

/-- The loop of a group stays inside of at least one group until it ends. -/
theorem group_loop_eq {outer : Nat} {input : List UInt8}
    (stands : (bytes text).drop index = input) (within : index ≤ text.utf8ByteSize) :
    loop (groupRound text) ⟨index, outer + 1⟩ = pure (index + groupTail outer input) := by
  fun_induction groupTail outer input generalizing index with
  | case1 outer =>
      rw [List.drop_eq_nil_iff, length_bytes] at stands
      have turn : groupRound text ⟨index, outer + 1⟩ = pure (.done text.utf8ByteSize) := by
        rw [groupRound, if_neg (Nat.not_lt.mpr stands)]
      rw [loop_done turn, Nat.le_antisymm within stands, Nat.add_zero]
  | case2 outer byte rest quoted length =>
      rename_i induction
      have size := size_eq stands
      have tail := cut_le (string_tail_cut (quote_ascii quoted) rest)
      have turn := group_round_eq stands outer
      rw [if_pos quoted] at turn
      rw [loop_again turn, induction (drop_behind stands _) (by omega)]
      simp only [Nat.add_assoc, length]
  | case3 outer byte rest unquoted opens induction =>
      have size := size_eq stands
      have turn := group_round_eq stands outer
      rw [if_neg unquoted, if_pos opens] at turn
      rw [loop_again turn, induction (drop_next stands) (by omega), Nat.add_assoc]
  | case4 byte rest unquoted unopened closes =>
      have turn := group_round_eq stands 0
      rw [if_neg unquoted, if_neg unopened, if_pos closes] at turn
      exact loop_done turn
  | case5 byte rest unquoted unopened closes inner induction =>
      have size := size_eq stands
      have turn := group_round_eq stands (inner + 1)
      rw [if_neg unquoted, if_neg unopened, if_pos closes] at turn
      rw [loop_again turn, induction (drop_next stands) (by omega), Nat.add_assoc]
  | case6 outer byte rest unquoted unopened unclosed induction =>
      have size := size_eq stands
      have turn := group_round_eq stands outer
      rw [if_neg unquoted, if_neg unopened, if_neg unclosed] at turn
      rw [loop_again turn, induction (drop_next stands) (by omega), Nat.add_assoc]

theorem skip_group_eq (stands : (bytes text).drop index = byte :: rest)
    (opens : isOpener byte = true) :
    skipGroup text index = pure (index + 1 + groupTail 0 rest) := by
  have first : groupRound text ⟨index, 0⟩ = pure (.again ⟨index + 1, 1⟩) := by
    rw [groupRound, at_byte stands, if_neg (by simp [opener_not_quote opens]), if_pos opens]
  rw [skipGroup, loop_again first, group_loop_eq (drop_next stands) (inside stands)]

theorem declaration_passes (text : String) :
    Passes text (declarationRound text) (fun index rest => index + declarationTail rest) := by
  constructor
  · intro index outside
    rw [declarationRound, if_neg (Nat.not_lt.mpr outside)]
    exact ⟨text.utf8ByteSize, rfl, fun same => same.symm⟩
  · intro index byte rest stands
    rw [declarationRound, at_byte stands, declarationTail]
    split
    · exact Or.inl rfl
    · split
      · exact Or.inl rfl
      · refine Or.inr ⟨0, Nat.zero_le _, rfl, ?_⟩
        rw [List.drop_zero]
        omega

theorem arrow_length_le {input : List UInt8} (arrow : input.head? = some Byte.greater) :
    1 + runLength isBlank input.tail ≤ input.length := by
  cases input with
  | nil => cases arrow
  | cons first later =>
      have run := run_length_le isBlank later
      rw [List.tail_cons, List.length_cons]
      omega

/-- The number of further bytes that an unquoted value takes with a byte; none where the
value ends. -/
def passInValue? (byte : UInt8) (rest : List UInt8) : Option Nat :=
  if isOpener byte then some (groupTail 0 rest)
  else if isQuote byte then some (stringTail byte rest)
  else if byte = Byte.equals && rest.head? == some Byte.greater then
    some (1 + runLength isBlank rest.tail)
  else if byte = Byte.slash && rest.head? == some Byte.greater then none
  else if byte = Byte.greater || byte = Byte.less || byte = Byte.comma then none
  else if isBlank byte then
    if [Byte.equals, Byte.greater].isPrefixOf (rest.drop (runLength isBlank rest)) then
      some (runLength isBlank rest)
    else none
  else some 0

theorem expression_length_eq (byte : UInt8) (rest : List UInt8) :
    expressionLength (byte :: rest) =
      match passInValue? byte rest with
      | none => 0
      | some more => 1 + more + expressionLength (rest.drop more) := by
  rw [expressionLength, passInValue?]
  by_cases opens : isOpener byte = true
  · rw [if_pos opens, if_pos opens]
  rw [if_neg opens, if_neg opens]
  by_cases quoted : isQuote byte = true
  · rw [if_pos quoted, if_pos quoted]
  rw [if_neg quoted, if_neg quoted]
  by_cases arrow : (byte = Byte.equals && rest.head? == some Byte.greater) = true
  · rw [if_pos arrow, if_pos arrow]
  rw [if_neg arrow, if_neg arrow]
  by_cases closes : (byte = Byte.slash && rest.head? == some Byte.greater) = true
  · rw [if_pos closes, if_pos closes]
  rw [if_neg closes, if_neg closes]
  by_cases ends : (byte = Byte.greater || byte = Byte.less || byte = Byte.comma) = true
  · rw [if_pos ends, if_pos ends]
  rw [if_neg ends, if_neg ends]
  by_cases blank : isBlank byte = true
  · rw [if_pos blank, if_pos blank]
    dsimp only
    cases [Byte.equals, Byte.greater].isPrefixOf (rest.drop (runLength isBlank rest)) with
    | true => rfl
    | false => rfl
  · rw [if_neg blank, if_neg blank]
    rfl

theorem pass_in_value_le {more : Nat} (passed : passInValue? byte rest = some more) :
    more ≤ rest.length := by
  rw [passInValue?] at passed
  split at passed
  · cases passed
    exact cut_le (group_tail_cut 0 rest)
  · split at passed
    · rename_i quoted
      cases passed
      exact cut_le (string_tail_cut (quote_ascii quoted) rest)
    · split at passed
      · rename_i arrow
        cases passed
        rw [Bool.and_eq_true, beq_iff_eq] at arrow
        exact arrow_length_le arrow.2
      · split at passed
        · cases passed
        · split at passed
          · cases passed
          · split at passed
            · split at passed
              · cases passed
                exact run_length_le isBlank rest
              · cases passed
            · cases passed
              exact Nat.zero_le _

/-- In an unquoted value a round passes over what belongs to a byte, or has found the end. -/
theorem value_round_eq (stands : (bytes text).drop index = byte :: rest) :
    valueRound text index = pure (
      match passInValue? byte rest with
      | none => .done index
      | some more => .again (index + 1 + more)) := by
  rw [valueRound, at_byte stands, passInValue?, peek_next stands]
  by_cases opens : isOpener byte = true
  · rw [if_pos opens, if_pos opens, skip_group_eq stands opens, pure_bind]
  rw [if_neg opens, if_neg opens]
  by_cases quoted : isQuote byte = true
  · rw [if_pos quoted, if_pos quoted, skip_string_eq stands, pure_bind]
  rw [if_neg quoted, if_neg quoted]
  by_cases arrow : (byte = Byte.equals && rest.head? == some Byte.greater) = true
  · have behind : (bytes text).drop (index + 2) = rest.tail := by
      rw [← List.drop_one]
      exact drop_behind stands 1
    have count : ∀ length, index + 2 + length = index + 1 + (1 + length) := by omega
    rw [if_pos arrow, if_pos arrow, skip_run_eq, behind, pure_bind, count]
  rw [if_neg arrow, if_neg arrow]
  by_cases closes : (byte = Byte.slash && rest.head? == some Byte.greater) = true
  · rw [if_pos closes, if_pos closes]
  rw [if_neg closes, if_neg closes]
  by_cases ends : (byte = Byte.greater || byte = Byte.less || byte = Byte.comma) = true
  · rw [if_pos ends, if_pos ends]
  rw [if_neg ends, if_neg ends]
  by_cases blank : isBlank byte = true
  · have run : (bytes text).drop (index + (1 + runLength isBlank rest)) =
        rest.drop (runLength isBlank rest) := by
      rw [← Nat.add_assoc, drop_behind stands]
    rw [if_pos blank, if_pos blank, skip_run_eq, stands, run_length_next blank, pure_bind, startsAt,
      run, ← Nat.add_assoc]
    cases [Byte.equals, Byte.greater].isPrefixOf (rest.drop (runLength isBlank rest)) with
    | true => rfl
    | false => rfl
  · rw [if_neg blank, if_neg blank]

theorem value_passes (text : String) :
    Passes text (valueRound text) (fun index rest => index + expressionLength rest) := by
  constructor
  · intro index outside
    rw [valueRound, if_neg (Nat.not_lt.mpr outside)]
    refine ⟨index, rfl, fun _ => ?_⟩
    rw [expressionLength, Nat.add_zero]
  · intro index byte rest stands
    rw [value_round_eq stands, expression_length_eq]
    cases passed : passInValue? byte rest with
    | none => exact Or.inl rfl
    | some more =>
        refine Or.inr ⟨more, pass_in_value_le passed, rfl, ?_⟩
        rw [← Nat.add_assoc, ← Nat.add_assoc]

theorem skip_value_eq (within : index ≤ text.utf8ByteSize) :
    skipValue text index = pure (index + valueLength ((bytes text).drop index)) := by
  cases stands : (bytes text).drop index with
  | nil =>
      rw [List.drop_eq_nil_iff, length_bytes] at stands
      rw [skipValue, if_neg (Nat.not_lt.mpr stands), Nat.le_antisymm within stands]
      rfl
  | cons byte rest =>
      rw [skipValue, at_byte stands, valueLength]
      split
      · rw [skip_string_eq stands, Nat.add_assoc]
      · rw [(value_passes text).loop_eq within, stands]

theorem offset_where_through (pattern input : List UInt8) :
    lengthThrough pattern input =
      match offsetWhere pattern.isPrefixOf input with
      | some offset => offset + pattern.length
      | none => input.length := by
  induction input with
  | nil => rfl
  | cons byte rest induction =>
      rw [lengthThrough, offsetWhere]
      split
      · exact (Nat.zero_add _).symm
      · rw [induction]
        cases offsetWhere pattern.isPrefixOf rest with
        | none => exact Nat.add_comm _ _
        | some offset => exact (Nat.add_assoc _ _ _).symm

theorem search_past_eq {pattern : List UInt8} (boundary : Boundary text index)
    (within : index ≤ text.utf8ByteSize) :
    searchPast text index pattern =
      pure (index + lengthThrough pattern ((bytes text).drop index)) := by
  have allowed : (Access.search index).Allowed text := boundary
  rw [searchPast, demand_allowed allowed, pure_bind, offset_where_through]
  cases offsetWhere pattern.isPrefixOf ((bytes text).drop index) with
  | some offset => exact congrArg pure (Nat.add_assoc _ _ _)
  | none =>
      dsimp only
      rw [List.length_drop, length_bytes, Nat.add_sub_cancel' within]

def gapEnd (index : Nat) (rest : List UInt8) : Option Nat :=
  if gapLength rest < rest.length then some (index + gapLength rest) else none

theorem gap_end_passed {more : Nat} (passed : passOver? byte rest = some more) (index : Nat) :
    gapEnd (index + 1 + more) (rest.drop more) = gapEnd index (byte :: rest) := by
  have within := pass_over_le passed
  have length : gapLength (byte :: rest) = 1 + more + gapLength (rest.drop more) := by
    rw [gapLength, passed]
  simp only [gapEnd, length, List.length_drop, List.length_cons, Nat.add_assoc]
  split
  · rw [if_pos (by omega)]
  · rw [if_neg (by omega)]

theorem gap_end_stopped (stopped : passOver? byte rest = none) (index : Nat) :
    gapEnd index (byte :: rest) = some index := by
  have length : gapLength (byte :: rest) = 0 := by
    rw [gapLength, stopped]
  rw [gapEnd, length, if_pos (by simp), Nat.add_zero]

/-- Where a comment starts, the search for its end starts between two characters. -/
theorem comment_boundary {later : List UInt8}
    (stands : (bytes text).drop index =
      Byte.less :: Byte.exclamation :: Byte.hyphen :: Byte.hyphen :: later) :
    RestAt text (index + 4) later := by
  have place := rest_at_ascii stands (by decide)
  exact rest_at_cut place (cut_behind (show Byte.hyphen < 0x80 by decide)
    [Byte.less, Byte.exclamation, Byte.hyphen] later)

/-- Between tags a round passes over what belongs to a byte, or has found a tag. -/
theorem gap_round_eq (stands : (bytes text).drop index = byte :: rest) :
    gapRound text index = pure (
      match passOver? byte rest with
      | none => .done (some index)
      | some more => .again (index + 1 + more)) := by
  have next := drop_next stands
  rw [gapRound, at_byte stands, peek_next stands, passOver?.eq_def]
  by_cases dollar : byte = Byte.dollar
  · subst dollar
    have other : Byte.dollar ≠ Byte.less := by decide
    simp only [decide_true, Bool.true_and, beq_iff_eq, if_true, other, if_false]
    cases rest with
    | nil => rfl
    | cons first later =>
        by_cases brace : first = Byte.openBrace
        · subst brace
          rw [List.head?_cons, if_pos rfl, groupLength, if_pos rfl,
            skip_group_eq next (by decide), pure_bind, Nat.add_assoc (index + 1)]
        · rw [List.head?_cons, if_neg (by simpa using brace), groupLength, if_neg brace]
  · by_cases less : byte = Byte.less
    · subst less
      simp only [dollar, decide_false, Bool.false_and, Bool.false_eq_true, if_false, if_true]
      have comment : startsAt text index
          [Byte.less, Byte.exclamation, Byte.hyphen, Byte.hyphen] =
            [Byte.exclamation, Byte.hyphen, Byte.hyphen].isPrefixOf rest := by
        rw [startsAt, stands, List.isPrefixOf_cons_cons, BEq.rfl, Bool.true_and]
      rw [comment]
      split
      · rename_i opened
        obtain ⟨later, rfl⟩ := List.isPrefixOf_iff_prefix.mp opened
        have place : RestAt text (index + 4) later := comment_boundary stands
        have within := Text.rest_at_length place
        have count : ∀ length, index + 4 + length = index + 1 + (3 + length) := by omega
        rw [search_past_eq (Text.rest_at_boundary place) (by omega), pure_bind,
          Text.rest_at_bytes place, count]
        rfl
      · cases rest with
        | nil => rfl
        | cons first later =>
            have size := size_eq stands
            have behind : (bytes text).drop (index + 2) = later := drop_behind stands 1
            rw [List.length_cons] at size
            dsimp only [List.head?_cons]
            split
            · have count : ∀ length, index + 2 + length = index + 1 + (1 + length) := by omega
              rw [skipDeclaration, (declaration_passes text).loop_eq (by omega), behind, pure_bind,
                count]
            · split
              · rfl
              · rfl
    · simp only [dollar, less, decide_false, Bool.false_and, Bool.false_eq_true, if_false]

theorem gap_passes (text : String) : Passes text (gapRound text) gapEnd := by
  constructor
  · intro index outside
    rw [gapRound, if_neg (Nat.not_lt.mpr outside)]
    exact ⟨none, rfl, fun _ => by simp [gapEnd]⟩
  · intro index byte rest stands
    rw [gap_round_eq stands]
    cases passed : passOver? byte rest with
    | none =>
        rw [gap_end_stopped passed]
        exact Or.inl rfl
    | some more => exact Or.inr ⟨more, pass_over_le passed, rfl, gap_end_passed passed index⟩

end Skips

end TemplateServer.Markup.InPlace
