import TemplateServer.Proofs.Markup.Grammar
import TemplateServer.Proofs.Markup.Spans

/-!
What the bytes behind a piece of markup can change about it. The same input is
looked at twice, once where it ends and once where more follows. Most lengths are
settled by the input alone, or else take all of it in both cases. Unquoted values
and their signs look further ahead, over blanks and up to an arrow. There the two
lengths may come apart, but then neither leaves anything that ends the tag.
-/

namespace TemplateServer.Markup

/-- The lengths of a piece where the input ends with `front` and where more
follows are the same, unless the piece takes all of `front` in both. -/
def Settled (front : List UInt8) (alone followed : Nat) : Prop :=
  followed = alone ∨ alone = front.length ∧ front.length ≤ followed

theorem settled_same (front : List UInt8) (count : Nat) : Settled front count count := Or.inl rfl

theorem settled_nil (followed : Nat) : Settled [] 0 followed := Or.inr ⟨rfl, Nat.zero_le _⟩

section Settled

variable {front later : List UInt8} {alone followed : Nat}

theorem settled_cons (byte : UInt8) (rest : Settled front alone followed) :
    Settled (byte :: front) (1 + alone) (1 + followed) := by
  rcases rest with rfl | ⟨full, longer⟩
  · exact Or.inl rfl
  · refine Or.inr ⟨?_, ?_⟩
    · rw [full, List.length_cons, Nat.add_comm]
    · rw [List.length_cons, Nat.add_comm]
      exact Nat.add_le_add_left longer 1

theorem settled_drop {count : Nat} (within : count ≤ front.length)
    (rest : Settled (front.drop count) alone followed) :
    Settled front (count + alone) (count + followed) := by
  rcases rest with rfl | ⟨full, longer⟩
  · exact Or.inl rfl
  · rw [List.length_drop] at full longer
    exact Or.inr ⟨by omega, by omega⟩

/-- A settled piece and what follows it. -/
theorem settled_add (next : List UInt8 → Nat) (empty : next [] = 0)
    (within : alone ≤ front.length) (first : Settled front alone followed)
    (second : Settled (front.drop alone) (next (front.drop alone))
      (next (front.drop alone ++ later))) :
    Settled front (alone + next (front.drop alone))
      (followed + next ((front ++ later).drop followed)) := by
  rcases first with rfl | ⟨full, longer⟩
  · rw [List.drop_append_of_le_length within]
    exact settled_drop within second
  · refine Or.inr ⟨?_, Nat.le_trans longer (Nat.le_add_right _ _)⟩
    rw [full, List.drop_length, empty, Nat.add_zero]

end Settled

theorem run_length_settled (member : UInt8 → Bool) (front later : List UInt8) :
    Settled front (runLength member front) (runLength member (front ++ later)) := by
  induction front with
  | nil => exact settled_nil _
  | cons byte rest induction =>
      cases inside : member byte with
      | true =>
          have step (input : List UInt8) :
              runLength member (byte :: input) = 1 + runLength member input := by
            simp only [runLength, List.takeWhile_cons, inside, if_true, List.length_cons]
            omega
          rw [List.cons_append, step, step]
          exact settled_cons byte induction
      | false =>
          rw [List.cons_append, run_length_stop inside, run_length_stop inside]
          exact settled_same _ 0

theorem length_through_short {pattern input : List UInt8} (short : input.length < pattern.length) :
    lengthThrough pattern input = input.length := by
  induction input with
  | nil => rfl
  | cons byte rest induction =>
      have absent : ¬ pattern.isPrefixOf (byte :: rest) = true := by
        intro found
        have fits := (List.isPrefixOf_iff_prefix.mp found).length_le
        omega
      rw [List.length_cons] at short
      rw [lengthThrough, if_neg absent, induction (by omega), List.length_cons, Nat.add_comm]

theorem length_through_settled (pattern front later : List UInt8) :
    Settled front (lengthThrough pattern front) (lengthThrough pattern (front ++ later)) := by
  induction front with
  | nil => exact settled_nil _
  | cons byte rest induction =>
      have longer : byte :: rest <+: byte :: (rest ++ later) :=
        List.prefix_append (byte :: rest) later
      by_cases found : pattern.isPrefixOf (byte :: rest) = true
      · have still : pattern.isPrefixOf (byte :: (rest ++ later)) = true :=
          List.isPrefixOf_iff_prefix.mpr ((List.isPrefixOf_iff_prefix.mp found).trans longer)
        rw [List.cons_append, lengthThrough, lengthThrough, if_pos found, if_pos still]
        exact settled_same _ _
      · by_cases across : pattern.isPrefixOf (byte :: (rest ++ later)) = true
        · -- a pattern that stands here only with what follows is longer than the front
          have short : (byte :: rest).length < pattern.length := by
            apply Nat.lt_of_not_le
            intro fits
            apply found
            rw [List.isPrefixOf_iff_prefix] at across ⊢
            exact List.prefix_of_prefix_length_le across longer fits
          refine Or.inr ⟨length_through_short short, ?_⟩
          rw [List.cons_append, lengthThrough, if_pos across]
          exact Nat.le_of_lt short
        · rw [List.cons_append, lengthThrough, lengthThrough, if_neg found, if_neg across]
          exact settled_cons byte induction

theorem string_tail_settled (quote : UInt8) (front later : List UInt8) :
    Settled front (stringTail quote front) (stringTail quote (front ++ later)) := by
  fun_induction stringTail quote front with
  | case1 => exact settled_nil _
  | case2 =>
      -- the escaped byte is the first one behind the front, if there is one
      refine Or.inr ⟨rfl, ?_⟩
      cases later with
      | nil => exact Nat.le_refl 1
      | cons byte later =>
          rw [List.singleton_append, string_tail_escaped, List.length_singleton]
          omega
  | case3 byte rest induction =>
      rw [List.cons_append, List.cons_append, string_tail_escaped]
      exact settled_drop (by simp) induction
  | case4 rest unescaped =>
      rw [List.cons_append, string_tail_closed unescaped]
      exact settled_same _ 1
  | case5 byte rest unescaped different induction =>
      rw [List.cons_append, string_tail_plain different unescaped]
      exact settled_cons byte induction

theorem group_tail_settled (outer : Nat) (front later : List UInt8) :
    Settled front (groupTail outer front) (groupTail outer (front ++ later)) := by
  fun_induction groupTail outer front with
  | case1 => exact settled_nil _
  | case2 outer byte rest quoted length induction =>
      rw [List.cons_append, group_tail_quoted quoted, Nat.add_assoc, Nat.add_assoc]
      exact settled_cons byte (settled_add (groupTail outer) (by rw [groupTail])
        (Text.cut_le (string_tail_cut (quote_ascii quoted) rest))
        (string_tail_settled byte rest later) induction)
  | case3 outer byte rest unquoted opens induction =>
      rw [List.cons_append, group_tail_opened opens]
      exact settled_cons byte induction
  | case4 byte rest unquoted unopened closes =>
      rw [List.cons_append, group_tail_closed closes]
      exact settled_same _ 1
  | case5 byte rest unquoted unopened closes inner induction =>
      rw [List.cons_append, group_tail_inner_closed closes]
      exact settled_cons byte induction
  | case6 outer byte rest unquoted unopened unclosed induction =>
      simp only [Bool.not_eq_true] at unquoted unopened unclosed
      rw [List.cons_append, group_tail_plain unquoted unopened unclosed]
      exact settled_cons byte induction

theorem group_length_settled (opener : UInt8) (front later : List UInt8) :
    Settled front (groupLength opener front) (groupLength opener (front ++ later)) := by
  cases front with
  | nil => exact settled_nil _
  | cons byte rest =>
      rw [List.cons_append, groupLength, groupLength]
      split
      · exact settled_cons byte (group_tail_settled 0 rest later)
      · exact settled_same _ 0

theorem tag_name_length_settled (front later : List UInt8) :
    Settled front (tagNameLength front) (tagNameLength (front ++ later)) := by
  match front with
  | [] => exact settled_nil _
  | [byte] =>
      -- a placeholder may open right behind the front, but its sign is a byte of names too
      have static : [Byte.dollar, Byte.openBrace].isPrefixOf [byte] = false := by
        simp [List.isPrefixOf]
      rw [tagNameLength, static, if_neg Bool.false_ne_true, tagNameLength]
      split
      · rename_i dynamic
        obtain ⟨rest, same⟩ := List.isPrefixOf_iff_prefix.mp dynamic
        obtain ⟨rfl, -⟩ := List.cons.inj same
        exact Or.inr ⟨rfl, Nat.le_add_right _ _⟩
      · exact run_length_settled isTagByte [byte] later
  | first :: second :: rest =>
      have same : [Byte.dollar, Byte.openBrace].isPrefixOf (first :: second :: rest ++ later) =
          [Byte.dollar, Byte.openBrace].isPrefixOf (first :: second :: rest) := by
        simp [List.isPrefixOf]
      rw [tagNameLength, tagNameLength, same]
      split
      · exact settled_cons first (group_length_settled _ (second :: rest) later)
      · exact run_length_settled isTagByte (first :: second :: rest) later

theorem shorthand_length_settled (front later : List UInt8) :
    Settled front (shorthandLength front) (shorthandLength (front ++ later)) := by
  cases front with
  | nil => exact settled_nil _
  | cons byte rest =>
      rw [List.cons_append, shorthandLength, shorthandLength, List.head?_cons, List.head?_cons]
      dsimp only
      split
      · exact run_length_settled _ (byte :: rest) later
      · exact settled_same _ 0

theorem parameters_length_settled (front later : List UInt8) :
    Settled front (parametersLength front) (parametersLength (front ++ later)) := by
  cases front with
  | nil => exact settled_nil _
  | cons byte rest =>
      rw [List.cons_append, parametersLength, parametersLength, List.head?_cons, List.head?_cons]
      split
      · exact settled_cons byte (length_through_settled _ rest later)
      · exact settled_same _ 0

theorem tag_suffix_length_settled (front later : List UInt8) :
    Settled front (tagSuffixLength front) (tagSuffixLength (front ++ later)) := by
  have split (input : List UInt8) : tagSuffixLength input = shorthandLength input +
      (parametersLength (input.drop (shorthandLength input)) +
        groupLength Byte.openParenthesis ((input.drop (shorthandLength input)).drop
          (parametersLength (input.drop (shorthandLength input))))) :=
    Nat.add_assoc _ _ _
  rw [split, split]
  apply settled_add (fun rest => parametersLength rest +
    groupLength Byte.openParenthesis (rest.drop (parametersLength rest))) rfl
    (Text.lands_le (shorthand_length_lands front)) (shorthand_length_settled front later)
  exact settled_add _ rfl (Text.lands_le (parameters_length_lands _))
    (parameters_length_settled _ later) (group_length_settled _ _ later)

theorem declaration_tail_settled (front later : List UInt8) :
    Settled front (declarationTail front) (declarationTail (front ++ later)) := by
  fun_induction declarationTail front with
  | case1 => exact settled_nil _
  | case2 rest =>
      rw [List.cons_append, declarationTail, if_pos rfl]
      exact settled_same _ 1
  | case3 rest other =>
      rw [List.cons_append, declarationTail, if_neg other, if_pos rfl]
      exact settled_same _ 0
  | case4 byte rest greater less induction =>
      rw [List.cons_append, declarationTail, if_neg greater, if_neg less]
      exact settled_cons byte induction

/-- Bytes that end no tag: one that goes on with them ends behind them, whatever
follows. -/
def Unclosed (front : List UInt8) : Prop :=
  ∀ position later, front.length ≤ (tagRemainder position (front ++ later)).length

/-- The lengths of a piece are the same as where nothing follows, or else neither
of them leaves anything that ends the tag. -/
def Agreed (front : List UInt8) (alone followed : Nat) : Prop :=
  followed = alone ∨ Unclosed (front.drop alone) ∧ Unclosed (front.drop followed)

theorem unclosed_nil : Unclosed [] := fun _ _ => Nat.zero_le _

theorem unclosed_drop {front : List UInt8} {count : Nat} (full : front.length ≤ count) :
    Unclosed (front.drop count) := by
  rw [List.drop_eq_nil_of_le full]
  exact unclosed_nil

/-- A tag takes what is behind its separators along, unless that starts another
tag. -/
theorem separators_lt_remainder {input rest : List UInt8} {byte : UInt8}
    (found : input.drop (runLength isSeparator input) = byte :: rest)
    (inside : byte ≠ Byte.less) (position : Nat) :
    runLength isSeparator input < (tagRemainder position input).length := by
  rw [tag_remainder_cons found]
  dsimp only
  split
  · exact Nat.lt_succ_self _
  · split
    · exact Nat.lt_add_of_pos_right Nat.two_pos
    · split
      · rename_i named
        have positive := attribute_length_pos byte rest named
        simp only [TagRemainder.after]
        omega
      · simp only [TagRemainder.after]
        omega

theorem separators_le_remainder (position : Nat) (input : List UInt8) :
    runLength isSeparator input ≤ (tagRemainder position input).length := by
  cases found : input.drop (runLength isSeparator input) with
  | nil => exact Nat.le_of_eq (by rw [tag_remainder_end found])
  | cons byte rest =>
      by_cases less : byte = Byte.less
      · subst less
        have cut : tagRemainder position input = ⟨[], runLength isSeparator input, false⟩ := by
          rw [tag_remainder_cons found]
          rfl
        exact Nat.le_of_eq (by rw [cut])
      · exact Nat.le_of_lt (separators_lt_remainder found less position)

theorem unclosed_blanks {blanks : List UInt8} (blank : ∀ byte ∈ blanks, isBlank byte = true) :
    Unclosed blanks := by
  intro position later
  have separators : ∀ byte ∈ blanks, isSeparator byte = true :=
    fun byte member => blank_is_separator (blank byte member)
  have run := run_length_append separators later
  have taken := separators_le_remainder position (blanks ++ later)
  omega

/-- Blanks and one more byte that starts no tag. -/
theorem unclosed_mark {blanks : List UInt8} (blank : ∀ byte ∈ blanks, isBlank byte = true)
    {mark : UInt8} (apart : isSeparator mark = false) (inside : mark ≠ Byte.less) :
    Unclosed (blanks ++ [mark]) := by
  intro position later
  have separators : ∀ byte ∈ blanks, isSeparator byte = true :=
    fun byte member => blank_is_separator (blank byte member)
  have run := run_length_exact separators apart later
  have found : (blanks ++ mark :: later).drop (runLength isSeparator (blanks ++ mark :: later)) =
      mark :: later := by
    rw [run, List.drop_left]
  have taken := separators_lt_remainder found inside position
  rw [List.append_assoc, List.singleton_append, List.length_append, List.length_singleton]
  omega

section Agreed

variable {front later : List UInt8} {alone followed : Nat}

theorem agreed_of_settled (settled : Settled front alone followed) :
    Agreed front alone followed := by
  rcases settled with same | ⟨full, longer⟩
  · exact Or.inl same
  · exact Or.inr ⟨unclosed_drop (Nat.le_of_eq full.symm), unclosed_drop longer⟩

theorem agreed_drop (count : Nat) (rest : Agreed (front.drop count) alone followed) :
    Agreed front (count + alone) (count + followed) := by
  rcases rest with rfl | open'
  · exact Or.inl rfl
  · rw [List.drop_drop, List.drop_drop] at open'
    exact Or.inr open'

theorem agreed_cons (byte : UInt8) (rest : Agreed front alone followed) :
    Agreed (byte :: front) (1 + alone) (1 + followed) :=
  agreed_drop 1 rest

/-- A settled piece and one behind it that looks further ahead. -/
theorem agreed_add {next : List UInt8 → Nat} (within : alone ≤ front.length)
    (first : Settled front alone followed)
    (second : Agreed (front.drop alone) (next (front.drop alone))
      (next (front.drop alone ++ later))) :
    Agreed front (alone + next (front.drop alone))
      (followed + next ((front ++ later).drop followed)) := by
  rcases first with rfl | ⟨full, longer⟩
  · rw [List.drop_append_of_le_length within]
    exact agreed_drop _ second
  · exact Or.inr ⟨unclosed_drop (by omega), unclosed_drop (by omega)⟩

end Agreed

theorem expression_length_self_closed (rest : List UInt8) :
    expressionLength (Byte.slash :: Byte.greater :: rest) = 0 := by
  have unopened : isOpener Byte.slash = false := by decide
  have unquoted : isQuote Byte.slash = false := by decide
  have forward : Byte.slash ≠ Byte.equals := by decide
  rw [expressionLength]
  simp [unopened, unquoted, forward]

theorem expression_length_stop {byte : UInt8}
    (stops : byte = Byte.greater ∨ byte = Byte.less ∨ byte = Byte.comma) (rest : List UInt8) :
    expressionLength (byte :: rest) = 0 := by
  have unopened : isOpener byte = false := by rcases stops with rfl | rfl | rfl <;> decide
  have unquoted : isQuote byte = false := by rcases stops with rfl | rfl | rfl <;> decide
  have forward : byte ≠ Byte.equals := by rcases stops with rfl | rfl | rfl <;> decide
  have closing : byte ≠ Byte.slash := by rcases stops with rfl | rfl | rfl <;> decide
  rw [expressionLength]
  simp [unopened, unquoted, forward, closing, stops, or_assoc]

theorem blank_run (input : List UInt8) :
    ∀ byte ∈ input.take (runLength isBlank input), isBlank byte = true := by
  intro byte member
  rw [runLength, ← List.prefix_iff_eq_take.mp (List.takeWhile_prefix isBlank)] at member
  exact List.all_eq_true.mp List.all_takeWhile byte member

/-- Where only what follows could make an arrow, nothing has ended the tag yet. -/
theorem arrow_across {rest later : List UInt8}
    (apart : ¬ [Byte.equals, Byte.greater].isPrefixOf rest = true)
    (arrow : [Byte.equals, Byte.greater].isPrefixOf (rest ++ later) = true) :
    rest = [] ∨ rest = [Byte.equals] := by
  match rest with
  | [] => exact Or.inl rfl
  | [byte] =>
      simp only [List.isPrefixOf, List.singleton_append, Bool.and_eq_true, beq_iff_eq] at arrow
      rw [← arrow.1]
      exact Or.inr rfl
  | first :: second :: more =>
      simp only [List.isPrefixOf, List.cons_append] at apart arrow
      exact absurd arrow apart

theorem arrow_length {input : List UInt8}
    (arrow : [Byte.equals, Byte.greater].isPrefixOf input = true) :
    2 ≤ expressionLength input := by
  obtain ⟨more, rfl⟩ := List.isPrefixOf_iff_prefix.mp arrow
  rw [List.cons_append, List.singleton_append, expression_length_arrow]
  omega

theorem expression_length_agreed_blank {blank : UInt8} (firstBlank : isBlank blank = true)
    (rest later : List UInt8)
    (apart : ¬ [Byte.equals, Byte.greater].isPrefixOf (rest.drop (runLength isBlank rest)) = true) :
    Agreed (blank :: rest) 0 (expressionLength (blank :: rest ++ later)) := by
  have blanks : ∀ byte ∈ blank :: rest.take (runLength isBlank rest), isBlank byte = true :=
    List.forall_mem_cons.mpr ⟨firstBlank, blank_run rest⟩
  have whole : blank :: rest = blank :: rest.take (runLength isBlank rest) ++
      rest.drop (runLength isBlank rest) := by
    rw [List.cons_append, List.take_append_drop]
  rw [List.cons_append, expression_length_blank firstBlank]
  split
  · rename_i arrow
    have taken := arrow_length arrow
    -- the arrow is behind the front or across its end, so the front is blanks up to a sign
    have ending : rest.drop (runLength isBlank rest) = [] ∨
        rest.drop (runLength isBlank rest) = [Byte.equals] := by
      rcases run_length_settled isBlank rest later with same | ⟨full, -⟩
      · rw [same, List.drop_append_of_le_length (run_length_le isBlank rest)] at arrow
        exact arrow_across apart arrow
      · exact Or.inl (List.drop_eq_nil_of_le (Nat.le_of_eq full.symm))
    have unclosed : Unclosed (blank :: rest) := by
      rw [whole]
      rcases ending with ended | sign
      · rw [ended, List.append_nil]
        exact unclosed_blanks blanks
      · rw [sign]
        exact unclosed_mark blanks (by decide) (by decide)
    refine Or.inr ⟨unclosed, unclosed_drop ?_⟩
    have size : rest.length ≤ runLength isBlank rest + 1 := by
      have parts := congrArg List.length (List.take_append_drop (runLength isBlank rest) rest)
      rw [List.length_append, List.length_take] at parts
      rcases ending with ended | sign
      · rw [ended, List.length_nil] at parts
        omega
      · rw [sign, List.length_singleton] at parts
        omega
    have run : runLength isBlank rest ≤ runLength isBlank (rest ++ later) := by
      rcases run_length_settled isBlank rest later with same | ⟨full, longer⟩
      · omega
      · omega
    rw [List.length_cons]
    omega
  · exact Or.inl rfl

theorem expression_length_agreed (front later : List UInt8) :
    Agreed front (expressionLength front) (expressionLength (front ++ later)) := by
  fun_induction expressionLength front with
  | case1 => exact Or.inr ⟨unclosed_drop (Nat.zero_le _), unclosed_drop (Nat.zero_le _)⟩
  | case2 byte rest opens group induction =>
      rw [List.cons_append, expression_length_opened opens, Nat.add_assoc, Nat.add_assoc]
      exact agreed_cons byte (agreed_add (Text.cut_le (group_tail_cut 0 rest))
        (group_tail_settled 0 rest later) induction)
  | case3 byte rest unopened quoted length induction =>
      rw [List.cons_append, expression_length_quoted quoted, Nat.add_assoc, Nat.add_assoc]
      exact agreed_cons byte (agreed_add (Text.cut_le (string_tail_cut (quote_ascii quoted) rest))
        (string_tail_settled byte rest later) induction)
  | case4 byte rest unopened unquoted arrow taken induction =>
      simp only [Bool.and_eq_true, decide_eq_true_eq, beq_iff_eq] at arrow
      obtain ⟨rfl, head⟩ := arrow
      cases rest with
      | nil => cases head
      | cons next rest =>
          obtain rfl := Option.some.inj head
          have within : taken ≤ (Byte.greater :: rest).length := by
            have run := run_length_le isBlank rest
            simp only [taken, List.tail_cons, List.length_cons]
            omega
          have settled : Settled (Byte.greater :: rest) taken
              (1 + runLength isBlank (rest ++ later)) :=
            settled_cons Byte.greater (run_length_settled isBlank rest later)
          have followed := agreed_cons Byte.equals (agreed_add within settled induction)
          have arrowed (input : List UInt8) :
              expressionLength (Byte.equals :: Byte.greater :: input) =
                1 + (1 + runLength isBlank input + expressionLength
                  ((Byte.greater :: input).drop (1 + runLength isBlank input))) := by
            rw [expression_length_arrow, Nat.add_comm 1 (runLength isBlank input),
              List.drop_succ_cons]
            omega
          rw [List.cons_append, List.cons_append, arrowed, Nat.add_assoc]
          exact followed
  | case5 byte rest unopened unquoted forward closes =>
      simp only [Bool.and_eq_true, decide_eq_true_eq, beq_iff_eq] at closes
      obtain ⟨rfl, head⟩ := closes
      cases rest with
      | nil => cases head
      | cons next rest =>
          obtain rfl := Option.some.inj head
          exact Or.inl (expression_length_self_closed (rest ++ later))
  | case6 byte rest unopened unquoted forward closing stops =>
      simp only [Bool.or_eq_true, decide_eq_true_eq, or_assoc] at stops
      exact Or.inl (expression_length_stop stops (rest ++ later))
  | case7 byte rest unopened unquoted forward closing inside blank blanks arrow induction =>
      -- the arrow stands in the front, and so does the end of the blanks before it
      have same : runLength isBlank (rest ++ later) = blanks := by
        rcases run_length_settled isBlank rest later with same | ⟨full, -⟩
        · exact same
        · simp only [blanks, full, List.drop_length] at arrow
          cases arrow
      have still : [Byte.equals, Byte.greater].isPrefixOf (rest.drop blanks ++ later) = true := by
        rw [List.isPrefixOf_iff_prefix] at arrow ⊢
        exact arrow.trans (List.prefix_append _ later)
      rw [List.cons_append, expression_length_blank blank, same,
        List.drop_append_of_le_length (run_length_le isBlank rest), if_pos still, Nat.add_assoc,
        Nat.add_assoc]
      exact agreed_cons byte (agreed_drop blanks induction)
  | case8 byte rest unopened unquoted forward closing inside blank blanks apart =>
      exact expression_length_agreed_blank blank rest later apart
  | case9 byte rest unopened unquoted forward closing inside unblank induction =>
      cases rest with
      | nil =>
          -- a sign or a slash at the very end may belong to an arrow or to the end of the tag
          simp only [Bool.or_eq_true, decide_eq_true_eq, not_or] at inside
          have apart : isSeparator byte = false := by
            simp [isSeparator, unblank, inside.2]
          refine Or.inr ⟨unclosed_drop (Nat.le_add_right 1 _), ?_⟩
          cases expressionLength ([byte] ++ later) with
          | zero => exact unclosed_mark (List.forall_mem_nil _) apart inside.1.2
          | succ more => exact unclosed_drop (Nat.le_add_left 1 more)
      | cons next rest =>
          have step : expressionLength (byte :: (next :: rest ++ later)) =
              1 + expressionLength (next :: rest ++ later) := by
            rw [expressionLength]
            exact (((((if_neg unopened).trans (if_neg unquoted)).trans (if_neg forward)).trans
              (if_neg closing)).trans (if_neg inside)).trans (if_neg unblank)
          rw [List.cons_append, step]
          exact agreed_cons byte induction

theorem value_length_agreed (front later : List UInt8) :
    Agreed front (valueLength front) (valueLength (front ++ later)) := by
  cases front with
  | nil => exact Or.inr ⟨unclosed_drop (Nat.zero_le _), unclosed_drop (Nat.zero_le _)⟩
  | cons byte rest =>
      rw [List.cons_append, valueLength, valueLength]
      split
      · exact agreed_of_settled (settled_cons byte (string_tail_settled byte rest later))
      · exact expression_length_agreed (byte :: rest) later

/-- Behind blanks alone a sign may follow, and then the value runs past them. -/
theorem assigned_length_agreed_blanks {front : List UInt8}
    (blank : ∀ byte ∈ front, isBlank byte = true) (later : List UInt8) :
    Agreed front (assignedLength front) (assignedLength (front ++ later)) := by
  have alone : assignedLength front = 0 := by
    have run := run_length_append blank []
    rw [List.append_nil] at run
    simp only [assignedLength, run, List.drop_eq_nil_of_le (Nat.le_add_right _ _)]
    rfl
  rw [alone]
  have run := run_length_append blank later
  simp only [assignedLength]
  split
  · exact Or.inr ⟨unclosed_blanks blank, unclosed_drop (by omega)⟩
  · exact Or.inl rfl

theorem assigned_length_agreed (front later : List UInt8) :
    Agreed front (assignedLength front) (assignedLength (front ++ later)) := by
  have blank := blank_run front
  cases found : front.drop (runLength isBlank front) with
  | nil =>
      have whole : front.take (runLength isBlank front) = front :=
        List.take_of_length_le (List.drop_eq_nil_iff.mp found)
      rw [whole] at blank
      exact assigned_length_agreed_blanks blank later
  | cons byte rest =>
      have same : runLength isBlank (front ++ later) = runLength isBlank front := by
        rcases run_length_settled isBlank front later with same | ⟨full, -⟩
        · exact same
        · rw [full, List.drop_length] at found
          cases found
      simp only [assignedLength, same, List.drop_append_of_le_length (run_length_le isBlank front),
        found, List.cons_append, List.head?_cons, List.tail_cons]
      split
      · simp only [Nat.add_assoc]
        apply agreed_drop
        rw [found]
        exact agreed_cons byte (agreed_add (run_length_le isBlank rest)
          (run_length_settled isBlank rest later) (value_length_agreed _ later))
      · exact Or.inl rfl

def AttributeAgreed (front later : List UInt8) : Prop :=
  (attributeLength (front ++ later) = attributeLength front ∧
      ∀ position, attributeAt position (front ++ later) = attributeAt position front) ∨
    Unclosed (front.drop (attributeLength front)) ∧
      Unclosed (front.drop (attributeLength (front ++ later)))

theorem attribute_agreed_name {front later : List UInt8}
    (name : runLength isAttributeByte (front ++ later) = runLength isAttributeByte front)
    (argument : groupLength Byte.openParenthesis
        (front.drop (runLength isAttributeByte front) ++ later) =
      groupLength Byte.openParenthesis (front.drop (runLength isAttributeByte front))) :
    AttributeAgreed front later := by
  have nameWithin := run_length_le isAttributeByte front
  have behind : (front ++ later).drop (runLength isAttributeByte front) =
      front.drop (runLength isAttributeByte front) ++ later :=
    List.drop_append_of_le_length nameWithin
  have argumentWithin := Text.lands_le (group_length_lands Byte.openParenthesis
    (front.drop (runLength isAttributeByte front)))
  have value := assigned_length_agreed ((front.drop (runLength isAttributeByte front)).drop
    (groupLength Byte.openParenthesis (front.drop (runLength isAttributeByte front)))) later
  have lengths := agreed_drop _ (agreed_drop _ value)
  rw [← List.drop_append_of_le_length argumentWithin, ← Nat.add_assoc, ← Nat.add_assoc] at lengths
  have followed : attributeLength (front ++ later) = runLength isAttributeByte front +
      groupLength Byte.openParenthesis (front.drop (runLength isAttributeByte front)) +
      assignedLength ((front.drop (runLength isAttributeByte front) ++ later).drop
        (groupLength Byte.openParenthesis (front.drop (runLength isAttributeByte front)))) := by
    simp only [attributeLength, name, behind, argument]
  rcases lengths with same | unclosed
  · refine Or.inl ⟨followed.trans same, ?_⟩
    intro position
    have spelled : (front ++ later).takeWhile isAttributeByte =
        front.takeWhile isAttributeByte := by
      rw [take_run_length, name, take_run_length, List.take_append_of_le_length nameWithin]
    have length : (front.takeWhile isAttributeByte).length = runLength isAttributeByte front := rfl
    have assigned := Nat.add_left_cancel same
    simp only [attributeAt, spelled, length, behind, argument, assigned,
      List.take_append_of_le_length argumentWithin]
  · rw [← followed] at unclosed
    exact Or.inr unclosed

theorem attribute_agreed (front later : List UInt8) : AttributeAgreed front later := by
  rcases run_length_settled isAttributeByte front later with name | ⟨full, longer⟩
  · rcases group_length_settled Byte.openParenthesis
        (front.drop (runLength isAttributeByte front)) later with argument | ⟨full, longer⟩
    · exact attribute_agreed_name name argument
    · -- the argument takes the rest of the front
      have behind : (front ++ later).drop (runLength isAttributeByte front) =
          front.drop (runLength isAttributeByte front) ++ later :=
        List.drop_append_of_le_length (run_length_le isAttributeByte front)
      rw [List.length_drop] at full longer
      refine Or.inr ⟨unclosed_drop ?_, unclosed_drop ?_⟩
      · rw [attributeLength]
        omega
      · rw [attributeLength, name, behind]
        omega
  · refine Or.inr ⟨unclosed_drop ?_, unclosed_drop ?_⟩
    · rw [attributeLength]
      omega
    · rw [attributeLength]
      omega

end TemplateServer.Markup
