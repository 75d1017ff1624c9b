import TemplateServer.Markup.Delimited
import TemplateServer.Proofs.Markup.ByteClass

/-!
The grammar of strings, bracket groups and unquoted values. A string may hold its own
quote behind a backslash, and a group holds plain bytes, strings and groups in
any order. The kinds of the two brackets of a group need not match. An unquoted
value is a sequence of plain bytes, strings, groups and arrows. The lengths of
the scan are exact on this grammar, whatever follows.
-/

namespace TemplateServer.Markup

/-- The bytes between the quotes of a string. A backslash takes the byte behind
it along. -/
inductive StringBody (quote : UInt8) : List UInt8 → Prop
  | empty : StringBody quote []
  | plain {byte : UInt8} {rest : List UInt8} :
      byte ≠ quote → byte ≠ Byte.backslash → StringBody quote rest →
      StringBody quote (byte :: rest)
  | escaped {byte : UInt8} {rest : List UInt8} :
      StringBody quote rest → StringBody quote (Byte.backslash :: byte :: rest)

inductive GroupBody : List UInt8 → Prop
  | empty : GroupBody []
  | plain {byte : UInt8} {rest : List UInt8} :
      isQuote byte = false → isOpener byte = false → isCloser byte = false →
      GroupBody rest → GroupBody (byte :: rest)
  | quoted {quote : UInt8} {body rest : List UInt8} :
      isQuote quote = true → StringBody quote body → GroupBody rest →
      GroupBody (quote :: (body ++ quote :: rest))
  | group {opener closer : UInt8} {inner rest : List UInt8} :
      isOpener opener = true → GroupBody inner → isCloser closer = true → GroupBody rest →
      GroupBody (opener :: (inner ++ closer :: rest))

def isPlainByte (byte : UInt8) : Bool :=
  !(isBlank byte || isQuote byte || isOpener byte || isCloser byte || byte == Byte.less ||
    byte == Byte.greater || byte == Byte.comma || byte == Byte.slash || byte == Byte.equals)

/-- The bytes of an unquoted value. Blanks stand around arrows only, and behind
an arrow the value goes on. -/
inductive ExpressionBody : List UInt8 → Prop
  | empty : ExpressionBody []
  | plain {byte : UInt8} {rest : List UInt8} :
      isPlainByte byte = true → ExpressionBody rest → ExpressionBody (byte :: rest)
  | quoted {quote : UInt8} {body rest : List UInt8} :
      isQuote quote = true → StringBody quote body → ExpressionBody rest →
      ExpressionBody (quote :: (body ++ quote :: rest))
  | group {opener closer : UInt8} {inner rest : List UInt8} :
      isOpener opener = true → GroupBody inner → isCloser closer = true → ExpressionBody rest →
      ExpressionBody (opener :: (inner ++ closer :: rest))
  | arrow {before behind rest : List UInt8} {next : UInt8} :
      (∀ byte ∈ before, isBlank byte = true) → (∀ byte ∈ behind, isBlank byte = true) →
      isBlank next = false → ExpressionBody (next :: rest) →
      ExpressionBody (before ++ Byte.equals :: Byte.greater :: (behind ++ next :: rest))

theorem run_length_append {member : UInt8 → Bool} {front : List UInt8}
    (all : ∀ byte ∈ front, member byte = true) (rest : List UInt8) :
    runLength member (front ++ rest) = front.length + runLength member rest := by
  rw [runLength, List.takeWhile_append_of_pos all, List.length_append, runLength]

theorem run_length_stop {member : UInt8 → Bool} {byte : UInt8} (outside : member byte = false)
    (rest : List UInt8) : runLength member (byte :: rest) = 0 := by
  simp [runLength, outside]

theorem run_length_exact {member : UInt8 → Bool} {front : List UInt8} {byte : UInt8}
    (all : ∀ byte ∈ front, member byte = true) (outside : member byte = false)
    (rest : List UInt8) : runLength member (front ++ byte :: rest) = front.length := by
  rw [run_length_append all, run_length_stop outside, Nat.add_zero]

theorem drop_delimited (inner : List UInt8) (mark : UInt8) (rest : List UInt8) :
    (inner ++ mark :: rest).drop (inner.length + 1) = rest := by
  simp

theorem string_tail_closed {quote : UInt8} (quoted : quote ≠ Byte.backslash) (rest : List UInt8) :
    stringTail quote (quote :: rest) = 1 := by
  rw [stringTail.eq_def]
  simp only [quoted, if_false, if_true]

theorem string_tail_plain {quote byte : UInt8} (different : byte ≠ quote)
    (unescaped : byte ≠ Byte.backslash) (rest : List UInt8) :
    stringTail quote (byte :: rest) = 1 + stringTail quote rest := by
  rw [stringTail.eq_def]
  simp only [different, unescaped, if_false]

theorem string_tail_escaped (quote byte : UInt8) (rest : List UInt8) :
    stringTail quote (Byte.backslash :: byte :: rest) = 2 + stringTail quote rest := by
  rw [stringTail.eq_def]
  simp only [if_true]

theorem string_tail_of_body {quote : UInt8} {body : List UInt8}
    (quoted : quote ≠ Byte.backslash) (grammar : StringBody quote body) (rest : List UInt8) :
    stringTail quote (body ++ quote :: rest) = body.length + 1 := by
  induction grammar with
  | empty => exact string_tail_closed quoted rest
  | plain different unescaped _ induction =>
      rw [List.cons_append, string_tail_plain different unescaped, induction, List.length_cons]
      omega
  | escaped _ induction =>
      rw [List.cons_append, List.cons_append, string_tail_escaped, induction]
      simp only [List.length_cons]
      omega

theorem group_tail_quoted {quote : UInt8} (quoted : isQuote quote = true) (outer : Nat)
    (rest : List UInt8) :
    groupTail outer (quote :: rest) =
      1 + stringTail quote rest + groupTail outer (rest.drop (stringTail quote rest)) := by
  rw [groupTail.eq_def]
  simp only [quoted, if_true]

theorem group_tail_opened {opener : UInt8} (opens : isOpener opener = true) (outer : Nat)
    (rest : List UInt8) :
    groupTail outer (opener :: rest) = 1 + groupTail (outer + 1) rest := by
  rw [groupTail.eq_def]
  simp only [opener_not_quote opens, opens, Bool.false_eq_true, if_false, if_true]

theorem group_tail_closed {closer : UInt8} (closes : isCloser closer = true)
    (rest : List UInt8) : groupTail 0 (closer :: rest) = 1 := by
  rw [groupTail.eq_def]
  simp only [closer_not_quote closes, closer_not_opener closes, closes, Bool.false_eq_true,
    if_false, if_true]

theorem group_tail_inner_closed {closer : UInt8} (closes : isCloser closer = true) (outer : Nat)
    (rest : List UInt8) :
    groupTail (outer + 1) (closer :: rest) = 1 + groupTail outer rest := by
  rw [groupTail.eq_def]
  simp only [closer_not_quote closes, closer_not_opener closes, closes, Bool.false_eq_true,
    if_false, if_true]

theorem group_tail_plain {byte : UInt8} (unquoted : isQuote byte = false)
    (unopened : isOpener byte = false) (unclosed : isCloser byte = false) (outer : Nat)
    (rest : List UInt8) :
    groupTail outer (byte :: rest) = 1 + groupTail outer rest := by
  rw [groupTail.eq_def]
  simp only [unquoted, unopened, unclosed, Bool.false_eq_true, if_false]

theorem group_tail_of_body {body : List UInt8} (grammar : GroupBody body) (outer : Nat)
    (rest : List UInt8) :
    groupTail outer (body ++ rest) = body.length + groupTail outer rest := by
  -- an inner group is read with one more group around it, and what follows it is the rest there
  induction grammar generalizing outer rest with
  | empty => simp
  | plain unquoted unopened unclosed _ induction =>
      rw [List.cons_append, group_tail_plain unquoted unopened unclosed, induction,
        List.length_cons]
      omega
  | @quoted quote inner later quoted string _ induction =>
      have tail := string_tail_of_body (quote_ne_backslash quoted) string (later ++ rest)
      rw [List.cons_append, List.append_assoc, List.cons_append, group_tail_quoted quoted, tail,
        drop_delimited, induction]
      simp only [List.length_cons, List.length_append]
      omega
  | @group opener closer inner later opens _ closes _ inside after =>
      rw [List.cons_append, group_tail_opened opens, List.append_assoc, inside, List.cons_append,
        group_tail_inner_closed closes, after]
      simp only [List.length_cons, List.length_append]
      omega

theorem plain_byte_facts {byte : UInt8} (plain : isPlainByte byte = true) :
    isBlank byte = false ∧ isQuote byte = false ∧ isOpener byte = false ∧
      byte ≠ Byte.equals ∧ byte ≠ Byte.slash ∧ byte ≠ Byte.greater ∧ byte ≠ Byte.less ∧
      byte ≠ Byte.comma := by
  simp only [isPlainByte, Bool.not_eq_true', Bool.or_eq_false_iff, beq_eq_false_iff_ne] at plain
  obtain ⟨⟨⟨⟨⟨⟨⟨⟨blank, quote⟩, opener⟩, closer⟩, less⟩, greater⟩, comma⟩, slash⟩, equals⟩ := plain
  exact ⟨blank, quote, opener, equals, slash, greater, less, comma⟩

theorem expression_length_plain {byte : UInt8} (plain : isPlainByte byte = true)
    (rest : List UInt8) : expressionLength (byte :: rest) = 1 + expressionLength rest := by
  obtain ⟨blank, quote, opener, equals, slash, greater, less, comma⟩ := plain_byte_facts plain
  rw [expressionLength]
  simp [blank, quote, opener, equals, slash, greater, less, comma]

theorem expression_length_quoted {quote : UInt8} (quoted : isQuote quote = true)
    (rest : List UInt8) :
    expressionLength (quote :: rest) =
      1 + stringTail quote rest + expressionLength (rest.drop (stringTail quote rest)) := by
  rw [expressionLength.eq_def]
  simp only [quote_not_opener quoted, quoted, Bool.false_eq_true, if_false, if_true]

theorem expression_length_opened {opener : UInt8} (opens : isOpener opener = true)
    (rest : List UInt8) :
    expressionLength (opener :: rest) =
      1 + groupTail 0 rest + expressionLength (rest.drop (groupTail 0 rest)) := by
  rw [expressionLength.eq_def]
  simp only [opens, if_true]

theorem expression_length_arrow (rest : List UInt8) :
    expressionLength (Byte.equals :: Byte.greater :: rest) =
      2 + runLength isBlank rest + expressionLength (rest.drop (runLength isBlank rest)) := by
  have unopened : isOpener Byte.equals = false := by decide
  have unquoted : isQuote Byte.equals = false := by decide
  rw [expressionLength.eq_def]
  simp only [unopened, unquoted, Bool.false_eq_true, if_false, List.head?_cons, List.tail_cons,
    decide_true, BEq.rfl, Bool.and_self, if_true, Nat.add_comm 1 (runLength isBlank rest),
    List.drop_succ_cons]
  omega

theorem expression_length_blank {blank : UInt8} (firstBlank : isBlank blank = true)
    (rest : List UInt8) :
    expressionLength (blank :: rest) =
      if [Byte.equals, Byte.greater].isPrefixOf (rest.drop (runLength isBlank rest)) then
        1 + runLength isBlank rest + expressionLength (rest.drop (runLength isBlank rest))
      else 0 := by
  obtain ⟨opener, quote, equals, slash, greater, less, comma⟩ := blank_facts firstBlank
  rw [expressionLength.eq_def]
  simp only [opener, quote, equals, slash, greater, less, comma, firstBlank, Bool.false_eq_true,
    decide_false, Bool.false_and, Bool.or_false, if_false, if_true]

/-- Blanks in front of an arrow belong to the value. -/
theorem expression_length_blanks_arrow {blanks : List UInt8}
    (blank : ∀ byte ∈ blanks, isBlank byte = true) (rest : List UInt8) :
    expressionLength (blanks ++ Byte.equals :: Byte.greater :: rest) =
      blanks.length + expressionLength (Byte.equals :: Byte.greater :: rest) := by
  cases blanks with
  | nil => simp
  | cons first later =>
      rw [List.forall_mem_cons] at blank
      have run := run_length_exact blank.2 (by decide : isBlank Byte.equals = false)
        (Byte.greater :: rest)
      rw [List.cons_append, expression_length_blank blank.1, run, List.drop_left,
        if_pos (by simp), List.length_cons]
      omega

theorem expression_length_of_body {body : List UInt8} (grammar : ExpressionBody body)
    (rest : List UInt8) :
    expressionLength (body ++ rest) = body.length + expressionLength rest := by
  induction grammar with
  | empty => simp
  | plain plain _ induction =>
      rw [List.cons_append, expression_length_plain plain, induction, List.length_cons]
      omega
  | @quoted quote inner later quoted string _ induction =>
      have tail := string_tail_of_body (quote_ne_backslash quoted) string (later ++ rest)
      rw [List.cons_append, List.append_assoc, List.cons_append, expression_length_quoted quoted,
        tail, drop_delimited, induction]
      simp only [List.length_cons, List.length_append]
      omega
  | @group opener closer inner later opens balanced closes _ induction =>
      have tail : groupTail 0 (inner ++ closer :: (later ++ rest)) = inner.length + 1 := by
        rw [group_tail_of_body balanced, group_tail_closed closes]
      rw [List.cons_append, List.append_assoc, List.cons_append, expression_length_opened opens,
        tail, drop_delimited, induction]
      simp only [List.length_cons, List.length_append]
      omega
  | @arrow before behind later next beforeBlank behindBlank unblank _ induction =>
      have run := run_length_exact behindBlank unblank (later ++ rest)
      simp only [List.append_assoc, List.cons_append] at induction ⊢
      rw [expression_length_blanks_arrow beforeBlank, expression_length_arrow, run, List.drop_left,
        induction]
      simp only [List.length_cons, List.length_append]
      omega

end TemplateServer.Markup
