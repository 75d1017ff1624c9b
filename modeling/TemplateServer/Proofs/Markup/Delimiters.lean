import TemplateServer.Proofs.Markup.Grammar
import TemplateServer.Text.Utf8

/-!
Where strings and bracket groups end. A quoted string is the only one that its
input starts with, and so is a bracket group; the scan counts its bytes exactly.
Where the input starts with no such piece, because a string or a group in it is
not closed, the scan takes all of the input.
-/

namespace TemplateServer.Markup

open Text (bytes length_bytes)

inductive QuotedString : List UInt8 → Prop
  | closed {quote : UInt8} {body : List UInt8} :
      isQuote quote = true → StringBody quote body → QuotedString (quote :: (body ++ [quote]))

inductive BracketGroup : List UInt8 → Prop
  | closed {opener closer : UInt8} {inner : List UInt8} :
      isOpener opener = true → GroupBody inner → isCloser closer = true →
      BracketGroup (opener :: (inner ++ [closer]))

/-- Where a piece of some kind ends that starts at an index of a text. There is at
most one such piece, and without one the rest of the text counts as the piece. -/
structure PieceEnds (IsPiece : List UInt8 → Prop) (text : String) (index stop : Nat) : Prop where
  unique : ∀ piece other, IsPiece piece → IsPiece other → piece <+: (bytes text).drop index →
    other <+: (bytes text).drop index → piece = other
  closed : ∀ piece, IsPiece piece → piece <+: (bytes text).drop index →
    stop = index + piece.length
  unclosed : (∀ piece, IsPiece piece → ¬ piece <+: (bytes text).drop index) →
    stop = text.utf8ByteSize

theorem string_closed_or_whole (quote : UInt8) (input : List UInt8) :
    (∃ body later, StringBody quote body ∧ input = body ++ quote :: later) ∨
      stringTail quote input = input.length := by
  fun_induction stringTail quote input with
  | case1 => exact Or.inr rfl
  | case2 => exact Or.inr rfl
  | case3 byte later induction =>
      rcases induction with ⟨body, rest, grammar, rfl⟩ | whole
      · exact Or.inl ⟨Byte.backslash :: byte :: body, rest, .escaped grammar, rfl⟩
      · rw [whole, Nat.add_comm]
        exact Or.inr rfl
  | case4 rest _ => exact Or.inl ⟨[], rest, .empty, rfl⟩
  | case5 byte rest unescaped different induction =>
      rcases induction with ⟨body, later, grammar, rfl⟩ | whole
      · exact Or.inl ⟨byte :: body, later, .plain different unescaped grammar, rfl⟩
      · rw [whole, Nat.add_comm]
        exact Or.inr rfl

/-- What some bytes do to the group that they stand in: one of them closes it, or it
takes all of them, however many groups are open around it. -/
inductive GroupOutcome : List UInt8 → Prop
  | closed {closer : UInt8} {inner : List UInt8} (later : List UInt8) :
      GroupBody inner → isCloser closer = true → GroupOutcome (inner ++ closer :: later)
  | whole {input : List UInt8} :
      (∀ outer, groupTail outer input = input.length) → GroupOutcome input

theorem group_outcome_empty : GroupOutcome [] := by
  apply GroupOutcome.whole
  intro outer
  rw [groupTail]
  rfl

theorem group_outcome_plain {byte : UInt8} {rest : List UInt8} (unquoted : isQuote byte = false)
    (unopened : isOpener byte = false) (unclosed : isCloser byte = false)
    (outcome : GroupOutcome rest) : GroupOutcome (byte :: rest) := by
  cases outcome with
  | closed later grammar closes =>
      exact .closed later (.plain unquoted unopened unclosed grammar) closes
  | whole all =>
      apply GroupOutcome.whole
      intro outer
      rw [group_tail_plain unquoted unopened unclosed, all, Nat.add_comm]
      rfl

theorem group_outcome_quoted {quote : UInt8} {body later : List UInt8}
    (quoted : isQuote quote = true) (string : StringBody quote body)
    (outcome : GroupOutcome later) : GroupOutcome (quote :: (body ++ quote :: later)) := by
  cases outcome with
  | closed behind grammar closes =>
      have longer := GroupOutcome.closed behind (.quoted quoted string grammar) closes
      rwa [List.cons_append, List.append_assoc] at longer
  | whole all =>
      apply GroupOutcome.whole
      intro outer
      rw [group_tail_quoted quoted, string_tail_of_body (quote_ne_backslash quoted) string,
        drop_delimited, all]
      simp only [List.length_cons, List.length_append]
      omega

theorem group_outcome_unclosed_string {quote : UInt8} {rest : List UInt8}
    (quoted : isQuote quote = true) (all : stringTail quote rest = rest.length) :
    GroupOutcome (quote :: rest) := by
  apply GroupOutcome.whole
  intro outer
  rw [group_tail_quoted quoted, all, List.drop_length, groupTail]
  simp only [List.length_cons]
  omega

theorem group_outcome_group {opener closer : UInt8} {inner later : List UInt8}
    (opens : isOpener opener = true) (balanced : GroupBody inner)
    (closes : isCloser closer = true) (outcome : GroupOutcome later) :
    GroupOutcome (opener :: (inner ++ closer :: later)) := by
  cases outcome with
  | closed behind grammar ends =>
      have longer := GroupOutcome.closed behind (.group opens balanced closes grammar) ends
      rwa [List.cons_append, List.append_assoc] at longer
  | whole all =>
      apply GroupOutcome.whole
      intro outer
      rw [group_tail_opened opens, group_tail_of_body balanced, group_tail_inner_closed closes, all]
      simp only [List.length_cons, List.length_append]
      omega

theorem group_outcome_unclosed_group {opener : UInt8} {rest : List UInt8}
    (opens : isOpener opener = true) (all : ∀ outer, groupTail outer rest = rest.length) :
    GroupOutcome (opener :: rest) := by
  apply GroupOutcome.whole
  intro outer
  rw [group_tail_opened opens, all, Nat.add_comm]
  rfl

theorem group_outcome (input : List UInt8) : GroupOutcome input := by
  -- what follows an inner string or group is no tail of a definition, only shorter
  induction size : input.length using Nat.strongRecOn generalizing input with
  | ind count induction =>
      subst size
      have shorter : ∀ later : List UInt8, later.length < input.length → GroupOutcome later :=
        fun later less => induction later.length less later rfl
      cases input with
      | nil => exact group_outcome_empty
      | cons byte rest =>
          have behind : GroupOutcome rest := shorter rest (by simp)
          cases quoted : isQuote byte with
          | true =>
              rcases string_closed_or_whole byte rest with ⟨body, later, string, rfl⟩ | all
              · exact group_outcome_quoted quoted string (shorter later (by simp; omega))
              · exact group_outcome_unclosed_string quoted all
          | false =>
              cases opens : isOpener byte with
              | true =>
                  cases behind with
                  | closed later balanced closes =>
                      exact group_outcome_group opens balanced closes
                        (shorter later (by simp; omega))
                  | whole all => exact group_outcome_unclosed_group opens all
              | false =>
                  cases closes : isCloser byte with
                  | true => exact .closed rest .empty closes
                  | false => exact group_outcome_plain quoted opens closes behind

theorem quoted_string_length {quote : UInt8} {rest piece : List UInt8}
    (string : QuotedString piece) (starts : piece <+: quote :: rest) :
    piece.length = 1 + stringTail quote rest := by
  obtain ⟨later, same⟩ := starts
  cases string with
  | @closed first body quoted grammar =>
      rw [List.cons_append, List.append_assoc, List.singleton_append] at same
      obtain ⟨rfl, rfl⟩ := List.cons.inj same
      rw [string_tail_of_body (quote_ne_backslash quoted) grammar, List.length_cons,
        List.length_append, List.length_singleton, Nat.add_comm]

theorem bracket_group_length {opener : UInt8} {rest piece : List UInt8}
    (group : BracketGroup piece) (starts : piece <+: opener :: rest) :
    piece.length = groupLength opener (opener :: rest) := by
  obtain ⟨later, same⟩ := starts
  cases group with
  | @closed first closer inner opens grammar closes =>
      rw [List.cons_append, List.append_assoc, List.singleton_append] at same
      obtain ⟨rfl, rfl⟩ := List.cons.inj same
      rw [groupLength, if_pos rfl, group_tail_of_body grammar, group_tail_closed closes,
        List.length_cons, List.length_append, List.length_singleton, Nat.add_comm]

/-- A kind of piece with one length for each input ends where that length says. -/
theorem piece_ends_of_length {IsPiece : List UInt8 → Prop} {text : String} {index length : Nat}
    {first : UInt8} {rest : List UInt8} (stands : (bytes text).drop index = first :: rest)
    (exact : ∀ piece, IsPiece piece → piece <+: first :: rest → piece.length = length)
    (whole : (∃ piece, IsPiece piece ∧ piece <+: first :: rest) ∨
      length = (first :: rest).length) :
    PieceEnds IsPiece text index (index + length) := by
  constructor
  · intro piece other given also starts begins
    rw [stands] at starts begins
    have same : piece.length = other.length :=
      (exact piece given starts).trans (exact other also begins).symm
    exact (List.prefix_of_prefix_length_le starts begins (Nat.le_of_eq same)).eq_of_length same
  · intro piece given starts
    rw [stands] at starts
    rw [exact piece given starts]
  · intro none
    have all : length = (first :: rest).length := by
      rcases whole with ⟨piece, given, starts⟩ | all
      · rw [← stands] at starts
        exact absurd starts (none piece given)
      · exact all
    have left := congrArg List.length stands
    rw [List.length_drop, length_bytes] at left
    rw [List.length_cons] at all left
    omega

/-- Strings and groups are recognised exactly. At a quote and at an opening bracket
the scan goes on behind the one string or group that starts there, and at the end of
the text if none does. -/
theorem delimited_pieces_recognised (text : String) (index : Nat) (first : UInt8)
    (rest : List UInt8) (stands : (bytes text).drop index = first :: rest) :
    (isOpener first = true →
        PieceEnds BracketGroup text index (index + groupLength first (first :: rest))) ∧
      (isQuote first = true →
        PieceEnds QuotedString text index (index + (1 + stringTail first rest))) := by
  constructor
  · intro opens
    apply piece_ends_of_length stands
    · intro piece group starts
      exact bracket_group_length group starts
    · cases group_outcome rest with
      | closed later grammar closes =>
          exact Or.inl ⟨_, .closed opens grammar closes, later, by simp⟩
      | whole all =>
          rw [groupLength, if_pos rfl, all, Nat.add_comm]
          exact Or.inr rfl
  · intro quoted
    apply piece_ends_of_length stands
    · intro piece string starts
      exact quoted_string_length string starts
    · rcases string_closed_or_whole first rest with ⟨body, later, grammar, rfl⟩ | whole
      · exact Or.inl ⟨_, .closed quoted grammar, later, by simp⟩
      · rw [whole, Nat.add_comm]
        exact Or.inr rfl

def mixedGroup : String := "é(\"\\é)\" ]x"

theorem delimited_pieces_recognised_mixed :
    mixedGroup.utf8ByteSize = 12 ∧ PieceEnds BracketGroup mixedGroup 2 11 ∧
      PieceEnds QuotedString mixedGroup 3 9 ∧ PieceEnds BracketGroup "(')" 0 3 := by
  have group := (delimited_pieces_recognised mixedGroup 2 0x28 ((bytes mixedGroup).drop 3)
    (by decide +kernel)).1 (by decide)
  have string := (delimited_pieces_recognised mixedGroup 3 0x22 ((bytes mixedGroup).drop 4)
    (by decide +kernel)).2 (by decide)
  have unclosed := (delimited_pieces_recognised "(')" 0 0x28 [0x27, 0x29]
    (by decide +kernel)).1 (by decide)
  have groupSize : groupLength 0x28 (0x28 :: (bytes mixedGroup).drop 3) = 9 := by decide +kernel
  have stringSize : stringTail 0x22 ((bytes mixedGroup).drop 4) = 5 := by decide +kernel
  have unclosedSize : groupLength 0x28 [0x28, 0x27, 0x29] = 3 := by decide +kernel
  rw [groupSize] at group
  rw [stringSize] at string
  rw [unclosedSize] at unclosed
  exact ⟨by decide +kernel, group, string, unclosed⟩

end TemplateServer.Markup
