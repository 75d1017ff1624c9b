import TemplateServer.Markup.Scan
import TemplateServer.Proofs.Markup.ByteClass
import TemplateServer.Proofs.Text.Boundary

/-!
Where the pieces of markup end. Every length of the scan stays within its input
and ends at a cut of it, that is, between two characters whenever the input
starts between two characters. This holds for every byte sequence, however
malformed it is as markup.
-/

namespace TemplateServer.Markup

open Text

theorem string_tail_cut {quote : UInt8} (ascii : quote < 0x80) (input : List UInt8) :
    Cut input (stringTail quote input) := by
  fun_induction stringTail quote input with
  | case1 => exact cut_end []
  | case2 => exact cut_end [Byte.backslash]
  | case3 byte later induction => exact cut_append [Byte.backslash, byte] induction
  | case4 rest _ => exact cut_one ascii rest
  | case5 byte rest _ _ induction => exact cut_cons byte induction

theorem group_tail_cut (outer : Nat) (input : List UInt8) :
    Cut input (groupTail outer input) := by
  fun_induction groupTail outer input with
  | case1 => exact cut_end []
  | case2 outer byte rest quoted length induction =>
      have within := cut_le (string_tail_cut (quote_ascii quoted) rest)
      rw [Nat.add_assoc]
      exact cut_cons byte (cut_drop within induction)
  | case3 outer byte rest _ _ induction => exact cut_cons byte induction
  | case4 byte rest _ _ closes => exact cut_one (closer_ascii closes) rest
  | case5 byte rest _ _ _ outer induction => exact cut_cons byte induction
  | case6 outer byte rest _ _ _ induction => exact cut_cons byte induction

theorem run_length_le (member : UInt8 → Bool) (input : List UInt8) :
    runLength member input ≤ input.length :=
  (List.takeWhile_sublist member).length_le

theorem expression_length_cut (input : List UInt8) : Cut input (expressionLength input) := by
  fun_induction expressionLength input with
  | case1 => exact cut_end []
  | case2 byte rest _ group induction =>
      have within := cut_le (group_tail_cut 0 rest)
      rw [Nat.add_assoc]
      exact cut_cons byte (cut_drop within induction)
  | case3 byte rest _ quoted length induction =>
      have within := cut_le (string_tail_cut (quote_ascii quoted) rest)
      rw [Nat.add_assoc]
      exact cut_cons byte (cut_drop within induction)
  | case4 byte rest _ _ arrow taken induction =>
      have within : taken ≤ rest.length := by
        cases rest with
        | nil => simp at arrow
        | cons next later =>
            have run := run_length_le isBlank later
            simp only [taken, List.tail_cons, List.length_cons]
            omega
      rw [Nat.add_assoc]
      exact cut_cons byte (cut_drop within induction)
  | case5 byte rest _ _ _ closes =>
      simp only [Bool.and_eq_true, decide_eq_true_eq] at closes
      exact cut_here (by rw [closes.1]; decide) rest
  | case6 byte rest _ _ _ _ stops =>
      simp only [Bool.or_eq_true, decide_eq_true_eq] at stops
      exact cut_here (by rcases stops with (rfl | rfl) | rfl <;> decide) rest
  | case7 byte rest _ _ _ _ _ _ blanks _ induction =>
      rw [Nat.add_assoc]
      exact cut_cons byte (cut_drop (run_length_le isBlank rest) induction)
  | case8 byte rest _ _ _ _ _ blank => exact cut_here (blank_ascii blank) rest
  | case9 byte rest _ _ _ _ _ _ induction => exact cut_cons byte induction

theorem value_length_cut (input : List UInt8) : Cut input (valueLength input) := by
  cases input with
  | nil => exact cut_end []
  | cons byte rest =>
      rw [valueLength]
      split
      · rename_i quoted
        exact cut_cons byte (string_tail_cut (quote_ascii quoted) rest)
      · exact expression_length_cut (byte :: rest)

theorem length_through_cut (front : List UInt8) {last : UInt8} (ascii : last < 0x80)
    (input : List UInt8) : Cut input (lengthThrough (front ++ [last]) input) := by
  fun_induction lengthThrough (front ++ [last]) input with
  | case1 => exact cut_end []
  | case2 byte rest found =>
      obtain ⟨later, split⟩ := List.isPrefixOf_iff_prefix.mp found
      rw [← split, List.append_assoc, List.singleton_append, List.length_append,
        List.length_singleton]
      exact cut_behind ascii front later
  | case3 byte rest _ induction => exact cut_cons byte induction

theorem declaration_tail_cut (input : List UInt8) : Cut input (declarationTail input) := by
  fun_induction declarationTail input with
  | case1 => exact cut_end []
  | case2 rest => exact cut_one (by decide) rest
  | case3 rest _ => exact cut_here (by decide) rest
  | case4 byte rest _ _ induction => exact cut_cons byte induction

/-- Bytes of a multi-byte character never end a run of names. -/
theorem run_length_cut {member : UInt8 → Bool}
    (wide : ∀ byte, 0x80 ≤ byte → member byte = true) (input : List UInt8) :
    Cut input (runLength member input) := by
  induction input with
  | nil => exact cut_end []
  | cons byte rest induction =>
      cases inside : member byte with
      | true =>
          have step : runLength member (byte :: rest) = 1 + runLength member rest := by
            simp only [runLength, List.takeWhile_cons, inside, if_true, List.length_cons]
            omega
          rw [step]
          exact cut_cons byte induction
      | false =>
          have none : runLength member (byte :: rest) = 0 := by
            simp [runLength, inside]
          have narrow : byte < 0x80 := by
            apply UInt8.not_le.mp
            intro high
            rw [wide byte high] at inside
            cases inside
          rw [none]
          exact cut_here narrow rest

theorem run_length_lands {member : UInt8 → Bool}
    (narrow : ∀ byte, member byte = true → byte < 0x80) (input : List UInt8) :
    Lands input (runLength member input) := by
  induction input with
  | nil => exact Or.inl rfl
  | cons byte rest induction =>
      cases inside : member byte with
      | true =>
          have step : runLength member (byte :: rest) = 1 + runLength member rest := by
            simp only [runLength, List.takeWhile_cons, inside, if_true, List.length_cons]
            omega
          rw [step]
          exact Or.inr (cut_add (cut_one (narrow byte inside) rest) induction)
      | false => exact Or.inl (by simp [runLength, inside])

theorem group_length_lands (opener : UInt8) (input : List UInt8) :
    Lands input (groupLength opener input) := by
  cases input with
  | nil => exact Or.inl rfl
  | cons byte rest =>
      rw [groupLength]
      split
      · exact Or.inr (cut_cons byte (group_tail_cut 0 rest))
      · exact Or.inl rfl

theorem tag_name_length_cut (input : List UInt8) : Cut input (tagNameLength input) := by
  rw [tagNameLength]
  split
  · rename_i dynamic
    obtain ⟨later, rfl⟩ := List.isPrefixOf_iff_prefix.mp dynamic
    have group : Cut (Byte.openBrace :: later)
        (groupLength Byte.openBrace (Byte.openBrace :: later)) := by
      rw [groupLength, if_pos rfl]
      exact cut_cons Byte.openBrace (group_tail_cut 0 later)
    exact cut_cons Byte.dollar group
  · exact run_length_cut tag_byte_wide input

theorem shorthand_length_lands (input : List UInt8) : Lands input (shorthandLength input) := by
  rw [shorthandLength]
  split
  · split
    · exact Or.inr (run_length_cut (fun byte wide => by simp [tag_byte_wide byte wide]) input)
    · exact Or.inl rfl
  · exact Or.inl rfl

theorem parameters_length_lands (input : List UInt8) : Lands input (parametersLength input) := by
  rw [parametersLength]
  split
  · rename_i opens
    cases input with
    | nil => cases opens
    | cons byte rest => exact Or.inr (cut_cons byte (length_through_cut [] (by decide) rest))
  · exact Or.inl rfl

theorem tag_suffix_length_lands (input : List UInt8) : Lands input (tagSuffixLength input) := by
  have shorthand := shorthand_length_lands input
  have parameters := parameters_length_lands (input.drop (shorthandLength input))
  rw [tagSuffixLength]
  apply lands_add (lands_add shorthand parameters)
  rw [← List.drop_drop]
  exact group_length_lands _ _

theorem assigned_length_lands (input : List UInt8) : Lands input (assignedLength input) := by
  have blanks := run_length_lands (fun byte => blank_ascii) input
  simp only [assignedLength]
  split
  · rename_i sign
    cases found : input.drop (runLength isBlank input) with
    | nil =>
        rw [found] at sign
        cases sign
    | cons byte later =>
        rw [found, List.head?_cons, Option.some.injEq] at sign
        subst sign
        have equals : Lands (input.drop (runLength isBlank input)) 1 := by
          rw [found]
          exact Or.inr (cut_one (by decide) later)
        have after : input.drop (runLength isBlank input + 1) = later := by
          rw [← List.drop_drop, found]
          rfl
        have more := run_length_lands (fun byte => blank_ascii) later
        have value : Lands (later.drop (runLength isBlank later))
            (valueLength (later.drop (runLength isBlank later))) :=
          Or.inr (value_length_cut _)
        rw [List.tail_cons]
        apply lands_add (lands_add (lands_add blanks equals) _)
        · rw [← List.drop_drop, after]
          exact value
        · rw [after]
          exact more
  · exact Or.inl rfl

theorem attribute_length_cut (input : List UInt8) : Cut input (attributeLength input) := by
  have name := run_length_cut attribute_byte_wide input
  rw [attributeLength]
  apply cut_add (cut_add name (group_length_lands _ _))
  rw [← List.drop_drop]
  exact assigned_length_lands _

theorem raw_body_length_cut (name input : List UInt8) : Cut input (rawBodyLength name input) := by
  fun_induction rawBodyLength name input with
  | case1 => exact cut_end []
  | case2 byte rest closes =>
      rw [startsClosing, beq_iff_eq, Nat.add_comm 2, List.take_succ_cons, List.map_cons] at closes
      have less := lower_byte_less byte (List.cons.inj closes).1
      exact cut_here (by rw [less]; decide) rest
  | case3 byte rest _ induction => exact cut_cons byte induction

theorem pass_over_le {byte : UInt8} {rest : List UInt8} {more : Nat}
    (passed : passOver? byte rest = some more) : more ≤ rest.length := by
  rw [passOver?.eq_def] at passed
  split at passed
  · cases passed
    exact lands_le (group_length_lands _ _)
  · split at passed
    · split at passed
      · rename_i comment
        obtain ⟨later, rfl⟩ := List.isPrefixOf_iff_prefix.mp comment
        cases passed
        have within := cut_le (length_through_cut [Byte.hyphen, Byte.hyphen]
          (show Byte.greater < 0x80 by decide) later)
        simp only [List.cons_append, List.nil_append, List.drop_succ_cons, List.drop_zero,
          List.length_cons] at within ⊢
        omega
      · split at passed
        · cases passed
          exact Nat.zero_le _
        · rename_i next later _
          split at passed
          · cases passed
            have within := cut_le (declaration_tail_cut later)
            rw [List.length_cons]
            omega
          · split at passed
            · cases passed
            · cases passed
              exact Nat.zero_le _
    · cases passed
      exact Nat.zero_le _

theorem pass_over_none {byte : UInt8} {rest : List UInt8} (stopped : passOver? byte rest = none) :
    byte = Byte.less ∧ ∃ first later, rest = first :: later ∧ isTagStart first = true := by
  rw [passOver?.eq_def] at stopped
  split at stopped
  · cases stopped
  · split at stopped
    · rename_i less
      split at stopped
      · cases stopped
      · split at stopped
        · cases stopped
        · rename_i first later _
          split at stopped
          · cases stopped
          · split at stopped
            · rename_i starts
              exact ⟨less, first, later, rfl, starts⟩
            · cases stopped
    · cases stopped

theorem gap_length_cut (input : List UInt8) : Cut input (gapLength input) := by
  fun_induction gapLength input with
  | case1 => exact cut_end []
  | case2 byte rest stopped =>
      obtain ⟨rfl, -⟩ := pass_over_none stopped
      exact cut_here (by decide) rest
  | case3 byte rest more passed induction =>
      rw [Nat.add_assoc]
      exact cut_cons byte (cut_drop (pass_over_le passed) induction)

theorem gap_length_stop (input : List UInt8) :
    input.drop (gapLength input) = [] ∨ ∃ first later,
      input.drop (gapLength input) = Byte.less :: first :: later ∧ isTagStart first = true := by
  fun_induction gapLength input with
  | case1 => exact Or.inl rfl
  | case2 byte rest stopped =>
      obtain ⟨rfl, first, later, rfl, starts⟩ := pass_over_none stopped
      exact Or.inr ⟨first, later, rfl, starts⟩
  | case3 byte rest more passed induction =>
      rw [Nat.add_assoc, Nat.add_comm 1, List.drop_succ_cons, ← List.drop_drop]
      exact induction

end TemplateServer.Markup
