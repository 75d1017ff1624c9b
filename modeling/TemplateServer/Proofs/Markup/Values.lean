import TemplateServer.Proofs.Markup.Delimiters
import TemplateServer.Proofs.Markup.Passing
import TemplateServer.Proofs.Markup.Settling

/-!
Where attribute values end. An unquoted value is a sequence of plain bytes, strings,
groups and arrows, and the blanks around an arrow belong to the arrow. The scan takes
all of it, up to the first mark or blank that ends it, and a value that is one quoted
string ends with its closing quote.
-/

namespace TemplateServer.Markup

open Text (bytes length_bytes)

inductive ValueAtom where
  | plain (byte : UInt8) (outside : isPlainByte byte = true)
  | string (piece : List UInt8) (closed : QuotedString piece)
  | group (piece : List UInt8) (closed : BracketGroup piece)
  | arrow (before behind : List UInt8) (beforeBlank : ∀ byte ∈ before, isBlank byte = true)
      (behindBlank : ∀ byte ∈ behind, isBlank byte = true)

namespace ValueAtom

def render : ValueAtom → List UInt8
  | .plain byte _ => [byte]
  | .string piece _ => piece
  | .group piece _ => piece
  | .arrow before behind _ _ => before ++ Byte.equals :: Byte.greater :: behind

def isString : ValueAtom → Bool
  | .string _ _ => true
  | _ => false

def isArrow : ValueAtom → Bool
  | .arrow _ _ _ _ => true
  | _ => false

end ValueAtom

/-- An unquoted value as it is written. With a string in front it would be that
string, and behind an arrow it would go on. -/
structure WrittenExpression where
  atoms : List ValueAtom
  nonempty : atoms ≠ []
  opensPlain : (atoms.head nonempty).isString = false
  endsPlain : (atoms.getLast nonempty).isArrow = false

def WrittenExpression.render (expression : WrittenExpression) : List UInt8 :=
  expression.atoms.flatMap ValueAtom.render

inductive EndsValue : List UInt8 → Prop
  | text : EndsValue []
  | mark {byte : UInt8} (rest : List UInt8) :
      byte = Byte.greater ∨ byte = Byte.less ∨ byte = Byte.comma → EndsValue (byte :: rest)
  | selfClosed (rest : List UInt8) : EndsValue (Byte.slash :: Byte.greater :: rest)
  | blank {byte : UInt8} {rest : List UInt8} :
      isBlank byte = true → ¬ [Byte.equals, Byte.greater] <+: rest.dropWhile isBlank →
      EndsValue (byte :: rest)

/-- The value that starts behind `before` is all of `value` and nothing of `after`: so
the scan counts its bytes, and so it goes on in a text made of the three. -/
structure TakesValue (before value after : List UInt8) : Prop where
  counted : valueLength ((before ++ value ++ after).drop before.length) = value.length
  inPlace : ∀ text, bytes text = before ++ value ++ after →
    InPlace.skipValue text before.length = pure (before.length + value.length)

theorem takes_value_of_length {value after : List UInt8} (before : List UInt8)
    (length : valueLength (value ++ after) = value.length) : TakesValue before value after := by
  have counted : valueLength ((before ++ value ++ after).drop before.length) = value.length := by
    rw [List.append_assoc, List.drop_left, length]
  refine ⟨counted, ?_⟩
  intro text split
  have size := congrArg List.length split
  rw [length_bytes, List.append_assoc, List.length_append] at size
  rw [InPlace.skip_value_eq (by omega), split, counted]

/-- Only a string starts with a quote, and every atom starts with something. -/
theorem atom_starts (atom : ValueAtom) :
    ∃ first rest, atom.render = first :: rest ∧ isQuote first = atom.isString := by
  cases atom with
  | plain byte outside => exact ⟨byte, [], rfl, (plain_byte_facts outside).2.1⟩
  | string piece closed =>
      cases closed with
      | closed quoted body => exact ⟨_, _, rfl, quoted⟩
  | group piece closed =>
      cases closed with
      | closed opens body closes => exact ⟨_, _, rfl, opener_not_quote opens⟩
  | arrow before behind beforeBlank behindBlank =>
      cases before with
      | nil => exact ⟨_, _, rfl, show isQuote Byte.equals = false by decide⟩
      | cons first rest =>
          rw [List.forall_mem_cons] at beforeBlank
          exact ⟨_, _, rfl, (blank_facts beforeBlank.1).2.1⟩

/-- Behind an arrow and its blanks a value may go on in any way, also with a further
arrow. -/
theorem expression_behind_arrow {before behind body : List UInt8}
    (beforeBlank : ∀ byte ∈ before, isBlank byte = true)
    (behindBlank : ∀ byte ∈ behind, isBlank byte = true) (grammar : ExpressionBody body)
    (nonempty : body ≠ []) :
    ExpressionBody (before ++ Byte.equals :: Byte.greater :: (behind ++ body)) := by
  cases grammar with
  | empty => exact absurd rfl nonempty
  | plain plain rest =>
      exact .arrow beforeBlank behindBlank (plain_byte_facts plain).1 (.plain plain rest)
  | quoted quoted string rest =>
      exact .arrow beforeBlank behindBlank (quote_not_blank quoted)
        (.quoted quoted string rest)
  | group opens balanced closes rest =>
      exact .arrow beforeBlank behindBlank (opener_not_blank opens)
        (.group opens balanced closes rest)
  | @arrow between further rest next betweenBlank furtherBlank unblank later =>
      -- the blanks between two arrows all belong to the first of them
      have blank : ∀ byte ∈ behind ++ between, isBlank byte = true :=
        List.forall_mem_append.mpr ⟨behindBlank, betweenBlank⟩
      have second : ExpressionBody (Byte.equals :: Byte.greater :: (further ++ next :: rest)) :=
        .arrow (List.forall_mem_nil _) furtherBlank unblank later
      rw [← List.append_assoc]
      exact .arrow beforeBlank blank (by decide) second

theorem expression_of_atom {atom : ValueAtom} (plain : atom.isArrow = false) {rest : List UInt8}
    (grammar : ExpressionBody rest) : ExpressionBody (atom.render ++ rest) := by
  cases atom with
  | plain byte outside => exact .plain outside grammar
  | string piece closed =>
      cases closed with
      | closed quoted body =>
          rw [ValueAtom.render, List.cons_append, List.append_assoc, List.singleton_append]
          exact .quoted quoted body grammar
  | group piece closed =>
      cases closed with
      | closed opens body closes =>
          rw [ValueAtom.render, List.cons_append, List.append_assoc, List.singleton_append]
          exact .group opens body closes grammar
  | arrow => cases plain

theorem render_atoms_ne_nil {atoms : List ValueAtom} (nonempty : atoms ≠ []) :
    atoms.flatMap ValueAtom.render ≠ [] := by
  cases atoms with
  | nil => exact absurd rfl nonempty
  | cons atom atoms =>
      obtain ⟨first, rest, starts, -⟩ := atom_starts atom
      rw [List.flatMap_cons, starts]
      exact List.cons_ne_nil _ _

theorem expression_of_atoms {atoms : List ValueAtom} (nonempty : atoms ≠ [])
    (plain : (atoms.getLast nonempty).isArrow = false) :
    ExpressionBody (atoms.flatMap ValueAtom.render) := by
  induction atoms with
  | nil => exact absurd rfl nonempty
  | cons atom atoms induction =>
      rw [List.flatMap_cons]
      by_cases last : atoms = []
      · subst last
        exact expression_of_atom plain .empty
      · rw [List.getLast_cons last] at plain
        have grammar := induction last plain
        cases arrow : atom.isArrow with
        | false => exact expression_of_atom arrow grammar
        | true =>
            cases atom with
            | arrow before behind beforeBlank behindBlank =>
                rw [ValueAtom.render, List.append_assoc, List.cons_append, List.cons_append]
                exact expression_behind_arrow beforeBlank behindBlank grammar
                  (render_atoms_ne_nil last)
            | _ => cases arrow

theorem drop_run_length (member : UInt8 → Bool) (input : List UInt8) :
    input.drop (runLength member input) = input.dropWhile member := by
  calc input.drop (input.takeWhile member).length
      = (input.takeWhile member ++ input.dropWhile member).drop (input.takeWhile member).length := by
        rw [List.takeWhile_append_dropWhile]
    _ = input.dropWhile member := List.drop_left

theorem expression_length_ends {after : List UInt8} (ends : EndsValue after) :
    expressionLength after = 0 := by
  cases ends with
  | text => rw [expressionLength]
  | mark rest stops => exact expression_length_stop stops rest
  | selfClosed rest => exact expression_length_self_closed rest
  | blank blank apart =>
      rw [expression_length_blank blank, drop_run_length, if_neg]
      rwa [List.isPrefixOf_iff_prefix]

theorem value_length_expression (expression : WrittenExpression) {after : List UInt8}
    (ends : EndsValue after) :
    valueLength (expression.render ++ after) = expression.render.length := by
  obtain ⟨atoms, nonempty, opensPlain, endsPlain⟩ := expression
  have grammar := expression_length_of_body (expression_of_atoms nonempty endsPlain) after
  rw [expression_length_ends ends, Nat.add_zero] at grammar
  rw [WrittenExpression.render, ← grammar]
  cases atoms with
  | nil => exact absurd rfl nonempty
  | cons atom atoms =>
      obtain ⟨first, rest, starts, unquoted⟩ := atom_starts atom
      rw [List.head_cons] at opensPlain
      rw [List.flatMap_cons, starts, List.cons_append, List.cons_append, valueLength, unquoted,
        opensPlain, if_neg Bool.false_ne_true]

theorem value_length_quoted {value : List UInt8} (string : QuotedString value)
    (after : List UInt8) : valueLength (value ++ after) = value.length := by
  have length : ∀ quote rest, value ++ after = quote :: rest →
      value.length = 1 + stringTail quote rest :=
    fun quote rest same => quoted_string_length string ⟨after, same⟩
  cases string with
  | closed quoted grammar =>
      rw [List.cons_append] at length ⊢
      rw [valueLength, if_pos quoted, length _ _ rfl]

/-- A value is taken whole and with nothing behind it. That holds of an unquoted value,
arrows and their blanks included, in front of all that can end it, and of a quoted
string in front of anything. -/
theorem value_taken_whole (before after : List UInt8) :
    (∀ expression : WrittenExpression, EndsValue after →
        TakesValue before expression.render after) ∧
      ∀ value, QuotedString value → TakesValue before value after := by
  constructor
  · intro expression ends
    exact takes_value_of_length before (value_length_expression expression ends)
  · intro value string
    exact takes_value_of_length before (value_length_quoted string after)

/-- The value `(é) => "é>"`: a group, an arrow between blanks and a string. -/
def arrowExpression : WrittenExpression where
  atoms :=
    [.group (0x28 :: ([0xC3, 0xA9] ++ [0x29]))
        (.closed (by decide)
          (.plain (by decide) (by decide) (by decide)
            (.plain (by decide) (by decide) (by decide) .empty))
          (by decide)),
      .arrow [0x20] [0x20] (List.forall_mem_singleton.mpr (by decide))
        (List.forall_mem_singleton.mpr (by decide)),
      .string (0x22 :: ([0xC3, 0xA9, 0x3E] ++ [0x22]))
        (.closed (by decide)
          (.plain (by decide) (by decide)
            (.plain (by decide) (by decide) (.plain (by decide) (by decide) .empty))))]
  nonempty := List.cons_ne_nil _ _
  opensPlain := rfl
  endsPlain := rfl

theorem value_taken_whole_arrow :
    InPlace.skipValue "<a b=(é) => \"é>\" c>" 5 = pure 18 ∧
      InPlace.skipValue "<a b='>'=>c" 5 = pure 8 := by
  have ends : EndsValue [0x20, 0x63, 0x3E] := .blank (by decide) (by decide)
  have string : QuotedString (0x27 :: ([0x3E] ++ [0x27])) :=
    .closed (by decide) (.plain (by decide) (by decide) .empty)
  have arrow := (value_taken_whole (bytes "<a b=") [0x20, 0x63, 0x3E]).1 arrowExpression ends
  have quoted := (value_taken_whole (bytes "<a b=") [0x3D, 0x3E, 0x63]).2 _ string
  exact ⟨arrow.inPlace "<a b=(é) => \"é>\" c>" (by decide +kernel),
    quoted.inPlace "<a b='>'=>c" (by decide +kernel)⟩

end TemplateServer.Markup
