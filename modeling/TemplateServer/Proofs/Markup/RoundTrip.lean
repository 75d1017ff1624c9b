import TemplateServer.Proofs.Markup.OpenTag

/-!
Scanning the text of a written document gives exactly the open tags that were
written, with their spans, and nothing from the other pieces.
-/

namespace TemplateServer.Markup

/-! ### Between tags -/

theorem gap_length_pass {byte : UInt8} {rest : List UInt8} {more : Nat}
    (passed : passOver? byte rest = some more) :
    gapLength (byte :: rest) = 1 + more + gapLength (rest.drop more) := by
  rw [gapLength]
  simp only [passed]

theorem gap_length_text {content : List UInt8}
    (plain : ∀ byte ∈ content, (byte != Byte.less && byte != Byte.dollar) = true)
    (rest : List UInt8) : gapLength (content ++ rest) = content.length + gapLength rest := by
  induction content with
  | nil => simp
  | cons byte content induction =>
      rw [List.forall_mem_cons] at plain
      have outside := plain.1
      simp only [Bool.and_eq_true, bne_iff_ne] at outside
      have passed : passOver? byte (content ++ rest) = some 0 := by
        rw [passOver?.eq_def, if_neg outside.2, if_neg outside.1]
      rw [List.cons_append, gap_length_pass passed, List.drop_zero, induction plain.2,
        List.length_cons]
      omega

theorem gap_length_placeholder {group : List UInt8} (balanced : GroupBody group)
    (rest : List UInt8) :
    gapLength (Byte.dollar :: Byte.openBrace :: (group ++ 0x7D :: rest)) =
      group.length + 3 + gapLength rest := by
  have length : groupLength Byte.openBrace (Byte.openBrace :: (group ++ 0x7D :: rest)) =
      group.length + 2 := by
    rw [groupLength, if_pos rfl, group_tail_of_body balanced, group_tail_closed (by decide)]
    omega
  have passed : passOver? Byte.dollar (Byte.openBrace :: (group ++ 0x7D :: rest)) =
      some (group.length + 2) := by
    rw [passOver?, if_pos rfl, length]
  have dropped : (Byte.openBrace :: (group ++ 0x7D :: rest)).drop (group.length + 2) = rest := by
    simp
  rw [gap_length_pass passed, dropped]
  omega

theorem declaration_tail_name {name : List UInt8}
    (inside : ∀ byte ∈ name, (byte != Byte.less && byte != Byte.greater) = true)
    (rest : List UInt8) : declarationTail (name ++ Byte.greater :: rest) = name.length + 1 := by
  induction name with
  | nil => rfl
  | cons byte name induction =>
      rw [List.forall_mem_cons] at inside
      have within := inside.1
      simp only [Bool.and_eq_true, bne_iff_ne] at within
      rw [List.cons_append, declarationTail, if_neg within.2, if_neg within.1, induction inside.2,
        List.length_cons]
      omega

theorem gap_length_closing {name : List UInt8}
    (inside : ∀ byte ∈ name, (byte != Byte.less && byte != Byte.greater) = true)
    (rest : List UInt8) :
    gapLength (Byte.less :: Byte.slash :: (name ++ Byte.greater :: rest)) =
      name.length + 3 + gapLength rest := by
  have passed : passOver? Byte.less (Byte.slash :: (name ++ Byte.greater :: rest)) =
      some (1 + (name.length + 1)) := by
    rw [← declaration_tail_name inside rest]
    rfl
  have dropped : (Byte.slash :: (name ++ Byte.greater :: rest)).drop (1 + (name.length + 1)) =
      rest := by
    rw [Nat.add_comm 1]
    simp
  rw [gap_length_pass passed, dropped]
  omega

def commentEnd : List UInt8 := [Byte.hyphen, Byte.hyphen, Byte.greater]

theorem length_through_comment {content : List UInt8} (unclosed : ¬ commentEnd <:+: content)
    (rest : List UInt8) :
    lengthThrough commentEnd (content ++ (commentEnd ++ rest)) = content.length + 3 := by
  induction content with
  | nil => rfl
  | cons byte content induction =>
      have later : ¬ commentEnd <:+: content := fun occurs =>
        unclosed (occurs.trans (List.suffix_cons byte content).isInfix)
      -- the mark has no proper overlap with itself, so it cannot start in the content
      have absent : commentEnd.isPrefixOf (byte :: (content ++ (commentEnd ++ rest))) = false := by
        match content with
        | [] => simp [commentEnd, List.isPrefixOf, Byte.hyphen, Byte.greater]
        | [second] => simp [commentEnd, List.isPrefixOf, Byte.hyphen, Byte.greater]
        | second :: third :: content =>
            apply Bool.eq_false_iff.mpr
            intro starts
            apply unclosed
            simp only [commentEnd, List.isPrefixOf, List.cons_append, Bool.and_eq_true,
              beq_iff_eq] at starts
            obtain ⟨rfl, rfl, rfl, -⟩ := starts
            exact ⟨[], content, rfl⟩
      rw [List.cons_append, lengthThrough, absent, if_neg Bool.false_ne_true, induction later,
        List.length_cons]
      omega

theorem gap_length_comment {content : List UInt8} (unclosed : ¬ commentEnd <:+: content)
    (rest : List UInt8) :
    gapLength (Byte.less :: Byte.exclamation :: Byte.hyphen :: Byte.hyphen ::
      (content ++ (commentEnd ++ rest))) = content.length + 7 + gapLength rest := by
  have passed : passOver? Byte.less (Byte.exclamation :: Byte.hyphen :: Byte.hyphen ::
      (content ++ (commentEnd ++ rest))) = some (3 + (content.length + 3)) := by
    rw [← length_through_comment unclosed rest]
    rfl
  have dropped : (Byte.exclamation :: Byte.hyphen :: Byte.hyphen ::
      (content ++ (commentEnd ++ rest))).drop (3 + (content.length + 3)) = rest := by
    rw [Nat.add_comm 3]
    simp [commentEnd]
  rw [gap_length_pass passed, dropped]
  omega

theorem gap_length_tag {first : UInt8} (starts : isTagStart first = true) (rest : List UInt8) :
    gapLength (Byte.less :: first :: rest) = 0 := by
  have marks : first ≠ Byte.exclamation ∧ first ≠ Byte.question ∧ first ≠ Byte.slash := by
    refine ⟨?_, ?_, ?_⟩ <;> (rintro rfl; exact absurd starts (by decide))
  have stopped : passOver? Byte.less (first :: rest) = none := by
    simp [passOver?, show Byte.less ≠ Byte.dollar by decide, marks, starts, Ne.symm marks.1,
      List.isPrefixOf]
  rw [gapLength]
  simp only [stopped]

/-! ### Raw elements -/

theorem lower_byte_wide {byte : UInt8} (wide : 0x80 ≤ byte) : lowerByte byte = byte := by
  have above : ¬ byte ≤ 0x5A := by
    intro below
    exact absurd (UInt8.le_trans wide below) (by decide)
  simp [lowerByte, above]

theorem to_lower_upper {char : Char} (upper : 0x41 ≤ char.toNat ∧ char.toNat ≤ 0x5A) :
    char.toLower.toNat = char.toNat + 0x20 := by
  have inside : char.val ≥ 'A'.val ∧ char.val ≤ 'Z'.val := upper
  have small : char.val.toNat ≤ 0x5A := upper.2
  have distance : ('a'.val - 'A'.val).toNat = 0x20 := by decide
  have lower : char.toLower.val = char.val + ('a'.val - 'A'.val) :=
    congrArg Char.val (dif_pos inside)
  simp only [Char.toNat, lower, UInt32.toNat_add, distance]
  exact Nat.mod_eq_of_lt (by omega)

theorem to_lower_other {char : Char} (other : ¬ (0x41 ≤ char.toNat ∧ char.toNat ≤ 0x5A)) :
    char.toLower = char := by
  have outside : ¬ (char.val ≥ 'A'.val ∧ char.val ≤ 'Z'.val) := other
  exact dif_neg outside

theorem lower_byte_of_nat {code : Nat} (ascii : code < 0x80) :
    lowerByte (UInt8.ofNat code) =
      UInt8.ofNat (if 0x41 ≤ code ∧ code ≤ 0x5A then code + 0x20 else code) := by
  revert code
  decide

theorem encode_lower (char : Char) :
    String.utf8EncodeChar char.toLower = (String.utf8EncodeChar char).map lowerByte := by
  by_cases upper : 0x41 ≤ char.toNat ∧ char.toNat ≤ 0x5A
  · have lower := to_lower_upper upper
    rw [Text.encode_char_ascii char (by omega), Text.encode_char_ascii char.toLower (by omega),
      List.map_singleton, lower_byte_of_nat (by omega), if_pos upper, lower]
  · rw [to_lower_other upper]
    by_cases narrow : char.toNat < 0x80
    · rw [Text.encode_char_ascii char narrow, List.map_singleton, lower_byte_of_nat narrow,
        if_neg upper]
    · have wide := Text.encode_char_wide char (Nat.le_of_not_lt narrow)
      have same := List.map_congr_left fun byte member => lower_byte_wide (wide byte member)
      rw [same, List.map_id']

theorem bytes_to_lower (text : String) :
    Text.bytes text.toLower = (Text.bytes text).map lowerByte := by
  have mapped : text.toLower.toList = text.toList.map Char.toLower := String.toList_map
  rw [Text.bytes_eq_encoded, Text.bytes_eq_encoded, mapped, List.map_flatMap, List.flatMap_map]
  simp only [encode_lower]

theorem starts_closing_head {name input : List UInt8} (starts : startsClosing name input = true) :
    ∃ first rest, input = first :: rest ∧ lowerByte first = Byte.less := by
  rw [startsClosing, beq_iff_eq] at starts
  cases input with
  | nil => simp at starts
  | cons first rest =>
      rw [Nat.add_comm 2, List.take_succ_cons, List.map_cons] at starts
      exact ⟨first, rest, rfl, (List.cons.inj starts).1⟩

theorem closing_not_inside {name body closing : List UInt8} (byte : UInt8)
    (clean : Byte.less ∉ name.map lowerByte)
    (absent : ¬ Byte.less :: Byte.slash :: name.map lowerByte <:+: (byte :: body).map lowerByte)
    (closes : startsClosing name closing = true) :
    startsClosing name (byte :: body ++ closing) = false := by
  apply Bool.eq_false_iff.mpr
  intro starts
  rw [startsClosing, beq_iff_eq] at starts
  by_cases long : 2 + name.length ≤ (byte :: body).length
  · rw [List.take_append_of_le_length long, List.map_take] at starts
    apply absent
    have front := (List.take_prefix (2 + name.length) ((byte :: body).map lowerByte)).isInfix
    rw [starts] at front
    exact front
  · -- the closing tag would start in the body and run over the `<` of the real one
    obtain ⟨first, rest, rfl, less⟩ := starts_closing_head closes
    obtain ⟨more, overlap⟩ : ∃ more, 2 + name.length = (byte :: body).length + (more + 1) :=
      ⟨2 + name.length - (byte :: body).length - 1, by omega⟩
    rw [overlap, List.take_length_add_append, List.take_succ_cons, List.cons_append, List.map_cons,
      List.map_append, List.map_cons, less] at starts
    have tail : body.map lowerByte ++ Byte.less :: (rest.take more).map lowerByte =
        Byte.slash :: name.map lowerByte := (List.cons.inj starts).2
    have member : Byte.less ∈ Byte.slash :: name.map lowerByte := by
      rw [← tail]
      simp
    rcases List.mem_cons.mp member with slash | inside
    · exact absurd slash (by decide)
    · exact clean inside

theorem raw_body_length_closed {name body closing : List UInt8}
    (clean : Byte.less ∉ name.map lowerByte)
    (absent : ¬ Byte.less :: Byte.slash :: name.map lowerByte <:+: body.map lowerByte)
    (closes : startsClosing name closing = true) :
    rawBodyLength name (body ++ closing) = body.length := by
  induction body with
  | nil =>
      obtain ⟨first, rest, rfl, -⟩ := starts_closing_head closes
      rw [List.nil_append, rawBodyLength, if_pos closes, List.length_nil]
  | cons byte body induction =>
      have later : ¬ Byte.less :: Byte.slash :: name.map lowerByte <:+: body.map lowerByte := by
        intro occurs
        exact absent (occurs.trans (List.suffix_cons _ _).isInfix)
      have unclosed := closing_not_inside byte clean absent closes
      rw [List.cons_append] at unclosed ⊢
      rw [rawBodyLength, unclosed, if_neg Bool.false_ne_true, induction later, List.length_cons]
      omega

theorem is_raw_iff (tag : WrittenTag) :
    isRawElement (Text.bytes tag.name) = true ↔ tag.IsRaw := by
  have named (name : String) : (Text.bytes tag.name).map lowerByte = Text.bytes name ↔
      tag.name.toLower = name := by
    rw [← bytes_to_lower]
    exact ⟨Text.bytes_injective, congrArg Text.bytes⟩
  simp only [isRawElement, Bool.or_eq_true, beq_iff_eq, named, WrittenTag.IsRaw]

/-- A lower-case name of a raw element holds no marks of markup. -/
theorem raw_name_clean {tag : WrittenTag} (raw : tag.IsRaw) :
    ∀ byte ∈ (Text.bytes tag.name).map lowerByte, byte ≠ Byte.less ∧ byte ≠ Byte.greater := by
  have clean : ((Text.bytes tag.name.toLower).all fun byte =>
      byte != Byte.less && byte != Byte.greater) = true := by
    rcases raw with script | style
    · rw [script]
      decide
    · rw [style]
      decide
  rw [← bytes_to_lower]
  intro byte member
  simpa using List.all_eq_true.mp clean byte member

theorem same_name_bytes {tag : WrittenTag} {closingName : String}
    (sameName : closingName.toLower = tag.name.toLower) :
    (Text.bytes closingName).map lowerByte = (Text.bytes tag.name).map lowerByte := by
  rw [← bytes_to_lower, ← bytes_to_lower, sameName]

theorem closing_name_inside {tag : WrittenTag} {closingName : String} (raw : tag.IsRaw)
    (sameName : closingName.toLower = tag.name.toLower) :
    ∀ byte ∈ Text.bytes closingName, (byte != Byte.less && byte != Byte.greater) = true := by
  intro byte member
  have lowered : lowerByte byte ∈ (Text.bytes tag.name).map lowerByte := by
    rw [← same_name_bytes sameName]
    exact List.mem_map_of_mem member
  have clean := raw_name_clean raw (lowerByte byte) lowered
  simp only [Bool.and_eq_true, bne_iff_ne]
  constructor
  · rintro rfl
    exact clean.1 rfl
  · rintro rfl
    exact clean.2 rfl

theorem starts_closing_written {tag : WrittenTag} {closingName : String}
    (sameName : closingName.toLower = tag.name.toLower) (rest : List UInt8) :
    startsClosing (Text.bytes tag.name)
      (Byte.less :: Byte.slash :: (Text.bytes closingName ++ rest)) = true := by
  have lowered := same_name_bytes sameName
  have size : (Text.bytes tag.name).length = (Text.bytes closingName).length := by
    have lengths := congrArg List.length lowered
    simpa only [List.length_map] using lengths.symm
  rw [startsClosing, size, Nat.add_comm 2, List.take_succ_cons, List.take_succ_cons, List.take_left,
    beq_iff_eq, List.map_cons, List.map_cons, lowered]
  rfl

/-! ### The scan of a document -/

theorem tags_of_next_none {cursor : Cursor} (ended : cursor.nextTag? = none) :
    cursor.tags = [] := by
  rw [Cursor.tags]
  split
  · rfl
  · rename_i found
    simp [ended] at found

theorem tags_of_next_some {cursor after : Cursor} {tag : Tag}
    (found : cursor.nextTag? = some (tag, after)) : cursor.tags = tag :: after.tags := by
  rw [Cursor.tags]
  split
  · rename_i ended
    simp [found] at ended
  · rename_i other later next
    rw [found] at next
    cases next
    rfl

theorem tags_of_next_eq {left right : Cursor} (same : left.nextTag? = right.nextTag?) :
    left.tags = right.tags := by
  cases next : right.nextTag? with
  | none => rw [tags_of_next_none (same.trans next), tags_of_next_none next]
  | some found => rw [tags_of_next_some (same.trans next), tags_of_next_some next]

theorem tags_skip_gap {front rest : List UInt8}
    (gap : gapLength (front ++ rest) = front.length + gapLength rest) (position : Nat) :
    Cursor.tags ⟨position, front ++ rest⟩ = Cursor.tags ⟨position + front.length, rest⟩ := by
  apply tags_of_next_eq
  simp only [Cursor.nextTag?, Cursor.advance, gap, List.drop_length_add_append, Nat.add_assoc]

theorem tags_at_tag {first : UInt8} (starts : isTagStart first = true) (input : List UInt8)
    (position : Nat) :
    Cursor.tags ⟨position, Byte.less :: first :: input⟩ =
      tagAt position (first :: input) ::
        Cursor.tags ⟨position + (1 + tagExtent (first :: input)),
          (first :: input).drop (tagExtent (first :: input))⟩ := by
  apply tags_of_next_some
  simp only [Cursor.nextTag?, Cursor.advance, gap_length_tag starts, Nat.add_zero, List.drop_zero,
    Nat.add_comm 1, List.drop_succ_cons]

theorem tags_written_tag (tag : WrittenTag) (close : String) (opens : Bool) (rest : List UInt8)
    (continues : TagTail (Text.bytes tag.blanks ++ (Text.bytes close ++ rest)))
    (closes : ∀ position, tagRemainder position
      (Text.bytes tag.blanks ++ (Text.bytes close ++ rest)) =
        ⟨[], (Text.bytes tag.blanks).length + (Text.bytes close).length, opens⟩)
    (body : Nat)
    (extent : body = if opens && isRawElement (Text.bytes tag.name) then
      rawBodyLength (Text.bytes tag.name) rest else 0) (position : Nat) :
    Cursor.tags ⟨position, Text.bytes (tag.render close) ++ rest⟩ =
      tag.reported close position ::
        Cursor.tags ⟨position + (tag.render close).utf8ByteSize + body, rest.drop body⟩ := by
  obtain ⟨first, later, name, starts, -⟩ := tag.nameBytes
  obtain ⟨input, split⟩ : ∃ input, tag.inner close ++ rest = first :: input := by
    rw [inner_append, name]
    exact ⟨_, rfl⟩
  have whole := tag_extent_written tag close opens rest continues closes
  rw [← extent] at whole
  have size : (tag.render close).utf8ByteSize = 1 + (tag.inner close).length := by
    rw [← Text.length_bytes, bytes_tag, List.length_cons, Nat.add_comm]
  rw [bytes_tag, List.cons_append, split, tags_at_tag starts, ← split,
    tag_at_written tag close opens rest continues closes, whole, List.drop_length_add_append, size]
  simp only [Nat.add_assoc]

theorem tags_open_tag (tag : WrittenTag) (rest : List UInt8) (position : Nat)
    (ordinary : ¬ tag.IsRaw) :
    Cursor.tags ⟨position, Text.bytes (tag.render ">") ++ rest⟩ =
      tag.reported ">" position ::
        Cursor.tags ⟨position + (tag.render ">").utf8ByteSize, rest⟩ := by
  have plain : isRawElement (Text.bytes tag.name) = false := by
    rw [← Bool.not_eq_true, is_raw_iff]
    exact ordinary
  exact tags_written_tag tag ">" true rest (.closed _ rest tag.blank)
    (fun position => tag_remainder_closed tag.blank position rest) 0 (by rw [plain]; rfl) position

theorem tags_self_closed_tag (tag : WrittenTag) (rest : List UInt8) (position : Nat) :
    Cursor.tags ⟨position, Text.bytes (tag.render "/>") ++ rest⟩ =
      tag.reported "/>" position ::
        Cursor.tags ⟨position + (tag.render "/>").utf8ByteSize, rest⟩ :=
  tags_written_tag tag "/>" false rest (.selfClosed _ rest tag.blank)
    (fun position => tag_remainder_self_closed tag.blank position rest) 0 rfl position

theorem tags_closing_tag {name : String}
    (inside : Consists (fun byte => byte != Byte.less && byte != Byte.greater) name)
    (rest : List UInt8) (position : Nat) :
    Cursor.tags ⟨position, Text.bytes ("</" ++ name ++ ">") ++ rest⟩ =
      Cursor.tags ⟨position + ("</" ++ name ++ ">").utf8ByteSize, rest⟩ := by
  have shape : Text.bytes ("</" ++ name ++ ">") =
      Byte.less :: Byte.slash :: (Text.bytes name ++ [Byte.greater]) := by
    simp only [Text.bytes_append, List.append_assoc]
    rfl
  rw [← Text.length_bytes]
  apply tags_skip_gap
  rw [shape]
  simp only [List.cons_append, List.append_assoc, List.nil_append, gap_length_closing inside,
    List.length_cons, List.length_append, List.length_nil]

theorem tags_raw_element {tag : WrittenTag} {body closingName : String} (raw : tag.IsRaw)
    (unclosed : ¬ Occurs ("</" ++ tag.name.toLower) body.toLower)
    (sameName : closingName.toLower = tag.name.toLower) (rest : List UInt8) (position : Nat) :
    Cursor.tags ⟨position, Text.bytes (tag.render ">" ++ body ++ ("</" ++ closingName ++ ">")) ++
      rest⟩ =
      tag.reported ">" position ::
        Cursor.tags ⟨position +
          (tag.render ">" ++ body ++ ("</" ++ closingName ++ ">")).utf8ByteSize, rest⟩ := by
  have absent : ¬ Byte.less :: Byte.slash :: (Text.bytes tag.name).map lowerByte <:+:
      (Text.bytes body).map lowerByte := by
    rw [← bytes_to_lower, ← bytes_to_lower]
    intro occurs
    apply unclosed
    rw [Occurs, Text.bytes_append]
    exact occurs
  have clean : Byte.less ∉ (Text.bytes tag.name).map lowerByte := by
    intro member
    exact (raw_name_clean raw Byte.less member).1 rfl
  have closes : startsClosing (Text.bytes tag.name)
      (Text.bytes ("</" ++ closingName ++ ">") ++ rest) = true := by
    rw [String.append_assoc, Text.bytes_append, Text.bytes_append, List.append_assoc,
      List.append_assoc]
    exact starts_closing_written sameName _
  have length := raw_body_length_closed clean absent closes
  rw [Text.bytes_append, Text.bytes_append, List.append_assoc, List.append_assoc]
  rw [tags_written_tag tag ">" true _ (.closed _ _ tag.blank)
    (fun position => tag_remainder_closed tag.blank position _) (Text.bytes body).length
    (by rw [(is_raw_iff tag).mpr raw, length]; rfl) position]
  rw [List.drop_left, tags_closing_tag (closing_name_inside raw sameName)]
  simp only [String.utf8ByteSize_append, Text.length_bytes, Nat.add_assoc]

theorem tags_piece (piece : WrittenPiece) (rest : List UInt8) (position : Nat) :
    Cursor.tags ⟨position, Text.bytes piece.render ++ rest⟩ =
      piece.reported position ++ Cursor.tags ⟨position + piece.render.utf8ByteSize, rest⟩ := by
  cases piece with
  | text content plain =>
      rw [← Text.length_bytes]
      exact tags_skip_gap (gap_length_text plain rest) position
  | comment content unclosed =>
      have shape : Text.bytes (WrittenPiece.render (.comment content unclosed)) =
          Byte.less :: Byte.exclamation :: Byte.hyphen :: Byte.hyphen ::
            (Text.bytes content ++ commentEnd) := by
        simp only [WrittenPiece.render, Text.bytes_append, List.append_assoc]
        rfl
      rw [← Text.length_bytes]
      apply tags_skip_gap
      rw [shape]
      simp only [List.cons_append, List.append_assoc, gap_length_comment unclosed,
        List.length_cons, List.length_append, show commentEnd.length = 3 from rfl]
  | closingTag name inside => exact tags_closing_tag inside rest position
  | placeholder group =>
      have shape : Text.bytes (WrittenPiece.render (.placeholder group)) =
          Byte.dollar :: Byte.openBrace :: (Text.bytes group.text ++ [0x7D]) := by
        simp only [WrittenPiece.render, Text.bytes_append, List.append_assoc]
        rfl
      rw [← Text.length_bytes]
      apply tags_skip_gap
      rw [shape]
      simp only [List.cons_append, List.append_assoc, List.nil_append,
        gap_length_placeholder group.balanced, List.length_cons, List.length_append,
        List.length_nil]
  | openTag tag ordinary => exact tags_open_tag tag rest position ordinary
  | selfClosedTag tag => exact tags_self_closed_tag tag rest position
  | rawElement tag body closingName raw unclosed sameName =>
      exact tags_raw_element raw unclosed sameName rest position

theorem tags_document (pieces : List WrittenPiece) (position : Nat) :
    Cursor.tags ⟨position, Text.bytes (renderDocument pieces)⟩ = reportedTags position pieces := by
  induction pieces generalizing position with
  | nil =>
      apply tags_of_next_none
      simp only [Cursor.nextTag?, Cursor.advance, show Text.bytes (renderDocument []) = [] from rfl,
        List.drop_nil]
  | cons piece pieces induction =>
      rw [renderDocument, Text.bytes_append, tags_piece, induction, reportedTags]

/-- The scan of a written document reports its open tags as they were written,
in order and with all their spans, and then the end. -/
theorem events_of_written_document (pieces : List WrittenPiece) :
    events (renderDocument pieces) =
      (reportedTags 0 pieces).map Event.openTag ++ [Event.finished] := by
  rw [events_eq_tags, tags, tags_document]

def sampleTag : WrittenTag where
  name := "a"
  attributes :=
    [{ blanks := " "
       name := "on"
       argument := some ⟨"é", .plain rfl rfl rfl (.plain rfl rfl rfl .empty)⟩
       value := some (.unquoted "e => f" ⟨_, _, rfl, rfl, rfl⟩
        (.plain rfl (@ExpressionBody.arrow [0x20] [0x20] [] 0x66 (by simp [isBlank])
          (by simp [isBlank]) rfl (.plain rfl .empty))))
       separated := by decide
       blank := by decide
       named := by decide
       nameBytes := by decide }]
  blanks := ""
  nameBytes := ⟨0x61, [], by decide, by decide, by simp⟩
  blank := by decide

theorem events_of_written_sample :
    events "<a on(é)=e => f>" =
      [.openTag ⟨"a", ⟨0, 17⟩, 2, [⟨"on", ⟨5, 16⟩, some ⟨⟨5, 9⟩, "é"⟩⟩]⟩, .finished] := by
  have written := events_of_written_document [.openTag sampleTag (by decide +kernel)]
  exact written

end TemplateServer.Markup
