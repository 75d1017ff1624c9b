import TemplateServer.Proofs.Text.Pattern
import TemplateServer.Text.Search

/-!
What the searches find. A definition of a handler is its name behind the start of
the text or behind a character that belongs to no name, and before white space
and a mark. A declaration of an attribute is its name in quotes. The patterns
find the leftmost one of these, although the pattern of a handler also reads the
character in front of the name and prefers the start of the text to it.
-/

namespace TemplateServer.Text

/-- A handler is defined from `start` up to right behind its mark at `stop`. -/
structure DefinedAt (contents handler : String) (start stop : Nat) : Prop where
  bounded : start = 0 ∨ ∃ first char, Spells contents first start (String.singleton char) ∧
    isIdentifierChar char = false
  named : ∃ space mark, Spells contents start stop (handler ++ space ++ String.singleton mark) ∧
    (∀ char ∈ space.toList, isWhiteSpace char = true) ∧ (mark = '(' ∨ mark = ':')

def DeclaredAt (contents name : String) (start stop : Nat) : Prop :=
  Spells contents start stop ("\"" ++ name ++ "\"") ∨
    Spells contents start stop ("\"@" ++ name ++ "\"")

def SpellsSome (text : String) (start stop : Nat) : Prop :=
  ∃ piece, Spells text start stop piece ∧ piece ≠ ""

theorem spells_some_bounds {text : String} {start stop : Nat}
    (spelled : SpellsSome text start stop) :
    Boundary text start ∧ Boundary text stop ∧ 0 < stop := by
  obtain ⟨piece, spells, given⟩ := spelled
  have sized := spells_size spells
  have positive : 0 < piece.utf8ByteSize := by
    apply Nat.pos_of_ne_zero
    rw [Ne, String.utf8ByteSize_eq_zero_iff]
    exact given
  obtain ⟨before, after, rfl, rfl, ending⟩ := spells
  exact ⟨⟨before, piece ++ after, String.append_assoc, rfl⟩, ⟨before ++ piece, after, rfl, ending⟩,
    by omega⟩

theorem declared_spelled {contents name : String} {start stop : Nat}
    (declared : DeclaredAt contents name start stop) : SpellsSome contents start stop := by
  rcases declared with plain | signed
  · exact ⟨_, plain, by simp⟩
  · exact ⟨_, signed, by simp⟩

theorem defined_spelled {contents handler : String} {start stop : Nat}
    (defined : DefinedAt contents handler start stop) : SpellsSome contents start stop := by
  obtain ⟨space, mark, spelled, -, -⟩ := defined.named
  exact ⟨_, spelled, by simp⟩

theorem spells_iff_chars {text piece : String} {start stop : Nat} :
    Spells text start stop piece ↔ ∃ before after,
      text.toList = before ++ (piece.toList ++ after) ∧ size before = start ∧
        start + size piece.toList = stop := by
  constructor
  · rintro ⟨before, after, rfl, rfl, rfl⟩
    refine ⟨before.toList, after.toList, ?_, size_eq_byte_size _, ?_⟩
    · rw [String.toList_append, String.toList_append, List.append_assoc]
    · rw [String.utf8ByteSize_append, size_eq_byte_size]
  · rintro ⟨before, after, whole, rfl, rfl⟩
    refine ⟨String.ofList before, String.ofList after, ?_, ?_, ?_⟩
    · apply String.toList_inj.mp
      rw [whole, String.toList_append, String.toList_append, String.toList_ofList,
        String.toList_ofList, List.append_assoc]
    · rw [← size_eq_byte_size, String.toList_ofList]
    · rw [String.utf8ByteSize_append, ← size_eq_byte_size, ← size_eq_byte_size piece,
        String.toList_ofList]

theorem attribute_takes_iff {name : String} {offset : Nat} {taken : List Char} :
    (attributePattern name).Takes offset taken ↔
      taken = ("\"" ++ name ++ "\"").toList ∨ taken = ("\"@" ++ name ++ "\"").toList := by
  constructor
  · rintro ⟨_, _, rfl, rfl, _, _, rfl, sign, _, _, rfl, rfl, rfl⟩
    rcases sign with rfl | rfl
    · exact Or.inr (by simp)
    · exact Or.inl (by simp)
  · rintro (rfl | rfl)
    · exact ⟨_, name.toList ++ ['"'], by simp, rfl, [], _, rfl, Or.inr rfl, _, _, rfl, rfl, rfl⟩
    · exact ⟨_, '@' :: (name.toList ++ ['"']), by simp, rfl, ['@'], _, rfl, Or.inl rfl, _, _, rfl,
        rfl, rfl⟩

theorem declared_iff_occurs {contents name : String} {start stop : Nat} :
    DeclaredAt contents name start stop ↔
      (attributePattern name).OccursAt contents start stop := by
  simp only [DeclaredAt, spells_iff_chars, Pattern.OccursAt, attribute_takes_iff]
  constructor
  · rintro (⟨before, after, whole, first, last⟩ | ⟨before, after, whole, first, last⟩)
    · exact ⟨before, _, after, whole, first, last, Or.inl rfl⟩
    · exact ⟨before, _, after, whole, first, last, Or.inr rfl⟩
  · rintro ⟨before, taken, after, whole, first, last, rfl | rfl⟩
    · exact Or.inl ⟨before, after, whole, first, last⟩
    · exact Or.inr ⟨before, after, whole, first, last⟩

theorem find_attribute_finds (contents name : String) :
    Finds (DeclaredAt contents name) ((attributePattern name).find? 0 contents) := by
  have same : DeclaredAt contents name = (attributePattern name).OccursAt contents := by
    funext start stop
    exact propext declared_iff_occurs
  rw [same]
  exact (attributePattern name).leftmost_finds contents

section Handlers

variable {contents handler : String} {offset start stop : Nat}

theorem definition_takes_iff {taken : List Char} :
    (definitionPattern handler).Takes offset taken ↔
      ∃ space mark, (∀ char ∈ space, isWhiteSpace char = true) ∧ (mark = '(' ∨ mark = ':') ∧
        taken = handler.toList ++ space ++ [mark] := by
  simp only [definitionPattern, Pattern.Takes, isDefiningMark, Bool.or_eq_true, beq_iff_eq]
  constructor
  · rintro ⟨_, _, rfl, rfl, space, _, rfl, blank, mark, marked, rfl⟩
    exact ⟨space, mark, blank, marked, (List.append_assoc _ _ _).symm⟩
  · rintro ⟨space, mark, blank, marked, rfl⟩
    exact ⟨_, _, List.append_assoc _ _ _, rfl, space, _, rfl, blank, mark, marked, rfl⟩

def Bounded (before : List Char) : Prop :=
  before = [] ∨ ∃ front char, before = front ++ [char] ∧ isIdentifierChar char = false

theorem nil_of_size_zero {chars : List Char} (empty : size chars = 0) : chars = [] := by
  cases chars with
  | nil => rfl
  | cons char rest =>
      have positive := char.utf8Size_pos
      rw [size] at empty
      omega

/-- Leading characters of a text are known by their size. -/
theorem same_front {front back before after : List Char} (whole : front ++ back = before ++ after)
    (sized : size front = size before) : front = before := by
  rcases List.append_eq_append_iff.mp whole with ⟨more, rfl, -⟩ | ⟨more, rfl, -⟩
  · rw [size_append] at sized
    rw [nil_of_size_zero (by omega : size more = 0), List.append_nil]
  · rw [size_append] at sized
    rw [nil_of_size_zero (by omega : size more = 0), List.append_nil]

theorem defined_iff_occurs : DefinedAt contents handler start stop ↔
    ∃ before taken after, contents.toList = before ++ (taken ++ after) ∧ Bounded before ∧
      size before = start ∧ start + size taken = stop ∧
      (definitionPattern handler).Takes start taken := by
  constructor
  · rintro ⟨bounded, space, mark, spelled, blank, marked⟩
    obtain ⟨before, after, whole, rfl, last⟩ := spells_iff_chars.mp spelled
    refine ⟨before, _, after, whole, ?_, rfl, last, ?_⟩
    · rcases bounded with start | ⟨first, char, spelledBefore, apart⟩
      · exact Or.inl (same_front (whole.symm.trans (List.nil_append _).symm) start)
      · obtain ⟨front, back, split, rfl, behind⟩ := spells_iff_chars.mp spelledBefore
        rw [String.toList_singleton] at split behind
        refine Or.inr ⟨front, char, ?_, apart⟩
        rw [split, ← List.append_assoc] at whole
        refine (same_front whole ?_).symm
        rw [size_append]
        exact behind
    · refine definition_takes_iff.mpr ⟨space.toList, mark, blank, marked, ?_⟩
      rw [String.toList_append, String.toList_append, String.toList_singleton]
  · rintro ⟨before, taken, after, whole, bounded, rfl, last, takes⟩
    obtain ⟨space, mark, blank, marked, rfl⟩ := definition_takes_iff.mp takes
    refine ⟨?_, String.ofList space, mark, ?_, ?_, marked⟩
    · rcases bounded with rfl | ⟨front, char, rfl, apart⟩
      · exact Or.inl rfl
      · rw [List.append_assoc] at whole
        refine Or.inr ⟨size front, char, spells_iff_chars.mpr ?_, apart⟩
        rw [String.toList_singleton, size_append]
        exact ⟨front, _, whole, rfl, rfl⟩
    · refine spells_iff_chars.mpr ⟨before, after, ?_, rfl, ?_⟩
      · rw [whole, String.toList_append, String.toList_append, String.toList_singleton,
          String.toList_ofList]
      · rw [String.toList_append, String.toList_append, String.toList_singleton,
          String.toList_ofList]
        exact last
    · rw [String.toList_ofList]
      exact blank

/-- The pattern of a handler takes a definition that is bounded by what is in
front of it, from that character on. -/
theorem handler_takes {before taken : List Char} (bounded : Bounded before)
    (takes : (definitionPattern handler).Takes (size before) taken) :
    (before = [] ∧ (handlerPattern handler).Takes 0 taken) ∨
      ∃ front char, before = front ++ [char] ∧
        (handlerPattern handler).Takes (size front) (char :: taken) := by
  rcases bounded with rfl | ⟨front, char, rfl, apart⟩
  · exact Or.inl ⟨rfl, [], taken, rfl, Or.inl ⟨rfl, rfl⟩, takes⟩
  · rw [size_append] at takes
    have read : (!isIdentifierChar char) = true := by rw [apart]; rfl
    exact Or.inr ⟨front, char, rfl, [char], taken, rfl, Or.inr ⟨char, read, rfl⟩, takes⟩

/-- The group of a reading is a definition behind the start of the text, or
behind one character that belongs to no name. -/
theorem handler_reading {rest : List Char} {reading : Reading}
    (member : reading ∈ (handlerPattern handler).readings ⟨offset, rest⟩) :
    ∃ front taken later, rest = front ++ (taken ++ later) ∧
      (offset = 0 ∧ front = [] ∨ ∃ char, front = [char] ∧ isIdentifierChar char = false) ∧
      (definitionPattern handler).Takes (offset + size front) taken ∧
      reading.group = some (offset + size front, offset + size front + size taken) := by
  simp only [handlerPattern, Pattern.readings, List.mem_flatMap, List.mem_map] at member
  obtain ⟨lead, leadRead, _, ⟨inner, innerRead, rfl⟩, rfl⟩ := member
  obtain ⟨front, _, leads, rfl, leadStop⟩ := (Pattern.readings_stop_iff
    (.either .textStart (.oneOf fun char => !isIdentifierChar char)) ⟨offset, rest⟩ lead.stop).mp
      ⟨lead, leadRead, rfl⟩
  obtain ⟨taken, later, takes, whole, innerStop⟩ :=
    ((definitionPattern handler).readings_stop_iff lead.stop inner.stop).mp ⟨inner, innerRead, rfl⟩
  rw [leadStop] at takes whole innerStop
  subst whole
  refine ⟨front, taken, later, rfl, ?_, takes, ?_⟩
  · rcases leads with start | ⟨char, read, rfl⟩
    · exact Or.inl start
    · exact Or.inr ⟨char, rfl, (Bool.not_eq_true' _).mp read⟩
  · rw [leadStop, innerStop, Option.some_or]

/-- The start of the text is preferred to a first character in front of a name. -/
theorem handler_preferred {rest : List Char} {reading : Reading} {taken later : List Char}
    (whole : rest = taken ++ later) (takes : (definitionPattern handler).Takes 0 taken)
    (head : ((handlerPattern handler).readings ⟨0, rest⟩).head? = some reading) :
    ∃ stop, reading.group = some (0, stop) := by
  obtain ⟨first, member, -⟩ := ((definitionPattern handler).readings_stop_iff ⟨0, rest⟩ _).mpr
    ⟨taken, later, takes, whole, rfl⟩
  obtain ⟨inner, others, read⟩ := List.exists_cons_of_ne_nil (List.ne_nil_of_mem member)
  have preferred : ∃ more, (handlerPattern handler).readings ⟨0, rest⟩ =
      ⟨inner.stop, some (0, inner.stop.offset)⟩ :: more := by
    simp only [handlerPattern, Pattern.readings, if_true, List.flatMap_cons, read, List.map_cons,
      List.cons_append, Option.some_or]
    exact ⟨_, rfl⟩
  obtain ⟨more, first⟩ := preferred
  rw [first, List.head?_cons, Option.some.injEq] at head
  rw [← head]
  exact ⟨_, rfl⟩

/-- A character that begins no earlier than another one ends no earlier. -/
theorem end_le_end {skipped lead back later : List Char} {first char : Char}
    (whole : skipped ++ first :: back = lead ++ char :: later) (within : size skipped ≤ size lead) :
    size skipped + first.utf8Size ≤ size lead + char.utf8Size := by
  rcases List.append_eq_append_iff.mp whole with ⟨gap, rfl, rest⟩ | ⟨gap, rfl, rest⟩
  · cases gap with
    | nil =>
        obtain ⟨rfl, -⟩ := List.cons.inj rest
        exact Nat.le_of_eq (by rw [List.append_nil])
    | cons second gap =>
        obtain ⟨rfl, -⟩ := List.cons.inj rest
        rw [size_append, size]
        omega
  · cases gap with
    | nil =>
        obtain ⟨rfl, -⟩ := List.cons.inj rest
        exact Nat.le_of_eq (by rw [List.append_nil])
    | cons second gap =>
        have positive := second.utf8Size_pos
        rw [size_append, size] at within
        omega

/-- No definition begins in front of the one that the leftmost match has in its
group. -/
theorem handler_least {skipped rest front back : List Char} {reading : Reading} {other last : Nat}
    (whole : contents.toList = skipped ++ rest) (split : rest = front ++ back)
    (head : ((handlerPattern handler).readings ⟨size skipped, rest⟩).head? = some reading)
    (grouped : reading.group = some (size skipped + size front, stop))
    (single : front = [] ∨ ∃ char, front = [char])
    (earlier : ∀ lead later, contents.toList = lead ++ later → size lead < size skipped →
      (handlerPattern handler).readings ⟨size lead, later⟩ = [])
    (defined : DefinedAt contents handler other last) : size skipped + size front ≤ other := by
  obtain ⟨before, piece, after, occurrence, bounded, rfl, -, takes⟩ := defined_iff_occurs.mp defined
  rcases handler_takes bounded takes with ⟨rfl, read⟩ | ⟨lead, char, rfl, read⟩
  · rcases Nat.eq_zero_or_pos (size skipped) with start | positive
    · -- both begin at the start of the text, which is the preferred alternative there
      have empty := same_front (whole.symm.trans (List.nil_append _).symm) start
      rw [empty, List.nil_append] at whole
      rw [start] at head
      rw [List.nil_append, whole] at occurrence
      obtain ⟨close, preferred⟩ := handler_preferred occurrence takes head
      rw [grouped, Option.some.injEq, Prod.mk.injEq] at preferred
      exact Nat.le_of_eq preferred.1
    · exact absurd read (Pattern.unread_iff.mp (earlier [] _ rfl positive) piece after occurrence)
  · rw [List.append_assoc] at occurrence
    rw [size_append]
    rcases Nat.lt_or_ge (size lead) (size skipped) with less | within
    · exact absurd read (Pattern.unread_iff.mp (earlier lead _ occurrence less) _ after rfl)
    · rcases single with rfl | ⟨first, rfl⟩
      · exact Nat.le_add_right_of_le within
      · rw [whole, split] at occurrence
        exact end_le_end occurrence within

theorem find_handler_finds (contents handler : String) :
    Finds (DefinedAt contents handler) ((handlerPattern handler).find? 1 contents) := by
  rw [Pattern.find?]
  cases matched : (handlerPattern handler).leftmost? contents with
  | none =>
      have finds := (handlerPattern handler).leftmost_finds contents
      rw [Pattern.find?, matched] at finds
      cases finds with
      | nothing absent =>
          refine .nothing ?_
          intro start stop defined
          obtain ⟨before, taken, after, whole, bounded, rfl, -, takes⟩ :=
            defined_iff_occurs.mp defined
          rcases handler_takes bounded takes with ⟨rfl, read⟩ | ⟨front, char, rfl, read⟩
          · exact absent _ _ ⟨[], taken, after, whole, rfl, rfl, read⟩
          · rw [List.append_assoc] at whole
            exact absent _ _ ⟨front, char :: taken, after, whole, rfl, rfl, read⟩
  | some found =>
      obtain ⟨skipped, rest, reading, whole, head, rfl, earlier⟩ := Pattern.match_from_some matched
      simp only [Nat.zero_add] at head earlier ⊢
      obtain ⟨front, taken, later, split, bounded, takes, grouped⟩ :=
        handler_reading (List.mem_of_mem_head? head)
      have single : front = [] ∨ ∃ char, front = [char] :=
        bounded.imp And.right fun single => single.imp fun _ => And.left
      rw [Option.bind_some, Match.get?, grouped]
      refine .found ⟨defined_iff_occurs.mpr ⟨skipped ++ front, taken, later, ?_, ?_,
        size_append _ _, rfl, takes⟩,
        fun other last => handler_least whole split head grouped single earlier⟩
      · rw [whole, split, List.append_assoc]
      · rcases bounded with ⟨start, rfl⟩ | ⟨char, rfl, apart⟩
        · rw [List.append_nil]
          exact Or.inl (same_front (whole.symm.trans (List.nil_append _).symm) start)
        · exact Or.inr ⟨skipped, char, rfl, apart⟩

end Handlers

end TemplateServer.Text
