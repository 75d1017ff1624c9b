import Mathlib.Data.List.TakeWhile
import TemplateServer.Proofs.Text.Boundary

/-!
The lines of a text, seen from the offsets at which they start. These offsets
increase, one stands for each line, and a binary search through them ends at the
last line that does not start behind an offset. The bounds of a line are read
from two neighbours among them and hold the characters between two line feeds.
-/

namespace TemplateServer.Text

/-- The characters behind the last line feed. -/
def lastLine (chars : List Char) : List Char :=
  (chars.reverse.takeWhile (· != '\n')).reverse

/-- A line without its line feed, and the characters around it. -/
structure LineOf (chars : List Char) (number : Nat) (before line after : List Char) : Prop where
  whole : chars = before ++ line ++ after
  feeds : before.count '\n' = number
  opened : before = [] ∨ ∃ front, before = front ++ ['\n']
  unbroken : '\n' ∉ line
  closed : after = [] ∨ ∃ rest, after = '\n' :: rest

theorem not_line_feed {chars : List Char} (absent : '\n' ∉ chars) :
    ∀ char ∈ chars, (char != '\n') = true := by
  intro char member
  rw [bne_iff_ne]
  rintro rfl
  exact absent member

theorem last_line_of_absent {chars : List Char} (absent : '\n' ∉ chars) :
    lastLine chars = chars := by
  have reversed : ∀ char ∈ chars.reverse, (char != '\n') = true := by
    intro char member
    exact not_line_feed absent char (List.mem_reverse.mp member)
  rw [lastLine, ← List.append_nil chars.reverse, List.takeWhile_append_of_pos reversed,
    List.takeWhile_nil, List.append_nil, List.reverse_reverse]

theorem last_line_behind (front back : List Char) :
    lastLine (front ++ '\n' :: back) = lastLine back := by
  simp only [lastLine, List.reverse_append, List.reverse_cons, List.append_assoc,
    List.singleton_append]
  congr 1
  rw [List.takeWhile_append]
  split
  · rw [List.takeWhile_cons, if_neg (by simp), List.append_nil]
    rename_i whole
    exact (List.takeWhile_prefix _).eq_of_length whole |>.symm
  · rfl

theorem first_line_unbroken (chars : List Char) : '\n' ∉ chars.takeWhile (· != '\n') := by
  intro member
  exact absurd (List.mem_takeWhile_imp member) (by simp)

/-- Behind its first line a text ends, or goes on with a line feed. -/
theorem first_line_closed (chars : List Char) :
    chars.dropWhile (· != '\n') = [] ∨ ∃ rest, chars.dropWhile (· != '\n') = '\n' :: rest := by
  cases rest : chars.dropWhile (· != '\n') with
  | nil => exact Or.inl rfl
  | cons char later =>
      have feed := List.head?_dropWhile_not (· != '\n') chars
      rw [rest] at feed
      simp only [List.head?_cons, bne_eq_false_iff_eq] at feed
      exact Or.inr ⟨later, by rw [feed]⟩

theorem size_append (left right : List Char) : size (left ++ right) = size left + size right := by
  induction left with
  | nil => simp [size]
  | cons char rest induction =>
      simp only [List.cons_append, size, induction]
      omega

/-- The line that the end of some leading characters stands in. -/
theorem line_around (before after : List Char) :
    ∃ lead, size lead + size (lastLine before) = size before ∧
      LineOf (before ++ after) (before.count '\n') lead
        (lastLine before ++ after.takeWhile (· != '\n')) (after.dropWhile (· != '\n')) := by
  have divided : before =
      (before.reverse.dropWhile (· != '\n')).reverse ++ lastLine before := by
    rw [lastLine, ← List.reverse_append, List.takeWhile_append_dropWhile, List.reverse_reverse]
  have unbroken : '\n' ∉ lastLine before := by
    rw [lastLine, List.mem_reverse]
    exact first_line_unbroken _
  refine ⟨(before.reverse.dropWhile (· != '\n')).reverse, ?_, ?_, ?_, ?_, ?_,
    first_line_closed after⟩
  · rw [← size_append, ← divided]
  · rw [← List.append_assoc, ← divided, List.append_assoc, List.takeWhile_append_dropWhile]
  · have feeds := congrArg (List.count '\n') divided
    rw [List.count_append, List.count_eq_zero.mpr unbroken, Nat.add_zero] at feeds
    exact feeds.symm
  · rcases first_line_closed before.reverse with none | ⟨rest, feed⟩
    · exact Or.inl (by rw [none, List.reverse_nil])
    · exact Or.inr ⟨rest.reverse, by rw [feed, List.reverse_cons]⟩
  · rw [List.mem_append, not_or]
    exact ⟨unbroken, first_line_unbroken after⟩

theorem front_with_feeds {chars : List Char} {number : Nat} (there : number ≤ chars.count '\n') :
    ∃ before after, chars = before ++ after ∧ before.count '\n' = number := by
  induction chars generalizing number with
  | nil => exact ⟨[], [], rfl, (Nat.le_zero.mp there).symm⟩
  | cons char chars induction =>
      by_cases start : number = 0
      · exact ⟨[], char :: chars, rfl, start.symm⟩
      · rw [List.count_cons] at there
        have fewer : number - (if char == '\n' then 1 else 0) ≤ chars.count '\n' := by omega
        obtain ⟨before, after, rfl, feeds⟩ := induction fewer
        refine ⟨char :: before, after, rfl, ?_⟩
        rw [List.count_cons, feeds]
        split
        · omega
        · rfl

theorem line_there {chars : List Char} {number : Nat} (there : number ≤ chars.count '\n') :
    ∃ before line after, LineOf chars number before line after := by
  obtain ⟨before, after, rfl, rfl⟩ := front_with_feeds there
  obtain ⟨lead, -, placed⟩ := line_around before after
  exact ⟨_, _, _, placed⟩

theorem length_encoded (chars : List Char) :
    (chars.flatMap String.utf8EncodeChar).length = size chars := by
  induction chars with
  | nil => rfl
  | cons char rest induction =>
      rw [size, List.flatMap_cons, List.length_append, String.length_utf8EncodeChar, induction]

theorem size_eq_byte_size (text : String) : size text.toList = text.utf8ByteSize := by
  rw [← length_bytes, bytes_eq_encoded, length_encoded]

theorem take_bytes_append (front back : List Char) :
    takeBytes (size front) (front ++ back) = front := by
  induction front with
  | nil =>
      cases back with
      | nil => rfl
      | cons char rest => rw [List.nil_append, size, takeBytes, if_pos char.utf8Size_pos]
  | cons char rest induction =>
      rw [size, List.cons_append, takeBytes, if_neg (by omega), Nat.add_sub_cancel_left, induction]

theorem drop_bytes_append (front back : List Char) :
    dropBytes (size front) (front ++ back) = back := by
  induction front with
  | nil =>
      cases back with
      | nil => rfl
      | cons char rest => rw [List.nil_append, size, dropBytes, if_pos char.utf8Size_pos]
  | cons char rest induction =>
      rw [size, List.cons_append, dropBytes, if_neg (by omega), Nat.add_sub_cancel_left, induction]

theorem line_feed_code {char : Char} (narrow : char.toNat < 0x80) :
    UInt8.ofNat char.toNat = 0x0A ↔ char = '\n' := by
  constructor
  · intro same
    have code := congrArg UInt8.toNat same
    rw [UInt8.toNat_ofNat', Nat.mod_eq_of_lt (Nat.lt_trans narrow (by decide))] at code
    rw [← Char.ofNat_toNat char, code]
    rfl
  · rintro rfl
    rfl

theorem count_feeds_encoded (char : Char) :
    (String.utf8EncodeChar char).count 0x0A = if char = '\n' then 1 else 0 := by
  by_cases narrow : char.toNat < 0x80
  · rw [encode_char_ascii char narrow, List.count_singleton]
    simp only [beq_iff_eq, line_feed_code narrow]
  · have wide := encode_char_wide char (Nat.le_of_not_lt narrow)
    have other : char ≠ '\n' := by
      rintro rfl
      exact narrow (by decide)
    rw [if_neg other, List.count_eq_zero]
    intro member
    exact absurd (wide _ member) (by decide)

theorem count_feeds_chars (chars : List Char) :
    (chars.flatMap String.utf8EncodeChar).count 0x0A = chars.count '\n' := by
  induction chars with
  | nil => rfl
  | cons char rest induction =>
      rw [List.flatMap_cons, List.count_append, induction, count_feeds_encoded, List.count_cons,
        Nat.add_comm]
      simp only [beq_iff_eq]

section Starts

theorem feed_ends_append (first : Nat) (left right : List UInt8) :
    feedEnds first (left ++ right) =
      feedEnds first left ++ feedEnds (first + left.length) right := by
  simp only [feedEnds, List.zipIdx_append, List.filter_append, List.map_append]

theorem length_feed_ends (first : Nat) (input : List UInt8) :
    (feedEnds first input).length = input.count 0x0A := by
  have feeds : input.count 0x0A = (input.zipIdx first).countP ((· == 0x0A) ∘ Prod.fst) := by
    rw [← List.countP_map, List.zipIdx_map_fst, List.count]
  rw [feeds, feedEnds, List.length_map, ← List.countP_eq_length_filter]
  rfl

theorem feed_ends_increasing (first : Nat) (input : List UInt8) :
    (feedEnds first input).Pairwise (· < ·) := by
  have indices : (input.zipIdx first).Pairwise fun left right => left.2 < right.2 := by
    rw [← List.pairwise_map, List.zipIdx_map_snd]
    exact List.pairwise_lt_range'
  rw [feedEnds, List.pairwise_map]
  exact (indices.filter _).imp fun less => Nat.succ_lt_succ less

theorem line_starts_increasing (text : String) : (lineStarts text).Pairwise (· < ·) := by
  rw [lineStarts, List.pairwise_cons]
  refine ⟨?_, feed_ends_increasing 0 (bytes text)⟩
  intro start member
  obtain ⟨_, -, rfl⟩ := List.mem_map.mp member
  exact Nat.succ_pos _

theorem line_starts_length (text : String) :
    (lineStarts text).length = text.toList.count '\n' + 1 := by
  rw [lineStarts, List.length_cons, length_feed_ends, bytes_eq_encoded,
    count_feeds_chars]

variable {text : String} {before line after : List Char} {number : Nat}

theorem start_of_line (placed : LineOf text.toList number before line after) :
    (lineStarts text)[number]? = some (size before) := by
  rw [lineStarts]
  have feeds := placed.feeds
  rcases placed.opened with rfl | ⟨front, rfl⟩
  · rw [← feeds]
    rfl
  · -- as many line feeds as the number says lie in front, the last of them right before the line
    have feed : '\n'.utf8Size = 1 := rfl
    have input : bytes text = front.flatMap String.utf8EncodeChar ++
        (0x0A :: (line ++ after).flatMap String.utf8EncodeChar) := by
      rw [bytes_eq_encoded, placed.whole]
      simp only [List.append_assoc, List.flatMap_append, List.flatMap_cons,
        List.singleton_append]
      rfl
    rw [List.count_append, List.count_singleton_self] at feeds
    rw [← feeds, List.getElem?_cons_succ, input, feed_ends_append,
      List.getElem?_append_right (by rw [length_feed_ends, count_feeds_chars]), length_feed_ends,
      count_feeds_chars, Nat.sub_self, length_encoded, size_append]
    simp [feedEnds, size, feed]

/-- A line feed behind a line ends it, and the next line starts behind the line feed. -/
theorem line_below {rest : List Char}
    (placed : LineOf text.toList number before line ('\n' :: rest)) :
    LineOf text.toList (number + 1) (before ++ line ++ ['\n'])
      (rest.takeWhile (· != '\n')) (rest.dropWhile (· != '\n')) := by
  refine ⟨?_, ?_, Or.inr ⟨_, rfl⟩, first_line_unbroken rest, first_line_closed rest⟩
  · rw [placed.whole, List.append_assoc _ (rest.takeWhile _), List.takeWhile_append_dropWhile]
    simp only [List.append_assoc, List.singleton_append]
  · rw [List.count_append, List.count_append, List.count_eq_zero.mpr placed.unbroken,
      List.count_singleton_self, placed.feeds, Nat.add_zero]

theorem start_below (placed : LineOf text.toList number before line after) :
    (lineStarts text)[number + 1]? =
      if after = [] then none else some (size before + size line + 1) := by
  rcases placed.closed with rfl | ⟨rest, rfl⟩
  · have feeds : text.toList.count '\n' = number := by
      rw [placed.whole, List.append_nil, List.count_append, placed.feeds,
        List.count_eq_zero.mpr placed.unbroken, Nat.add_zero]
    rw [if_pos rfl, List.getElem?_eq_none_iff, line_starts_length, feeds]
  · rw [if_neg (List.cons_ne_nil _ _), start_of_line (line_below placed), size_append, size_append]
    rfl

theorem line_bounds_of_line (placed : LineOf text.toList number before line after) :
    lineBounds? text number = some (size before, size before + size line) := by
  rw [lineBounds?, start_of_line placed, start_below placed, Option.map_some]
  rcases placed.closed with rfl | ⟨rest, rfl⟩
  · rw [if_pos rfl, placed.whole, List.append_nil, size_append]
  · rw [if_neg (List.cons_ne_nil _ _)]
    rfl

theorem slice_of_line (placed : LineOf text.toList number before line after) :
    slice (size before) (size before + size line) text.toList = line := by
  rw [slice, Nat.add_sub_cancel_left, placed.whole, List.append_assoc, drop_bytes_append,
    take_bytes_append]

theorem line_unique {before' line' after' : List Char}
    (first : LineOf text.toList number before line after)
    (second : LineOf text.toList number before' line' after') :
    size before = size before' ∧ line = line' := by
  have bounds := line_bounds_of_line first
  have cut := slice_of_line first
  rw [line_bounds_of_line second, Option.some.injEq, Prod.mk.injEq] at bounds
  rw [← bounds.2, ← bounds.1, slice_of_line second] at cut
  exact ⟨bounds.1.symm, cut.symm⟩

theorem line_bounds_none_iff (text : String) (line : Nat) :
    lineBounds? text line = none ↔ text.toList.count '\n' < line := by
  rw [lineBounds?, Option.map_eq_none_iff, List.getElem?_eq_none_iff, line_starts_length]
  exact Nat.succ_le_iff

theorem line_of_bounds {start stop : Nat} (found : lineBounds? text number = some (start, stop)) :
    ∃ before line after, LineOf text.toList number before line after ∧
      start = size before ∧ stop = size before + size line ∧
      slice start stop text.toList = line := by
  have there : number ≤ text.toList.count '\n' := by
    apply Nat.le_of_not_lt
    rw [← line_bounds_none_iff, found]
    exact Option.some_ne_none _
  obtain ⟨before, line, after, placed⟩ := line_there there
  rw [line_bounds_of_line placed, Option.some.injEq, Prod.mk.injEq] at found
  obtain ⟨rfl, rfl⟩ := found
  exact ⟨before, line, after, placed, rfl, rfl, slice_of_line placed⟩

/-- The bounds of a line are character boundaries, so the line can be cut out. -/
theorem line_bounds_spell {start stop : Nat}
    (found : lineBounds? text number = some (start, stop)) :
    Spells text start stop (String.ofList (slice start stop text.toList)) := by
  obtain ⟨before, line, after, placed, rfl, rfl, cut⟩ := line_of_bounds found
  refine ⟨String.ofList before, String.ofList after, ?_, ?_, ?_⟩
  · rw [cut, ← String.ofList_append, ← String.ofList_append, ← placed.whole, String.ofList_toList]
  · rw [← size_eq_byte_size, String.toList_ofList]
  · rw [cut, ← String.ofList_append, ← size_eq_byte_size, String.toList_ofList, size_append]

end Starts

/-- What a search through increasing numbers tells: the wanted one is at an
index, or it is missing between the smaller ones and the greater ones. -/
inductive SearchResult.Correct (numbers : List Nat) (wanted : Nat) : SearchResult → Prop
  | found {index : Nat} : numbers[index]? = some wanted → Correct numbers wanted (.found index)
  | missing {index : Nat} : index ≤ numbers.length →
      (∀ other (inside : other < numbers.length), other < index → numbers[other] < wanted) →
      (∀ other (inside : other < numbers.length), index ≤ other → wanted < numbers[other]) →
      Correct numbers wanted (.missing index)

/-- The last of some increasing numbers that is not greater than a given one. -/
structure LastReached (numbers : List Nat) (given index : Nat) : Prop where
  reached : ∃ number, numbers[index]? = some number ∧ number ≤ given
  next : ∀ number, numbers[index + 1]? = some number → given < number

section Search

variable {numbers : List Nat} {low high : Nat}

theorem increasing_at (increasing : numbers.Pairwise (· < ·)) {left right : Nat}
    (less : left < right) (inside : right < numbers.length) : numbers[left] < numbers[right] :=
  List.pairwise_iff_getElem.mp increasing left right _ inside less

/-- All numbers below the window are smaller than the wanted one and all above it
are greater. Each comparison keeps that for the half that is left. -/
theorem search_correct (wanted : Nat) (increasing : numbers.Pairwise (· < ·))
    (ordered : low ≤ high) (within : high ≤ numbers.toArray.size)
    (below : ∀ other (inside : other < numbers.length), other < low → numbers[other] < wanted)
    (above : ∀ other (inside : other < numbers.length), high ≤ other → wanted < numbers[other]) :
    SearchResult.Correct numbers wanted (search numbers.toArray wanted low high within) := by
  fun_induction search numbers.toArray wanted low high within with
  | case1 low high within remaining middle inside same =>
      rw [List.getElem_toArray] at same
      exact .found (by rw [List.getElem?_eq_getElem inside, same])
  | case2 low high within remaining middle inside other less induction =>
      rw [List.getElem_toArray] at less
      refine induction (by omega) ?_ above
      intro index bound before
      rcases Nat.lt_or_eq_of_le (Nat.le_of_lt_succ before) with smaller | rfl
      · exact Nat.lt_trans (increasing_at increasing smaller inside) less
      · exact less
  | case3 low high within remaining middle inside other notLess induction =>
      rw [List.getElem_toArray] at other notLess
      have greater : wanted < numbers[middle] := by omega
      refine induction (by omega) below ?_
      intro index bound behind
      rcases Nat.lt_or_eq_of_le behind with larger | rfl
      · exact Nat.lt_trans greater (increasing_at increasing larger bound)
      · exact greater
  | case4 low high within closed =>
      refine .missing (Nat.le_trans ordered within) below ?_
      intro index bound behind
      exact above index bound (by omega)

theorem line_number_reached (increasing : numbers.Pairwise (· < ·))
    (first : numbers[0]? = some 0) (offset : Nat) :
    LastReached numbers offset (lineNumber numbers offset) := by
  have correct : SearchResult.Correct numbers offset
      (search numbers.toArray offset 0 numbers.length (Nat.le_refl _)) :=
    search_correct offset increasing (Nat.zero_le _) (Nat.le_refl _)
      (fun _ _ before => absurd before (Nat.not_lt_zero _))
      (fun _ inside behind => absurd inside (Nat.not_lt.mpr behind))
  rw [lineNumber]
  cases result : search numbers.toArray offset 0 numbers.length (Nat.le_refl _) with
  | found index =>
      rw [result] at correct
      cases correct with
      | found there =>
          refine ⟨⟨offset, there, Nat.le_refl _⟩, ?_⟩
          intro number next
          obtain ⟨inside, rfl⟩ := List.getElem?_eq_some_iff.mp next
          obtain ⟨_, same⟩ := List.getElem?_eq_some_iff.mp there
          rw [← same]
          exact increasing_at increasing (Nat.lt_succ_self index) inside
  | missing index =>
      rw [result] at correct
      cases correct with
      | missing within below above =>
          obtain ⟨nonempty, zero⟩ := List.getElem?_eq_some_iff.mp first
          -- the first number is zero, so the wanted one is missing behind it
          have positive : 0 < index := by
            apply Nat.pos_of_ne_zero
            rintro rfl
            have less := above 0 nonempty (Nat.le_refl _)
            omega
          have inside : index - 1 < numbers.length := by omega
          refine ⟨⟨_, List.getElem?_eq_getElem inside, ?_⟩, ?_⟩
          · exact Nat.le_of_lt (below _ inside (by omega))
          · intro number next
            obtain ⟨bound, rfl⟩ := List.getElem?_eq_some_iff.mp next
            exact above _ bound (Nat.le_of_eq (Nat.sub_add_cancel positive).symm)

theorem last_reached_unique (increasing : numbers.Pairwise (· < ·)) {given left right : Nat}
    (first : LastReached numbers given left) (second : LastReached numbers given right) :
    left = right := by
  have earlier : ∀ {smaller larger : Nat}, LastReached numbers given smaller →
      LastReached numbers given larger → ¬ smaller < larger := by
    intro smaller larger short long less
    obtain ⟨number, there, reached⟩ := long.reached
    obtain ⟨inside, rfl⟩ := List.getElem?_eq_some_iff.mp there
    have beyond := short.next _ (List.getElem?_eq_getElem (Nat.lt_of_le_of_lt less inside))
    rcases Nat.lt_or_eq_of_le less with further | rfl
    · have more := increasing_at increasing further inside
      omega
    · omega
  have notLess := earlier first second
  have notGreater := earlier second first
  omega

end Search

/-- An offset from the start of a line up to its end has the number of that line. -/
theorem line_number_of_line {text : String} {before line after : List Char} {number offset : Nat}
    (placed : LineOf text.toList number before line after) (reached : size before ≤ offset)
    (within : offset ≤ size before + size line) :
    lineNumber (lineStarts text) offset = number := by
  have increasing := line_starts_increasing text
  refine last_reached_unique increasing (line_number_reached increasing rfl offset) ⟨?_, ?_⟩
  · exact ⟨_, start_of_line placed, reached⟩
  · intro start below
    rw [start_below placed] at below
    split at below
    · cases below
    · cases below
      omega

end TemplateServer.Text
