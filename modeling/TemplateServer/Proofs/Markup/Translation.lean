import TemplateServer.Proofs.Markup.RoundTrip
import TemplateServer.Proofs.Markup.Spans

/-!
A scan keeps nothing in mind but its place. Moving the place moves every span
that is reported and changes nothing else, and a scan always stands between two
characters, so what it still has to report is the scan of the text from there on.
-/

namespace TemplateServer.Markup

open Text (bytes RestAt rest_at_start rest_at_cut rest_at_bytes cut_end bytes_injective)

def Argument.shift (argument : Argument) (amount : Nat) : Argument :=
  { argument with span := argument.span.shift amount }

def Attribute.shift (attr : Attribute) (amount : Nat) : Attribute :=
  { attr with
    valueSpan := attr.valueSpan.shift amount
    argument := attr.argument.map (·.shift amount) }

def Tag.shift (tag : Tag) (amount : Nat) : Tag :=
  { tag with
    span := tag.span.shift amount
    nameEnd := tag.nameEnd + amount
    attributes := tag.attributes.map (·.shift amount) }

def Event.shift (event : Event) (amount : Nat) : Event :=
  match event with
  | .openTag tag => .openTag (tag.shift amount)
  | .finished => .finished

def TagRemainder.shift (remainder : TagRemainder) (amount : Nat) : TagRemainder :=
  { remainder with attributes := remainder.attributes.map (·.shift amount) }

section Pieces

variable (position amount : Nat) (input : List UInt8)

theorem attribute_at_shift :
    attributeAt (position + amount) input = (attributeAt position input).shift amount := by
  simp only [attributeAt, Attribute.shift, Span.shift, Nat.add_right_comm _ amount]
  split
  · rfl
  · rfl

/-- How a tag goes on is decided by the bytes alone; the place only counts for the
spans of its attributes. -/
theorem tag_remainder_shift :
    tagRemainder (position + amount) input = (tagRemainder position input).shift amount := by
  fun_induction tagRemainder position input with
  | case1 position input separators ended =>
      rw [tag_remainder_end ended]
      rfl
  | case2 position input separators rest found =>
      rw [tag_remainder_cons found, if_pos rfl]
      rfl
  | case3 position input separators byte rest found greater closed =>
      rw [tag_remainder_cons found, if_neg greater, if_pos closed]
      rfl
  | case4 position input separators rest found greater open' =>
      rw [tag_remainder_cons found, if_neg greater, if_neg open', if_pos rfl]
      rfl
  | case5 position input separators byte rest found greater open' less named start taken
      induction =>
      rw [tag_remainder_cons found, if_neg greater, if_neg open', if_neg less, if_pos named]
      have next : position + amount + separators + taken = start + taken + amount := by omega
      have here : position + amount + separators = start + amount := by omega
      dsimp only
      rw [next, here, induction, attribute_at_shift]
      rfl
  | case6 position input separators byte rest found greater open' less unnamed taken induction =>
      rw [tag_remainder_cons found, if_neg greater, if_neg open', if_neg less, if_neg unnamed]
      have next : position + amount + separators + 1 + taken =
          position + separators + 1 + taken + amount := by omega
      change (tagRemainder (position + amount + separators + 1 + taken) (rest.drop taken)).after
        (separators + 1 + taken) = _
      rw [next, induction]
      rfl

theorem tag_at_shift : tagAt (position + amount) input = (tagAt position input).shift amount := by
  simp only [tagAt, Tag.shift, Span.shift, Nat.add_right_comm _ amount, tag_remainder_shift]
  rfl

end Pieces

namespace Cursor

def shift (cursor : Cursor) (amount : Nat) : Cursor := ⟨cursor.position + amount, cursor.rest⟩

theorem next_tag_shift (cursor : Cursor) (amount : Nat) :
    (cursor.shift amount).nextTag? =
      cursor.nextTag?.map fun (tag, after) => (tag.shift amount, after.shift amount) := by
  simp only [nextTag?, shift, advance]
  cases cursor.rest.drop (gapLength cursor.rest) with
  | nil => rfl
  | cons byte input =>
      simp only [Option.map_some, Nat.add_right_comm _ amount, tag_at_shift]

theorem tags_shift (cursor : Cursor) (amount : Nat) :
    (cursor.shift amount).tags = cursor.tags.map (·.shift amount) := by
  fun_induction tags cursor with
  | case1 cursor ended =>
      have moved : (cursor.shift amount).nextTag? = none := by
        rw [next_tag_shift, ended]
        rfl
      rw [tags_of_next_none moved]
      rfl
  | case2 cursor tag after found induction =>
      have moved : (cursor.shift amount).nextTag? =
          some (tag.shift amount, after.shift amount) := by
        rw [next_tag_shift, found]
        rfl
      rw [tags_of_next_some moved, induction]
      rfl

end Cursor

namespace Scanner

def afterEvents? : Nat → Scanner → Option Scanner
  | 0, scanner => some scanner
  | count + 1, scanner => scanner.next?.bind fun (_, after) => afterEvents? count after

/-- All that a step of a scan can do: it reports the next tag and stands behind it,
or it reports the end and stands there. -/
theorem next_cases {scanner after : Scanner} {event : Event}
    (found : scanner.next? = some (event, after)) :
    scanner.finished = false ∧
      ((∃ tag next, scanner.cursor.nextTag? = some (tag, next) ∧ event = .openTag tag ∧
          after = ⟨next, false⟩) ∨
        scanner.cursor.nextTag? = none ∧ event = .finished ∧
          after = ⟨scanner.cursor.advance scanner.cursor.rest.length, true⟩) := by
  rw [next?] at found
  split at found
  · cases found
  · rename_i unfinished
    refine ⟨Bool.eq_false_iff.mpr unfinished, ?_⟩
    split at found
    · rename_i tag next there
      cases found
      exact Or.inl ⟨tag, next, there, rfl, rfl⟩
    · rename_i ended
      cases found
      exact Or.inr ⟨ended, rfl, rfl⟩

theorem run_next {scanner after : Scanner} {event : Event}
    (found : scanner.next? = some (event, after)) : scanner.run.1 = event :: after.run.1 := by
  obtain ⟨cursor, finished⟩ := scanner
  obtain ⟨unfinished, ⟨tag, next, there, rfl, rfl⟩ | ⟨ended, rfl, rfl⟩⟩ := next_cases found
  · cases unfinished
    rw [run_eq_tags, run_eq_tags, tags_of_next_some there]
    rfl
  · cases unfinished
    rw [run_eq_tags, tags_of_next_none ended, run, if_pos rfl]
    rfl

/-- What is left of a scan is nothing, or the next event and what is left after it. -/
theorem run_induction {motive : Scanner → List Event → Prop}
    (ended : ∀ scanner, scanner.finished = true → motive scanner [])
    (step : ∀ scanner after event, scanner.next? = some (event, after) →
      motive after after.run.1 → motive scanner (event :: after.run.1)) (scanner : Scanner) :
    motive scanner scanner.run.1 := by
  have behind : ∀ cursor : Cursor, motive ⟨cursor, true⟩ (run ⟨cursor, true⟩).1 := by
    intro cursor
    rw [run, if_pos rfl]
    exact ended ⟨cursor, true⟩ rfl
  fun_induction run scanner with
  | case1 scanner finished => exact ended scanner finished
  | case2 scanner unfinished last =>
      have found : scanner.next? = some (.finished,
          ⟨scanner.cursor.advance scanner.cursor.rest.length, true⟩) := by
        rw [next?, if_neg unfinished, last]
      have whole := step scanner _ _ found (behind _)
      rwa [run, if_pos rfl] at whole
  | case3 scanner unfinished tag after there events last same induction =>
      have found : scanner.next? = some (.openTag tag, ⟨after, false⟩) := by
        rw [next?, if_neg unfinished, there]
      have whole := step scanner _ _ found induction
      rwa [same] at whole

theorem next_placed {text : String} {scanner after : Scanner} {event : Event}
    (place : RestAt text scanner.cursor.position scanner.cursor.rest)
    (found : scanner.next? = some (event, after)) :
    RestAt text after.cursor.position after.cursor.rest := by
  obtain ⟨-, ⟨tag, next, there, -, rfl⟩ | ⟨-, -, rfl⟩⟩ := next_cases found
  · exact (next_tag_placed place there).next
  · exact rest_at_cut place (cut_end _)

section Reached

variable {scanner reached : Scanner} {count : Nat}

theorem reached_placed {text : String}
    (place : RestAt text scanner.cursor.position scanner.cursor.rest)
    (steps : afterEvents? count scanner = some reached) :
    RestAt text reached.cursor.position reached.cursor.rest := by
  -- Counted from the front: the first event leaves a scan that reports one less.
  induction count generalizing scanner with
  | zero =>
      cases steps
      exact place
  | succ count induction =>
      obtain ⟨⟨event, after⟩, found, steps⟩ := Option.bind_eq_some_iff.mp steps
      exact induction (next_placed place found) steps

theorem reached_run (steps : afterEvents? count scanner = some reached) :
    scanner.run.1.drop count = reached.run.1 := by
  induction count generalizing scanner with
  | zero =>
      cases steps
      rfl
  | succ count induction =>
      obtain ⟨⟨event, after⟩, found, steps⟩ := Option.bind_eq_some_iff.mp steps
      rw [run_next found, List.drop_succ_cons, induction steps]

end Reached

end Scanner

/-- The events of a place further on are those of the same bytes at the start of a
text, each moved by the offset of the place. -/
theorem run_shift (after : String) (position : Nat) :
    (Scanner.run ⟨⟨position, bytes after⟩, false⟩).1 =
      (events after).map (·.shift position) := by
  have moved : (⟨position, bytes after⟩ : Cursor) = Cursor.shift ⟨0, bytes after⟩ position := by
    rw [Cursor.shift, Nat.zero_add]
  rw [moved, Scanner.run_eq_tags, Cursor.tags_shift, events_eq_tags, List.map_append,
    List.map_map, List.map_map]
  rfl

/-- After any number of events an unfinished scan stands between two characters.
What it reports from there on is what a new scan of the rest of the text reports,
with every offset increased by that of its place. -/
theorem scan_memoryless (text : String) (count : Nat) (scanner : Scanner)
    (reached : (Scanner.start text).afterEvents? count = some scanner)
    (unfinished : scanner.finished = false) :
    ∃ before after, text = before ++ after ∧
      before.utf8ByteSize = scanner.cursor.position ∧
      scanner.run.1 = (events after).map (·.shift scanner.cursor.position) ∧
      (events text).drop count = scanner.run.1 := by
  obtain ⟨before, after, split, size, rest⟩ :=
    Scanner.reached_placed (rest_at_start text) reached
  have whole : (events text).drop count = scanner.run.1 := Scanner.reached_run reached
  obtain ⟨⟨position, bytesLeft⟩, finished⟩ := scanner
  cases unfinished
  cases rest
  exact ⟨before, after, split, size, run_shift after position, whole⟩

/-- A raw element behind a wide character. The scan stands in front of its closing
tag, and the next tag has an argument that is not closed. -/
def sampleText : String := "é<script a>i<b</SCRIPT><p on(x"

def sampleScanner : Scanner := ⟨⟨15, bytes "</SCRIPT><p on(x"⟩, false⟩

theorem scan_memoryless_raw :
    (Scanner.start sampleText).afterEvents? 1 = some sampleScanner ∧
      sampleScanner.finished = false ∧
      sampleScanner.run.1 = (events "</SCRIPT><p on(x").map (·.shift 15) ∧
      (events "</SCRIPT><p on(x").map (·.shift 15) =
        [.openTag ⟨"p", ⟨24, 31⟩, 26, [⟨"on", ⟨29, 31⟩, some ⟨⟨29, 31⟩, "x"⟩⟩]⟩, .finished] := by
  have reached : (Scanner.start sampleText).afterEvents? 1 = some sampleScanner := by
    decide +kernel
  obtain ⟨before, after, split, size, same, -⟩ :=
    scan_memoryless sampleText 1 sampleScanner reached rfl
  have rest : after = "</SCRIPT><p on(x" := by
    apply bytes_injective
    rw [← rest_at_bytes ⟨before, after, split, size, rfl⟩]
    decide +kernel
  rw [rest] at same
  exact ⟨reached, rfl, same, by decide +kernel⟩

end TemplateServer.Markup
