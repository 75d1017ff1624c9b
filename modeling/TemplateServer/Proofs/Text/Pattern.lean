import TemplateServer.Proofs.Text.Position
import TemplateServer.Text.Pattern

/-!
What the match of a pattern is. A pattern takes some characters at an offset, and
its readings end exactly behind those, in whatever order they are preferred. So
the match begins at the leftmost place where the pattern takes anything, and
there is none only if it takes nothing anywhere.
-/

namespace TemplateServer.Text

structure Leftmost (Occurs : Nat → Nat → Prop) (start stop : Nat) : Prop where
  occurs : Occurs start stop
  least : ∀ other last, Occurs other last → start ≤ other

inductive Finds (Occurs : Nat → Nat → Prop) : Option (Nat × Nat) → Prop
  | found {start stop : Nat} : Leftmost Occurs start stop → Finds Occurs (some (start, stop))
  | nothing : (∀ start stop, ¬ Occurs start stop) → Finds Occurs none

namespace Pattern

/-- The characters that a pattern takes at an offset, however it prefers to. -/
def Takes : Pattern → Nat → List Char → Prop
  | .textStart, offset, taken => offset = 0 ∧ taken = []
  | .oneOf accepts, _, taken => ∃ char, accepts char = true ∧ taken = [char]
  | .literal chars, _, taken => taken = chars
  | .run accepts, _, taken => ∀ char ∈ taken, accepts char = true
  | .either preferred other, offset, taken =>
      preferred.Takes offset taken ∨ other.Takes offset taken
  | .sequence first second, offset, taken =>
      ∃ front back, taken = front ++ back ∧ first.Takes offset front ∧
        second.Takes (offset + size front) back
  | .group inner, offset, taken => inner.Takes offset taken

def TakesTo (pattern : Pattern) (place stop : Place) : Prop :=
  ∃ taken later, pattern.Takes place.offset taken ∧ place.rest = taken ++ later ∧
    stop = ⟨place.offset + size taken, later⟩

section Readings

variable {accepts : Char → Bool} {offset : Nat} {rest : List Char} {place stop : Place}

theorem run_to_here : TakesTo (.run accepts) place place :=
  ⟨[], place.rest, by simp [Takes], rfl, rfl⟩

theorem run_to_nil : TakesTo (.run accepts) ⟨offset, []⟩ stop ↔ stop = ⟨offset, []⟩ := by
  constructor
  · rintro ⟨taken, later, -, whole, rfl⟩
    obtain ⟨rfl, rfl⟩ := List.append_eq_nil_iff.mp whole.symm
    rfl
  · rintro rfl
    exact run_to_here

theorem run_to_cons {char : Char} : TakesTo (.run accepts) ⟨offset, char :: rest⟩ stop ↔
    stop = ⟨offset, char :: rest⟩ ∨
      accepts char = true ∧ TakesTo (.run accepts) ⟨offset + char.utf8Size, rest⟩ stop := by
  constructor
  · rintro ⟨taken, later, accepted, whole, rfl⟩
    cases taken with
    | nil => exact Or.inl (congrArg _ whole.symm)
    | cons first taken =>
        obtain ⟨rfl, split⟩ := List.cons.inj whole
        obtain ⟨head, tail⟩ := List.forall_mem_cons.mp accepted
        rw [size, ← Nat.add_assoc]
        exact Or.inr ⟨head, taken, later, tail, split, rfl⟩
  · rintro (rfl | ⟨head, taken, later, tail, whole, rfl⟩)
    · exact run_to_here
    · refine ⟨char :: taken, later, List.forall_mem_cons.mpr ⟨head, tail⟩, ?_, ?_⟩
      · exact congrArg _ whole
      · rw [size, Nat.add_assoc]

theorem mem_run_stops {nearer : List Place} : stop ∈ runStops accepts nearer offset rest ↔
    stop ∈ nearer ∨ TakesTo (.run accepts) ⟨offset, rest⟩ stop := by
  induction rest generalizing nearer offset with
  | nil => rw [runStops, List.mem_cons, run_to_nil, or_comm]
  | cons char rest induction =>
      rw [runStops, run_to_cons]
      split
      · rename_i accepted
        rw [induction, List.mem_cons, and_iff_right accepted, or_comm (a := stop = _), or_assoc]
      · rename_i refused
        rw [List.mem_cons, or_comm, or_iff_left_of_imp (a := stop = _)]
        rintro ⟨accepted, -⟩
        exact absurd accepted refused

theorem one_of_stops : (∃ reading ∈ (Pattern.oneOf accepts).readings place, reading.stop = stop) ↔
    TakesTo (.oneOf accepts) place stop := by
  obtain ⟨offset, rest⟩ := place
  constructor
  · rintro ⟨reading, member, rfl⟩
    cases rest with
    | nil => cases member
    | cons char later =>
        simp only [readings] at member
        split at member
        · rename_i accepted
          rw [List.mem_singleton.mp member]
          exact ⟨[char], later, ⟨char, accepted, rfl⟩, rfl, rfl⟩
        · cases member
  · rintro ⟨_, later, ⟨char, accepted, rfl⟩, rfl, rfl⟩
    refine ⟨⟨_, none⟩, ?_, rfl⟩
    simp only [readings, List.singleton_append, accepted, if_true]
    exact List.mem_singleton_self _

theorem literal_stops {chars : List Char} :
    (∃ reading ∈ (Pattern.literal chars).readings place, reading.stop = stop) ↔
      TakesTo (.literal chars) place stop := by
  obtain ⟨offset, rest⟩ := place
  simp only [readings]
  constructor
  · rintro ⟨reading, member, rfl⟩
    split at member
    · rename_i starts
      obtain ⟨later, rfl⟩ := List.isPrefixOf_iff_prefix.mp starts
      rw [List.mem_singleton.mp member, List.drop_left]
      exact ⟨chars, later, rfl, rfl, rfl⟩
    · cases member
  · rintro ⟨_, later, rfl, rfl, rfl⟩
    rw [if_pos (List.isPrefixOf_iff_prefix.mpr (List.prefix_append _ later)), List.drop_left]
    exact ⟨_, List.mem_singleton_self _, rfl⟩

theorem takes_to_sequence {first second : Pattern} :
    TakesTo (.sequence first second) place stop ↔
      ∃ middle, first.TakesTo place middle ∧ second.TakesTo middle stop := by
  constructor
  · rintro ⟨_, later, ⟨front, back, rfl, lead, last⟩, whole, rfl⟩
    rw [List.append_assoc] at whole
    refine ⟨⟨place.offset + size front, back ++ later⟩, ⟨front, _, lead, whole, rfl⟩,
      back, later, last, rfl, ?_⟩
    rw [size_append, Nat.add_assoc]
  · rintro ⟨middle, ⟨front, _, lead, whole, rfl⟩, back, later, last, rfl, rfl⟩
    refine ⟨front ++ back, later, ⟨front, back, rfl, lead, last⟩, ?_, ?_⟩
    · rw [whole, List.append_assoc]
    · rw [size_append, Nat.add_assoc]

/-- The readings of a pattern end exactly behind the characters that it takes. -/
theorem readings_stop_iff (pattern : Pattern) (place stop : Place) :
    (∃ reading ∈ pattern.readings place, reading.stop = stop) ↔ pattern.TakesTo place stop := by
  induction pattern generalizing place stop with
  | textStart =>
      obtain ⟨offset, rest⟩ := place
      simp only [readings]
      constructor
      · rintro ⟨reading, member, rfl⟩
        split at member
        · rename_i start
          rw [List.mem_singleton.mp member]
          exact ⟨[], rest, ⟨start, rfl⟩, rfl, rfl⟩
        · cases member
      · rintro ⟨_, later, ⟨start, rfl⟩, rfl, rfl⟩
        rw [if_pos start]
        exact ⟨_, List.mem_singleton_self _, rfl⟩
  | oneOf accepts => exact one_of_stops
  | literal chars => exact literal_stops
  | run accepts =>
      simp only [readings, List.mem_map, mem_run_stops, List.not_mem_nil, false_or]
      constructor
      · rintro ⟨_, ⟨_, takes, rfl⟩, rfl⟩
        exact takes
      · intro takes
        exact ⟨_, ⟨stop, takes, rfl⟩, rfl⟩
  | either first second firstRead secondRead =>
      simp only [readings, List.mem_append, or_and_right, exists_or, firstRead, secondRead, TakesTo,
        Takes]
  | sequence first second firstRead secondRead =>
      rw [takes_to_sequence]
      simp only [← firstRead, ← secondRead, readings, List.mem_flatMap, List.mem_map]
      constructor
      · rintro ⟨_, ⟨lead, leadRead, last, lastRead, rfl⟩, rfl⟩
        exact ⟨lead.stop, ⟨lead, leadRead, rfl⟩, last, lastRead, rfl⟩
      · rintro ⟨_, ⟨lead, leadRead, rfl⟩, last, lastRead, rfl⟩
        exact ⟨_, ⟨lead, leadRead, last, lastRead, rfl⟩, rfl⟩
  | group inner innerRead =>
      refine Iff.trans ?_ (innerRead place stop)
      simp only [readings, List.mem_map]
      constructor
      · rintro ⟨_, ⟨reading, member, rfl⟩, rfl⟩
        exact ⟨reading, member, rfl⟩
      · rintro ⟨reading, member, rfl⟩
        exact ⟨_, ⟨reading, member, rfl⟩, rfl⟩

theorem unread_iff {pattern : Pattern} : pattern.readings ⟨offset, rest⟩ = [] ↔
    ∀ taken later, rest = taken ++ later → ¬ pattern.Takes offset taken := by
  rw [List.eq_nil_iff_forall_not_mem]
  constructor
  · intro unread taken later whole takes
    obtain ⟨reading, member, -⟩ :=
      (pattern.readings_stop_iff ⟨offset, rest⟩ _).mpr ⟨taken, later, takes, whole, rfl⟩
    exact unread reading member
  · intro refused reading member
    obtain ⟨taken, later, takes, whole, -⟩ :=
      (pattern.readings_stop_iff ⟨offset, rest⟩ _).mp ⟨reading, member, rfl⟩
    exact refused taken later whole takes

end Readings

section Matches

variable {pattern : Pattern} {offset : Nat} {chars : List Char}

theorem match_from_none (missing : pattern.matchFrom? offset chars = none) :
    ∀ front later, chars = front ++ later →
      pattern.readings ⟨offset + size front, later⟩ = [] := by
  fun_induction matchFrom? pattern offset chars with
  | case1 => cases missing
  | case2 offset unread =>
      intro front later whole
      obtain ⟨rfl, rfl⟩ := List.append_eq_nil_iff.mp whole.symm
      exact unread
  | case3 offset char rest unread induction =>
      intro front later whole
      cases front with
      | nil =>
          rw [List.nil_append] at whole
          rw [← whole]
          exact unread
      | cons first front =>
          obtain ⟨rfl, split⟩ := List.cons.inj whole
          rw [size, ← Nat.add_assoc]
          exact induction missing front later split

/-- A match is the preferred reading at its place, and no place in front of that
one can be read. -/
theorem match_from_some {found : Match} (matched : pattern.matchFrom? offset chars = some found) :
    ∃ skipped rest reading, chars = skipped ++ rest ∧
      (pattern.readings ⟨offset + size skipped, rest⟩).head? = some reading ∧
      found = ⟨(offset + size skipped, reading.stop.offset), reading.group⟩ ∧
      ∀ front later, chars = front ++ later → size front < size skipped →
        pattern.readings ⟨offset + size front, later⟩ = [] := by
  fun_induction matchFrom? pattern offset chars with
  | case1 chars offset reading others read =>
      cases matched
      refine ⟨[], chars, reading, rfl, ?_, rfl, ?_⟩
      · rw [size, Nat.add_zero, read, List.head?_cons]
      · intro front later _ less
        exact absurd less (Nat.not_lt_zero _)
  | case2 => cases matched
  | case3 offset char rest unread induction =>
      obtain ⟨skipped, behind, reading, rfl, read, rfl, earlier⟩ := induction matched
      refine ⟨char :: skipped, behind, reading, rfl, ?_, ?_, ?_⟩
      · rw [size, ← Nat.add_assoc]
        exact read
      · rw [size, ← Nat.add_assoc]
      · intro front later whole less
        cases front with
        | nil =>
            rw [List.nil_append] at whole
            rw [← whole]
            exact unread
        | cons first front =>
            obtain ⟨rfl, split⟩ := List.cons.inj whole
            rw [size, size] at less
            rw [size, ← Nat.add_assoc]
            exact earlier front later split (by omega)

end Matches

def OccursAt (pattern : Pattern) (text : String) (start stop : Nat) : Prop :=
  ∃ before taken after, text.toList = before ++ (taken ++ after) ∧ size before = start ∧
    start + size taken = stop ∧ pattern.Takes start taken

theorem leftmost_finds (pattern : Pattern) (text : String) :
    Finds (pattern.OccursAt text) (pattern.find? 0 text) := by
  rw [find?]
  cases matched : pattern.leftmost? text with
  | none =>
      refine .nothing ?_
      rintro start stop ⟨before, taken, after, whole, rfl, -, takes⟩
      have unread := match_from_none matched before _ whole
      rw [Nat.zero_add] at unread
      exact unread_iff.mp unread taken after rfl takes
  | some found =>
      obtain ⟨skipped, rest, reading, whole, head, rfl, earlier⟩ := match_from_some matched
      simp only [Nat.zero_add] at head earlier ⊢
      obtain ⟨taken, later, takes, rfl, behind⟩ :=
        (pattern.readings_stop_iff ⟨size skipped, rest⟩ _).mp
          ⟨reading, List.mem_of_mem_head? head, rfl⟩
      rw [Option.bind_some, Match.get?]
      refine .found ⟨⟨skipped, taken, later, whole, rfl, ?_, takes⟩, ?_⟩
      · rw [behind]
      · rintro other last ⟨front, piece, after, split, rfl, -, occurs⟩
        apply Nat.le_of_not_lt
        intro less
        exact unread_iff.mp (earlier front _ split less) piece after rfl occurs

end Pattern

end TemplateServer.Text
