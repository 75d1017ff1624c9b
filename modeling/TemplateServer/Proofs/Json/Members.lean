import TemplateServer.Json.Parser
import TemplateServer.Proofs.Dictionary

/-!
The members of a parsed object have the order of their keys and each key once,
whatever the order of the text.
-/

namespace TemplateServer.Json

/-- Members of an object are in order; nothing is said of what they hold. -/
def MembersSorted : Json → Prop
  | .object members => Dictionary.Sorted members
  | _ => True

def Token.MembersSorted : Token → Prop
  | .literal value => value.MembersSorted
  | _ => True

def Frame.MembersSorted : Frame → Prop
  | .array _ => True
  | .object members _ => Dictionary.Sorted members

def Expected.MembersSorted : Expected → Prop
  | .firstKey members => Dictionary.Sorted members
  | .key members => Dictionary.Sorted members
  | .separator last => last.MembersSorted
  | _ => True

theorem word_members_sorted {word : String} {value : Json} {input : List Char} {token : Token}
    {length : Nat} (plain : value.MembersSorted)
    (read : word? word value input = some (token, length)) : token.MembersSorted := by
  rw [word?] at read
  split at read
  · cases read
    exact plain
  · cases read

theorem mark_members_sorted {char : Char} {token : Token} (read : mark? char = some token) :
    token.MembersSorted := by
  rw [mark?] at read
  repeat' split at read
  all_goals cases read
  all_goals trivial

theorem token_members_sorted {input : List Char} {token : Token} {length : Nat}
    (read : token? input = some (token, length)) : token.MembersSorted := by
  rw [token?.eq_def] at read
  split at read
  · cases read
  · split at read
    · rename_i mark found
      cases read
      exact mark_members_sorted found
    · split at read
      · obtain ⟨⟨body, taken⟩, -, same⟩ := Option.map_eq_some_iff.mp read
        cases same
        trivial
      · split at read
        · exact word_members_sorted (show MembersSorted .null from trivial) read
        · split at read
          · exact word_members_sorted (show MembersSorted (.bool true) from trivial) read
          · split at read
            · exact word_members_sorted (show MembersSorted (.bool false) from trivial) read
            · obtain ⟨⟨value, taken⟩, -, same⟩ := Option.map_eq_some_iff.mp read
              cases same
              trivial

theorem tokens_members_sorted {input : List Char} {found : List Token}
    (read : tokens? input = some found) : ∀ token ∈ found, token.MembersSorted := by
  fun_induction tokens? input generalizing found with
  | case1 =>
      cases read
      exact List.forall_mem_nil _
  | case2 char rest blank induction => exact induction read
  | case3 char rest visible induction =>
      obtain ⟨⟨token, length⟩, first, read⟩ := Option.bind_eq_some_iff.mp read
      obtain ⟨later, following, same⟩ := Option.bind_eq_some_iff.mp read
      cases same
      rw [List.forall_mem_cons]
      exact ⟨token_members_sorted first, induction length following⟩

namespace Machine

structure MembersSorted (machine : Machine) : Prop where
  frames : ∀ frame ∈ machine.frames, frame.MembersSorted
  expected : machine.expected.MembersSorted

theorem value_members_sorted {frames : List Frame} {token : Token} {after : Machine}
    (framesSorted : ∀ frame ∈ frames, frame.MembersSorted) (plain : token.MembersSorted)
    (taken : value? frames token = some after) : after.MembersSorted := by
  cases token with
  | literal value =>
      cases taken
      exact ⟨framesSorted, plain⟩
  | string text =>
      cases taken
      exact ⟨framesSorted, trivial⟩
  | openArray =>
      rw [value?, push?] at taken
      split at taken
      · cases taken
        exact ⟨List.forall_mem_cons.mpr ⟨trivial, framesSorted⟩, trivial⟩
      · cases taken
  | openObject =>
      rw [value?] at taken
      split at taken
      · cases taken
        exact ⟨framesSorted, List.Pairwise.nil⟩
      · cases taken
  | _ => cases taken

theorem step_members_sorted {machine after : Machine} {token : Token}
    (sorted : machine.MembersSorted) (plain : token.MembersSorted)
    (taken : machine.step? token = some after) : after.MembersSorted := by
  obtain ⟨frames, expected⟩ := machine
  obtain ⟨framesSorted, expectedSorted⟩ := sorted
  dsimp only at framesSorted expectedSorted
  simp only [step?] at taken
  split at taken
  · exact value_members_sorted framesSorted plain taken
  · cases taken
    exact ⟨(List.forall_mem_cons.mp framesSorted).2, trivial⟩
  · exact value_members_sorted framesSorted plain taken
  · cases taken
    exact ⟨framesSorted, List.Pairwise.nil⟩
  · cases taken
    exact ⟨List.forall_mem_cons.mpr ⟨expectedSorted, framesSorted⟩, trivial⟩
  · cases taken
    exact ⟨List.forall_mem_cons.mpr ⟨expectedSorted, framesSorted⟩, trivial⟩
  · cases taken
    exact ⟨framesSorted, trivial⟩
  · cases taken
    exact ⟨List.forall_mem_cons.mpr ⟨trivial, (List.forall_mem_cons.mp framesSorted).2⟩, trivial⟩
  · cases taken
    exact ⟨(List.forall_mem_cons.mp framesSorted).2, trivial⟩
  -- a member ends: its key goes to its place among those of the object
  · cases taken
    obtain ⟨members, outer⟩ := List.forall_mem_cons.mp framesSorted
    exact ⟨outer, Dictionary.sorted_insert members _ _⟩
  · cases taken
    obtain ⟨members, outer⟩ := List.forall_mem_cons.mp framesSorted
    exact ⟨outer, Dictionary.sorted_insert members _ _⟩
  · cases taken

theorem run_members_sorted {machine after : Machine} {tokens : List Token}
    (sorted : machine.MembersSorted) (plain : ∀ token ∈ tokens, token.MembersSorted)
    (taken : tokens.foldlM step? machine = some after) : after.MembersSorted := by
  induction tokens generalizing machine with
  | nil =>
      cases taken
      exact sorted
  | cons token later induction =>
      obtain ⟨first, rest⟩ := List.forall_mem_cons.mp plain
      rw [List.foldlM_cons] at taken
      obtain ⟨next, stepped, taken⟩ := Option.bind_eq_some_iff.mp taken
      exact induction (step_members_sorted sorted first stepped) rest taken

end Machine

theorem parse_members_sorted {text : String} {members : List (String × Json)}
    (parsed : parse? text = some (.object members)) : Dictionary.Sorted members := by
  obtain ⟨tokens, read, parsed⟩ := Option.bind_eq_some_iff.mp parsed
  obtain ⟨machine, taken, result⟩ := Option.bind_eq_some_iff.mp parsed
  have start : Machine.start.MembersSorted := ⟨List.forall_mem_nil _, trivial⟩
  have sorted := Machine.run_members_sorted start (tokens_members_sorted read) taken
  rw [Machine.result?.eq_def] at result
  split at result
  · cases result
    exact sorted.expected
  · cases result

end TemplateServer.Json
