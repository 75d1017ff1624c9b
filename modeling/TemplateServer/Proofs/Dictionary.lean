import Mathlib.Data.List.Induction
import TemplateServer.Dictionary

/-!
Dictionaries by their entries. Keys stay in strictly increasing order through
every insertion, so a key stands for one entry, and a dictionary that is built
from a list holds the last entry of each key.
-/

namespace TemplateServer.Dictionary

variable {Value : Type}

def Sorted (dictionary : Dictionary Value) : Prop := (keys dictionary).Pairwise (· < ·)

theorem sorted_cons_iff (entry : String × Value) (rest : Dictionary Value) :
    Sorted (entry :: rest) ↔ (∀ other ∈ keys rest, entry.1 < other) ∧ Sorted rest := by
  rw [Sorted, keys, List.map_cons, List.pairwise_cons]
  rfl

theorem mem_keys_insert (dictionary : Dictionary Value) (key : String) (value : Value)
    (other : String) :
    other ∈ keys (insert dictionary key value) ↔ other = key ∨ other ∈ keys dictionary := by
  induction dictionary with
  | nil => simp [insert, keys]
  | cons entry rest induction =>
      rw [insert]
      split
      · simp [keys]
      · split
        · rename_i same
          simp [keys, same]
        · simp only [keys, List.map_cons, List.mem_cons] at induction ⊢
          rw [induction]
          exact or_left_comm

section Insert

variable (rest : Dictionary Value) (old value : Value) {key name : String}

theorem insert_nil (key : String) : insert [] key value = [(key, value)] := rfl

theorem insert_before (less : key < name) :
    insert ((name, old) :: rest) key value = (key, value) :: (name, old) :: rest := by
  rw [insert, if_pos less]

theorem insert_behind (less : name < key) :
    insert ((name, old) :: rest) key value = (name, old) :: insert rest key value := by
  rw [insert, if_neg (String.lt_asymm less), if_neg (Std.ne_of_lt less).symm]

end Insert

/-- In a dictionary in order a key stands for one entry. -/
theorem get_of_mem {dictionary : Dictionary Value} (sorted : Sorted dictionary) {key : String}
    {value : Value} (member : (key, value) ∈ dictionary) : get? dictionary key = some value := by
  induction dictionary with
  | nil => cases member
  | cons entry rest induction =>
      obtain ⟨least, restSorted⟩ := (sorted_cons_iff _ _).mp sorted
      rw [get?]
      rcases List.mem_cons.mp member with same | member
      · cases same
        exact if_pos rfl
      · have less : entry.1 < key := least key (List.mem_map_of_mem member)
        rw [if_neg (Std.ne_of_lt less)]
        exact induction restSorted member

theorem get_is_some_iff (dictionary : Dictionary Value) (key : String) :
    (get? dictionary key).isSome = true ↔ key ∈ keys dictionary := by
  induction dictionary with
  | nil => simp [get?, keys]
  | cons entry rest induction =>
      rw [get?, keys, List.map_cons, List.mem_cons]
      split
      · rename_i same
        exact iff_of_true rfl (Or.inl same.symm)
      · rename_i different
        rw [induction, or_iff_right (Ne.symm different), keys]

theorem sorted_insert {dictionary : Dictionary Value} (sorted : Sorted dictionary) (key : String)
    (value : Value) : Sorted (insert dictionary key value) := by
  induction dictionary with
  | nil => simp [insert, Sorted, keys]
  | cons entry rest induction =>
      obtain ⟨name, old⟩ := entry
      obtain ⟨least, restSorted⟩ := (sorted_cons_iff _ _).mp sorted
      rw [insert]
      split
      · rename_i less
        rw [sorted_cons_iff]
        refine ⟨?_, sorted⟩
        intro other member
        rcases List.mem_cons.mp member with rfl | member
        · exact less
        · exact String.lt_trans less (least other member)
      · rename_i notLess
        split
        · rename_i same
          rw [same, sorted_cons_iff]
          exact ⟨least, restSorted⟩
        · rename_i different
          rw [sorted_cons_iff]
          refine ⟨?_, induction restSorted⟩
          intro other member
          rcases (mem_keys_insert rest key value other).mp member with rfl | member
          · exact Std.lt_of_le_of_ne (String.not_lt.mp notLess) (Ne.symm different)
          · exact least other member

theorem sorted_insert_all {dictionary : Dictionary Value} (sorted : Sorted dictionary)
    (entries : List (String × Value)) : Sorted (insertAll dictionary entries) := by
  induction entries generalizing dictionary with
  | nil => exact sorted
  | cons entry rest induction => exact induction (sorted_insert sorted entry.1 entry.2)

theorem sorted_of_list (entries : List (String × Value)) : Sorted (ofList entries) :=
  sorted_insert_all (show Sorted [] from List.Pairwise.nil) entries

theorem mem_keys_insert_all (dictionary : Dictionary Value) (entries : List (String × Value))
    (key : String) :
    key ∈ keys (insertAll dictionary entries) ↔ key ∈ keys dictionary ∨ key ∈ keys entries := by
  induction entries generalizing dictionary with
  | nil => simp [insertAll, keys]
  | cons entry rest induction =>
      have step := induction (insert dictionary entry.1 entry.2)
      rw [mem_keys_insert] at step
      rw [insertAll, List.foldl_cons, ← insertAll, step]
      simp only [keys, List.map_cons, List.mem_cons]
      rw [or_assoc, or_left_comm]

theorem sorted_names_sorted (names : List String) : (sortedNames names).Pairwise (· < ·) :=
  sorted_of_list _

theorem mem_sorted_names (names : List String) (name : String) :
    name ∈ sortedNames names ↔ name ∈ names := by
  rw [sortedNames, ofList, mem_keys_insert_all]
  simp [keys]

theorem mem_of_mem_insert {dictionary : Dictionary Value} {key : String} {value : Value}
    {entry : String × Value} (member : entry ∈ insert dictionary key value) :
    entry = (key, value) ∨ entry ∈ dictionary := by
  induction dictionary with
  | nil => exact Or.inl (List.mem_singleton.mp member)
  | cons first rest induction =>
      unfold insert at member
      split at member
      · exact List.mem_cons.mp member
      · split at member
        · rcases List.mem_cons.mp member with same | member
          · exact Or.inl same
          · exact Or.inr (List.mem_cons_of_mem first member)
        · rcases List.mem_cons.mp member with same | member
          · exact Or.inr (List.mem_cons.mpr (Or.inl same))
          · exact (induction member).imp_right (List.mem_cons_of_mem first)

theorem of_list_concat (entries : List (String × Value)) (entry : String × Value) :
    ofList (entries ++ [entry]) = insert (ofList entries) entry.1 entry.2 := by
  rw [ofList, ofList, insertAll, List.foldl_append]
  rfl

/-- A dictionary that is built from a list holds nothing else. -/
theorem mem_of_mem_of_list {entries : List (String × Value)} {entry : String × Value}
    (member : entry ∈ ofList entries) : entry ∈ entries := by
  induction entries using List.reverseRecOn with
  | nil => cases member
  | append_singleton entries last induction =>
      rw [of_list_concat] at member
      rw [List.mem_append, List.mem_singleton]
      rcases mem_of_mem_insert member with same | member
      · exact Or.inr same
      · exact Or.inl (induction member)

theorem get_of_list (entries : List (String × Value)) (key : String) :
    get? (ofList entries) key =
      (entries.reverse.find? fun entry => entry.1 == key).map (·.2) := by
  induction entries using List.reverseRecOn with
  | nil => rfl
  | append_singleton entries entry induction =>
      rw [of_list_concat, List.reverse_concat, List.find?_cons]
      by_cases same : entry.1 = key
      · subst same
        rw [get_insert_self, beq_self_eq_true]
        rfl
      · rw [get_insert_of_ne _ _ _ _ (Ne.symm same), induction, beq_false_of_ne same]

/-- Of several entries with one key the last one counts. -/
theorem get_of_list_eq_some_iff (entries : List (String × Value)) (key : String) (value : Value) :
    get? (ofList entries) key = some value ↔
      ∃ before after, entries = before ++ (key, value) :: after ∧
        ∀ later ∈ after, later.1 ≠ key := by
  rw [get_of_list, Option.map_eq_some_iff]
  constructor
  · rintro ⟨⟨_, _⟩, found, rfl⟩
    obtain ⟨same, after, before, split, others⟩ := List.find?_eq_some_iff_append.mp found
    obtain rfl := eq_of_beq same
    refine ⟨before.reverse, after.reverse, ?_, ?_⟩
    · rw [← List.reverse_reverse entries, split, List.reverse_append, List.reverse_cons,
        List.append_assoc, List.singleton_append]
    · intro later member
      simpa using others later (List.mem_reverse.mp member)
  · rintro ⟨before, after, rfl, others⟩
    refine ⟨(key, value), List.find?_eq_some_iff_append.mpr
      ⟨beq_self_eq_true key, after.reverse, before.reverse, ?_, ?_⟩, rfl⟩
    · rw [List.reverse_append, List.reverse_cons, List.append_assoc, List.singleton_append]
    · intro later member
      simpa using others later (List.mem_reverse.mp member)

theorem get_of_list_eq_none_iff (entries : List (String × Value)) (key : String) :
    get? (ofList entries) key = none ↔ ∀ entry ∈ entries, entry.1 ≠ key := by
  simp [get_of_list]

section Values

variable {Other : Type} (change : Value → Other)

def mapValues (dictionary : Dictionary Value) : Dictionary Other :=
  dictionary.map fun entry => (entry.1, change entry.2)

theorem get_map_values (dictionary : Dictionary Value) (key : String) :
    get? (mapValues change dictionary) key = (get? dictionary key).map change := by
  induction dictionary with
  | nil => rfl
  | cons entry rest induction =>
      rw [mapValues, List.map_cons, get?, get?]
      split
      · rfl
      · exact induction

theorem insert_map_values (dictionary : Dictionary Value) (key : String) (value : Value) :
    insert (mapValues change dictionary) key (change value) =
      mapValues change (insert dictionary key value) := by
  induction dictionary with
  | nil => rfl
  | cons entry rest induction =>
      rw [mapValues, List.map_cons, insert, insert]
      split
      · rfl
      · split
        · rfl
        · exact congrArg (List.cons _) induction

theorem of_list_map_values (entries : List (String × Value)) :
    ofList (mapValues change entries) = mapValues change (ofList entries) := by
  induction entries using List.reverseRecOn with
  | nil => rfl
  | append_singleton entries entry induction =>
      rw [of_list_concat, ← insert_map_values, ← induction, mapValues, List.map_append,
        List.map_singleton, of_list_concat]
      rfl

end Values

end TemplateServer.Dictionary
