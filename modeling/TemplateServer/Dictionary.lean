/-!
Finite maps from texts to values, kept as the list of their entries in
increasing order of the key. Texts are compared by code points, which is also
the order of their UTF-8 bytes.
-/

namespace TemplateServer

abbrev Dictionary (Value : Type) := List (String × Value)

namespace Dictionary

variable {Value : Type}

def get? (dictionary : Dictionary Value) (key : String) : Option Value :=
  match dictionary with
  | [] => none
  | (name, value) :: rest => if name = key then some value else get? rest key

def contains (dictionary : Dictionary Value) (key : String) : Bool :=
  (get? dictionary key).isSome

def insert (dictionary : Dictionary Value) (key : String) (value : Value) : Dictionary Value :=
  match dictionary with
  | [] => [(key, value)]
  | (name, old) :: rest =>
      if key < name then (key, value) :: (name, old) :: rest
      else if key = name then (key, value) :: rest
      else (name, old) :: insert rest key value

def erase (dictionary : Dictionary Value) (key : String) : Dictionary Value :=
  dictionary.filter (fun entry => entry.1 != key)

def keys (dictionary : Dictionary Value) : List String := dictionary.map (·.1)

/-- Inserts entries one after the other, so the last of equal keys stays. -/
def insertAll (dictionary : Dictionary Value) (entries : List (String × Value)) :
    Dictionary Value :=
  entries.foldl (fun built entry => insert built entry.1 entry.2) dictionary

def ofList (entries : List (String × Value)) : Dictionary Value := insertAll [] entries

def sortedNames (names : List String) : List String :=
  keys (ofList (names.map fun name => (name, ())))

theorem get_insert_self (dictionary : Dictionary Value) (key : String) (value : Value) :
    get? (insert dictionary key value) key = some value := by
  induction dictionary with
  | nil => simp [insert, get?]
  | cons entry rest induction =>
      obtain ⟨name, old⟩ := entry
      unfold insert
      split
      · simp [get?]
      · split
        · simp [get?]
        · rename_i different
          simp [get?, Ne.symm different, induction]

theorem get_insert_of_ne (dictionary : Dictionary Value) (key other : String) (value : Value)
    (different : other ≠ key) :
    get? (insert dictionary key value) other = get? dictionary other := by
  induction dictionary with
  | nil => simp [insert, get?, Ne.symm different]
  | cons entry rest induction =>
      obtain ⟨name, old⟩ := entry
      unfold insert
      split
      · simp [get?, Ne.symm different]
      · split
        · rename_i same
          simp [get?, ← same, Ne.symm different]
        · simp [get?, induction]

theorem get_erase_self (dictionary : Dictionary Value) (key : String) :
    get? (erase dictionary key) key = none := by
  induction dictionary with
  | nil => rfl
  | cons entry rest induction =>
      obtain ⟨name, value⟩ := entry
      rw [erase, List.filter_cons]
      split
      · rename_i kept
        have different : name ≠ key := by simpa using kept
        rw [get?, if_neg different]
        exact induction
      · exact induction

theorem get_erase_of_ne (dictionary : Dictionary Value) (key other : String)
    (different : other ≠ key) : get? (erase dictionary key) other = get? dictionary other := by
  induction dictionary with
  | nil => rfl
  | cons entry rest induction =>
      obtain ⟨name, value⟩ := entry
      rw [erase, List.filter_cons]
      split
      · rw [get?, get?]
        exact congrArg (fun found => if name = other then some value else found) induction
      · rename_i removed
        have same : name = key := by simpa using removed
        rw [get?, if_neg (by rw [same]; exact Ne.symm different)]
        exact induction

end Dictionary

end TemplateServer
