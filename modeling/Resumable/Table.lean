/-!
Tables from text keys to values, kept as lists in ascending key order. `insert` walks the list once,
so that looking a key up after an insertion needs no assumption on the order of the rest.
-/

namespace Resumable

/-- Entries in ascending order of their keys, by code point. -/
abbrev Table (Value : Type) := List (String × Value)

namespace Table

variable {Value : Type}

def get? (key : String) : Table Value → Option Value
  | [] => none
  | (found, value) :: rest => if found = key then some value else get? key rest

def has (key : String) (table : Table Value) : Bool := (get? key table).isSome

def insert (key : String) (value : Value) : Table Value → Table Value
  | [] => [(key, value)]
  | (found, old) :: rest =>
      if key = found then (key, value) :: rest
      else if key < found then (key, value) :: (found, old) :: rest
      else (found, old) :: insert key value rest

def erase (key : String) (table : Table Value) : Table Value :=
  table.filter fun entry => entry.1 != key

def keys (table : Table Value) : List String := table.map Prod.fst

/-- Later entries replace earlier ones of the same key. -/
def ofList (entries : List (String × Value)) : Table Value :=
  entries.foldl (fun table entry => insert entry.1 entry.2 table) []

def Ascending (table : Table Value) : Prop :=
  table.Pairwise fun left right => left.1 < right.1

@[simp] theorem get?_nil (key : String) : get? key ([] : Table Value) = none := rfl

@[simp] theorem get?_insert_self (key : String) (value : Value) (table : Table Value) :
    get? key (insert key value table) = some value := by
  induction table with
  | nil => simp [insert, get?]
  | cons entry rest ih =>
      obtain ⟨found, old⟩ := entry
      simp only [insert]
      split
      · simp [get?]
      · rename_i different
        split
        · simp [get?]
        · simp [get?, Ne.symm different, ih]

theorem get?_insert_of_ne {key other : String} (different : other ≠ key) (value : Value)
    (table : Table Value) : get? other (insert key value table) = get? other table := by
  induction table with
  | nil => simp [insert, get?, Ne.symm different]
  | cons entry rest ih =>
      obtain ⟨found, old⟩ := entry
      simp only [insert]
      split
      · rename_i same
        subst same
        simp [get?, Ne.symm different]
      · split
        · simp [get?, Ne.symm different]
        · simp only [get?, ih]

@[simp] theorem get?_erase_self (key : String) (table : Table Value) :
    get? key (erase key table) = none := by
  induction table with
  | nil => rfl
  | cons entry rest ih =>
      obtain ⟨found, old⟩ := entry
      by_cases same : found = key
      · subst same
        simpa [erase] using ih
      · simp only [erase, List.filter_cons, bne_iff_ne.2 same, if_true, get?, same, if_false]
        exact ih

theorem get?_erase_of_ne {key other : String} (different : other ≠ key) (table : Table Value) :
    get? other (erase key table) = get? other table := by
  induction table with
  | nil => rfl
  | cons entry rest ih =>
      obtain ⟨found, old⟩ := entry
      by_cases same : found = key
      · subst same
        simp only [erase, List.filter_cons, bne_self_eq_false, Bool.false_eq_true, if_false, get?,
          Ne.symm different]
        exact ih
      · simp only [erase, List.filter_cons, bne_iff_ne.2 same, if_true, get?]
        split
        · rfl
        · exact ih

end Table

end Resumable
