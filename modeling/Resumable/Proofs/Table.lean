import Mathlib.Data.List.Induction
import Mathlib.Data.List.Perm.Basic
import Mathlib.Data.List.Sort
import Mathlib.Data.String.Basic
import Resumable.Table

/-!
Tables as collections of entries: what insertion and removal do to the entries as a whole, for keys
that are new to a table and keys that are not in it. Insertions of different keys can change places,
whatever the table. Insertion keeps the order of the keys, so a table in order is made from its own
entries, and what is found in it says which table it is.
-/

namespace Resumable.Table

variable {Value : Type}

theorem get?_eq_none_iff {key : String} {table : Table Value} :
    get? key table = none ↔ key ∉ keys table := by
  induction table with
  | nil => simp [keys]
  | cons entry rest ih =>
      obtain ⟨found, value⟩ := entry
      by_cases same : found = key
      · simp [get?, keys, same]
      · simpa [get?, keys, same, Ne.symm same] using ih

theorem has_of_mem {key : String} {value : Value} {table : Table Value}
    (member : (key, value) ∈ table) : has key table = true := by
  rw [has, Option.isSome_iff_ne_none]
  intro absent
  exact get?_eq_none_iff.mp absent (List.mem_map_of_mem member)

theorem get?_of_mem {key : String} {value : Value} {table : Table Value}
    (distinct : (keys table).Nodup) (member : (key, value) ∈ table) :
    get? key table = some value := by
  induction table with
  | nil => cases member
  | cons entry rest ih =>
      obtain ⟨found, old⟩ := entry
      obtain ⟨single, others⟩ := List.nodup_cons.mp distinct
      rcases List.mem_cons.mp member with same | later
      · cases same
        rw [get?, if_pos rfl]
      · have different : found ≠ key := by
          rintro rfl
          exact single (List.mem_map.mpr ⟨_, later, rfl⟩)
        rw [get?, if_neg different]
        exact ih others later

theorem mem_of_get? {key : String} {value : Value} {table : Table Value}
    (found : get? key table = some value) : (key, value) ∈ table := by
  induction table with
  | nil => cases found
  | cons entry rest ih =>
      obtain ⟨name, old⟩ := entry
      by_cases same : name = key
      · rw [get?, if_pos same] at found
        cases found
        exact same ▸ List.mem_cons_self
      · rw [get?, if_neg same] at found
        exact List.mem_cons_of_mem _ (ih found)

theorem get?_eq_some_iff {key : String} {value : Value} {table : Table Value}
    (distinct : (keys table).Nodup) : get? key table = some value ↔ (key, value) ∈ table :=
  ⟨mem_of_get?, get?_of_mem distinct⟩

-- A key that is new to a table adds one entry to it.
theorem insert_perm {key : String} {table : Table Value} (fresh : key ∉ keys table)
    (value : Value) : (insert key value table).Perm ((key, value) :: table) := by
  induction table with
  | nil => exact .refl _
  | cons entry rest ih =>
      obtain ⟨found, old⟩ := entry
      have different : key ≠ found := fun same => fresh (by simp [keys, same])
      have later : key ∉ keys rest := fun member => fresh (List.mem_cons_of_mem found member)
      rw [insert, if_neg different]
      by_cases before : key < found
      · rw [if_pos before]
      · rw [if_neg before]
        exact ((ih later).cons _).trans (.swap _ _ _)

theorem erase_eq_self {key : String} {table : Table Value} (absent : key ∉ keys table) :
    erase key table = table := by
  apply List.filter_eq_self.mpr
  intro entry member
  apply bne_iff_ne.mpr
  rintro rfl
  exact absent (List.mem_map_of_mem member)

-- Removing a key that one entry has takes that entry.
theorem erase_of_not_has {key : String} {table : Table Value} (absent : has key table = false) :
    erase key table = table := by
  apply erase_eq_self
  rw [← get?_eq_none_iff]
  simpa [has] using absent

theorem erase_comm (left right : String) (table : Table Value) :
    erase left (erase right table) = erase right (erase left table) :=
  List.filter_comm ..

theorem erase_perm {key : String} {value : Value} {table rest : Table Value}
    (same : table.Perm ((key, value) :: rest)) (single : key ∉ keys rest) :
    (erase key table).Perm rest := by
  have removed : (erase key table).Perm (erase key ((key, value) :: rest)) := same.filter _
  refine removed.trans (.of_eq ?_)
  rw [erase, List.filter_cons_of_neg (by simp)]
  exact erase_eq_self single

theorem get?_foldl_erase {key : String} {dropped : List String} (kept : key ∉ dropped)
    (table : Table Value) :
    get? key (dropped.foldl (fun state other => erase other state) table) = get? key table := by
  induction dropped generalizing table with
  | nil => rfl
  | cons other rest ih =>
      rw [List.mem_cons, not_or] at kept
      rw [List.foldl_cons, ih kept.2, get?_erase_of_ne kept.1]

theorem get?_foldl_erase_of_mem {key : String} {dropped : List String} (member : key ∈ dropped)
    (table : Table Value) :
    get? key (dropped.foldl (fun state other => erase other state) table) = none := by
  induction dropped generalizing table with
  | nil => cases member
  | cons other rest ih =>
      rw [List.foldl_cons]
      by_cases later : key ∈ rest
      · exact ih later (erase other table)
      · rcases List.mem_cons.mp member with rfl | again
        · rw [get?_foldl_erase later, get?_erase_self]
        · exact absurd again later

theorem insert_of_lt {key found : String} (before : key < found) (value old : Value)
    (rest : Table Value) :
    insert key value ((found, old) :: rest) = (key, value) :: (found, old) :: rest := by
  rw [insert, if_neg before.ne, if_pos before]

theorem insert_of_gt {key found : String} (after : found < key) (value old : Value)
    (rest : Table Value) :
    insert key value ((found, old) :: rest) = (found, old) :: insert key value rest := by
  rw [insert, if_neg after.ne', if_neg after.not_gt]

theorem insert_of_eq (key : String) (value old : Value) (rest : Table Value) :
    insert key value ((key, old) :: rest) = (key, value) :: rest := by
  rw [insert, if_pos rfl]

theorem insert_insert (key : String) (first second : Value) (table : Table Value) :
    insert key second (insert key first table) = insert key second table := by
  induction table with
  | nil => exact insert_of_eq key second first []
  | cons entry rest ih =>
      obtain ⟨found, old⟩ := entry
      rcases lt_trichotomy key found with before | rfl | after
      · rw [insert_of_lt before, insert_of_lt before, insert_of_eq]
      · rw [insert_of_eq, insert_of_eq, insert_of_eq]
      · rw [insert_of_gt after, insert_of_gt after, insert_of_gt after, ih]

theorem insert_comm_of_lt {left right : String} (before : left < right) (first second : Value)
    (table : Table Value) :
    insert left first (insert right second table) =
      insert right second (insert left first table) := by
  induction table with
  | nil => rw [insert, insert, insert_of_lt before, insert_of_gt before, insert]
  | cons entry rest ih =>
      obtain ⟨found, old⟩ := entry
      rcases lt_trichotomy right found with early | rfl | late
      · rw [insert_of_lt early, insert_of_lt before, insert_of_lt (before.trans early),
          insert_of_gt before, insert_of_lt early]
      · rw [insert_of_eq, insert_of_lt before, insert_of_lt before, insert_of_gt before,
          insert_of_eq]
      · rw [insert_of_gt late]
        rcases lt_trichotomy left found with early | rfl | behind
        · rw [insert_of_lt early, insert_of_lt early, insert_of_gt before, insert_of_gt late]
        · rw [insert_of_eq, insert_of_eq, insert_of_gt before]
        · rw [insert_of_gt behind, insert_of_gt behind, insert_of_gt late, ih]

-- A table is ordered by its keys, not by the order of the insertions.
theorem insert_comm {left right : String} (different : left ≠ right) (first second : Value)
    (table : Table Value) :
    insert left first (insert right second table) =
      insert right second (insert left first table) := by
  rcases lt_or_gt_of_ne different with before | after
  · exact insert_comm_of_lt before first second table
  · exact (insert_comm_of_lt after second first table).symm

theorem mem_keys_insert {key other : String} {value : Value} {table : Table Value} :
    other ∈ keys (insert key value table) ↔ other = key ∨ other ∈ keys table := by
  by_cases same : other = key
  · subst same
    have found : get? other (insert other value table) ≠ none := by simp
    exact iff_of_true (not_not.mp (mt get?_eq_none_iff.mpr found)) (.inl rfl)
  · have found := get?_insert_of_ne same value table
    rw [or_iff_right same, ← not_iff_not, ← get?_eq_none_iff, ← get?_eq_none_iff, found]

theorem ascending_cons {key : String} {value : Value} {table : Table Value} :
    Ascending ((key, value) :: table) ↔ (∀ other ∈ keys table, key < other) ∧ Ascending table := by
  rw [Ascending, List.pairwise_cons, keys, List.forall_mem_map]
  rfl

-- The entry is written over by itself, where the order of the keys leads to it.
theorem insert_eq_self {key : String} {value : Value} {table : Table Value}
    (ascending : Ascending table) (found : get? key table = some value) :
    insert key value table = table := by
  induction table with
  | nil => cases found
  | cons entry rest ih =>
      obtain ⟨name, old⟩ := entry
      obtain ⟨first, later⟩ := ascending_cons.mp ascending
      by_cases same : name = key
      · subst same
        rw [get?, if_pos rfl] at found
        cases found
        exact insert_of_eq name value value rest
      · rw [get?, if_neg same] at found
        have member : key ∈ keys rest := List.mem_map_of_mem (mem_of_get? found)
        rw [insert_of_gt (first key member), ih later found]

theorem Ascending.insert {table : Table Value} (ascending : Ascending table) (key : String)
    (value : Value) : Ascending (insert key value table) := by
  induction table with
  | nil => exact List.pairwise_singleton ..
  | cons entry rest ih =>
      obtain ⟨found, old⟩ := entry
      obtain ⟨first, later⟩ := ascending_cons.mp ascending
      rcases lt_trichotomy key found with before | rfl | after
      · rw [insert_of_lt before]
        refine ascending_cons.mpr ⟨?_, ascending⟩
        intro other member
        rcases List.mem_cons.mp member with rfl | further
        · exact before
        · exact before.trans (first other further)
      · rw [insert_of_eq]
        exact ascending_cons.mpr ⟨first, later⟩
      · rw [insert_of_gt after]
        refine ascending_cons.mpr ⟨?_, ih later⟩
        intro other member
        rcases mem_keys_insert.mp member with rfl | further
        · exact after
        · exact first other further

theorem ascending_ofList (entries : List (String × Value)) : Ascending (ofList entries) := by
  rw [ofList]
  induction entries using List.reverseRecOn with
  | nil => exact List.Pairwise.nil
  | append_singleton before entry ih =>
      rw [List.foldl_append]
      exact ih.insert entry.1 entry.2

theorem Ascending.nodup {table : Table Value} (ascending : Ascending table) :
    (keys table).Nodup := by
  rw [List.Nodup, keys, List.pairwise_map]
  exact ascending.imp fun before => before.ne

/-- Tables in order are told apart by what is found in them. -/
theorem eq_of_get? {first second : Table Value} (ascending : Ascending first)
    (other : Ascending second) (same : ∀ key, get? key first = get? key second) :
    first = second := by
  have irreflexive : Std.Irrefl fun left right : String × Value => left.1 < right.1 :=
    ⟨fun entry => lt_irrefl entry.1⟩
  refine List.Pairwise.eq_of_mem_iff ascending other ?_
  rintro ⟨key, value⟩
  rw [← get?_eq_some_iff ascending.nodup, ← get?_eq_some_iff other.nodup, same]

-- Of entries with different keys none replaces another.
theorem get?_foldl_insert {entries : List (String × Value)} (distinct : (keys entries).Nodup)
    (key : String) (table : Table Value) :
    get? key (entries.foldl (fun table entry => insert entry.1 entry.2 table) table) =
      (get? key entries).or (get? key table) := by
  induction entries generalizing table with
  | nil => rfl
  | cons entry rest ih =>
      obtain ⟨found, value⟩ := entry
      obtain ⟨single, others⟩ := List.nodup_cons.mp distinct
      rw [List.foldl_cons, ih others]
      by_cases same : found = key
      · subst same
        rw [get?_eq_none_iff.mpr single, get?_insert_self, get?, if_pos rfl]
        rfl
      · rw [get?_insert_of_ne (Ne.symm same), get?, if_neg same]

theorem get?_ofList {entries : List (String × Value)} (distinct : (keys entries).Nodup)
    (key : String) : get? key (ofList entries) = get? key entries := by
  rw [ofList, get?_foldl_insert distinct, get?_nil, Option.or_none]

theorem insert_of_last {key : String} {table : Table Value}
    (last : ∀ other ∈ keys table, other < key) (value : Value) :
    insert key value table = table ++ [(key, value)] := by
  induction table with
  | nil => rfl
  | cons entry rest ih =>
      obtain ⟨found, old⟩ := entry
      rw [insert_of_gt (last found List.mem_cons_self), List.cons_append, ih]
      exact fun other member => last other (List.mem_cons_of_mem found member)

theorem ofList_of_ascending {table : Table Value} (ascending : Ascending table) :
    ofList table = table := by
  rw [ofList]
  induction table using List.reverseRecOn with
  | nil => rfl
  | append_singleton before entry ih =>
      obtain ⟨start, -, apart⟩ := List.pairwise_append.mp ascending
      rw [List.foldl_append, ih start, List.foldl_cons, List.foldl_nil]
      apply insert_of_last
      rw [keys, List.forall_mem_map]
      exact fun other member => apart other member entry List.mem_cons_self

end Resumable.Table
