import Resumable.Document
import Resumable.Proofs.Table

/-!
Well-formed documents. What lies in one is well formed, and so is what putting a well-formed value
into one makes of it.
-/

namespace Resumable

namespace Json

theorem wellFormed_of_get? {members : Document} {key : String} {value : Json}
    (wellFormed : WellFormedMembers members) (found : Table.get? key members = some value) :
    value.WellFormed := by
  induction members with
  | nil => cases found
  | cons entry rest ih =>
      obtain ⟨name, stored⟩ := entry
      rw [WellFormedMembers] at wellFormed
      rw [Table.get?] at found
      split at found
      · cases found
        exact wellFormed.1
      · exact ih wellFormed.2 found

theorem wellFormedMembers_insert {members : Document} {value : Json}
    (wellFormed : WellFormedMembers members) (key : String) (inner : value.WellFormed) :
    WellFormedMembers (Table.insert key value members) := by
  induction members with
  | nil => exact ⟨inner, trivial⟩
  | cons entry rest ih =>
      obtain ⟨name, stored⟩ := entry
      rw [Table.insert]
      split
      · exact ⟨inner, wellFormed.2⟩
      · split
        · exact ⟨inner, wellFormed⟩
        · exact ⟨wellFormed.1, ih wellFormed.2⟩

end Json

namespace Document

theorem wellFormed_nil : WellFormed [] := ⟨List.Pairwise.nil, trivial⟩

variable {document inner : Document}

theorem WellFormed.child (wellFormed : document.WellFormed) (key : String) :
    (document.child key).WellFormed := by
  rw [Document.child]
  split
  · rename_i found
    exact Json.wellFormed_of_get? wellFormed.2 found
  · exact wellFormed_nil

theorem WellFormed.setChild (wellFormed : document.WellFormed) (key : String)
    (below : inner.WellFormed) : (document.setChild key inner).WellFormed :=
  ⟨wellFormed.1.insert key (.object inner), Json.wellFormedMembers_insert wellFormed.2 key below⟩

end Document

end Resumable
