import Resumable.Proofs.Json.Reading
import Resumable.Proofs.Wire

/-!
What a store that keeps texts gives back. A record is read from its text as it was, unless the
document in it lies too deep for the reader: such a record can be written, and not be read again.
-/

namespace Resumable.StateRecord

open Json (Draft)

theorem depth_toJson (record : StateRecord) :
    record.toJson.depth = 1 + (Json.object record.state).depth := by
  rw [toJson, Json.depth]
  simp only [Json.depthOfMembers, Json.nat, Json.depth, Nat.max_eq_max]
  omega

theorem wellFormed_toJson {record : StateRecord} (valid : wire.Valid record) :
    record.toJson.WellFormed := by
  obtain ⟨state, fits⟩ := valid
  have inRange : (Number.whole (Int.ofNat record.suspensions)).InRange := by
    constructor
    · rw [Int.ofNat_eq_natCast, Int.ofNat_eq_natCast]
      omega
    · exact Int.ofNat_lt.mpr fits
  have ascending : ["attempt_id", "state", "suspensions", "updated_at"].Pairwise (· < ·) := by
    decide
  exact ⟨List.pairwise_map.mp ascending, trivial, state, inRange, trivial, trivial⟩

/-- The attempt is read first; then the document is in the way. -/
theorem decoder_of_deep {record : StateRecord} (wellFormed : record.state.WellFormed)
    (deep : 126 < (Json.object record.state).depth) :
    decoder ((Draft.built .closed record.toJson).limited 127) = .error (.flaw Draft.tooDeep) := by
  have state := Json.Decoder.document_of_deep Json.Ending.whole_closed wellFormed deep
  rw [toJson, Draft.built, Draft.limited]
  simp only [Draft.builtMembers, Draft.limitedMembers]
  generalize (Draft.built .closed (.object record.state)).limited 126 = draft at state
  have refused : (Json.Fields.field "state" true Json.Decoder.document).check draft =
      .error (.flaw Draft.tooDeep) := by
    simp only [Json.Fields.field, state]
    rfl
  rw [decoder, Json.Fields.decoder,
    @Json.checkMembers_known _ (Json.Fields.field "attempt_id" true .text) _ _ _ _ rfl (by decide)]
  change (Json.checkMembers _ _ _ >>= _) = _
  rw [@Json.checkMembers_known _ (Json.Fields.field "state" true .document) _ _ _ _ rfl (by decide),
    refused]
  rfl

/-- The text of a record gives the record back, up to the limit on the depth. -/
theorem ofText_toText {record : StateRecord} (valid : wire.Valid record)
    (back : (Json.object record.state).RealsReadBack) :
    ofText record.toText =
      if 1 + (Json.object record.state).depth ≤ 127 then .ok record
      else .error (.flaw Draft.tooDeep) := by
  have wellFormed := wellFormed_toJson valid
  have reading := Json.Reader.read_written wellFormed ⟨trivial, back, trivial, trivial, trivial⟩
  have depth := depth_toJson record
  rw [ofText, Json.Decoder.runText, toText, Json.render, String.toList_ofList, reading,
    Json.depthLimit]
  by_cases shallow : 1 + (Json.object record.state).depth ≤ 127
  · have read : decoder (.built .closed record.toJson) = .ok record :=
      reads valid Json.Ending.whole_closed record.toJson record.self
    rw [if_pos shallow, Draft.limited_built record.toJson (by omega), read]
    rfl
  · have deep : 126 < (Json.object record.state).depth := by omega
    rw [if_neg shallow, decoder_of_deep valid.1 deep]
    rfl

-- A half, a text with characters that are escaped, and the largest count.
theorem stored_half_is_read :
    ofText (toText ⟨"a-1", [("note", .text "\"é\n\x01"), ("share", .number (.real
        ⟨false, 1022 <<< 52, by decide⟩))], (1 <<< 64) - 1, .epoch⟩) =
      .ok ⟨"a-1", [("note", .text "\"é\n\x01"), ("share", .number (.real
        ⟨false, 1022 <<< 52, by decide⟩))], (1 <<< 64) - 1, .epoch⟩ := by
  refine (ofText_toText ⟨?_, by decide⟩ ?_).trans (if_pos (by decide))
  · have ascending : ["note", "share"].Pairwise (· < ·) := by decide
    exact ⟨List.pairwise_map.mp ascending, trivial, trivial, trivial⟩
  · exact ⟨trivial, rfl, trivial⟩

end Resumable.StateRecord
