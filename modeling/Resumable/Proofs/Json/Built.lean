import Resumable.Json.Fields
import Resumable.Proofs.Table

/-!
Drafts of values that have nothing wrong with them, whether they came from a value or from a text.
They can be passed over, they resolve to their value, and a limit on the depth leaves them alone
just when the value keeps to it: below a value that does not, the first container that is too deep
is what every decoder meets that wants the value.
-/

namespace Resumable.Json

/-- Nothing is wrong with this end of a container. -/
structure Ending.Whole (ending : Ending) : Prop where
  check : ending.check = .ok ()
  skip : ending.skip = .ok ()

theorem Ending.whole_closed : Ending.closed.Whole := ⟨rfl, rfl⟩

theorem Ending.whole_counted : Ending.counted.Whole := ⟨rfl, rfl⟩

namespace Draft

mutual

/-- The draft of a value, its arrays ended in one way. -/
def built (ending : Ending) : Json → Draft
  | .null => .null
  | .bool value => .bool value
  | .number value => .number value
  | .text value => .text value
  | .array items => .array (builtItems ending items) ending
  | .object members => .object (builtMembers ending members) .closed

def builtItems (ending : Ending) : List Json → List Draft
  | [] => []
  | item :: rest => built ending item :: builtItems ending rest

def builtMembers (ending : Ending) : List (String × Json) → List (String × Draft)
  | [] => []
  | (key, value) :: rest => (key, built ending value) :: builtMembers ending rest

end

variable {ending : Ending}

mutual

theorem built_counted (value : Json) : built .counted value = ofJson value := by
  cases value with
  | array items => rw [built, ofJson, builtItems_counted]
  | object members => rw [built, ofJson, builtMembers_counted]
  | _ => rfl

theorem builtItems_counted (items : List Json) : builtItems .counted items = ofItems items := by
  cases items with
  | nil => rfl
  | cons item rest => rw [builtItems, ofItems, built_counted, builtItems_counted]

theorem builtMembers_counted (members : List (String × Json)) :
    builtMembers .counted members = ofMembers members := by
  cases members with
  | nil => rfl
  | cons member rest =>
      obtain ⟨key, value⟩ := member
      rw [builtMembers, ofMembers, built_counted, builtMembers_counted]

end

mutual

theorem skip_built (whole : ending.Whole) (value : Json) :
    (built ending value).skip = .ok () := by
  cases value with
  | array items =>
      rw [built, skip, skipItems_built whole items]
      exact whole.skip
  | object members =>
      rw [built, skip, skipMembers_built whole members]
      rfl
  | _ => rfl

theorem skipItems_built (whole : ending.Whole) (items : List Json) :
    skipItems (builtItems ending items) = .ok () := by
  cases items with
  | nil => rfl
  | cons item rest =>
      rw [builtItems, skipItems, skip_built whole item]
      exact skipItems_built whole rest

theorem skipMembers_built (whole : ending.Whole) (members : List (String × Json)) :
    skipMembers (builtMembers ending members) = .ok () := by
  cases members with
  | nil => rfl
  | cons member rest =>
      obtain ⟨key, value⟩ := member
      rw [builtMembers, skipMembers, skip_built whole value]
      exact skipMembers_built whole rest

end

mutual

theorem resolve_built (whole : ending.Whole) (value : Json) (wellFormed : value.WellFormed) :
    (built ending value).resolve = .ok value := by
  cases value with
  | array items =>
      rw [built, resolve, resolveItems_built whole items wellFormed, whole.check]
      rfl
  | object members =>
      obtain ⟨ascending, inner⟩ := wellFormed
      rw [built, resolve, resolveMembers_built whole members inner]
      change Except.ok (Json.object (Table.ofList members)) = _
      rw [Table.ofList_of_ascending ascending]
  | _ => rfl

theorem resolveItems_built (whole : ending.Whole) (items : List Json)
    (wellFormed : WellFormedItems items) :
    resolveItems (builtItems ending items) = .ok items := by
  cases items with
  | nil => rfl
  | cons item rest =>
      rw [builtItems, resolveItems, resolve_built whole item wellFormed.1,
        resolveItems_built whole rest wellFormed.2]
      rfl

theorem resolveMembers_built (whole : ending.Whole) (members : List (String × Json))
    (wellFormed : WellFormedMembers members) :
    resolveMembers (builtMembers ending members) = .ok members := by
  cases members with
  | nil => rfl
  | cons member rest =>
      obtain ⟨key, value⟩ := member
      rw [builtMembers, resolveMembers, resolve_built whole value wellFormed.1,
        resolveMembers_built whole rest wellFormed.2]
      rfl

end

mutual

theorem limited_built {levels : Nat} (value : Json) (shallow : value.depth ≤ levels) :
    (built ending value).limited levels = built ending value := by
  cases value with
  | array items =>
      cases levels with
      | zero => exact absurd shallow (Nat.not_succ_le_zero _)
      | succ below =>
          rw [built, limited]
          exact congrArg₂ Draft.array
            (limitedItems_built items (Nat.le_of_succ_le_succ shallow)) rfl
  | object members =>
      cases levels with
      | zero => exact absurd shallow (Nat.not_succ_le_zero _)
      | succ below =>
          rw [built, limited]
          exact congrArg₂ Draft.object
            (limitedMembers_built members (Nat.le_of_succ_le_succ shallow)) rfl
  | _ => rw [built, limited] <;> simp

theorem limitedItems_built {levels : Nat} (items : List Json)
    (shallow : depthOfItems items ≤ levels) :
    limitedItems levels (builtItems ending items) = builtItems ending items := by
  cases items with
  | nil => rfl
  | cons item rest =>
      obtain ⟨first, later⟩ := Nat.max_le.mp shallow
      rw [builtItems, limitedItems, limited_built item first, limitedItems_built rest later]

theorem limitedMembers_built {levels : Nat} (members : List (String × Json))
    (shallow : depthOfMembers members ≤ levels) :
    limitedMembers levels (builtMembers ending members) = builtMembers ending members := by
  cases members with
  | nil => rfl
  | cons member rest =>
      obtain ⟨key, value⟩ := member
      obtain ⟨first, later⟩ := Nat.max_le.mp shallow
      rw [builtMembers, limitedMembers, limited_built value first, limitedMembers_built rest later]

end

/-- What a decoder meets at a container that lies too deep. -/
def tooDeep : Flaw := ⟨.tooDeep, 0⟩

mutual

theorem resolve_limited_of_deep (whole : ending.Whole) {levels : Nat} (value : Json)
    (wellFormed : value.WellFormed) (deep : levels < value.depth) :
    ((built ending value).limited levels).resolve = .error tooDeep := by
  cases value with
  | array items =>
      cases levels with
      | zero =>
          rw [built, limited]
          rfl
      | succ below =>
          rw [built, limited]
          rw [resolve, resolveItems_limited_of_deep whole items wellFormed
            (Nat.lt_of_succ_lt_succ deep)]
          rfl
  | object members =>
      cases levels with
      | zero =>
          rw [built, limited]
          rfl
      | succ below =>
          rw [built, limited]
          rw [resolve, resolveMembers_limited_of_deep whole members wellFormed.2
            (Nat.lt_of_succ_lt_succ deep)]
          rfl
  | _ => exact absurd deep (Nat.not_lt_zero levels)

theorem resolveItems_limited_of_deep (whole : ending.Whole) {levels : Nat} (items : List Json)
    (wellFormed : WellFormedItems items) (deep : levels < depthOfItems items) :
    resolveItems (limitedItems levels (builtItems ending items)) = .error tooDeep := by
  cases items with
  | nil => exact absurd deep (Nat.not_lt_zero levels)
  | cons item rest =>
      rw [builtItems, limitedItems, resolveItems]
      rcases Nat.lt_or_ge levels item.depth with here | shallow
      · rw [resolve_limited_of_deep whole item wellFormed.1 here]
        rfl
      · have later : levels < depthOfItems rest := (lt_max_iff.mp deep).resolve_left shallow.not_gt
        rw [limited_built item shallow, resolve_built whole item wellFormed.1]
        change (resolveItems (limitedItems levels (builtItems ending rest)) >>= _) = _
        rw [resolveItems_limited_of_deep whole rest wellFormed.2 later]
        rfl

theorem resolveMembers_limited_of_deep (whole : ending.Whole) {levels : Nat}
    (members : List (String × Json)) (wellFormed : WellFormedMembers members)
    (deep : levels < depthOfMembers members) :
    resolveMembers (limitedMembers levels (builtMembers ending members)) = .error tooDeep := by
  cases members with
  | nil => exact absurd deep (Nat.not_lt_zero levels)
  | cons member rest =>
      obtain ⟨key, value⟩ := member
      rw [builtMembers, limitedMembers, resolveMembers]
      rcases Nat.lt_or_ge levels value.depth with here | shallow
      · rw [resolve_limited_of_deep whole value wellFormed.1 here]
        rfl
      · have later : levels < depthOfMembers rest :=
          (lt_max_iff.mp deep).resolve_left shallow.not_gt
        rw [limited_built value shallow, resolve_built whole value wellFormed.1]
        change (resolveMembers (limitedMembers levels (builtMembers ending rest)) >>= _) = _
        rw [resolveMembers_limited_of_deep whole rest wellFormed.2 later]
        rfl

end

theorem get?_builtMembers (key : String) (members : Document) :
    Table.get? key (builtMembers ending members) =
      (Table.get? key members).map (built ending) := by
  induction members with
  | nil => rfl
  | cons member rest ih =>
      obtain ⟨found, value⟩ := member
      rw [builtMembers, Table.get?, Table.get?, ih]
      split <;> rfl

theorem keys_builtMembers (members : Document) :
    Table.keys (builtMembers ending members) = Table.keys members := by
  induction members with
  | nil => rfl
  | cons member rest ih =>
      obtain ⟨key, value⟩ := member
      exact congrArg (key :: ·) ih

end Draft

namespace Decoder

variable {ending : Ending}

theorem json_built (whole : ending.Whole) {value : Json} (wellFormed : value.WellFormed) :
    json (.built ending value) = .ok value := by
  rw [json, Draft.resolve_built whole value wellFormed]
  rfl

theorem members_json (drafts : List (String × Draft)) :
    members json drafts = ofFlaw (Draft.resolveMembers drafts) := by
  induction drafts with
  | nil => rfl
  | cons member rest ih =>
      obtain ⟨key, draft⟩ := member
      rw [members, ih, json, Draft.resolveMembers]
      cases draft.resolve with
      | error flaw => rfl
      | ok value =>
          cases Draft.resolveMembers rest with
          | error flaw => rfl
          | ok values => rfl

theorem document_built (whole : ending.Whole) {document : Document}
    (wellFormed : document.WellFormed) :
    Decoder.document (.built ending (.object document)) = .ok document := by
  rw [Decoder.document, Draft.built, table, members_json,
    Draft.resolveMembers_built whole document wellFormed.2]
  change Except.ok (Table.ofList document) = _
  rw [Table.ofList_of_ascending wellFormed.1]

theorem document_of_deep (whole : ending.Whole) {levels : Nat} {document : Document}
    (wellFormed : document.WellFormed) (deep : levels < (Json.object document).depth) :
    Decoder.document ((Draft.built ending (.object document)).limited levels) =
      .error (.flaw Draft.tooDeep) := by
  rw [Decoder.document, Draft.built]
  cases levels with
  | zero => rfl
  | succ below =>
      rw [Draft.limited]
      change table json (.object (Draft.limitedMembers below (Draft.builtMembers ending document))
        .closed) = _
      rw [table, members_json, Draft.resolveMembers_limited_of_deep whole document wellFormed.2
        (Nat.lt_of_succ_lt_succ deep)]
      rfl

theorem list_built (whole : ending.Whole) {α : Type} {decoder : Decoder α} {values : List α}
    {stored : α → Json}
    (decodes : ∀ value ∈ values, decoder (.built ending (stored value)) = .ok value) :
    list decoder (.built ending (.array (values.map stored))) = .ok values := by
  have read : items decoder (Draft.builtItems ending (values.map stored)) = .ok values := by
    induction values with
    | nil => rfl
    | cons value rest ih =>
        rw [List.map_cons, Draft.builtItems, items, decodes value List.mem_cons_self,
          ih fun other member => decodes other (List.mem_cons_of_mem value member)]
        rfl
  rw [Draft.built, list, read, whole.check]
  rfl

theorem texts_built (whole : ending.Whole) (values : List String) :
    list .text (.built ending (.texts values)) = .ok values :=
  list_built whole fun _ _ => rfl

theorem values_built (whole : ending.Whole) {values : List Json}
    (wellFormed : WellFormedItems values) :
    list .json (.built ending (.array values)) = .ok values := by
  have decodes : ∀ value ∈ values, json (.built ending (id value)) = .ok value := by
    induction values with
    | nil =>
        intro value member
        cases member
    | cons first rest ih =>
        intro value member
        rcases List.mem_cons.mp member with rfl | later
        · exact json_built whole wellFormed.1
        · exact ih wellFormed.2 value later
  have read := list_built whole decodes
  rw [List.map_id] at read
  exact read

theorem natural_built {bits value : Nat} (fits : value < 1 <<< bits) :
    natural bits (.built ending (.nat value)) = .ok value := by
  have bound : (0 : Int) ≤ Int.ofNat value ∧ Int.ofNat value ≤ Int.ofNat (1 <<< bits) - 1 := by
    constructor
    · exact Int.natCast_nonneg value
    · exact Int.le_sub_one_of_lt (Int.ofNat_lt.mpr fits)
  rw [natural, map, Json.nat, Draft.built, integer, if_pos bound]
  rfl

end Decoder

end Resumable.Json
