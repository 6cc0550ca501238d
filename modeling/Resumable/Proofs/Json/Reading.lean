import Mathlib.Data.List.DropRight
import Resumable.Proofs.Json.Built
import Resumable.Proofs.Json.Numeral
import Resumable.Proofs.Json.Text

/-!
The text of a value is read as the draft of that value, wherever it stands. That the digits of a
binary number stand for that number is taken from the number itself: it has to be read back from a
text of its own.
-/

namespace Resumable.Json

mutual

/-- The binary numbers in a value are read back from their text. -/
def RealsReadBack : Json → Prop
  | .number (.real value) =>
      parse (render (.number (.real value))) = .ok (.number (.real value))
  | .array items => RealsReadBackItems items
  | .object members => RealsReadBackMembers members
  | _ => True

def RealsReadBackItems : List Json → Prop
  | [] => True
  | item :: rest => RealsReadBack item ∧ RealsReadBackItems rest

def RealsReadBackMembers : List (String × Json) → Prop
  | [] => True
  | (_, value) :: rest => RealsReadBack value ∧ RealsReadBackMembers rest

end

namespace Reader

theorem dropSpaces_dropSpaces (chars : List Char) :
    dropSpaces (dropSpaces chars) = dropSpaces chars :=
  List.dropWhile_idempotent isSpace chars

theorem value_dropSpaces (fuel : Nat) (chars : List Char) :
    value fuel (dropSpaces chars) = value fuel chars := by
  cases fuel with
  | zero => rfl
  | succ fuel => rw [value, value, dropSpaces_dropSpaces]

theorem items_dropSpaces (fuel : Nat) (chars : List Char) :
    items fuel (dropSpaces chars) = items fuel chars := by
  cases fuel with
  | zero => rfl
  | succ fuel => rw [items, items, value_dropSpaces]

section

variable {fuel : Nat} {chars more after : List Char} {draft : Draft}

/-- A value does not begin with what may stand in its place. -/
theorem starts_of_value (read : value fuel chars = ⟨draft, some after⟩) :
    dropSpaces chars ≠ [] ∧ ∀ rest, dropSpaces chars ≠ ']' :: rest := by
  rw [← value_dropSpaces] at read
  constructor
  · intro empty
    rw [empty] at read
    cases fuel with
    | zero => cases read
    | succ fuel => cases read
  · intro rest bracket
    rw [bracket] at read
    cases fuel with
    | zero => cases read
    | succ fuel => cases read

theorem value_array (filled : dropSpaces chars ≠ [])
    (opens : ∀ rest, dropSpaces chars ≠ ']' :: rest) :
    value (fuel + 1) ('[' :: chars) =
      ⟨.array (items fuel chars).items (items fuel chars).ending, (items fuel chars).after⟩ := by
  have bracket : dropSpaces ('[' :: chars) = '[' :: chars := dropSpaces_cons rfl chars
  simp only [value, bracket, items_dropSpaces]

theorem items_last (read : value fuel chars = ⟨draft, some (']' :: after)⟩) :
    items (fuel + 1) chars = ⟨[draft], .closed, some after⟩ := by
  rw [items, read]
  rfl

theorem items_next (read : value fuel chars = ⟨draft, some (',' :: more)⟩)
    (opens : ∀ rest, dropSpaces more ≠ ']' :: rest) :
    items (fuel + 1) chars =
      ⟨draft :: (items fuel more).items, (items fuel more).ending, (items fuel more).after⟩ := by
  have comma : dropSpaces (',' :: more) = ',' :: more := dropSpaces_cons rfl more
  simp only [items, read, comma, items_dropSpaces]

theorem value_object (quoted : ∃ rest, chars = '"' :: rest) :
    value (fuel + 1) ('\x7b' :: chars) =
      ⟨.object (members fuel .endInObject chars).members
        (members fuel .endInObject chars).ending, (members fuel .endInObject chars).after⟩ := by
  obtain ⟨rest, rfl⟩ := quoted
  rfl

variable {atEnd : Flaw.Cause} {key : String}

theorem members_last (named : text chars = ⟨.ok key, .ok (':' :: more)⟩)
    (read : value fuel more = ⟨draft, some ('\x7d' :: after)⟩) :
    members (fuel + 1) atEnd ('"' :: chars) = ⟨[(key, draft)], .closed, some after⟩ := by
  have colon : dropSpaces (':' :: more) = ':' :: more := dropSpaces_cons rfl more
  have brace : dropSpaces ('\x7d' :: after) = '\x7d' :: after := dropSpaces_cons rfl after
  simp only [members, named, colon, read, brace, Members.cons]

theorem members_next {others : List Char} (named : text chars = ⟨.ok key, .ok (':' :: more)⟩)
    (read : value fuel more = ⟨draft, some (',' :: others)⟩)
    (quoted : ∃ rest, others = '"' :: rest) :
    members (fuel + 1) atEnd ('"' :: chars) =
      ⟨(key, draft) :: (members fuel .endInValue others).members,
        (members fuel .endInValue others).ending, (members fuel .endInValue others).after⟩ := by
  obtain ⟨rest, rfl⟩ := quoted
  have colon : dropSpaces (':' :: more) = ':' :: more := dropSpaces_cons rfl more
  have comma : dropSpaces (',' :: '"' :: rest) = ',' :: '"' :: rest := dropSpaces_cons rfl _
  have quote : dropSpaces ('"' :: rest) = '"' :: rest := dropSpaces_cons rfl rest
  simp only [members, named, colon, read, comma, quote, Members.cons]

end

/-- The items of an array as they stand behind its bracket. -/
def writtenBehind : List Json → List Char
  | [] => [']']
  | first :: rest => written first ++ writtenItems rest

/-- The members of an object as they stand behind its brace. -/
def membersBehind : List (String × Json) → List Char
  | [] => ['\x7d']
  | (key, value) :: rest => writtenText key ++ ':' :: written value ++ writtenMembers rest

theorem membersBehind_quoted (first : String × Json) (others : List (String × Json))
    (rest : List Char) : ∃ more, membersBehind (first :: others) ++ rest = '"' :: more :=
  ⟨_, rfl⟩

theorem delimits_items (others : List Json) (rest : List Char) :
    Delimits (writtenItems others ++ rest) := by
  cases others with
  | nil => exact .cons (.inr (.inl rfl)) rest
  | cons second more => exact .cons (.inl rfl) _

theorem delimits_members (others : List (String × Json)) (rest : List Char) :
    Delimits (writtenMembers others ++ rest) := by
  cases others with
  | nil => exact .cons (.inr (.inr rfl)) rest
  | cons second more => exact .cons (.inl rfl) _

-- The induction is on the value. The fuel is counted in characters: a value in a container takes
-- two steps of it, and there is a mark of the container for each value in it.
mutual

/-- A value is read from its text, and the reader stops behind it. -/
theorem value_written (value : Json) (wellFormed : value.WellFormed) (back : RealsReadBack value)
    {fuel : Nat} (enough : 2 * (written value).length < fuel) {rest : List Char}
    (delimits : Delimits rest) :
    Reader.value fuel (written value ++ rest) = ⟨.built .closed value, some rest⟩ := by
  obtain ⟨fuel, rfl⟩ := Nat.exists_eq_add_one_of_ne_zero (Nat.ne_zero_of_lt enough)
  cases value with
  | null => rfl
  | bool value => cases value <;> rfl
  | number number =>
      cases number with
      | whole whole => exact value_whole wellFormed fuel delimits
      | real real => exact value_real back fuel delimits
  | text value =>
      have read := text_written value rest
      rw [written, writtenText, List.append_assoc, List.cons_append, List.singleton_append]
      change (text _).reading = _
      rw [read]
      rfl
  | array items =>
      cases items with
      | nil => rfl
      | cons first others =>
          obtain ⟨read, filled, opens⟩ := @items_written (first :: others) wellFormed back fuel
            (by simp [written, writtenBehind] at enough ⊢; omega) (by simp) rest
          change Reader.value (fuel + 1) ('[' :: (writtenBehind (first :: others) ++ rest)) = _
          rw [value_array filled opens, read]
          rfl
  | object members =>
      cases members with
      | nil => rfl
      | cons first others =>
          have read := @members_written (first :: others) wellFormed.2 back .endInObject fuel
            (by simp [written, membersBehind] at enough ⊢; omega) (by simp) rest
          change Reader.value (fuel + 1) ('\x7b' :: (membersBehind (first :: others) ++ rest)) = _
          rw [value_object (membersBehind_quoted first others rest), read]
          rfl

/-- So are the items of an array, and they begin like a value. -/
theorem items_written (items : List Json) (wellFormed : WellFormedItems items)
    (back : RealsReadBackItems items) {fuel : Nat}
    (enough : 2 * (writtenBehind items).length < fuel) (filled : items ≠ []) (rest : List Char) :
    Reader.items fuel (writtenBehind items ++ rest) =
        ⟨Draft.builtItems .closed items, .closed, some rest⟩ ∧
      dropSpaces (writtenBehind items ++ rest) ≠ [] ∧
        ∀ more, dropSpaces (writtenBehind items ++ rest) ≠ ']' :: more := by
  obtain ⟨fuel, rfl⟩ := Nat.exists_eq_add_one_of_ne_zero (Nat.ne_zero_of_lt enough)
  cases items with
  | nil => exact absurd rfl filled
  | cons first others =>
      have ends := delimits_items others rest
      have length : (writtenBehind (first :: others)).length =
          (written first).length + (writtenItems others).length := List.length_append
      have some : 0 < (writtenItems others).length := by
        cases others <;> simp [writtenItems]
      have read := @value_written first wellFormed.1 back.1 fuel (by omega) _ ends
      rw [writtenBehind, List.append_assoc]
      refine ⟨?_, starts_of_value read⟩
      cases others with
      | nil => exact items_last read
      | cons second more =>
          have count : (writtenItems (second :: more)).length =
              (writtenBehind (second :: more)).length + 1 := rfl
          obtain ⟨later, -, opens⟩ := @items_written (second :: more) wellFormed.2 back.2 fuel
            (by omega) (by simp) rest
          have next := @items_next fuel _ (writtenBehind (second :: more) ++ rest) _ read opens
          rw [later] at next
          exact next

theorem members_written (members : List (String × Json)) (wellFormed : WellFormedMembers members)
    (back : RealsReadBackMembers members) (atEnd : Flaw.Cause) {fuel : Nat}
    (enough : 2 * (membersBehind members).length < fuel) (filled : members ≠ [])
    (rest : List Char) :
    Reader.members fuel atEnd (membersBehind members ++ rest) =
      ⟨Draft.builtMembers .closed members, .closed, some rest⟩ := by
  obtain ⟨fuel, rfl⟩ := Nat.exists_eq_add_one_of_ne_zero (Nat.ne_zero_of_lt enough)
  cases members with
  | nil => exact absurd rfl filled
  | cons first others =>
      obtain ⟨key, value⟩ := first
      have ends := delimits_members others rest
      have named := text_written key (':' :: (written value ++ (writtenMembers others ++ rest)))
      have length : (membersBehind ((key, value) :: others)).length =
          (writtenText key).length + ((written value).length + 1) +
            (writtenMembers others).length := by
        rw [membersBehind, List.length_append, List.length_append, List.length_cons]
      have some : 0 < (writtenMembers others).length := by
        cases others <;> simp [writtenMembers]
      have read := @value_written value wellFormed.1 back.1 fuel (by omega) _ ends
      rw [membersBehind, writtenText]
      simp only [List.append_assoc, List.cons_append, List.nil_append]
      cases others with
      | nil => exact members_last named read
      | cons second more =>
          have count : (writtenMembers (second :: more)).length =
              (membersBehind (second :: more)).length + 1 := rfl
          have later := @members_written (second :: more) wellFormed.2 back.2 .endInValue fuel
            (by omega) (by simp) rest
          have next := @members_next fuel _ _ _ atEnd key (membersBehind (second :: more) ++ rest)
            named read (membersBehind_quoted second more rest)
          rw [later] at next
          exact next

end

theorem read_written {value : Json} (wellFormed : value.WellFormed) (back : RealsReadBack value) :
    read (written value) = ⟨.built .closed value, some []⟩ := by
  have whole := value_written value wellFormed back (Nat.lt_add_of_pos_right Nat.two_pos) .nil
  rw [List.append_nil] at whole
  exact whole

end Reader

/-- A text that was written can be parsed just when its containers do not lie too deep. -/
theorem parse_render {value : Json} (wellFormed : value.WellFormed) (back : RealsReadBack value) :
    parse (render value) =
      if value.depth ≤ depthLimit then .ok value else .error Draft.tooDeep := by
  rw [parse, render, String.toList_ofList, Reader.read_written wellFormed back]
  by_cases shallow : value.depth ≤ depthLimit
  · simp only [Draft.limited_built value shallow,
      Draft.resolve_built Ending.whole_closed value wellFormed, if_pos shallow]
    rfl
  · simp only [Draft.resolve_limited_of_deep Ending.whole_closed value wellFormed
      (Nat.lt_of_not_le shallow), if_neg shallow]
    rfl

end Resumable.Json
