import Resumable.Proofs.Except
import Resumable.Proofs.Json.Number

/-!
Numbers as they are written. A written number begins with a digit or a minus sign and has no blank
in it, so the reader of values takes it for a number and a text that has nothing else is read to its
end. What its digits stand for is settled for whole numbers; a binary number that is read back from
a text of its own is read back wherever it stands.
-/

namespace Resumable.Json.Reader

theorem dropSpaces_cons {char : Char} (visible : isSpace char = false) (rest : List Char) :
    dropSpaces (char :: rest) = char :: rest := by
  rw [dropSpaces, List.dropWhile_cons_of_neg (by simp [visible])]

theorem not_isSpace_of_isDigit {char : Char} (digit : char.isDigit = true) :
    isSpace char = false := by
  simp only [isSpace, Bool.or_eq_false_iff, beq_eq_false_iff_ne]
  refine ⟨⟨⟨?_, ?_⟩, ?_⟩, ?_⟩ <;> rintro rfl <;> exact absurd digit (by decide)

theorem value_digit {char : Char} (digit : char.isDigit = true) (fuel : Nat) (rest : List Char) :
    value (fuel + 1) (char :: rest) = number false (char :: rest) := by
  rw [value, dropSpaces_cons (not_isSpace_of_isDigit digit)]
  split
  · next empty => cases empty
  all_goals next same =>
    cases same
    first
    | exact absurd digit (by decide)
    | exact if_pos digit

theorem value_minus (fuel : Nat) (rest : List Char) :
    value (fuel + 1) ('-' :: rest) = number true rest := rfl

/-- None of these characters is blank. -/
def Solid (chars : List Char) : Prop := ∀ char ∈ chars, isSpace char = false

theorem Solid.append {left right : List Char} (first : Solid left) (second : Solid right) :
    Solid (left ++ right) :=
  List.forall_mem_append.mpr ⟨first, second⟩

theorem Solid.cons {char : Char} {rest : List Char} (first : isSpace char = false)
    (second : Solid rest) : Solid (char :: rest) :=
  List.forall_mem_cons.mpr ⟨first, second⟩

theorem solid_digitsOf (value : Nat) : Solid (Text.digitsOf value) :=
  fun _ member => not_isSpace_of_isDigit (Text.isDigit_of_mem_digitsOf member)

theorem solid_zeros (count : Nat) : Solid (List.replicate count '0') := by
  intro char member
  rw [List.eq_of_mem_replicate member]
  rfl

theorem dropSpaces_of_solid {chars : List Char} (solid : Solid chars) :
    dropSpaces chars = chars := by
  cases chars with
  | nil => rfl
  | cons char rest => exact dropSpaces_cons (solid char List.mem_cons_self) rest

/-- A digit, and no blank behind it. -/
def Numeral (chars : List Char) : Prop :=
  ∃ first rest, chars = first :: rest ∧ first.isDigit = true ∧ Solid rest

namespace Numeral

variable {chars more : List Char}

theorem solid (numeral : Numeral chars) : Solid chars := by
  obtain ⟨first, rest, rfl, digit, behind⟩ := numeral
  exact .cons (not_isSpace_of_isDigit digit) behind

theorem append (numeral : Numeral chars) (behind : Solid more) : Numeral (chars ++ more) := by
  obtain ⟨first, rest, rfl, digit, solid⟩ := numeral
  exact ⟨first, rest ++ more, rfl, digit, solid.append behind⟩

theorem take (numeral : Numeral chars) {count : Nat} (some : 0 < count) :
    Numeral (chars.take count) := by
  obtain ⟨first, rest, rfl, digit, solid⟩ := numeral
  obtain ⟨more, rfl⟩ := Nat.exists_eq_add_one_of_ne_zero (Nat.ne_of_gt some)
  exact ⟨first, rest.take more, rfl, digit, fun char member =>
    solid char (List.mem_of_mem_take member)⟩

theorem drop (numeral : Numeral chars) (count : Nat) : Solid (chars.drop count) :=
  fun char member => numeral.solid char (List.mem_of_mem_drop member)

theorem value_append (numeral : Numeral chars) (fuel : Nat) (rest : List Char) :
    value (fuel + 1) (chars ++ rest) = number false (chars ++ rest) := by
  obtain ⟨first, more, rfl, digit, -⟩ := numeral
  exact value_digit digit fuel (more ++ rest)

end Numeral

theorem numeral_digitsOf (value : Nat) : Numeral (Text.digitsOf value) := by
  have solid := solid_digitsOf value
  cases same : Text.digitsOf value with
  | nil => exact absurd same (Text.digitsOf_ne_nil value)
  | cons first rest =>
      rw [same] at solid
      exact ⟨first, rest, rfl, Text.isDigit_of_mem_digitsOf (same ▸ List.mem_cons_self),
        fun char member => solid char (List.mem_cons_of_mem first member)⟩

theorem numeral_layout {layout : Decimal.Layout} (mark : isSpace layout.mark = false)
    (decimal : Decimal) : Numeral (layout.text decimal) := by
  have none : Solid [] := List.forall_mem_nil _
  have digits := numeral_digitsOf decimal.digits
  rw [Decimal.Layout.text]
  simp only
  split
  · split
    · exact ⟨'0', _, rfl, rfl, .cons rfl (.cons rfl none)⟩
    · exact ⟨'0', _, rfl, rfl, none⟩
  · split
    · split
      · refine (digits.append (solid_zeros _)).append ?_
        split
        · exact .cons rfl (.cons rfl none)
        · exact none
      · split
        · exact (digits.take (by omega)).append (.cons rfl (digits.drop _))
        · exact ⟨'0', _, rfl, rfl, .cons rfl ((solid_zeros _).append digits.solid)⟩
    · refine (((digits.take Nat.one_pos).append ?_).append (.cons mark ?_)).append
        (solid_digitsOf _)
      · split
        · exact none
        · exact .cons rfl (digits.drop 1)
      · split
        · exact .cons rfl none
        · split
          · exact .cons rfl none
          · exact none

theorem value_writtenReal (real : Binary64.Finite) (fuel : Nat) (rest : List Char) :
    value (fuel + 1) (writtenReal real ++ rest) =
      number real.negative (realLayout.text (Decimal.shortest real) ++ rest) := by
  rw [writtenReal]
  cases real.negative with
  | true => exact value_minus fuel _
  | false => exact (numeral_layout rfl (Decimal.shortest real)).value_append fuel rest

/-- Only a draft of a number is resolved to one. -/
theorem draft_of_resolve {draft : Draft} {levels : Nat} {number : Number}
    (resolved : (draft.limited levels).resolve = .ok (.number number)) :
    draft = .number number := by
  cases draft with
  | number value =>
      simp only [Draft.limited, Draft.resolve, Except.ok.injEq, Json.number.injEq] at resolved
      rw [resolved]
  | array items ending =>
      cases levels with
      | zero => cases resolved
      | succ below =>
          obtain ⟨values, -, resolved⟩ := of_bind resolved
          obtain ⟨whole, -, resolved⟩ := of_bind resolved
          cases resolved
  | object members ending =>
      cases levels with
      | zero => cases resolved
      | succ below =>
          obtain ⟨values, -, resolved⟩ := of_bind resolved
          obtain ⟨whole, -, resolved⟩ := of_bind resolved
          cases resolved
  | _ => simp [Draft.limited, Draft.resolve] at resolved

/-- A binary number is read back wherever it stands, if it is read back from a text of its own. -/
theorem value_real {real : Binary64.Finite}
    (back : parse (render (.number (.real real))) = .ok (.number (.real real))) (fuel : Nat)
    {rest : List Char} (delimits : Delimits rest) :
    value (fuel + 1) (writtenReal real ++ rest) = ⟨.number (.real real), some rest⟩ := by
  have alone := value_writtenReal real (2 * (writtenReal real).length + 1) []
  rw [List.append_nil, List.append_nil] at alone
  have solid : Solid (realLayout.text (Decimal.shortest real)) := (numeral_layout rfl _).solid
  rw [parse, render, written, writtenNumber, String.toList_ofList, read, alone] at back
  obtain ⟨resolved, drafted, back⟩ := of_bind back
  obtain ⟨ended, trailed, back⟩ := of_bind back
  cases back
  obtain ⟨after, found, suffix, goesOn⟩ := number_readsOn _ _ (draft_of_resolve drafted)
  rw [value_writtenReal, goesOn rest delimits]
  have nothing : after = [] := by
    rw [found, trailing, dropSpaces_of_solid fun char member => solid char (suffix.mem member)]
      at trailed
    cases after with
    | nil => rfl
    | cons char more => cases trailed
  rw [nothing, List.nil_append]

/-- A whole number is read back wherever it stands. -/
theorem value_whole {whole : Int} (inRange : (Number.whole whole).InRange) (fuel : Nat)
    {rest : List Char} (delimits : Delimits rest) :
    value (fuel + 1) (writtenInt whole ++ rest) = ⟨.number (.whole whole), some rest⟩ := by
  obtain ⟨least, most⟩ := inRange
  rw [Int.ofNat_eq_natCast] at least most
  rw [writtenInt]
  rcases Int.lt_or_le whole 0 with below | above
  · have same : -Int.ofNat whole.natAbs = whole := by
      rw [Int.ofNat_eq_natCast]
      omega
    rw [if_pos below, List.append_assoc, List.cons_append, value_minus, List.nil_append,
      number_negative (by omega) (by omega) delimits, same]
  · have same : ((whole.natAbs : Nat) : Int) = whole := Int.natAbs_of_nonneg above
    rw [if_neg (Int.not_lt.mpr above), List.nil_append,
      (numeral_digitsOf whole.natAbs).value_append, number_natural (by omega) delimits, same]

end Resumable.Json.Reader
