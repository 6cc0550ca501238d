import Resumable.Proofs.Span.Grammar

/-!
The normal form of written spans. Division by the units, the largest first, leaves amounts below the
unit before, and no other amounts have the same sum. So a text in normal form is the only one of its
span, and writing a span gives it.
-/

namespace Resumable.Span

/-- So many of a unit. -/
structure Amount where
  count : Nat
  unit : Char × Nat

namespace Amount

/-- Without leading zeros. -/
def text (amount : Amount) : String :=
  String.ofList (Text.digitsOf amount.count ++ [amount.unit.1])

/-- Less than one of the unit before; there are any number of days. -/
def Reduced (amount : Amount) : Prop :=
  match amount.unit.1 with
  | 'd' => True
  | 'h' => amount.count < 24
  | _ => amount.count < 60

instance (amount : Amount) : Decidable amount.Reduced := by
  unfold Reduced
  split <;> infer_instance

def component (amount : Amount) : Component := ⟨Text.digitsOf amount.count, amount.unit⟩

end Amount

/-- Reduced amounts of some of the units of a table, in its order, and none of them zero. -/
structure Proper (table : List (Char × Nat)) (amounts : List Amount) : Prop where
  units : (amounts.map Amount.unit).Sublist table
  positive : ∀ amount ∈ amounts, 0 < amount.count
  reduced : ∀ amount ∈ amounts, amount.Reduced

/-- The normal forms: proper amounts with single blanks between them, or no seconds. -/
inductive Normal : String → Prop
  | zero : Normal "0s"
  | amounts {amounts : List Amount} (some : amounts ≠ [])
      (proper : Proper [('d', 86400), ('h', 3600), ('m', 60), ('s', 1)] amounts) :
      Normal (" ".intercalate (amounts.map Amount.text))

def sumOf : List Amount → Nat
  | [] => 0
  | amount :: amounts => amount.count * amount.unit.2 + sumOf amounts

/-- The amounts of a number of seconds that are not zero, largest unit first. -/
def amountsIn : List (Char × Nat) → Nat → List Amount
  | [], _ => []
  | unit :: later, total =>
      if total / unit.2 = 0 then amountsIn later (total % unit.2)
      else ⟨total / unit.2, unit⟩ :: amountsIn later (total % unit.2)

theorem parts_eq (table : List (Char × Nat)) (total : Nat) :
    parts table total = (amountsIn table total).map Amount.text := by
  induction table generalizing total with
  | nil => rfl
  | cons unit later ih =>
      rw [parts, amountsIn]
      split
      · exact ih (total % unit.2)
      · rw [List.map_cons, ih]
        rfl

variable {table later : List (Char × Nat)} {unit : Char × Nat} {amount : Amount}
  {amounts : List Amount}

namespace Proper

theorem skip (proper : Proper later amounts) : Proper (unit :: later) amounts where
  units := proper.units.cons unit
  positive := proper.positive
  reduced := proper.reduced

theorem tail (proper : Proper (amount.unit :: later) (amount :: amounts)) :
    Proper later amounts where
  units := List.cons_sublist_cons.mp proper.units
  positive other member := proper.positive other (List.mem_cons_of_mem amount member)
  reduced other member := proper.reduced other (List.mem_cons_of_mem amount member)

theorem of_skip (proper : Proper (unit :: later) (amount :: amounts))
    (different : amount.unit ≠ unit) : Proper later (amount :: amounts) where
  units := proper.units.of_cons_of_ne different
  positive := proper.positive
  reduced := proper.reduced

theorem ordered (proper : Proper table amounts) :
    Ordered table (amounts.map Amount.component) where
  units := by
    rw [List.map_map]
    exact proper.units
  digits := by
    simp only [List.forall_mem_map]
    intro amount _
    exact ⟨Text.digitsOf_ne_nil amount.count, Text.allDigits_digitsOf amount.count⟩

end Proper

theorem secondsOf_components (amounts : List Amount) :
    secondsOf (amounts.map Amount.component) = sumOf amounts := by
  induction amounts with
  | nil => rfl
  | cons amount amounts ih =>
      rw [List.map_cons, secondsOf, ih, sumOf, Component.seconds, Amount.component,
        Text.natOfDigits_digitsOf]

/-! Proper amounts are those that division gives. -/

/-- All sums of proper amounts are below the bound. -/
def Below (table : List (Char × Nat)) (bound : Nat) : Prop :=
  ∀ amounts, Proper table amounts → sumOf amounts < bound

theorem Below.nil : Below [] 1 := by
  intro amounts proper
  have none := List.map_eq_nil_iff.mp (List.sublist_nil.mp proper.units)
  subst none
  exact Nat.zero_lt_one

theorem Below.cons {bound : Nat} (below : Below later unit.2) (larger : unit.2 ≤ bound)
    (room : ∀ count, (Amount.mk count unit).Reduced → (count + 1) * unit.2 ≤ bound) :
    Below (unit :: later) bound := by
  intro amounts proper
  cases amounts with
  | nil => exact Nat.lt_of_lt_of_le (below [] ⟨List.nil_sublist _, nofun, nofun⟩) larger
  | cons amount amounts =>
      by_cases same : amount.unit = unit
      · subst same
        have fits := room amount.count (proper.reduced amount List.mem_cons_self)
        have rest := below amounts proper.tail
        rw [Nat.add_one_mul] at fits
        rw [sumOf]
        omega
      · exact Nat.lt_of_lt_of_le (below _ (proper.of_skip same)) larger

/-- The units behind each unit come to less than one of it. -/
def Nested : List (Char × Nat) → Prop
  | [] => True
  | unit :: later => Below later unit.2 ∧ Nested later

theorem nested_units : Nested units := by
  have seconds : Below [('s', 1)] 60 := by
    apply Below.nil.cons (by decide)
    intro count reduced
    have small : count < 60 := reduced
    dsimp only
    omega
  have minutes : Below [('m', 60), ('s', 1)] 3600 := by
    apply seconds.cons (by decide)
    intro count reduced
    have small : count < 60 := reduced
    dsimp only
    omega
  have hours : Below [('h', 3600), ('m', 60), ('s', 1)] 86400 := by
    apply minutes.cons (by decide)
    intro count reduced
    have small : count < 24 := reduced
    dsimp only
    omega
  exact ⟨hours, minutes, seconds, Below.nil, trivial⟩

theorem amountsIn_zero (table : List (Char × Nat)) : amountsIn table 0 = [] := by
  induction table with
  | nil => rfl
  | cons unit later ih => simp [amountsIn, ih]

theorem amountsIn_sumOf (nested : Nested table) (proper : Proper table amounts) :
    amountsIn table (sumOf amounts) = amounts := by
  -- What is behind a unit comes to less than one of it, and is the remainder of the division.
  induction table generalizing amounts with
  | nil =>
      have none := List.map_eq_nil_iff.mp (List.sublist_nil.mp proper.units)
      subst none
      rfl
  | cons unit later ih =>
      obtain ⟨below, nested⟩ := nested
      cases amounts with
      | nil => exact amountsIn_zero _
      | cons amount amounts =>
          rw [amountsIn]
          by_cases same : amount.unit = unit
          · subst same
            have rest := below amounts proper.tail
            have count : sumOf (amount :: amounts) / amount.unit.2 = amount.count := by
              rw [sumOf, Nat.mul_comm, Nat.mul_add_div (by omega), Nat.div_eq_of_lt rest,
                Nat.add_zero]
            have remainder : sumOf (amount :: amounts) % amount.unit.2 = sumOf amounts := by
              rw [sumOf, Nat.mul_comm, Nat.mul_add_mod, Nat.mod_eq_of_lt rest]
            have positive := proper.positive amount List.mem_cons_self
            rw [count, remainder, if_neg (by omega), ih nested proper.tail]
          · have behind := proper.of_skip same
            have small := below _ behind
            rw [Nat.div_eq_of_lt small, if_pos rfl, Nat.mod_eq_of_lt small, ih nested behind]

theorem sumOf_amountsIn_cons (unit : Char × Nat) (later : List (Char × Nat)) (total : Nat) :
    sumOf (amountsIn (unit :: later) total) =
      total / unit.2 * unit.2 + sumOf (amountsIn later (total % unit.2)) := by
  rw [amountsIn]
  split
  · rename_i none
    rw [none, Nat.zero_mul, Nat.zero_add]
  · rw [sumOf]

/-- Nothing is left behind the seconds. -/
theorem sumOf_amountsIn (total : Nat) : sumOf (amountsIn units total) = total := by
  have none : sumOf (amountsIn [] (total % 86400 % 3600 % 60 % 1)) = 0 := rfl
  simp only [units, sumOf_amountsIn_cons, none]
  omega

theorem Proper.divided {total : Nat} (rest : Proper later (amountsIn later (total % unit.2)))
    (reduced : (Amount.mk (total / unit.2) unit).Reduced) :
    Proper (unit :: later) (amountsIn (unit :: later) total) := by
  rw [amountsIn]
  split
  · exact rest.skip
  · rename_i some
    exact
      { units := rest.units.cons_cons unit
        positive := List.forall_mem_cons.mpr ⟨Nat.pos_of_ne_zero some, rest.positive⟩
        reduced := List.forall_mem_cons.mpr ⟨reduced, rest.reduced⟩ }

theorem proper_amountsIn (total : Nat) : Proper units (amountsIn units total) := by
  have last (total : Nat) : Proper [] (amountsIn [] total) := ⟨.slnil, nofun, nofun⟩
  have hours : total % 86400 / 3600 < 24 := by omega
  have minutes : total % 86400 % 3600 / 60 < 60 := by omega
  have seconds : total % 86400 % 3600 % 60 / 1 < 60 := by omega
  refine .divided (.divided (.divided (.divided (last _) ?_) ?_) ?_) ?_
  · exact seconds
  · exact minutes
  · exact hours
  · exact trivial

/-! The text of amounts. -/

/-- Neither blanks nor capitals. -/
def Compacted (chars : List Char) : Prop :=
  ∀ char ∈ chars, Text.isBlank char = false ∧ char.toLower = char

theorem Compacted.digits {digits : List Char} (all : Text.AllDigits digits) :
    Compacted digits := fun char member =>
  ⟨Text.not_isBlank_of_isDigit (all char member), Text.toLower_of_isDigit (all char member)⟩

theorem compacted_append (first second : List Char) :
    compacted (first ++ second) = compacted first ++ compacted second := by
  simp [compacted]

theorem compacted_eq {chars : List Char} (compact : Compacted chars) :
    compacted chars = chars := by
  induction chars with
  | nil => rfl
  | cons char more ih =>
      obtain ⟨visible, small⟩ := compact char List.mem_cons_self
      have rest := ih fun other member => compact other (List.mem_cons_of_mem char member)
      rw [compacted] at rest ⊢
      simp only [List.filter_cons, visible, Bool.not_false, if_true, List.map_cons, small, rest]

theorem compacted_units : ∀ unit ∈ units, Compacted [unit.1] := by
  have plain : units.all (fun unit => !Text.isBlank unit.1 && unit.1.toLower == unit.1) := rfl
  intro unit listed char member
  rw [List.mem_singleton.mp member]
  simpa using List.all_eq_true.mp plain unit listed

theorem toList_text (amount : Amount) :
    amount.text.toList = amount.component.chars := String.toList_ofList

theorem compacted_text (listed : amount.unit ∈ units) :
    compacted amount.text.toList = amount.component.chars := by
  have count : Compacted amount.component.digits := .digits (Text.allDigits_digitsOf amount.count)
  have symbol : Compacted [amount.component.unit.1] := compacted_units _ listed
  rw [toList_text, Component.chars, compacted_append, compacted_eq count, compacted_eq symbol]

/-- Without the blanks between them, amounts are components. -/
theorem compact_amounts (listed : ∀ amount ∈ amounts, amount.unit ∈ units) :
    compact (" ".intercalate (amounts.map Amount.text)) =
      charsOf (amounts.map Amount.component) := by
  rw [Span.compact, String.toList_intercalate]
  induction amounts with
  | nil => rfl
  | cons amount amounts ih =>
      have first := compacted_text (listed amount List.mem_cons_self)
      have rest := ih fun other member => listed other (List.mem_cons_of_mem amount member)
      cases amounts with
      | nil => simp [first, charsOf]
      | cons next amounts =>
          have blank : compacted " ".toList = [] := by decide
          simp only [List.map_cons, List.intercalate_cons_cons, compacted_append, first, blank,
            List.append_nil] at rest ⊢
          rw [rest]
          simp only [charsOf, List.flatMap_cons]

theorem Proper.compact (proper : Proper Span.units amounts) :
    compact (" ".intercalate (amounts.map Amount.text)) =
      charsOf (amounts.map Amount.component) :=
  compact_amounts fun _ member => proper.units.subset (List.mem_map_of_mem member)

/-- Proper amounts are read as their sum. -/
theorem Proper.written (proper : Proper Span.units amounts) (some : amounts ≠ [])
    (fits : sumOf amounts ≤ maxSeconds) :
    Written (" ".intercalate (amounts.map Amount.text)) (amounts.map Amount.component) where
  some := by simpa using some
  ordered := proper.ordered
  chars := proper.compact
  fits := by
    rw [secondsOf_components]
    exact fits

theorem zero_written : Written "0s" [⟨['0'], ('s', 1)⟩] where
  some := nofun
  ordered := by
    have one : Ordered [] [] := .nil []
    exact (one.cons (List.cons_ne_nil '0' []) (List.all_eq_true.mp rfl)).skip.skip.skip
  chars := by decide
  fits := by decide

-- The components of a text are told from its characters.
theorem secondsOf_eq {first second : List Component} (ordered : Ordered units first)
    (other : Ordered units second) (same : charsOf first = charsOf second) :
    secondsOf first = secondsOf second := by
  have total := totalOfParts_charsOf telling_units ordered
  rw [same, totalOfParts_charsOf telling_units other] at total
  exact (Option.some.inj total).symm

theorem format_of_pos {span : Span} (positive : span.seconds ≠ 0) :
    format span = " ".intercalate ((amountsIn units span.seconds).map Amount.text) := by
  rw [format, if_neg positive, parts_eq]

theorem amountsIn_ne_nil {total : Nat} (positive : total ≠ 0) : amountsIn units total ≠ [] := by
  intro none
  have sum := sumOf_amountsIn total
  rw [none] at sum
  exact positive sum.symm

/-- What is written is read back, without the part of a second. -/
theorem parse_format {span : Span} (fits : span.seconds ≤ maxSeconds) :
    parse (format span) = .ok (ofSeconds span.seconds) := by
  rw [parse_iff]
  by_cases zero : span.seconds = 0
  · rw [format, if_pos zero, zero]
    exact ⟨_, zero_written, rfl⟩
  · have sum := sumOf_amountsIn span.seconds
    have written := (proper_amountsIn span.seconds).written (amountsIn_ne_nil zero)
      (by rw [sum]; exact fits)
    rw [format_of_pos zero]
    exact ⟨_, written, by rw [secondsOf_components, sum]⟩

theorem normal_format (span : Span) : Normal (format span) := by
  by_cases zero : span.seconds = 0
  · rw [format, if_pos zero]
    exact .zero
  · rw [format_of_pos zero]
    exact .amounts (amountsIn_ne_nil zero) (proper_amountsIn span.seconds)

/-- A normal form that is read is the one that is written. -/
theorem Normal.eq_format {text : String} {span : Span} (normal : Normal text)
    (read : parse text = .ok span) : text = format span := by
  obtain ⟨components, written, rfl⟩ := parse_iff.mp read
  cases normal with
  | zero =>
      have sum := secondsOf_eq written.ordered zero_written.ordered
        (written.chars.symm.trans zero_written.chars)
      rw [sum]
      rfl
  | @amounts amounts some proper =>
      have sum := secondsOf_eq written.ordered proper.ordered
        (written.chars.symm.trans proper.compact)
      rw [secondsOf_components] at sum
      have back := amountsIn_sumOf nested_units proper
      have positive : sumOf amounts ≠ 0 := by
        intro zero
        rw [zero, amountsIn_zero] at back
        exact some back.symm
      have form : format (ofSeconds (sumOf amounts)) = _ := format_of_pos positive
      rw [sum, form, ofSeconds, back]

theorem parse_bounds {text : String} {span : Span} (read : parse text = .ok span) :
    span.seconds ≤ maxSeconds ∧ span = ofSeconds span.seconds := by
  obtain ⟨components, written, rfl⟩ := parse_iff.mp read
  exact ⟨written.fits, rfl⟩

/-- Writing and reading spans are inverse to one another, but for the part of a second, which is not
written, and for the many texts of a span, of which the one normal form is written. -/
theorem normal_form_is_read_back :
    (∀ span : Span, span.seconds ≤ 2 ^ 64 - 1 →
      parse (format span) = .ok ⟨span.seconds, 0⟩) ∧
      ∀ text span, parse text = .ok span →
        Normal (format span) ∧
        (∀ other, Normal other → parse other = .ok span → other = format span) ∧
        ∀ other later, parse other = .ok later →
          (span = later ↔ format span = format later) := by
  refine ⟨fun span fits => parse_format fits, ?_⟩
  intro text span read
  refine ⟨normal_format span, fun other normal same => normal.eq_format same, ?_⟩
  intro other later again
  refine ⟨congrArg format, ?_⟩
  intro same
  obtain ⟨fits, whole⟩ := parse_bounds read
  obtain ⟨fitsLater, wholeLater⟩ := parse_bounds again
  have back := parse_format fits
  rw [same, parse_format fitsLater, Except.ok.injEq] at back
  rw [whole, wholeLater, back]

def minuteAndHalf : List Amount := [⟨1, ('m', 60)⟩, ⟨30, ('s', 1)⟩]

theorem normal_minuteAndHalf : Normal "1m 30s" := by
  have proper : Proper units minuteAndHalf := ⟨by decide, by decide, by decide⟩
  exact .amounts (List.cons_ne_nil _ _) proper

/-- The longest span is read back; ninety seconds have two texts here and one normal form. -/
theorem ninety_seconds_have_one_form :
    (2 ^ 64 - 1 ≤ 2 ^ 64 - 1 ∧
        parse (format ⟨2 ^ 64 - 1, 999999999⟩) = .ok ⟨2 ^ 64 - 1, 0⟩) ∧
      parse "90s" = .ok ⟨90, 0⟩ ∧ parse " 1 M 030 S" = .ok ⟨90, 0⟩ ∧
      parse "1m 30s" = .ok ⟨90, 0⟩ ∧ Normal "1m 30s" ∧ "1m 30s" = format ⟨90, 0⟩ ∧
      (Span.mk 90 0 = Span.mk 90 0 ↔ format ⟨90, 0⟩ = format ⟨90, 0⟩) := by
  have short : parse "90s" = .ok ⟨90, 0⟩ := by rfl
  have loose : parse " 1 M 030 S" = .ok ⟨90, 0⟩ := by rfl
  have strict : parse "1m 30s" = .ok ⟨90, 0⟩ := by rfl
  obtain ⟨back, forms⟩ := normal_form_is_read_back
  obtain ⟨-, one, alike⟩ := forms "90s" ⟨90, 0⟩ short
  have longest := back ⟨2 ^ 64 - 1, 999999999⟩ (Nat.le_refl _)
  exact ⟨⟨Nat.le_refl _, longest⟩, short, loose, strict, normal_minuteAndHalf,
    one "1m 30s" normal_minuteAndHalf strict, alike " 1 M 030 S" ⟨90, 0⟩ loose⟩

end Resumable.Span
