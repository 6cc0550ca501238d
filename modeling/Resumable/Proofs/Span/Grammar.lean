import Mathlib.Algebra.Order.Ring.Nat
import Resumable.Proofs.Digits
import Resumable.Span

/-!
The grammar of written spans. A span is written as components, each a number and the unit behind it,
with the units in the order of their table. The reader takes the table from the front and passes
over the units that are not there; since no symbol is a digit and none stands twice in the table, a
text has at most one reading.
-/

namespace Resumable.Span

/-- Digits, and the symbol and the seconds of the unit behind them. -/
structure Component where
  digits : List Char
  unit : Char × Nat

namespace Component

def chars (component : Component) : List Char := component.digits ++ [component.unit.1]

def seconds (component : Component) : Nat :=
  Text.natOfDigits component.digits * component.unit.2

end Component

def charsOf (components : List Component) : List Char := components.flatMap Component.chars

def secondsOf : List Component → Nat
  | [] => 0
  | component :: components => component.seconds + secondsOf components

/-- Every component has digits and nothing else before its unit, and the units are some of the
table, in its order. -/
structure Ordered (table : List (Char × Nat)) (components : List Component) : Prop where
  units : (components.map Component.unit).Sublist table
  digits : ∀ component ∈ components, component.digits ≠ [] ∧ Text.AllDigits component.digits

/-- The text without its blanks and in lower case is made of these components: at least one, with
days, hours, minutes and seconds in this order, and together no more than 64 bits of seconds. -/
structure Written (text : String) (components : List Component) : Prop where
  some : components ≠ []
  ordered : Ordered [('d', 86400), ('h', 3600), ('m', 60), ('s', 1)] components
  chars : (text.toList.filter fun char => !Text.isBlank char).map Char.toLower = charsOf components
  fits : secondsOf components ≤ 2 ^ 64 - 1

/-- A table whose symbols can be told from one another and from digits. -/
structure Telling (table : List (Char × Nat)) : Prop where
  distinct : (table.map Prod.fst).Nodup
  symbols : ∀ unit ∈ table, unit.1.isDigit = false

theorem telling_units : Telling units where
  distinct := by decide
  symbols := by decide

variable {table later : List (Char × Nat)} {unit : Char × Nat}

theorem Telling.tail (telling : Telling (unit :: later)) : Telling later where
  distinct := (List.nodup_cons.mp telling.distinct).2
  symbols other member := telling.symbols other (List.mem_cons_of_mem unit member)

theorem Telling.head (telling : Telling (unit :: later)) {other : Char × Nat}
    (member : other ∈ later) : other.1 ≠ unit.1 := by
  intro same
  apply (List.nodup_cons.mp telling.distinct).1
  exact same ▸ List.mem_map_of_mem member

namespace Ordered

theorem nil (table : List (Char × Nat)) : Ordered table [] where
  units := List.nil_sublist table
  digits _ member := nomatch member

variable {component : Component} {components : List Component}

theorem skip (ordered : Ordered later components) : Ordered (unit :: later) components where
  units := ordered.units.cons unit
  digits := ordered.digits

theorem cons {digits : List Char} (some : digits ≠ []) (all : Text.AllDigits digits)
    (ordered : Ordered later components) :
    Ordered (unit :: later) (⟨digits, unit⟩ :: components) where
  units := ordered.units.cons_cons unit
  digits := List.forall_mem_cons.mpr ⟨⟨some, all⟩, ordered.digits⟩

theorem head (ordered : Ordered table (component :: components)) :
    component.unit ∈ table ∧ component.digits ≠ [] ∧ Text.AllDigits component.digits :=
  ⟨ordered.units.subset List.mem_cons_self, ordered.digits component List.mem_cons_self⟩

theorem tail (ordered : Ordered (component.unit :: later) (component :: components)) :
    Ordered later components where
  units := List.cons_sublist_cons.mp ordered.units
  digits other member := ordered.digits other (List.mem_cons_of_mem component member)

-- A unit that is not the first of the table is looked for behind it.
theorem of_skip (ordered : Ordered (unit :: later) (component :: components))
    (different : component.unit ≠ unit) : Ordered later (component :: components) where
  units := ordered.units.of_cons_of_ne different
  digits := ordered.digits

end Ordered

theorem charsOf_cons (component : Component) (components : List Component) :
    charsOf (component :: components) =
      component.digits ++ component.unit.1 :: charsOf components := by
  simp [charsOf, Component.chars]

theorem charsOf_ne_nil {components : List Component} (some : components ≠ []) :
    charsOf components ≠ [] := by
  cases components with
  | nil => exact absurd rfl some
  | cons component components => simp [charsOf_cons]

theorem totalOfParts_nil (table : List (Char × Nat)) : totalOfParts table [] = some 0 := by
  cases table <;> rfl

/-- Behind the digits at the front stands a unit of the table, or one that is passed over. -/
theorem totalOfParts_cons (unit : Char × Nat) (later : List (Char × Nat)) (digits : List Char)
    (symbol : Char) (rest : List Char) (all : Text.AllDigits digits)
    (other : symbol.isDigit = false) :
    totalOfParts (unit :: later) (digits ++ symbol :: rest) =
      if symbol ≠ unit.1 then totalOfParts later (digits ++ symbol :: rest)
      else if digits.isEmpty then none
      else (totalOfParts later rest).map (Text.natOfDigits digits * unit.2 + ·) := by
  obtain ⟨first, more, split⟩ : ∃ first more, digits ++ symbol :: rest = first :: more :=
    List.exists_cons_of_ne_nil (by simp)
  have spanned := Text.spanDigits_digits all (Text.EndsDigits.cons other rest)
  rw [split] at spanned ⊢
  simp only [totalOfParts, spanned]

theorem totalOfParts_digits {digits : List Char} (all : Text.AllDigits digits)
    (some : digits ≠ []) : totalOfParts table digits = none := by
  have spanned := Text.spanDigits_digits all .nil
  rw [List.append_nil] at spanned
  cases digits with
  | nil => exact absurd rfl some
  | cons first more =>
      cases table with
      | nil => rfl
      | cons unit later => simp only [totalOfParts, spanned]

/-- Components in order are read, and their seconds added up. -/
theorem totalOfParts_charsOf (telling : Telling table) {components : List Component}
    (ordered : Ordered table components) :
    totalOfParts table (charsOf components) = some (secondsOf components) := by
  induction table generalizing components with
  | nil =>
      have none := List.map_eq_nil_iff.mp (List.sublist_nil.mp ordered.units)
      subst none
      rfl
  | cons unit later ih =>
      cases components with
      | nil => exact totalOfParts_nil (unit :: later)
      | cons component components =>
          obtain ⟨member, some, all⟩ := ordered.head
          have symbol := telling.symbols component.unit member
          rw [charsOf_cons, totalOfParts_cons unit later _ _ _ all symbol]
          by_cases same : component.unit = unit
          · subst same
            rw [if_neg (fun different => different rfl), if_neg (by simpa using some),
              ih telling.tail ordered.tail, secondsOf]
            rfl
          · have behind := ordered.of_skip same
            rw [if_pos (telling.head behind.head.1), ← charsOf_cons]
            exact ih telling.tail behind

/-- What is read is made of components in order. -/
theorem of_totalOfParts {chars : List Char} {total : Nat}
    (read : totalOfParts table chars = some total) :
    ∃ components, Ordered table components ∧ chars = charsOf components ∧
      total = secondsOf components := by
  -- The reader recurs on the table, with what is left of it behind a component or a unit passed
  -- over.
  induction table generalizing chars total with
  | nil =>
      cases chars with
      | nil =>
          cases read
          exact ⟨[], .nil [], rfl, rfl⟩
      | cons => cases read
  | cons unit later ih =>
      obtain ⟨digits, rest, rfl, all, ends⟩ := Text.exists_digits chars
      cases rest with
      | nil =>
          rw [List.append_nil] at read ⊢
          by_cases none : digits = []
          · subst none
            cases read
            exact ⟨[], .nil _, rfl, rfl⟩
          · rw [totalOfParts_digits all none] at read
            cases read
      | cons symbol rest =>
          rw [totalOfParts_cons unit later _ _ _ all (ends symbol rfl)] at read
          split at read
          · obtain ⟨components, ordered, same, sum⟩ := ih read
            exact ⟨components, ordered.skip, same, sum⟩
          · rename_i same
            split at read
            · cases read
            · rename_i some
              obtain ⟨more, readMore, rfl⟩ := Option.map_eq_some_iff.mp read
              obtain ⟨components, ordered, rfl, rfl⟩ := ih readMore
              have matching : symbol = unit.1 := not_ne_iff.mp same
              subst matching
              refine ⟨⟨digits, unit⟩ :: components, ordered.cons (by simpa using some) all, ?_, ?_⟩
              · rw [charsOf_cons]
              · rw [secondsOf, Component.seconds]

/-- A text is read just when it is written by the grammar, as the span of its components. -/
theorem parse_iff {text : String} {span : Span} :
    parse text = .ok span ↔
      ∃ components, Written text components ∧ span = ofSeconds (secondsOf components) := by
  constructor
  · intro read
    rw [parse] at read
    cases total : totalOfParts units (compact text) with
    | none =>
        rw [total] at read
        cases read
    | some seconds =>
        obtain ⟨components, ordered, chars, rfl⟩ := of_totalOfParts total
        simp only [total] at read
        split at read
        · cases read
        · rename_i fits
          cases read
          simp only [Bool.or_eq_true, List.isEmpty_iff, decide_eq_true_eq, not_or,
            Nat.not_lt] at fits
          refine ⟨components, ⟨?_, ordered, chars, fits.2⟩, rfl⟩
          rintro rfl
          exact fits.1 chars
  · rintro ⟨components, written, rfl⟩
    have total := totalOfParts_charsOf telling_units written.ordered
    have some : (charsOf components).isEmpty = false := by
      simpa using charsOf_ne_nil written.some
    have fits : ¬ maxSeconds < secondsOf components := Nat.not_lt.mpr written.fits
    have chars : compact text = charsOf components := written.chars
    simp [parse, chars, total, some, fits]

/-- What is not read is refused, and the error has the text. -/
theorem parse_cases (text : String) :
    (∃ span, parse text = .ok span) ∨ parse text = .error ⟨text⟩ := by
  rw [parse]
  cases totalOfParts units (compact text) with
  | none => exact .inr rfl
  | some total =>
      dsimp only
      split
      · exact .inr rfl
      · exact .inl ⟨_, rfl⟩

theorem parse_error_iff {text : String} :
    parse text = .error ⟨text⟩ ↔ ∀ components, ¬ Written text components := by
  constructor
  · intro refused components written
    rw [parse_iff.mpr ⟨components, written, rfl⟩] at refused
    cases refused
  · intro unwritten
    rcases parse_cases text with ⟨span, read⟩ | refused
    · obtain ⟨components, written, -⟩ := parse_iff.mp read
      exact absurd written (unwritten components)
    · exact refused

end Resumable.Span
