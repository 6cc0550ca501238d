import Resumable.Proofs.Span.Grammar

/-!
A span read in one pass, a component a round. The pass keeps a place in the table of units and the
seconds so far, and cuts the text by bytes. It comes to the same as `Span.parse`: every cut is
between two characters, every place is in the table, and since each round moves the place on, the
pass is over when there are no more units.
-/

namespace Resumable.Text

/-- The text in front of so many bytes and behind them, if no character lies across the cut. -/
def cut? : Nat → List Char → Option (List Char × List Char)
  | 0, chars => some ([], chars)
  | _ + 1, [] => none
  | bytes + 1, char :: rest =>
      if bytes + 1 < char.utf8Size then none
      else (cut? (bytes + 1 - char.utf8Size) rest).map fun parts => (char :: parts.1, parts.2)

def byteLength : List Char → Nat
  | [] => 0
  | char :: rest => char.utf8Size + byteLength rest

theorem cut?_append (chars rest : List Char) :
    cut? (byteLength chars) (chars ++ rest) = some (chars, rest) := by
  induction chars with
  | nil => cases rest <;> rfl
  | cons char more ih =>
      obtain ⟨size, positive⟩ := Nat.exists_eq_succ_of_ne_zero (Nat.ne_of_gt char.utf8Size_pos)
      have length : byteLength (char :: more) = size + byteLength more + 1 := by
        rw [byteLength, positive]
        omega
      rw [length, List.cons_append, cut?, if_neg (by omega), positive,
        show size + byteLength more + 1 - size.succ = byteLength more by omega, ih]
      rfl

theorem byteLength_digits {digits : List Char} (all : AllDigits digits) :
    byteLength digits = digits.length := by
  induction digits with
  | nil => rfl
  | cons char more ih =>
      have digit := all char List.mem_cons_self
      simp only [Char.isDigit, Bool.and_eq_true, decide_eq_true_eq] at digit
      have most : char.val ≤ 0x7f := UInt32.le_trans digit.2 (by decide)
      have size : char.utf8Size = 1 := Char.utf8Size_eq_one_iff.mpr most
      have rest := ih fun other member => all other (List.mem_cons_of_mem char member)
      rw [byteLength, size, rest, List.length_cons, Nat.add_comm]

theorem byteLength_concat (chars : List Char) (char : Char) :
    byteLength (chars ++ [char]) = byteLength chars + char.utf8Size := by
  induction chars with
  | nil => exact Nat.add_comm ..
  | cons first more ih => rw [List.cons_append, byteLength, ih, byteLength, Nat.add_assoc]

end Resumable.Text

namespace Resumable.Span

structure Cursor where
  /-- Where in the table the search for the next unit begins. -/
  place : Nat
  seconds : Nat
  rest : List Char

inductive Round where
  | onward (cursor : Cursor)
  | refused
  /-- A cut inside of a character, or a place behind the end of the table. -/
  | broken

/-- One component. The number, its seconds and their sum are each kept within 64 bits. -/
def Cursor.round (cursor : Cursor) : Round :=
  let count := (cursor.rest.takeWhile Char.isDigit).length
  if count = 0 then .refused
  else
    match Text.cut? count cursor.rest with
    | none => .broken
    | some (_, []) => .refused
    | some (digits, symbol :: _) =>
        let number := Text.natOfDigits digits
        if maxSeconds < number then .refused
        else if units.length < cursor.place then .broken
        else
          match (units.drop cursor.place).findIdx? (·.1 == symbol) with
          | none => .refused
          | some position =>
              match units[cursor.place + position]? with
              | none => .broken
              | some unit =>
                  let seconds := cursor.seconds + number * unit.2
                  if maxSeconds < number * unit.2 || maxSeconds < seconds then .refused
                  else
                    match Text.cut? (count + symbol.utf8Size) cursor.rest with
                    | none => .broken
                    | some (_, rest) => .onward ⟨cursor.place + position + 1, seconds, rest⟩

inductive Reading where
  | finished (result : Except ParseError Span)
  | broken
  | unfinished

def Cursor.read (text : String) : Nat → Cursor → Reading
  | rounds, cursor =>
      if cursor.rest.isEmpty then .finished (.ok (ofSeconds cursor.seconds))
      else
        match rounds with
        | 0 => .unfinished
        | rounds + 1 =>
            match cursor.round with
            | .onward next => next.read text rounds
            | .refused => .finished (.error ⟨text⟩)
            | .broken => .broken

def readIn (rounds : Nat) (text : String) : Reading :=
  if (compact text).isEmpty then .finished (.error ⟨text⟩)
  else Cursor.read text rounds ⟨0, 0, compact text⟩

/-- What the seconds so far and the total of the rest come to. -/
def settled (text : String) (seconds : Nat) : Option Nat → Except ParseError Span
  | none => .error ⟨text⟩
  | some more =>
      if maxSeconds < seconds + more then .error ⟨text⟩ else .ok (ofSeconds (seconds + more))

theorem settled_map (text : String) (seconds number : Nat) (more : Option Nat) :
    settled text seconds (more.map (number + ·)) = settled text (seconds + number) more := by
  cases more with
  | none => rfl
  | some more => simp only [Option.map_some, settled, Nat.add_assoc]

-- Once the seconds so far do not fit, nothing behind them can mend that.
theorem settled_of_lt (text : String) {seconds : Nat} (much : maxSeconds < seconds)
    (more : Option Nat) : settled text seconds more = .error ⟨text⟩ := by
  cases more with
  | none => rfl
  | some more => exact if_pos (Nat.lt_of_lt_of_le much (Nat.le_add_right seconds more))

variable {table : List (Char × Nat)} {digits rest : List Char} {symbol : Char}

/-- Passing over units is a search for the symbol. -/
theorem totalOfParts_search (table : List (Char × Nat)) (all : Text.AllDigits digits)
    (other : symbol.isDigit = false) (rest : List Char) :
    table.findIdx? (·.1 == symbol) = none ∧
        totalOfParts table (digits ++ symbol :: rest) = none ∨
      ∃ position unit, table.findIdx? (·.1 == symbol) = some position ∧
        table[position]? = some unit ∧
        totalOfParts table (digits ++ symbol :: rest) =
          if digits.isEmpty then none
          else (totalOfParts (table.drop (position + 1)) rest).map
            (Text.natOfDigits digits * unit.2 + ·) := by
  induction table with
  | nil =>
      obtain ⟨first, more, split⟩ : ∃ first more, digits ++ symbol :: rest = first :: more :=
        List.exists_cons_of_ne_nil (by simp)
      exact .inl ⟨rfl, by rw [split]; rfl⟩
  | cons unit later ih =>
      rw [totalOfParts_cons unit later digits symbol rest all other, List.findIdx?_cons]
      by_cases same : symbol = unit.1
      · right
        refine ⟨0, unit, ?_, rfl, ?_⟩
        · simp [same]
        · rw [if_neg (not_ne_iff.mpr same)]
          rfl
      · have passed : (unit.1 == symbol) = false := by simpa using Ne.symm same
        rw [if_pos same, passed]
        rcases ih with ⟨unfound, refused⟩ | ⟨position, next, found, listed, read⟩
        · exact .inl ⟨by simp [unfound], refused⟩
        · exact .inr ⟨position + 1, next, by simp [found], listed, read⟩

theorem units_positive : ∀ unit ∈ units, 0 < unit.2 := by decide

theorem round_of_no_digits {place seconds : Nat} (other : symbol.isDigit = false) :
    Cursor.round ⟨place, seconds, symbol :: rest⟩ = .refused := by
  simp [Cursor.round, other]

theorem round_of_digits {place seconds : Nat} (all : Text.AllDigits digits) (some : digits ≠ []) :
    Cursor.round ⟨place, seconds, digits⟩ = .refused := by
  have taken : digits.takeWhile Char.isDigit = digits := by
    simpa using Text.takeWhile_digits all .nil
  have cut := Text.cut?_append digits []
  rw [List.append_nil, Text.byteLength_digits all] at cut
  have counted : digits.length ≠ 0 := by simpa using some
  simp only [Cursor.round, taken, if_neg counted, cut]

section Component

variable {place seconds position : Nat} {unit : Char × Nat}

theorem cuts (all : Text.AllDigits digits) (symbol : Char) (rest : List Char) :
    Text.cut? digits.length (digits ++ symbol :: rest) = some (digits, symbol :: rest) ∧
      Text.cut? (digits.length + symbol.utf8Size) (digits ++ symbol :: rest) =
        some (digits ++ [symbol], rest) := by
  have before := Text.cut?_append digits (symbol :: rest)
  have behind := Text.cut?_append (digits ++ [symbol]) rest
  rw [Text.byteLength_digits all] at before
  rw [Text.byteLength_concat, Text.byteLength_digits all, List.append_assoc] at behind
  exact ⟨before, behind⟩

theorem round_of_unfound (all : Text.AllDigits digits) (some : digits ≠ [])
    (other : symbol.isDigit = false) (placed : place ≤ units.length)
    (unfound : (units.drop place).findIdx? (·.1 == symbol) = none) :
    Cursor.round ⟨place, seconds, digits ++ symbol :: rest⟩ = .refused := by
  have taken := Text.takeWhile_digits all (Text.EndsDigits.cons other rest)
  have counted : digits.length ≠ 0 := by simpa using some
  simp only [Cursor.round, taken, if_neg counted, (cuts all symbol rest).1, unfound,
    if_neg (Nat.not_lt.mpr placed), ite_self]

-- The number and its seconds are no more than the sum, so that one bound is as good as three.
theorem round_of_found (all : Text.AllDigits digits) (some : digits ≠ [])
    (other : symbol.isDigit = false) (placed : place ≤ units.length)
    (found : (units.drop place).findIdx? (·.1 == symbol) = .some position)
    (listed : units[place + position]? = .some unit) :
    Cursor.round ⟨place, seconds, digits ++ symbol :: rest⟩ =
      if maxSeconds < seconds + Text.natOfDigits digits * unit.2 then .refused
      else .onward ⟨place + position + 1, seconds + Text.natOfDigits digits * unit.2, rest⟩ := by
  have taken := Text.takeWhile_digits all (Text.EndsDigits.cons other rest)
  have counted : digits.length ≠ 0 := by simpa using some
  obtain ⟨before, behind⟩ := cuts all symbol rest
  have positive := units_positive unit (List.mem_of_getElem? listed)
  have scaled := Nat.le_mul_of_pos_right (Text.natOfDigits digits) positive
  simp only [Cursor.round, taken, if_neg counted, before, behind, found, listed,
    if_neg (Nat.not_lt.mpr placed)]
  by_cases much : maxSeconds < seconds + Text.natOfDigits digits * unit.2
  · rw [if_pos much]
    simp [much]
  · rw [if_neg much, if_neg (by omega), if_neg (by simp; omega)]

end Component

/-- What a round comes to: it refuses a text that is refused, or goes on to the next unit of one
that is settled alike. -/
theorem round_cases (text : String) {cursor : Cursor} (placed : cursor.place ≤ units.length)
    (left : cursor.rest ≠ []) :
    cursor.round = .refused ∧
        settled text cursor.seconds (totalOfParts (units.drop cursor.place) cursor.rest) =
          .error ⟨text⟩ ∨
      ∃ next, cursor.round = .onward next ∧ cursor.place < next.place ∧
        next.place ≤ units.length ∧ next.seconds ≤ maxSeconds ∧
        settled text cursor.seconds (totalOfParts (units.drop cursor.place) cursor.rest) =
          settled text next.seconds (totalOfParts (units.drop next.place) next.rest) := by
  obtain ⟨place, seconds, rest⟩ := cursor
  dsimp only at placed left ⊢
  obtain ⟨digits, behind, rfl, all, ends⟩ := Text.exists_digits rest
  cases behind with
  | nil =>
      rw [List.append_nil] at left ⊢
      rw [totalOfParts_digits all left]
      exact .inl ⟨round_of_digits all left, rfl⟩
  | cons symbol more =>
      have other := ends symbol rfl
      have searched := totalOfParts_search (units.drop place) all other more
      by_cases none : digits = []
      · left
        subst none
        refine ⟨round_of_no_digits other, ?_⟩
        rcases searched with ⟨-, read⟩ | ⟨_, _, -, -, read⟩ <;>
        · rw [read]
          rfl
      · rcases searched with ⟨unfound, read⟩ | ⟨position, unit, found, listed, read⟩
        · rw [read]
          exact .inl ⟨round_of_unfound all none other placed unfound, rfl⟩
        · rw [List.getElem?_drop] at listed
          have filled : ¬ digits.isEmpty = true := by simpa using none
          rw [if_neg filled, List.drop_drop, ← Nat.add_assoc] at read
          rw [round_of_found all none other placed found listed, read, settled_map]
          split
          · rename_i much
            exact .inl ⟨rfl, settled_of_lt text much _⟩
          · rename_i fits
            have inside := (List.getElem?_eq_some_iff.mp listed).1
            exact .inr ⟨_, rfl, by dsimp only; omega, inside, Nat.le_of_not_lt fits, rfl⟩

/-- With a round for each unit that is left and one more, the pass is finished, with what the rest
of the text is settled to. -/
theorem read_eq (text : String) (rounds : Nat) {cursor : Cursor}
    (placed : cursor.place ≤ units.length) (enough : units.length < cursor.place + rounds)
    (fits : cursor.seconds ≤ maxSeconds) :
    cursor.read text rounds = .finished
      (settled text cursor.seconds (totalOfParts (units.drop cursor.place) cursor.rest)) := by
  induction rounds generalizing cursor with
  | zero => exact absurd placed (Nat.not_le_of_lt enough)
  | succ rounds ih =>
      rw [Cursor.read]
      by_cases left : cursor.rest = []
      · rw [left, totalOfParts_nil, settled, Nat.add_zero, if_neg (Nat.not_lt.mpr fits)]
        rfl
      · rw [if_neg (by simpa using left)]
        rcases round_cases text placed left with ⟨round, refused⟩ |
          ⟨next, round, on, inside, small, same⟩
        · simp only [round, refused]
        · simp only [round]
          rw [same, ih inside (by omega) small]

/-- One pass of a round for each unit and one more is over and has read the text. -/
theorem readIn_eq (text : String) : readIn (units.length + 1) text = .finished (parse text) := by
  have whole : Cursor.read text (units.length + 1) ⟨0, 0, compact text⟩ =
      .finished (settled text 0 (totalOfParts units (compact text))) :=
    read_eq text _ (Nat.zero_le _) (by simp) (Nat.zero_le _)
  rw [readIn, parse]
  by_cases none : compact text = []
  · rw [none, totalOfParts_nil]
    rfl
  · have some : (compact text).isEmpty = false := by simpa using none
    rw [some, if_neg Bool.false_ne_true, whole]
    cases totalOfParts units (compact text) with
    | none => rfl
    | some total => simp [settled]

/-- A text is read just when it is written by the grammar, as the whole seconds of its components.
Any other text is refused by an error that has the text. One pass, of a round for each unit and one
more, comes to the same: it neither breaks nor goes on. -/
theorem text_is_read_by_grammar (text : String) :
    (∀ span, parse text = .ok span ↔
      ∃ components, Written text components ∧ span = ⟨secondsOf components, 0⟩) ∧
      (parse text = .error ⟨text⟩ ↔ ∀ components, ¬ Written text components) ∧
      readIn (units.length + 1) text = .finished (parse text) := by
  refine ⟨?_, parse_error_iff, readIn_eq text⟩
  intro span
  exact parse_iff

end Resumable.Span
