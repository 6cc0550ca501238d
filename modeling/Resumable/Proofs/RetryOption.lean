import Mathlib.Algebra.Order.Ring.Nat
import Resumable.Proofs.Digits
import Resumable.Proofs.RetryPolicy
import Resumable.Proofs.WellFormed

/-!
The grammar of the retry option. Each part of it, a limit, a duration or a type, has its own forms,
and stands for the same value in each of them; the policy is settled by these values, and by the
count in the document. The document has no say in whether the option can be read.
-/

namespace Resumable

theorem Number.natural?_eq_some {number : Number} {value : Nat} :
    number.natural? = some value ↔ number = .whole (Int.ofNat value) := by
  cases number with
  | whole found =>
      rw [natural?, Number.whole.injEq]
      constructor
      · intro read
        split at read
        · cases read
          exact (Int.toNat_of_nonneg ‹_›).symm
        · cases read
      · rintro rfl
        rfl
  | real found =>
      constructor
      · intro read
        cases read
      · intro same
        cases same

namespace RetryPolicy

/-- A limit within 32 bits: a whole number, or its digits, with blanks around them and perhaps a
plus sign before them. -/
inductive LimitWritten : Json → Nat → Prop
  | number {limit : Nat} (fits : limit ≤ 2 ^ 32 - 1) : LimitWritten (.nat limit) limit
  | text {text : String} {digits : List Char}
      (trimmed : Text.trim text.toList = digits ∨ Text.trim text.toList = '+' :: digits)
      (some : digits ≠ []) (all : Text.AllDigits digits)
      (fits : Text.natOfDigits digits ≤ 2 ^ 32 - 1) :
      LimitWritten (.text text) (Text.natOfDigits digits)

/-- A duration, which may be missing: whole seconds within 64 bits, or the text of a span. -/
inductive DurationWritten : Option Json → Option Nat → Prop
  | absent : DurationWritten none none
  | null : DurationWritten (some .null) none
  | number {seconds : Nat} (fits : seconds ≤ 2 ^ 64 - 1) :
      DurationWritten (some (.nat seconds)) (some seconds)
  | text {text : String} {span : Span} (read : Span.parse text = .ok span) :
      DurationWritten (some (.text text)) (some span.seconds)

/-- A type, constant when it is missing: one of two words, blanks around it and capitals aside. -/
inductive TypeWritten : Option Json → IntervalType → Prop
  | absent : TypeWritten none .constant
  | null : TypeWritten (some .null) .constant
  | constant {text : String}
      (word : (Text.trim text.toList).map Char.toLower = "constant".toList) :
      TypeWritten (some (.text text)) .constant
  | exponential {text : String}
      (word : (Text.trim text.toList).map Char.toLower = "exponential".toList) :
      TypeWritten (some (.text text)) .exponential

/-- What an option asks for. -/
structure Terms where
  limit : Nat
  interval : Nat
  maxInterval : Option Nat
  intervalType : IntervalType

def Terms.policy (terms : Terms) (count : Nat) (state : Document) : RetryPolicy :=
  ⟨terms.limit, count, terms.interval, terms.maxInterval, terms.intervalType, state⟩

/-- A limit alone: no interval, no maximum. -/
def Terms.bare (limit : Nat) : Terms := ⟨limit, 0, none, .constant⟩

/-- The options there are. The default counts only where no option is given. -/
inductive OptionWritten (enabledByDefault : Bool) : Option Json → Terms → Prop
  | absent : OptionWritten enabledByDefault none (.bare (if enabledByDefault then 3 else 0))
  | null :
      OptionWritten enabledByDefault (some .null) (.bare (if enabledByDefault then 3 else 0))
  | bare {value : Json} {limit : Nat} (limited : LimitWritten value limit) :
      OptionWritten enabledByDefault (some value) (.bare limit)
  | full {members : Document} {value : Json} {limit : Nat} {interval longest : Option Nat}
      {type : IntervalType} (found : Table.get? "limit" members = some value)
      (limited : LimitWritten value limit)
      (waits : DurationWritten (Table.get? "interval" members) interval)
      (capped : DurationWritten (Table.get? "max_interval" members) longest)
      (typed : TypeWritten (Table.get? "interval_type" members) type) :
      OptionWritten enabledByDefault (some (.object members))
        ⟨limit, interval.getD 0, longest, type⟩

/-- The retries that a document counts: a natural number, cut to 32 bits, or none. -/
inductive Counted : Option Json → Nat → Prop
  | natural (count : Nat) : Counted (some (.nat count)) (min count (2 ^ 32 - 1))
  | other {found : Option Json} (different : ∀ count, found ≠ some (.nat count)) : Counted found 0

theorem counted_countIn (state : Document) :
    Counted (Table.get? "retry_count" state) (countIn state) := by
  rw [countIn]
  cases found : (Table.get? countKey state).bind Json.natural? with
  | none =>
      apply Counted.other
      intro count same
      rw [show Table.get? countKey state = _ from same] at found
      cases found
  | some count =>
      obtain ⟨value, held, read⟩ := Option.bind_eq_some_iff.mp found
      cases value with
      | number number =>
          rw [Number.natural?_eq_some.mp read] at held
          rw [show Table.get? "retry_count" state = _ from held]
          exact .natural count
      | _ => cases read

/-! Limits. -/

theorem unsigned_cases (chars : List Char) :
    chars = unsigned chars ∨ chars = '+' :: unsigned chars := by
  unfold unsigned
  split
  · exact .inr rfl
  · exact .inl rfl

theorem unsigned_digits {digits : List Char} (all : Text.AllDigits digits) :
    unsigned digits = digits := by
  unfold unsigned
  split
  · exact absurd (all '+' List.mem_cons_self) (by decide)
  · rfl

theorem parseCount_iff {text : String} {count : Nat} :
    parseCount text = some count ↔ LimitWritten (.text text) count := by
  rw [parseCount]
  constructor
  · intro read
    simp only [Option.ite_none_left_eq_some, Option.some.injEq] at read
    obtain ⟨fits, rfl⟩ := read
    simp only [Bool.or_eq_true, List.isEmpty_iff, Bool.not_eq_true', decide_eq_true_eq, not_or,
      Nat.not_lt, Bool.not_eq_false] at fits
    obtain ⟨⟨some, all⟩, small⟩ := fits
    exact .text (unsigned_cases _) some (List.all_eq_true.mp all) small
  · intro written
    cases written with
    | @text _ digits trimmed some all fits =>
        have same : unsigned (Text.trim text.toList) = digits := by
          rcases trimmed with plain | plus
          · rw [plain, unsigned_digits all]
          · rw [plus, unsigned]
        have most : ¬ maxLimit < Text.natOfDigits digits := Nat.not_lt.mpr fits
        simp [same, some, List.all_eq_true.mpr all, most]

theorem parseLimit_iff {key : String} {value : Json} {limit : Nat} :
    parseLimit key value = .ok limit ↔ LimitWritten value limit := by
  cases value with
  | number number =>
      rw [parseLimit]
      constructor
      · intro read
        split at read
        · rename_i natural
          split at read
          · cases read
            rw [Number.natural?_eq_some.mp natural]
            exact .number ‹_›
          · cases read
        · cases read
      · rintro ⟨fits⟩
        exact if_pos fits
  | text text =>
      rw [← parseCount_iff, parseLimit]
      cases parseCount text <;> simp
  | _ =>
      constructor
      · intro read
        cases read
      · intro written
        cases written

/-! Durations and types. -/

theorem span_written {members : Document} {key : String}
    (wellFormed : Json.WellFormedMembers members) {span : Option Span}
    (read : Config.span ⟨members⟩ key = .ok span) :
    DurationWritten (Table.get? key members) (span.map Span.seconds) := by
  rw [Config.span, Config.raw] at read
  cases found : Table.get? key members with
  | none =>
      rw [found] at read
      cases read
      exact .absent
  | some value =>
      rw [found] at read
      cases value with
      | null =>
          cases read
          exact .null
      | number number =>
          have inRange := Json.wellFormed_of_get? wellFormed found
          dsimp only at read
          split at read
          · rename_i seconds natural
            cases read
            rw [Number.natural?_eq_some.mp natural] at inRange ⊢
            have below : seconds < 2 ^ 64 := Int.ofNat_lt.mp inRange.2
            exact .number (Nat.le_sub_one_of_lt below)
          · cases read
      | text text =>
          dsimp only at read
          split at read
          · cases read
            exact .text ‹_›
          · cases read
      | _ => cases read

theorem span_of_written {members : Document} {key : String} {seconds : Option Nat}
    (written : DurationWritten (Table.get? key members) seconds) :
    ∃ span, Config.span ⟨members⟩ key = .ok span ∧ span.map Span.seconds = seconds := by
  rw [Config.span, Config.raw]
  generalize Table.get? key members = found at written
  cases written with
  | absent => exact ⟨none, rfl, rfl⟩
  | null => exact ⟨none, rfl, rfl⟩
  | number fits => exact ⟨some (.ofSeconds _), rfl, rfl⟩
  | text read => exact ⟨some _, by simp only [read], rfl⟩

theorem parse_type_iff {text : String} {type : IntervalType} :
    IntervalType.parse text = .ok type ↔ TypeWritten (some (.text text)) type := by
  rw [IntervalType.parse]
  constructor
  · intro read
    split at read
    · rename_i word
      cases read
      exact .constant (by rw [← word, String.toList_ofList])
    · split at read
      · rename_i word
        cases read
        exact .exponential (by rw [← word, String.toList_ofList])
      · cases read
  · intro written
    cases written with
    | constant word =>
        rw [word]
        rfl
    | exponential word =>
        rw [word]
        rfl

theorem typeIn_iff {members : Document} {type : IntervalType} :
    typeIn ⟨members⟩ = .ok type ↔ TypeWritten (Table.get? "interval_type" members) type := by
  cases found : Table.get? "interval_type" members with
  | none =>
      rw [typeIn, Config.getOptional, Config.raw, found]
      constructor
      · rintro ⟨⟩
        exact .absent
      · rintro ⟨⟩
        rfl
  | some value =>
      cases value with
      | null =>
          rw [typeIn, Config.getOptional, Config.raw, found]
          constructor
          · rintro ⟨⟩
            exact .null
          · rintro ⟨⟩
            rfl
      | text text =>
          have read : Config.getOptional ⟨members⟩ .text "interval_type" = .ok (some text) := by
            rw [Config.getOptional, Config.raw, found]
            rfl
          rw [typeIn, read, ok_bind]
          exact parse_type_iff
      | _ =>
          rw [typeIn, Config.getOptional, Config.raw, found]
          constructor
          · intro read
            cases read
          · intro written
            cases written

/-! The option. -/

theorem written_of_prepared {config : Config} (wellFormed : config.params.WellFormed)
    {state : Document} {enabledByDefault : Bool} {policy : RetryPolicy}
    (prepared : Prepared config state enabledByDefault policy) :
    ∃ terms, OptionWritten enabledByDefault (Table.get? "_retry" config.params) terms ∧
      policy = terms.policy (countIn state) state := by
  have members := wellFormed.2
  cases prepared with
  | absent absent =>
      refine ⟨.bare (if enabledByDefault then 3 else 0), ?_, rfl⟩
      rcases absent with option | option
      · rw [show Table.get? "_retry" config.params = _ from option]
        exact .absent
      · rw [show Table.get? "_retry" config.params = _ from option]
        exact .null
  | @bare value limit given form limited =>
      refine ⟨.bare limit, ?_, rfl⟩
      rw [show Table.get? "_retry" config.params = _ from given]
      exact .bare (parseLimit_iff.mp limited)
  | @written params value limit interval longest type given found limited waits capped typed =>
      have inner := (Json.wellFormed_of_get? members given).2
      refine ⟨⟨limit, (interval.map Span.seconds).getD 0, longest.map Span.seconds, type⟩, ?_, rfl⟩
      rw [show Table.get? "_retry" config.params = _ from given]
      exact .full found (parseLimit_iff.mp limited) (span_written inner waits)
        (span_written inner capped) (typeIn_iff.mp typed)

theorem LimitWritten.form {value : Json} {limit : Nat} (limited : LimitWritten value limit) :
    (∃ number, value = .number number) ∨ ∃ text, value = .text text := by
  cases limited with
  | number => exact .inl ⟨_, rfl⟩
  | text => exact .inr ⟨_, rfl⟩

theorem prepared_of_written {config : Config} {enabledByDefault : Bool} {terms : Terms}
    (written : OptionWritten enabledByDefault (Table.get? "_retry" config.params) terms)
    (state : Document) :
    Prepared config state enabledByDefault (terms.policy (countIn state) state) := by
  generalize option : Table.get? "_retry" config.params = found at written
  cases written with
  | absent => exact .absent (.inl option)
  | null => exact .absent (.inr option)
  | bare limited => exact .bare option limited.form (parseLimit_iff.mpr limited)
  | full found limited waits capped typed =>
      obtain ⟨interval, wait, same⟩ := span_of_written waits
      obtain ⟨longest, cap, most⟩ := span_of_written capped
      subst same most
      exact .written option found (parseLimit_iff.mpr limited) wait cap (typeIn_iff.mpr typed)

theorem prepare_of_written {config : Config} {enabledByDefault : Bool} {terms : Terms}
    (written : OptionWritten enabledByDefault (Table.get? "_retry" config.params) terms)
    (state : Document) :
    prepare config state enabledByDefault = .ok (terms.policy (countIn state) state) :=
  prepare_of_prepared (prepared_of_written written state)

theorem full_of_limit (enabledByDefault : Bool) {value : Json} {limit : Nat}
    (limited : LimitWritten value limit) :
    OptionWritten enabledByDefault (some (.object [("limit", value)])) (.bare limit) := by
  have waits : DurationWritten (Table.get? "interval" [("limit", value)]) none := .absent
  have capped : DurationWritten (Table.get? "max_interval" [("limit", value)]) none := .absent
  have typed : TypeWritten (Table.get? "interval_type" [("limit", value)]) .constant := .absent
  exact .full rfl limited waits capped typed

theorem prepare_of_given {config : Config} {value : Json}
    (given : Table.get? "_retry" config.params = some value) (present : value ≠ .null)
    (state : Document) : prepare config state true = prepare config state false := by
  rw [prepare, prepare, show config.raw configKey = _ from given]
  cases value with
  | null => exact absurd rfl present
  | _ => rfl

/-- The retry option is read just when it has one of its forms, whatever the document, and the
policy is the one that is written, with the count of the document. So options that ask for the same
are read alike, a limit alone is as good as an object with nothing but the limit, and the default
does not count where an option is given. -/
theorem option_is_read_by_grammar {config : Config} (wellFormed : config.params.WellFormed)
    (state : Document) (enabledByDefault : Bool) :
    ((∃ policy, prepare config state enabledByDefault = .ok policy) ↔
        ∃ terms, OptionWritten enabledByDefault (Table.get? "_retry" config.params) terms) ∧
      (∃ count, Counted (Table.get? "retry_count" state) count ∧
        ∀ terms, OptionWritten enabledByDefault (Table.get? "_retry" config.params) terms →
          prepare config state enabledByDefault = .ok (terms.policy count state) ∧
            ∀ other : Config,
              OptionWritten enabledByDefault (Table.get? "_retry" other.params) terms →
                prepare other state enabledByDefault = prepare config state enabledByDefault) ∧
      ∀ value, Table.get? "_retry" config.params = some value →
        (∀ limit, LimitWritten value limit → ∀ other : Config,
          Table.get? "_retry" other.params = some (.object [("limit", value)]) →
            prepare other state enabledByDefault = prepare config state enabledByDefault) ∧
        (value ≠ .null → prepare config state true = prepare config state false) := by
  refine ⟨⟨?_, ?_⟩, ⟨countIn state, counted_countIn state, ?_⟩, ?_⟩
  · rintro ⟨policy, ready⟩
    obtain ⟨terms, written, -⟩ := written_of_prepared wellFormed (prepared ready)
    exact ⟨terms, written⟩
  · rintro ⟨terms, written⟩
    exact ⟨_, prepare_of_written written state⟩
  · intro terms written
    have ready := prepare_of_written written state
    refine ⟨ready, ?_⟩
    intro other again
    rw [ready, prepare_of_written again state]
  · intro value given
    refine ⟨?_, fun present => prepare_of_given given present state⟩
    intro limit limited other alone
    have bare : OptionWritten enabledByDefault (some value) (.bare limit) := .bare limited
    have full := full_of_limit enabledByDefault limited
    rw [← given] at bare
    rw [← alone] at full
    rw [prepare_of_written bare state, prepare_of_written full state]

/-- A limit, a duration and a type in texts that need not look like this. -/
def spelledMembers : Document :=
  [("interval", .text "1 M 30 s"), ("interval_type", .text " Exponential"),
    ("limit", .text " +05 "), ("max_interval", .nat 300)]

def spelledOption : Config := ⟨[("_retry", .object spelledMembers)]⟩

theorem wellFormed_spelledOption : spelledOption.params.WellFormed := by
  have ascending : ["interval", "interval_type", "limit", "max_interval"].Pairwise (· < ·) := by
    decide
  have inRange : (Json.nat 300).WellFormed := by
    constructor <;> decide
  have inner : (Json.object spelledMembers).WellFormed :=
    ⟨List.pairwise_map.mp ascending, trivial, trivial, trivial, inRange, trivial⟩
  exact ⟨List.pairwise_singleton _ _, inner, trivial⟩

theorem spelledOption_written : OptionWritten false (Table.get? "_retry" spelledOption.params)
    ⟨5, 90, some 300, .exponential⟩ := by
  have limited : LimitWritten (.text " +05 ") 5 :=
    .text (.inr rfl) (List.cons_ne_nil '0' ['5']) (List.all_eq_true.mp rfl) (by decide)
  have spelled : Span.parse "1 M 30 s" = .ok ⟨90, 0⟩ := rfl
  have waits : DurationWritten (Table.get? "interval" spelledMembers) (some 90) := .text spelled
  have capped : DurationWritten (Table.get? "max_interval" spelledMembers) (some 300) :=
    .number (by decide)
  have typed : TypeWritten (Table.get? "interval_type" spelledMembers) .exponential :=
    .exponential (by decide)
  exact .full rfl limited waits capped typed

theorem spelled_option_is_read :
    spelledOption.params.WellFormed ∧
      OptionWritten false (Table.get? "_retry" spelledOption.params)
        ⟨5, 90, some 300, .exponential⟩ ∧
      prepare spelledOption [("retry_count", .nat 2)] false =
        .ok ⟨5, 2, 90, some 300, .exponential, [("retry_count", .nat 2)]⟩ := by
  obtain ⟨-, ⟨count, counted, read⟩, -⟩ :=
    option_is_read_by_grammar wellFormed_spelledOption [("retry_count", .nat 2)] false
  have two : count = 2 := by
    generalize found : Table.get? "retry_count" [("retry_count", Json.nat 2)] = stored at counted
    cases counted with
    | natural number =>
        cases found
        rfl
    | other different => exact absurd found.symm (different 2)
  subst two
  exact ⟨wellFormed_spelledOption, spelledOption_written, (read _ spelledOption_written).1⟩

end RetryPolicy

end Resumable
