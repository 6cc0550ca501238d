import Mathlib.Tactic.IntervalCases
import Resumable.Json.Parse
import Resumable.Json.Written

/-!
Texts are read back from their quoted form. What is written for one character is one piece, and the
piece stands for that character, so nothing depends on which characters stand side by side.
-/

namespace Resumable.Json.Reader

theorem pieces_plain {char : Char} (quote : char ≠ '"') (slash : char ≠ '\\')
    (visible : ¬char.toNat < 0x20) (rest : List Char) :
    pieces (char :: rest) = (.plain char :: (pieces rest).1, (pieces rest).2) := by
  rw [pieces]
  · rw [if_neg visible]
  all_goals simp [quote, slash]

theorem pieces_named {escape char : Char} (named : simpleEscape? escape = some char)
    (rest : List Char) :
    pieces ('\\' :: escape :: rest) = (.plain char :: (pieces rest).1, (pieces rest).2) := by
  have other : escape ≠ 'u' := by
    rintro rfl
    cases named
  rw [pieces]
  · rw [named]
  · simp [other]

theorem pieces_unit {first second third fourth : Char} {code : Nat}
    (hex : hexUnit? first second third fourth = some code) (rest : List Char) :
    pieces ('\\' :: 'u' :: first :: second :: third :: fourth :: rest) =
      (.unit code (byteCount rest) :: (pieces rest).1, (pieces rest).2) := by
  rw [pieces, hex]

-- The codes of control characters are no halves of surrogate pairs.
theorem join_unit {code left : Nat} (control : code < 0x20) (rest : List Piece) :
    join none (.unit code left :: rest) = (join none rest).map (Char.ofNat code :: ·) := by
  have low : (decide (0xDC00 ≤ code) && decide (code < 0xE000)) = false := by
    simp only [Bool.and_eq_false_iff, decide_eq_false_iff_not]
    omega
  have high : (decide (0xD800 ≤ code) && decide (code < 0xDC00)) = false := by
    simp only [Bool.and_eq_false_iff, decide_eq_false_iff_not]
    omega
  rw [join.eq_def]
  simp only [low, high, Bool.false_eq_true, if_false]

/-- What is written for a character: a named escape, an escape by number, or itself. -/
theorem escaped_cases (char : Char) :
    (∃ escape, escaped char = ['\\', escape] ∧ simpleEscape? escape = some char) ∨
      (∃ first second third fourth, escaped char = ['\\', 'u', first, second, third, fourth] ∧
        hexUnit? first second third fourth = some char.toNat ∧ char.toNat < 0x20) ∨
      (escaped char = [char] ∧ char ≠ '"' ∧ char ≠ '\\' ∧ ¬char.toNat < 0x20) := by
  by_cases control : char.toNat < 0x20
  · have same : char = Char.ofNat char.toNat := (Char.ofNat_toNat char).symm
    rw [same]
    generalize char.toNat = code at control
    interval_cases code
    all_goals
      first
      | exact .inl ⟨_, rfl, rfl⟩
      | exact .inr (.inl ⟨_, _, _, _, rfl, rfl, by decide⟩)
  · have control_ne (other : Char) (small : other.toNat < 0x20) : char ≠ other := by
      rintro rfl
      exact control small
    by_cases quote : char = '"'
    · subst quote
      exact .inl ⟨_, rfl, rfl⟩
    · by_cases slash : char = '\\'
      · subst slash
        exact .inl ⟨_, rfl, rfl⟩
      · refine .inr (.inr ⟨?_, quote, slash, control⟩)
        have large : ¬char.toNat < 0x10 := by omega
        rw [escaped]
        · rw [if_neg large, if_neg control]
        · exact quote
        · exact slash
        all_goals exact control_ne _ (by decide)

/-- What is written between the quotes is read as the text that it stands for. -/
theorem pieces_escaped (content rest : List Char) :
    ∃ found, pieces (content.flatMap escaped ++ '"' :: rest) = (found, .ok rest) ∧
      join none found = .ok content := by
  induction content with
  | nil => exact ⟨[], by rw [List.flatMap_nil, List.nil_append, pieces], rfl⟩
  | cons char more ih =>
      obtain ⟨found, read, joined⟩ := ih
      rw [List.flatMap_cons, List.append_assoc]
      rcases escaped_cases char with ⟨escape, written, named⟩ |
        ⟨first, second, third, fourth, written, hex, control⟩ | ⟨written, quote, slash, visible⟩
      · refine ⟨.plain char :: found, ?_, ?_⟩
        · rw [written, List.cons_append, List.cons_append, List.nil_append, pieces_named named,
            read]
        · rw [join, joined]
          rfl
      · refine ⟨.unit char.toNat (byteCount (more.flatMap escaped ++ '"' :: rest)) :: found, ?_, ?_⟩
        · simp only [written, List.cons_append, List.nil_append]
          rw [pieces_unit hex, read]
        · rw [join_unit control, joined, Char.ofNat_toNat]
          rfl
      · refine ⟨.plain char :: found, ?_, ?_⟩
        · rw [written, List.cons_append, List.nil_append, pieces_plain quote slash visible, read]
        · rw [join, joined]
          rfl

theorem text_written (value : String) (rest : List Char) :
    text (value.toList.flatMap escaped ++ '"' :: rest) = ⟨.ok value, .ok rest⟩ := by
  obtain ⟨found, read, joined⟩ := pieces_escaped value.toList rest
  rw [text, read]
  simp only [joined]
  rw [Except.map, String.ofList_toList]

end Resumable.Json.Reader
