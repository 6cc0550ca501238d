import Mathlib.Algebra.Order.Ring.Nat
import Resumable.Clock
import Resumable.Proofs.Time.Instant

/-!
Clocks that are shared through handles, and what they show as they are moved on. All handles of a
clock show the same. The time they show is exact and does not go back up to the last millisecond of
the calendar; behind it every clock shows the epoch, so that the step over the end is the one that
goes back.
-/

namespace Resumable

namespace Instant

/-- What is shown at so many milliseconds from the epoch. -/
def shown (millis : Int) : Instant := (ofMillis? millis).getD epoch

theorem shown_beyond {millis : Int} (beyond : lastMilli < millis) : shown millis = epoch := by
  rw [shown, ofMillis?_beyond beyond, Option.getD_none]

theorem shown_within {millis : Int} (low : firstMilli ≤ millis) (high : millis ≤ lastMilli) :
    (shown millis).Plain ∧ (shown millis).point = millis * 1000000 := by
  obtain ⟨instant, found, plain, exactly⟩ := ofMillis?_within low high
  rw [shown, found, Option.getD_some]
  exact ⟨plain, exactly⟩

/-- Later is not shown as earlier, unless it is behind the calendar and the epoch has been passed
within it. -/
theorem shown_le_iff {earlier later : Int} (low : firstMilli ≤ earlier) (after : earlier ≤ later) :
    (shown earlier).le (shown later) = true ↔
      later ≤ lastMilli ∨ lastMilli < earlier ∨ earlier ≤ 0 := by
  rcases Int.lt_or_le lastMilli earlier with beyond | within
  · rw [shown_beyond beyond, shown_beyond (Int.lt_of_lt_of_le beyond after)]
    exact ⟨fun _ => .inr (.inl beyond), fun _ => le_refl epoch⟩
  · obtain ⟨plain, exactly⟩ := shown_within low within
    rcases Int.lt_or_le lastMilli later with beyond | short
    · rw [shown_beyond beyond, le_iff_point plain plain_epoch, exactly, point_epoch]
      omega
    · obtain ⟨plainLater, exactlyLater⟩ := shown_within (Int.le_trans low after) short
      rw [le_iff_point plain plainLater, exactly, exactlyLater]
      omega

end Instant

/-! Handles. -/

/-- How a clock is started and moved on. -/
structure Movement (Dial : Type) where
  start : Instant → Dial
  advance : Dial → Span → Dial

/-- Clocks, and for each handle the number of the clock that it is of. -/
structure Shared (Dial : Type) where
  dials : List Dial
  handles : List Nat

inductive HandleStep where
  | start (instant : Instant)
  | copy (handle : Nat)
  | advance (handle : Nat) (span : Span)

namespace Shared

variable {Dial Other : Type}

/-- A handle that there is not moves nothing. -/
def step (movement : Movement Dial) (shared : Shared Dial) : HandleStep → Shared Dial
  | .start instant =>
      ⟨shared.dials ++ [movement.start instant], shared.handles ++ [shared.dials.length]⟩
  | .copy handle =>
      match shared.handles[handle]? with
      | some number => { shared with handles := shared.handles ++ [number] }
      | none => shared
  | .advance handle span =>
      match shared.handles[handle]? with
      | some number =>
          { shared with dials := shared.dials.modify number (movement.advance · span) }
      | none => shared

def run (movement : Movement Dial) (steps : List HandleStep) : Shared Dial :=
  steps.foldl (step movement) ⟨[], []⟩

def dial? (shared : Shared Dial) (handle : Nat) : Option Dial :=
  shared.handles[handle]?.bind (shared.dials[·]?)

def map (change : Dial → Other) (shared : Shared Dial) : Shared Other :=
  ⟨shared.dials.map change, shared.handles⟩

def Linked (shared : Shared Dial) : Prop :=
  ∀ number ∈ shared.handles, number < shared.dials.length

variable {movement : Movement Dial} {other : Movement Other} {change : Dial → Other}

theorem step_map (starts : ∀ instant, change (movement.start instant) = other.start instant)
    (advances : ∀ dial span, change (movement.advance dial span) = other.advance (change dial) span)
    (shared : Shared Dial) (next : HandleStep) :
    (shared.map change).step other next = (shared.step movement next).map change := by
  cases next with
  | start instant => simp [step, map, starts]
  | copy handle =>
      simp only [step, map]
      cases shared.handles[handle]? <;> rfl
  | advance handle span =>
      simp only [step, map]
      cases shared.handles[handle]? with
      | none => rfl
      | some number =>
          simp only [mk.injEq, and_true]
          apply List.ext_getElem?
          intro index
          simp only [List.getElem?_modify, List.getElem?_map, Option.map_eq_map, Option.map_map]
          congr 1
          funext dial
          simp only [Function.comp_apply]
          split <;> simp [advances]

/-- A change of dials that goes along with starting and moving them goes along with every run. -/
theorem run_map (starts : ∀ instant, change (movement.start instant) = other.start instant)
    (advances : ∀ dial span, change (movement.advance dial span) = other.advance (change dial) span)
    (steps : List HandleStep) : run other steps = (run movement steps).map change := by
  have from_any (shared : Shared Dial) :
      steps.foldl (step other) (shared.map change) =
        (steps.foldl (step movement) shared).map change := by
    induction steps generalizing shared with
    | nil => rfl
    | cons next rest ih => rw [List.foldl_cons, List.foldl_cons, step_map starts advances, ih]
  exact from_any ⟨[], []⟩

theorem Linked.step {shared : Shared Dial} (linked : shared.Linked) (next : HandleStep) :
    (shared.step movement next).Linked := by
  cases next with
  | start instant =>
      intro number member
      simp only [Shared.step, List.length_append, List.length_singleton]
      rcases List.mem_append.mp member with old | new
      · exact Nat.lt_add_one_of_lt (linked number old)
      · rw [List.mem_singleton.mp new]
        exact Nat.lt_add_one _
  | copy handle =>
      simp only [Shared.step]
      cases found : shared.handles[handle]? with
      | none => exact linked
      | some copied =>
          intro number member
          rcases List.mem_append.mp member with old | new
          · exact linked number old
          · rw [List.mem_singleton.mp new]
            exact linked copied (List.mem_of_getElem? found)
  | advance handle span =>
      simp only [Shared.step]
      cases shared.handles[handle]? with
      | none => exact linked
      | some number =>
          intro other member
          rw [List.length_modify]
          exact linked other member

theorem linked_run (movement : Movement Dial) (steps : List HandleStep) :
    (run movement steps).Linked := by
  have from_any {shared : Shared Dial} (linked : shared.Linked) :
      (steps.foldl (step movement) shared).Linked := by
    induction steps generalizing shared with
    | nil => exact linked
    | cons next rest ih => exact ih (linked.step next)
  exact from_any nofun

theorem run_concat (movement : Movement Dial) (steps : List HandleStep) (last : HandleStep) :
    run movement (steps ++ [last]) = (run movement steps).step movement last :=
  List.foldl_append

variable {shared : Shared Dial} {handle clone number : Nat}

theorem dial?_map (change : Dial → Other) (shared : Shared Dial) (handle : Nat) :
    (shared.map change).dial? handle = (shared.dial? handle).map change := by
  simp only [dial?, map]
  cases shared.handles[handle]? <;> simp

theorem dial?_of_handle (linked : shared.Linked) (named : shared.handles[handle]? = some number) :
    ∃ dial, shared.dials[number]? = some dial ∧
      ∀ clone, shared.handles[clone]? = some number → shared.dial? clone = some dial := by
  have inside := linked number (List.mem_of_getElem? named)
  refine ⟨shared.dials[number], List.getElem?_eq_getElem inside, ?_⟩
  intro clone same
  rw [dial?, same]
  exact List.getElem?_eq_getElem inside

/-- Moving a clock on is seen through all of its handles. -/
theorem dial?_advance (named : shared.handles[handle]? = some number)
    (same : shared.handles[clone]? = some number) (span : Span) :
    (shared.step movement (.advance handle span)).dial? clone =
      (shared.dial? clone).map (movement.advance · span) := by
  simp only [step, named, dial?, same, Option.bind_some, List.getElem?_modify_eq,
    Option.map_eq_map]

theorem dial?_advance_of_ne (named : shared.handles[handle]? = some number)
    (different : shared.handles[clone]? ≠ some number) (span : Span) :
    (shared.step movement (.advance handle span)).dial? clone = shared.dial? clone := by
  simp only [step, named, dial?]
  cases found : shared.handles[clone]? with
  | none => rfl
  | some other =>
      have apart : number ≠ other := by
        rintro rfl
        exact different found
      simp only [Option.bind_some, List.getElem?_modify_ne _ _ apart]

end Shared

def Clock.movement : Movement Clock := ⟨Clock.startingAt, Clock.advance⟩

/-- The instant a clock was started at, and the milliseconds it has been moved on by since, of which
one move makes no more than the longest delay has. -/
structure Course where
  start : Instant
  gone : Nat

namespace Course

def millis (course : Course) : Int := course.start.millis + course.gone

def movement : Movement Course where
  start instant := ⟨instant, 0⟩
  advance course span := { course with gone := course.gone + min span.millis Delay.maxMillis }

/-- A clock counts no further than a delay does. -/
def clock (course : Course) : Clock := ⟨min course.millis Clock.maxMillis⟩

theorem millis_advance (course : Course) (span : Span) :
    (movement.advance course span).millis = course.millis + min span.millis Delay.maxMillis := by
  simp only [millis, movement]
  omega

theorem firstMilli_le (course : Course) : Instant.firstMilli ≤ course.millis := by
  have low := course.start.bounds_millis.1
  rw [millis]
  omega

theorem clock_start (instant : Instant) :
    (movement.start instant).clock = Clock.movement.start instant := by
  have high := instant.bounds_millis.2
  have last : Instant.lastMilli = 8210266876799 * 1000 + 999 := rfl
  have most : Clock.maxMillis = 9223372036854775807 := rfl
  have started : (movement.start instant).millis = instant.millis := by
    simp [movement, millis]
  rw [clock, started, Int.min_eq_left (by omega)]
  rfl

-- A clock that has been cut to its end stays there.
theorem clock_advance (course : Course) (span : Span) :
    (movement.advance course span).clock = Clock.movement.advance course.clock span := by
  have most : Clock.maxMillis = 9223372036854775807 := rfl
  have longest : Delay.maxMillis = 9223372036854775807 := rfl
  simp only [clock, millis_advance, Clock.movement, Clock.advance, Clock.mk.injEq,
    Int.ofNat_eq_natCast, most, longest]
  omega

theorem now_clock (course : Course) : course.clock.now = Instant.shown course.millis := by
  have last : Instant.lastMilli = 8210266876799 * 1000 + 999 := rfl
  have most : Clock.maxMillis = 9223372036854775807 := rfl
  rw [Clock.now, clock]
  change Instant.shown _ = _
  rcases Int.lt_or_le Clock.maxMillis course.millis with beyond | within
  · rw [Instant.shown_beyond (by dsimp only; omega), Instant.shown_beyond (by omega)]
  · dsimp only
    rw [Int.min_eq_left within]

theorem run_clock (steps : List HandleStep) :
    Shared.run Clock.movement steps = (Shared.run movement steps).map clock :=
  Shared.run_map clock_start clock_advance steps

end Course

namespace Shared

def read? (shared : Shared Clock) (handle : Nat) : Option Instant :=
  (shared.dial? handle).map Clock.now

theorem read?_run (steps : List HandleStep) (handle : Nat) :
    (run Clock.movement steps).read? handle =
      ((run Course.movement steps).dial? handle).map fun course => Instant.shown course.millis := by
  rw [read?, Course.run_clock, dial?_map, Option.map_map]
  congr 1
  funext course
  exact course.now_clock

/-- Before and after a clock is moved on through one of its handles, all of them show the same, the
exact time or behind the calendar the epoch, and the handles of other clocks show what they did. The
time goes back just when the move leads out of the calendar from behind the epoch. -/
theorem handles_show_one_time (steps : List HandleStep) {handle number : Nat} (span : Span)
    (named : (run Clock.movement steps).handles[handle]? = some number) :
    ∃ course : Course, (run Course.movement steps).dials[number]? = some course ∧
      (∀ clone, (run Clock.movement steps).handles[clone]? = some number →
        (run Clock.movement steps).read? clone = some (.shown course.millis) ∧
          (run Clock.movement (steps ++ [.advance handle span])).read? clone =
            some (.shown (course.millis + min span.millis Delay.maxMillis))) ∧
      (∀ other, (run Clock.movement steps).handles[other]? ≠ some number →
        (run Clock.movement (steps ++ [.advance handle span])).read? other =
          (run Clock.movement steps).read? other) ∧
      ((Instant.shown course.millis).le
          (.shown (course.millis + min span.millis Delay.maxMillis)) = true ↔
        course.millis + min span.millis Delay.maxMillis ≤ Instant.lastMilli ∨
          Instant.lastMilli < course.millis ∨ course.millis ≤ 0) := by
  have handles : (run Clock.movement steps).handles = (run Course.movement steps).handles := by
    rw [Course.run_clock, map]
  rw [handles] at named ⊢
  obtain ⟨course, found, reads⟩ := dial?_of_handle (linked_run Course.movement steps) named
  refine ⟨course, found, ?_, ?_, ?_⟩
  · intro clone same
    rw [read?_run, read?_run, run_concat, dial?_advance named same, reads clone same]
    refine ⟨rfl, ?_⟩
    rw [Option.map_some, Option.map_some, Course.millis_advance]
  · intro other different
    rw [read?_run, read?_run, run_concat, dial?_advance_of_ne named different]
  · exact Instant.shown_le_iff course.firstMilli_le (by omega)

def early : Instant := ⟨1000, 0, by decide⟩

def tenLater : Instant := ⟨1010, 0, by decide⟩

/-- The longest move leads out of the calendar, and the clock goes back to the epoch. -/
theorem longest_move_goes_back :
    (run Clock.movement [.start early, .copy 0]).read? 0 = some early ∧
      (run Clock.movement [.start early, .copy 0, .advance 1 ⟨2 ^ 64 - 1, 999999999⟩]).read? 0 =
        some .epoch ∧
      early.le .epoch = false := by
  refine ⟨rfl, rfl, ?_⟩
  decide

/-- Two clocks, the first of them with a copy, through which it is moved. -/
def twoClocks : List HandleStep := [.start early, .start early, .copy 0]

theorem copy_moves_its_clock :
    (run Clock.movement twoClocks).handles[2]? = some 0 ∧
      (run Clock.movement (twoClocks ++ [.advance 2 (.ofSeconds 10)])).read? 0 = some tenLater ∧
      (run Clock.movement (twoClocks ++ [.advance 2 (.ofSeconds 10)])).read? 2 = some tenLater ∧
      (run Clock.movement (twoClocks ++ [.advance 2 (.ofSeconds 10)])).read? 1 = some early ∧
      early.le tenLater = true := by
  have named : (run Clock.movement twoClocks).handles[2]? = some 0 := rfl
  obtain ⟨course, found, alike, apart, forward⟩ :=
    handles_show_one_time twoClocks (.ofSeconds 10) named
  cases found
  have first := (alike 0 rfl).2
  have copied := (alike 2 rfl).2
  have second := apart 1 (by decide)
  exact ⟨named, first, copied, second, forward.mpr (.inl (by decide))⟩

end Shared

end Resumable
