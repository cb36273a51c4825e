import Mathlib.Algebra.GroupWithZero.Nat
import Periphery.Stream.Filling

/-!
# The timeout of a whole call

`read_all_timeout` builds one `timeval` before its loop, and Linux subtracts
from it the time that each `select` waited.  So the timeout bounds the waits
of the whole call and not each of them: at every wait the `timeval` stands
for what the earlier waits left of the timeout.
-/

namespace Periphery

/-! ## Time -/

/-- The number of microseconds that a `timeval` stands for. -/
def Timeval.micros (timeval : Timeval) : Int :=
  timeval.tv_sec * 1000000 + timeval.tv_usec

/-- A `timeval` whose microseconds are less than a second. -/
def Timeval.Normal (timeval : Timeval) : Prop :=
  0 ≤ timeval.tv_usec ∧ timeval.tv_usec < 1000000

theorem Timeval.micros_ofMilliseconds
    {timeout : Int} (nonneg : 0 ≤ timeout) :
    (Timeval.ofMilliseconds timeout).micros = 1000 * timeout := by
  rw [micros, ofMilliseconds, Int.tdiv_eq_ediv_of_nonneg nonneg,
    Int.tmod_eq_emod_of_nonneg nonneg]
  dsimp only
  omega

theorem Timeval.normal_ofMilliseconds
    {timeout : Int} (nonneg : 0 ≤ timeout) :
    (Timeval.ofMilliseconds timeout).Normal := by
  rw [Normal, ofMilliseconds, Int.tmod_eq_emod_of_nonneg nonneg]
  dsimp only
  omega

/-- The time that a call spent waiting, in microseconds. -/
def ReadEvent.elapsed : ReadEvent → Nat
  | .waited _ elapsed _ _ => elapsed
  | .failed .. => 0
  | .handed .. => 0

/-- The time spent waiting in all. -/
def waitedTime (events : List ReadEvent) : Nat :=
  (events.map ReadEvent.elapsed).sum

@[simp]
theorem waitedTime_nil : waitedTime [] = 0 :=
  rfl

@[simp]
theorem waitedTime_concat
    (events : List ReadEvent) (event : ReadEvent) :
    waitedTime (events ++ [event]) =
      waitedTime events + event.elapsed := by
  simp [waitedTime]

/--
Linux `select` never waits longer than its `timeval`, subtracts from it the
time it waited, and reports a timeout only when nothing is left of it.
-/
def linuxSelect : ReadDevice := fun _ event =>
  match event with
  | .waited given elapsed ret left =>
      elapsed ≤ given.micros ∧
        left.micros = given.micros - elapsed ∧
        (ret = 0 → left.micros = 0)
  | _ => True

/-! ## The invariant -/

/--
The first call is a wait with a normal `timeval`, and every wait is given
what the earlier waits left of the timeout.
-/
def ReadEvent.OnBudget (timeout : Int) (earlier : List ReadEvent) :
    ReadEvent → Prop
  | .waited given _ _ _ =>
      given.micros = 1000 * timeout - waitedTime earlier ∧
        (earlier = [] → given.Normal)
  | .failed .. => earlier ≠ []
  | .handed .. => earlier ≠ []

/-- Every wait was on budget, and so are all of them together. -/
structure KeepsBudget (timeout : Int) (intake : Intake) : Prop where
  every : History.Every (ReadEvent.OnBudget timeout) intake.events
  spent : waitedTime intake.events ≤ 1000 * timeout

/-- The `timeval` of the loop stands for what is left of the timeout. -/
structure Budgets (timeout : Int) (tv : Timeval) (intake : Intake) :
    Prop where
  keeps : KeepsBudget timeout intake
  left : tv.micros = 1000 * timeout - waitedTime intake.events
  fresh : intake.events = [] → tv.Normal

theorem budgets_start
    {timeout : Int} (nonneg : 0 ≤ timeout) (memory : ByteMemory) :
    Budgets timeout (.ofMilliseconds timeout) ⟨memory, []⟩ where
  keeps := ⟨History.every_nil _, by simp [waitedTime]; omega⟩
  left := by simp [Timeval.micros_ofMilliseconds nonneg]
  fresh _ := Timeval.normal_ofMilliseconds nonneg

/-- A wait takes the time it waited off the budget. -/
theorem Budgets.wait
    {timeout : Int} {tv left : Timeval} {intake : Intake}
    {elapsed : Nat} {ret : Int}
    (budgets : Budgets timeout tv intake)
    (linux :
      linuxSelect intake.events (.waited tv elapsed ret left)) :
    Budgets timeout left
      (intake.record (.waited tv elapsed ret left)) := by
  rcases linux with ⟨bounded, subtracted, _⟩
  have remaining := budgets.left
  constructor
  · constructor
    · exact
        History.every_concat budgets.keeps.every
          ⟨remaining, budgets.fresh⟩
    · rw [Intake.record, waitedTime_concat, ReadEvent.elapsed]
      omega
  · rw [Intake.record, waitedTime_concat, ReadEvent.elapsed]
    omega
  · intro empty
    exact absurd empty (Intake.events_record_ne_nil _ _)

/-- A read takes no time off the budget. -/
theorem Budgets.read
    {timeout : Int} {tv : Timeval} {intake : Intake}
    (budgets : Budgets timeout tv intake) (event : ReadEvent)
    (started : event.OnBudget timeout intake.events)
    (instant : event.elapsed = 0) :
    Budgets timeout tv (intake.record event) := by
  constructor
  · constructor
    · exact History.every_concat budgets.keeps.every started
    · rw [Intake.record, waitedTime_concat, instant]
      exact budgets.keeps.spent
  · rw [Intake.record, waitedTime_concat, instant]
    exact budgets.left
  · intro empty
    exact absurd empty (Intake.events_record_ne_nil _ _)

theorem Stream.readAllTimeout_keeps_budget
    (fd : Int) (buffer : MutableBuffer) {timeout : Int}
    (nonneg : 0 ≤ timeout) :
    (readAllTimeout fd buffer timeout).Keeps (readKernel fd linuxSelect)
      (KeepsBudget timeout)
      (fun cursor _ => Budgets timeout cursor.2)
      (fun _ _ _ => True) := by
  rintro ⟨cursor, tv⟩ _ intake budgets
  apply upholds_readAllTimeout budgets.keeps
  · intro _ ret left intake' replied
    rcases replied rfl with ⟨elapsed, linux, rfl⟩
    have waited := budgets.wait linux
    refine ⟨waited.keeps, fun _ => trivial, fun _ => trivial, fun _ => ?_⟩
    intro ret' intake'' replied'
    have begun := intake.events_record_ne_nil (.waited tv elapsed ret left)
    have next : Budgets timeout left intake'' := by
      rcases replied' rfl with ⟨_, _, rfl⟩ | ⟨bytes, _, _, _, rfl⟩
      · exact waited.read (.failed _ _) begun rfl
      · exact waited.read (.handed _ _ bytes) begun rfl
    exact
      ⟨next.keeps, fun _ => trivial,
        fun _ => ⟨fun _ => next, fun _ => trivial⟩⟩
  · intro negative
    exact absurd nonneg negative

/-! ## The bound -/

namespace StreamPort

/--
Throughout a call of `read_all_timeout` with a timeout, every wait is given
exactly what the earlier waits left of the timeout, and the waits together
never exceed it; they add up to it whenever the call returns with fewer bytes
than its buffer holds.
-/
theorem timeout_bounds_call
    (port : StreamPort) (memory : ByteMemory) (buffer : MutableBuffer)
    {timeout : Int} (nonneg : 0 ≤ timeout)
    {point : (port.perform (.readAllTimeout buffer timeout)).Point
      Intake}
    (reaches :
      (port.perform (.readAllTimeout buffer timeout)).Reaches
        (readKernel port.fd linuxSelect) () ⟨memory, []⟩ point) :
    KeepsBudget timeout point.state ∧
      ∀ value, point.outcome = some (.returned value) →
        (receivedBytes point.state.events).length < buffer.size →
          waitedTime point.state.events = 1000 * timeout := by
  have sustains :
      (port.perform (.readAllTimeout buffer timeout)).Sustains
        (readKernel port.fd linuxSelect) (KeepsBudget timeout)
        (fun _ _ _ => True)
        (port.perform (.readAllTimeout buffer timeout)).entry ()
        ⟨memory, []⟩ := by
    rw [port.perform_readAllTimeout]
    exact
      (Stream.readAllTimeout_keeps_budget _ _ nonneg).sustains
        (budgets_start nonneg memory)
  have keeps := (sustains.reaches reaches).now
  refine ⟨keeps, fun value returned short => ?_⟩
  rcases port.readAllTimeout_fills memory buffer timeout reaches with
    ⟨fills, ends⟩
  rcases (ends _ returned).2 short with
    ⟨earlier, given, elapsed, left, last⟩
  have linux := fills.allowed earlier (.waited given elapsed 0 left)
    (last ▸ List.prefix_refl _)
  have budget := keeps.every earlier (.waited given elapsed 0 left)
    (last ▸ List.prefix_refl _)
  rcases linux with ⟨_, subtracted, expired⟩
  have nothing := expired rfl
  have remaining := budget.1
  rw [last, waitedTime_concat, ReadEvent.elapsed]
  omega

end StreamPort

/-! ## A quiet line -/

/-- A buffer of sixteen bytes. -/
def quietBuffer : MutableBuffer := ⟨0, 16, by decide⟩

/-- A wait that times out ends the call. -/
theorem Stream.readAllTimeout_expires
    {fd : Int} {device : ReadDevice} (original cursor : MutableBuffer)
    {timeout : Int} (waits : timeout ≥ 0) {tv left : Timeval}
    {intake : Intake} {elapsed : Nat}
    (may : device intake.events (.waited tv elapsed 0 left)) :
    (readAllTimeout fd original timeout).Advances
      (readKernel fd device)
      ((readAllTimeout fd original timeout).body (cursor, tv)) () intake
      (.done (.inr (bytesStored original cursor))) ()
      (intake.record (.waited tv elapsed 0 left)) := by
  have answered :
      readKernel fd device intake (.select fd tv) ((0 : Int), left)
        (intake.record (.waited tv elapsed 0 left)) :=
    fun _ => ⟨elapsed, may, rfl⟩
  exact
    .of_call ((0 : Int), left)
      (readAllTimeout_body fd original cursor tv waits) answered rfl

/-- On a quiet line, the first wait takes the whole timeout. -/
theorem quiet_reaches :
    ((StreamPort.serial ⟨3⟩).perform
        (.readAllTimeout quietBuffer 25)).Reaches
      (readKernel 3 linuxSelect) () ⟨fun _ => 0, []⟩
      ⟨.done (.inr (Stream.bytesStored quietBuffer quietBuffer)), (),
        Intake.record ⟨fun _ => 0, []⟩
          (.waited ⟨0, 25000⟩ 25000 0 ⟨0, 0⟩)⟩ := by
  have linux : linuxSelect [] (.waited ⟨0, 25000⟩ 25000 0 ⟨0, 0⟩) :=
    ⟨by decide, by decide, fun _ => rfl⟩
  exact
    Routine.Loop.Reaches.start.advances
      (Stream.readAllTimeout_expires quietBuffer quietBuffer
        (by decide) linux)

/-- After 25 milliseconds the call has waited for 25 milliseconds. -/
theorem quiet_waits :
    KeepsBudget 25
        (Intake.record ⟨fun _ => 0, []⟩
          (.waited ⟨0, 25000⟩ 25000 0 ⟨0, 0⟩)) ∧
      (waitedTime [.waited ⟨0, 25000⟩ 25000 0 ⟨0, 0⟩] : Int) =
        1000 * 25 :=
  have bounds :=
    StreamPort.timeout_bounds_call (.serial ⟨3⟩) (fun _ => 0)
      quietBuffer (by decide) quiet_reaches
  ⟨bounds.1, bounds.2 _ rfl (by decide)⟩

end Periphery
