import Periphery.Routine.Simulation
import Periphery.Stream.Filling
import Periphery.Stream.HangUp

/-!
# `read_all_timeout` without a timeout

With a negative timeout `read_all_timeout` does not wait, and what is left of
it is a loop around `read`, as `read_all` is.  The one tests its buffer
before each read and the other behind it, and the one narrows the count of
each read to an `int`; on a buffer that is not empty and with the limit of
Linux neither can be seen from outside.
-/

namespace Periphery

/-! ## Answers -/

/-- The answers to `read`, one after the other: an error, or some bytes. -/
abbrev ReadAnswers := Nat → Option (List Byte)

namespace ReadAnswers

/--
The device with these answers.  A read hands out what is there, up to the
count asked for and to the limit of Linux.
-/
def device (answers : ReadAnswers) : ReadDevice :=
  fun earlier event =>
    match event with
    | .waited .. => True
    | .failed .. => answers (readCount earlier) = none
    | .handed _ count bytes =>
        ∃ there, answers (readCount earlier) = some there ∧
          bytes = there.take (min count maxRead)

theorem device_limited (answers : ReadAnswers) :
    answers.device.Limited := by
  rintro earlier data count bytes ⟨there, _, rfl⟩
  rw [List.length_take]
  omega

theorem device_total (answers : ReadAnswers) (fd : Int) :
    (readKernel fd answers.device).Total := by
  apply readKernel_total
  · exact fun _ given => ⟨0, 0, given, trivial⟩
  · intro earlier data count
    cases read : answers (readCount earlier) with
    | none => exact .inl read
    | some there =>
        refine .inr ⟨there.take (min count maxRead), ?_, there, read, rfl⟩
        rw [List.length_take]
        omega

end ReadAnswers

/-! ## The simulations -/

/-- Both calls returned, or both threw the same. -/
def EndAlike :
    Outcome Exception Unit → Outcome Exception Int → Prop
  | .returned _, .returned _ => True
  | .threw error, .threw error' => error = error'
  | _, _ => False

namespace Stream

/--
The points at which the two calls stand together.  When the buffer is full
`read_all` has still to go round.
-/
inductive Mirrors (fd : Int) (buffer : MutableBuffer) (timeout : Int) :
    (readAll fd buffer).Point Intake →
    (readAllTimeout fd buffer timeout).Point Intake → Prop where
  | round {cursor : MutableBuffer} {tv : Timeval} {intake : Intake}
      (remains : cursor.size > 0) :
      Mirrors fd buffer timeout
        ⟨(readAll fd buffer).body cursor, (), intake⟩
        ⟨(readAllTimeout fd buffer timeout).body (cursor, tv), (),
          intake⟩
  | onward {cursor : MutableBuffer} {tv : Timeval} {intake : Intake}
      (remains : cursor.size > 0) :
      Mirrors fd buffer timeout ⟨.done (.inl cursor), (), intake⟩
        ⟨.done (.inl (cursor, tv)), (), intake⟩
  | full {cursor : MutableBuffer} {value : Int} {intake : Intake}
      (empty : ¬ cursor.size > 0) :
      Mirrors fd buffer timeout ⟨.done (.inl cursor), (), intake⟩
        ⟨.done (.inr value), (), intake⟩
  | returned {value : Int} {intake : Intake} :
      Mirrors fd buffer timeout ⟨.done (.inr ()), (), intake⟩
        ⟨.done (.inr value), (), intake⟩
  | threw {error : Exception} {intake : Intake} :
      Mirrors fd buffer timeout ⟨.raise error, (), intake⟩
        ⟨.raise error, (), intake⟩

section Simulations

variable
    {fd : Int} {device : ReadDevice} {buffer cursor : MutableBuffer}
    {timeout : Int} {tv : Timeval} {intake intake' : Intake} {ret : Int}

/-- The count of a read is not changed by its conversion to `int`. -/
theorem toInt_of_answered
    (narrow : device.Narrow)
    (answered :
      readKernel fd device intake (.read fd cursor.data cursor.size)
        ret intake')
    (nonneg : ¬ ret < 0) :
    toInt ret = ret := by
  rcases answered rfl with
    ⟨failed, _⟩ | ⟨bytes, _, rfl, may, _⟩
  · exact absurd failed nonneg
  · have small := narrow _ _ _ _ may
    exact toInt_of_bounded (by omega) (by omega)

/-- The same answer to a read leads both calls to points that match. -/
theorem Mirrors.answered
    (narrow : device.Narrow)
    (answered :
      readKernel fd device intake (.read fd cursor.data cursor.size)
        ret intake') :
    Mirrors fd buffer timeout
      ⟨if ret < 0 then .raise badAddress
        else .done (.inl (cursor.advance (toSizeT (toInt ret)))),
        (), intake'⟩
      ⟨if ret < 0 then .raise badAddress
        else if (cursor.advance (toSizeT ret)).size > 0 then
          .done (.inl (cursor.advance (toSizeT ret), tv))
        else
          .done
            (.inr
              (bytesStored buffer (cursor.advance (toSizeT ret)))),
        (), intake'⟩ := by
  by_cases failed : ret < 0
  · rw [if_pos failed, if_pos failed]
    exact .threw
  · rw [if_neg failed, if_neg failed,
      toInt_of_answered narrow answered failed]
    by_cases remains : (cursor.advance (toSizeT ret)).size > 0
    · rw [if_pos remains]
      exact .onward remains
    · rw [if_neg remains]
      exact .full remains

/-- `read_all` ends at the head of its loop when its buffer is full. -/
theorem readAll_body_of_empty (empty : ¬ cursor.size > 0) :
    (readAll fd buffer).body cursor = .done (.inr ()) :=
  Routine.Loop.whileDo_body_of_false (decide_eq_false empty)

/-- `read_all_timeout` follows `read_all`, and waits when that goes round. -/
theorem readAllTimeout_simulates
    (fd : Int) (buffer : MutableBuffer) (narrow : device.Narrow)
    (negative : ¬ timeout ≥ 0) :
    Routine.Loop.Simulates (readKernel fd device) (readAll fd buffer)
      (readAllTimeout fd buffer timeout) (Mirrors fd buffer timeout)
      EndAlike
      (fun point =>
        match point.rest with
        | .done (.inl _) => 1
        | _ => 0) where
  state := by
    rintro _ _ mirrors
    cases mirrors <;> rfl
  step := by
    intro point point' next mirrors step
    cases mirrors with
    | @round cursor tv intake remains =>
        rcases next with ⟨rest, fields, intake'⟩
        rw [readAllTimeout_body_of_negative fd buffer cursor tv negative]
        rw [readAll_body fd buffer remains] at step
        cases step with
        | call answered =>
            exact
              .inl
                ⟨_, .single (Routine.Loop.Advances.call answered).steps,
                  .answered narrow answered⟩
    | onward remains =>
        rw [step.goes_around]
        exact
          .inl
            ⟨_, .single Routine.Loop.Advances.around.steps,
              .round remains⟩
    | full empty =>
        rw [step.goes_around, readAll_body_of_empty empty]
        exact .inr ⟨.returned, Nat.zero_lt_one⟩
    | returned => cases step
    | threw => cases step
  outcome := by
    intro point point' outcome mirrors ended
    cases mirrors with
    | round remains =>
        rw [readAll_body fd buffer remains] at ended
        cases ended
    | onward remains => cases ended
    | full empty => cases ended
    | returned =>
        cases ended
        exact ⟨_, _, .refl, rfl, rfl, trivial⟩
    | threw =>
        cases ended
        exact ⟨_, _, .refl, rfl, rfl, rfl⟩

/-- `read_all` follows `read_all_timeout`, and goes round at the end. -/
theorem readAll_simulates
    (fd : Int) (buffer : MutableBuffer) (narrow : device.Narrow)
    (negative : ¬ timeout ≥ 0) :
    Routine.Loop.Simulates (readKernel fd device)
      (readAllTimeout fd buffer timeout) (readAll fd buffer)
      (fun point point' => Mirrors fd buffer timeout point' point)
      (fun outcome outcome' => EndAlike outcome' outcome)
      (fun _ => 0) where
  state := by
    rintro _ _ mirrors
    cases mirrors <;> rfl
  step := by
    intro point point' next mirrors step
    cases mirrors with
    | @round cursor tv intake remains =>
        rcases next with ⟨rest, fields, intake'⟩
        rw [readAll_body fd buffer remains]
        rw [readAllTimeout_body_of_negative fd buffer cursor tv negative]
          at step
        cases step with
        | call answered =>
            exact
              .inl
                ⟨_, .single (Routine.Loop.Advances.call answered).steps,
                  .answered narrow answered⟩
    | onward remains =>
        rw [step.goes_around]
        exact
          .inl
            ⟨_, .single Routine.Loop.Advances.around.steps,
              .round remains⟩
    | full empty => cases step
    | returned => cases step
    | threw => cases step
  outcome := by
    intro point point' outcome mirrors ended
    cases mirrors with
    | @round cursor tv intake remains =>
        rw [readAllTimeout_body_of_negative fd buffer cursor tv negative]
          at ended
        cases ended
    | onward remains => cases ended
    | full empty =>
        cases ended
        refine
          ⟨_, .returned (), .single Routine.Loop.Advances.around.steps,
            rfl, ?_, trivial⟩
        rw [readAll_body_of_empty empty]
        rfl
    | returned =>
        cases ended
        exact ⟨_, _, .refl, rfl, rfl, trivial⟩
    | threw =>
        cases ended
        exact ⟨_, _, .refl, rfl, rfl, rfl⟩

end Simulations

/-! ### Empty buffers -/

/-- What a call of `read_all_timeout` does with its one empty read. -/
def ReadsNothing (answers : ReadAnswers) (memory : ByteMemory)
    (buffer : MutableBuffer) :
    Outcome Exception Int → Unit → Intake → Prop
  | .returned value, _, intake =>
      value = 0 ∧ answers 0 ≠ none ∧
        intake = ⟨memory, [.handed buffer.data 0 []]⟩
  | .threw _, _, intake =>
      answers 0 = none ∧ intake = ⟨memory, [.failed buffer.data 0]⟩

theorem readAllTimeout_reads_nothing
    (fd : Int) (memory : ByteMemory) {buffer : MutableBuffer}
    (empty : buffer.size = 0) {timeout : Int} (negative : ¬ timeout ≥ 0)
    (answers : ReadAnswers) :
    (readAllTimeout fd buffer timeout).Ends
      (readKernel fd answers.device)
      (ReadsNothing answers memory buffer)
      ⟨(readAllTimeout fd buffer timeout).entry, (), ⟨memory, []⟩⟩ := by
  have entry :
      (readAllTimeout fd buffer timeout).entry =
        readRound fd buffer buffer (.ofMilliseconds timeout) :=
    readAllTimeout_body_of_negative fd buffer buffer _ negative
  apply Routine.Loop.Ends.of_ensures (answers.device_total fd)
  rw [entry]
  apply Routine.Upholds.ensures
  apply @upholds_readRound Intake _ (fun _ => True) _ _ _ _ _ _ trivial
  intro ret intake' replied
  rcases replied rfl with
    ⟨failed, refused, rfl⟩ | ⟨bytes, most, rfl, ⟨there, read, _⟩, rfl⟩
  · refine ⟨trivial, fun _ => ?_, fun nonneg => absurd failed nonneg⟩
    rw [empty]
    exact ⟨refused, rfl⟩
  · rw [empty, Nat.le_zero, List.length_eq_zero_iff] at most
    subst most
    have rest :
        buffer.advance (toSizeT ([] : List Byte).length) = buffer :=
      buffer.advance_zero
    have full : ¬ buffer.size > 0 := by omega
    rw [rest]
    refine ⟨trivial, fun failed => absurd failed (Int.lt_irrefl 0), ?_⟩
    refine fun _ => ⟨fun more => absurd more full, fun _ => ?_⟩
    rw [empty]
    refine ⟨?_, Option.ne_none_iff_exists'.mpr ⟨there, read⟩, ?_⟩
    · rw [bytesStored, Int.sub_self]
      rfl
    · rw [Intake.record, ReadEvent.store, ByteMemory.overwrite_nil]
      rfl

theorem readAll_reads_nothing
    (fd : Int) (memory : ByteMemory) {buffer : MutableBuffer}
    (empty : buffer.size = 0) (answers : ReadAnswers) :
    (readAll fd buffer).Ends (readKernel fd answers.device)
      (fun outcome _ intake =>
        outcome = .returned () ∧ intake = ⟨memory, []⟩)
      ⟨(readAll fd buffer).entry, (), ⟨memory, []⟩⟩ := by
  apply Routine.Loop.Ends.of_ensures (answers.device_total fd)
  have nothing : ¬ buffer.size > 0 := by omega
  have ended : (readAll fd buffer).entry = .done (.inr ()) :=
    readAll_body_of_empty nothing
  rw [ended]
  exact ⟨rfl, rfl⟩

end Stream

/-! ## Both classes -/

/--
Two calls that the kernel and the memory cannot tell apart: they make the
same system calls with the same answers and store the same, up to the moment
when both return or both throw, or for ever; and one of the three happens.
-/
structure RunAlike (kernel : Kernel posix Intake)
    (first : ConstLoop Unit) (second : ConstLoop Int)
    (intake : Intake) : Prop where
  visits : ∀ visited,
    first.Visits kernel () intake visited ↔
      second.Visits kernel () intake visited
  returns : ∀ last,
    first.Leaves kernel () intake (.returned ()) last ↔
      ∃ value, second.Leaves kernel () intake (.returned value) last
  throws : ∀ error last,
    first.Leaves kernel () intake (.threw error) last ↔
      second.Leaves kernel () intake (.threw error) last
  forever :
    first.Forever kernel ⟨first.entry, (), intake⟩ ↔
      second.Forever kernel ⟨second.entry, (), intake⟩
  settles :
    (∃ last, first.Leaves kernel () intake (.returned ()) last) ∨
      (∃ error last,
        first.Leaves kernel () intake (.threw error) last) ∨
      first.Forever kernel ⟨first.entry, (), intake⟩

theorem Stream.readAll_runs_alike
    (fd : Int) (memory : ByteMemory) {buffer : MutableBuffer}
    (remains : buffer.size > 0) {timeout : Int}
    (negative : ¬ timeout ≥ 0) (answers : ReadAnswers) :
    RunAlike (readKernel fd answers.device) (readAll fd buffer)
      (readAllTimeout fd buffer timeout) ⟨memory, []⟩ := by
  have narrow := answers.device_limited.narrow
  have onward := readAllTimeout_simulates fd buffer narrow negative
  have back := readAll_simulates fd buffer narrow negative
  have start :
      Mirrors fd buffer timeout
        ⟨(readAll fd buffer).entry, (), ⟨memory, []⟩⟩
        ⟨(readAllTimeout fd buffer timeout).entry, (), ⟨memory, []⟩⟩ :=
    .round remains
  constructor
  · exact fun _ => ⟨onward.visits start, back.visits start⟩
  · refine fun last => ⟨fun left => ?_, ?_⟩
    · rcases onward.leaves start left with ⟨value | _, alike, left'⟩
      · exact ⟨value, left'⟩
      · cases alike
    · rintro ⟨value, left⟩
      rcases back.leaves start left with ⟨⟨⟩ | _, alike, left'⟩
      · exact left'
      · cases alike
  · refine fun error last => ⟨fun left => ?_, fun left => ?_⟩
    · rcases onward.leaves start left with ⟨_ | error', alike, left'⟩
      · cases alike
      · cases alike
        exact left'
    · rcases back.leaves start left with ⟨_ | error', alike, left'⟩
      · cases alike
      · cases alike
        exact left'
  · exact ⟨onward.forever start, back.forever start⟩
  · rcases Routine.Loop.leaves_or_forever (answers.device_total fd)
        (readAll fd buffer) () ⟨memory, []⟩ with
      ⟨⟨⟩ | error, last, left⟩ | forever
    · exact .inl ⟨last, left⟩
    · exact .inr (.inl ⟨error, last, left⟩)
    · exact .inr (.inr forever)

/--
With a negative timeout and with the limit of Linux, for every sequence of
answers to `read`: on a buffer that is not empty `read_all` and
`read_all_timeout` run alike.  On an empty one `read_all` returns without a
system call, and `read_all_timeout` after one read of nothing, unless that
fails; neither stores anything.
-/
theorem StreamPort.untimed_reads_agree
    (port : StreamPort) (memory : ByteMemory) (buffer : MutableBuffer)
    {timeout : Int} (negative : timeout < 0) (answers : ReadAnswers) :
    (0 < buffer.size →
      RunAlike (readKernel port.fd answers.device)
        (port.perform (.readAll buffer))
        (port.perform (.readAllTimeout buffer timeout))
        ⟨memory, []⟩) ∧
    (buffer.size = 0 →
      (port.perform (.readAll buffer)).Ends
          (readKernel port.fd answers.device)
          (fun outcome _ intake =>
            outcome = .returned () ∧ intake = ⟨memory, []⟩)
          ⟨(port.perform (.readAll buffer)).entry, (), ⟨memory, []⟩⟩ ∧
        (port.perform (.readAllTimeout buffer timeout)).Ends
          (readKernel port.fd answers.device)
          (Stream.ReadsNothing answers memory buffer)
          ⟨(port.perform (.readAllTimeout buffer timeout)).entry, (),
            ⟨memory, []⟩⟩) := by
  have untimed : ¬ timeout ≥ 0 := Int.not_le.mpr negative
  rw [port.perform_readAll, port.perform_readAllTimeout]
  exact
    ⟨fun remains =>
        Stream.readAll_runs_alike _ memory remains untimed answers,
      fun empty =>
        ⟨Stream.readAll_reads_nothing _ memory empty answers,
          Stream.readAllTimeout_reads_nothing _ memory empty untimed
            answers⟩⟩

/-- Bytes that come one by one fill two bytes alike in both calls. -/
theorem two_bytes_alike :
    RunAlike (readKernel 3 (ReadAnswers.device fun _ => some [7]))
      ((StreamPort.serial ⟨3⟩).perform (.readAll ⟨0, 2, by decide⟩))
      ((StreamPort.serial ⟨3⟩).perform
        (.readAllTimeout ⟨0, 2, by decide⟩ (-1)))
      ⟨fun _ => 0, []⟩ :=
  (StreamPort.untimed_reads_agree (.serial ⟨3⟩) (fun _ => 0)
      ⟨0, 2, by decide⟩ (by decide) fun _ => some [7]).1 (by decide)

end Periphery
