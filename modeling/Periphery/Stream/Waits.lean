import Periphery.Stream.Deadline

/-!
# What a timeout asks of the kernel

A timeout reaches the kernel in two ways.  The timed reads split it into the
two fields of a `timeval`, and do not wait if it is negative.  `poll` passes
it on as an `int`, in which not every count of milliseconds has room.
-/

namespace Periphery

/-! ## Waits -/

/-- How long a system call may wait. -/
inductive Wait where
  | unbounded
  | upTo (microseconds : Int)
deriving DecidableEq, Repr

/-- A negative timeout sets no bound. -/
def Wait.ofMilliseconds (timeout : Int) : Wait :=
  if timeout < 0 then .unbounded else .upTo (1000 * timeout)

/-- The wait that a system call asks for. -/
def Syscall.wait : Syscall → Wait
  | .poll _ _ timeout => .ofMilliseconds timeout
  | .select _ timeout => .upTo timeout.micros
  | _ => .unbounded

/-- The `timeval` of a `select` is a normal one. -/
def Syscall.NormalTime : Syscall → Prop
  | .select _ timeout => timeout.Normal
  | _ => True

/-- The first system call of a function asks for a wait of `timeout`. -/
def WaitsFor {Value : Type} (timeout : Int)
    (method : ConstMethod Value) : Prop :=
  ∃ request, method.firstCall () = some request ∧
    request.wait = .ofMilliseconds timeout ∧ request.NormalTime

/-- As an `int` the timeout is the same, or it is still negative. -/
def FitsInt (timeout : Int) : Prop :=
  0 ≤ timeout ∧ timeout < 2 ^ 31 ∨
    timeout < 0 ∧ 2 ^ 31 ≤ timeout % 2 ^ 32

/-- The wait for an `int` is the wait for the timeout. -/
theorem Wait.ofMilliseconds_toInt_iff (timeout : Int) :
    Wait.ofMilliseconds (toInt timeout) = .ofMilliseconds timeout ↔
      FitsInt timeout := by
  have sign := toInt_neg_iff timeout
  unfold Wait.ofMilliseconds FitsInt
  by_cases negative : timeout < 0
  · rw [if_pos negative]
    split_ifs with still
    · exact iff_of_true rfl (.inr ⟨negative, sign.mp still⟩)
    · exact iff_of_false (by rintro ⟨⟩) (by omega)
  · have nonneg : 0 ≤ timeout := Int.not_lt.mp negative
    rw [if_neg negative]
    split_ifs with turned
    · exact iff_of_false (by rintro ⟨⟩) (by omega)
    · rw [Wait.upTo.injEq, Int.mul_eq_mul_left_iff (by decide),
        toInt_eq_iff nonneg]
      omega

/-! ## First waits -/

namespace Stream

theorem poll_waitsFor_iff (fd timeout : Int) :
    WaitsFor timeout (poll fd timeout) ↔ FitsInt timeout := by
  rw [← Wait.ofMilliseconds_toInt_iff]
  constructor
  · rintro ⟨request, ⟨⟩, wait, _⟩
    exact wait
  · intro wait
    exact ⟨_, rfl, wait, trivial⟩

/-- The wait of a `select` for a timeout. -/
theorem wait_select
    (fd : Int) {timeout : Int} (nonneg : timeout ≥ 0) :
    (Syscall.select fd (.ofMilliseconds timeout)).wait =
      .ofMilliseconds timeout := by
  rw [Syscall.wait, Timeval.micros_ofMilliseconds nonneg,
    Wait.ofMilliseconds, if_neg (Int.not_lt.mpr nonneg)]

theorem readTimeout_waitsFor
    (fd : Int) (buffer : MutableBuffer) (timeout : Int) :
    WaitsFor timeout (readTimeout fd buffer timeout) := by
  by_cases waits : timeout ≥ 0
  · refine
      ⟨.select fd (.ofMilliseconds timeout), ?_, wait_select fd waits,
        Timeval.normal_ofMilliseconds waits⟩
    rw [readTimeout, waitReadable, if_pos waits]
    rfl
  · refine ⟨.read fd buffer.data buffer.size, ?_, ?_, trivial⟩
    · rw [readTimeout, waitReadable, if_neg waits]
      rfl
    · exact (if_pos (Int.not_le.mp waits)).symm

theorem readAllTimeout_waitsFor
    (fd : Int) (buffer : MutableBuffer) (timeout : Int) :
    WaitsFor timeout (readAllTimeout fd buffer timeout).entry := by
  by_cases waits : timeout ≥ 0
  · refine
      ⟨.select fd (.ofMilliseconds timeout), ?_, wait_select fd waits,
        Timeval.normal_ofMilliseconds waits⟩
    exact
      congrArg (Routine.firstCall · ())
        (readAllTimeout_body fd buffer buffer _ waits)
  · refine ⟨.read fd buffer.data buffer.size, ?_, ?_, trivial⟩
    · exact
        congrArg (Routine.firstCall · ())
          (readAllTimeout_body_of_negative fd buffer buffer _ waits)
    · exact (if_pos (Int.not_le.mp waits)).symm

end Stream

/--
For both classes, every buffer and every timeout: `poll`, `read_timeout` and
`read_all_timeout` begin with the wait that the timeout stands for, exactly
if an `int` holds the timeout or keeps it negative.  The two timed reads do
so for every timeout.
-/
theorem StreamPort.waits_agree_iff
    (port : StreamPort) (buffer : MutableBuffer) (timeout : Int) :
    ((WaitsFor timeout (port.poll timeout) ∧
        WaitsFor timeout
          (port.perform (.readTimeout buffer timeout)).entry ∧
        WaitsFor timeout
          (port.perform (.readAllTimeout buffer timeout)).entry) ↔
      FitsInt timeout) ∧
      WaitsFor timeout
        (port.perform (.readTimeout buffer timeout)).entry ∧
      WaitsFor timeout
        (port.perform (.readAllTimeout buffer timeout)).entry := by
  rw [port.poll_eq, port.perform_readTimeout,
    port.perform_readAllTimeout, Stream.poll_waitsFor_iff]
  have timed :
      WaitsFor timeout
        (Routine.Loop.once
          (Stream.readTimeout port.fd buffer timeout)).entry := by
    rcases Stream.readTimeout_waitsFor port.fd buffer timeout with
      ⟨request, asks, waits⟩
    exact ⟨request, Routine.firstCall_bind asks, waits⟩
  have filling := Stream.readAllTimeout_waitsFor port.fd buffer timeout
  exact ⟨and_iff_left ⟨timed, filling⟩, timed, filling⟩

/-- A timeout of `2 ^ 31` milliseconds is endless for `poll`. -/
theorem long_poll_endless :
    ¬ WaitsFor (2 ^ 31) ((StreamPort.serial ⟨3⟩).poll (2 ^ 31)) := by
  rintro ⟨request, ⟨⟩, wait, _⟩
  revert wait
  decide

end Periphery
