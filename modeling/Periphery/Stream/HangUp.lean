import Mathlib.Algebra.GroupWithZero.Nat
import Periphery.Stream.Reading

/-!
# A device that has hung up

A device that has hung up is always ready to read, and every read hands out
nothing.  `read_all_timeout` goes round for ever on such a device: its waits
end at once, so its timeout never expires, and its buffer never fills.

The answers of the kernel are given here as two infinite sequences, and it is
determined on which of them the call ends.
-/

namespace Periphery

/-! ## Answers -/

/-- How `select` answers; a wait that ends ready leaves some time. -/
inductive WaitAnswer where
  | failed
  | timedOut
  | ready (left : Timeval)
deriving DecidableEq, Repr

/-- The answers of the kernel, by the number of earlier calls. -/
structure KernelAnswers where
  wait : Nat → WaitAnswer
  /-- An error, or the number of bytes that are there to be read. -/
  read : Nat → Option Nat

/-- The number of waits of which the event is one. -/
def ReadEvent.waits : ReadEvent → Nat
  | .waited .. => 1
  | .failed .. => 0
  | .handed .. => 0

/-- The number of reads of which the event is one. -/
def ReadEvent.reads : ReadEvent → Nat
  | .waited .. => 0
  | .failed .. => 1
  | .handed .. => 1

def waitCount (events : List ReadEvent) : Nat :=
  (events.map ReadEvent.waits).sum

def readCount (events : List ReadEvent) : Nat :=
  (events.map ReadEvent.reads).sum

@[simp]
theorem waitCount_record (intake : Intake) (event : ReadEvent) :
    waitCount (intake.record event).events =
      waitCount intake.events + event.waits := by
  simp [waitCount, Intake.record]

@[simp]
theorem readCount_record (intake : Intake) (event : ReadEvent) :
    readCount (intake.record event).events =
      readCount intake.events + event.reads := by
  simp [readCount, Intake.record]

namespace KernelAnswers

/--
The device with these answers.  A read hands out what is there, up to the
count asked for.
-/
def device (answers : KernelAnswers) : ReadDevice :=
  fun earlier event =>
    match event with
    | .waited _ _ ret left =>
        match answers.wait (waitCount earlier) with
        | .failed => ret < 0
        | .timedOut => ret = 0
        | .ready rest => ret > 0 ∧ left = rest
    | .failed .. => answers.read (readCount earlier) = none
    | .handed _ count bytes =>
        ∃ there, answers.read (readCount earlier) = some there ∧
          bytes.length = min there count

/-- The number of bytes there to be read before the read `n`. -/
def delivered (answers : KernelAnswers) : Nat → Nat
  | 0 => 0
  | n + 1 => answers.delivered n + (answers.read n).getD 0

/--
In the round `n` a wait fails or times out, or a read fails, or as many bytes
have come as the buffer holds.
-/
def Settles (answers : KernelAnswers) (size n : Nat) : Prop :=
  (∀ left, answers.wait n ≠ .ready left) ∨ answers.read n = none ∨
    size ≤ answers.delivered (n + 1)

theorem delivered_succ
    {answers : KernelAnswers} {n there : Nat}
    (read : answers.read n = some there) :
    answers.delivered (n + 1) = answers.delivered n + there := by
  rw [delivered, read]
  rfl

/-- The device answers every call. -/
theorem device_total (answers : KernelAnswers) (fd : Int) :
    (readKernel fd answers.device).Total := by
  apply readKernel_total
  · intro earlier given
    cases wait : answers.wait (waitCount earlier) with
    | failed => exact ⟨0, -1, given, by simp [device, wait]⟩
    | timedOut => exact ⟨0, 0, given, by simp [device, wait]⟩
    | ready left => exact ⟨0, 1, left, by simp [device, wait]⟩
  · intro earlier data count
    cases read : answers.read (readCount earlier) with
    | none => exact .inl read
    | some there =>
        rcases exists_bytes there count with ⟨bytes, most, handed⟩
        exact .inr ⟨bytes, most, there, read, handed⟩

end KernelAnswers

/-! ## Rounds -/

/-- The call stands at the start of the round `n`. -/
structure AtRound (answers : KernelAnswers) (buffer : MutableBuffer)
    (n : Nat) (cursor : MutableBuffer) (intake : Intake) : Prop where
  waits : waitCount intake.events = n
  reads : readCount intake.events = n
  cursor : cursor = buffer.advance (answers.delivered n)

section Rounds

variable
    {answers : KernelAnswers} {buffer cursor : MutableBuffer}
    {n : Nat} {intake : Intake}

theorem atRound_start (memory : ByteMemory) :
    AtRound answers buffer 0 buffer ⟨memory, []⟩ where
  waits := rfl
  reads := rfl
  cursor := (Buffer.advance_zero buffer).symm

/-- A wait that ends ready is the one of this round. -/
theorem AtRound.ready
    (round : AtRound answers buffer n cursor intake)
    {given left : Timeval} {elapsed : Nat} {ret : Int}
    (woke :
      answers.device intake.events (.waited given elapsed ret left))
    (positive : ret > 0) :
    answers.wait n = .ready left := by
  simp only [KernelAnswers.device, round.waits] at woke
  split at woke
  · omega
  · omega
  case _ rest ready => rw [ready, woke.2]

/-- A read that hands out what is there leads to the next round. -/
theorem AtRound.next
    (round : AtRound answers buffer n cursor intake)
    (given : Timeval) (elapsed : Nat) (ret : Int) (left : Timeval)
    (data : Nat) {bytes : List Byte} {there : Nat}
    (read : answers.read n = some there)
    (handed : bytes.length = min there cursor.size) :
    AtRound answers buffer (n + 1) (cursor.advance bytes.length)
      ((intake.record (.waited given elapsed ret left)).record
        (.handed data cursor.size bytes)) := by
  constructor
  · simp [ReadEvent.waits, round.waits]
  · simp [ReadEvent.reads, round.reads]
  · rw [handed, Buffer.advance_min, round.cursor,
      Buffer.advance_advance, KernelAnswers.delivered_succ read]

/-- A round that neither settles nor ends. -/
theorem AtRound.unsettled
    (round : AtRound answers buffer n cursor intake)
    (open_ : ¬ answers.Settles buffer.size n) :
    ∃ left there, answers.wait n = .ready left ∧
      answers.read n = some there ∧
      (cursor.advance (min there cursor.size)).size > 0 := by
  rw [KernelAnswers.Settles, not_or, not_or, not_forall] at open_
  rcases open_ with ⟨⟨left, ready⟩, read, missing⟩
  rcases Option.ne_none_iff_exists'.mp read with ⟨there, read⟩
  refine ⟨left, there, not_not.mp ready, read, ?_⟩
  rw [Buffer.advance_min, round.cursor, Buffer.advance_advance,
    ← KernelAnswers.delivered_succ read,
    Buffer.advance_size (by omega)]
  omega

/-- A round that settles the call does not go on. -/
theorem AtRound.settled
    (round : AtRound answers buffer n cursor intake)
    (settles : answers.Settles buffer.size n)
    {left : Timeval} {there : Nat}
    (ready : answers.wait n = .ready left)
    (read : answers.read n = some there) :
    ¬ (cursor.advance (min there cursor.size)).size > 0 := by
  rcases settles with never | failed | full
  · exact absurd ready (never left)
  · rw [read] at failed
    cases failed
  · rw [Buffer.advance_min, round.cursor, Buffer.advance_advance,
      ← KernelAnswers.delivered_succ read]
    rw [Buffer.advance_size_of_ge full]
    exact Nat.lt_irrefl 0

/-- A wait that ends ready leads to the read of its round. -/
theorem Stream.readAllTimeout_wakes
    (fd : Int) {device : ReadDevice} (original cursor : MutableBuffer)
    {timeout : Int} (nonneg : timeout ≥ 0) {tv left : Timeval}
    {intake : Intake} {elapsed : Nat}
    (may : device intake.events (.waited tv elapsed 1 left)) :
    (readAllTimeout fd original timeout).Advances
      (readKernel fd device)
      ((readAllTimeout fd original timeout).body (cursor, tv)) () intake
      (readRound fd original cursor left) ()
      (intake.record (.waited tv elapsed 1 left)) := by
  have answered :
      readKernel fd device intake (.select fd tv) ((1 : Int), left)
        (intake.record (.waited tv elapsed 1 left)) :=
    fun _ => ⟨elapsed, may, rfl⟩
  exact
    .of_call ((1 : Int), left)
      (readAllTimeout_body fd original cursor tv nonneg) answered rfl

/-- A read of what is there, from which the loop goes on or is left. -/
theorem Stream.readRound_advances
    (fd : Int) {device : ReadDevice} (original cursor : MutableBuffer)
    (timeout : Int) (left : Timeval) {intake : Intake}
    {bytes : List Byte}
    (may :
      device intake.events (.handed cursor.data cursor.size bytes))
    (most : bytes.length ≤ cursor.size)
    {rest : (readAllTimeout fd original timeout).Rest}
    (goesOn :
      (if (cursor.advance bytes.length).size > 0 then
          .done (.inl (cursor.advance bytes.length, left))
        else
          .done
            (.inr
              (bytesStored original (cursor.advance bytes.length)))) =
        rest) :
    (readAllTimeout fd original timeout).Advances
      (readKernel fd device)
      (readRound fd original cursor left) () intake rest ()
      (intake.record (.handed cursor.data cursor.size bytes)) := by
  have fits := cursor.fits
  have answered :
      readKernel fd device intake (.read fd cursor.data cursor.size)
        (bytes.length : Int)
        (intake.record (.handed cursor.data cursor.size bytes)) :=
    fun _ => .inr ⟨bytes, most, rfl, may, rfl⟩
  apply Routine.Loop.Advances.of_call (bytes.length : Int) rfl answered
  rw [if_neg (Int.not_lt.mpr (Int.natCast_nonneg _)),
    toSizeT_natCast (by omega)]
  exact goesOn

/-- A read of what is there, which is not the whole rest of the buffer. -/
theorem Stream.readAllTimeout_hands
    (fd : Int) {device : ReadDevice} (original cursor : MutableBuffer)
    (timeout : Int) (left : Timeval) {intake : Intake}
    {bytes : List Byte}
    (may :
      device intake.events (.handed cursor.data cursor.size bytes))
    (most : bytes.length ≤ cursor.size)
    (more : (cursor.advance bytes.length).size > 0) :
    (readAllTimeout fd original timeout).Advances
      (readKernel fd device)
      (readRound fd original cursor left) () intake
      (.done (.inl (cursor.advance bytes.length, left))) ()
      (intake.record (.handed cursor.data cursor.size bytes)) :=
  readRound_advances fd original cursor timeout left may most
    (if_pos more)

/-- A round that does not settle the call leads to the next one. -/
theorem AtRound.goes_round
    (round : AtRound answers buffer n cursor intake)
    (going : ¬ answers.Settles buffer.size n)
    (fd : Int) {timeout : Int} (nonneg : timeout ≥ 0) (tv : Timeval) :
    ∃ next intake' left,
      AtRound answers buffer (n + 1) next intake' ∧
        Relation.TransGen
          ((Stream.readAllTimeout fd buffer timeout).Steps
            (readKernel fd answers.device))
          ⟨(Stream.readAllTimeout fd buffer timeout).body (cursor, tv),
            (), intake⟩
          ⟨(Stream.readAllTimeout fd buffer timeout).body (next, left),
            (), intake'⟩ := by
  rcases round.unsettled going with ⟨left, there, ready, read, more⟩
  rcases exists_bytes there cursor.size with ⟨bytes, most, handed⟩
  have woke : answers.device intake.events (.waited tv 0 1 left) := by
    simp [KernelAnswers.device, round.waits, ready]
  have next := round.next tv 0 1 left cursor.data read handed
  have gives :
      answers.device (intake.record (.waited tv 0 1 left)).events
        (.handed cursor.data cursor.size bytes) := by
    refine ⟨there, ?_, handed⟩
    rw [readCount_record, round.reads]
    exact read
  rw [← handed] at more
  refine ⟨_, _, left, next, ?_⟩
  have wakes :=
    Stream.readAllTimeout_wakes fd buffer cursor nonneg woke
  have hands :=
    Stream.readAllTimeout_hands fd buffer cursor timeout left gives most
      more
  exact
    .tail (.tail (.single wakes.steps) hands.steps)
      Routine.Loop.Advances.around.steps

end Rounds

/-- A call ends if one of its rounds settles it. -/
theorem Stream.readAllTimeout_ends
    (fd : Int) (memory : ByteMemory) {buffer : MutableBuffer}
    {timeout : Int} (nonneg : timeout ≥ 0)
    {answers : KernelAnswers} {last : Nat}
    (settles : answers.Settles buffer.size last) :
    (readAllTimeout fd buffer timeout).Ends
      (readKernel fd answers.device) (fun _ _ _ => True)
      ⟨(readAllTimeout fd buffer timeout).entry, (), ⟨memory, []⟩⟩ := by
  apply Routine.Loop.ends_of_measure (answers.device_total fd)
    (fun (cursor : MutableBuffer × Timeval) _ intake =>
      ∃ n, AtRound answers buffer n cursor.1 intake ∧ n ≤ last)
    (fun _ intake => last - readCount intake.events)
  · rintro ⟨cursor, tv⟩ _ intake ⟨n, round, soon⟩
    apply upholds_readAllTimeout trivial
    · intro _ ret left intake' waited
      refine ⟨trivial, fun _ => trivial, fun _ => trivial, ?_⟩
      intro positive ret' intake'' replied
      refine ⟨trivial, fun _ => trivial, fun nonneg' => ?_⟩
      rcases waited rfl with ⟨elapsed, woke, rfl⟩
      have ready := round.ready woke positive
      rcases replied rfl with
        ⟨failed, _⟩ | ⟨bytes, most, rfl, ⟨there, read, handed⟩, rfl⟩
      · exact absurd failed nonneg'
      · rw [readCount_record, round.reads, ReadEvent.reads] at read
        have next := round.next tv elapsed ret left cursor.data read handed
        have fits := cursor.fits
        rw [toSizeT_natCast (by omega)]
        refine ⟨fun more => ?_, fun _ => trivial⟩
        have before : n ≠ last := by
          rintro rfl
          rw [handed] at more
          exact round.settled settles ready read more
        refine ⟨⟨n + 1, next, by omega⟩, ?_⟩
        rw [next.reads, round.reads]
        omega
    · exact fun negative => absurd nonneg negative
  · exact ⟨0, atRound_start memory, Nat.zero_le _⟩

/-- A call goes on for ever if none of its rounds settles it. -/
theorem Stream.readAllTimeout_forever
    (fd : Int) (memory : ByteMemory) {buffer : MutableBuffer}
    {timeout : Int} (nonneg : timeout ≥ 0) {answers : KernelAnswers}
    (never : ∀ n, ¬ answers.Settles buffer.size n) :
    (readAllTimeout fd buffer timeout).Forever
      (readKernel fd answers.device)
      ⟨(readAllTimeout fd buffer timeout).entry, (), ⟨memory, []⟩⟩ := by
  apply Routine.Loop.forever_of_rounds fun point =>
    ∃ n cursor left intake, AtRound answers buffer n cursor intake ∧
      point = ⟨(readAllTimeout fd buffer timeout).body (cursor, left),
        (), intake⟩
  · rintro _ ⟨n, cursor, left, intake, round, rfl⟩
    rcases round.goes_round (never n) fd nonneg left with
      ⟨next, intake', left', round', steps⟩
    exact ⟨_, steps, n + 1, next, left', intake', round', rfl⟩
  · exact ⟨0, buffer, _, _, atRound_start memory, rfl⟩

/-! ## Both classes -/

namespace StreamPort

/--
A call of `read_all_timeout` with a timeout ends exactly if in one of its
rounds a wait fails or times out, or a read fails, or as many bytes have come
as its buffer holds.  What the waits leave of the timeout makes no difference.
-/
theorem timed_read_ends_iff
    (port : StreamPort) (memory : ByteMemory) (buffer : MutableBuffer)
    {timeout : Int} (nonneg : 0 ≤ timeout) (answers : KernelAnswers) :
    (port.perform (.readAllTimeout buffer timeout)).Ends
        (readKernel port.fd answers.device) (fun _ _ _ => True)
        ⟨(port.perform (.readAllTimeout buffer timeout)).entry, (),
          ⟨memory, []⟩⟩ ↔
      ∃ n, answers.Settles buffer.size n := by
  rw [port.perform_readAllTimeout]
  constructor
  · intro ends
    by_contra never
    have going : ∀ n, ¬ answers.Settles buffer.size n :=
      fun n settles => never ⟨n, settles⟩
    apply ends.not_forever
    exact Stream.readAllTimeout_forever _ memory nonneg going
  · rintro ⟨last, settles⟩
    exact Stream.readAllTimeout_ends _ memory nonneg settles

end StreamPort

/-- On a line where the first wait times out, the call ends. -/
theorem timed_out_ends :
    ((StreamPort.serial ⟨3⟩).perform
        (.readAllTimeout ⟨0, 16, by decide⟩ 25)).Ends
      (readKernel 3
        (KernelAnswers.device ⟨fun _ => .timedOut, fun _ => none⟩))
      (fun _ _ _ => True)
      ⟨((StreamPort.serial ⟨3⟩).perform
          (.readAllTimeout ⟨0, 16, by decide⟩ 25)).entry, (),
        ⟨fun _ => 0, []⟩⟩ :=
  (StreamPort.timed_read_ends_iff (.serial ⟨3⟩) (fun _ => 0) _
      (by decide) _).mpr
    ⟨0, .inl (by rintro _ ⟨⟩)⟩

/--
A device that hands out two bytes and has then hung up.  It is always ready,
and no wait takes any time off 25 milliseconds.
-/
def hungUp : KernelAnswers where
  wait _ := .ready ⟨0, 25000⟩
  read n := some (if n = 0 then 2 else 0)

theorem hungUp_delivered (n : Nat) : hungUp.delivered (n + 1) = 2 := by
  induction n with
  | zero => rfl
  | succ n induction =>
      rw [KernelAnswers.delivered, induction]
      rfl

/-- A call for sixteen bytes from such a device goes on for ever. -/
theorem hung_up_forever :
    ((StreamPort.serial ⟨3⟩).perform
          (.readAllTimeout ⟨0, 16, by decide⟩ 25)).Forever
        (readKernel 3 hungUp.device)
        ⟨((StreamPort.serial ⟨3⟩).perform
            (.readAllTimeout ⟨0, 16, by decide⟩ 25)).entry, (),
          ⟨fun _ => 0, []⟩⟩ ∧
      ¬ ((StreamPort.serial ⟨3⟩).perform
          (.readAllTimeout ⟨0, 16, by decide⟩ 25)).Ends
        (readKernel 3 hungUp.device) (fun _ _ _ => True)
        ⟨((StreamPort.serial ⟨3⟩).perform
            (.readAllTimeout ⟨0, 16, by decide⟩ 25)).entry, (),
          ⟨fun _ => 0, []⟩⟩ := by
  have never : ∀ n, ¬ hungUp.Settles 16 n := by
    rintro n (never | failed | full)
    · exact never _ rfl
    · cases failed
    · rw [hungUp_delivered] at full
      omega
  have going :=
    @Stream.readAllTimeout_forever 3 (fun _ => 0)
      ⟨0, 16, by decide⟩ 25 (by decide) hungUp never
  exact ⟨going, fun ends => ends.not_forever going⟩

end Periphery
