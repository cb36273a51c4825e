import Periphery.Bytes.ByteMemory
import Periphery.Stream.Rounds

/-!
# The two ends of a channel

What a call of `write` sees of the channel is how many bytes each system call
takes, and what a call of a read function sees is which bytes each system
call hands out.  A system call may fail, and its count may be anything up to
the count asked for, zero included.

The invariants say that the bytes taken are the first bytes of the buffer,
and that the bytes handed out lie at its start.
-/

namespace Periphery

/-! ## Kernels -/

/-- The writing end in a call: its memory and the bytes taken so far. -/
structure Outlet where
  memory : ByteMemory
  accepted : List Byte

/-- The reading end in a call: its memory and the bytes handed out so far. -/
structure Inlet where
  memory : ByteMemory
  received : List Byte

/-- The kernel took `taken` bytes from `data` on. -/
def Outlet.take (outlet : Outlet) (data taken : Nat) : Outlet :=
  { outlet with
    accepted := outlet.accepted ++ outlet.memory.slice data taken }

/-- The kernel stored `bytes` from `data` on. -/
def Inlet.store (inlet : Inlet) (data : Nat) (bytes : List Byte) :
    Inlet where
  memory := inlet.memory.overwrite data bytes
  received := inlet.received ++ bytes

/--
The system calls of the writing end, whose descriptor is `fd`.  Nothing is
known of a `write` to another descriptor.
-/
def outletKernel (fd : Int) : Kernel posix Outlet :=
  fun outlet request answer outlet' =>
    match request, answer with
    | .write target data count, ret =>
        target = fd →
          ret < 0 ∧ outlet' = outlet ∨
            ∃ taken : Nat, taken ≤ count ∧ ret = taken ∧
              outlet' = outlet.take data taken
    | _, _ => outlet' = outlet

/--
The system calls of the reading end, whose descriptor is `fd`.  A `read`
hands out any number of bytes that is `allowed`.
-/
def inletKernel (fd : Int) (allowed : Nat → Prop) :
    Kernel posix Inlet :=
  fun inlet request answer inlet' =>
    match request, answer with
    | .read target data count, ret =>
        target = fd →
          ret < 0 ∧ inlet' = inlet ∨
            ∃ bytes : List Byte,
              bytes.length ≤ count ∧ allowed bytes.length ∧
                ret = bytes.length ∧ inlet' = inlet.store data bytes
    | _, _ => inlet' = inlet

/-! ## The writing end -/

/-- The first `count` bytes of the buffer were taken. -/
def sent (memory : ByteMemory) (buffer : ConstBuffer) (count : Nat) :
    Outlet :=
  ⟨memory, memory.slice buffer.data count⟩

/-- Some first bytes of the buffer were taken. -/
def SendsPrefix (memory : ByteMemory) (buffer : ConstBuffer)
    (outlet : Outlet) : Prop :=
  ∃ count ≤ buffer.size, outlet = sent memory buffer count

/-- At the head of the loop, the cursor stands behind what was taken. -/
def SendsFrom (memory : ByteMemory) (buffer cursor : ConstBuffer)
    (_ : Unit) (outlet : Outlet) : Prop :=
  ∃ count ≤ buffer.size,
    cursor = buffer.advance count ∧ outlet = sent memory buffer count

/-- A call that returned has sent the whole buffer. -/
def SendsAll (memory : ByteMemory) (buffer : ConstBuffer) :
    Outcome Exception Unit → Unit → Outlet → Prop
  | .returned _, _, outlet => outlet = sent memory buffer buffer.size
  | .threw _, _, _ => True

theorem sent_take
    {memory : ByteMemory} {buffer : ConstBuffer} {count : Nat}
    (within : count ≤ buffer.size) (taken : Nat) :
    (sent memory buffer count).take (buffer.advance count).data taken =
      sent memory buffer (count + taken) := by
  simp only [Outlet.take, sent, Buffer.advance_data within,
    ByteMemory.slice_add]

theorem Stream.write_keeps
    (fd : Int) (memory : ByteMemory) (buffer : ConstBuffer) :
    (write fd buffer).Keeps (outletKernel fd)
      (SendsPrefix memory buffer) (SendsFrom memory buffer)
      (SendsAll memory buffer) := by
  rintro cursor _ _ ⟨count, within, rfl, rfl⟩
  have now : SendsPrefix memory buffer (sent memory buffer count) :=
    ⟨count, within, rfl⟩
  have size := Buffer.advance_size within
  have fits := buffer.fits
  apply upholds_write now
  · intro _ ret _ answered
    rcases answered rfl with
      ⟨failed, rfl⟩ | ⟨taken, most, rfl, rfl⟩
    · exact
        ⟨now, fun _ => trivial,
          fun returned => absurd failed returned⟩
    · have more : count + taken ≤ buffer.size := by omega
      have next :
          SendsPrefix memory buffer
            (sent memory buffer (count + taken)) :=
        ⟨count + taken, more, rfl⟩
      rw [sent_take within, toSizeT_natCast (by omega),
        Buffer.advance_advance]
      refine ⟨next, fun failed => absurd failed (by omega), fun _ => ?_⟩
      exact ⟨count + taken, more, rfl, rfl⟩
  · intro empty
    have all : count = buffer.size := by omega
    exact congrArg (sent memory buffer) all

/-! ## The reading end -/

/-- What was handed out lies at the start of the buffer. -/
def Stores (buffer : MutableBuffer) (inlet : Inlet) : Prop :=
  inlet.received.length ≤ buffer.size ∧
    inlet.memory.slice buffer.data inlet.received.length =
      inlet.received

/-- The cursor stands behind what was handed out. -/
def StoresFrom (buffer cursor : MutableBuffer) (inlet : Inlet) : Prop :=
  cursor = buffer.advance inlet.received.length ∧ Stores buffer inlet

/-- Bytes that are stored behind the earlier ones. -/
theorem StoresFrom.store
    {buffer cursor : MutableBuffer} {inlet : Inlet}
    (stored : StoresFrom buffer cursor inlet) {bytes : List Byte}
    (most : bytes.length ≤ cursor.size) :
    StoresFrom buffer (cursor.advance bytes.length)
      (inlet.store cursor.data bytes) := by
  rcases stored with ⟨rfl, within, kept⟩
  rw [Buffer.advance_size within] at most
  rw [Inlet.store, Buffer.advance_data within, StoresFrom,
    Buffer.advance_advance, Stores, List.length_append]
  refine ⟨rfl, by omega, ?_⟩
  rw [ByteMemory.slice_add, ByteMemory.slice_overwrite,
    ByteMemory.slice_overwrite_of_disjoint _ _ _ _ _
      (.inl (Nat.le_refl _)),
    kept]

/-- The system call stored some bytes, or it threw and stored nothing. -/
def Reads (allowed : Nat → Prop) (cursor : MutableBuffer)
    (inlet : Inlet) :
    Outcome Exception Int → Unit → Inlet → Prop
  | .returned ret, _, inlet' =>
      ∃ bytes : List Byte,
        bytes.length ≤ cursor.size ∧ allowed bytes.length ∧
          ret = bytes.length ∧ inlet' = inlet.store cursor.data bytes
  | .threw _, _, inlet' => inlet' = inlet

/-- Nothing is asked of the end of a call. -/
def anyEnd {Value : Type} (_ : Outcome Exception Value) (_ : Unit)
    (_ : Inlet) : Prop :=
  True

namespace Stream

variable
    {fd : Int} {allowed : Nat → Prop} {buffer cursor : MutableBuffer}
    {inlet : Inlet}

theorem readChecked_upholds (stored : StoresFrom buffer cursor inlet) :
    (readChecked fd cursor).Upholds (inletKernel fd allowed)
      (Stores buffer) (Reads allowed cursor inlet) () inlet := by
  apply upholds_readChecked stored.2
  intro ret _ answered
  rcases answered rfl with
    ⟨failed, rfl⟩ | ⟨bytes, most, fine, rfl, rfl⟩
  · exact
      ⟨stored.2, fun _ => rfl, fun returned => absurd failed returned⟩
  · have next := (stored.store most).2
    refine ⟨next, fun failed => absurd failed (by omega), fun _ => ?_⟩
    exact ⟨bytes, most, fine, rfl, rfl⟩

/-- Waiting changes nothing. -/
theorem waitReadable_upholds
    (stored : Stores buffer inlet) (timeout : Int) (tv : Timeval) :
    (waitReadable fd timeout tv).Upholds (inletKernel fd allowed)
      (Stores buffer) (fun _ _ inlet' => inlet' = inlet) () inlet := by
  apply upholds_waitReadable stored
  · rintro _ ret left _ rfl
    exact ⟨stored, fun _ => rfl, fun _ => rfl, fun _ => rfl⟩
  · exact fun _ => rfl

theorem read_upholds (stored : StoresFrom buffer cursor inlet) :
    (read fd cursor).Upholds (inletKernel fd allowed)
      (Stores buffer) anyEnd () inlet := by
  simp only [read, Routine.upholds_bind]
  apply (readChecked_upholds stored).mono
  rintro (ret | error) _ _ now _
  · exact ⟨now, trivial⟩
  · trivial

theorem readTimeout_upholds
    (stored : StoresFrom buffer cursor inlet) (timeout : Int) :
    (readTimeout fd cursor timeout).Upholds (inletKernel fd allowed)
      (Stores buffer) anyEnd () inlet := by
  simp only [readTimeout, Routine.upholds_bind]
  apply (waitReadable_upholds stored.2 timeout _).mono
  rintro ((_ | left) | error) _ _ now rfl
  · exact ⟨now, trivial⟩
  · exact read_upholds stored
  · trivial

/-- The loop of `read_all`, if no read is too large for an `int`. -/
theorem readAll_keeps
    (narrow : ∀ count, allowed count → count < 2 ^ 31) :
    (readAll fd buffer).Keeps (inletKernel fd allowed) (Stores buffer)
      (fun cursor _ => StoresFrom buffer cursor) anyEnd := by
  intro cursor _ inlet stored
  apply upholds_readAll stored.2
  · intro _ ret _ answered
    rcases answered rfl with
      ⟨failed, rfl⟩ | ⟨bytes, most, fine, rfl, rfl⟩
    · exact
        ⟨stored.2, fun _ => trivial,
          fun returned => absurd failed returned⟩
    · have next := stored.store most
      have small := narrow _ fine
      rw [toInt_of_bounded (by omega) (by omega),
        toSizeT_natCast (by omega)]
      exact
        ⟨next.2, fun failed => absurd failed (by omega), fun _ => next⟩
  · exact fun _ => trivial

theorem readAllTimeout_keeps (timeout : Int) :
    (readAllTimeout fd buffer timeout).Keeps (inletKernel fd allowed)
      (Stores buffer)
      (fun cursor _ => StoresFrom buffer cursor.1) anyEnd := by
  rintro ⟨cursor, tv⟩ _ inlet stored
  have reads : ∀ left,
      AfterWait (inletKernel fd allowed) (Stores buffer) fd buffer
        cursor left
        (Routine.Loop.afterRound
          (fun cursor : MutableBuffer × Timeval => fun _ =>
            StoresFrom buffer cursor.1)
          anyEnd)
        inlet := by
    intro left ret _ answered
    rcases answered rfl with
      ⟨failed, rfl⟩ | ⟨bytes, most, _, rfl, rfl⟩
    · exact
        ⟨stored.2, fun _ => trivial,
          fun returned => absurd failed returned⟩
    · have next := stored.store most
      have fits := cursor.fits
      rw [toSizeT_natCast (by omega)]
      refine
        ⟨next.2, fun failed => absurd failed (by omega), fun _ => ?_⟩
      exact ⟨fun _ => next, fun _ => trivial⟩
  apply upholds_readAllTimeout stored.2
  · rintro _ ret left _ rfl
    exact
      ⟨stored.2, fun _ => trivial, fun _ => trivial,
        fun _ => reads left⟩
  · exact fun _ => reads tv

/-! ### Rounds in which the system call succeeds -/

/-- A round of `write` in which the kernel takes some bytes. -/
theorem write_advances
    (fd : Int) (buffer : ConstBuffer) {cursor : ConstBuffer}
    (outlet : Outlet) {taken : Nat}
    (remains : cursor.size > 0)
    (most : taken ≤ cursor.size) :
    (write fd buffer).Advances (outletKernel fd)
      ((write fd buffer).body cursor) () outlet
      (.done (.inl (cursor.advance (toSizeT taken)))) ()
      (outlet.take cursor.data taken) := by
  have answered :
      outletKernel fd outlet (.write fd cursor.data cursor.size)
        (taken : Int) (outlet.take cursor.data taken) :=
    fun _ => .inr ⟨taken, most, rfl, rfl⟩
  exact
    .of_call (taken : Int) (write_body fd buffer remains) answered
      (if_neg (Int.not_lt.mpr (Int.natCast_nonneg _)))

/-- A round of `read_all` in which the kernel stores `count` bytes. -/
theorem readAll_advances
    (fd : Int) (allowed : Nat → Prop) (buffer : MutableBuffer)
    {cursor : MutableBuffer} (inlet : Inlet)
    {bytes : List Byte} {count : Nat}
    (counted : bytes.length = count)
    (remains : cursor.size > 0)
    (most : count ≤ cursor.size)
    (fine : allowed count) :
    (readAll fd buffer).Advances (inletKernel fd allowed)
      ((readAll fd buffer).body cursor) () inlet
      (.done (.inl (cursor.advance (toSizeT (toInt count))))) ()
      (inlet.store cursor.data bytes) := by
  subst counted
  have answered :
      inletKernel fd allowed inlet (.read fd cursor.data cursor.size)
        (bytes.length : Int) (inlet.store cursor.data bytes) :=
    fun _ => .inr ⟨bytes, most, fine, rfl, rfl⟩
  exact
    .of_call (bytes.length : Int) (readAll_body fd buffer remains)
      answered (if_neg (Int.not_lt.mpr (Int.natCast_nonneg _)))

end Stream

end Periphery
