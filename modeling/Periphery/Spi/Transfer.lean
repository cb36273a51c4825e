import Periphery.Bytes.ByteMemory
import Periphery.Spi.Device

/-!
# What a transfer exchanges

The driver clocks exactly as many bytes as the descriptor of a transfer says.
The descriptor has 32 bits for the length and `transfer` takes 64 bits, so
all of the buffers is exchanged as long as the length fits, and otherwise
only what is left of the length.
-/

namespace Periphery.Spi

/-! ## The driver -/

/-- The caller's memory, and what passed over the two data wires. -/
structure Wires where
  memory : ByteMemory
  sent : List Byte
  answered : List Byte

/-- The device answered the bytes behind `tx_buf`. -/
def Wires.exchange (wires : Wires) (spi_xfer : SpiIocTransfer)
    (answers : List Byte) : Wires where
  memory := wires.memory.overwrite spi_xfer.rx_buf.toNat answers
  sent :=
    wires.sent ++
      wires.memory.slice spi_xfer.tx_buf.toNat spi_xfer.len.toNat
  answered := wires.answered ++ answers

/--
The driver carries a descriptor out for exactly its length, or it fails and
stores nothing.  The device may answer anything.
-/
def clockingKernel : Kernel posix Wires :=
  fun wires request answer wires' =>
    match request, answer with
    | .ioctl _ (.spiIocMessage spi_xfer), error =>
        error < 0 ∧ wires' = wires ∨
          0 ≤ error ∧
            ∃ answers : List Byte, answers.length = spi_xfer.len.toNat ∧
              wires' = wires.exchange spi_xfer answers
    | _, _ => wires' = wires

/-! ## Whole buffers -/

/--
All `count` bytes behind `txbuf` were sent in order, and the `count` bytes
behind `rxbuf` are the answers to them.
-/
def Exchanged (txbuf rxbuf : Word) (count : Nat)
    (wires wires' : Wires) : Prop :=
  wires'.sent = wires.sent ++ wires.memory.slice txbuf.toNat count ∧
    ∃ answers : List Byte, answers.length = count ∧
      wires'.answered = wires.answered ++ answers ∧
      wires'.memory.slice rxbuf.toNat count = answers

theorem Exchanged.length_sent
    {txbuf rxbuf : Word} {count : Nat} {wires wires' : Wires}
    (exchanged : Exchanged txbuf rxbuf count wires wires') :
    wires'.sent.length = wires.sent.length + count := by
  rw [exchanged.1, List.length_append, ByteMemory.length_slice]

/-- A transfer that returns has exchanged what is left of its length. -/
theorem transfer_exchanges
    (txbuf rxbuf len : Word) (spi : Spi) (wires : Wires) :
    (transfer txbuf rxbuf len).Ensures clockingKernel
      (fun outcome _ wires' =>
        outcome = .returned () →
          Exchanged txbuf rxbuf (len.toNat % 2 ^ 32) wires wires')
      spi wires := by
  simp only [transfer, ioctlWithThrow, sysIoctl, Routine.ensures_bind,
    Routine.ensures_self, Routine.ensures_call, Routine.ensures_done,
    Routine.ensures_ite, Routine.ensures_raise, Routine.ensures_pure,
    Routine.afterwards_returned, clockingKernel]
  rintro error wires' (⟨failed, rfl⟩ | ⟨done, answers, length, rfl⟩)
  · exact ⟨fun _ => by rintro ⟨⟩, fun returned => absurd failed returned⟩
  · refine ⟨fun failed => absurd failed (Int.not_lt.mpr done), ?_⟩
    rintro - -
    rw [← BitVec.toNat_setWidth, ← length]
    refine ⟨?_, answers, rfl, rfl, ByteMemory.slice_overwrite ..⟩
    rw [length]
    rfl

/--
A transfer that returns has exchanged the whole of its buffers exactly if
their length fits into the descriptor.
-/
theorem transfer_exchanges_iff_fits
    {txbuf rxbuf len : Word} {spi spi' : Spi} {wires wires' : Wires}
    (executed :
      (transfer txbuf rxbuf len).Executes clockingKernel
        spi wires (.returned ()) spi' wires') :
    Exchanged txbuf rxbuf len.toNat wires wires' ↔
      len.toNat < 2 ^ 32 := by
  have exchanged :=
    (transfer_exchanges txbuf rxbuf len spi wires).of_executes
      executed rfl
  constructor
  · intro whole
    have sent := exchanged.length_sent
    rw [whole.length_sent] at sent
    omega
  · intro fits
    rw [Nat.mod_eq_of_lt fits] at exchanged
    exact exchanged

/-! ## A short and a long transfer -/

/-- Two bytes at the address 16, and nothing sent so far. -/
def twoBytesToSend : Wires where
  memory address := if address = 16 then 0x9f else 0
  sent := []
  answered := []

/-- The wires after both bytes were answered with `0xff`. -/
def twoBytesAnswered : Wires where
  memory := twoBytesToSend.memory.overwrite 32 [0xff, 0xff]
  sent := [0x9f, 0]
  answered := [0xff, 0xff]

theorem two_bytes_exchanged :
    (transfer 16 32 2).Executes clockingKernel
        ⟨3⟩ twoBytesToSend (.returned ()) ⟨3⟩ twoBytesAnswered ∧
      Exchanged 16 32 2 twoBytesToSend twoBytesAnswered := by
  have executed :
      (transfer 16 32 2).Executes clockingKernel
        ⟨3⟩ twoBytesToSend (.returned ()) ⟨3⟩ twoBytesAnswered := by
    apply Routine.Executes.call (2 : Int)
      (.inr ⟨by decide, [0xff, 0xff], rfl, rfl⟩)
    exact ⟨rfl, rfl, rfl⟩
  exact
    ⟨executed, (transfer_exchanges_iff_fits executed).mpr (by decide)⟩

/-- A transfer of `2 ^ 32` bytes returns, and nothing was exchanged. -/
theorem long_transfer_exchanges_nothing :
    (transfer 0x100000000 0x300000000 0x100000000).Executes
        clockingKernel
        ⟨3⟩ twoBytesToSend (.returned ()) ⟨3⟩ twoBytesToSend ∧
      ¬ Exchanged 0x100000000 0x300000000 (0x100000000 : Word).toNat
        twoBytesToSend twoBytesToSend := by
  constructor
  · have nothing :
        twoBytesToSend =
          twoBytesToSend.exchange
            ⟨0x100000000, 0x300000000, 0, 0, 0, 0, 0⟩ [] := by
      rw [Wires.exchange, ByteMemory.overwrite_nil]
      rfl
    apply Routine.Executes.call (0 : Int)
      (.inr ⟨by decide, [], rfl, nothing⟩)
    exact ⟨rfl, rfl, rfl⟩
  · intro exchanged
    have sent := exchanged.length_sent
    exact absurd sent (by decide)

end Periphery.Spi
