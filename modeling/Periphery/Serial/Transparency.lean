import Mathlib.Data.List.Induction
import Periphery.Serial.Device
import Periphery.Stream.Filling

/-!
# Data through a serial port

Without software flow control the driver of a terminal passes on the data
bits of each character.  With parity the constructor also sets `ISTRIP`, and
the driver then clears the top bit of each byte: with eight data bits a port
is transparent only to bytes that do not use it.
-/

namespace Periphery

/-! ## Speeds among the control flags -/

theorem and_eq_zero_of_within
    {flags own mask : BitVec 32} (within : flags &&& own = flags)
    (apart : own &&& mask = 0#32) : flags &&& mask = 0#32 := by
  rw [← within, BitVec.and_assoc, apart]
  exact BitVec.and_zero

namespace Termios

variable {c_cflag speed mask : BitVec 32}

/-- Flags that belong to no speed stay as they are. -/
theorem flagsAt_and
    (within : speed &&& (CBAUD ||| CBAUDEX) = speed)
    (apart : (CBAUD ||| CBAUDEX) &&& mask = 0#32) :
    flagsAt c_cflag speed &&& mask = c_cflag &&& mask := by
  have outside : ~~~(CBAUD ||| CBAUDEX) &&& mask = mask :=
    calc
      ~~~(CBAUD ||| CBAUDEX) &&& mask =
          (CBAUD ||| CBAUDEX) &&& mask |||
            ~~~(CBAUD ||| CBAUDEX) &&& mask := by
        rw [apart, BitVec.zero_or]
      _ = mask := by
        rw [← BitVec.and_or_distrib_right, BitVec.or_not_self,
          BitVec.allOnes_and]
  rw [flagsAt, BitVec.and_or_distrib_right, BitVec.and_assoc, outside,
    and_eq_zero_of_within within apart]
  exact BitVec.or_zero

/-- The speed can be read back. -/
theorem flagsAt_speed
    (within : speed &&& (CBAUD ||| CBAUDEX) = speed) :
    flagsAt c_cflag speed &&& (CBAUD ||| CBAUDEX) = speed := by
  have none : ~~~(CBAUD ||| CBAUDEX) &&& (CBAUD ||| CBAUDEX) = 0#32 := rfl
  rw [flagsAt, BitVec.and_or_distrib_right, BitVec.and_assoc, none,
    within, BitVec.and_zero]
  exact BitVec.zero_or

theorem flagsAt_flagsAt :
    flagsAt (flagsAt c_cflag speed) speed = flagsAt c_cflag speed := by
  ext i inside
  simp only [flagsAt, BitVec.getElem_or, BitVec.getElem_and]
  cases speed[i] <;> simp

end Termios

/-! ## The driver -/

/-- The bits of `c_cflag` that give the size of a character. -/
def CSIZE : BitVec 32 := 0x0030

/-- The data bits of a character, for the size in `c_cflag`. -/
def Termios.dataMask (settings : Termios) : Byte :=
  if settings.c_cflag &&& CSIZE = CS5 then 0x1f
  else if settings.c_cflag &&& CSIZE = CS6 then 0x3f
  else if settings.c_cflag &&& CSIZE = CS7 then 0x7f
  else 0xff

/-- The byte that the driver makes of a character that arrives. -/
def Termios.receive (settings : Termios) (character : Byte) : Byte :=
  if settings.c_iflag &&& ISTRIP ≠ 0 then
    character &&& settings.dataMask &&& 0x7f
  else
    character &&& settings.dataMask

/-- The driver does nothing else to the data with these settings. -/
def Termios.Plain (settings : Termios) : Prop :=
  settings.c_lflag = 0 ∧
    settings.c_iflag &&& ~~~(IGNBRK ||| INPCK ||| ISTRIP) = 0

/--
The terminal while these characters arrive, free of parity errors and breaks.
A read may fail, or hand out any number of the bytes that come next.
-/
def terminal (settings : Termios) (characters : List Byte) :
    ReadDevice := fun earlier event =>
  match event with
  | .waited .. => True
  | .failed .. => True
  | .handed _ _ bytes =>
      settings.Plain →
        bytes <+:
            (characters.map settings.receive).drop
              (receivedBytes earlier).length ∧
          bytes.length ≤ maxRead

/-- A read that found nothing, and returned zero as `VMIN` is zero. -/
def ReadEvent.FoundNothing : ReadEvent → Bool
  | .handed _ _ [] => true
  | _ => false

/-- The number of reads that found nothing. -/
def emptyReads (events : List ReadEvent) : Nat :=
  events.countP ReadEvent.FoundNothing

/--
The terminal when all characters arrive, before the call or in the course of
it: no read fails, and at most `most` of them find nothing while something is
missing.
-/
def lateTerminal (settings : Termios) (characters : List Byte)
    (most : Nat) : ReadDevice := fun earlier event =>
  match event with
  | .waited .. => True
  | .failed .. => False
  | .handed data count bytes =>
      terminal settings characters earlier (.handed data count bytes) ∧
        (bytes = [] → 0 < count →
          (receivedBytes earlier).length < characters.length →
            emptyReads earlier < most)

/-- Applying settings to the terminal; a failure changes nothing. -/
def terminalKernel : Kernel posix (Option Termios) :=
  fun applied request answer applied' =>
    match request, answer with
    | .tcsetattr _ settings, error =>
        error < 0 ∧ applied' = applied ∨
          0 ≤ error ∧ applied' = some settings
    | _, _ => applied' = applied

namespace Serial

/-! ## The settings of the constructor -/

/-- A constructor that returns has applied its settings. -/
theorem construct_applies
    (path : String) (baudrate : BitVec 32) (databits : DataBits)
    (parity : Parity) (stopbits : StopBits) (handshake : Handshake)
    (raw : Serial) (before : Option Termios) :
    (construct path baudrate databits parity stopbits
        handshake).Ensures terminalKernel
      (fun outcome _ applied =>
        outcome = .returned () → ∃ termios, applied = some termios ∧
          settings baudrate databits parity stopbits handshake =
            .ok termios)
      raw before := by
  simp only [construct, sysOpen, sysTcsetattr, sysClose,
    Routine.ensures_bind, Routine.ensures_ofExcept,
    Routine.ensures_update, Routine.ensures_call, Routine.ensures_done,
    Routine.ensures_ite, Routine.ensures_raise, Routine.ensures_pure,
    Routine.afterwards_returned, Routine.afterwards_threw,
    terminalKernel]
  refine ⟨fun termios agreed => ?_, fun error _ => by rintro ⟨⟩⟩
  rintro fd _ rfl
  refine ⟨fun _ => by rintro ⟨⟩, fun _ => ?_⟩
  rintro error _ (⟨failed, rfl⟩ | ⟨applied, rfl⟩)
  · exact
      ⟨fun _ _ _ _ => by rintro ⟨⟩, fun valid => absurd failed valid⟩
  · exact
      ⟨fun _ _ _ _ => by rintro ⟨⟩, fun _ _ => ⟨termios, rfl, agreed⟩⟩

/-- The number of data bits. -/
def DataBits.count : DataBits → Nat
  | .five => 5
  | .six => 6
  | .seven => 7
  | .eight => 8
  | .other _ => 0

/-- A step before a result has a result of its own. -/
theorem ok_of_bind
    {Value Result : Type} {first : Except Exception Value}
    {next : Value → Except Exception Result} {result : Result}
    (returned : (first >>= next) = .ok result) :
    ∃ value, first = .ok value ∧ next value = .ok result := by
  cases first with
  | error error => cases returned
  | ok value => exact ⟨value, rfl, returned⟩

/-- A baud rate has the speed that the table gives it. -/
theorem mem_baudrates
    {baudrate speed : BitVec 32}
    (translated : baudrateToBits baudrate = .ok speed) :
    (baudrate, speed) ∈ baudrates := by
  unfold baudrateToBits at translated
  cases found : baudrates.lookup baudrate with
  | none =>
      rw [found] at translated
      cases translated
  | some bits =>
      rw [found] at translated
      cases translated
      rcases List.lookup_eq_some_iff.mp found with
        ⟨earlier, later, split, _⟩
      rw [split]
      exact List.mem_append_right _ List.mem_cons_self

/-- No baud rate has the speed zero, or bits that belong to no speed. -/
theorem speed_of_mem_baudrates :
    ∀ entry ∈ baudrates,
      entry.2 ≠ 0 ∧ entry.2 &&& (CBAUD ||| CBAUDEX) = entry.2 := by
  -- Asked of the list, not of all pairs of words.
  have every :
      (baudrates.all fun entry =>
        entry.2 ≠ 0 ∧ entry.2 &&& (CBAUD ||| CBAUDEX) = entry.2) =
        true := by
    decide
  intro entry member
  exact of_decide_eq_true (List.all_eq_true.mp every entry member)

/-- The control flags of four arguments, joined. -/
def controlFlags (databitsFlags parityFlags stopbitsFlags
    handshakeFlags : BitVec 32) : BitVec 32 :=
  CREAD ||| CLOCAL ||| databitsFlags ||| parityFlags |||
    stopbitsFlags ||| handshakeFlags

/-- The settings, by the arguments that their parts come from. -/
structure Translates (baudrate : BitVec 32) (databits : DataBits)
    (parity : Parity) (stopbits : StopBits) (handshake : Handshake)
    (termios : Termios)
    (databitsFlags parityFlags stopbitsFlags handshakeFlags
      speed : BitVec 32) : Prop where
  sized : databits.flags = .ok databitsFlags
  checked : parity.flags = .ok parityFlags
  stopped : stopbits.flags = .ok stopbitsFlags
  shaken : handshake.flags = .ok handshakeFlags
  paced : baudrateToBits baudrate = .ok speed
  input : termios.c_iflag = inputFlags parity handshake
  localFlags : termios.c_lflag = 0
  control : termios.c_cflag =
    Termios.flagsAt
      (controlFlags databitsFlags parityFlags stopbitsFlags
        handshakeFlags)
      speed
  ispeed : termios.ispeed = speed
  ospeed : termios.ospeed = speed

/-- No input flag of the constructor is the one that a speed may set. -/
theorem inputFlags_and (parity : Parity) (handshake : Handshake) :
    inputFlags parity handshake &&& ~~~IBAUD0 =
      inputFlags parity handshake := by
  unfold inputFlags
  split <;> split <;> split <;> rfl

/-- The control flags join those of four arguments and the speed. -/
theorem translates_of_settings
    {baudrate : BitVec 32} {databits : DataBits} {parity : Parity}
    {stopbits : StopBits} {handshake : Handshake} {termios : Termios}
    (accepted :
      settings baudrate databits parity stopbits handshake = .ok termios) :
    ∃ databitsFlags parityFlags stopbitsFlags handshakeFlags speed,
      Translates baudrate databits parity stopbits handshake termios
        databitsFlags parityFlags stopbitsFlags handshakeFlags speed := by
  rcases ok_of_bind accepted with ⟨databitsFlags, sized, accepted⟩
  rcases ok_of_bind accepted with ⟨parityFlags, checked, accepted⟩
  rcases ok_of_bind accepted with ⟨stopbitsFlags, stopped, accepted⟩
  rcases ok_of_bind accepted with ⟨handshakeFlags, shaken, accepted⟩
  rcases ok_of_bind accepted with ⟨speed, paced, accepted⟩
  rcases ok_of_bind accepted with ⟨outgoing, paced', accepted⟩
  obtain rfl : speed = outgoing :=
    Except.ok.inj (paced.symm.trans paced')
  have positive : speed ≠ 0 :=
    (speed_of_mem_baudrates _ (mem_baudrates paced)).1
  cases accepted
  refine
    ⟨databitsFlags, parityFlags, stopbitsFlags, handshakeFlags, speed,
      sized, checked, stopped, shaken, paced, ?_, ?_, ?_, ?_, rfl⟩
  all_goals rw [Termios.cfsetospeed, Termios.cfsetispeed, if_neg positive]
  · exact inputFlags_and parity handshake
  · exact Termios.flagsAt_flagsAt

section Flags

variable
    {baudrate : BitVec 32} {databits : DataBits} {parity : Parity}
    {stopbits : StopBits} {handshake : Handshake} {termios : Termios}
    {databitsFlags parityFlags stopbitsFlags handshakeFlags
      speed : BitVec 32}

/-! Every argument has bits of its own among the control flags. -/

theorem DataBits.flags_within
    (sized : databits.flags = .ok databitsFlags) :
    databitsFlags &&& CSIZE = databitsFlags := by
  cases databits <;> cases sized <;> rfl

theorem Parity.flags_within (checked : parity.flags = .ok parityFlags) :
    parityFlags &&& (PARENB ||| PARODD) = parityFlags := by
  cases parity <;> cases checked <;> rfl

theorem StopBits.flags_within
    (stopped : stopbits.flags = .ok stopbitsFlags) :
    stopbitsFlags &&& CSTOPB = stopbitsFlags := by
  cases stopbits <;> cases stopped <;> rfl

theorem Handshake.flags_within
    (shaken : handshake.flags = .ok handshakeFlags) :
    handshakeFlags &&& CRTSCTS = handshakeFlags := by
  cases handshake <;> cases shaken <;> rfl

theorem controlFlags_and (mask : BitVec 32) :
    controlFlags databitsFlags parityFlags stopbitsFlags
          handshakeFlags &&& mask =
      (CREAD ||| CLOCAL) &&& mask ||| databitsFlags &&& mask |||
          parityFlags &&& mask ||| stopbitsFlags &&& mask |||
        handshakeFlags &&& mask := by
  simp only [controlFlags, BitVec.and_or_distrib_right]

/-- Flags that belong to no speed are those of the four arguments. -/
theorem Translates.control_and
    (translates :
      Translates baudrate databits parity stopbits handshake termios
        databitsFlags parityFlags stopbitsFlags handshakeFlags speed)
    {mask : BitVec 32} (apart : (CBAUD ||| CBAUDEX) &&& mask = 0#32) :
    termios.c_cflag &&& mask =
      controlFlags databitsFlags parityFlags stopbitsFlags
        handshakeFlags &&& mask := by
  rw [translates.control]
  exact
    Termios.flagsAt_and
      (speed_of_mem_baudrates _ (mem_baudrates translates.paced)).2
      apart

/-- The size of a character is that of the data bits. -/
theorem Translates.csize
    (translates :
      Translates baudrate databits parity stopbits handshake termios
        databitsFlags parityFlags stopbitsFlags handshakeFlags speed) :
    termios.c_cflag &&& CSIZE = databitsFlags := by
  rw [translates.control_and rfl, controlFlags_and,
    DataBits.flags_within translates.sized,
    and_eq_zero_of_within (Parity.flags_within translates.checked) rfl,
    and_eq_zero_of_within (StopBits.flags_within translates.stopped) rfl,
    and_eq_zero_of_within (Handshake.flags_within translates.shaken) rfl,
    BitVec.or_zero, BitVec.or_zero, BitVec.or_zero]
  exact BitVec.zero_or

end Flags

/-- The settings that arguments without software flow control lead to. -/
structure Fits (databits : DataBits) (parity : Parity)
    (termios : Termios) : Prop where
  plain : termios.Plain
  size : databits.flags = .ok (termios.c_cflag &&& CSIZE)
  strips : termios.c_iflag &&& ISTRIP ≠ 0 ↔ parity ≠ .none

theorem fits_of_settings
    {baudrate : BitVec 32} {databits : DataBits} {parity : Parity}
    {stopbits : StopBits} {handshake : Handshake} {termios : Termios}
    (accepted :
      settings baudrate databits parity stopbits handshake = .ok termios)
    (hardware : handshake = .none ∨ handshake = .rtsCts) :
    Fits databits parity termios := by
  rcases translates_of_settings accepted with
    ⟨databitsFlags, parityFlags, stopbitsFlags, handshakeFlags, speed,
      translates⟩
  have flags :
      termios.c_iflag =
        IGNBRK ||| if parity ≠ .none then INPCK ||| ISTRIP else 0 := by
    have noXon : handshake ≠ .xonXoff := by
      rcases hardware with rfl | rfl <;> decide
    have noXonToo : handshake ≠ .rtsCtsXonXoff := by
      rcases hardware with rfl | rfl <;> decide
    rw [translates.input, inputFlags, if_neg noXon, if_neg noXonToo]
    exact BitVec.or_zero.trans BitVec.or_zero
  refine ⟨⟨translates.localFlags, ?_⟩, ?_, ?_⟩
  · rw [flags]
    split <;> rfl
  · rw [translates.csize, translates.sized]
  · rw [flags]
    by_cases none : parity = .none
    · rw [if_neg (not_not.mpr none)]
      exact iff_of_false (by decide) (not_not.mpr none)
    · rw [if_pos none]
      exact iff_of_true (by decide) none

/-! ## Single characters -/

/-- The driver keeps all data bits. -/
theorem Fits.and_dataMask
    {databits : DataBits} {parity : Parity} {termios : Termios}
    (fits : Fits databits parity termios) {character : Byte}
    (small : character.toNat < 2 ^ databits.count) :
    character &&& termios.dataMask = character := by
  have size := fits.size
  unfold Termios.dataMask
  cases databits with
  | five =>
      rw [if_pos (Except.ok.inj size).symm]
      revert character
      decide
  | six =>
      rw [← Except.ok.inj size, if_neg (by decide), if_pos rfl]
      revert character
      decide
  | seven =>
      rw [← Except.ok.inj size, if_neg (by decide), if_neg (by decide),
        if_pos rfl]
      revert character
      decide
  | eight =>
      rw [← Except.ok.inj size, if_neg (by decide), if_neg (by decide),
        if_neg (by decide)]
      exact BitVec.and_allOnes
  | other value => cases size

theorem and_seven_bits_iff (character : Byte) :
    character &&& 0x7f = character ↔ character.toNat < 128 := by
  revert character
  decide

/-- A character arrives as it was sent, unless its top bit is stripped. -/
theorem Fits.receive_eq_iff
    {databits : DataBits} {parity : Parity} {termios : Termios}
    (fits : Fits databits parity termios) {character : Byte}
    (small : character.toNat < 2 ^ databits.count) :
    termios.receive character = character ↔
      parity = .none ∨ character.toNat < 128 := by
  unfold Termios.receive
  rw [fits.and_dataMask small]
  by_cases none : parity = .none
  · have kept : ¬ termios.c_iflag &&& ISTRIP ≠ 0 :=
      fun strips => fits.strips.mp strips none
    rw [if_neg kept]
    exact iff_of_true rfl (.inl none)
  · rw [if_pos (fits.strips.mpr none), or_iff_right none]
    exact and_seven_bits_iff character

theorem Fits.map_receive_eq_iff
    {databits : DataBits} {parity : Parity} {termios : Termios}
    (fits : Fits databits parity termios) {characters : List Byte}
    (small : ∀ character ∈ characters,
      character.toNat < 2 ^ databits.count) :
    characters.map termios.receive = characters ↔
      parity = .none ∨
        ∀ character ∈ characters, character.toNat < 128 := by
  have pointwise :=
    @List.map_inj_left _ _ characters termios.receive id
  rw [List.map_id] at pointwise
  rw [pointwise]
  constructor
  · intro same
    refine or_iff_not_imp_left.mpr fun checked character member => ?_
    have received := same character member
    exact
      ((fits.receive_eq_iff (small character member)).mp
        received).resolve_left checked
  · intro kept character member
    apply (fits.receive_eq_iff (small character member)).mpr
    exact kept.imp_right fun every => every character member

end Serial

/-! ## What is received -/

/-- What was handed out is the beginning of what arrived. -/
theorem arrived_starts_with_received
    {termios : Termios} (plain : termios.Plain)
    {characters : List Byte} {events : List ReadEvent}
    (allowed : History.Every (terminal termios characters) events) :
    receivedBytes events <+: characters.map termios.receive := by
  induction events using List.reverseRecOn with
  | nil => exact List.nil_prefix
  | append_singleton events event induction =>
      rcases induction allowed.init with ⟨rest, arrived⟩
      rw [receivedBytes_concat]
      cases event with
      | waited given elapsed ret left =>
          rw [ReadEvent.bytes, List.append_nil]
          exact ⟨rest, arrived⟩
      | failed data count =>
          rw [ReadEvent.bytes, List.append_nil]
          exact ⟨rest, arrived⟩
      | handed data count bytes =>
          rcases (allowed.last plain).1 with ⟨later, next⟩
          rw [← arrived, List.drop_left] at next
          refine ⟨later, ?_⟩
          rw [ReadEvent.bytes, List.append_assoc, next, arrived]

/-- A buffer that is full holds what arrived. -/
theorem slice_of_full
    {termios : Termios} (plain : termios.Plain)
    {characters : List Byte} {memory : ByteMemory}
    {buffer : MutableBuffer} {intake : Intake}
    (sized : buffer.size = characters.length)
    (fills :
      FillsInOrder (terminal termios characters) memory buffer intake)
    (full : (receivedBytes intake.events).length = buffer.size) :
    intake.memory.slice buffer.data buffer.size =
      characters.map termios.receive := by
  have arrived :
      receivedBytes intake.events = characters.map termios.receive := by
    apply (arrived_starts_with_received plain fills.allowed).eq_of_length
    rw [full, sized, List.length_map]
  rw [fills.stored, arrived]
  have length : (characters.map termios.receive).length = buffer.size := by
    rw [List.length_map, sized]
  rw [← length, ByteMemory.slice_overwrite]

theorem terminal_narrow
    {termios : Termios} (plain : termios.Plain)
    (characters : List Byte) :
    (terminal termios characters).Narrow := by
  intro earlier data count bytes handed
  have most := (handed plain).2
  rw [maxRead] at most
  omega

@[simp]
theorem emptyReads_concat
    (events : List ReadEvent) (event : ReadEvent) :
    emptyReads (events ++ [event]) =
      emptyReads events + if event.FoundNothing then 1 else 0 := by
  rw [emptyReads, List.countP_append, List.countP_singleton]
  rfl

theorem lateTerminal_terminal
    {termios : Termios} {characters : List Byte} {most : Nat}
    {earlier : List ReadEvent} {event : ReadEvent}
    (late : lateTerminal termios characters most earlier event) :
    terminal termios characters earlier event := by
  cases event with
  | waited given elapsed ret left => trivial
  | failed data count => trivial
  | handed data count bytes => exact late.1

/-- Such a terminal may always hand out what comes next. -/
theorem lateTerminal_total
    (fd : Int) (termios : Termios) (characters : List Byte)
    (most : Nat) :
    (readKernel fd (lateTerminal termios characters most)).Total := by
  apply readKernel_total
  · exact fun earlier given => ⟨0, 0, given, trivial⟩
  · intro earlier data count
    generalize place : (receivedBytes earlier).length = taken
    refine
      .inr
        ⟨((characters.map termios.receive).drop taken).take
            (min count maxRead),
          ?_, fun _ => ⟨?_, ?_⟩, fun nothing asked remains => ?_⟩
    · exact
        Nat.le_trans (List.length_take_le _ _) (Nat.min_le_left _ _)
    · rw [place]
      exact List.take_prefix _ _
    · exact
        Nat.le_trans (List.length_take_le _ _) (Nat.min_le_right _ _)
    · rw [place] at remains
      have none := congrArg List.length nothing
      rw [List.length_take, List.length_drop, List.length_map, maxRead,
        List.length_nil] at none
      omega

/-! ## Calls of `read_all` -/

/-- The call has returned, and its buffer holds these bytes. -/
def Holds (buffer : MutableBuffer) (bytes : List Byte) :
    Outcome Exception Unit → Unit → Intake → Prop :=
  fun outcome _ intake =>
    outcome = .returned () ∧
      intake.memory.slice buffer.data buffer.size = bytes

namespace Stream

variable
    {fd : Int} {memory : ByteMemory} {termios : Termios}
    {characters : List Byte} {buffer : MutableBuffer}

/-- A call that returns leaves what arrived in the buffer. -/
theorem readAll_slice_of_returned
    (plain : termios.Plain)
    (sized : buffer.size = characters.length)
    {point : (readAll fd buffer).Point Intake}
    (reaches :
      (readAll fd buffer).Reaches
        (readKernel fd (terminal termios characters)) () ⟨memory, []⟩
        point)
    (returned : point.outcome = some (.returned ())) :
    point.state.memory.slice buffer.data buffer.size =
      characters.map termios.receive := by
  have narrow := terminal_narrow plain characters
  rcases
      ((readAll_keeps_filling narrow buffer).sustains
        fillsFrom_start).throughout reaches with
    ⟨fills, ended⟩
  exact slice_of_full plain sized fills (ended _ returned)

/-- When all characters arrive, the call returns with them. -/
theorem readAll_ends_of_late
    (most : Nat) (plain : termios.Plain)
    (sized : buffer.size = characters.length) :
    (readAll fd buffer).Ends
      (readKernel fd (lateTerminal termios characters most))
      (Holds buffer (characters.map termios.receive))
      ⟨(readAll fd buffer).entry, (), ⟨memory, []⟩⟩ := by
  apply Routine.Loop.ends_of_measure
    (lateTerminal_total fd termios characters most)
    (fun (cursor : MutableBuffer) _ intake =>
      FillsFrom (lateTerminal termios characters most) memory buffer
        cursor intake)
    (fun (cursor : MutableBuffer) intake =>
      cursor.size + (most - emptyReads intake.events))
  · intro cursor _ intake filled
    have size := filled.size
    apply filled.upholds_readAll trivial
    · exact fun _ _ _ never _ => never.elim
    · intro remains bytes fits may next
      have left :
          (receivedBytes intake.events).length < characters.length := by
        omega
      have small := (may.1 plain).2
      rw [maxRead] at small
      refine ⟨by omega, trivial, next, ?_⟩
      rw [Buffer.advance_size fits, Intake.record, emptyReads_concat]
      -- Either the cursor moves on, or the read is one of the empty ones.
      cases bytes with
      | nil =>
          have early := may.2 rfl remains left
          simp only [ReadEvent.FoundNothing, if_true, List.length_nil]
          omega
      | cons byte bytes =>
          simp only [ReadEvent.FoundNothing, List.length_cons] at fits ⊢
          omega
    · intro full
      have fills := filled.2.mono fun earlier event => lateTerminal_terminal
      exact ⟨rfl, slice_of_full plain sized fills full⟩
  · exact fillsFrom_start

end Stream

/-! ## Transparency -/

namespace Serial

/--
For every accepted choice of arguments without software flow control: a call
of `read_all` that returns leaves in its buffer the characters that were sent
exactly if there is no parity or no character uses its top bit.  When all
characters arrive sooner or later, the call does return, with them or without:
any number of reads may find nothing before.
-/
theorem read_all_transparent_iff
    {path : String} {baudrate : BitVec 32} {databits : DataBits}
    {parity : Parity} {stopbits : StopBits} {handshake : Handshake}
    {raw serial : Serial} {before applied : Option Termios}
    (constructed :
      (construct path baudrate databits parity stopbits
          handshake).Executes terminalKernel
        raw before (.returned ()) serial applied)
    (hardware : handshake = .none ∨ handshake = .rtsCts)
    {characters : List Byte}
    (small : ∀ character ∈ characters,
      character.toNat < 2 ^ databits.count)
    (memory : ByteMemory) {buffer : MutableBuffer}
    (sized : buffer.size = characters.length) :
    ∃ termios, applied = some termios ∧
      (∀ point : (serial.readAll buffer).Point Intake,
        (serial.readAll buffer).Reaches
            (readKernel serial.fd_ (terminal termios characters)) ()
            ⟨memory, []⟩ point →
          point.outcome = some (.returned ()) →
            (point.state.memory.slice buffer.data buffer.size =
                characters ↔
              parity = .none ∨
                ∀ character ∈ characters, character.toNat < 128)) ∧
      ∀ most,
        (serial.readAll buffer).Ends
            (readKernel serial.fd_ (lateTerminal termios characters most))
            (Holds buffer characters)
            ⟨(serial.readAll buffer).entry, (), ⟨memory, []⟩⟩ ↔
          parity = .none ∨
            ∀ character ∈ characters, character.toNat < 128 := by
  rcases
      (construct_applies path baudrate databits parity stopbits handshake
        raw before).of_executes constructed rfl with
    ⟨termios, applied, accepted⟩
  have fits := fits_of_settings accepted hardware
  have same := fits.map_receive_eq_iff small
  refine ⟨termios, applied, fun point reaches returned => ?_, fun most => ?_⟩
  · rw [Stream.readAll_slice_of_returned fits.plain sized reaches
      returned]
    exact same
  · have late :
        (serial.readAll buffer).Ends
          (readKernel serial.fd_ (lateTerminal termios characters most))
          (Holds buffer (characters.map termios.receive))
          ⟨(serial.readAll buffer).entry, (), ⟨memory, []⟩⟩ :=
      Stream.readAll_ends_of_late most fits.plain sized
    constructor
    · intro ends
      rcases (late.and ends).run with
        ⟨_, _, _, _, ⟨_, arrived⟩, ⟨_, kept⟩⟩
      exact same.mp (arrived.symm.trans kept)
    · intro kept
      rw [same.mpr kept] at late
      exact late

/-! ## One character -/

/-- The settings of a port with eight data bits at 9600 baud. -/
def eightBits (parity : Parity) : Termios where
  c_iflag := inputFlags parity .none
  c_oflag := 0
  c_cflag :=
    CREAD ||| CLOCAL ||| CS8 |||
      (if parity = .none then 0 else PARENB) ||| 0xd
  c_lflag := 0
  ispeed := 0xd
  ospeed := 0xd

/-- Opening `/dev/ttyS0` as descriptor 3, without parity or with even. -/
theorem construct_eightBits
    {parity : Parity} (checked : parity = .none ∨ parity = .even) :
    (construct "/dev/ttyS0" 9600 .eight parity .one .none).Executes
      terminalKernel ⟨-1⟩ none (.returned ()) ⟨3⟩
      (some (eightBits parity)) := by
  rcases checked with rfl | rfl
  · refine Routine.Executes.call (3 : Int) rfl ?_
    refine Routine.Executes.call (0 : Int) (.inr ⟨by decide, rfl⟩) ?_
    exact ⟨rfl, rfl, rfl⟩
  · refine Routine.Executes.call (3 : Int) rfl ?_
    refine Routine.Executes.call (0 : Int) (.inr ⟨by decide, rfl⟩) ?_
    exact ⟨rfl, rfl, rfl⟩

/-- A buffer of one byte. -/
def oneByte : MutableBuffer := ⟨0, 1, by decide⟩

/-- Without parity `0x80` arrives, after at most two reads without it. -/
theorem top_bit_arrives :
    (Serial.readAll ⟨3⟩ oneByte).Ends
      (readKernel 3 (lateTerminal (eightBits .none) [0x80] 2))
      (Holds oneByte [0x80])
      ⟨(Serial.readAll ⟨3⟩ oneByte).entry, (), ⟨fun _ => 0, []⟩⟩ := by
  rcases
      @read_all_transparent_iff _ _ _ _ _ _ _ _ _ _
        (construct_eightBits (.inl rfl)) (.inl rfl) [0x80] (by decide)
        (fun _ => 0) oneByte rfl with
    ⟨termios, same, _, ends⟩
  cases same
  exact (ends 2).mpr (.inl rfl)

/-- With parity the character `0x80` arrives as `0x00`. -/
theorem top_bit_stripped :
    (construct "/dev/ttyS0" 9600 .eight .even .one .none).Executes
        terminalKernel ⟨-1⟩ none (.returned ()) ⟨3⟩
        (some (eightBits .even)) ∧
      ∃ point : (Serial.readAll ⟨3⟩ oneByte).Point Intake,
        (Serial.readAll ⟨3⟩ oneByte).Reaches
            (readKernel 3 (terminal (eightBits .even) [0x80])) ()
            ⟨fun _ => 0, []⟩ point ∧
          point.outcome = some (.returned ()) ∧
          point.state.memory.slice 0 1 ≠ [0x80] := by
  have hands :
      terminal (eightBits .even) [0x80] [] (.handed 0 1 [0x00]) :=
    fun _ => ⟨⟨[], rfl⟩, by decide⟩
  have reaches :=
    @Stream.readAll_reaches_round 3 (fun _ => 0) oneByte _ [0x00]
      (by decide) (by decide) hands
  exact
    ⟨construct_eightBits (.inr rfl), _, reaches, rfl, by decide⟩

end Serial

end Periphery
