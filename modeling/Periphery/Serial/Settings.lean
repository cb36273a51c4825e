import Periphery.Serial.Transparency

/-!
# Arguments and terminal settings

The constructor of `Serial` checks its arguments one after the other, and
translates them to flags and speeds.  The translation loses nothing: what was
asked for can be read off the settings that the terminal got.
-/

namespace Periphery.Serial

/-- The arguments of the constructor, apart from the path. -/
structure Arguments where
  baudrate : BitVec 32
  databits : DataBits
  parity : Parity
  stopbits : StopBits
  handshake : Handshake
deriving DecidableEq, Repr

namespace Arguments

/-- The settings for these arguments. -/
def settings (arguments : Arguments) : Except Exception Termios :=
  Serial.settings arguments.baudrate arguments.databits
    arguments.parity arguments.stopbits arguments.handshake

/-- `Serial::Serial` with these arguments. -/
def construct (path : String) (arguments : Arguments) :
    Method Serial Unit :=
  Serial.construct path arguments.baudrate arguments.databits
    arguments.parity arguments.stopbits arguments.handshake

end Arguments

/-! ## What is wrong with arguments -/

def DataBits.Known : DataBits → Bool
  | .other _ => false
  | _ => true

def Parity.Known : Parity → Bool
  | .other _ => false
  | _ => true

def StopBits.Known : StopBits → Bool
  | .other _ => false
  | _ => true

def Handshake.Known : Handshake → Bool
  | .other _ => false
  | _ => true

/-- The text of a check, if the check fails. -/
def complaint (passes : Bool) (what : String) : List String :=
  if passes then [] else [what]

/-- All that is wrong with the arguments, in the order of the checks. -/
def Arguments.complaints (arguments : Arguments) : List String :=
  complaint arguments.databits.Known "databits invalid" ++
    (complaint arguments.parity.Known "parity invalid" ++
      (complaint arguments.stopbits.Known "stopbits invalid" ++
        (complaint arguments.handshake.Known "handshake invalid" ++
          (complaint (baudrates.lookup arguments.baudrate).isSome
            "baudrate invalid"))))

section Checking

variable {Value Result : Type}

/-- A check gives a value, or its text as the error. -/
def Checks (passes : Bool) (what : String)
    (result : Except Exception Value) : Prop :=
  if passes then ∃ value, result = .ok value
  else result = .error (.invalidArgument what)

/-- Without complaints there is a value; else the first is the error. -/
def Judges (complaints : List String)
    (result : Except Exception Value) : Prop :=
  match complaints with
  | [] => ∃ value, result = .ok value
  | what :: _ => result = .error (.invalidArgument what)

/-- A check, with others behind it. -/
theorem Checks.bind
    {passes : Bool} {what : String} {complaints : List String}
    {result : Except Exception Value}
    {next : Value → Except Exception Result}
    (checks : Checks passes what result)
    (others : ∀ value, result = .ok value →
      Judges complaints (next value)) :
    Judges (complaint passes what ++ complaints) (result >>= next) := by
  cases passes with
  | true =>
      rcases checks with ⟨value, rfl⟩
      exact others value rfl
  | false =>
      obtain rfl : result = .error (.invalidArgument what) := checks
      rfl

end Checking

theorem DataBits.checks (databits : DataBits) :
    Checks databits.Known "databits invalid" databits.flags := by
  cases databits with
  | other value => rfl
  | five => exact ⟨_, rfl⟩
  | six => exact ⟨_, rfl⟩
  | seven => exact ⟨_, rfl⟩
  | eight => exact ⟨_, rfl⟩

theorem Parity.checks (parity : Parity) :
    Checks parity.Known "parity invalid" parity.flags := by
  cases parity with
  | other value => rfl
  | none => exact ⟨_, rfl⟩
  | even => exact ⟨_, rfl⟩
  | odd => exact ⟨_, rfl⟩

theorem StopBits.checks (stopbits : StopBits) :
    Checks stopbits.Known "stopbits invalid" stopbits.flags := by
  cases stopbits with
  | other value => rfl
  | one => exact ⟨_, rfl⟩
  | two => exact ⟨_, rfl⟩

theorem Handshake.checks (handshake : Handshake) :
    Checks handshake.Known "handshake invalid" handshake.flags := by
  cases handshake with
  | other value => rfl
  | none => exact ⟨_, rfl⟩
  | rtsCts => exact ⟨_, rfl⟩
  | xonXoff => exact ⟨_, rfl⟩
  | rtsCtsXonXoff => exact ⟨_, rfl⟩

theorem baudrateToBits_checks (baudrate : BitVec 32) :
    Checks (baudrates.lookup baudrate).isSome "baudrate invalid"
      (baudrateToBits baudrate) := by
  unfold baudrateToBits
  cases baudrates.lookup baudrate with
  | none => rfl
  | some bits => exact ⟨bits, rfl⟩

/-- The settings exist, or the first complaint is the error. -/
theorem Arguments.judged (arguments : Arguments) :
    Judges arguments.complaints arguments.settings := by
  refine arguments.databits.checks.bind fun databitsFlags _ => ?_
  refine arguments.parity.checks.bind fun parityFlags _ => ?_
  refine arguments.stopbits.checks.bind fun stopbitsFlags _ => ?_
  refine arguments.handshake.checks.bind fun handshakeFlags _ => ?_
  have checks := baudrateToBits_checks arguments.baudrate
  rw [← List.append_nil (complaint _ _)]
  refine checks.bind fun speed valid => ?_
  rw [valid]
  exact ⟨_, rfl⟩

/-! ## Reading settings -/

/-- `cfgetospeed`: the speed among the control flags. -/
def outputSpeed (termios : Termios) : BitVec 32 :=
  termios.c_cflag &&& (CBAUD ||| CBAUDEX)

/-- `cfgetispeed`: the same speed, unless it was set to zero. -/
def inputSpeed (termios : Termios) : BitVec 32 :=
  if termios.c_iflag &&& IBAUD0 = 0 then
    termios.c_cflag &&& (CBAUD ||| CBAUDEX)
  else 0

section Flags

variable
    {baudrate : BitVec 32} {databits : DataBits} {parity : Parity}
    {stopbits : StopBits} {handshake : Handshake} {termios : Termios}
    {databitsFlags parityFlags stopbitsFlags handshakeFlags
      speed : BitVec 32}

/-- Both directions have the speed of the baud rate. -/
theorem Translates.speeds
    (translates :
      Translates baudrate databits parity stopbits handshake termios
        databitsFlags parityFlags stopbitsFlags handshakeFlags speed) :
    outputSpeed termios = speed ∧ inputSpeed termios = speed := by
  have within :=
    (speed_of_mem_baudrates _ (mem_baudrates translates.paced)).2
  have output : outputSpeed termios = speed := by
    rw [outputSpeed, translates.control]
    exact Termios.flagsAt_speed within
  have unset : termios.c_iflag &&& IBAUD0 = 0 := by
    rw [translates.input, ← inputFlags_and, BitVec.and_assoc]
    exact BitVec.and_zero
  refine ⟨output, ?_⟩
  rw [inputSpeed, if_pos unset]
  exact output

end Flags

end Periphery.Serial
