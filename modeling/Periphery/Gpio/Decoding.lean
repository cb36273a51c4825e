import Periphery.Gpio.Label
import Periphery.Gpio.Report

/-!
# Requests that are read back

The request for a line is all that the kernel learns of a pin.  It can be
read back: it tells the line, the text of the label and the configuration,
except that it does not tell the direction `Out` from `Low` and that it drops
the edge of an output.
-/

namespace Periphery

/-- The flag that disables the bias is none of the other flags. -/
def GpioHeader.DisableDistinct (header : GpioHeader) : Prop :=
  ∀ flag, header.requestDisable = some flag →
    flag ≠ 0 ∧ flag &&& 0x7f = 0

/-- Flags with no bit in common. -/
theorem hasFlag_of_disjoint
    {flags flag mask : BitVec 32} (inside : flag &&& mask = flag)
    (disjoint : flags &&& mask = 0) :
    hasFlag flags flag = false := by
  have none : flags &&& flag = 0 := by
    rw [← inside, BitVec.and_comm flag, ← BitVec.and_assoc, disjoint]
    exact BitVec.zero_and
  simp [hasFlag, none]

theorem hasFlag_comm (first second : BitVec 32) :
    hasFlag first second = hasFlag second first := by
  rw [hasFlag, hasFlag, BitVec.and_comm]

theorem hasFlag_self {flag : BitVec 32} (nonzero : flag ≠ 0) :
    hasFlag flag flag = true := by
  rw [hasFlag, BitVec.and_self]
  exact decide_eq_true nonzero

namespace GpioHeader.DisableDistinct

variable {header : GpioHeader} (distinct : header.DisableDistinct)

include distinct

/-- The other flags are not the one that disables the bias. -/
theorem any_eq_false
    {flags : BitVec 32} (inside : flags &&& 0x7f = flags) :
    header.requestDisable.any (hasFlag flags) = false := by
  cases defined : header.requestDisable with
  | none => rfl
  | some flag =>
      rw [Option.any_some, hasFlag_comm]
      exact hasFlag_of_disjoint inside (distinct flag defined).2

end GpioHeader.DisableDistinct

/-- What a request says about the line and its consumer. -/
structure LineUse where
  line : BitVec 32
  label : List Byte
  attributes : GpioPin.Attributes
deriving DecidableEq, Repr

namespace GpioPin

/-! ## The flags of a request -/

/-- Which flags a request has. -/
structure FlagSet where
  pullUp : Bool
  pullDown : Bool
  disable : Bool
  openDrain : Bool
  openSource : Bool
  activeLow : Bool
  output : Bool
deriving DecidableEq, Repr

def FlagSet.or (first second : FlagSet) : FlagSet where
  pullUp := first.pullUp || second.pullUp
  pullDown := first.pullDown || second.pullDown
  disable := first.disable || second.disable
  openDrain := first.openDrain || second.openDrain
  openSource := first.openSource || second.openSource
  activeLow := first.activeLow || second.activeLow
  output := first.output || second.output

/-- The flags of a request, one by one. -/
def flagSet (header : GpioHeader) (flags : BitVec 32) : FlagSet where
  pullUp := hasFlag flags GPIOHANDLE_REQUEST_BIAS_PULL_UP
  pullDown := hasFlag flags GPIOHANDLE_REQUEST_BIAS_PULL_DOWN
  disable := header.requestDisable.any (hasFlag flags)
  openDrain := hasFlag flags GPIOHANDLE_REQUEST_OPEN_DRAIN
  openSource := hasFlag flags GPIOHANDLE_REQUEST_OPEN_SOURCE
  activeLow := hasFlag flags GPIOHANDLE_REQUEST_ACTIVE_LOW
  output := hasFlag flags GPIOHANDLE_REQUEST_OUTPUT

/-- The flags that the four attributes ask for. -/
def Attributes.flagSet (wanted : Attributes) : FlagSet where
  pullUp := wanted.bias = .pullUp
  pullDown := wanted.bias = .pullDown
  disable := wanted.bias = .disable
  openDrain := wanted.drive = .openDrain
  openSource := wanted.drive = .openSource
  activeLow := wanted.invert = .on
  output := wanted.direction ≠ .input

/-! ## Reading a request -/

/-- The edges that an event request asks for. -/
def Edge.ofRequest (flags : BitVec 32) : Edge :=
  if flags = GPIOEVENT_REQUEST_BOTH_EDGES then .both
  else if flags = GPIOEVENT_REQUEST_RISING_EDGE then .rising
  else if flags = GPIOEVENT_REQUEST_FALLING_EDGE then .falling
  else .none

namespace FlagSet

/-- The bias that the flags ask for. -/
def bias (flags : FlagSet) : Bias :=
  if flags.pullUp then .pullUp
  else if flags.pullDown then .pullDown
  else if flags.disable then .disable
  else .default

/-- The drive that the flags ask for. -/
def drive (flags : FlagSet) : Drive :=
  if flags.openDrain then .openDrain
  else if flags.openSource then .openSource
  else .default

/-- The inversion that the flags ask for. -/
def invert (flags : FlagSet) : Invert :=
  if flags.activeLow then .on else .off

/-- The direction of a request that starts an output with a value. -/
def direction (flags : FlagSet) (value : Bool) : Direction :=
  if flags.output then
    if Bool.xor value flags.activeLow then .high else .low
  else .input

end FlagSet

/-- The line that a request is for. -/
def requestedNumber : LineRequest → BitVec 32
  | .handle request => request.lineoffsets.get ⟨0, first_lt⟩
  | .event request => request.lineoffset

/-- The edges that a request asks for. -/
def requestedEdge : LineRequest → Edge
  | .handle _ => .none
  | .event request => .ofRequest request.eventflags

/-- Everything that a request says. -/
def readRequest (header : GpioHeader) (request : LineRequest) :
    LineUse where
  line := requestedNumber request
  label := labelText request.consumerLabel.toList
  attributes :=
    let flags := flagSet header request.flags
    { direction := flags.direction (decide (request.value ≠ 0))
      edge := requestedEdge request
      bias := flags.bias
      drive := flags.drive
      invert := flags.invert }

/-! ## What is lost -/

/-- A configuration without what its request does not tell. -/
def Attributes.told (wanted : Attributes) : Attributes :=
  if wanted.direction = .input then wanted
  else
    { wanted with
      direction := if wanted.direction = .high then .high else .low
      edge := .none }

/-- How much of a label the request has room for. -/
def Attributes.labelRoom (wanted : Attributes) : Nat :=
  if wanted.direction = .input ∧ wanted.edge = .none then 32 else 31

/-! ## Flags of a configuration -/

section Flags

variable {header : GpioHeader}

theorem flagSet_or (first second : BitVec 32) :
    flagSet header (first ||| second) =
      (flagSet header first).or (flagSet header second) := by
  simp only [flagSet, FlagSet.or, hasFlag_or]
  cases header.requestDisable <;> simp

/-- Flags that do not disable the bias. -/
theorem flagSet_inside
    (distinct : header.DisableDistinct) {flags : BitVec 32}
    (inside : flags &&& 0x7f = flags) :
    flagSet header flags =
      { pullUp := hasFlag flags GPIOHANDLE_REQUEST_BIAS_PULL_UP
        pullDown := hasFlag flags GPIOHANDLE_REQUEST_BIAS_PULL_DOWN
        disable := false
        openDrain := hasFlag flags GPIOHANDLE_REQUEST_OPEN_DRAIN
        openSource := hasFlag flags GPIOHANDLE_REQUEST_OPEN_SOURCE
        activeLow := hasFlag flags GPIOHANDLE_REQUEST_ACTIVE_LOW
        output := hasFlag flags GPIOHANDLE_REQUEST_OUTPUT } := by
  rw [flagSet, distinct.any_eq_false inside]

theorem flagSet_bias
    (distinct : header.DisableDistinct) {bias : Bias}
    {flags : BitVec 32} (supported : bias.toRequest header = .ok flags) :
    flagSet header flags =
      { pullUp := bias = .pullUp
        pullDown := bias = .pullDown
        disable := bias = .disable
        openDrain := false
        openSource := false
        activeLow := false
        output := false } := by
  unfold Bias.toRequest at supported
  split at supported
  · rename_i requestDisable defined
    rcases distinct requestDisable defined with ⟨nonzero, disjoint⟩
    cases bias <;> cases supported
    · exact (flagSet_inside distinct (by decide)).trans rfl
    · exact (flagSet_inside distinct (by decide)).trans rfl
    · exact (flagSet_inside distinct (by decide)).trans rfl
    · have own : header.requestDisable.any (hasFlag flags) = true := by
        rw [defined, Option.any_some, hasFlag_self nonzero]
      have others : ∀ flag, flag &&& 0x7f = flag →
          hasFlag flags flag = false :=
        fun flag inside => hasFlag_of_disjoint inside disjoint
      simp only [flagSet, own,
        others GPIOHANDLE_REQUEST_BIAS_PULL_UP (by decide),
        others GPIOHANDLE_REQUEST_BIAS_PULL_DOWN (by decide),
        others GPIOHANDLE_REQUEST_OPEN_DRAIN (by decide),
        others GPIOHANDLE_REQUEST_OPEN_SOURCE (by decide),
        others GPIOHANDLE_REQUEST_ACTIVE_LOW (by decide),
        others GPIOHANDLE_REQUEST_OUTPUT (by decide)]
      decide
  · split at supported
    · cases supported
    · rename_i plain
      obtain rfl := Classical.not_not.mp plain
      cases supported
      exact (flagSet_inside distinct (by decide)).trans rfl

theorem flagSet_drive
    (distinct : header.DisableDistinct) {drive : Drive}
    {flags : BitVec 32}
    (supported : drive.toRequest header = .ok flags) :
    flagSet header flags =
      { pullUp := false
        pullDown := false
        disable := false
        openDrain := drive = .openDrain
        openSource := drive = .openSource
        activeLow := false
        output := false } := by
  unfold Drive.toRequest at supported
  split at supported
  · cases drive <;> cases supported <;>
      exact (flagSet_inside distinct (by decide)).trans rfl
  · split at supported
    · cases supported
    · rename_i plain
      obtain rfl := Classical.not_not.mp plain
      cases supported
      exact (flagSet_inside distinct (by decide)).trans rfl

theorem flagSet_invert
    (distinct : header.DisableDistinct) (invert : Invert) :
    flagSet header invert.toRequest =
      { pullUp := false
        pullDown := false
        disable := false
        openDrain := false
        openSource := false
        activeLow := invert = .on
        output := false } := by
  cases invert <;>
    exact (flagSet_inside distinct (by decide)).trans rfl

theorem flagSet_direction
    (distinct : header.DisableDistinct) (direction : Direction) :
    flagSet header direction.toRequest =
      { pullUp := false
        pullDown := false
        disable := false
        openDrain := false
        openSource := false
        activeLow := false
        output := direction ≠ .input } := by
  cases direction <;>
    exact (flagSet_inside distinct (by decide)).trans rfl

/-- The flags of a request are those that its attributes ask for. -/
theorem flagSet_eq
    (distinct : header.DisableDistinct) {wanted : Attributes}
    {flags : BitVec 32} (supported : wanted.flags header = .ok flags) :
    flagSet header flags = wanted.flagSet := by
  rcases Attributes.flags_eq supported with
    ⟨biasFlags, driveFlags, biased, driven, rfl⟩
  rw [flagSet_or, flagSet_or, flagSet_or, flagSet_bias distinct biased,
    flagSet_drive distinct driven, flagSet_invert distinct,
    flagSet_direction distinct]
  simp only [FlagSet.or, Attributes.flagSet, Bool.or_false,
    Bool.false_or]

end Flags

/-! ## Round trip -/

section RoundTrip

variable
    {header : GpioHeader} {wanted wanted' : Attributes}
    {line line' : BitVec 32} {label label' : List Byte}
    {flags flags' : BitVec 32}

theorem Edge.ofRequest_toRequest (edge : Edge) :
    Edge.ofRequest edge.toRequest = edge := by
  cases edge <;> rfl

theorem requestedNumber_request (wanted : Attributes) :
    requestedNumber (wanted.request line label flags) = line := by
  unfold Attributes.request
  split_ifs <;> rfl

theorem requestedEdge_request (wanted : Attributes) :
    requestedEdge (wanted.request line label flags) =
      if wanted.direction = .input then wanted.edge else .none := by
  unfold Attributes.request
  by_cases input : wanted.direction = .input
  · by_cases edgeless : wanted.edge = .none
    · simp [input, edgeless, requestedEdge]
    · simp [input, edgeless, requestedEdge, Edge.ofRequest_toRequest]
  · simp [input, requestedEdge]

/-- A request tells its direction, but not whether it was `Out` or `Low`. -/
theorem direction_request (wanted : Attributes) :
    wanted.flagSet.direction
        (decide ((wanted.request line label flags).value ≠ 0)) =
      wanted.told.direction := by
  by_cases input : wanted.direction = .input
  · simp [FlagSet.direction, Attributes.flagSet, Attributes.told, input]
  · rw [Attributes.value_request input]
    simp only [FlagSet.direction, Attributes.flagSet, Attributes.told,
      input, Bool.xor_assoc, Bool.xor_self, Bool.xor_false,
      decide_not, decide_false, Bool.not_false, if_true, if_false,
      decide_eq_true_eq]

theorem flags_told (wanted : Attributes) :
    wanted.flagSet.bias = wanted.told.bias ∧
      wanted.flagSet.drive = wanted.told.drive ∧
      wanted.flagSet.invert = wanted.told.invert := by
  rcases wanted with ⟨direction, edge, bias, drive, invert⟩
  cases direction <;> cases bias <;> cases drive <;> cases invert <;>
    exact ⟨rfl, rfl, rfl⟩

theorem edge_told (wanted : Attributes) :
    (if wanted.direction = .input then wanted.edge else .none) =
      wanted.told.edge := by
  unfold Attributes.told
  split_ifs <;> rfl

/-- What is read from a request is what was asked, less what is lost. -/
theorem readRequest_request
    (distinct : header.DisableDistinct)
    (supported : wanted.flags header = .ok flags) :
    readRequest header (wanted.request line label flags) =
      { line := line
        label := (labelText label).take wanted.labelRoom
        attributes := wanted.told } := by
  have read :
      labelText (wanted.request line label flags).consumerLabel.toList =
        (labelText label).take wanted.labelRoom := by
    rw [Attributes.consumerLabel_request, Attributes.labelRoom]
    split_ifs
    · exact labelText_strncpy label (by decide)
    · exact labelText_strncpy label (by decide)
  rcases flags_told wanted with ⟨bias, drive, invert⟩
  simp only [readRequest, requestedNumber_request, read,
    Attributes.flags_request, flagSet_eq distinct supported,
    direction_request, requestedEdge_request, edge_told, bias, drive,
    invert]

theorem request_told (wanted : Attributes) :
    wanted.told.request line label flags =
      wanted.request line label flags := by
  rcases wanted with ⟨direction, edge, bias, drive, invert⟩
  cases direction <;> rfl

/-- The flags depend only on what the request tells. -/
theorem flags_told_eq (wanted : Attributes) :
    wanted.told.flags header = wanted.flags header := by
  rcases wanted with ⟨direction, edge, bias, drive, invert⟩
  cases direction <;> rfl

/-- The label field depends only on the text that fits. -/
theorem strncpy_congr {count : Nat} (within : count ≤ 32)
    (same :
      (labelText label).take count = (labelText label').take count) :
    strncpy label count = strncpy label' count := by
  apply Vector.toList_inj.mp
  rw [toList_strncpy label within, toList_strncpy label' within, same]

theorem request_congr_label
    (same :
      (labelText label).take wanted.labelRoom =
        (labelText label').take wanted.labelRoom) :
    wanted.request line label flags =
      wanted.request line label' flags := by
  unfold Attributes.labelRoom at same
  unfold Attributes.request
  by_cases input : wanted.direction = .input
  · by_cases edgeless : wanted.edge = .none
    · rw [if_pos ⟨input, edgeless⟩] at same
      simp [input, edgeless, strncpy_congr (by decide) same]
    · rw [if_neg fun plain => edgeless plain.2] at same
      simp [input, edgeless, strncpy_congr (by decide) same]
  · rw [if_neg fun plain => input plain.1] at same
    simp [input, strncpy_congr (by decide) same]

theorem labelRoom_told (wanted : Attributes) :
    wanted.told.labelRoom = wanted.labelRoom := by
  rcases wanted with ⟨direction, edge, bias, drive, invert⟩
  cases direction <;> rfl

/-- Two configurations make one request exactly if it tells the same. -/
theorem request_eq_iff
    (distinct : header.DisableDistinct)
    (supported : wanted.flags header = .ok flags)
    (supported' : wanted'.flags header = .ok flags') :
    wanted.request line label flags =
        wanted'.request line' label' flags' ↔
      line = line' ∧
        (labelText label).take wanted.labelRoom =
          (labelText label').take wanted'.labelRoom ∧
        wanted.told = wanted'.told := by
  constructor
  · intro same
    have read := congrArg (readRequest header) same
    rw [readRequest_request distinct supported,
      readRequest_request distinct supported', LineUse.mk.injEq] at read
    exact read
  · rintro ⟨rfl, sameLabel, sameTold⟩
    rw [← flags_told_eq, sameTold, flags_told_eq, supported'] at supported
    cases supported
    rw [← labelRoom_told wanted, ← labelRoom_told wanted', sameTold]
      at sameLabel
    rw [← request_told wanted, ← request_told wanted', sameTold]
    exact request_congr_label sameLabel

end RoundTrip

/-! ## What `reopen` tells the kernel -/

/-- A call passes at most one request, and one if it returns. -/
def Passes (header : GpioHeader) (wanted : Attributes) (pin : GpioPin)
    (outcome : Outcome Exception Unit) (requests : List LineRequest) :
    Prop :=
  (∀ request ∈ requests, ∃ flags, wanted.flags header = .ok flags ∧
      request = wanted.request pin.m_line pin.m_label flags) ∧
    (outcome = .returned () → requests ≠ [])

theorem reopen_passes
    (header : GpioHeader) (wanted : Attributes) (pin : GpioPin) :
    (reopen header wanted.direction wanted.edge wanted.bias
        wanted.drive wanted.invert).Ensures requestLog
      (fun outcome _ requests =>
        Passes header wanted pin outcome requests)
      pin [] := by
  have nothing (error : Exception) :
      Passes header wanted pin (.threw error) [] :=
    ⟨fun _ member => absurd member List.not_mem_nil, by rintro ⟨⟩⟩
  have asks {flags : BitVec 32} (supported : wanted.flags header = .ok flags)
      (held : Int) :
      AfterClose requestLog wanted flags
        (fun outcome _ requests =>
          Passes header wanted pin outcome requests)
        (.returned ()) { pin with m_fd := held } [] := by
    intro success fd requests answered
    rw [answersLine_requestLog.mp answered, List.nil_append]
    have only (outcome : Outcome Exception Unit) :
        Passes header wanted pin outcome
          [wanted.request pin.m_line pin.m_label flags] := by
      refine ⟨fun request member => ?_, fun _ => List.cons_ne_nil _ _⟩
      exact ⟨flags, supported, List.mem_singleton.mp member⟩
    exact ⟨fun _ _ => only _, fun _ => only _⟩
  apply ensures_reopen
  · exact fun error _ => nothing error
  · intro flags supported
    apply ensures_closeHandle
    · rintro _ success requests rfl
      exact ⟨fun _ error => nothing error, fun _ => asks supported (-1)⟩
    · exact fun _ => asks supported pin.m_fd

/--
For every two calls of `reopen`, on any pins and for any configurations: each
request that they pass is read back as the line, the text of the label as far
as it fits, and the configuration, except for the difference of `Out` and
`Low` and the edge of an output; so two requests are the same exactly if they
are read back alike.
-/
theorem requests_read_back
    {header : GpioHeader} (distinct : header.DisableDistinct)
    {wanted wanted' : Attributes} {pin pin₁ pin' pin₁' : GpioPin}
    {outcome outcome' : Outcome Exception Unit}
    {requests requests' : List LineRequest}
    (executed :
      (reopen header wanted.direction wanted.edge wanted.bias
          wanted.drive wanted.invert).Executes requestLog
        pin [] outcome pin₁ requests)
    (executed' :
      (reopen header wanted'.direction wanted'.edge wanted'.bias
          wanted'.drive wanted'.invert).Executes requestLog
        pin' [] outcome' pin₁' requests') :
    (∀ request ∈ requests, readRequest header request =
        ⟨pin.m_line, (labelText pin.m_label).take wanted.labelRoom,
          wanted.told⟩) ∧
      (outcome = .returned () → requests ≠ []) ∧
      ∀ request ∈ requests, ∀ request' ∈ requests',
        request = request' ↔
          readRequest header request = readRequest header request' := by
  rcases (reopen_passes header wanted pin).of_executes executed with
    ⟨passed, nonempty⟩
  rcases (reopen_passes header wanted' pin').of_executes executed' with
    ⟨passed', _⟩
  refine ⟨fun request member => ?_, nonempty, ?_⟩
  · rcases passed request member with ⟨flags, supported, rfl⟩
    exact readRequest_request distinct supported
  · intro request member request' member'
    rcases passed request member with ⟨flags, supported, rfl⟩
    rcases passed' request' member' with ⟨flags', supported', rfl⟩
    rw [readRequest_request distinct supported,
      readRequest_request distinct supported', LineUse.mk.injEq]
    exact request_eq_iff distinct supported supported'

/-! ## Two requests that are the same -/

/-- A new output and one that starts low make the same request. -/
theorem out_read_as_low :
    readRequest driveHeader
        (Attributes.request ⟨.out, .both, .default, .default, .off⟩ 17
          labelledPin.m_label GPIOHANDLE_REQUEST_OUTPUT) =
      ⟨17, List.replicate 31 0x61,
        ⟨.low, .none, .default, .default, .off⟩⟩ := by
  have distinct : driveHeader.DisableDistinct := by
    rintro flag ⟨⟩
  have executed :
      (reopen driveHeader .out .both .default .default .off).Executes
        requestLog labelledPin [] (.returned ())
        (labelledPin.configured 4
          ⟨.out, .both, .default, .default, .off⟩)
        [Attributes.request ⟨.out, .both, .default, .default, .off⟩ 17
          labelledPin.m_label GPIOHANDLE_REQUEST_OUTPUT] :=
    Routine.Executes.call ((0 : Int), (4 : Int)) rfl ⟨rfl, rfl, rfl⟩
  exact
    (@requests_read_back driveHeader distinct
      ⟨.out, .both, .default, .default, .off⟩
      ⟨.out, .both, .default, .default, .off⟩ labelledPin _ labelledPin
      _ _ _ _ _ executed executed).1 _ (List.mem_singleton.mpr rfl)

end GpioPin

end Periphery
