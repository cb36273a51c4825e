import Periphery.Gpio.Level

/-!
# What a pin reports

A caller of a pin has five attributes and, for an output, a logical value in
mind: what was last set with success, or what the last request for the line
started with.  The getters report these attributes, and `get` this value; on
an input `get` reports the level, inverted as the pin says.

Every call of the kernel may fail here, and a failed call changes none of
what the caller has in mind.  Only a `close` that fails leaves the pin with a
number that is no longer its handle; from then on `get` may report any other
object, until the line is requested anew.
-/

namespace Periphery

/-- A line, with the handle that it is held through, if it is held. -/
structure Wire where
  handle : Option Int
  output : Bool
  activeLow : Bool
  /-- The physical level. -/
  level : Bool
  /-- A `close` has failed since the line was last requested. -/
  stale : Bool
deriving DecidableEq, Repr

/-- The logical value of a line. -/
def Wire.value (wire : Wire) : Bool := Bool.xor wire.level wire.activeLow

/-- The line is held anew: an output starts with the value of the request. -/
def Wire.Granted (wire' : Wire) (request : LineRequest) (fd : Int) :
    Prop :=
  wire'.handle = some fd ∧ wire'.stale = false ∧
    wire'.output = hasFlag request.flags GPIOHANDLE_REQUEST_OUTPUT ∧
    wire'.activeLow =
      hasFlag request.flags GPIOHANDLE_REQUEST_ACTIVE_LOW ∧
    (wire'.output = true → wire'.value = decide (request.value ≠ 0))

/-- A request for the line is refused or granted. -/
def Wire.Requests (wire : Wire) (request : LineRequest)
    (success fd : Int) (wire' : Wire) : Prop :=
  success < 0 ∧ wire' = wire ∨
    0 ≤ success ∧ 0 ≤ fd ∧ wire'.Granted request fd

/-- Time passes; only the level of an input changes by itself. -/
def Wire.Drifts (wire wire' : Wire) : Prop :=
  ∃ level, wire' = { wire with level := level } ∧
    (wire.output = true → level = wire.level)

/--
The line behind a pin.  A request through another number than that of the
handle reaches another object, if one has it, and nothing is known of the
answer.  Setting the value of an input fails.  As on Linux, `close` releases
the line even when it reports an error.
-/
def wireKernel : Kernel posix Wire :=
  fun wire request answer wire' =>
    match request, answer with
    | .close fd, success =>
        wire.handle = some fd ∧
            wire' =
              { wire with
                handle := none
                stale := wire.stale || decide (success < 0) } ∨
          wire.handle ≠ some fd ∧ wire' = wire
    | .ioctl _ (.gpioGetLinehandle request), (success, fd) =>
        wire.Requests (.handle request) success fd wire'
    | .ioctl _ (.gpioGetLineevent request), (success, fd) =>
        wire.Requests (.event request) success fd wire'
    | .ioctl fd .gpiohandleGetLineValues, (success, value) =>
        success < 0 ∧ wire' = wire ∨
          0 ≤ success ∧ 0 ≤ fd ∧ wire.Drifts wire' ∧
            (wire.handle = some fd → decide (value ≠ 0) = wire'.value)
    | .ioctl fd (.gpiohandleSetLineValues value), success =>
        success < 0 ∧ wire' = wire ∨
          0 ≤ success ∧ wire.handle = some fd ∧ wire.output = true ∧
            wire' =
              { wire with
                level := Bool.xor (decide (value ≠ 0)) wire.activeLow } ∨
          0 ≤ success ∧ 0 ≤ fd ∧ wire.handle ≠ some fd ∧ wire' = wire
    | _, _ => wire' = wire

/-- The flag that disables the bias says nothing of level or direction. -/
def GpioHeader.DisableClear (header : GpioHeader) : Prop :=
  header.DisableApart ∧
    ∀ flag, header.requestDisable = some flag →
      hasFlag flag GPIOHANDLE_REQUEST_OUTPUT = false

namespace GpioPin

/-! ## Getters -/

namespace Getter

/-- `GpioPin::direction()`. -/
def direction : Method GpioPin Direction := do
  let pin ← Routine.self
  return pin.m_direction

/-- `GpioPin::edge()`. -/
def edge : Method GpioPin Edge := do
  let pin ← Routine.self
  return pin.m_edge

/-- `GpioPin::bias()`. -/
def bias : Method GpioPin Bias := do
  let pin ← Routine.self
  return pin.m_bias

/-- `GpioPin::drive()`. -/
def drive : Method GpioPin Drive := do
  let pin ← Routine.self
  return pin.m_drive

/-- `GpioPin::invert()`. -/
def invert : Method GpioPin Invert := do
  let pin ← Routine.self
  return pin.m_invert

end Getter

/-- The five getters return these attributes, and change nothing. -/
structure Reports {Kept : Type} (kernel : Kernel posix Kept)
    (pin : GpioPin) (state : Kept) (attributes : Attributes) : Prop where
  direction :
    Getter.direction.Yields kernel pin state attributes.direction
      pin state
  edge : Getter.edge.Yields kernel pin state attributes.edge pin state
  bias : Getter.bias.Yields kernel pin state attributes.bias pin state
  drive : Getter.drive.Yields kernel pin state attributes.drive pin state
  invert :
    Getter.invert.Yields kernel pin state attributes.invert pin state

/-- The getters report the cached attributes. -/
theorem reports_attributes {Kept : Type} (kernel : Kernel posix Kept)
    (pin : GpioPin) (state : Kept) :
    Reports kernel pin state pin.attributes where
  direction := Routine.Yields.self.bind (.pure _)
  edge := Routine.Yields.self.bind (.pure _)
  bias := Routine.Yields.self.bind (.pure _)
  drive := Routine.Yields.self.bind (.pure _)
  invert := Routine.Yields.self.bind (.pure _)

/-! ## What a caller has in mind -/

/-- The attributes of a pin and the logical value of its line. -/
structure Mind where
  attributes : Attributes
  value : Bool
deriving DecidableEq, Repr

/-- The value with which an output starts. -/
def Attributes.initial (attributes : Attributes) : Bool :=
  Bool.xor (attributes.direction = .high) (attributes.invert = .on)

/-- The attributes that a call asks for. -/
def Attributes.changed (attributes : Attributes) : Change → Attributes
  | .direction value => { attributes with direction := value }
  | .edge value => { attributes with edge := value }
  | .bias value => { attributes with bias := value }
  | .drive value => { attributes with drive := value }
  | .invert value => { attributes with invert := value }
  | .reconfigure settings => settings

/-- The call requests the line anew. -/
def Attributes.renews (attributes : Attributes) : Change → Bool
  | .direction value => attributes.direction ≠ value
  | .edge value => attributes.edge ≠ value
  | .bias value => attributes.bias ≠ value
  | .drive value => attributes.drive ≠ value
  | .invert value => attributes.invert ≠ value
  | .reconfigure _ => true

/-- What the caller has in mind after a call; a failed one changes nothing. -/
def Mind.after (mind : Mind) : Call × Outcome Exception Unit → Mind
  | (.change update, .returned _) =>
      if mind.attributes.renews update then
        ⟨mind.attributes.changed update,
          (mind.attributes.changed update).initial⟩
      else mind
  | (.set value, .returned _) => { mind with value := value = .high }
  | (.get, .returned _) => mind
  | (_, .threw _) => mind

/-- What the caller has in mind after the constructor and some calls. -/
def minded (settings : Attributes)
    (history : List (Call × Outcome Exception Unit)) : Mind :=
  history.foldl Mind.after ⟨settings, settings.initial⟩

@[simp]
theorem minded_append
    (settings : Attributes)
    (history : List (Call × Outcome Exception Unit))
    (call : Call × Outcome Exception Unit) :
    minded settings (history ++ [call]) =
      (minded settings history).after call := by
  simp [minded]

theorem changed_attributes (change : Change) (pin : GpioPin) :
    pin.attributes.changed change = change.wanted pin := by
  cases change <;> rfl

theorem renews_attributes (change : Change) (pin : GpioPin) :
    pin.attributes.renews change = true ↔ change.Differs pin := by
  cases change with
  | direction value => exact decide_eq_true_iff
  | edge value => exact decide_eq_true_iff
  | bias value => exact decide_eq_true_iff
  | drive value => exact decide_eq_true_iff
  | invert value => exact decide_eq_true_iff
  | reconfigure settings => exact ⟨fun _ => trivial, fun _ => rfl⟩

/-! ## Requests -/

theorem Bias.not_output
    {header : GpioHeader} (clear : header.DisableClear) {bias : Bias}
    {flags : BitVec 32} (supported : bias.toRequest header = .ok flags) :
    hasFlag flags GPIOHANDLE_REQUEST_OUTPUT = false := by
  unfold Bias.toRequest at supported
  split at supported
  · rename_i requestDisable defined
    cases bias <;> cases supported
    · rfl
    · rfl
    · rfl
    · exact clear.2 _ defined
  · split at supported
    · cases supported
    · cases supported
      rfl

theorem Drive.not_output
    {header : GpioHeader} {drive : Drive} {flags : BitVec 32}
    (supported : drive.toRequest header = .ok flags) :
    hasFlag flags GPIOHANDLE_REQUEST_OUTPUT = false := by
  unfold Drive.toRequest at supported
  split at supported
  · cases drive <;> cases supported <;> rfl
  · split at supported
    · cases supported
    · cases supported
      rfl

/-- A line is requested as an output exactly if the direction says so. -/
theorem Attributes.hasFlag_output_eq
    {header : GpioHeader} (clear : header.DisableClear)
    {wanted : Attributes} {flags : BitVec 32}
    (supported : wanted.flags header = .ok flags) :
    hasFlag flags GPIOHANDLE_REQUEST_OUTPUT =
      decide (wanted.direction ≠ .input) := by
  rcases Attributes.flags_eq supported with
    ⟨biasFlags, driveFlags, biased, driven, rfl⟩
  rw [hasFlag_or, hasFlag_or, hasFlag_or, Bias.not_output clear biased,
    Drive.not_output driven]
  cases wanted.invert <;> cases wanted.direction <;> rfl

theorem answersLine_wireKernel
    {wire wire' : Wire} {chip success fd : Int}
    {request : LineRequest} :
    AnswersLine wireKernel wire chip request success fd wire' ↔
      wire.Requests request success fd wire' := by
  cases request <;> rfl

/-! ## The invariant -/

/--
The pin caches the attributes of its caller.  A line that is held is held
through the pin, as these attributes say, and an output has the value that
the caller has in mind.  The number in the pin is that of the handle, unless
a `close` has failed.
-/
structure Minds (pin : GpioPin) (mind : Mind) (wire : Wire) : Prop where
  attributes : pin.attributes = mind.attributes
  handle : ∀ fd, wire.handle = some fd → pin.m_fd = fd
  own : wire.stale = false → 0 ≤ pin.m_fd →
    wire.handle = some pin.m_fd
  output : wire.handle ≠ none →
    wire.output = decide (mind.attributes.direction ≠ .input)
  activeLow : wire.handle ≠ none →
    wire.activeLow = decide (mind.attributes.invert = .on)
  value : wire.handle ≠ none → wire.output = true →
    wire.value = mind.value

section Minding

variable
    {pin : GpioPin} {mind : Mind} {wire wire' : Wire}
    {header : GpioHeader}

/-- Nothing is to be shown of a line that is not held. -/
theorem Minds.of_none
    (attributes : pin.attributes = mind.attributes)
    (free : wire.handle = none)
    (lost : 0 ≤ pin.m_fd → wire.stale = true) :
    Minds pin mind wire where
  attributes := attributes
  handle _ opened := by
    rw [free] at opened
    cases opened
  own calm valid := by
    rw [lost valid] at calm
    cases calm
  output held := absurd free held
  activeLow held := absurd free held
  value held := absurd free held

/-- A number in the pin that is not the handle is stale. -/
theorem Minds.foreign
    (minds : Minds pin mind wire) (valid : 0 ≤ pin.m_fd)
    (foreign : wire.handle ≠ some pin.m_fd) :
    wire.handle = none ∧ wire.stale = true := by
  constructor
  · cases opened : wire.handle with
    | none => rfl
    | some fd =>
        rw [opened, minds.handle fd opened] at foreign
        exact absurd rfl foreign
  · cases stale : wire.stale with
    | false => exact absurd (minds.own stale valid) foreign
    | true => rfl

/--
Closing the handle of the pin leaves the line unheld, and the number in the
pin stale if it fails.
-/
theorem Minds.close
    (minds : Minds pin mind wire) (valid : 0 ≤ pin.m_fd) {success : Int}
    (closed : wireKernel wire (.close pin.m_fd) success wire') :
    wire'.handle = none ∧ (success < 0 → wire'.stale = true) := by
  rcases closed with ⟨_, rfl⟩ | ⟨foreign, rfl⟩
  · refine ⟨rfl, fun failed => ?_⟩
    rw [decide_eq_true failed]
    exact Bool.or_true _
  · rcases minds.foreign valid foreign with ⟨free, stale⟩
    exact ⟨free, fun _ => stale⟩

/-- A line that was granted is as the caller of the request has in mind. -/
theorem Minds.of_granted
    (clear : header.DisableClear) {wanted : Attributes}
    {flags : BitVec 32} (supported : wanted.flags header = .ok flags)
    {fd : Int}
    (granted :
      wire'.Granted (wanted.request pin.m_line pin.m_label flags) fd) :
    Minds (pin.configured fd wanted) ⟨wanted, wanted.initial⟩ wire' := by
  rcases granted with ⟨handle, fresh, output, activeLow, starts⟩
  rw [Attributes.flags_request] at output activeLow
  rw [Attributes.hasFlag_output_eq clear supported] at output
  rw [Attributes.hasFlag_activeLow clear.1 supported] at activeLow
  refine ⟨rfl, fun fd' opened => ?_, fun _ _ => handle,
    fun _ => output, fun _ => activeLow, fun _ drives => ?_⟩
  · rw [handle] at opened
    exact Option.some.inj opened
  · have isOutput : wanted.direction ≠ .input :=
      of_decide_eq_true (output.symm.trans drives)
    rw [starts drives, Attributes.value_request isOutput,
      Attributes.initial]

/-- What `reopen` leaves, for a caller who asked for `wanted`. -/
def Renews (mind : Mind) (wanted : Attributes) :
    Outcome Exception Unit → GpioPin → Wire → Prop
  | .returned _, pin, wire => Minds pin ⟨wanted, wanted.initial⟩ wire
  | .threw _, pin, wire => Minds pin mind wire

theorem Minds.afterClose
    (clear : header.DisableClear) {wanted : Attributes}
    {flags : BitVec 32} (supported : wanted.flags header = .ok flags)
    (minds : Minds pin mind wire) :
    AfterClose wireKernel wanted flags (Renews mind wanted)
      (.returned ()) pin wire := by
  intro success fd wire' answered
  rcases answersLine_wireKernel.mp answered with
    ⟨refused, rfl⟩ | ⟨accepted, _, granted⟩
  · exact
      ⟨fun _ _ => minds, fun valid => absurd refused valid⟩
  · refine
      ⟨fun refused => absurd accepted (Int.not_le.mpr refused),
        fun _ => ?_⟩
    exact Minds.of_granted clear supported granted

theorem Minds.reopen
    (clear : header.DisableClear) (wanted : Attributes)
    (minds : Minds pin mind wire) :
    (reopen header wanted.direction wanted.edge wanted.bias
        wanted.drive wanted.invert).Ensures wireKernel
      (Renews mind wanted) pin wire := by
  apply ensures_reopen
  · exact fun _ _ => minds
  · intro flags supported
    apply ensures_closeHandle
    · intro valid success wire' closed
      rcases minds.close valid closed with ⟨free, stale⟩
      refine ⟨fun failed _ => ?_, fun _ => ?_⟩
      · exact .of_none minds.attributes free fun _ => stale failed
      · have given : ¬ (0 : Int) ≤ -1 := by decide
        have unheld : Minds { pin with m_fd := -1 } mind wire' :=
          .of_none minds.attributes free fun held => absurd held given
        exact unheld.afterClose clear supported
    · exact fun _ => minds.afterClose clear supported

/-- A call that may change the configuration. -/
theorem Minds.change
    (clear : header.DisableClear) (change : Change)
    (minds : Minds pin mind wire) :
    (change.perform header).Ensures wireKernel
      (fun outcome pin' wire' =>
        Minds pin' (mind.after (.change change, outcome)) wire')
      pin wire := by
  have renews := renews_attributes change pin
  have changed := changed_attributes change pin
  rw [minds.attributes] at renews changed
  apply ensures_perform
  · intro differs
    apply (minds.reopen clear (change.wanted pin)).mono
    rintro (value | error) pin' wire' reopened
    · rw [Mind.after, if_pos (renews.mpr differs), changed]
      exact reopened
    · exact reopened
  · intro same
    rw [Mind.after, if_neg fun renewed => same (renews.mp renewed)]
    exact minds

/-- Reading a value changes at most the level of an input. -/
theorem Minds.drifts
    (minds : Minds pin mind wire) (drifts : wire.Drifts wire') :
    Minds pin mind wire' := by
  rcases drifts with ⟨level, rfl, stays⟩
  refine ⟨minds.attributes, minds.handle, minds.own, minds.output,
    minds.activeLow, fun held drives => ?_⟩
  rw [← minds.value held drives, Wire.value, stays drives, Wire.value]

/-- A value that was set is the one that the caller has in mind. -/
theorem Minds.set
    (minds : Minds pin mind wire) (value : Bool) :
    Minds pin { mind with value := value }
      { wire with level := Bool.xor value wire.activeLow } where
  attributes := minds.attributes
  handle := minds.handle
  own := minds.own
  output := minds.output
  activeLow := minds.activeLow
  value _ _ := by
    simp only [Wire.value, Bool.xor_assoc, Bool.xor_self, Bool.xor_false]

/-- Every call leaves the pin as its caller has in mind. -/
theorem Minds.perform
    (clear : header.DisableClear) (call : Call)
    (minds : Minds pin mind wire) :
    (call.perform header).Ensures wireKernel
      (fun outcome pin' wire' =>
        Minds pin' (mind.after (call, outcome)) wire')
      pin wire := by
  cases call with
  | change update => exact minds.change clear update
  | get =>
      apply ensures_get
      rintro success value wire'
        (⟨failed, rfl⟩ | ⟨accepted, _, drifts, _⟩)
      · exact ⟨fun _ _ => minds, fun _ => minds⟩
      · exact ⟨fun _ _ => minds.drifts drifts, fun _ => minds.drifts drifts⟩
  | set value =>
      apply ensures_set
      rintro success wire'
        (⟨failed, rfl⟩ | ⟨accepted, _, _, rfl⟩ |
          ⟨_, valid, foreign, rfl⟩)
      · exact ⟨fun _ _ => minds, fun valid => absurd failed valid⟩
      · refine
          ⟨fun failed => absurd accepted (Int.not_le.mpr failed),
            fun _ => ?_⟩
        have told :
            decide ((if value = .high then (1 : Byte) else 0) ≠ 0) =
              decide (value = .high) := by
          cases value <;> rfl
        rw [told]
        exact minds.set (decide (value = .high))
      · rcases minds.foreign valid foreign with ⟨free, stale⟩
        refine ⟨fun _ _ => minds, fun _ => ?_⟩
        exact .of_none minds.attributes free fun _ => stale

/-- A pin that was constructed is as its caller has in mind. -/
theorem construct_minds
    (clear : header.DisableClear) (chip : GpioChip) (line : BitVec 32)
    (label : List Byte) (settings : Attributes) (raw : GpioPin)
    (before : Wire) :
    (construct header chip line label settings.direction
        settings.edge settings.bias settings.drive
        settings.invert).Ensures wireKernel
      (fun outcome pin after =>
        outcome = .returned () → Minds pin (minded settings []) after)
      raw before := by
  apply ensures_construct_unheld
  · rintro _ _ ⟨⟩
  · intro flags supported success fd after answered
    rcases answersLine_wireKernel.mp answered with
      ⟨refused, rfl⟩ | ⟨accepted, _, granted⟩
    · exact
        ⟨fun _ _ => by rintro ⟨⟩, fun valid => absurd refused valid⟩
    · refine
        ⟨fun refused => absurd accepted (Int.not_le.mpr refused),
          fun _ _ => ?_⟩
      exact Minds.of_granted clear supported granted

end Minding

/-! ## What the calls report -/

/-- What `get` has to answer, with the level of the line. -/
def Mind.reported (mind : Mind) (level : Bool) : State :=
  if mind.attributes.direction = .input then
    if Bool.xor level (mind.attributes.invert = .on) then .high else .low
  else
    if mind.value then .high else .low

theorem Minds.get_reports
    {pin : GpioPin} {mind : Mind} {wire : Wire}
    (minds : Minds pin mind wire) (calm : wire.stale = false) :
    GpioPin.get.Ensures wireKernel
      (fun outcome pin' wire' =>
        pin' = pin ∧ ∀ value, outcome = .returned value →
          value = mind.reported wire'.level)
      pin wire := by
  simp only [get, sysIoctl, Routine.ensures_bind,
    Routine.ensures_self, Routine.ensures_call, Routine.ensures_done,
    Routine.ensures_ite, Routine.ensures_raise, Routine.ensures_pure,
    Routine.afterwards_returned, Routine.afterwards_threw]
  rintro ⟨success, byte⟩ wire' answered
  refine
    ⟨fun _ => ⟨trivial, by rintro _ ⟨⟩⟩, fun accepted => ⟨trivial, ?_⟩⟩
  rintro _ ⟨⟩
  rcases answered with ⟨failed, _⟩ | ⟨_, valid, drifts, read⟩
  · exact absurd failed accepted
  have opened := minds.own calm valid
  have after := minds.drifts drifts
  have held : wire'.handle ≠ none := by
    rcases drifts with ⟨level, rfl, _⟩
    rw [opened]
    rintro ⟨⟩
  have answer :
      (if byte ≠ 0 then State.high else .low) =
        if wire'.value then .high else .low := by
    rw [← read opened]
    by_cases zero : byte = 0 <;> simp [zero]
  rw [answer, Mind.reported]
  by_cases input : mind.attributes.direction = .input
  · rw [if_pos input, Wire.value, after.activeLow held]
  · rw [if_neg input, after.value held]
    rw [after.output held]
    exact decide_eq_true input

/--
For every constructor that returns and every later session, whatever calls
fail: the getters report the attributes last set with success.  Unless a
`close` has failed since the line was last requested, a `get` that returns
answers, on an output, the value last set with success since then, or else
the one that the request started with; and on an input the level, inverted
exactly if the pin is.
-/
theorem pin_reports_what_it_was_told
    {header : GpioHeader} (clear : header.DisableClear)
    {chip : GpioChip} {number : BitVec 32} {label : List Byte}
    {settings : Attributes} {raw pin₀ pin : GpioPin}
    {before wire₀ wire : Wire}
    {history : List (Call × Outcome Exception Unit)}
    (constructed :
      (construct header chip number label settings.direction
          settings.edge settings.bias settings.drive
          settings.invert).Executes wireKernel
        raw before (.returned ()) pin₀ wire₀)
    (session :
      Routine.Session wireKernel (Call.perform header)
        pin₀ wire₀ history pin wire) :
    Reports wireKernel pin wire (minded settings history).attributes ∧
      (wire.stale = false →
        ∀ value pin' wire',
          GpioPin.get.Executes wireKernel
              pin wire (.returned value) pin' wire' →
            value = (minded settings history).reported wire'.level) := by
  have minds : Minds pin (minded settings history) wire := by
    apply session.invariant
      (motive := fun history pin wire =>
        Minds pin (minded settings history) wire)
    · exact
        (construct_minds clear chip number label settings raw
          before).of_executes constructed rfl
    · intro history pin wire call minds
      apply (minds.perform clear call).mono
      intro outcome pin' wire' after
      rw [minded_append]
      exact after
  constructor
  · rw [← minds.attributes]
    exact reports_attributes wireKernel pin wire
  · intro calm value pin' wire' executed
    exact ((minds.get_reports calm).of_executes executed).2 value rfl

/-! ## An inverted pin -/

/-- An inverted output on line 17 that starts high. -/
def invertedPin : GpioPin :=
  { rawPin with
    m_fd := 4
    m_line := 17
    m_direction := .high
    m_invert := .on }

/-- The line behind it, at a high level. -/
def invertedWire : Wire := ⟨some 4, true, true, true, false⟩

theorem construct_invertedPin :
    (construct driveHeader ⟨3⟩ 17 [] .high .none .default .default
        .on).Executes wireKernel
      rawPin ⟨none, false, false, false, false⟩ (.returned ()) invertedPin
      invertedWire := by
  refine Routine.Executes.call ((0 : Int), (4 : Int)) ?_ ⟨rfl, rfl, rfl⟩
  exact .inr ⟨by decide, by decide, rfl, rfl, rfl, rfl, fun _ => rfl⟩

/-- What the caller did: an attempt to set the pin high, that failed. -/
def failedSet : List (Call × Outcome Exception Unit) :=
  [(.set .high,
    .threw (.systemError efault "Failed to write pin state."))]

theorem set_failed :
    (Call.perform driveHeader (.set .high)).Executes wireKernel
      invertedPin invertedWire
      (.threw (.systemError efault "Failed to write pin state."))
      invertedPin invertedWire := by
  apply Routine.Executes.call (-1 : Int) (.inl ⟨by decide, rfl⟩)
  exact ⟨rfl, rfl, rfl⟩

/--
After its level was selected high, such a pin reports low; and so it does
after an attempt to set it high that failed.
-/
theorem invertedPin_reports_low :
    Reports wireKernel invertedPin invertedWire invertedPin.attributes ∧
      (minded invertedPin.attributes failedSet).reported true = .low := by
  have clear : driveHeader.DisableClear :=
    ⟨driveHeader_apart, by rintro _ ⟨⟩⟩
  have got :
      GpioPin.get.Executes wireKernel invertedPin invertedWire
        (.returned .low) invertedPin invertedWire := by
    refine Routine.Executes.call ((0 : Int), (0 : Byte)) ?_ ⟨rfl, rfl, rfl⟩
    exact
      .inr
        ⟨Int.le_refl 0, by decide, ⟨true, rfl, fun _ => rfl⟩, fun _ => rfl⟩
  have reports :=
    @pin_reports_what_it_was_told driveHeader clear ⟨3⟩ 17 []
      invertedPin.attributes rawPin invertedPin invertedPin
      ⟨none, false, false, false, false⟩ invertedWire invertedWire failedSet
      construct_invertedPin (.call .start set_failed)
  exact ⟨reports.1, (reports.2 rfl .low invertedPin invertedWire got).symm⟩

end GpioPin

end Periphery
