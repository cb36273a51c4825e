import Mathlib.Data.List.GetD
import Periphery.Bytes.TerminatedText
import Periphery.Gpio.Configuration

/-!
# The label of a request

The kernel knows the consumer of a line by a label of 32 bytes that it reads
up to the first zero.  The three branches of `reopen` copy the label of the
pin into that field: those for edge events and for outputs leave the last
byte zero, and the one for inputs without edge events does not.
-/

namespace Periphery

/-- The field of the request, of either kind. -/
def LineRequest.consumerLabel : LineRequest → Vector Byte 32
  | .handle request => request.consumer_label
  | .event request => request.consumer_label

/-- The kernel with the requests for lines that were passed to it. -/
def requestLog : Kernel posix (List LineRequest) :=
  fun requests request answer requests' =>
    match request, answer with
    | .ioctl _ (.gpioGetLinehandle request), _ =>
        requests' = requests ++ [.handle request]
    | .ioctl _ (.gpioGetLineevent request), _ =>
        requests' = requests ++ [.event request]
    | _, _ => requests' = requests

namespace GpioPin

/-- The label as a C string: it ends before its first zero. -/
def labelText (label : List Byte) : List Byte :=
  TerminatedText.text 0 label

/--
The field ends with a zero, the kernel reads the label from it or the first
31 bytes of that, and all branches of `reopen` can make it.
-/
structure Encodes (label : List Byte) (field : Vector Byte 32) :
    Prop where
  terminated : 0 ∈ field.toList
  reads : labelText field.toList = (labelText label).take 31
  alike : field = strncpy label 31

/-! ## The field -/

/-- A copied label is a beginning of the text, padded with zeros. -/
theorem toList_strncpy
    (label : List Byte) {count : Nat} (within : count ≤ 32) :
    (strncpy label count).toList =
      (labelText label).take count ++
        List.replicate (32 - ((labelText label).take count).length)
          0 := by
  rw [strncpy, Vector.toList_ofFn]
  apply List.ext_getElem
  · rw [List.length_ofFn, List.length_append, List.length_take,
      List.length_replicate]
    omega
  · intro index inside _
    rw [List.getElem_ofFn, List.getElem_append]
    by_cases copied : index < ((labelText label).take count).length
    · have bounds := copied
      rw [List.length_take, Nat.lt_min] at bounds
      rw [dif_pos copied, List.getElem_take, if_pos bounds.1]
      exact List.getD_eq_getElem _ _ bounds.2
    · rw [dif_neg copied, List.getElem_replicate]
      split_ifs with room
      · change index < count at room
        rw [List.length_take] at copied
        have ended : (labelText label).length ≤ index := by omega
        exact List.getD_eq_default _ _ ended
      · rfl

theorem zero_notMem_take_labelText (label : List Byte) (count : Nat) :
    0 ∉ (labelText label).take count := fun member =>
  TerminatedText.stop_notMem_text label (List.mem_of_mem_take member)

/-- The kernel reads what was copied. -/
theorem labelText_strncpy
    (label : List Byte) {count : Nat} (within : count ≤ 32) :
    labelText (strncpy label count).toList =
      (labelText label).take count := by
  rw [toList_strncpy label within]
  exact
    TerminatedText.text_append_replicate
      (zero_notMem_take_labelText label count) _

theorem zero_mem_strncpy
    (label : List Byte) {count : Nat} (within : count ≤ 32) :
    0 ∈ (strncpy label count).toList ↔
      min count (labelText label).length < 32 := by
  rw [toList_strncpy label within,
    TerminatedText.stop_mem_append_replicate
      (zero_notMem_take_labelText label count),
    List.length_take, Nat.sub_pos_iff_lt]

/-- The branches for edge events and for outputs encode every label. -/
theorem encodes_strncpy (label : List Byte) :
    Encodes label (strncpy label 31) where
  terminated := by
    rw [zero_mem_strncpy label (by decide)]
    omega
  reads := labelText_strncpy label (by decide)
  alike := rfl

/-- A copy of 32 bytes is the same for a label of at most 31 bytes. -/
theorem encodes_strncpy_full_iff (label : List Byte) :
    Encodes label (strncpy label 32) ↔
      (labelText label).length ≤ 31 := by
  constructor
  · intro encodes
    have room := (zero_mem_strncpy label (by decide)).mp encodes.terminated
    omega
  · intro short
    have same : strncpy label 32 = strncpy label 31 := by
      apply Vector.toList_inj.mp
      rw [toList_strncpy label (by decide),
        toList_strncpy label (by decide),
        List.take_of_length_le (by omega),
        List.take_of_length_le short]
    rw [same]
    exact encodes_strncpy label

/-! ## Requests -/

/-- The label in the request that a configuration determines. -/
theorem Attributes.consumerLabel_request
    (wanted : Attributes) (line : BitVec 32) (label : List Byte)
    (flags : BitVec 32) :
    (wanted.request line label flags).consumerLabel =
      strncpy label
        (if wanted.direction = .input ∧ wanted.edge = .none then 32
          else 31) := by
  rw [Attributes.request]
  by_cases input : wanted.direction = .input
  · by_cases edgeless : wanted.edge = .none
    · simp [LineRequest.consumerLabel, input, edgeless]
    · simp [LineRequest.consumerLabel, input, edgeless]
  · simp [LineRequest.consumerLabel, input]

theorem answersLine_requestLog
    {requests requests' : List LineRequest} {chip success fd : Int}
    {request : LineRequest} :
    AnswersLine requestLog requests chip request success fd requests' ↔
      requests' = requests ++ [request] := by
  cases request <;> rfl

theorem afterClose_requests
    (wanted : Attributes) (pin : GpioPin) (flags : BitVec 32) :
    AfterClose requestLog wanted flags
      (fun _ _ requests =>
        ∀ request ∈ requests, ∃ flags,
          request = wanted.request pin.m_line pin.m_label flags)
      (.returned ()) pin [] := by
  intro success fd requests answered
  rw [answersLine_requestLog.mp answered, List.nil_append]
  have only : ∀ request ∈ [wanted.request pin.m_line pin.m_label flags],
      ∃ flags,
        request = wanted.request pin.m_line pin.m_label flags := by
    intro request member
    exact ⟨flags, List.mem_singleton.mp member⟩
  exact ⟨fun _ _ => only, fun _ => only⟩

/-- A call of `reopen` passes at most the request of its configuration. -/
theorem reopen_requests
    (header : GpioHeader) (wanted : Attributes) (pin : GpioPin) :
    (reopen header wanted.direction wanted.edge wanted.bias
        wanted.drive wanted.invert).Ensures requestLog
      (fun _ _ requests =>
        ∀ request ∈ requests, ∃ flags,
          request = wanted.request pin.m_line pin.m_label flags)
      pin [] := by
  apply ensures_reopen
  · intro error _ request member
    exact absurd member List.not_mem_nil
  · intro flags _
    apply ensures_closeHandle
    · rintro _ success requests rfl
      refine ⟨fun _ _ request member => ?_, fun _ => ?_⟩
      · exact absurd member List.not_mem_nil
      · exact afterClose_requests wanted { pin with m_fd := -1 } flags
    · exact fun _ => afterClose_requests wanted pin flags

/--
In every call of `reopen`, for every label and every configuration: the
request encodes the label of the pin, exactly if it is not for an input
without edge events or the label has at most 31 bytes before its first zero.
-/
theorem label_encoded_iff
    {header : GpioHeader} {wanted : Attributes} {pin pin' : GpioPin}
    {outcome : Outcome Exception Unit} {requests : List LineRequest}
    (executed :
      (reopen header wanted.direction wanted.edge wanted.bias
          wanted.drive wanted.invert).Executes requestLog
        pin [] outcome pin' requests)
    {request : LineRequest} (passed : request ∈ requests) :
    Encodes pin.m_label request.consumerLabel ↔
      (wanted.direction = .input ∧ wanted.edge = .none →
        (labelText pin.m_label).length ≤ 31) := by
  rcases
      (reopen_requests header wanted pin).of_executes executed request
        passed with
    ⟨flags, rfl⟩
  rw [Attributes.consumerLabel_request]
  split_ifs with plain
  · rw [encodes_strncpy_full_iff, forall_prop_of_true plain]
  · exact
      iff_of_true (encodes_strncpy _) fun input => absurd input plain

/-! ## A label of 32 bytes -/

/-- A closed pin on line 17 whose label fills the field. -/
def labelledPin : GpioPin :=
  { rawPin with
    m_fd := -1
    m_line := 17
    m_label := List.replicate 32 0x61 }

/-- The request for `labelledPin` as an output encodes the label. -/
theorem output_labelled :
    (reopen driveHeader .high .none .default .default .off).Executes
        requestLog labelledPin [] (.returned ())
        (labelledPin.configured 4
          ⟨.high, .none, .default, .default, .off⟩)
        [Attributes.request ⟨.high, .none, .default, .default, .off⟩ 17
          labelledPin.m_label GPIOHANDLE_REQUEST_OUTPUT] ∧
      Encodes labelledPin.m_label
        (Attributes.request ⟨.high, .none, .default, .default, .off⟩ 17
          labelledPin.m_label
          GPIOHANDLE_REQUEST_OUTPUT).consumerLabel := by
  have executed :
      (reopen driveHeader .high .none .default .default .off).Executes
        requestLog labelledPin [] (.returned ())
        (labelledPin.configured 4
          ⟨.high, .none, .default, .default, .off⟩)
        [Attributes.request ⟨.high, .none, .default, .default, .off⟩ 17
          labelledPin.m_label GPIOHANDLE_REQUEST_OUTPUT] :=
    Routine.Executes.call ((0 : Int), (4 : Int)) rfl ⟨rfl, rfl, rfl⟩
  refine ⟨executed, ?_⟩
  apply
    (@label_encoded_iff driveHeader
      ⟨.high, .none, .default, .default, .off⟩ labelledPin _ _ _ executed
      _ (List.mem_singleton.mpr rfl)).mpr
  rintro ⟨⟨⟩, _⟩

/-- The request for `labelledPin` as an input has no zero in its label. -/
theorem input_labelled :
    (reopen driveHeader .input .none .default .default .off).Executes
        requestLog labelledPin [] (.returned ())
        (labelledPin.configured 4 inputPin.attributes)
        [inputPin.attributes.request 17 labelledPin.m_label
          GPIOHANDLE_REQUEST_INPUT] ∧
      ¬ Encodes labelledPin.m_label
        (inputPin.attributes.request 17 labelledPin.m_label
          GPIOHANDLE_REQUEST_INPUT).consumerLabel := by
  constructor
  · exact
      Routine.Executes.call ((0 : Int), (4 : Int)) rfl ⟨rfl, rfl, rfl⟩
  · intro encodes
    have short := (encodes_strncpy_full_iff _).mp encodes
    revert short
    decide

end GpioPin

end Periphery
