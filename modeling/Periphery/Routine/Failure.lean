import Periphery.Routine.Progress

/-!
# Routines that report failures

Some answers say that a request failed.  A routine reports failures if it
raises an error once a request failed, and not otherwise.  On the way out it
may make one more request, to give back what it had taken.

Which answers occur, which of them are failures and which requests give back
are parameters.  A journal of the requests, with their answers, stands in for
the kernel, so that nothing depends on what the kernel does.
-/

/-- A request with its answer. -/
structure Reply (interface : Interface) where
  request : interface.Call
  answer : interface.Answer request

/-- What answers and requests mean. -/
structure Faults (interface : Interface) where
  Occurs : (request : interface.Call) → interface.Answer request → Prop
  Failed : (request : interface.Call) → interface.Answer request → Prop
  Releases : interface.Call → Prop

namespace Faults

variable {interface : Interface} {Error Value : Type}

/-- Nothing failed. -/
def Sound (faults : Faults interface)
    (journal : List (Reply interface)) : Prop :=
  ∀ reply ∈ journal, ¬ faults.Failed reply.request reply.answer

/--
Nothing failed but the last request, or nothing failed before the last but
one, and the last only gives back.
-/
inductive Orderly (faults : Faults interface) :
    List (Reply interface) → Prop where
  | sound {journal : List (Reply interface)}
      (sound : faults.Sound journal) : Orderly faults journal
  | failed {before : List (Reply interface)} {reply : Reply interface}
      (sound : faults.Sound before)
      (failed : faults.Failed reply.request reply.answer) :
      Orderly faults (before ++ [reply])
  | released {before : List (Reply interface)}
      {reply last : Reply interface}
      (sound : faults.Sound before)
      (failed : faults.Failed reply.request reply.answer)
      (releases : faults.Releases last.request) :
      Orderly faults (before ++ [reply] ++ [last])

/-- Every answer that occurs, written down. -/
def journaling (faults : Faults interface) :
    Kernel interface (List (Reply interface)) :=
  fun journal request answer journal' =>
    faults.Occurs request answer ∧
      journal' = journal ++ [⟨request, answer⟩]

/-- An error was raised exactly if something failed. -/
def Tells (faults : Faults interface) :
    Outcome Error Value → List (Reply interface) → Prop
  | .returned _, journal => faults.Sound journal
  | .threw _, journal => ¬ faults.Sound journal

/-- As `Tells`, unless the call is refused without a single request. -/
def Answers (faults : Faults interface) (refusal : Option Error)
    (outcome : Outcome Error Value) (journal : List (Reply interface)) :
    Prop :=
  match refusal with
  | some error => outcome = .threw error ∧ journal = []
  | none => faults.Tells outcome journal

section Journals

variable
    {faults : Faults interface} {journal : List (Reply interface)}
    {reply : Reply interface}

theorem sound_nil : faults.Sound [] := by
  rintro reply (_ | _)

theorem Sound.append
    (sound : faults.Sound journal)
    (succeeded : ¬ faults.Failed reply.request reply.answer) :
    faults.Sound (journal ++ [reply]) := by
  intro other member
  rcases List.mem_append.mp member with earlier | last
  · exact sound other earlier
  · rcases List.mem_singleton.mp last with rfl
    exact succeeded

theorem not_sound_of_mem
    (member : reply ∈ journal)
    (failed : faults.Failed reply.request reply.answer) :
    ¬ faults.Sound journal :=
  fun sound => sound reply member failed

end Journals

end Faults

namespace Routine

variable
    {interface : Interface} {Fields Error Value Result State : Type}
    {faults : Faults interface} {fields : Fields}

/-! ## Ways out -/

/-- The routine raises such an error, without a request. -/
def Raises (what : Error → Prop) :
    Routine interface Fields Error Value → Fields → Prop
  | .done _, _ => False
  | .raise error, _ => what error
  | .observe next, fields => (next fields).Raises what fields
  | .assign assigned next, _ => next.Raises what assigned
  | .call _ _, _ => False

/-- The routine raises an error, after at most one release. -/
def GivesUp (faults : Faults interface) :
    Routine interface Fields Error Value → Fields → Prop
  | .done _, _ => False
  | .raise _, _ => True
  | .observe next, fields => (next fields).GivesUp faults fields
  | .assign assigned next, _ => next.GivesUp faults assigned
  | .call request next, fields =>
      faults.Releases request ∧
        ∀ answer, (next answer).Raises (fun _ => True) fields

/-- The routine gives up when a request failed, and only then. -/
def Heeds (faults : Faults interface) :
    Routine interface Fields Error Value → Fields → Prop
  | .done _, _ => True
  | .raise _, _ => False
  | .observe next, fields => (next fields).Heeds faults fields
  | .assign assigned next, _ => next.Heeds faults assigned
  | .call request next, fields =>
      ∀ answer, faults.Occurs request answer →
        (faults.Failed request answer →
            (next answer).GivesUp faults fields) ∧
          (¬ faults.Failed request answer →
            (next answer).Heeds faults fields)

/-- The routine is refused, or heeds failures. -/
def Responds (faults : Faults interface) (refusal : Option Error)
    (routine : Routine interface Fields Error Value) (fields : Fields) :
    Prop :=
  match refusal with
  | some error => routine.Raises (fun raised => raised = error) fields
  | none => routine.Heeds faults fields

/-! ## Sequencing -/

theorem Raises.bind
    {what : Error → Prop}
    {first : Routine interface Fields Error Value}
    (raises : first.Raises what fields)
    (next : Value → Routine interface Fields Error Result) :
    (first >>= next).Raises what fields := by
  change (first.bind next).Raises what fields
  induction first generalizing fields with
  | done value => exact raises.elim
  | raise error => exact raises
  | observe first induction => exact induction fields raises
  | assign assigned first induction => exact induction raises
  | call request first _ => exact raises.elim

theorem GivesUp.bind
    {first : Routine interface Fields Error Value}
    (givesUp : first.GivesUp faults fields)
    (next : Value → Routine interface Fields Error Result) :
    (first >>= next).GivesUp faults fields := by
  change (first.bind next).GivesUp faults fields
  induction first generalizing fields with
  | done value => exact givesUp.elim
  | raise error => exact givesUp
  | observe first induction => exact induction fields givesUp
  | assign assigned first induction => exact induction givesUp
  | call request first _ =>
      exact ⟨givesUp.1, fun answer => (givesUp.2 answer).bind next⟩

/-- Both halves of a sequence heed failures. -/
theorem Heeds.bind
    {first : Routine interface Fields Error Value}
    {next : Value → Routine interface Fields Error Result}
    (heeds : first.Heeds faults fields)
    (rest : ∀ value fields', (next value).Heeds faults fields') :
    (first >>= next).Heeds faults fields := by
  change (first.bind next).Heeds faults fields
  induction first generalizing fields with
  | done value => exact rest value fields
  | raise error => exact heeds.elim
  | observe first induction => exact induction fields heeds
  | assign assigned first induction => exact induction heeds
  | call request first induction =>
      intro answer occurs
      rcases heeds answer occurs with ⟨failing, succeeding⟩
      exact
        ⟨fun failed => (failing failed).bind next,
          fun succeeded => induction answer (succeeding succeeded)⟩

/-- What follows on a look at the fields. -/
theorem heeds_self
    {next : Fields → Routine interface Fields Error Value}
    (rest : (next fields).Heeds faults fields) :
    (Routine.self >>= next).Heeds faults fields :=
  rest

/-- A request, and what depends on its answer. -/
theorem heeds_ask
    {request : interface.Call}
    {next : interface.Answer request →
      Routine interface Fields Error Value}
    (checked : ∀ answer, faults.Occurs request answer →
      (faults.Failed request answer →
          (next answer).GivesUp faults fields) ∧
        (¬ faults.Failed request answer →
          (next answer).Heeds faults fields)) :
    (Routine.call request Routine.done >>= next).Heeds faults fields :=
  checked

/-- A way out on a condition, with the rest behind it. -/
theorem checks
    {failed condition : Prop} {_ : Decidable condition}
    {out rest : Routine interface Fields Error Value}
    (means : failed ↔ condition)
    (givesUp : out.GivesUp faults fields)
    (heeds : ¬ failed → rest.Heeds faults fields) :
    (failed →
        (if condition then out else rest).GivesUp faults fields) ∧
      (¬ failed →
        (if condition then out else rest).Heeds faults fields) := by
  constructor
  · intro holds
    rw [if_pos (means.mp holds)]
    exact givesUp
  · intro fails
    rw [if_neg (mt means.mpr fails)]
    exact heeds fails

/-- A check, with the rest of a sequence behind it. -/
theorem checks_bind
    {failed : Prop} {first : Routine interface Fields Error Value}
    {next : Value → Routine interface Fields Error Result}
    (checked :
      (failed → first.GivesUp faults fields) ∧
        (¬ failed → first.Heeds faults fields))
    (rest : ∀ value fields', (next value).Heeds faults fields') :
    (failed → (first >>= next).GivesUp faults fields) ∧
      (¬ failed → (first >>= next).Heeds faults fields) :=
  ⟨fun holds => (checked.1 holds).bind next,
    fun fails => (checked.2 fails).bind rest⟩

/-! ## Runs -/

section Runs

variable {journal : List (Reply interface)}

/-- An error that is raised at once leaves everything as it is. -/
theorem Raises.upholds
    {what : Error → Prop} {kernel : Kernel interface State}
    {during : State → Prop} {state : State}
    {post : Outcome Error Value → Fields → State → Prop}
    {routine : Routine interface Fields Error Value}
    (raises : routine.Raises what fields)
    (now : during state)
    (raised : ∀ error fields', what error →
      post (.threw error) fields' state) :
    routine.Upholds kernel during post fields state := by
  induction routine generalizing fields with
  | done value => exact raises.elim
  | raise error => exact ⟨now, raised error fields raises⟩
  | observe next induction => exact induction fields raises
  | assign assigned next induction => exact induction raises
  | call request next _ => exact raises.elim

/-- Behind a failure there is an error, and perhaps a release. -/
theorem GivesUp.upholds
    {reply : Reply interface}
    {routine : Routine interface Fields Error Value}
    (givesUp : routine.GivesUp faults fields)
    (sound : faults.Sound journal)
    (failed : faults.Failed reply.request reply.answer) :
    routine.Upholds faults.journaling faults.Orderly
      (fun outcome _ journal => faults.Tells outcome journal)
      fields (journal ++ [reply]) := by
  have noted : reply ∈ journal ++ [reply] :=
    List.mem_append_right journal (List.mem_singleton.mpr rfl)
  induction routine generalizing fields with
  | done value => exact givesUp.elim
  | raise error =>
      exact ⟨.failed sound failed, Faults.not_sound_of_mem noted failed⟩
  | observe next induction => exact induction fields givesUp
  | assign assigned next induction => exact induction givesUp
  | call request next _ =>
      refine ⟨.failed sound failed, ?_⟩
      rintro answer _ ⟨_, rfl⟩
      exact
        (givesUp.2 answer).upholds (.released sound failed givesUp.1)
          fun _ _ _ =>
            Faults.not_sound_of_mem (List.mem_append_left _ noted) failed

/-- A routine that heeds failures reports them, and does so in order. -/
theorem Heeds.upholds
    {routine : Routine interface Fields Error Value}
    (heeds : routine.Heeds faults fields)
    (sound : faults.Sound journal) :
    routine.Upholds faults.journaling faults.Orderly
      (fun outcome _ journal => faults.Tells outcome journal)
      fields journal := by
  induction routine generalizing fields journal with
  | done value => exact ⟨.sound sound, sound⟩
  | raise error => exact heeds.elim
  | observe next induction => exact induction fields heeds sound
  | assign assigned next induction => exact induction heeds sound
  | call request next induction =>
      refine ⟨.sound sound, ?_⟩
      rintro answer _ ⟨occurs, rfl⟩
      rcases heeds answer occurs with ⟨failing, succeeding⟩
      by_cases failed : faults.Failed request answer
      · exact (failing failed).upholds sound failed
      · exact induction answer (succeeding failed) (sound.append failed)

end Runs

namespace Loop

/--
At every moment of a run the journal is in order, and at its end the outcome
answers to it.
-/
def Reports (faults : Faults interface) (refusal : Option Error)
    (loop : Loop interface Fields Error Value) (fields : Fields) : Prop :=
  ∀ point, loop.Reaches faults.journaling fields [] point →
    faults.Orderly point.state ∧
      ∀ outcome, point.outcome = some outcome →
        faults.Answers refusal outcome point.state

/-- Rounds that heed failures make a loop that reports them. -/
theorem reports_rounds
    {loop : Loop interface Fields Error Value}
    (heeds : ∀ cursor fields, (loop.body cursor).Heeds faults fields) :
    loop.Reports faults none fields := by
  intro point reaches
  have keeps :
      loop.Keeps faults.journaling faults.Orderly
        (fun _ _ journal => faults.Sound journal)
        (fun outcome _ journal => faults.Tells outcome journal) := by
    intro cursor fields journal sound
    apply ((heeds cursor fields).upholds sound).mono
    rintro ((cursor | value) | error) _ _ _ tells
    · exact tells
    · exact tells
    · exact tells
  exact (keeps.sustains Faults.sound_nil).throughout reaches

theorem reports_whileDo
    {Cursor : Type} {start : Cursor} {condition : Cursor → Bool}
    {body : Cursor → Routine interface Fields Error Cursor}
    {value : Value}
    (heeds : ∀ cursor fields, (body cursor).Heeds faults fields) :
    (whileDo start condition body value).Reports faults none fields := by
  apply reports_rounds
  intro (cursor : Cursor) fields
  change
    Routine.Heeds faults
      (if condition cursor then
        (body cursor >>= fun next => pure (Sum.inl next))
      else pure (Sum.inr value)) fields
  split_ifs
  · exact (heeds cursor fields).bind fun _ _ => trivial
  · trivial

/-- Without a loop, only the fields at the start matter. -/
theorem reports_once
    {routine : Routine interface Fields Error Value}
    {refusal : Option Error}
    (responds : routine.Responds faults refusal fields) :
    (once routine).Reports faults refusal fields := by
  intro point reaches
  cases refusal with
  | none =>
      have heeds : routine.Heeds faults fields := responds
      exact
        (sustains_once (heeds.upholds Faults.sound_nil)).throughout
          reaches
  | some error =>
      have raises : routine.Raises (fun raised => raised = error) fields :=
        responds
      have upheld :
          routine.Upholds faults.journaling (fun journal => journal = [])
            (fun outcome _ journal =>
              outcome = .threw error ∧ journal = [])
            fields [] := by
        refine raises.upholds rfl ?_
        rintro _ _ rfl
        exact ⟨rfl, rfl⟩
      rcases (sustains_once upheld).throughout reaches with
        ⟨empty, ended⟩
      refine ⟨?_, ended⟩
      rw [empty]
      exact .sound Faults.sound_nil

end Loop

end Routine
