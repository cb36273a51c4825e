import Periphery.Merge
import Periphery.Routine.Crowd
import Periphery.Stream.Counting

/-!
# Several readers

Any number of threads call the read functions of one port at the same time,
each with a buffer of its own.  The kernel hands out the bytes that arrive to
whoever asks next.

What was handed out is a merge of what the threads received: every byte goes
to one of them, and each stores its bytes in order.  Which thread receives
which byte is open; with `read_all`, any way to deal the bytes out may come
about.
-/

namespace Periphery

open Merge
open Routine (Crowd)

variable {Thread : Type}

/-- The calls of all threads, in the order in which they were answered. -/
abbrev ReadLog (Thread : Type) := List (Thread × ReadEvent)

/-- The memory after these calls. -/
def replay (memory : ByteMemory) (events : List ReadEvent) : ByteMemory :=
  events.foldl ReadEvent.store memory

/-- The memory and the calls, for one thread by itself. -/
def intakeOf (memory : ByteMemory) (events : List ReadEvent) : Intake :=
  ⟨replay memory events, events⟩

@[simp]
theorem intakeOf_concat
    (memory : ByteMemory) (events : List ReadEvent) (event : ReadEvent) :
    intakeOf memory (events ++ [event]) =
      (intakeOf memory events).record event := by
  simp [intakeOf, replay, Intake.record]

theorem one_le_maxRead : 1 ≤ maxRead := by
  decide

/-- A read hands out no more than Linux does. -/
def linuxReads : ReadDevice := fun _ event =>
  match event with
  | .handed _ _ bytes => bytes.length ≤ maxRead
  | _ => True

theorem linuxReads_limited : linuxReads.Limited :=
  fun _ _ _ _ limited => limited

/-- The kernel of the descriptor `fd`, for one of its users. -/
def sharedReading (fd : Int) (thread : Thread) :
    Kernel posix (ReadLog Thread) :=
  fun log request answer log' =>
    match request, answer with
    | .select target given, (ret, left) =>
        if target = fd then
          ∃ elapsed,
            log' = log ++ [(thread, .waited given elapsed ret left)]
        else
          log' = log
    | .read target data count, ret =>
        if target = fd then
          ret < 0 ∧ log' = log ++ [(thread, .failed data count)] ∨
            ∃ bytes : List Byte,
              bytes.length ≤ count ∧ bytes.length ≤ maxRead ∧
                ret = bytes.length ∧
                log' = log ++ [(thread, .handed data count bytes)]
        else
          log' = log
    | _, _ => log' = log

variable [DecidableEq Thread]

/-! ## What each thread sees -/

/-- Each thread sees its own calls, and no others. -/
theorem sharedReading_alone (fd : Int) (memory : ByteMemory) :
    Crowd.Alone (sharedReading fd)
      (fun (thread : Thread) log => intakeOf memory (part thread log))
      (fun _ => readKernel fd linuxReads) where
  acts := by
    intro thread log request answer log' answered
    cases request with
    | select target given =>
        rintro rfl
        rcases (if_pos rfl).mp answered with ⟨elapsed, rfl⟩
        refine ⟨elapsed, trivial, ?_⟩
        rw [part_append, part_self, intakeOf_concat]
    | read target data count =>
        rintro rfl
        rcases (if_pos rfl).mp answered with
          ⟨failed, rfl⟩ | ⟨bytes, most, limited, same, rfl⟩
        · refine .inl ⟨failed, trivial, ?_⟩
          rw [part_append, part_self, intakeOf_concat]
        · refine .inr ⟨bytes, most, same, limited, ?_⟩
          rw [part_append, part_self, intakeOf_concat]
    | _ => trivial
  leaves := by
    intro thread other log request answer log' different answered
    have unseen : ∀ event,
        part other (log ++ [(thread, event)]) = part other log := by
      intro event
      rw [part_append, part_of_ne different.symm, List.append_nil]
    cases request with
    | select target given =>
        by_cases same : target = fd
        · rcases (if_pos same).mp answered with ⟨_, rfl⟩
          exact congrArg _ (unseen _)
        · exact congrArg _ (congrArg _ ((if_neg same).mp answered))
    | read target data count =>
        by_cases same : target = fd
        · rcases (if_pos same).mp answered with
            ⟨_, rfl⟩ | ⟨_, _, _, _, rfl⟩
          · exact congrArg _ (unseen _)
          · exact congrArg _ (unseen _)
        · exact congrArg _ (congrArg _ ((if_neg same).mp answered))
    | _ => exact congrArg _ (congrArg _ answered)

/-! ## The memory of all threads -/

/-- The address belongs to the buffer. -/
def Buffer.Covers (buffer : Buffer) (address : Nat) : Prop :=
  buffer.data ≤ address ∧ address < buffer.data + buffer.size

/-- No two threads read into the same byte. -/
def SeparateBuffers (buffer : Thread → MutableBuffer) : Prop :=
  ∀ thread other address, (buffer thread).Covers address →
    (buffer other).Covers address → thread = other

/-- The call stores nothing outside the buffer. -/
def ReadEvent.StoresIn (buffer : MutableBuffer) (event : ReadEvent) :
    Prop :=
  ∀ (memory : ByteMemory) address, ¬ buffer.Covers address →
    event.store memory address = memory address

/-- A call for what is left of a buffer stores in the buffer. -/
theorem ReadEvent.Asks.storesIn
    {buffer : MutableBuffer} {earlier : List ReadEvent}
    {event : ReadEvent} (asks : event.Asks buffer earlier) :
    event.StoresIn buffer := by
  intro memory address outside
  cases event with
  | waited given elapsed ret left => rfl
  | failed data count => rfl
  | handed data count bytes =>
      rcases asks with ⟨rfl, rfl, most⟩
      unfold Buffer.Covers at outside
      apply ByteMemory.overwrite_apply_outside
      omega

/-- What a call leaves at an address depends on what was there. -/
theorem ReadEvent.store_congr
    (event : ReadEvent) {memory memory' : ByteMemory} {address : Nat}
    (same : memory address = memory' address) :
    event.store memory address = event.store memory' address := by
  cases event with
  | waited given elapsed ret left => exact same
  | failed data count => exact same
  | handed data count bytes =>
      simp only [ReadEvent.store, ByteMemory.overwrite, same]

@[simp]
theorem replay_concat
    (memory : ByteMemory) (events : List ReadEvent) (event : ReadEvent) :
    replay memory (events ++ [event]) =
      event.store (replay memory events) := by
  simp [replay]

section Replaying

variable
    {buffer : Thread → MutableBuffer} {log : ReadLog Thread}

/-- In its own buffer, a thread finds what its own calls stored. -/
theorem replay_own
    (separate : SeparateBuffers buffer)
    (stores : ∀ entry ∈ log, entry.2.StoresIn (buffer entry.1))
    (memory : ByteMemory) (thread : Thread) {address : Nat}
    (own : (buffer thread).Covers address) :
    replay memory (log.map Prod.snd) address =
      replay memory (part thread log) address := by
  induction log using List.reverseRecOn with
  | nil => rfl
  | append_singleton log entry induction =>
      rcases entry with ⟨mover, event⟩
      have before :=
        induction fun entry member =>
          stores entry (List.mem_append_left _ member)
      rw [List.map_append, List.map_singleton, replay_concat, part_append]
      by_cases same : mover = thread
      · subst same
        rw [part_self, replay_concat]
        exact event.store_congr before
      · have foreign : ¬ (buffer mover).Covers address := by
          intro covers
          exact same (separate mover thread address covers own)
        rw [part_of_ne same, List.append_nil, ← before]
        exact stores (mover, event) (by simp) _ _ foreign

omit [DecidableEq Thread] in
/-- Outside all buffers, nothing changes. -/
theorem replay_outside
    (stores : ∀ entry ∈ log, entry.2.StoresIn (buffer entry.1))
    (memory : ByteMemory) {address : Nat}
    (outside : ∀ thread, ¬ (buffer thread).Covers address) :
    replay memory (log.map Prod.snd) address = memory address := by
  induction log using List.reverseRecOn with
  | nil => rfl
  | append_singleton log entry induction =>
      have before :=
        induction fun entry member =>
          stores entry (List.mem_append_left _ member)
      rw [List.map_append, List.map_singleton, replay_concat, ← before]
      exact stores entry (by simp) _ _ (outside entry.1)

end Replaying

/--
The bytes handed out are dealt to the threads, each of which finds its own in
order at the start of its buffer; the rest of the memory is as before.
-/
structure SharesOut (memory : ByteMemory)
    (buffer : Thread → MutableBuffer) (log : ReadLog Thread) : Prop where
  dealt :
    Merges (fun thread => receivedBytes (part thread log))
      (receivedBytes (log.map Prod.snd))
  within : ∀ thread,
    (receivedBytes (part thread log)).length ≤ (buffer thread).size
  stored : ∀ thread address, (buffer thread).Covers address →
    replay memory (log.map Prod.snd) address =
      memory.overwrite (buffer thread).data
        (receivedBytes (part thread log)) address
  kept : ∀ address, (∀ thread, ¬ (buffer thread).Covers address) →
    replay memory (log.map Prod.snd) address = memory address

/-- What is found in a buffer that was filled. -/
theorem SharesOut.slice_of_full
    {memory : ByteMemory} {buffer : Thread → MutableBuffer}
    {log : ReadLog Thread} (shares : SharesOut memory buffer log)
    {thread : Thread}
    (full :
      (receivedBytes (part thread log)).length = (buffer thread).size) :
    (replay memory (log.map Prod.snd)).slice (buffer thread).data
        (buffer thread).size =
      receivedBytes (part thread log) := by
  have same :
      (replay memory (log.map Prod.snd)).slice (buffer thread).data
          (buffer thread).size =
        (memory.overwrite (buffer thread).data
            (receivedBytes (part thread log))).slice
          (buffer thread).data (buffer thread).size := by
    apply ByteMemory.slice_congr
    intro index within
    exact
      shares.stored thread _
        ⟨Nat.le_add_right _ _, Nat.add_lt_add_left within _⟩
  rw [same, ← full, ByteMemory.slice_overwrite]

/-! ## Many calls -/

/-- Every read function stores what it is handed out, in order. -/
theorem StreamPort.perform_fills
    (port : StreamPort) (memory : ByteMemory) (call : ReadCall)
    {device : ReadDevice} (limited : device.Limited)
    {point : (port.perform call).Point Intake}
    (reaches :
      (port.perform call).Reaches (readKernel port.fd device) ()
        ⟨memory, []⟩ point) :
    FillsInOrder device memory call.buffer point.state := by
  revert point
  cases call with
  | read buf =>
      rw [port.perform_read]
      intro point reaches
      have upheld :=
        @Stream.read_upholds_exact port.fd device memory buf ⟨memory, []⟩
          limited fillsFrom_start rfl
      exact ((Routine.Loop.sustains_once upheld).throughout reaches).1
  | readAll buf =>
      intro point reaches
      exact (port.readAll_fills memory buf limited.narrow reaches).1
  | readTimeout buf timeout =>
      rw [port.perform_readTimeout]
      intro point reaches
      have upheld :=
        @Stream.readTimeout_upholds_exact port.fd device memory buf
          ⟨memory, []⟩ limited fillsFrom_start rfl timeout
      exact ((Routine.Loop.sustains_once upheld).throughout reaches).1
  | readAllTimeout buf timeout =>
      intro point reaches
      exact (port.readAllTimeout_fills memory buf timeout reaches).1

/-- Threads in calls of the read functions. -/
abbrev Readers (port : StreamPort) (calls : Thread → ReadCall) :=
  Crowd (fun thread => port.perform (calls thread)) (ReadLog Thread)

section Reading

variable
    {port : StreamPort} {calls : Thread → ReadCall}
    {crowd : Readers port calls}

/-- Whatever the others do, each thread fills its buffer in order. -/
theorem readers_fill_in_order
    (run :
      Crowd.Runs (sharedReading port.fd) (.start (fun _ => ()) []) crowd)
    (memory : ByteMemory) (thread : Thread) :
    FillsInOrder linuxReads memory (calls thread).buffer
      (intakeOf memory (part thread crowd.state)) :=
  port.perform_fills memory (calls thread) linuxReads_limited
    ((sharedReading_alone port.fd memory).reaches run thread)

/-- No thread stores anything outside its buffer. -/
theorem readers_store_in_buffers
    (run :
      Crowd.Runs (sharedReading port.fd) (.start (fun _ => ()) [])
        crowd) :
    ∀ entry ∈ crowd.state,
      entry.2.StoresIn (calls entry.1).buffer := by
  intro entry member
  have fills := readers_fill_in_order run (fun _ => 0) entry.1
  rcases fills.asked.of_mem (mem_part member) with ⟨_, asks⟩
  exact asks.storesIn

/-- The bytes are dealt out, and each thread finds its own in its buffer. -/
theorem readers_share_out
    (run :
      Crowd.Runs (sharedReading port.fd) (.start (fun _ => ()) []) crowd)
    (separate : SeparateBuffers fun thread => (calls thread).buffer)
    (memory : ByteMemory) :
    SharesOut memory (fun thread => (calls thread).buffer)
      crowd.state where
  dealt := merges_flatMap _ crowd.state
  within thread := (readers_fill_in_order run memory thread).within
  stored := by
    intro thread address own
    rw [replay_own separate (readers_store_in_buffers run) memory thread
      own]
    exact
      congrFun (readers_fill_in_order run memory thread).stored address
  kept := by
    intro address outside
    exact
      replay_outside (readers_store_in_buffers run) memory outside

end Reading

/-! ## Every way to deal -/

namespace Stream

section Following

variable {fd : Int}

omit [DecidableEq Thread] in
/-- One byte is handed out, and the next round begins. -/
theorem reads_one
    {buffer cursor : MutableBuffer} (remains : cursor.size > 0)
    (thread : Thread) (log : ReadLog Thread) (byte : Byte) :
    Relation.ReflTransGen
      ((readAll fd buffer).Steps (sharedReading fd thread))
      ⟨(readAll fd buffer).body cursor, (), log⟩
      ⟨(readAll fd buffer).body (cursor.advance 1), (),
        log ++ [(thread, .handed cursor.data cursor.size [byte])]⟩ := by
  have answered :
      sharedReading fd thread log (.read fd cursor.data cursor.size)
        (1 : Int)
        (log ++ [(thread, .handed cursor.data cursor.size [byte])]) :=
    (if_pos rfl).mpr (.inr ⟨[byte], remains, one_le_maxRead, rfl, rfl⟩)
  have asks :
      (readAll fd buffer).Advances (sharedReading fd thread)
        ((readAll fd buffer).body cursor) () log
        (.done (.inl (cursor.advance (toSizeT (toInt 1))))) ()
        (log ++ [(thread, .handed cursor.data cursor.size [byte])]) :=
    .of_call (1 : Int) (readAll_body fd buffer remains) answered rfl
  exact (Relation.ReflTransGen.single asks.steps).tail (.steps .around)

/-- Where a thread stands that has received some bytes. -/
def awaiting (fd : Int) (buffer : MutableBuffer) (received : List Byte) :
    (readAll fd buffer).Rest :=
  (readAll fd buffer).body (buffer.advance received.length)

/-- A thread whose buffer is full has returned. -/
theorem awaiting_full
    {buffer : MutableBuffer} {received : List Byte}
    (full : received.length = buffer.size) :
    awaiting fd buffer received = .done (.inr ()) := by
  have nothing : ¬ (buffer.advance received.length).size > 0 := by
    rw [Buffer.advance_size (Nat.le_of_eq full)]
    omega
  exact Routine.Loop.whileDo_body_of_false (decide_eq_false nothing)

omit [DecidableEq Thread] in
/-- A thread that waits for more may receive any byte next. -/
theorem reads_next
    {buffer : MutableBuffer} {received : List Byte}
    (short : received.length < buffer.size)
    (thread : Thread) (log : ReadLog Thread) (byte : Byte) :
    ∃ event : ReadEvent,
      Relation.ReflTransGen
          ((readAll fd buffer).Steps (sharedReading fd thread))
          ⟨awaiting fd buffer received, (), log⟩
          ⟨awaiting fd buffer (received ++ [byte]), (),
            log ++ [(thread, event)]⟩ ∧
        event.bytes = [byte] := by
  have remains : (buffer.advance received.length).size > 0 := by
    rw [Buffer.advance_size (Nat.le_of_lt short)]
    omega
  have steps := @reads_one Thread fd buffer _ remains thread log byte
  rw [Buffer.advance_advance] at steps
  refine
    ⟨.handed (buffer.advance received.length).data
      (buffer.advance received.length).size [byte], ?_, rfl⟩
  rw [awaiting, awaiting, List.length_append, List.length_singleton]
  exact steps

/-- These are the bytes that the threads have received. -/
def HandedOut (labelled : List (Thread × Byte)) (log : ReadLog Thread) :
    Prop :=
  receivedBytes (log.map Prod.snd) = labelled.map Prod.snd ∧
    ∀ thread, receivedBytes (part thread log) = part thread labelled

theorem HandedOut.concat
    {labelled : List (Thread × Byte)} {log : ReadLog Thread}
    (handed : HandedOut labelled log) {thread : Thread}
    {event : ReadEvent} {byte : Byte} (same : event.bytes = [byte]) :
    HandedOut (labelled ++ [(thread, byte)])
      (log ++ [(thread, event)]) := by
  constructor
  · rw [List.map_append, List.map_append, List.map_singleton,
      receivedBytes_concat, handed.1, same]
    rfl
  · intro other
    rw [part_append, part_append]
    by_cases own : thread = other
    · subst own
      rw [part_self, part_self, receivedBytes_concat, handed.2, same]
    · rw [part_of_ne own, part_of_ne own, List.append_nil,
        List.append_nil, handed.2]

/-- The threads may receive their bytes in any merged order. -/
theorem readers_follow
    (fd : Int) (buffer : Thread → MutableBuffer)
    (labelled : List (Thread × Byte))
    (fits : ∀ thread,
      (part thread labelled).length = (buffer thread).size) :
    ∃ crowd :
        Crowd (fun thread => readAll fd (buffer thread)) (ReadLog Thread),
      Crowd.Runs (sharedReading fd) (.start (fun _ => ()) []) crowd ∧
        (∀ thread,
          (crowd.point thread).outcome = some (.returned ())) ∧
        HandedOut labelled crowd.state := by
  have played :
      ∃ crowd :
          Crowd (fun thread => readAll fd (buffer thread))
            (ReadLog Thread),
        Crowd.Runs (sharedReading fd) (.start (fun _ => ()) []) crowd ∧
          (∀ thread, crowd.rest thread =
            awaiting fd (buffer thread) (part thread labelled)) ∧
          crowd.fields = (fun _ => ()) ∧
          HandedOut labelled crowd.state := by
    apply Crowd.plays
      (fun thread => part thread labelled)
      (fun thread => awaiting fd (buffer thread))
      HandedOut
    · exact fun thread => congrArg _ (Buffer.advance_zero _)
    · exact ⟨rfl, fun _ => rfl⟩
    · intro earlier mover byte log next handed
      have more := next.length_le
      rw [fits mover, List.length_append, List.length_singleton] at more
      rcases reads_next more mover log byte with ⟨event, steps, same⟩
      exact ⟨_, steps, handed.concat same⟩
    · exact fun _ => List.prefix_refl _
  rcases played with ⟨crowd, run, stand, _, handed⟩
  refine ⟨crowd, run, fun thread => ?_, handed⟩
  have left := stand thread
  rw [awaiting_full (fits thread)] at left
  unfold Crowd.point Crowd.seen Routine.Loop.Point.outcome
  rw [left]

end Following

end Stream

/-- Calls of `read_all` may end with any merge of what they are to receive. -/
theorem readers_receive
    (port : StreamPort) (buffer : Thread → MutableBuffer)
    (labelled : List (Thread × Byte))
    (fits : ∀ thread,
      (part thread labelled).length = (buffer thread).size) :
    ∃ crowd : Readers port fun thread => .readAll (buffer thread),
      Crowd.Runs (sharedReading port.fd) (.start (fun _ => ()) [])
          crowd ∧
        (∀ thread,
          (crowd.point thread).outcome = some (.returned ())) ∧
        Stream.HandedOut labelled crowd.state := by
  cases port with
  | serial object =>
      exact Stream.readers_follow object.fd_ buffer labelled fits
  | characterDevice object =>
      exact Stream.readers_follow object.m_fd buffer labelled fits

/-- The bytes may be dealt out in every way that fills the buffers. -/
theorem readers_deal_iff
    (port : StreamPort) (memory : ByteMemory)
    {buffer : Thread → MutableBuffer} (separate : SeparateBuffers buffer)
    (parts : Thread → List Byte) (whole : List Byte) :
    (∃ crowd : Readers port fun thread => .readAll (buffer thread),
      Crowd.Runs (sharedReading port.fd) (.start (fun _ => ()) [])
          crowd ∧
        (∀ thread,
          (crowd.point thread).outcome = some (.returned ())) ∧
        receivedBytes (crowd.state.map Prod.snd) = whole ∧
        ∀ thread,
          (replay memory (crowd.state.map Prod.snd)).slice
              (buffer thread).data (buffer thread).size =
            parts thread) ↔
      Merges parts whole ∧
        ∀ thread, (parts thread).length = (buffer thread).size := by
  constructor
  · rintro ⟨crowd, run, returned, rfl, found⟩
    have shares := readers_share_out run separate memory
    have full : ∀ thread,
        (receivedBytes (part thread crowd.state)).length =
          (buffer thread).size := by
      intro thread
      have reaches :=
        (sharedReading_alone port.fd memory).reaches run thread
      exact
        (port.readAll_fills memory (buffer thread)
          linuxReads_limited.narrow reaches).2 _ (returned thread)
    have own : ∀ thread,
        receivedBytes (part thread crowd.state) = parts thread :=
      fun thread =>
        (shares.slice_of_full (full thread)).symm.trans (found thread)
    have dealt := shares.dealt
    simp only [own] at dealt full
    exact ⟨dealt, full⟩
  · rintro ⟨⟨labelled, rfl, dealt⟩, sized⟩
    rcases
        readers_receive port buffer labelled
          (fun thread => (dealt thread) ▸ sized thread) with
      ⟨crowd, run, returned, whole, own⟩
    refine ⟨crowd, run, returned, whole, fun thread => ?_⟩
    have full :
        (receivedBytes (part thread crowd.state)).length =
          (buffer thread).size := by
      rw [own, dealt, sized]
    have found :=
      (readers_share_out run separate memory).slice_of_full full
    exact found.trans ((own thread).trans (dealt thread))

/--
In every interleaving of any read functions that any number of threads call on
one port, with buffers that do not overlap: at every moment each byte handed
out went to one thread, which finds its bytes in order at the start of its
buffer, and nothing else in memory has changed.  With `read_all`, what the
buffers hold once all calls have returned may be any way to deal the bytes
out that fills them, and nothing else.
-/
theorem reads_merge (port : StreamPort) (memory : ByteMemory) :
    (∀ (calls : Thread → ReadCall) (crowd : Readers port calls),
      SeparateBuffers (fun thread => (calls thread).buffer) →
      Crowd.Runs (sharedReading port.fd) (.start (fun _ => ()) [])
          crowd →
        SharesOut memory (fun thread => (calls thread).buffer)
          crowd.state) ∧
    ∀ buffer : Thread → MutableBuffer, SeparateBuffers buffer →
      ∀ (parts : Thread → List Byte) (whole : List Byte),
        (∃ crowd : Readers port fun thread => .readAll (buffer thread),
          Crowd.Runs (sharedReading port.fd) (.start (fun _ => ()) [])
              crowd ∧
            (∀ thread,
              (crowd.point thread).outcome = some (.returned ())) ∧
            receivedBytes (crowd.state.map Prod.snd) = whole ∧
            ∀ thread,
              (replay memory (crowd.state.map Prod.snd)).slice
                  (buffer thread).data (buffer thread).size =
                parts thread) ↔
          Merges parts whole ∧
            ∀ thread, (parts thread).length = (buffer thread).size :=
  ⟨fun _ _ separate run => readers_share_out run separate memory,
    fun _ separate => readers_deal_iff port memory separate⟩

theorem freeTwoBytes_fit (thread : Bool) :
    (if thread then 10 else 20) + 2 < 2 ^ 64 := by
  cases thread <;> decide

/-- Room for two bytes for each of two threads. -/
def freeTwoBytes (thread : Bool) : MutableBuffer :=
  ⟨if thread then 10 else 20, 2, freeTwoBytes_fit thread⟩

theorem freeTwoBytes_separate : SeparateBuffers freeTwoBytes := by
  intro thread other address covers covers'
  cases thread <;> cases other <;>
    simp [Buffer.Covers, freeTwoBytes] at covers covers' ⊢ <;> omega

/-- Two readers may each receive every second byte. -/
theorem every_second_byte :
    ∃ crowd :
        Readers (.serial ⟨3⟩) fun thread => .readAll (freeTwoBytes thread),
      Crowd.Runs (sharedReading 3) (.start (fun _ => ()) []) crowd ∧
        (∀ thread,
          (crowd.point thread).outcome = some (.returned ())) ∧
        receivedBytes (crowd.state.map Prod.snd) = [1, 2, 3, 4] ∧
        ∀ thread,
          (replay (fun _ => 0) (crowd.state.map Prod.snd)).slice
              (freeTwoBytes thread).data (freeTwoBytes thread).size =
            if thread then [1, 3] else [2, 4] :=
  ((reads_merge (.serial ⟨3⟩) _).2 _ freeTwoBytes_separate _ _).mpr
    ⟨⟨[(true, 1), (false, 2), (true, 3), (false, 4)], rfl, by decide⟩,
      by decide⟩

end Periphery
