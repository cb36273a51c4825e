import Periphery.Merge
import Periphery.Routine.Crowd
import Periphery.Stream.Writing

/-!
# Several writers

Any number of threads write to one port at the same time, each from a buffer
of its own.  The kernel answers their system calls one at a time, but a call
of `write` may need several of them, and other threads come in between.

What the port accepts is a merge of the buffers: nothing is lost, doubled or
out of order within a buffer.  Any merge may come about, so that no two bytes
of a buffer are sure to stay together.
-/

namespace Periphery

open Merge
open Routine (Crowd)

variable {Thread : Type} [DecidableEq Thread]

/-- The calls of all threads, in the order in which they were answered. -/
abbrev WriteLog (Thread : Type) := List (Thread × WriteEvent)

/-- The kernel of the descriptor `fd`, for one of its users. -/
def sharedWriting (fd : Int) (thread : Thread) :
    Kernel posix (WriteLog Thread) :=
  fun log request answer log' =>
    match request, answer with
    | .write target data count, ret =>
        if target = fd then
          anyAnswer [] count ret ∧
            log' = log ++ [(thread, ⟨data, count, ret⟩)]
        else
          log' = log
    | _, _ => log' = log

/-- What the port accepted from all threads together. -/
def acceptedInAll (memory : ByteMemory) (log : WriteLog Thread) :
    List Byte :=
  acceptedBytes memory (log.map Prod.snd)

omit [DecidableEq Thread] in
theorem acceptedInAll_concat
    (memory : ByteMemory) (log : WriteLog Thread) (thread : Thread)
    (event : WriteEvent) :
    acceptedInAll memory (log ++ [(thread, event)]) =
      acceptedInAll memory log ++
        memory.slice event.data event.accepted := by
  rw [acceptedInAll, List.map_append]
  exact acceptedBytes_concat memory _ event

/-- What the port accepts is a merge of what it accepts of each thread. -/
theorem acceptedInAll_merges (memory : ByteMemory) (log : WriteLog Thread) :
    Merges (fun thread => acceptedBytes memory (part thread log))
      (acceptedInAll memory log) :=
  merges_flatMap _ log

/-! ## What each thread sees -/

/-- Each thread sees its own calls, and no others. -/
theorem sharedWriting_alone (fd : Int) :
    Crowd.Alone (sharedWriting fd)
      (fun (thread : Thread) log => part thread log)
      (fun _ => writeKernel fd anyAnswer) where
  acts := by
    intro thread log request answer log' answered
    cases request with
    | write target data count =>
        rintro rfl
        rcases (if_pos rfl).mp answered with ⟨may, rfl⟩
        exact ⟨may, by rw [part_append, part_self]⟩
    | _ => trivial
  leaves := by
    intro thread other log request answer log' different answered
    cases request with
    | write target data count =>
        by_cases same : target = fd
        · rcases (if_pos same).mp answered with ⟨_, rfl⟩
          simp only [part_append, part_of_ne different.symm,
            List.append_nil]
        · exact congrArg _ ((if_neg same).mp answered)
    | _ => exact congrArg _ answered

namespace Stream

/-- Threads in calls of `write`. -/
abbrev Writers (fd : Int) (buffer : Thread → ConstBuffer) :=
  Crowd (fun thread => write fd (buffer thread)) (WriteLog Thread)

section Writing

variable
    {fd : Int} {buffer : Thread → ConstBuffer} {crowd : Writers fd buffer}

/-- Whatever the others do, each thread sends its buffer in order. -/
theorem writers_send_in_order
    (run :
      Crowd.Runs (sharedWriting fd) (.start (fun _ => ()) []) crowd)
    (memory : ByteMemory) (thread : Thread) :
    SendsInOrder memory (buffer thread) (part thread crowd.state) ∧
      ∀ outcome, (crowd.point thread).outcome = some outcome →
        EndsWriting (buffer thread) outcome (part thread crowd.state) := by
  have sustains :=
    (write_keeps_order fd memory (buffer thread)).sustains
      asksFrom_start
  exact sustains.throughout ((sharedWriting_alone fd).reaches run thread)

end Writing

/-! ## Every merge -/

section Following

variable {fd : Int}

omit [DecidableEq Thread] in
/-- One byte goes out, and the next round begins. -/
theorem writes_one
    {buffer cursor : ConstBuffer} (remains : cursor.size > 0)
    (thread : Thread) (log : WriteLog Thread) :
    Relation.ReflTransGen
      ((write fd buffer).Steps (sharedWriting fd thread))
      ⟨(write fd buffer).body cursor, (), log⟩
      ⟨(write fd buffer).body (cursor.advance 1), (),
        log ++ [(thread, ⟨cursor.data, cursor.size, 1⟩)]⟩ := by
  have answered :
      sharedWriting fd thread log (.write fd cursor.data cursor.size)
        (1 : Int) (log ++ [(thread, ⟨cursor.data, cursor.size, 1⟩)]) :=
    (if_pos rfl).mpr ⟨.inr ⟨by omega, by omega⟩, rfl⟩
  have asks :
      (write fd buffer).Advances (sharedWriting fd thread)
        ((write fd buffer).body cursor) () log
        (.done (.inl (cursor.advance (toSizeT 1)))) ()
        (log ++ [(thread, ⟨cursor.data, cursor.size, 1⟩)]) :=
    .of_call (1 : Int) (write_body fd buffer remains) answered rfl
  exact (Relation.ReflTransGen.single asks.steps).tail (.steps .around)

/-- Where a thread stands that has sent some bytes. -/
def behind (fd : Int) (buffer : ConstBuffer) (sent : List Byte) :
    (write fd buffer).Rest :=
  (write fd buffer).body (buffer.advance sent.length)

/-- A thread that has sent its whole buffer has returned. -/
theorem behind_all (fd : Int) (memory : ByteMemory) (buffer : ConstBuffer) :
    behind fd buffer (memory.slice buffer.data buffer.size) =
      .done (.inr ()) := by
  have nothing : ¬ (buffer.advance buffer.size).size > 0 := by
    rw [Buffer.advance_size (Nat.le_refl _)]
    omega
  rw [behind, ByteMemory.length_slice]
  exact Routine.Loop.whileDo_body_of_false (decide_eq_false nothing)

omit [DecidableEq Thread] in
/-- The next byte of a buffer may go out at any time. -/
theorem writes_next
    {memory : ByteMemory} {buffer : ConstBuffer} {sent : List Byte}
    {byte : Byte}
    (next : sent ++ [byte] <+: memory.slice buffer.data buffer.size)
    (thread : Thread) (log : WriteLog Thread) :
    ∃ log',
      Relation.ReflTransGen
          ((write fd buffer).Steps (sharedWriting fd thread))
          ⟨behind fd buffer sent, (), log⟩
          ⟨behind fd buffer (sent ++ [byte]), (), log'⟩ ∧
        acceptedInAll memory log' = acceptedInAll memory log ++ [byte] := by
  rcases ByteMemory.slice_of_prefix_concat next with ⟨inside, there⟩
  have within := Nat.le_of_lt inside
  have remains : (buffer.advance sent.length).size > 0 := by
    rw [Buffer.advance_size within]
    omega
  have steps := @writes_one Thread fd buffer _ remains thread log
  rw [Buffer.advance_advance, Buffer.advance_data within] at steps
  refine
    ⟨log ++ [(thread, ⟨buffer.data + sent.length,
      (buffer.advance sent.length).size, 1⟩)], ?_, ?_⟩
  · rw [behind, behind, List.length_append, List.length_singleton]
    exact steps
  · rw [acceptedInAll_concat]
    exact congrArg _ there

/-- The threads may send their bytes in any merged order. -/
theorem writers_follow
    (fd : Int) (memory : ByteMemory) (buffer : Thread → ConstBuffer)
    (labelled : List (Thread × Byte))
    (prefixes : ∀ thread, part thread labelled <+:
      memory.slice (buffer thread).data (buffer thread).size) :
    ∃ crowd : Writers fd buffer,
      Crowd.Runs (sharedWriting fd) (.start (fun _ => ()) []) crowd ∧
        (∀ thread, crowd.rest thread =
          behind fd (buffer thread) (part thread labelled)) ∧
        crowd.fields = (fun _ => ()) ∧
        acceptedInAll memory crowd.state = labelled.map Prod.snd := by
  apply Crowd.plays
    (fun thread => memory.slice (buffer thread).data (buffer thread).size)
    (fun thread => behind fd (buffer thread))
    (fun labelled log =>
      acceptedInAll memory log = labelled.map Prod.snd)
  · exact fun thread => congrArg _ (Buffer.advance_zero _)
  · rfl
  · intro labelled mover byte log next accepted
    rcases writes_next next mover log with ⟨log', steps, more⟩
    refine ⟨log', steps, ?_⟩
    rw [more, accepted, List.map_append]
    rfl
  · exact prefixes

end Following

/-- The port may accept exactly the merges of the buffers. -/
theorem writers_accept_iff
    (fd : Int) (memory : ByteMemory) (buffer : Thread → ConstBuffer)
    (whole : List Byte) :
    (∃ crowd : Writers fd buffer,
      Crowd.Runs (sharedWriting fd) (.start (fun _ => ()) []) crowd ∧
        (∀ thread,
          (crowd.point thread).outcome = some (.returned ())) ∧
        acceptedInAll memory crowd.state = whole) ↔
      Merges
        (fun thread =>
          memory.slice (buffer thread).data (buffer thread).size)
        whole := by
  constructor
  · rintro ⟨crowd, run, returned, rfl⟩
    have complete : ∀ thread,
        acceptedBytes memory (part thread crowd.state) =
          memory.slice (buffer thread).data (buffer thread).size := by
      intro thread
      rcases writers_send_in_order run memory thread with ⟨sends, ended⟩
      have all : acceptedCount (part thread crowd.state) =
          (buffer thread).size :=
        ended _ (returned thread)
      rw [sends.accepted, all]
    have merges := acceptedInAll_merges memory crowd.state
    simp only [complete] at merges
    exact merges
  · rintro ⟨labelled, rfl, parts⟩
    rcases
        writers_follow fd memory buffer labelled
          (fun thread => (parts thread) ▸ List.prefix_refl _) with
      ⟨crowd, run, stand, _, accepted⟩
    refine ⟨crowd, run, fun thread => ?_, accepted⟩
    have left := stand thread
    rw [parts thread, behind_all] at left
    unfold Crowd.point Crowd.seen Routine.Loop.Point.outcome
    rw [left]

end Stream

/-! ## Both classes -/

/--
In every interleaving of the calls of `write` of any number of threads, what
the port accepts is at every moment a merge of what it accepts of each thread,
and of each thread it accepts the first bytes of its buffer, all of them once
its call has returned.  When all calls have returned, the port may have
accepted any merge of the buffers, and nothing else.
-/
theorem writes_merge
    (port : StreamPort) (memory : ByteMemory)
    (buffer : Thread → ConstBuffer) :
    (∀ crowd :
        Crowd (fun thread => port.write (buffer thread))
          (WriteLog Thread),
      Crowd.Runs (sharedWriting port.fd) (.start (fun _ => ()) [])
          crowd →
        Merges (fun thread => acceptedBytes memory (part thread crowd.state))
            (acceptedInAll memory crowd.state) ∧
          ∀ thread,
            SendsInOrder memory (buffer thread)
                (part thread crowd.state) ∧
              ∀ outcome, (crowd.point thread).outcome = some outcome →
                EndsWriting (buffer thread) outcome
                  (part thread crowd.state)) ∧
    ∀ whole,
      (∃ crowd :
          Crowd (fun thread => port.write (buffer thread))
            (WriteLog Thread),
        Crowd.Runs (sharedWriting port.fd) (.start (fun _ => ()) [])
            crowd ∧
          (∀ thread,
            (crowd.point thread).outcome = some (.returned ())) ∧
          acceptedInAll memory crowd.state = whole) ↔
        Merges
          (fun thread =>
            memory.slice (buffer thread).data (buffer thread).size)
          whole := by
  cases port with
  | serial object =>
      exact
        ⟨fun crowd run =>
          ⟨acceptedInAll_merges memory crowd.state,
            Stream.writers_send_in_order run memory⟩,
          Stream.writers_accept_iff object.fd_ memory buffer⟩
  | characterDevice object =>
      exact
        ⟨fun crowd run =>
          ⟨acceptedInAll_merges memory crowd.state,
            Stream.writers_send_in_order run memory⟩,
          Stream.writers_accept_iff object.m_fd memory buffer⟩

theorem ownTwoBytes_fit (thread : Bool) :
    (if thread then 1 else 3) + 2 < 2 ^ 64 := by
  cases thread <;> decide

/-- Two bytes for each of two threads. -/
def ownTwoBytes (thread : Bool) : ConstBuffer :=
  ⟨if thread then 1 else 3, 2, ownTwoBytes_fit thread⟩

/-- Two messages of two bytes may be torn apart. -/
theorem messages_torn :
    ∃ crowd :
        Crowd (fun thread => (StreamPort.serial ⟨3⟩).write
          (ownTwoBytes thread)) (WriteLog Bool),
      Crowd.Runs (sharedWriting 3) (.start (fun _ => ()) []) crowd ∧
        (∀ thread,
          (crowd.point thread).outcome = some (.returned ())) ∧
        acceptedInAll (fun address => BitVec.ofNat 8 address)
            crowd.state =
          [1, 3, 2, 4] :=
  ((writes_merge (.serial ⟨3⟩) _ ownTwoBytes).2 _).mpr
    ⟨[(true, 1), (false, 3), (true, 2), (false, 4)], rfl, by decide⟩

end Periphery
