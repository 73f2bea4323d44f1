import SupvanCups.SocketPipes
import Mathlib.Order.Monotone.Basic

/-!
# Whose reply a socket returns

A socket does not keep replies apart: what the printer sends is one stream of
bytes.  What has arrived is thrown away before every chunk of a frame, and the
reply to the frame is what comes then, up to the first pause.

So an answer that misses its own frame does no harm once it has arrived.  A
reply holds bytes of an earlier answer exactly when some of that answer had not
arrived when the last chunk was to be written.
-/

namespace SupvanCups

/-! ### The stream of a printer -/

def recvBufferSize : Nat := 512

/-- How far a `recv` reads when so much has arrived. -/
def recvUpTo (position arrived : Nat) : Nat :=
  max position (min arrived (position + recvBufferSize))

/-- The loop of `read_response`: poll until something comes, and wait once more
for trailing bytes. -/
def recvLoop (arrived : Nat → Nat) (position : Nat) :
    (polls poll : Nat) → Nat
  | 0, _ => position
  | polls + 1, poll =>
      let first := recvUpTo position (arrived poll)
      if position < first then recvUpTo first (arrived (poll + 1))
      else recvLoop arrived position polls (poll + 1)

/-- Two seconds in polls of 20 ms. -/
def responsePolls : Nat := 2000 / max 20 1

/-- The bytes that a printer sends, numbered in the order they come: how many
have arrived by each poll of each call, and the call that each answers.  The
printer answers in order; some calls it may not answer, and delays are free. -/
structure Incoming where
  stream : Nat → U8
  arrived : Nat → Nat → Nat
  origin : Nat → Nat
  polls_monotone : ∀ call, Monotone (arrived call)
  calls_monotone : ∀ call poll, arrived call poll ≤ arrived (call + 1) 0
  inOrder : Monotone origin
  answersSent : ∀ byte call poll, byte < arrived call poll → origin byte < call

namespace Incoming

variable (incoming : Incoming)

/-- Where the stream has been read to after some calls. -/
def position (history : History SocketCall (Except ProtoError SocketReply)) :
    Nat :=
  history.zipIdx.foldl (fun position event =>
    match event.1.1 with
    | .drain => incoming.arrived event.2 0
    | .send _ => position
    | .readResponse =>
        recvLoop (incoming.arrived event.2) position responsePolls 0) 0

/-- A piece of the stream, if it is not empty. -/
def piece (start stop : Nat) : Option Bytes :=
  if start < stop then
    some ((List.range' start (stop - start)).map incoming.stream)
  else none

/-- A socket that brings the stream.  It takes what it likes of what is sent,
and to restore its timeout after a reply may fail. -/
def socket
    (takes : History SocketCall (Except ProtoError SocketReply) → Bytes →
      Except ProtoError ℕ+)
    (restores : History SocketCall (Except ProtoError SocketReply) →
      Except ProtoError Unit) :
    Device SocketCall (Except ProtoError SocketReply)
  | _, .drain => .ok ⟨1, none⟩
  | history, .send bytes => (takes history bytes).map fun taken => ⟨taken, none⟩
  | history, .readResponse => (restores history).map fun _ =>
      let start := incoming.position history
      ⟨1, incoming.piece start
        (recvLoop (incoming.arrived history.length) start responsePolls 0)⟩

/-- A reply reads from where the stream was drained to, and breaks off at a
pause or with its buffer full. -/
def ReadsFrom (drained call stop : Nat) : Prop :=
  ∃ poll < responsePolls,
    incoming.arrived drained 0 < incoming.arrived call poll ∧
    (stop = incoming.arrived call (poll + 1) ∨
      incoming.arrived drained 0 + recvBufferSize ≤ stop)

end Incoming

/-! ### What the loop reads -/

theorem recvLoop_spec (arrived : Nat → Nat) (position : Nat)
    (monotone : Monotone arrived) (polls poll : Nat) :
    recvLoop arrived position polls poll = position ∨
      ∃ brings < poll + polls, position < arrived brings ∧
        (recvLoop arrived position polls poll = arrived (brings + 1) ∨
          position + recvBufferSize ≤
            recvLoop arrived position polls poll) := by
  induction polls generalizing poll with
  | zero => exact .inl rfl
  | succ polls ih =>
      rw [recvLoop]
      split
      · rename_i brings
        have grows : arrived poll ≤ arrived (poll + 1) :=
          monotone (Nat.le_succ poll)
        refine .inr ⟨poll, by omega, ?_, ?_⟩
        · rw [recvUpTo] at brings
          omega
        · simp only [recvUpTo, recvBufferSize] at brings ⊢
          omega
      · rcases ih (poll + 1) with nothing | ⟨brings, bound, some, reads⟩
        · exact .inl nothing
        · exact .inr ⟨brings, by omega, some, reads⟩

theorem Incoming.position_concat (incoming : Incoming)
    (history : History SocketCall (Except ProtoError SocketReply))
    (event : SocketCall × Except ProtoError SocketReply) :
    incoming.position (history ++ [event]) =
      match event.1 with
      | .drain => incoming.arrived history.length 0
      | .send _ => incoming.position history
      | .readResponse => recvLoop (incoming.arrived history.length)
          (incoming.position history) responsePolls 0 := by
  simp [position, List.zipIdx_append]

theorem Incoming.piece_eq_none_iff (incoming : Incoming) {start stop : Nat} :
    incoming.piece start stop = none ↔ ¬ start < stop := by
  rw [piece]
  split <;> simp [*]

/-! ### Every reading comes after a drain -/

abbrev SocketHistory := History SocketCall (Except ProtoError SocketReply)

/-- The last call that was not a send was a drain. -/
def Drained (history : SocketHistory) : Prop :=
  ∃ before reply sends, history = before ++ (.drain, reply) :: sends ∧
    ∀ event ∈ sends, ∃ bytes, event.1 = .send bytes

/-- A reply is read after a drain and sends only. -/
def ReadsDrained (history : SocketHistory) : SocketCall → Prop
  | .readResponse => Drained history
  | _ => True

theorem drain_drained (history : SocketHistory) :
    Session.Ensures ReadsDrained drain history
      (Session.IfOk fun _ later => Drained later) :=
  ⟨trivial, fun reply => ⟨history, reply, [], rfl, by simp⟩⟩

theorem Drained.concat_send {history : SocketHistory}
    (drained : Drained history) (bytes : Bytes)
    (reply : Except ProtoError SocketReply) :
    Drained (history ++ [(.send bytes, reply)]) := by
  obtain ⟨before, answer, sends, rfl, areSends⟩ := drained
  refine ⟨before, answer, sends ++ [(.send bytes, reply)], by simp, ?_⟩
  intro event member
  rcases List.mem_append.mp member with earlier | last
  · exact areSends event earlier
  · obtain rfl := List.mem_singleton.mp last
    exact ⟨bytes, rfl⟩

theorem sendChunk_drained (chunk : Bytes) {history : SocketHistory}
    (drained : Drained history) :
    Session.Ensures ReadsDrained (sendChunk chunk) history
      (Session.IfOk fun _ later => Drained later) := by
  induction sized : chunk.length using Nat.strongRecOn
    generalizing chunk history with
  | ind size ih =>
      rw [sendChunk]
      split
      · exact Session.ensures_pure drained
      · rename_i some
        refine Session.ensures_bind_ifOk (fun _ later => Drained later)
          (Session.ensures_ask_ifOk trivial fun reply =>
            drained.concat_send _ _) fun reply later still => ?_
        have shorter : (chunk.drop reply.taken).length < size := by
          have := reply.taken.pos
          have := List.length_pos_iff.mpr some
          simp only [List.length_drop]
          omega
        exact ih _ shorter (chunk.drop reply.taken) still rfl

theorem writePieces_drained (pieces : List Bytes) (history : SocketHistory)
    (ready : pieces ≠ [] ∨ Drained history) :
    Session.Ensures ReadsDrained (writePieces pieces) history
      (Session.IfOk fun _ later => Drained later) := by
  induction pieces generalizing history with
  | nil =>
      exact Session.ensures_pure (ready.resolve_left fun absent => absent rfl)
  | cons piece pieces ih =>
      exact Session.ensures_bind_ifOk _ (drain_drained history)
        fun _ later drained => Session.ensures_bind_ifOk _
          (sendChunk_drained piece drained)
          fun _ last still => ih last (.inr still)

theorem writeChunked_drained {data : Bytes} (some : data ≠ [])
    {chunkSize : Nat} (positive : 0 < chunkSize) (history : SocketHistory) :
    Session.Ensures ReadsDrained (writeChunked data chunkSize) history
      (Session.IfOk fun _ later => Drained later) := by
  refine writePieces_drained _ history (.inl fun none => some ?_)
  have whole := chunks_flatten data positive
  rwa [none, List.flatten_nil, eq_comm] at whole

theorem readResponse_drained {history : SocketHistory}
    (drained : Drained history) :
    Session.Ensures ReadsDrained readResponse history fun _ _ => True :=
  Session.ensures_bind (fun _ _ => True)
    (Session.ensures_ask drained fun _ => trivial) (fun _ _ _ => trivial)
    fun _ _ _ => trivial

theorem rfcommSend_drained (request : SppPipeCall) (history : SocketHistory) :
    (rfcommSend request).run.Ensures ReadsDrained history
      fun _ _ => True := by
  have nonempty {size : Nat} (frame : Frame size) (positive : 0 < size) :
      frame.val ≠ [] := by
    intro absent
    have length := frame.property
    rw [absent, List.length_nil] at length
    omega
  cases request with
  | sendCmdFrame frame =>
      exact Session.ensures_bind _
        (writeChunked_drained (nonempty frame (by decide)) (by decide) history)
        (fun _ _ _ => trivial) fun _ later drained =>
          readResponse_drained drained
  | sendDataFrame frame wanted =>
      refine Session.ensures_bind _
        (writeChunked_drained (nonempty frame (by decide)) (by decide) history)
        (fun _ _ _ => trivial) fun _ later drained => ?_
      split
      · exact readResponse_drained drained
      · trivial

theorem overRfcomm_drained {α : Type} (operation : Operation α) :
    (overRfcomm operation).run.Ensures ReadsDrained [] fun _ _ => True := by
  have carriedOut {β : Type}
      (script : Script SppPipeCall (Except ProtoError (Option Bytes)) β)
      (history : SocketHistory) :
      (script.interpret fun request => (rfcommSend request).run).Ensures
        ReadsDrained history fun _ _ => True := by
    induction script generalizing history with
    | done result => trivial
    | call request next ih =>
        exact (rfcommSend_drained request history).bind _
          fun reply later _ => ih reply later
  exact carriedOut _ []

/-! ### Runs -/

section Runs

variable (incoming : Incoming)
  (takes : SocketHistory → Bytes → Except ProtoError ℕ+)
  (restores : SocketHistory → Except ProtoError Unit)

theorem Incoming.position_drained {before sends : SocketHistory}
    (reply : Except ProtoError SocketReply)
    (areSends : ∀ event ∈ sends, ∃ bytes, event.1 = .send bytes) :
    incoming.position (before ++ (.drain, reply) :: sends) =
      incoming.arrived before.length 0 := by
  induction sends using List.reverseRecOn with
  | nil => rw [position_concat]
  | append_singleton sends event ih =>
      have split : before ++ (SocketCall.drain, reply) :: (sends ++ [event]) =
          (before ++ (.drain, reply) :: sends) ++ [event] := by
        simp
      obtain ⟨bytes, isSend⟩ := areSends event (by simp)
      rw [split, position_concat, isSend]
      exact ih fun event member => areSends event (by simp [member])

theorem mem_run_socket {α : Type} (script : Script SocketCall
      (Except ProtoError SocketReply) α) (device : Device SocketCall
      (Except ProtoError SocketReply)) (history : SocketHistory)
    (answered : ∀ call event, history[call]? = some event →
      event.2 = device (history.take call) event.1) :
    ∀ call event, (script.run device history).2[call]? = some event →
      event.2 = device ((script.run device history).2.take call) event.1 := by
  induction script generalizing history with
  | done result => exact answered
  | call request next ih =>
      apply ih
      intro call event present
      rcases Nat.lt_or_ge call history.length with inside | outside
      · rw [List.getElem?_append_left inside] at present
        rw [List.take_append_of_le_length inside.le]
        exact answered call event present
      · rw [List.getElem?_append_right outside] at present
        obtain rfl := List.mem_singleton.mp (List.mem_of_getElem? present)
        have last : call = history.length := by
          have bound := (List.getElem?_eq_some_iff.mp present).1
          simp only [List.length_singleton] at bound
          omega
        rw [last, List.take_left']
        rfl

/-- In every run over a socket, a reply is a piece of the stream that starts
where the last chunk before it found the stream drained.  It has bytes of no
earlier answer exactly when all earlier answers had arrived by then, or when it
is empty. -/
theorem overRfcomm_ownReplies_iff {α : Type} (operation : Operation α)
    {call : Nat} {reply : SocketReply} :
    let history := (Session.runOn (incoming.socket takes restores)
      (overRfcomm operation)).2
    history[call]? = some (.readResponse, .ok reply) →
    ∃ drained < call, (∃ answer, history[drained]? = some (.drain, answer)) ∧
      (∀ between, drained < between → between < call →
        ∃ bytes answer, history[between]? = some (.send bytes, answer)) ∧
      ∃ stop, reply.response =
          incoming.piece (incoming.arrived drained 0) stop ∧
        (reply.response = none ∨ incoming.ReadsFrom drained call stop) ∧
        ((∀ byte, incoming.arrived drained 0 ≤ byte → byte < stop →
            drained < incoming.origin byte) ↔
          reply.response = none ∨
            ∀ byte, incoming.origin byte ≤ drained →
              byte < incoming.arrived drained 0) := by
  intro history present
  obtain ⟨inside, same⟩ := List.getElem?_eq_some_iff.mp present
  have split : history = history.take call ++
      (.readResponse, .ok reply) :: history.drop (call + 1) := by
    rw [← same, List.getElem_cons_drop, List.take_append_drop]
  have lawful := ((overRfcomm_drained operation).run Script.Lawful.nil
    (incoming.socket takes restores)).1
  obtain ⟨before, answer, sends, past, areSends⟩ := lawful _ _ _ split
  have size : before.length + (sends.length + 1) = call := by
    have length := congrArg List.length past
    rw [List.length_take_of_le inside.le, List.length_append,
      List.length_cons] at length
    exact length.symm
  have earlier {step : Nat} (isEarlier : step < call) : history[step]? =
      (before ++ (SocketCall.drain, answer) :: sends)[step]? := by
    rw [← past, List.getElem?_take, if_pos isEarlier]
  have answered : Except.ok reply =
      incoming.socket takes restores (history.take call) .readResponse :=
    mem_run_socket _ _ [] (by simp) call _ present
  have start : incoming.position (history.take call) =
      incoming.arrived before.length 0 := by
    rw [past]
    exact incoming.position_drained answer areSends
  rw [Incoming.socket, start, List.length_take_of_le inside.le] at answered
  have read : reply.response = incoming.piece (incoming.arrived before.length 0)
      (recvLoop (incoming.arrived call) (incoming.arrived before.length 0)
        responsePolls 0) := by
    cases restored : restores (history.take call) with
    | error error =>
        rw [restored] at answered
        cases answered
    | ok done =>
        rw [restored] at answered
        rw [Except.ok.inj answered]
  have empty_iff : reply.response = none ↔
      ¬ incoming.arrived before.length 0 <
        recvLoop (incoming.arrived call) (incoming.arrived before.length 0)
          responsePolls 0 := by
    rw [read, Incoming.piece_eq_none_iff]
  refine ⟨before.length, by omega, ⟨answer, ?_⟩, ?_, _, read, ?_, ?_⟩
  · rw [earlier (by omega)]
    simp
  · intro between above below
    rw [earlier below, List.getElem?_append_right above.le,
      List.getElem?_cons, if_neg (by omega)]
    have bound : between - before.length - 1 < sends.length := by omega
    rw [List.getElem?_eq_getElem bound]
    obtain ⟨bytes, isSend⟩ := areSends _ (List.getElem_mem bound)
    exact ⟨bytes, _, by rw [← isSend]⟩
  · rcases recvLoop_spec (incoming.arrived call)
      (incoming.arrived before.length 0) (incoming.polls_monotone call)
      responsePolls 0 with nothing | ⟨brings, bound, some, reads⟩
    · exact .inl (empty_iff.mpr (by omega))
    · exact .inr ⟨brings, by omega, some, reads⟩
  · constructor
    · intro own
      by_cases empty : reply.response = none
      · exact .inl empty
      · refine .inr fun byte isLate => ?_
        by_contra beyond
        rw [empty_iff, not_not] at empty
        have first := own _ (Nat.le_refl _) empty
        have ordered := incoming.inOrder (Nat.le_of_not_lt beyond)
        omega
    · rintro (empty | arrived) byte above below
      · exact absurd (by omega) (empty_iff.mp empty)
      · by_contra isLate
        have := arrived byte (by omega)
        omega

end Runs

/-- A socket that takes all it is given takes a chunk at once. -/
theorem run_sendChunk_whole {chunk : Bytes} (some : chunk ≠ [])
    {device : Device SocketCall (Except ProtoError SocketReply)}
    {history : SocketHistory} {reply : SocketReply}
    (answer : device history (.send chunk) = .ok reply)
    (whole : chunk.length ≤ reply.taken) :
    (sendChunk chunk).run.run device history =
      (.ok (), history ++ [(.send chunk, .ok reply)]) := by
  rw [sendChunk, if_neg some, Session.run_bind, Session.run_ask, answer]
  show Script.run device (sendChunk _).run _ = _
  rw [List.drop_of_length_le whole, sendChunk, if_pos rfl]
  rfl

/-- Three bytes that answer nothing, and arrive while the reply to the first
command is read. -/
def strayBytes : Incoming where
  stream byte := BitVec.ofNat 8 byte
  arrived call _ := if call < 2 then 0 else 3
  origin _ := 0
  polls_monotone _ _ _ _ := Nat.le_refl _
  calls_monotone call _ := by
    split <;> split <;> omega
  inOrder _ _ _ := Nat.le_refl 0
  answersSent byte call _ early := by
    split at early <;> omega

def straySocket : Device SocketCall (Except ProtoError SocketReply) :=
  strayBytes.socket (fun _ _ => .ok 512) fun _ => .ok ()

theorem rfcommSend_stray (frame : Frame 16) :
    (rfcommSend (.sendCmdFrame frame)).run.run straySocket [] =
      (.ok (some [0#8, 1#8, 2#8]),
        [(.drain, .ok ⟨1, none⟩), (.send frame.val, .ok ⟨512, none⟩),
          (.readResponse, .ok ⟨1, some [0#8, 1#8, 2#8]⟩)]) := by
  obtain ⟨bytes, length⟩ := frame
  have onePiece : chunks bytes 512 = [bytes] := by
    rw [chunks, length]
    show [(bytes.drop 0).take 512] = [bytes]
    rw [List.drop_zero, List.take_of_length_le (by omega)]
  have sent : (sendChunk bytes).run.run straySocket
      [(.drain, .ok ⟨1, none⟩)] = (.ok (),
        [(.drain, .ok ⟨1, none⟩), (.send bytes, .ok ⟨512, none⟩)]) :=
    run_sendChunk_whole (by rintro rfl; cases length) rfl
      (by rw [length]; decide)
  have wrote : (writePieces [bytes]).run.run straySocket [] = (.ok (),
      [(.drain, .ok ⟨1, none⟩), (.send bytes, .ok ⟨512, none⟩)]) := by
    have drained : drain.run.run straySocket [] =
        (.ok (), [(.drain, .ok ⟨1, none⟩)]) := rfl
    rw [writePieces, Session.run_bind, drained]
    dsimp only
    rw [Session.run_bind, sent]
    rfl
  rw [rfcommSend, Session.run_bind, writeChunked, onePiece, wrote]
  rfl

/-- The stray bytes are taken for the reply to `CHECK_DEVICE`. -/
theorem overRfcomm_ownReplies_stray :
    ∃ drained < 2, ∃ stop,
      some [0#8, 1#8, 2#8] =
        strayBytes.piece (strayBytes.arrived drained 0) stop ∧
      ¬ ∀ byte, strayBytes.arrived drained 0 ≤ byte → byte < stop →
        drained < strayBytes.origin byte := by
  have ran : (Session.runOn straySocket (overRfcomm sppCodec.checkDevice)).2 =
      [(.drain, .ok ⟨1, none⟩),
        (.send (makeCmd cmdCheckDevice 0#16).val, .ok ⟨512, none⟩),
        (.readResponse, .ok ⟨1, some [0#8, 1#8, 2#8]⟩)] := by
    show (Script.run straySocket (Script.bind (rfcommSend
      (.sendCmdFrame (makeCmd cmdCheckDevice 0#16))).run _) []).2 = _
    rw [Script.run_bind, rfcommSend_stray]
    rfl
  have asked : (Session.runOn straySocket
      (overRfcomm sppCodec.checkDevice)).2[2]? =
        some (.readResponse, .ok ⟨1, some [0#8, 1#8, 2#8]⟩) := by
    rw [ran]
    rfl
  obtain ⟨drained, before, -, -, stop, reads, -, own⟩ :=
    overRfcomm_ownReplies_iff strayBytes (fun _ _ => .ok 512) (fun _ => .ok ())
      sppCodec.checkDevice asked
  refine ⟨drained, before, stop, reads, fun all => ?_⟩
  rcases own.mp all with absent | arrived
  · cases absent
  · exact absurd (arrived 3 (Nat.zero_le _)) (by
      rcases drained with _ | _ | drained
      · decide
      · decide
      · omega)

end SupvanCups
