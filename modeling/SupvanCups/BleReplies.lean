import SupvanCups.SocketPipes

/-!
# Whose reply a BLE command returns

Over BLE a command waits for a notification that echoes its command byte, and
throws away the others it meets.  A notification that comes after its command
has given up stays in the stream, and the next command with the same byte takes
it for its own, unless a command with another byte has read past it.
-/

namespace SupvanCups

/-- A response notification answers a command when it echoes the command byte
at offset 7. -/
def responseMatches (resp : Bytes) (cmd : U8) : Bool :=
  resp[7]? == some cmd

/-- Take notifications from a position of the stream until one answers the
command, if one does among those that come in time.  The position of that one,
and the position to read from next. -/
def awaitResponse (answer : Nat → Bytes) (cmd : U8) :
    (inTime position : Nat) → Option Nat × Nat
  | 0, position => (none, position)
  | inTime + 1, position =>
      if responseMatches (answer position) cmd then
        (some position, position + 1)
      else
        awaitResponse answer cmd inTime (position + 1)

/-- The notifications of a printer, numbered in the order they come: how many
have come when each command stops waiting, and the command that each answers.
The printer answers in order and at most once; some commands it may not answer,
and delays are free. -/
structure Notifications where
  arrivals : Nat → Nat
  origin : Nat → Nat
  monotone : Monotone arrivals
  inOrder : StrictMono origin
  answersSent : ∀ index call, index < arrivals call → origin index ≤ call

namespace Notifications

variable (notifications : Notifications) (answer : Nat → Bytes)

/-- Where the stream is read from after some commands. -/
def position (commands : List U8) : Nat :=
  commands.zipIdx.foldl (fun position request =>
    (awaitResponse answer request.1
      (notifications.arrivals request.2 - position) position).2) 0

/-- What a command that comes after others takes for its reply. -/
def received (before : List U8) (cmd : U8) : Option Nat :=
  let position := notifications.position answer before
  (awaitResponse answer cmd
    (notifications.arrivals before.length - position) position).1

/-- No command is there to take a notification that missed its own: while it is
in the stream, the next command to read past it has another byte. -/
def NeverStale (commands : List U8) : Prop :=
  ∀ index late, notifications.origin index < late → late < commands.length →
    commands[notifications.origin index]? = commands[late]? →
    notifications.arrivals (notifications.origin index) ≤ index →
    index < notifications.arrivals late →
    ∃ mid, notifications.origin index < mid ∧ mid < late ∧
      commands[mid]? ≠ commands[late]? ∧ index < notifications.arrivals mid

/-- Each command takes its own reply or none. -/
def OwnReplies (commands : List U8) : Prop :=
  ∀ call (bound : call < commands.length) index,
    notifications.received answer (commands.take call) commands[call] =
      some index → notifications.origin index = call

/-- Notifications echo the byte of the command they answer. -/
def Echoes (commands : List U8) : Prop :=
  ∀ index, notifications.origin index < commands.length →
    (answer index)[7]? = commands[notifications.origin index]?

end Notifications

/-- The commands that have been waited for, with their replies. -/
def awaits (history : History GattCall TransportReply) :
    List (U8 × TransportReply) :=
  history.filterMap fun event =>
    match event with
    | (.awaitResponse cmd, reply) => some (cmd, reply)
    | (.writeRequest _, _) => none

/-- A link that takes every write and delivers the notifications. -/
def notifier (notifications : Notifications) (answer : Nat → Bytes) :
    Device GattCall TransportReply
  | _, .writeRequest _ => .ok none
  | history, .awaitResponse cmd =>
      .ok ((notifications.received answer ((awaits history).map Prod.fst)
        cmd).map answer)

/-! ### One command -/

/-- The loop of a command: what it takes is the first answer among the
notifications in time, and it has read everything up to there. -/
theorem awaitResponse_found (answer : Nat → Bytes) (cmd : U8)
    {inTime position index next : Nat}
    (found : awaitResponse answer cmd inTime position = (some index, next)) :
    position ≤ index ∧ index < position + inTime ∧ next = index + 1 ∧
      responseMatches (answer index) cmd := by
  induction inTime generalizing position with
  | zero => simp [awaitResponse] at found
  | succ inTime ih =>
      rw [awaitResponse] at found
      split at found
      · rename_i answers
        simp only [Prod.mk.injEq, Option.some.injEq] at found
        obtain ⟨rfl, rfl⟩ := found
        exact ⟨Nat.le_refl _, by omega, rfl, answers⟩
      · obtain ⟨above, below, same, answers⟩ := ih found
        exact ⟨by omega, by omega, same, answers⟩

theorem awaitResponse_first (answer : Nat → Bytes) (cmd : U8)
    {inTime position index : Nat} (above : position ≤ index)
    (below : index < position + inTime)
    (answers : responseMatches (answer index) cmd = true) :
    ∃ first ≤ index,
      awaitResponse answer cmd inTime position = (some first, first + 1) := by
  induction inTime generalizing position with
  | zero => omega
  | succ inTime ih =>
      rw [awaitResponse]
      split
      · exact ⟨position, above, rfl⟩
      · rename_i other
        have later : position + 1 ≤ index := by
          refine Nat.lt_of_le_of_ne above fun same => other ?_
          rw [same]
          exact answers
        exact ih later (by omega)

theorem awaitResponse_none (answer : Nat → Bytes) (cmd : U8)
    {inTime position next : Nat}
    (found : awaitResponse answer cmd inTime position = (none, next)) :
    next = position + inTime := by
  induction inTime generalizing position with
  | zero => simp_all [awaitResponse]
  | succ inTime ih =>
      rw [awaitResponse] at found
      split at found
      · cases found
      · rw [ih found]
        omega

/-! ### The commands of a run -/

namespace Notifications

variable (notifications : Notifications) (answer : Nat → Bytes)
  {commands : List U8}

theorem position_concat (before : List U8) (cmd : U8) :
    notifications.position answer (before ++ [cmd]) =
      (awaitResponse answer cmd
        (notifications.arrivals before.length -
          notifications.position answer before)
        (notifications.position answer before)).2 := by
  simp [position, List.zipIdx_append]

/-- A command that takes a notification reads up to it; one that takes none
reads everything that came in time. -/
theorem position_after {call : Nat} (bound : call < commands.length) :
    let position := notifications.position answer (commands.take call)
    let next := notifications.position answer (commands.take (call + 1))
    match notifications.received answer (commands.take call) commands[call] with
    | some index => position ≤ index ∧ index < notifications.arrivals call ∧
        next = index + 1 ∧ responseMatches (answer index) commands[call]
    | none => next = max position (notifications.arrivals call) := by
  intro position next
  have length : (commands.take call).length = call := by
    rw [List.length_take]
    omega
  have stepped : next = (awaitResponse answer commands[call]
      (notifications.arrivals call - position) position).2 := by
    have concat := notifications.position_concat answer (commands.take call)
      commands[call]
    rwa [← List.take_succ_eq_append_getElem bound, length] at concat
  rw [received, length]
  rcases run : awaitResponse answer commands[call]
    (notifications.arrivals call - position) position with ⟨_ | index, after⟩
  · rw [run] at stepped
    have := awaitResponse_none answer _ run
    dsimp only
    omega
  · rw [run] at stepped
    obtain ⟨above, below, same, answers⟩ := awaitResponse_found answer _ run
    exact ⟨above, by omega, by rw [stepped, same], answers⟩

theorem position_step {call : Nat} (bound : call < commands.length) :
    notifications.position answer (commands.take call) ≤
        notifications.position answer (commands.take (call + 1)) ∧
      notifications.position answer (commands.take (call + 1)) ≤
        max (notifications.position answer (commands.take call))
          (notifications.arrivals call) := by
  have after := notifications.position_after answer bound
  dsimp only at after
  split at after
  · obtain ⟨above, inTime, next, -⟩ := after
    omega
  · omega

theorem position_mono {early late : Nat} (le : early ≤ late)
    (bound : late ≤ commands.length) :
    notifications.position answer (commands.take early) ≤
      notifications.position answer (commands.take late) := by
  induction late, le using Nat.le_induction with
  | base => exact Nat.le_refl _
  | succ late le ih =>
      exact (ih (by omega)).trans
        (notifications.position_step answer (by omega)).1

/-- A notification that has not come is not read. -/
theorem position_le {call index : Nat} (bound : call ≤ commands.length)
    (absent : ∀ early < call, notifications.arrivals early ≤ index) :
    notifications.position answer (commands.take call) ≤ index := by
  induction call with
  | zero => exact Nat.zero_le _
  | succ call ih =>
      have before := ih (by omega) fun early less => absent early (by omega)
      have now := absent call (Nat.lt_succ_self _)
      have := (notifications.position_step answer
        (show call < commands.length from bound)).2
      omega

/-- A notification that is in the stream and answers a command is taken by it,
or an earlier one is. -/
theorem exists_received {call index : Nat} (bound : call < commands.length)
    (unread : notifications.position answer (commands.take call) ≤ index)
    (inTime : index < notifications.arrivals call)
    (answers : responseMatches (answer index) commands[call] = true) :
    ∃ first ≤ index,
      notifications.received answer (commands.take call) commands[call] =
        some first := by
  have length : (commands.take call).length = call := by
    rw [List.length_take]
    omega
  have within : index < notifications.position answer (commands.take call) +
      (notifications.arrivals call -
        notifications.position answer (commands.take call)) := by
    omega
  obtain ⟨first, le, found⟩ :=
    awaitResponse_first answer commands[call] unread within answers
  exact ⟨first, le, by rw [received, length, found]⟩

/-- While every command takes its own reply or none, a command that ends after
a notification has come has read past it, unless it came for a later one. -/
theorem lt_position_of_own {mid index : Nat} (bound : mid < commands.length)
    (own : ∀ index, notifications.received answer (commands.take mid)
      commands[mid] = some index → notifications.origin index = mid)
    (earlier : notifications.origin index < mid)
    (inTime : index < notifications.arrivals mid) :
    index < notifications.position answer (commands.take (mid + 1)) := by
  have after := notifications.position_after answer bound
  dsimp only at after
  split at after
  · rename_i took got
    have order : notifications.origin index < notifications.origin took := by
      rw [own took got]
      exact earlier
    have := notifications.inOrder.lt_iff_lt.mp order
    omega
  · omega

section Echoing

variable (echoes : notifications.Echoes answer commands)
include echoes

/-- Every command takes a reply to itself or to an earlier command with the
same byte. -/
theorem received_origin {call index : Nat} (bound : call < commands.length)
    (got : notifications.received answer (commands.take call) commands[call] =
      some index) :
    notifications.origin index ≤ call ∧
      commands[notifications.origin index]? = commands[call]? := by
  have after := notifications.position_after answer bound
  simp only [got] at after
  obtain ⟨-, inTime, -, answers⟩ := after
  have sent := notifications.answersSent index call inTime
  refine ⟨sent, ?_⟩
  rw [← echoes index (by omega), List.getElem?_eq_getElem bound]
  simpa [responseMatches] using answers

theorem own_of_neverStale (never : notifications.NeverStale commands) :
    notifications.OwnReplies answer commands := by
  intro call
  induction call using Nat.strongRecOn with
  | ind call ih =>
      intro bound index got
      obtain ⟨sent, sameByte⟩ :=
        notifications.received_origin answer echoes bound got
      by_contra other
      have earlier : notifications.origin index < call := by omega
      have originBound : notifications.origin index < commands.length := by
        omega
      have after := notifications.position_after answer bound
      simp only [got] at after
      obtain ⟨unread, inTime, -, -⟩ := after
      -- The command that it answers had given up before it came.
      have gaveUp : notifications.arrivals (notifications.origin index) ≤
          index := by
        by_contra came
        have answers : responseMatches (answer index)
            commands[notifications.origin index] = true := by
          simp [responseMatches, echoes index originBound,
            List.getElem?_eq_getElem originBound]
        have still := (notifications.position_mono answer earlier.le
          bound.le).trans unread
        obtain ⟨first, le, took⟩ := notifications.exists_received answer
          originBound still (by omega) answers
        have same := ih _ earlier originBound first took
        obtain rfl := notifications.inOrder.injective same
        have past := notifications.position_after answer originBound
        simp only [took] at past
        have := notifications.position_mono answer
          (show notifications.origin first + 1 ≤ call from earlier) bound.le
        omega
      obtain ⟨mid, after, before, -, midInTime⟩ :=
        never index call earlier bound sameByte gaveUp inTime
      have read := notifications.lt_position_of_own answer (before.trans bound)
        (fun took => ih mid before (before.trans bound) took) after midInTime
      have := notifications.position_mono answer
        (show mid + 1 ≤ call from before) bound.le
      omega

theorem neverStale_of_own (own : notifications.OwnReplies answer commands) :
    notifications.NeverStale commands := by
  intro index late earlier bound sameByte gaveUp came
  classical
  -- The first command that ends after the notification has come.
  let here : ∃ call, index < notifications.arrivals call := ⟨late, came⟩
  have firstCame := Nat.find_spec here
  have firstLe : Nat.find here ≤ late := Nat.find_min' here came
  have absent : ∀ call < Nat.find here,
      notifications.arrivals call ≤ index := fun call less =>
    Nat.le_of_not_lt (Nat.find_min here less)
  generalize Nat.find here = first at firstCame firstLe absent
  have later : notifications.origin index < first := by
    by_contra le
    have := notifications.monotone (Nat.le_of_not_lt le)
    omega
  have firstBound : first < commands.length := by omega
  have otherByte : commands[first]? ≠ commands[late]? := by
    intro same
    have answers : responseMatches (answer index) commands[first] = true := by
      have byte := echoes index (by omega)
      rw [sameByte, ← same, List.getElem?_eq_getElem firstBound] at byte
      simp [responseMatches, byte]
    obtain ⟨took, le, got⟩ := notifications.exists_received answer firstBound
      (notifications.position_le answer firstBound.le absent) firstCame answers
    have itself := own first firstBound took got
    have := notifications.inOrder.monotone le
    omega
  refine ⟨first, later, firstLe.lt_of_ne ?_, otherByte, firstCame⟩
  rintro rfl
  exact otherByte rfl

end Echoing

end Notifications

/-! ### Runs -/

section Runs

variable (notifications : Notifications) (answer : Nat → Bytes)

/-- Every command got what the link had for it. -/
def GotTheirs (waits : List (U8 × TransportReply)) : Prop :=
  ∀ call (bound : call < waits.length), waits[call].2 =
    .ok ((notifications.received answer ((waits.map Prod.fst).take call)
      waits[call].1).map answer)

theorem GotTheirs.concat {waits : List (U8 × TransportReply)}
    (answered : GotTheirs notifications answer waits) (cmd : U8) :
    GotTheirs notifications answer (waits ++ [(cmd,
      .ok ((notifications.received answer (waits.map Prod.fst) cmd).map
        answer))]) := by
  intro call bound
  rw [List.length_append, List.length_singleton] at bound
  rw [List.map_append, List.take_append_of_le_length (by
    rw [List.length_map]
    omega)]
  rcases Nat.lt_succ_iff_lt_or_eq.mp bound with earlier | rfl
  · rw [List.getElem_append_left earlier]
    exact answered call earlier
  · rw [List.getElem_concat_length rfl, List.take_of_length_le (by simp)]

theorem answered_run {α : Type} (script : Script GattCall TransportReply α)
    {history : History GattCall TransportReply}
    (answered : GotTheirs notifications answer (awaits history)) :
    GotTheirs notifications answer
      (awaits (script.run (notifier notifications answer) history).2) := by
  induction script generalizing history with
  | done result => exact answered
  | call request next ih =>
      apply ih
      cases request with
      | writeRequest chunk =>
          have unchanged : awaits (history ++ [(.writeRequest chunk,
              notifier notifications answer history (.writeRequest chunk))]) =
                awaits history := by
            simp [awaits]
          rwa [unchanged]
      | awaitResponse cmd =>
          rw [awaits, List.filterMap_append]
          exact answered.concat notifications answer cmd

end Runs

/-- In every run of an operation over BLE, each command gets the notification
that the link has for it, and these answer the commands that got them exactly
when no notification that missed its command is met by another with the same
byte. -/
theorem overBle_ownReplies_iff (notifications : Notifications)
    (answer : Nat → Bytes) {α : Type} (operation : Operation α) :
    let waits := awaits
      (Session.runOn (notifier notifications answer) (overBle operation)).2
    let commands := waits.map Prod.fst
    GotTheirs notifications answer waits ∧
      (notifications.Echoes answer commands →
        (notifications.OwnReplies answer commands ↔
          notifications.NeverStale commands)) := by
  intro waits commands
  refine ⟨answered_run notifications answer _ fun call bound => ?_,
    fun echoes => ⟨notifications.neverStale_of_own answer echoes,
      notifications.own_of_neverStale answer echoes⟩⟩
  exact absurd bound (Nat.not_lt_zero call)

/-- A printer that answers each command while the next one waits: the answer to
`CHECK_DEVICE` is passed over by the status inquiry, which gets none. -/
theorem overBle_ownReplies_late :
    let notifications : Notifications :=
      ⟨fun call => call, id, monotone_id, strictMono_id,
        fun _ _ less => less.le⟩
    let commands := [cmdCheckDevice, cmdInquirySta]
    let answer := fun index => List.replicate 7 0#8 ++ commands.drop index
    let operation : Operation (Option PrinterStatus) := do
      let _ ← sppCodec.checkDevice
      sppCodec.queryStatus
    let waits := awaits
      (Session.runOn (notifier notifications answer) (overBle operation)).2
    waits.map Prod.fst = commands ∧
      GotTheirs notifications answer waits ∧
      (notifications.OwnReplies answer commands ↔
        notifications.NeverStale commands) := by
  intro notifications commands answer operation waits
  have asked : waits.map Prod.fst = commands := rfl
  have run := overBle_ownReplies_iff notifications answer operation
  refine ⟨asked, run.1, asked ▸ run.2 (asked.symm ▸ fun index bound => ?_)⟩
  rcases index with _ | _ | index
  · rfl
  · rfl
  · exact absurd (show index + 2 < 2 from bound) (by omega)

end SupvanCups
