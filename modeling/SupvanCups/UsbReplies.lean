import SupvanCups.WireLinks

/-!
# Whose reply a USB call returns

A command over hidraw is one report written and at most one report read.  The
descriptor queues what the device sends, and a reply names no command: after a
call that timed out, the reply it missed is the next one to be read.
-/

namespace SupvanCups

/-- An input report as `read_report` returns it. -/
abbrev InputReport :=
  { bytes : Bytes // 0 < bytes.length ∧ bytes.length ≤ hidReportSize }

/-- How many replies have arrived when each call stops waiting.  The device
answers each command once and in order, so that no reply arrives before its
command is written; delays are free otherwise. -/
structure Arrivals where
  count : Nat → Nat
  monotone : Monotone count
  answers_sent : ∀ call, count call ≤ call + 1

/-- Reads that have taken a report from the queue. -/
def repliesTaken (history : History HidrawCall TransportReply) : Nat :=
  history.countP fun event =>
    match event with
    | (.readReport, .ok (some _)) => true
    | _ => false

/-- A descriptor that queues the replies of the device, oldest first. -/
def fifoDevice (arrivals : Arrivals) (answer : Nat → InputReport) :
    Device HidrawCall TransportReply
  | _, .writeReport _ => .ok none
  | history, .readReport =>
      let taken := repliesTaken history
      if taken < arrivals.count ((usbReports history).length - 1) then
        .ok (some (answer taken).val)
      else
        .ok none

def TransportCall.isCommand : TransportCall → Bool
  | .sendCmd _ _ => true
  | .sendCmdTwo _ _ _ => true
  | _ => false

def usbSendAll : List TransportCall → HidrawSession (List (Option Bytes))
  | [] => pure []
  | request :: requests => do
      let reply ← usbSend request
      let replies ← usbSendAll requests
      pure (reply :: replies)

/-- Each call returns nothing or the answer to its own command. -/
def OwnReplies (answer : Nat → InputReport) (replies : List (Option Bytes)) :
    Prop :=
  ∀ call (bound : call < replies.length),
    replies[call] = none ∨ replies[call] = some (answer call).val

namespace Arrivals

/-- No reply that its own call gave up on arrives before a later one of the
calls stops waiting. -/
def NeverLate (arrivals : Arrivals) (calls : Nat) : Prop :=
  ∀ early late, early < late → late < calls →
    arrivals.count early ≤ early → arrivals.count late ≤ early

/-- Replies read before each call. -/
def taken (arrivals : Arrivals) : Nat → Nat
  | 0 => 0
  | call + 1 =>
      if arrivals.taken call < arrivals.count call then
        arrivals.taken call + 1
      else
        arrivals.taken call

/-- The command whose answer a call returns. -/
def received (arrivals : Arrivals) (call : Nat) : Option Nat :=
  if arrivals.taken call < arrivals.count call then some (arrivals.taken call)
  else none

variable (arrivals : Arrivals)

theorem taken_le (call : Nat) : arrivals.taken call ≤ call := by
  induction call with
  | zero => exact Nat.le_refl 0
  | succ call ih =>
      rw [taken]
      split_ifs <;> omega

theorem taken_le_succ (call : Nat) :
    arrivals.taken call ≤ arrivals.taken (call + 1) := by
  rw [taken]
  split_ifs <;> omega

/-- Fewer replies taken than calls made: some call gave up on its own. -/
theorem exists_gaveUp {call : Nat} (behind : arrivals.taken call < call) :
    ∃ early < call, early ≤ arrivals.taken call ∧
      arrivals.count early ≤ early := by
  induction call with
  | zero => exact absurd behind (Nat.not_lt_zero _)
  | succ call ih =>
      have grows := arrivals.taken_le_succ call
      rcases (arrivals.taken_le call).lt_or_eq with less | level
      · obtain ⟨early, before, atMost, gaveUp⟩ := ih less
        exact ⟨early, by omega, by omega, gaveUp⟩
      · refine ⟨call, Nat.lt_succ_self call, by omega, ?_⟩
        by_contra arrived
        rw [taken, level, if_pos (by omega)] at behind
        omega

/-- While every call returns its own reply or none, a call that gave up leaves
the replies taken below its own number. -/
theorem taken_le_of_gaveUp {calls early : Nat}
    (own : ∀ call < calls, arrivals.taken call < arrivals.count call →
      arrivals.taken call = call)
    (gaveUp : arrivals.count early ≤ early) {late : Nat}
    (after : early < late) (bound : late < calls) :
    arrivals.taken late ≤ early := by
  induction late, after using Nat.le_induction with
  | base =>
      rw [taken, if_neg]
      · exact arrivals.taken_le early
      · intro arrived
        have := own early (by omega) arrived
        omega
  | succ late later ih =>
      have small := ih (by omega)
      rw [taken, if_neg]
      · exact small
      · intro arrived
        have := own late (by omega) arrived
        omega

theorem received_own_iff (calls : Nat) :
    (∀ call < calls, arrivals.received call = none ∨
      arrivals.received call = some call) ↔ arrivals.NeverLate calls := by
  have asTaken : (∀ call < calls, arrivals.received call = none ∨
      arrivals.received call = some call) ↔
        ∀ call < calls, arrivals.taken call < arrivals.count call →
          arrivals.taken call = call := by
    refine forall₂_congr fun call _ => ?_
    unfold received
    split_ifs with arrived <;> simp [arrived]
  rw [asTaken]
  constructor
  · intro own early late after bound gaveUp
    by_contra arrived
    have small := arrivals.taken_le_of_gaveUp own gaveUp after bound
    have := own late bound (by omega)
    omega
  · intro neverLate call bound arrived
    by_contra other
    have behind := (arrivals.taken_le call).lt_of_ne other
    obtain ⟨early, before, atMost, gaveUp⟩ := arrivals.exists_gaveUp behind
    have := neverLate early call before bound gaveUp
    omega

end Arrivals

section Run

variable (arrivals : Arrivals) (answer : Nat → InputReport)

theorem usbReports_write (history : History HidrawCall TransportReply)
    (report : Frame 64) (reply : TransportReply) :
    (usbReports (history ++ [(.writeReport report, reply)])).length =
      (usbReports history).length + 1 := by
  simp [usbReports, HidrawCall.report?]

theorem usbReports_read (history : History HidrawCall TransportReply)
    (reply : TransportReply) :
    usbReports (history ++ [(.readReport, reply)]) = usbReports history := by
  simp [usbReports, HidrawCall.report?]

theorem repliesTaken_write (history : History HidrawCall TransportReply)
    (report : Frame 64) (reply : TransportReply) :
    repliesTaken (history ++ [(.writeReport report, reply)]) =
      repliesTaken history := by
  simp [repliesTaken]

theorem repliesTaken_read (history : History HidrawCall TransportReply)
    (resp : Option Bytes) :
    repliesTaken (history ++ [(.readReport, .ok resp)]) =
      repliesTaken history + if resp.isSome then 1 else 0 := by
  cases resp <;> simp [repliesTaken, List.countP_append]

/-- A read returns the oldest queued reply if there is one. -/
theorem fifoDevice_read {history : History HidrawCall TransportReply}
    {call : Nat} (written : (usbReports history).length = call + 1)
    (taken : repliesTaken history = arrivals.taken call) :
    fifoDevice arrivals answer history .readReport =
      .ok ((arrivals.received call).map fun early => (answer early).val) := by
  simp only [fifoDevice, written, taken, Nat.add_sub_cancel,
    Arrivals.received]
  split_ifs <;> rfl

/-- What has been written and read before a call. -/
structure BeforeCall (call : Nat)
    (history : History HidrawCall TransportReply) : Prop where
  written : (usbReports history).length = call
  taken : repliesTaken history = arrivals.taken call

/-- One command: its report goes out and the oldest queued reply comes back. -/
theorem run_sendAndRecv (data : Bytes) {call : Nat}
    {history : History HidrawCall TransportReply}
    (before : BeforeCall arrivals call history) :
    ∃ later,
      Script.run (fifoDevice arrivals answer) (sendAndRecv data).run history =
        (.ok ((arrivals.received call).map fun early => (answer early).val),
          later) ∧
      BeforeCall arrivals (call + 1) later := by
  let report : Frame 64 := ⟨padTo hidReportSize data, padTo_length _ _⟩
  let sent : History HidrawCall TransportReply :=
    history ++ [(.writeReport report, .ok none)]
  have written : (usbReports sent).length = call + 1 := by
    rw [usbReports_write, before.written]
  have taken : repliesTaken sent = arrivals.taken call := by
    rw [repliesTaken_write, before.taken]
  have read := fifoDevice_read arrivals answer written taken
  refine ⟨sent ++ [(.readReport, .ok ((arrivals.received call).map
    fun early => (answer early).val))], ?_, ?_, ?_⟩
  · have wrote : Script.run (fifoDevice arrivals answer)
        (writeReport data).run history = (.ok none, sent) :=
      rfl
    simp only [sendAndRecv, Session.run_bind, wrote, Session.run_ask, read]
  · rw [usbReports_read, written]
  · rw [repliesTaken_read, taken, Arrivals.taken, Arrivals.received]
    by_cases arrived : arrivals.taken call < arrivals.count call <;>
      simp [arrived]

theorem run_usbSend {request : TransportCall}
    (command : request.isCommand = true) {call : Nat}
    {history : History HidrawCall TransportReply}
    (before : BeforeCall arrivals call history) :
    ∃ later,
      Script.run (fifoDevice arrivals answer) (usbSend request).run history =
        (.ok ((arrivals.received call).map fun early => (answer early).val),
          later) ∧
      BeforeCall arrivals (call + 1) later := by
  cases request with
  | sendCmd cmd param => exact run_sendAndRecv arrivals answer _ before
  | sendCmdTwo cmd param1 param2 =>
      exact run_sendAndRecv arrivals answer _ before
  | sendBulkHeader compressedLen numPackets => cases command
  | sendBulkData data readFinalResponse => cases command

/-- What the calls from some number on return. -/
theorem run_usbSendAll {requests : List TransportCall}
    (commands : ∀ request ∈ requests, request.isCommand = true) {call : Nat}
    {history : History HidrawCall TransportReply}
    (before : BeforeCall arrivals call history) :
    (Script.run (fifoDevice arrivals answer) (usbSendAll requests).run
        history).1 =
      .ok ((List.range' call requests.length).map fun call =>
        (arrivals.received call).map fun early => (answer early).val) := by
  induction requests generalizing call history with
  | nil => rfl
  | cons request requests ih =>
      obtain ⟨command, commands⟩ := List.forall_mem_cons.mp commands
      obtain ⟨later, run, next⟩ :=
        run_usbSend arrivals answer command before
      have rest := ih commands next
      rw [usbSendAll, Session.run_bind, run]
      simp only [Session.run_bind]
      rcases outcome : Script.run (fifoDevice arrivals answer)
        (usbSendAll requests).run later with ⟨result, last⟩
      rw [outcome] at rest
      dsimp only at rest
      subst rest
      rfl

end Run

/-- Every call returns its own reply or none, whatever the replies say, exactly
when no reply comes in late before a later call has ended. -/
theorem usbSendAll_ownReplies_iff (arrivals : Arrivals)
    (requests : List TransportCall)
    (commands : ∀ request ∈ requests, request.isCommand = true) :
    (∀ answer, ∃ replies,
      (Session.runOn (fifoDevice arrivals answer) (usbSendAll requests)).1 =
        .ok replies ∧
      replies.length = requests.length ∧ OwnReplies answer replies) ↔
    arrivals.NeverLate requests.length := by
  have start : BeforeCall arrivals 0 [] := ⟨rfl, rfl⟩
  rw [← arrivals.received_own_iff]
  constructor
  · intro own call bound
    cases got : arrivals.received call with
    | none => exact .inl rfl
    | some early =>
        right
        -- Two commands whose answers differ.
        let answer : Nat → InputReport := fun command =>
          if command = call then ⟨[1#8], by decide, by decide⟩
          else ⟨[0#8], by decide, by decide⟩
        obtain ⟨replies, run, -, ownReplies⟩ := own answer
        have returned := run_usbSendAll arrivals answer commands start
        obtain rfl := Except.ok.inj (run.symm.trans returned)
        have here := ownReplies call (by simpa using bound)
        simp only [List.getElem_map, List.getElem_range', Nat.zero_add,
          Nat.one_mul, got, Option.map_some, reduceCtorEq, false_or,
          Option.some.injEq] at here
        by_contra other
        have different : early ≠ call := fun same => other (by rw [same])
        simp [answer, different] at here
  · intro own answer
    refine ⟨_, run_usbSendAll arrivals answer commands start, by simp, ?_⟩
    intro call bound
    have callBound : call < requests.length := by simpa using bound
    rcases own call callBound with none | itself
    · exact .inl (by simp [none])
    · exact .inr (by simp [itself])

/-- Three commands, the last of which gets its answer too late. -/
theorem usbSendAll_ownReplies_timeout :
    let arrivals : Arrivals :=
      ⟨fun call => min (call + 1) 2,
        fun _ _ le => min_le_min_right 2 (Nat.succ_le_succ le),
        fun _ => Nat.min_le_left _ _⟩
    let requests : List TransportCall :=
      [.sendCmd cmdCheckDevice 0#16, .sendCmdTwo cmdSetRfidData 1#16 2#16,
        .sendCmd cmdInquirySta 0#16]
    ∀ answer, ∃ replies,
      (Session.runOn (fifoDevice arrivals answer) (usbSendAll requests)).1 =
        .ok replies ∧
      replies.length = requests.length ∧ OwnReplies answer replies := by
  intro arrivals requests
  apply (usbSendAll_ownReplies_iff arrivals requests (by decide)).mpr
  intro early late after bound gaveUp
  simp only [arrivals] at gaveUp ⊢
  simp [requests] at bound
  omega

/-- The answer to a status inquiry arrives after its timeout, and the material
inquiry that follows returns it. -/
theorem usbSendAll_staleReply :
    let arrivals : Arrivals :=
      ⟨fun call => call, fun _ _ le => le, fun call => Nat.le_succ call⟩
    let requests : List TransportCall :=
      [.sendCmd cmdInquirySta 0#16, .sendCmd cmdReturnMat 0#16]
    ¬ ∀ answer, ∃ replies,
      (Session.runOn (fifoDevice arrivals answer) (usbSendAll requests)).1 =
        .ok replies ∧
      replies.length = requests.length ∧ OwnReplies answer replies := by
  intro arrivals requests own
  let answer : Nat → InputReport := fun command =>
    if command = 0 then ⟨[0#8], by decide, by decide⟩
    else ⟨[1#8], by decide, by decide⟩
  obtain ⟨replies, run, -, ownReplies⟩ := own answer
  obtain rfl : replies = [none, some [0#8]] :=
    Except.ok.inj (run.symm.trans rfl)
  have second := ownReplies 1 (by decide)
  simp [answer] at second

end SupvanCups
