import SupvanCups.PrintProtocol

/-!
# Where a print stops

A print goes no further once the wait for buffer room has read a status with an
error, or once a block header got no reply.  The wait for buffer room reports
the error itself, so the print flow never gets to see it, and the `STOP_PRINT`
that it keeps for this case is never sent.
-/

namespace SupvanCups

open Transport (inquiry)

/-! ### Reading where an exchange stands -/

def TransportCall.isBufFull : TransportCall → Bool
  | .sendCmdTwo cmd _ _ => cmd == cmdBufFull
  | _ => false

def stopPrintCall : TransportCall :=
  .sendCmd cmdStopPrint 0#16

/-- Blocks that are closed by their `BUF_FULL`. -/
def closedBlocks (history : WireHistory) : Nat :=
  history.countP fun event => event.1.isBufFull

@[simp]
theorem closedBlocks_concat (history : WireHistory)
    (event : TransportCall × TransportReply) :
    closedBlocks (history ++ [event]) =
      closedBlocks history + if event.1.isBufFull then 1 else 0 := by
  simp [closedBlocks, List.countP_append, List.countP_singleton]

/-- A status read now is read in the wait for buffer room: the printer was seen
printing, a block is left, and it is not the status after a block. -/
structure InBufferWait (transport : Transport) (blocks : List Bytes)
    (history : WireHistory) : Prop where
  station : ∃ status ∈ transport.statusesSinceStart history,
    status.printing = true ∧ status.hasError = false
  left : closedBlocks history < blocks.length
  afterBlock : (history.getLast?.any fun event => event.1.isBufFull) = false

/-- The last exchange brought a status with an error into the wait for buffer
room. -/
def FlaggedBy (transport : Transport) (blocks : List Bytes)
    (history : WireHistory) (status : PrinterStatus) : Prop :=
  ∃ before event, history = before ++ [event] ∧
    InBufferWait transport blocks before ∧
    transport.parsedStatus event = some status ∧ status.hasError = true

/-- The last exchange is a block header without a reply. -/
def HeaderUnanswered (history : WireHistory) : Prop :=
  ∃ before request, history = before ++ [(request, .ok none)] ∧
    request.isHeader = true

/-- A print may go on: the last exchange neither flagged an error nor left a
header unanswered. -/
structure GoesOn (transport : Transport) (blocks : List Bytes)
    (history : WireHistory) : Prop where
  unflagged : ∀ status, ¬ FlaggedBy transport blocks history status
  answered : ¬ HeaderUnanswered history

/-- No call but `STOP_PRINT`, and none once the print may not go on. -/
structure StopsOnFault (transport : Transport) (blocks : List Bytes)
    (history : WireHistory) (request : TransportCall) : Prop where
  noStop : request ≠ stopPrintCall
  goesOn : GoesOn transport blocks history

/-- A print that a flagged status ends reports that status. -/
def Reports (transport : Transport) (blocks : List Bytes) (error : ProtoError)
    (history : WireHistory) : Prop :=
  ∀ status, FlaggedBy transport blocks history status →
    error = Transport.statusError "printer error while waiting for buffer: "
      status

section Steps

variable {transport : Transport} {blocks : List Bytes} {history : WireHistory}

theorem flaggedBy_concat_iff {event : TransportCall × TransportReply}
    {status : PrinterStatus} :
    FlaggedBy transport blocks (history ++ [event]) status ↔
      InBufferWait transport blocks history ∧
        transport.parsedStatus event = some status ∧
        status.hasError = true := by
  constructor
  · rintro ⟨before, last, split, flagged⟩
    obtain ⟨rfl, same⟩ := List.append_inj' split rfl
    obtain rfl := List.singleton_inj.mp same
    exact flagged
  · exact fun flagged => ⟨history, event, rfl, flagged⟩

theorem headerUnanswered_concat_iff {event : TransportCall × TransportReply} :
    HeaderUnanswered (history ++ [event]) ↔
      event.1.isHeader = true ∧ event.2 = .ok none := by
  constructor
  · rintro ⟨before, request, split, isHeader⟩
    obtain ⟨-, same⟩ := List.append_inj' split rfl
    obtain rfl := List.singleton_inj.mp same
    exact ⟨isHeader, rfl⟩
  · rintro ⟨isHeader, unanswered⟩
    refine ⟨history, event.1, ?_, isHeader⟩
    rw [← unanswered]

theorem GoesOn.nil : GoesOn transport blocks [] := by
  constructor
  · rintro status ⟨before, event, split, -⟩
    simp at split
  · rintro ⟨before, request, split, -⟩
    simp at split

/-- An exchange that brings no error into the wait for buffer room, and is no
unanswered header, lets a print go on. -/
theorem GoesOn.concat {event : TransportCall × TransportReply}
    (clear : InBufferWait transport blocks history →
      ∀ status, transport.parsedStatus event = some status →
        status.hasError = false)
    (answered : event.1.isHeader = true → event.2 ≠ .ok none) :
    GoesOn transport blocks (history ++ [event]) := by
  constructor
  · intro status flagged
    obtain ⟨waiting, parsed, raised⟩ := flaggedBy_concat_iff.mp flagged
    rw [clear waiting status parsed] at raised
    cases raised
  · intro unanswered
    obtain ⟨isHeader, none⟩ := headerUnanswered_concat_iff.mp unanswered
    exact answered isHeader none

theorem Reports.of_unflagged {error : ProtoError}
    (unflagged : ∀ status, ¬ FlaggedBy transport blocks history status) :
    Reports transport blocks error history :=
  fun status flagged => absurd flagged (unflagged status)

end Steps

/-! ### Rules for a print that stops on a fault -/

/-- A result comes with its stage, an error with a report of what was
flagged. -/
def Within {α : Type} (transport : Transport) (blocks : List Bytes)
    (stage : α → WireHistory → Prop) : Except ProtoError α → WireHistory → Prop
  | .ok result, history => stage result history
  | .error error, history => Reports transport blocks error history

section Rules

variable {transport : Transport} {blocks : List Bytes} {history : WireHistory}
  {α β : Type}

theorem within_bind {session : Operation α} {next : α → Operation β}
    {allowed : WireHistory → TransportCall → Prop}
    (middle : α → WireHistory → Prop) {stage : β → WireHistory → Prop}
    (first : Session.Ensures allowed session history
      (Within transport blocks middle))
    (rest : ∀ result later, middle result later →
      Session.Ensures allowed (next result) later
        (Within transport blocks stage)) :
    Session.Ensures allowed (session >>= next) history
      (Within transport blocks stage) :=
  Session.ensures_bind (Within transport blocks middle) first
    (fun _ _ reports => reports) rest

theorem transportCall_within {request : TransportCall}
    {stage : Option Bytes → WireHistory → Prop}
    (goesOn : GoesOn transport blocks history)
    (noStop : request ≠ stopPrintCall)
    (reached : ∀ resp, stage resp (history ++ [(request, .ok resp)])) :
    Session.Ensures (StopsOnFault transport blocks) (transportCall request)
      history (Within transport blocks stage) := by
  refine Session.ensures_ask ⟨noStop, goesOn⟩ ?_
  intro reply
  cases reply with
  | ok resp => exact reached resp
  | error error =>
      refine Reports.of_unflagged fun status flagged => ?_
      obtain ⟨-, parsed, -⟩ := flaggedBy_concat_iff.mp flagged
      cases request <;> cases parsed

theorem failIf_within {condition : Bool} {error : ProtoError}
    {allowed : WireHistory → TransportCall → Prop}
    {stage : Unit → WireHistory → Prop}
    (unflagged : ∀ status, ¬ FlaggedBy transport blocks history status)
    (reached : condition = false → stage () history) :
    Session.Ensures allowed (failIf condition error) history
      (Within transport blocks stage) := by
  cases condition with
  | false => exact Session.ensures_pure (reached rfl)
  | true => exact Session.ensures_throw (Reports.of_unflagged unflagged)

theorem okOrElse_within {value : Option α} {error : ProtoError}
    {allowed : WireHistory → TransportCall → Prop}
    {stage : α → WireHistory → Prop}
    (unflagged : ∀ status, ¬ FlaggedBy transport blocks history status)
    (reached : ∀ result, value = some result → stage result history) :
    Session.Ensures allowed (okOrElse value error) history
      (Within transport blocks stage) := by
  cases value with
  | none => exact Session.ensures_throw (Reports.of_unflagged unflagged)
  | some result => exact Session.ensures_pure (reached result rfl)

theorem queryStatus_within {stage : Option PrinterStatus → WireHistory → Prop}
    (goesOn : GoesOn transport blocks history)
    (reached : ∀ resp, stage (transport.parsedStatus (inquiry, .ok resp))
      (history ++ [(inquiry, .ok resp)])) :
    Session.Ensures (StopsOnFault transport blocks) transport.queryStatus
      history (Within transport blocks stage) := by
  unfold Transport.queryStatus
  refine within_bind
    (fun resp later => later = history ++ [(inquiry, .ok resp)])
    (transportCall_within goesOn (by decide) fun _ => rfl) ?_
  rintro resp later rfl
  have parsed : resp.bind transport.parseStatusResponse =
      transport.parsedStatus (inquiry, .ok resp) := by
    cases resp <;> rfl
  rw [parsed]
  exact Session.ensures_pure (reached resp)

/-- Polling stays in its stage while the judge asks for more. -/
theorem pollStatus_within {judge : PrinterStatus → Transport.PollVerdict}
    (waiting : WireHistory → Prop)
    {stage : Option PrinterStatus → WireHistory → Prop}
    (goesOn : ∀ {now}, waiting now → GoesOn transport blocks now)
    (again : ∀ {now} resp, waiting now →
      (∀ status, transport.parsedStatus (inquiry, .ok resp) = some status →
        judge status = .again) → waiting (now ++ [(inquiry, .ok resp)]))
    (accepts : ∀ {now} resp status, waiting now →
      transport.parsedStatus (inquiry, .ok resp) = some status →
      judge status = .accept →
        stage (some status) (now ++ [(inquiry, .ok resp)]))
    (fails : ∀ {now} resp status error, waiting now →
      transport.parsedStatus (inquiry, .ok resp) = some status →
      judge status = .fail error →
        Reports transport blocks error (now ++ [(inquiry, .ok resp)]))
    (exhausted : ∀ {now}, waiting now → stage none now) (attempts : Nat)
    (holds : waiting history) :
    Session.Ensures (StopsOnFault transport blocks)
      (transport.pollStatus judge attempts) history
      (Within transport blocks stage) := by
  induction attempts generalizing history with
  | zero => exact Session.ensures_pure (exhausted holds)
  | succ attempts ih =>
      refine within_bind
        (fun st later => ∃ resp, later = history ++ [(inquiry, .ok resp)] ∧
          st = transport.parsedStatus (inquiry, .ok resp))
        (queryStatus_within (goesOn holds) fun resp => ⟨resp, rfl, rfl⟩) ?_
      rintro st later ⟨resp, rfl, rfl⟩
      cases parsed : transport.parsedStatus (inquiry, .ok resp) with
      | none =>
          refine ih (again resp holds fun status found => ?_)
          rw [parsed] at found
          cases found
      | some status =>
          simp only [Option.map_some]
          cases verdict : judge status with
          | fail error =>
              exact Session.ensures_throw
                (fails resp status error holds parsed verdict)
          | accept =>
              exact Session.ensures_pure
                (accepts resp status holds parsed verdict)
          | again =>
              refine ih (again resp holds fun found same => ?_)
              rw [parsed] at same
              obtain rfl := Option.some.inj same
              exact verdict

end Rules

/-! ### The stages of a print -/

/-- So many blocks are closed, and the print may go on. -/
structure Sending (transport : Transport) (blocks : List Bytes) (closed : Nat)
    (history : WireHistory) : Prop extends GoesOn transport blocks history where
  closed : closedBlocks history = closed

/-- Nothing is printing yet. -/
structure NotStarted (transport : Transport) (blocks : List Bytes)
    (history : WireHistory) : Prop extends Sending transport blocks 0 history
    where
  notStarted : ∀ event ∈ history, event.1.isStartPrint = false

/-- Printing was started, and the printer was not seen printing. -/
structure AwaitingStation (transport : Transport) (blocks : List Bytes)
    (history : WireHistory) : Prop extends Sending transport blocks 0 history
    where
  started : Transport.Started history
  unseen : ∀ status ∈ transport.statusesSinceStart history,
    ¬ (status.printing = true ∧ status.hasError = false)

section Stages

variable {transport : Transport} {blocks : List Bytes} {history : WireHistory}
  {closed : Nat}

/-- A call that is neither a header nor `BUF_FULL`. -/
theorem Sending.concat (sending : Sending transport blocks closed history)
    {event : TransportCall × TransportReply}
    (clear : InBufferWait transport blocks history →
      ∀ status, transport.parsedStatus event = some status →
        status.hasError = false)
    (noHeader : event.1.isHeader = false)
    (noBufFull : event.1.isBufFull = false) :
    Sending transport blocks closed (history ++ [event]) where
  toGoesOn := GoesOn.concat clear (by simp [noHeader])
  closed := by simp [sending.closed, noBufFull]

theorem Reports.concat_outside {error : ProtoError}
    (outside : ¬ InBufferWait transport blocks history)
    (event : TransportCall × TransportReply) :
    Reports transport blocks error (history ++ [event]) :=
  fun _ flagged => absurd (flaggedBy_concat_iff.mp flagged).1 outside

theorem NotStarted.outside (idle : NotStarted transport blocks history) :
    ¬ InBufferWait transport blocks history := by
  rintro ⟨⟨status, member, -⟩, -, -⟩
  have none : (history.dropWhile fun event => !event.1.isStartPrint) = [] := by
    rw [List.dropWhile_eq_nil_iff]
    intro event inHistory
    simp [idle.notStarted event inHistory]
  rw [Transport.statusesSinceStart, none] at member
  cases member

theorem NotStarted.concat (idle : NotStarted transport blocks history)
    {event : TransportCall × TransportReply}
    (noHeader : event.1.isHeader = false)
    (noBufFull : event.1.isBufFull = false)
    (noStart : event.1.isStartPrint = false) :
    NotStarted transport blocks (history ++ [event]) where
  toSending := idle.toSending.concat
    (fun waiting => absurd waiting idle.outside) noHeader noBufFull
  notStarted := by
    intro other member
    rcases List.mem_append.mp member with earlier | last
    · exact idle.notStarted other earlier
    · rw [List.mem_singleton.mp last]
      exact noStart

/-- `START_PRINT` begins the wait for the print station. -/
theorem NotStarted.start (idle : NotStarted transport blocks history)
    (resp : Option Bytes) :
    AwaitingStation transport blocks
      (history ++ [(.sendCmd cmdStartPrint 0#16, .ok resp)]) where
  toSending := idle.toSending.concat
    (fun waiting => absurd waiting idle.outside) rfl rfl
  started := ⟨_, List.mem_append_right _ (List.mem_singleton_self _), rfl⟩
  unseen := by
    intro status member
    have found : ((history ++ [(TransportCall.sendCmd cmdStartPrint 0#16,
        (.ok resp : TransportReply))]).dropWhile fun event =>
          !event.1.isStartPrint) =
        [(.sendCmd cmdStartPrint 0#16, .ok resp)] := by
      rw [List.dropWhile_append_of_pos]
      · rfl
      · intro event inHistory
        simp [idle.notStarted event inHistory]
    rw [Transport.statusesSinceStart, found] at member
    cases resp <;> cases member

theorem AwaitingStation.outside
    (awaiting : AwaitingStation transport blocks history) :
    ¬ InBufferWait transport blocks history := by
  rintro ⟨⟨status, member, seen⟩, -, -⟩
  exact awaiting.unseen status member seen

theorem Sending.outside_of_all
    (sending : Sending transport blocks blocks.length history) :
    ¬ InBufferWait transport blocks history := by
  intro waiting
  have left := waiting.left
  rw [sending.closed] at left
  omega

end Stages

/-! ### The operations of a print -/

section Operations

variable {transport : Transport} {blocks : List Bytes} {history : WireHistory}
  {closed : Nat}

/-- Polls outside the wait for buffer room flag nothing. -/
theorem pollStatus_outside {judge : PrinterStatus → Transport.PollVerdict}
    (waiting : WireHistory → Prop)
    {stage : Option PrinterStatus → WireHistory → Prop}
    (goesOn : ∀ {now}, waiting now → GoesOn transport blocks now)
    (outside : ∀ {now}, waiting now → ¬ InBufferWait transport blocks now)
    (again : ∀ {now} resp, waiting now →
      (∀ status, transport.parsedStatus (inquiry, .ok resp) = some status →
        judge status = .again) → waiting (now ++ [(inquiry, .ok resp)]))
    (accepts : ∀ {now} resp status, waiting now → judge status = .accept →
      stage (some status) (now ++ [(inquiry, .ok resp)]))
    (exhausted : ∀ {now}, waiting now → stage none now) (attempts : Nat)
    (holds : waiting history) :
    Session.Ensures (StopsOnFault transport blocks)
      (transport.pollStatus judge attempts) history
      (Within transport blocks stage) :=
  pollStatus_within waiting goesOn again
    (fun resp status now _ verdict => accepts resp status now verdict)
    (fun _ _ _ now _ _ => Reports.concat_outside (outside now) _) exhausted
    attempts holds

theorem waitReady_within (attempts : Nat)
    (idle : NotStarted transport blocks history) :
    Session.Ensures (StopsOnFault transport blocks)
      (transport.waitReady attempts) history
      (Within transport blocks fun _ => NotStarted transport blocks) :=
  pollStatus_outside (NotStarted transport blocks)
    (fun now => now.toGoesOn) (fun now => now.outside)
    (fun _ now _ => now.concat rfl rfl rfl)
    (fun _ _ now _ => now.concat rfl rfl rfl) id attempts idle

/-- A status that does not end the wait for the print station leaves the
printer unseen. -/
theorem AwaitingStation.again
    (awaiting : AwaitingStation transport blocks history) (resp : Option Bytes)
    (asksAgain : ∀ status,
      transport.parsedStatus (inquiry, .ok resp) = some status →
        Transport.printingVerdict status = .again) :
    AwaitingStation transport blocks (history ++ [(inquiry, .ok resp)]) where
  toSending := awaiting.toSending.concat
    (fun waiting => absurd waiting awaiting.outside) rfl rfl
  started := by
    obtain ⟨event, member, isStart⟩ := awaiting.started
    exact ⟨event, List.mem_append_left _ member, isStart⟩
  unseen := by
    intro status member
    rw [Transport.statusesSinceStart_concat awaiting.started] at member
    rcases List.mem_append.mp member with earlier | now
    · exact awaiting.unseen status earlier
    · rintro ⟨printing, clear⟩
      have verdict := asksAgain status (Option.mem_toList.mp now)
      rw [(Transport.printingVerdict_accept_iff status).mpr
        ⟨clear, printing⟩] at verdict
      cases verdict

theorem waitPrinting_within (attempts : Nat)
    (awaiting : AwaitingStation transport blocks history) :
    Session.Ensures (StopsOnFault transport blocks)
      (transport.waitPrinting attempts) history
      (Within transport blocks fun _ => Sending transport blocks 0) :=
  pollStatus_outside (AwaitingStation transport blocks)
    (fun now => now.toGoesOn) (fun now => now.outside)
    (fun resp now asksAgain => now.again resp asksAgain)
    (fun _ _ now _ => now.toSending.concat
      (fun waiting => absurd waiting now.outside) rfl rfl)
    (fun now => now.toSending) attempts awaiting

theorem bufferVerdict_fail {status : PrinterStatus} {error : ProtoError}
    (verdict : Transport.bufferVerdict status = .fail error) :
    error = Transport.statusError "printer error while waiting for buffer: "
      status := by
  unfold Transport.bufferVerdict at verdict
  split at verdict
  · exact (Transport.PollVerdict.fail.inj verdict).symm
  · split at verdict <;> cases verdict

theorem bufferVerdict_clear {status : PrinterStatus}
    (passes : ∀ error, Transport.bufferVerdict status ≠ .fail error) :
    status.hasError = false := by
  cases raised : status.hasError with
  | false => rfl
  | true => exact absurd (if_pos raised) (passes _)

/-- The wait for buffer room reports a flagged status itself, and brings none
without a flag. -/
theorem waitBufferReady_within (attempts : Nat)
    (sending : Sending transport blocks closed history) :
    Session.Ensures (StopsOnFault transport blocks)
      (transport.waitBufferReady attempts) history
      (Within transport blocks fun ready later =>
        Sending transport blocks closed later ∧
          ∀ status, ready = some status → status.hasError = false) := by
  refine pollStatus_within (Sending transport blocks closed)
    (fun now => now.toGoesOn) ?_ ?_ ?_ (fun now => ⟨now, fun _ none => by
      cases none⟩) attempts sending
  · intro now resp waits asksAgain
    refine waits.concat (fun _ status parsed => ?_) rfl rfl
    refine bufferVerdict_clear fun error failed => ?_
    rw [asksAgain status parsed] at failed
    cases failed
  · intro now resp status waits parsed verdict
    have clear := ((Transport.bufferVerdict_accept_iff status).mp verdict).1
    refine ⟨waits.concat (fun _ found same => ?_) rfl rfl, ?_⟩
    · rw [parsed] at same
      rw [← Option.some.inj same]
      exact clear
    · rintro _ ⟨⟩
      exact clear
  · intro now resp status error waits parsed verdict found flagged
    obtain ⟨-, same, -⟩ := flaggedBy_concat_iff.mp flagged
    rw [parsed] at same
    rw [← Option.some.inj same]
    exact bufferVerdict_fail verdict

/-- A block that goes out whole is closed by its `BUF_FULL`. -/
theorem transferCompressed_within (block : Bytes) (speed : U16)
    (sending : Sending transport blocks closed history) :
    Session.Ensures (StopsOnFault transport blocks)
      (Transport.transferCompressed block speed) history
      (Within transport blocks fun _ later =>
        Sending transport blocks (closed + 1) later ∧
          ¬ InBufferWait transport blocks later) := by
  unfold Transport.transferCompressed
  refine within_bind (fun resp later => later = history ++
      [(.sendBulkHeader (BitVec.ofNat 16 block.length)
        (packetCount block.length), .ok resp)])
    (transportCall_within sending.toGoesOn (by simp [stopPrintCall])
      fun _ => rfl) ?_
  rintro resp later rfl
  refine within_bind (fun _ => Sending transport blocks closed)
    (failIf_within ?_ fun replied => ?_) ?_
  · intro status flagged
    obtain ⟨-, parsed, -⟩ := flaggedBy_concat_iff.mp flagged
    cases parsed
  · exact
      { toGoesOn := GoesOn.concat (fun _ _ parsed => by cases parsed)
          fun _ none => by
            obtain rfl := Except.ok.inj none
            cases replied
        closed := by simp [sending.closed, TransportCall.isBufFull] }
  -- the data
  intro _ later sending
  refine within_bind (fun _ => Sending transport blocks closed)
    (transportCall_within sending.toGoesOn (by simp [stopPrintCall])
      fun _ => sending.concat (fun _ _ parsed => by cases parsed) rfl rfl) ?_
  -- `BUF_FULL`
  intro _ later sending
  refine within_bind (fun _ later =>
      Sending transport blocks (closed + 1) later ∧
        ¬ InBufferWait transport blocks later)
    (transportCall_within sending.toGoesOn (by simp [stopPrintCall])
      fun resp => ⟨⟨GoesOn.concat (fun _ _ parsed => by cases parsed)
        fun isHeader => (by cases isHeader), ?_⟩, fun waiting => ?_⟩)
    fun _ later closes => Session.ensures_pure closes
  · rw [closedBlocks_concat, sending.closed]
    rfl
  · have afterBlock := waiting.afterBlock
    rw [List.getLast?_concat] at afterBlock
    cases afterBlock

/-- The blocks that are left are closed one by one. -/
theorem transferBlocks_within (speed : U16) (total index : Nat)
    {rest : List Bytes} (sending : Sending transport blocks closed history)
    (left : closed + rest.length = blocks.length) :
    Session.Ensures (StopsOnFault transport blocks)
      (transport.transferBlocks speed total index rest) history
      (Within transport blocks fun _ =>
        Sending transport blocks blocks.length) := by
  induction rest generalizing closed index history with
  | nil =>
      obtain rfl : closed = blocks.length := left
      exact Session.ensures_pure sending
  | cons block rest ih =>
      unfold Transport.transferBlocks
      apply within_bind _ (waitBufferReady_within _ sending)
      rintro ready later ⟨sending, clear⟩
      refine within_bind (fun status later =>
          Sending transport blocks closed later ∧ status.hasError = false)
        (okOrElse_within sending.unflagged
          fun status found => ⟨sending, clear status found⟩) ?_
      rintro status later ⟨sending, clear⟩
      refine within_bind (fun _ => Sending transport blocks closed) ?_ ?_
      · unfold Transport.stopOnError
        rw [if_neg (by simp [clear])]
        exact Session.ensures_pure sending
      intro _ later sending
      apply within_bind _ (transferCompressed_within block speed sending)
      rintro _ later ⟨sending, outside⟩
      refine within_bind (fun _ => Sending transport blocks (closed + 1))
        (queryStatus_within sending.toGoesOn fun _ => sending.concat
          (fun waiting => absurd waiting outside) rfl rfl) ?_
      intro _ later sending
      refine ih (index + 1) sending ?_
      rw [← left, List.length_cons]
      omega

theorem completionTimeout_within
    (sent : Sending transport blocks blocks.length history)
    {stage : Unit → WireHistory → Prop} :
    Session.Ensures (StopsOnFault transport blocks)
      transport.completionTimeout history (Within transport blocks stage) := by
  unfold Transport.completionTimeout
  refine within_bind (fun _ => Sending transport blocks blocks.length)
    (queryStatus_within sent.toGoesOn fun _ => sent.concat
      (fun waiting => absurd waiting sent.outside_of_all) rfl rfl) ?_
  intro _ later sent
  refine within_bind (fun _ => Sending transport blocks blocks.length)
    (failIf_within sent.unflagged fun _ => sent) ?_
  intro _ later sent
  exact Session.ensures_throw (Reports.of_unflagged sent.unflagged)

end Operations

/-- The whole print flow stops on a fault, without a `STOP_PRINT`. -/
theorem printCompressed_stopsOnFault (transport : Transport)
    (blocks : List Bytes) (speed : U16) :
    Session.Ensures (StopsOnFault transport blocks)
      (transport.printCompressed blocks speed) []
      (Within transport blocks fun _ => GoesOn transport blocks) := by
  have idle : NotStarted transport blocks [] :=
    { toGoesOn := GoesOn.nil, closed := rfl, notStarted := by simp }
  unfold Transport.printCompressed
  -- CHECK_DEVICE
  refine within_bind (fun _ => NotStarted transport blocks)
    (within_bind (fun _ => NotStarted transport blocks)
      (transportCall_within idle.toGoesOn (by decide)
        fun _ => idle.concat rfl rfl rfl)
      fun _ _ idle => Session.ensures_pure idle) ?_
  intro present later idle
  refine within_bind (fun _ => NotStarted transport blocks)
    (failIf_within idle.unflagged fun _ => idle) ?_
  -- Wait until the device is ready
  intro _ later idle
  apply within_bind _ (waitReady_within _ idle)
  intro ready later idle
  refine within_bind (fun _ => NotStarted transport blocks)
    (okOrElse_within idle.unflagged fun _ _ => idle) ?_
  intro status later idle
  refine within_bind (fun _ => NotStarted transport blocks)
    (failIf_within idle.unflagged fun _ => idle) ?_
  -- START_PRINT
  intro _ later idle
  refine within_bind (fun _ => AwaitingStation transport blocks)
    (transportCall_within idle.toGoesOn (by decide)
      fun resp => idle.start resp) ?_
  -- Wait for the print station
  intro _ later awaiting
  apply within_bind _ (waitPrinting_within _ awaiting)
  intro station later sending
  refine within_bind (fun _ => Sending transport blocks 0)
    (okOrElse_within sending.unflagged fun _ _ => sending) ?_
  -- Transfer the blocks
  intro _ later sending
  apply within_bind _ (transferBlocks_within _ _ _ sending (Nat.zero_add _))
  -- Wait for completion
  intro _ later sent
  refine within_bind (fun _ => Sending transport blocks blocks.length)
    (pollStatus_outside (Sending transport blocks blocks.length)
      (fun now => now.toGoesOn) (fun now => now.outside_of_all)
      (fun _ now _ => now.concat
        (fun waiting => absurd waiting now.outside_of_all) rfl rfl)
      (fun _ _ now _ => now.concat
        (fun waiting => absurd waiting now.outside_of_all) rfl rfl)
      id _ sent) ?_
  intro complete later sent
  cases complete with
  | none => exact completionTimeout_within sent
  | some status => exact Session.ensures_pure sent.toGoesOn

/-! ### A flagged wait ends the print -/

/-- In every run in which the wait for buffer room reads a status with an error,
the print ends there with that error, and `STOP_PRINT` is never sent. -/
theorem printCompressed_endsUnstopped (transport : Transport)
    (device : PrinterDevice) (blocks : List Bytes) (speed : U16)
    {before after : WireHistory} {resp : Bytes} {status : PrinterStatus}
    (ran : (Session.runOn device (transport.printCompressed blocks speed)).2 =
      before ++ (inquiry, .ok (some resp)) :: after)
    (waiting : InBufferWait transport blocks before)
    (parsed : transport.parseStatusResponse resp = some status)
    (flagged : status.hasError = true) :
    Session.runOn device (transport.printCompressed blocks speed) =
        (.error (Transport.statusError
          "printer error while waiting for buffer: " status),
          before ++ [(inquiry, .ok (some resp))]) ∧
      ∀ event ∈ (Session.runOn device
        (transport.printCompressed blocks speed)).2,
          event.1 ≠ stopPrintCall := by
  obtain ⟨lawful, outcome⟩ :=
    (printCompressed_stopsOnFault transport blocks speed).runOn device
  have isFlagged : FlaggedBy transport blocks
      (before ++ [(inquiry, .ok (some resp))]) status :=
    flaggedBy_concat_iff.mpr ⟨waiting, parsed, flagged⟩
  constructor
  · -- a further call would follow the flagged status
    have last : after = [] := by
      cases after with
      | nil => rfl
      | cons next rest =>
          have follows := lawful (before ++ [(inquiry, .ok (some resp))]) next
            rest (by simp [ran])
          exact absurd isFlagged (follows.goesOn.unflagged status)
    subst last
    refine Prod.ext ?_ ran
    rw [ran] at outcome
    cases result : (Session.runOn device
        (transport.printCompressed blocks speed)).1 with
    | ok done =>
        rw [result] at outcome
        exact absurd isFlagged (outcome.unflagged status)
    | error error =>
        rw [result] at outcome
        rw [outcome status isFlagged]
  · intro event member
    obtain ⟨earlier, later, split⟩ := List.append_of_mem member
    exact (lawful earlier event later split).noStop

/-- A USB status that shows these flags of the third register only. -/
def usbStatus (flags : U8) : Bytes :=
  [0#8, 0#8, 0#8, flags, 0#8, 0#8, 0#8]

/-- A printer that starts a page, and whose cover is open from then on. -/
def coverOpens : PrinterDevice := fun history _ =>
  .ok (some (usbStatus (if history.length < 3 then 0x00#8
    else if history.length = 3 then 0x40#8 else 0x08#8)))

/-- What it exchanges up to the wait for buffer room. -/
def startedPage : WireHistory :=
  [(.sendCmd cmdCheckDevice 0#16, .ok (some (usbStatus 0x00#8))),
    (inquiry, .ok (some (usbStatus 0x00#8))),
    (.sendCmd cmdStartPrint 0#16, .ok (some (usbStatus 0x00#8))),
    (inquiry, .ok (some (usbStatus 0x40#8)))]

theorem startedPage_waits :
    InBufferWait usbHidTransport [[0x5D#8]] startedPage where
  station := ⟨decodeStatusBits 0#8 0#8 0x40#8 0#8 0#16, by
    simp only [Transport.statusesSinceStart]
    decide⟩
  left := by decide
  afterBlock := by decide

theorem printCompressed_endsUnstopped_coverOpens :
    Session.runOn coverOpens
        (usbHidTransport.printCompressed [[0x5D#8]] 60#16) =
        (.error (Transport.statusError
          "printer error while waiting for buffer: "
          (decodeStatusBits 0#8 0#8 0x08#8 0#8 0#16)),
          startedPage ++ [(inquiry, .ok (some (usbStatus 0x08#8)))]) ∧
      ∀ event ∈ (Session.runOn coverOpens
        (usbHidTransport.printCompressed [[0x5D#8]] 60#16)).2,
          event.1 ≠ stopPrintCall :=
  printCompressed_endsUnstopped usbHidTransport coverOpens [[0x5D#8]] 60#16 rfl
    startedPage_waits rfl rfl

/-- The cover opens in a page that was started, and no `STOP_PRINT` follows. -/
theorem printCompressed_leavesPageStarted :
    ¬ ∀ before after resp status,
      (Session.runOn coverOpens
        (usbHidTransport.printCompressed [[0x5D#8]] 60#16)).2 =
          before ++ (inquiry, .ok (some resp)) :: after →
      InBufferWait usbHidTransport [[0x5D#8]] before →
      usbHidTransport.parseStatusResponse resp = some status →
      status.hasError = true →
        ∃ event ∈ after, event.1 = stopPrintCall := by
  intro stops
  obtain ⟨event, none, -⟩ := stops startedPage [] (usbStatus 0x08#8)
    (decodeStatusBits 0#8 0#8 0x08#8 0#8 0#16) rfl startedPage_waits rfl rfl
  cases none

end SupvanCups
