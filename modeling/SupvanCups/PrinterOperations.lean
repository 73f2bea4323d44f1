import SupvanCups.Transport

/-!
# Printer operations

The print flow of `Printer`: check the device, wait until it is ready, start,
wait for the print station, send the blocks one by one, wait for completion.
Pauses between calls have no effect on what is sent and are left out.
-/

namespace SupvanCups

def readyAttempts : Nat := 60
def printingAttempts : Nat := 60
def bufferReadyAttempts : Nat := 200
def multiBlockSpeed : U16 := 20#16
def completionPolls : Nat := 300

def transportCall (request : TransportCall) : Operation (Option Bytes) :=
  Session.ask request

/-- The value of an option, or the error that stands for its absence. -/
def okOrElse {α : Type} (value : Option α) (error : ProtoError) : Operation α :=
  match value with
  | some result => pure result
  | none => throw error

def failIf (condition : Bool) (error : ProtoError) : Operation Unit :=
  if condition then throw error else pure ()

theorem run_failIf (device : PrinterDevice) (condition : Bool)
    (error : ProtoError) (history : WireHistory) :
    Script.run device (failIf condition error).run history =
      (if condition then .error error else .ok (), history) := by
  cases condition <;> rfl

namespace Transport

variable (transport : Transport)

def checkDevice : Operation Bool := do
  let resp ← transportCall (.sendCmd cmdCheckDevice 0#16)
  return resp.any (transport.validateResponse · cmdCheckDevice)

def queryStatus : Operation (Option PrinterStatus) := do
  let resp ← transportCall (.sendCmd cmdInquirySta 0#16)
  return resp.bind transport.parseStatusResponse

def queryMaterial : Operation (Option MaterialInfo) := do
  let resp ← transportCall (.sendCmd cmdReturnMat 0#16)
  return resp.bind transport.parseMaterialResponse

def startPrint : Operation (Option Bytes) :=
  transportCall (.sendCmd cmdStartPrint 0#16)

def stopPrint : Operation (Option Bytes) :=
  transportCall (.sendCmd cmdStopPrint 0#16)

inductive PollVerdict
  | fail (error : ProtoError)
  | accept
  | again

/-- Poll the status until one is accepted.  `none` is the end of the attempts;
polls without a status that parses count as attempts too. -/
def pollStatus (judge : PrinterStatus → PollVerdict) :
    Nat → Operation (Option PrinterStatus)
  | 0 => return none
  | attempts + 1 => do
      let st ← transport.queryStatus
      match st.map fun s => (s, judge s) with
      | none => pollStatus judge attempts
      | some (_, .again) => pollStatus judge attempts
      | some (s, .accept) => return some s
      | some (_, .fail error) => throw error

def readyVerdict (s : PrinterStatus) : PollVerdict :=
  if !s.deviceBusy && !s.printing then .accept else .again

def waitReady (maxAttempts : Nat) : Operation (Option PrinterStatus) :=
  transport.pollStatus readyVerdict maxAttempts

def statusError (context : String) (status : PrinterStatus) : ProtoError :=
  .invalidResponse (context ++ status.errorDescription.getD "")

def printingVerdict (s : PrinterStatus) : PollVerdict :=
  if s.hasError then
    .fail (statusError "printer error after START_PRINT: " s)
  else if s.printing then .accept
  else .again

def waitPrinting (maxAttempts : Nat) : Operation (Option PrinterStatus) :=
  transport.pollStatus printingVerdict maxAttempts

def bufferVerdict (s : PrinterStatus) : PollVerdict :=
  if s.hasError then
    .fail (statusError "printer error while waiting for buffer: " s)
  else if !s.bufFull then .accept
  else .again

def waitBufferReady (maxAttempts : Nat) : Operation (Option PrinterStatus) :=
  transport.pollStatus bufferVerdict maxAttempts

/-- Transfer one block: `NEXT_ZIPPEDBULK`, the data packets, `BUF_FULL`. -/
def transferCompressed (compressed : Bytes) (speed : U16) : Operation Unit := do
  let compressedLen := BitVec.ofNat 16 compressed.length
  let numPackets := packetCount compressed.length
  let resp ← transportCall (.sendBulkHeader compressedLen numPackets)
  failIf resp.isNone (.invalidResponse "no response to NEXT_ZIPPEDBULK")
  let _ ← transportCall (.sendBulkData compressed false)
  let _ ← transportCall (.sendCmdTwo cmdBufFull compressedLen speed)

def blockLabel (index total : Nat) : String :=
  toString (index + 1) ++ "/" ++ toString total

def stopOnError (bufStatus : PrinterStatus) : Operation Unit := do
  if bufStatus.hasError then
    let _ ← stopPrint
    throw (statusError "printer error: " bufStatus)

/-- Transfer the blocks that are left, waiting for room before each. -/
def transferBlocks (speed : U16) (total : Nat) :
    Nat → List Bytes → Operation Unit
  | _, [] => return ()
  | index, block :: blocks => do
      let ready ← transport.waitBufferReady bufferReadyAttempts
      let bufStatus ← okOrElse ready (.invalidResponse
        ("timeout waiting for buffer space before block " ++
          blockLabel index total))
      stopOnError bufStatus
      transferCompressed block speed
      let _ ← transport.queryStatus
      transferBlocks speed total (index + 1) blocks

def completionVerdict (s : PrinterStatus) : PollVerdict :=
  if s.hasError then .fail (statusError "printer error while printing: " s)
  else if !s.printing && !s.deviceBusy && !s.bufFull then .accept
  else .again

def waitCompletion (polls : Nat) : Operation (Option PrinterStatus) :=
  transport.pollStatus completionVerdict polls

/-- Why the completion polls ran out: a buffer that never drained, or time. -/
def completionTimeout : Operation Unit := do
  let last ← transport.queryStatus
  failIf (last.any PrinterStatus.bufFull) (.invalidResponse
    ("printer buffer still full after the print budget — the page was " ++
      "accepted but never printed"))
  throw (.timeout "print completion")

/-- The speed a page is printed at: pages of several blocks print slower. -/
def pageSpeed (blocks : List Bytes) (speed : U16) : U16 :=
  if 1 < blocks.length then multiBlockSpeed else speed

def printCompressed (blocks : List Bytes) (speed : U16) : Operation Unit := do
  let speed := pageSpeed blocks speed
  -- Step 1: check device
  let present ← transport.checkDevice
  failIf (!present) (.invalidResponse "CHECK_DEVICE failed")
  -- Step 2: wait ready
  let ready ← transport.waitReady readyAttempts
  let status ← okOrElse ready
    (.invalidResponse "timeout waiting for device ready")
  failIf status.hasError (statusError "printer error: " status)
  -- Step 3: start print
  let _ ← startPrint
  -- Step 4: wait printing station
  let station ← transport.waitPrinting printingAttempts
  let _ ← okOrElse station
    (.invalidResponse "timeout waiting for printing station")
  -- Step 5: transfer the blocks
  transport.transferBlocks speed blocks.length 0 blocks
  -- Step 6: wait completion
  let complete ← transport.waitCompletion completionPolls
  if complete.isNone then
    transport.completionTimeout

/-! ### Which statuses end a wait -/

theorem readyVerdict_accept_iff (s : PrinterStatus) :
    readyVerdict s = .accept ↔
      s.deviceBusy = false ∧ s.printing = false := by
  cases busy : s.deviceBusy <;> cases printing : s.printing <;>
    simp [readyVerdict, busy, printing]

theorem printingVerdict_accept_iff (s : PrinterStatus) :
    printingVerdict s = .accept ↔
      s.hasError = false ∧ s.printing = true := by
  cases error : s.hasError <;> cases printing : s.printing <;>
    simp [printingVerdict, error, printing]

theorem bufferVerdict_accept_iff (s : PrinterStatus) :
    bufferVerdict s = .accept ↔
      s.hasError = false ∧ s.bufFull = false := by
  cases error : s.hasError <;> cases full : s.bufFull <;>
    simp [bufferVerdict, error, full]

theorem completionVerdict_accept_iff (s : PrinterStatus) :
    completionVerdict s = .accept ↔
      s.hasError = false ∧ s.printing = false ∧ s.deviceBusy = false ∧
        s.bufFull = false := by
  cases error : s.hasError <;> cases printing : s.printing <;>
    cases busy : s.deviceBusy <;> cases full : s.bufFull <;>
    simp [completionVerdict, error, printing, busy, full]

/-! ### What the operations exchange -/

def inquiry : TransportCall :=
  .sendCmd cmdInquirySta 0#16

variable {transport}
variable {allowed : WireHistory → TransportCall → Prop}

theorem okOrElse_ensures {α : Type} {value : Option α} {error : ProtoError}
    {history : WireHistory} {post : α → WireHistory → Prop}
    (holds : ∀ result, value = some result → post result history) :
    Session.Ensures allowed (okOrElse value error) history
      (Session.IfOk post) := by
  cases value with
  | none => exact Session.ensures_throw_ifOk
  | some result => exact Session.ensures_pure (holds result rfl)

theorem failIf_ensures {condition : Bool} {error : ProtoError}
    {history : WireHistory} {post : Unit → WireHistory → Prop}
    (holds : condition = false → post () history) :
    Session.Ensures allowed (failIf condition error) history
      (Session.IfOk post) := by
  cases condition with
  | false => exact Session.ensures_pure (holds rfl)
  | true => exact Session.ensures_throw_ifOk

theorem transportCall_ensures {request : TransportCall}
    {history : WireHistory} (permitted : allowed history request) :
    Session.Ensures allowed (transportCall request) history
      (Session.IfOk fun resp later =>
        later = history ++ [(request, .ok resp)]) :=
  Session.ensures_ask_ifOk permitted fun _ => rfl

theorem checkDevice_ensures {history : WireHistory}
    (permitted : allowed history (.sendCmd cmdCheckDevice 0#16)) :
    Session.Ensures allowed transport.checkDevice history
      (Session.IfOk fun present later => ∃ resp : Option Bytes,
        later = history ++ [(.sendCmd cmdCheckDevice 0#16, .ok resp)] ∧
          present = resp.any
            (transport.validateResponse · cmdCheckDevice)) :=
  Session.ensures_bind_ifOk _ (transportCall_ensures permitted)
    fun resp _ exchanged => Session.ensures_pure ⟨resp, exchanged, rfl⟩

/-- The calls that move one block. -/
def blockCalls (speed : U16) (block : Bytes) : List TransportCall :=
  let compressedLen := BitVec.ofNat 16 block.length
  [.sendBulkHeader compressedLen (packetCount block.length),
    .sendBulkData block false,
    .sendCmdTwo cmdBufFull compressedLen speed]

/-- A transfer that succeeds has made the calls of its block, each accepted. -/
theorem transferCompressed_ensures {block : Bytes} {speed : U16}
    {history : WireHistory} {header data bufFull : TransportCall}
    (calls : blockCalls speed block = [header, data, bufFull])
    (headerPermitted : allowed history header)
    (dataPermitted : ∀ headerResp,
      allowed (history ++ [(header, .ok headerResp)]) data)
    (bufFullPermitted : ∀ headerResp dataResp,
      allowed (history ++ [(header, .ok headerResp)] ++
        [(data, .ok dataResp)]) bufFull) :
    Session.Ensures allowed (transferCompressed block speed) history
      (Session.IfOk fun _ later => ∃ headerResp dataResp fullResp,
        later = history ++ [(header, .ok headerResp)] ++
          [(data, .ok dataResp)] ++ [(bufFull, .ok fullResp)]) := by
  obtain ⟨rfl, rfl, rfl⟩ : _ ∧ _ ∧ _ := by simpa [blockCalls] using calls
  unfold transferCompressed
  apply Session.ensures_bind_ifOk _ (transportCall_ensures headerPermitted)
  rintro headerResp later rfl
  refine Session.ensures_bind_ifOk
    (fun _ later => later = history ++ [(_, .ok headerResp)])
    (failIf_ensures fun _ => rfl) ?_
  rintro _ later rfl
  apply Session.ensures_bind_ifOk _
    (transportCall_ensures (dataPermitted headerResp))
  rintro dataResp later rfl
  apply Session.ensures_bind_ifOk _
    (transportCall_ensures (bufFullPermitted headerResp dataResp))
  rintro fullResp later rfl
  exact Session.ensures_pure ⟨headerResp, dataResp, fullResp, rfl⟩

theorem queryStatus_ensures {history : WireHistory}
    (permitted : allowed history inquiry) :
    Session.Ensures allowed transport.queryStatus history
      fun outcome later => ∃ reply, later = history ++ [(inquiry, reply)] ∧
        outcome = reply.map (·.bind transport.parseStatusResponse) := by
  refine Session.ensures_bind
    (fun outcome later => later = history ++ [(inquiry, outcome)])
    (Session.ensures_ask permitted fun reply => rfl) ?_ ?_
  · rintro error later rfl
    exact ⟨.error error, rfl, rfl⟩
  · rintro resp later rfl
    exact ⟨.ok resp, rfl, rfl⟩

theorem run_queryStatus (transport : Transport) (device : PrinterDevice)
    (history : WireHistory) :
    Script.run device transport.queryStatus.run history =
      ((device history inquiry).map (·.bind transport.parseStatusResponse),
        history ++ [(inquiry, device history inquiry)]) := by
  unfold queryStatus transportCall inquiry
  rw [Session.run_bind, Session.run_ask]
  cases device history (.sendCmd cmdInquirySta 0#16) <;> rfl

/-- How polling can end, when `inv` holds before every query. -/
inductive PollOutcome (transport : Transport) (inv : WireHistory → Prop)
    (judge : PrinterStatus → PollVerdict) :
    Except ProtoError (Option PrinterStatus) → WireHistory → Prop
  | exhausted {history : WireHistory} (holds : inv history) :
      PollOutcome transport inv judge (.ok none) history
  | accepted {before : WireHistory} {resp : Bytes} {status : PrinterStatus}
      (holds : inv before)
      (parsed : transport.parseStatusResponse resp = some status)
      (verdict : judge status = .accept) :
      PollOutcome transport inv judge (.ok (some status))
        (before ++ [(inquiry, .ok (some resp))])
  | failed {before : WireHistory} {resp : Bytes} {status : PrinterStatus}
      {error : ProtoError} (holds : inv before)
      (parsed : transport.parseStatusResponse resp = some status)
      (verdict : judge status = .fail error) :
      PollOutcome transport inv judge (.error error)
        (before ++ [(inquiry, .ok (some resp))])
  | broken {before : WireHistory} {error : ProtoError} (holds : inv before) :
      PollOutcome transport inv judge (.error error)
        (before ++ [(inquiry, .error error)])

/-- Polling keeps what every answered query keeps. -/
theorem pollStatus_ensures (inv : WireHistory → Prop)
    (permitted : ∀ history, inv history → allowed history inquiry)
    (kept : ∀ history resp, inv history →
      inv (history ++ [(inquiry, .ok resp)]))
    (judge : PrinterStatus → PollVerdict) (attempts : Nat)
    {history : WireHistory} (holds : inv history) :
    Session.Ensures allowed (transport.pollStatus judge attempts) history
      (PollOutcome transport inv judge) := by
  induction attempts generalizing history with
  | zero => exact Session.ensures_pure (.exhausted holds)
  | succ attempts ih =>
      refine Session.ensures_bind _ (queryStatus_ensures (permitted _ holds))
        ?_ ?_
      · rintro error later ⟨reply | resp, rfl, same⟩
        · cases same
          exact .broken holds
        · cases same
      · rintro st later ⟨error | resp, rfl, same⟩
        · cases same
        · obtain rfl : st = resp.bind transport.parseStatusResponse := by
            simpa [Except.map] using same
          have again := ih (kept _ resp holds)
          cases parsed : resp.bind transport.parseStatusResponse with
          | none => exact again
          | some status =>
              obtain ⟨bytes, rfl, parsedBytes⟩ :=
                Option.bind_eq_some_iff.mp parsed
              simp only [Option.map_some]
              cases verdict : judge status with
              | fail error =>
                  exact Session.ensures_throw
                    (.failed holds parsedBytes verdict)
              | accept =>
                  exact Session.ensures_pure
                    (.accepted holds parsedBytes verdict)
              | again => exact again

end Transport

end SupvanCups
