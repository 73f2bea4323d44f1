import SupvanCups.Transport

/-!
# The links under the transports

A serial pipe takes framed commands and framed data.  A USB device takes and
returns 64-byte reports.  Each transport call becomes a session on its link, so
a printer operation can be carried out over either.
-/

namespace SupvanCups

/-! ### Serial pipes -/

inductive SppPipeCall
  | sendCmdFrame (frame : Frame 16)
  | sendDataFrame (frame : Frame 512) (readResponse : Bool)

def SppPipeCall.frame : SppPipeCall → Bytes
  | sendCmdFrame frame => frame.val
  | sendDataFrame frame _ => frame.val

abbrev SppSession (α : Type) := Session SppPipeCall TransportReply ProtoError α

def sppBlockSize : U16 := 512#16

/-- Send data frames.  Links that acknowledge are read after every frame, after
the last one only on request. -/
def sendDataFrames (acked readFinalResponse : Bool) :
    List (Frame 512) → SppSession (Option Bytes)
  | [] => pure none
  | frame :: frames => do
      let isLast := frames.isEmpty
      let wantResp := acked && (!isLast || readFinalResponse)
      let resp ← Session.ask (.sendDataFrame frame wantResp)
      if isLast then pure resp
      else sendDataFrames acked readFinalResponse frames

def sppSend (acksDataFrames : Bool) : TransportCall → SppSession (Option Bytes)
  | .sendCmd cmd param => Session.ask (.sendCmdFrame (makeCmd cmd param))
  | .sendCmdTwo cmd param1 param2 =>
      Session.ask (.sendCmdFrame (makeCmdStartTrans cmd param1 param2))
  | .sendBulkHeader _ numPackets =>
      Session.ask (.sendCmdFrame (makeCmdStartTrans cmdNextZippedbulk
        sppBlockSize (BitVec.ofNat 16 numPackets)))
  | .sendBulkData data readFinalResponse =>
      sendDataFrames acksDataFrames readFinalResponse (buildDataFrames data)

def overSpp {α : Type} (acksDataFrames : Bool) (operation : Operation α) :
    SppSession α :=
  operation.interpret fun request => (sppSend acksDataFrames request).run

/-! ### USB reports -/

def hidReportSize : Nat := 64

/-- The calls of a hidraw device.  The value that a write returns is not
used. -/
inductive HidrawCall
  | writeReport (report : Frame 64)
  | readReport

abbrev HidrawSession (α : Type) :=
  Session HidrawCall TransportReply ProtoError α

def usbMagic1 : U8 := 0xC0#8
def usbMagic2 : U8 := 0x40#8

/-- An 8-byte command with one big-endian parameter. -/
def makeUsbCmd (cmd : U8) (param : U16) : Bytes :=
  [usbMagic1, usbMagic2] ++ toBeBytes param ++ [cmd, 0x00#8, 0x08#8, 0x00#8]

/-- A 10-byte command with two big-endian parameters. -/
def makeUsbCmdTwo (cmd : U8) (param1 param2 : U16) : Bytes :=
  makeUsbCmd cmd param1 ++ toBeBytes param2

/-- Write one report, filled up with zeros. -/
def writeReport (data : Bytes) : HidrawSession (Option Bytes) :=
  Session.ask (.writeReport ⟨padTo hidReportSize data, padTo_length _ _⟩)

def sendAndRecv (data : Bytes) : HidrawSession (Option Bytes) := do
  let _ ← writeReport data
  Session.ask .readReport

/-- Send pieces as reports, reading a response after the last on request. -/
def sendReports (readFinalResponse : Bool) :
    List Bytes → HidrawSession (Option Bytes)
  | [] => pure none
  | chunk :: chunks =>
      if chunks.isEmpty && readFinalResponse then
        sendAndRecv chunk
      else do
        let _ ← writeReport chunk
        sendReports readFinalResponse chunks

def usbSend : TransportCall → HidrawSession (Option Bytes)
  | .sendCmd cmd param => sendAndRecv (makeUsbCmd cmd param)
  | .sendCmdTwo cmd param1 param2 =>
      sendAndRecv (makeUsbCmdTwo cmd param1 param2)
  | .sendBulkHeader compressedLen _ =>
      sendAndRecv (makeUsbCmd cmdNextZippedbulk compressedLen)
  | .sendBulkData data readFinalResponse =>
      sendReports readFinalResponse (chunks data hidReportSize)

def overUsb {α : Type} (operation : Operation α) : HidrawSession α :=
  operation.interpret fun request => (usbSend request).run

/-! ### What reaches the wire -/

def sppFrames (history : History SppPipeCall TransportReply) : List Bytes :=
  history.map fun event => event.1.frame

/-- The report that a call puts on the wire, if it writes one. -/
def HidrawCall.report? : HidrawCall → Option Bytes
  | writeReport report => some report.val
  | readReport => none

def usbReports (history : History HidrawCall TransportReply) : List Bytes :=
  history.filterMap fun event => event.1.report?

/-- The frames that carry a transport call over a serial pipe. -/
def callFrames : TransportCall → List Bytes
  | .sendCmd cmd param => [(makeCmd cmd param).val]
  | .sendCmdTwo cmd param1 param2 =>
      [(makeCmdStartTrans cmd param1 param2).val]
  | .sendBulkHeader _ numPackets =>
      [(makeCmdStartTrans cmdNextZippedbulk sppBlockSize
        (BitVec.ofNat 16 numPackets)).val]
  | .sendBulkData data _ => (buildDataFrames data).map Subtype.val

/-- The reports that carry a transport call over USB. -/
def callReports : TransportCall → List Bytes
  | .sendCmd cmd param => [padTo hidReportSize (makeUsbCmd cmd param)]
  | .sendCmdTwo cmd param1 param2 =>
      [padTo hidReportSize (makeUsbCmdTwo cmd param1 param2)]
  | .sendBulkHeader compressedLen _ =>
      [padTo hidReportSize (makeUsbCmd cmdNextZippedbulk compressedLen)]
  | .sendBulkData data _ =>
      (chunks data hidReportSize).map (padTo hidReportSize)

section Carrying

variable {Low : Type} {wire : History Low TransportReply → List Bytes}

/-- What is on the wire is what the accepted transport calls amount to. -/
def OnTheWire (wire : History Low TransportReply → List Bytes)
    (frames : TransportCall → List Bytes) (high : WireHistory)
    (low : History Low TransportReply) : Prop :=
  (∀ event ∈ high, ∃ resp, event.2 = .ok resp) →
    wire low = high.flatMap fun event => frames event.1

/-- A link on which every accepted call adds its frames carries whole
operations. -/
theorem onTheWire_of_adds {send : TransportCall → Session Low TransportReply
      ProtoError (Option Bytes)}
    {frames : TransportCall → List Bytes}
    (adds : ∀ request low, Session.Ensures (fun _ _ => True) (send request) low
      (Session.IfOk fun _ later => wire later = wire low ++ frames request))
    (empty : wire [] = []) {α : Type} {operation : Operation α}
    {post : α → WireHistory → Prop}
    (ensures : Session.Ensures (fun _ _ => True) operation []
      (Session.IfOk post)) :
    Session.Ensures (fun _ _ => True)
      (operation.interpret fun request => (send request).run) []
      (Session.IfOk fun result later => ∃ high, post result high ∧
        OnTheWire wire frames high later) := by
  refine (Script.Ensures.interpret (OnTheWire wire frames)
    ?_ (fun _ => by simp [empty]) ensures).consequence ?_
  · intro high low request related _
    apply (adds request low).consequence
    intro reply later added accepted
    obtain ⟨resp, rfl⟩ : ∃ resp, reply = .ok resp :=
      accepted (request, reply) (by simp)
    have earlier : wire low = high.flatMap fun event => frames event.1 :=
      related fun event member => accepted event (List.mem_append_left _ member)
    have grown : wire later = wire low ++ frames request := added
    simp [grown, earlier]
  · rintro outcome later ⟨high, onWire, holds⟩
    cases outcome with
    | error error => trivial
    | ok result => exact ⟨high, holds, onWire⟩

end Carrying

theorem sendDataFrames_adds (acked readFinalResponse : Bool)
    (frames : List (Frame 512)) (low : History SppPipeCall TransportReply) :
    Session.Ensures (fun _ _ => True)
      (sendDataFrames acked readFinalResponse frames) low
      (Session.IfOk fun _ later =>
        sppFrames later = sppFrames low ++ frames.map Subtype.val) := by
  induction frames generalizing low with
  | nil => exact Session.ensures_pure (by simp)
  | cons frame frames ih =>
      unfold sendDataFrames
      apply Session.ensures_bind_ifOk
        (fun _ later => sppFrames later = sppFrames low ++ [frame.val])
        (Session.ensures_ask_ifOk trivial fun _ => by
          simp [sppFrames, SppPipeCall.frame])
      intro resp later added
      cases frames with
      | nil => exact Session.ensures_pure (by simpa using added)
      | cons next frames =>
          apply (ih later).weakenOk
          intro _ last grown
          simp [grown, added]

theorem sppSend_adds (acksDataFrames : Bool) (request : TransportCall)
    (low : History SppPipeCall TransportReply) :
    Session.Ensures (fun _ _ => True) (sppSend acksDataFrames request) low
      (Session.IfOk fun _ later =>
        sppFrames later = sppFrames low ++ callFrames request) := by
  cases request with
  | sendBulkData data readFinalResponse =>
      exact sendDataFrames_adds acksDataFrames readFinalResponse _ low
  | sendCmd cmd param
  | sendCmdTwo cmd param1 param2
  | sendBulkHeader compressedLen numPackets =>
      exact Session.ensures_ask_ifOk trivial fun _ => by
        simp [sppFrames, SppPipeCall.frame, callFrames]

theorem writeReport_adds (data : Bytes)
    (low : History HidrawCall TransportReply) :
    Session.Ensures (fun _ _ => True) (writeReport data) low
      (Session.IfOk fun _ later =>
        usbReports later = usbReports low ++ [padTo hidReportSize data]) :=
  Session.ensures_ask_ifOk trivial fun _ => by
    simp [usbReports, HidrawCall.report?]

theorem sendAndRecv_adds (data : Bytes)
    (low : History HidrawCall TransportReply) :
    Session.Ensures (fun _ _ => True) (sendAndRecv data) low
      (Session.IfOk fun _ later =>
        usbReports later = usbReports low ++ [padTo hidReportSize data]) :=
  Session.ensures_bind_ifOk _ (writeReport_adds data low)
    fun _ later added => Session.ensures_ask_ifOk trivial fun _ => by
      simpa [usbReports, HidrawCall.report?] using added

theorem sendReports_adds (readFinalResponse : Bool) (pieces : List Bytes)
    (low : History HidrawCall TransportReply) :
    Session.Ensures (fun _ _ => True) (sendReports readFinalResponse pieces) low
      (Session.IfOk fun _ later => usbReports later =
        usbReports low ++ pieces.map (padTo hidReportSize)) := by
  induction pieces generalizing low with
  | nil => exact Session.ensures_pure (by simp)
  | cons piece pieces ih =>
      unfold sendReports
      split
      · rename_i last
        obtain rfl : pieces = [] := by simp_all
        exact sendAndRecv_adds piece low
      · apply Session.ensures_bind_ifOk _ (writeReport_adds piece low)
        intro resp later added
        apply (ih later).weakenOk
        intro _ last grown
        simp [grown, added]

theorem usbSend_adds (request : TransportCall)
    (low : History HidrawCall TransportReply) :
    Session.Ensures (fun _ _ => True) (usbSend request) low
      (Session.IfOk fun _ later =>
        usbReports later = usbReports low ++ callReports request) := by
  cases request with
  | sendBulkData data readFinalResponse =>
      exact sendReports_adds readFinalResponse _ low
  | sendCmd cmd param
  | sendCmdTwo cmd param1 param2
  | sendBulkHeader compressedLen numPackets =>
      exact sendAndRecv_adds _ low

end SupvanCups
