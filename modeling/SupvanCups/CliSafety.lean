import SupvanCups.CliCommands
import SupvanCups.StreamWriters

/-!
# What the commands send

No command sends an opcode that `probe-reads` would refuse, other than the ones
it is for, whatever the printer answers.  The two probing commands follow a
fixed list of calls.  `probe-reads` stops at the first status that reports an
error.
-/

namespace SupvanCups

/-! ### Opcodes of a call -/

/-- The opcode a call sends; bulk data has none. -/
def TransportCall.opcode : TransportCall → Option U8
  | .sendCmd cmd _ => some cmd
  | .sendCmdTwo cmd _ _ => some cmd
  | .sendBulkHeader _ _ => some cmdNextZippedbulk
  | .sendBulkData _ _ => none

namespace CliCommand

/-- The opcodes a command is for, of those that `probe-reads` would refuse.
`probe` reads the firmware version, whose opcode lies in the firmware range. -/
def purpose : CliCommand → List U8
  | probe => [cmdReadFwver]
  | material => []
  | testPrint _ _ => [cmdStartPrint]
  | feed => [cmdPaperSkip]
  | provision _ _ _ _ _ => [cmdSetRfidData]
  | heatSweep _ _ _ => [cmdSetRfidData, cmdStartPrint]
  | twoColor _ _ _ _ => [cmdStartPrint]
  | grayRamp _ _ _ _ _ _ => [cmdStartPrint]
  | probeReads _ => []
  | paperBack _ => [cmdPaperBack]

end CliCommand

/-- The opcode is safe to probe or one of the given ones; bulk data needs one
that announces it. -/
def SentFor (purpose : List U8) (request : TransportCall) : Prop :=
  match request.opcode with
  | some op => isProbeSafe op = true ∨ op ∈ purpose
  | none => cmdStartPrint ∈ purpose ∨ cmdSetRfidData ∈ purpose

section Only

variable {purpose : List U8} {α : Type}

theorem only_ofOperation (permitted : TransportCall → Prop)
    {operation : Operation α} (failFast : Session.FailFast permitted operation)
    (permits : ∀ request, permitted request → SentFor purpose request) :
    Session.Only (SentFor purpose) (CliSession.ofOperation operation) :=
  (failFast.imp permits).only.mapError _

theorem sentFor_sendCmd {cmd : U8} (param : U16)
    (safe : isProbeSafe cmd = true ∨ cmd ∈ purpose) (request : TransportCall)
    (same : .sendCmd cmd param = request) : SentFor purpose request := by
  subst same
  exact safe

/-- One command whose reply is made into something. -/
theorem only_query {cmd : U8} (param : U16)
    (safe : isProbeSafe cmd = true ∨ cmd ∈ purpose)
    (result : Option Bytes → α) :
    Session.Only (SentFor purpose) (CliSession.ofOperation (do
      let resp ← transportCall (.sendCmd cmd param)
      return result resp)) := by
  have sends : Session.FailFast (Eq (.sendCmd cmd param)) (do
      let resp ← transportCall (.sendCmd cmd param)
      return result resp) := failFast_query rfl result
  exact only_ofOperation _ sends (sentFor_sendCmd param safe)

theorem only_probeRaw {cmd : U8} (param : U16)
    (safe : isProbeSafe cmd = true ∨ cmd ∈ purpose) :
    Session.Only (SentFor purpose)
      (CliSession.ofOperation (Transport.probeRaw cmd param)) := by
  have sends : Session.FailFast (Eq (.sendCmd cmd param))
      (Transport.probeRaw cmd param) := failFast_transportCall rfl
  exact only_ofOperation _ sends (sentFor_sendCmd param safe)

namespace CliTools

variable (tools : CliTools)

theorem only_queryStatus : Session.Only (SentFor purpose)
    (CliSession.ofOperation tools.transport.queryStatus) :=
  only_query 0#16 (.inl (by decide)) _

theorem only_queryMaterial : Session.Only (SentFor purpose)
    (CliSession.ofOperation tools.transport.queryMaterial) :=
  only_query 0#16 (.inl (by decide)) _

theorem only_checkDevice : Session.Only (SentFor purpose)
    (CliSession.ofOperation tools.transport.checkDevice) :=
  only_query 0#16 (.inl (by decide)) _

/-- A page needs `START_PRINT` and nothing else that is denied. -/
theorem only_printPage (prints : cmdStartPrint ∈ purpose)
    (page : Option (Except ProtoError ReadyPage)) :
    Session.Only (SentFor purpose) (tools.printPage page) := by
  rcases page with _ | error | page
  · exact Session.only_throw _
  · exact Session.only_throw _
  · refine only_ofOperation _
      (tools.transport.failFast_printCompressed page.blocks page.speed) ?_
    rintro request (⟨cmd, listed, rfl⟩ | ⟨block, -, isCall⟩)
    · simp only [List.mem_cons, List.not_mem_nil, or_false] at listed
      rcases listed with rfl | rfl | rfl | rfl
      · exact .inl (by decide)
      · exact .inl (by decide)
      · exact .inr prints
      · exact .inl (by decide)
    · simp only [Transport.blockCalls, List.mem_cons, List.not_mem_nil,
        or_false] at isCall
      rcases isCall with rfl | rfl | rfl
      · exact .inl (by decide)
      · exact .inl prints
      · exact .inl (by decide)

theorem sentFor_of_isProvisionCall (writes : cmdSetRfidData ∈ purpose)
    {record : Bytes} {request : TransportCall}
    (isCall : IsProvisionCall record request) : SentFor purpose request := by
  rcases isCall with rfl | rfl | ⟨cmd, listed, rfl⟩
  · exact .inr writes
  · exact .inr writes
  · obtain rfl := List.mem_singleton.mp listed
    exact .inl (by decide)

/-- A record needs `SET_RFID_DATA` and nothing else that is denied. -/
theorem only_of_provisionCalls (writes : cmdSetRfidData ∈ purpose)
    {record : Bytes} {operation : Operation α}
    (calls : Session.FailFast (IsProvisionCall record) operation) :
    Session.Only (SentFor purpose) operation :=
  (calls.imp fun _ isCall => sentFor_of_isProvisionCall writes isCall).only

theorem only_provision (writes : cmdSetRfidData ∈ purpose)
    (mat : RfidMaterial) :
    Session.Only (SentFor purpose) (tools.provision mat) :=
  (only_of_provisionCalls writes
    (tools.transport.failFast_provisionMaterial mat)).attempt

theorem only_sweepStrips (writes : cmdSetRfidData ∈ purpose)
    (prints : cmdStartPrint ∈ purpose) (label : LabelArgs)
    (densities : List Density) (heats : List (U16 × U16)) :
    Session.Only (SentFor purpose)
      (tools.sweepStrips label densities heats) := by
  induction heats with
  | nil => exact Session.only_pure ()
  | cons heat heats ih =>
      have record := tools.only_provision writes
        (buildMaterial label heat 480#32 1#8 30000#16)
      have strip := tools.only_printPage prints
        (tools.swatchReady label densities)
      exact record.bind fun _ => strip.bind fun _ => ih

theorem only_cmdProvision (writes : cmdSetRfidData ∈ purpose)
    (label : LabelArgs) (heat : Option (U16 × U16)) (count : U32)
    (matType : U8) (code : U16) :
    Session.Only (SentFor purpose)
      (tools.cmdProvision label heat count matType code) := by
  unfold cmdProvision
  exact tools.only_provision writes _

theorem only_calibrate {ops : List U8}
    (safe : ∀ op ∈ ops, isProbeSafe op = true) (baseline : Option Bytes) :
    Session.Only (SentFor purpose) (calibrate ops baseline) := by
  induction ops generalizing baseline with
  | nil => exact Session.only_pure baseline
  | cons op ops ih =>
      obtain ⟨here, rest⟩ := List.forall_mem_cons.mp safe
      exact (only_probeRaw 0#16 (.inl here)).bind fun _ => ih rest _

theorem only_probeEach {ops : List U8}
    (safe : ∀ op ∈ ops, isProbeSafe op = true) (baseline : Bytes)
    (implemented : List U8) :
    Session.Only (SentFor purpose)
      (tools.probeEach baseline ops implemented) := by
  induction ops generalizing implemented with
  | nil => exact Session.only_pure implemented
  | cons op ops ih =>
      obtain ⟨here, rest⟩ := List.forall_mem_cons.mp safe
      refine (only_probeRaw 0#16 (.inl here)).bind fun resp => ?_
      refine tools.only_queryStatus.bind fun status => ?_
      cases status.bind PrinterStatus.errorDescription with
      | some errs => exact Session.only_throw _
      | none => exact ih rest _

/-- Whatever opcodes are asked for besides, all that is probed is safe. -/
theorem probeReads_safe (also : List SafeOpcode) :
    ∀ op ∈ probeReadOpcodes ++ also.map Subtype.val,
      isProbeSafe op = true := by
  intro op member
  rcases List.mem_append.mp member with listed | asked
  · have table : ∀ op ∈ probeReadOpcodes, isProbeSafe op = true := by decide
    exact table op listed
  · obtain ⟨safe, -, rfl⟩ := List.mem_map.mp asked
    exact safe.property

theorem only_cmdProbeReads (also : List SafeOpcode) :
    Session.Only (SentFor purpose) (tools.cmdProbeReads also) := by
  refine (only_probeRaw 0#16 (.inl (by decide))).bind fun control => ?_
  cases control with
  | none => exact Session.only_throw _
  | some reply =>
      refine Session.Only.bind (only_calibrate (by decide) none) fun found => ?_
      cases found with
      | none => exact Session.only_throw _
      | some baseline => exact tools.only_probeEach (probeReads_safe also) _ _

theorem only_cmdPaperBack (feeds : SupvanCups.cmdPaperBack ∈ purpose)
    (param : U16) :
    Session.Only (SentFor purpose) (tools.cmdPaperBack param) := by
  refine (only_probeRaw 0#16 (.inl (by decide))).bind fun found => ?_
  cases found with
  | none => exact Session.only_throw _
  | some baseline =>
      refine tools.only_queryStatus.bind fun _ => ?_
      refine (only_probeRaw param (.inr feeds)).bind fun resp => ?_
      exact tools.only_queryStatus.bind fun _ => Session.only_pure _

theorem only_cmdProbe (reads : cmdReadFwver ∈ purpose) :
    Session.Only (SentFor purpose) tools.cmdProbe := by
  refine tools.only_checkDevice.bind fun present => ?_
  cases present with
  | false => exact Session.only_throw _
  | true =>
      refine tools.only_queryStatus.bind fun _ => ?_
      refine (only_query 0#16 (.inl (by decide)) _).bind fun _ => ?_
      refine (only_query 0#16 (.inr reads) _).bind fun _ => ?_
      refine (only_query 0#16 (.inl (by decide)) _).bind fun _ => ?_
      exact tools.only_queryMaterial.bind fun _ => Session.only_pure ()

theorem only_cmdMaterial :
    Session.Only (SentFor purpose) tools.cmdMaterial := by
  refine tools.only_checkDevice.bind fun present => ?_
  cases present with
  | false => exact Session.only_throw _
  | true =>
      refine tools.only_queryMaterial.bind fun mat => ?_
      cases mat with
      | none => exact Session.only_throw _
      | some mat => exact Session.only_pure mat

theorem only_cmdFeed (feeds : cmdPaperSkip ∈ purpose) :
    Session.Only (SentFor purpose) tools.cmdFeed := by
  have sends : Session.FailFast (Eq (.sendCmd cmdPaperSkip 0#16))
      tools.transport.paperSkip :=
    Session.FailFast.bind (failFast_transportCall rfl) fun _ =>
      failFast_failIf _ _
  exact only_ofOperation _ sends (sentFor_sendCmd 0#16 (.inr feeds))

end CliTools

/-- A command sends what it is for. -/
theorem only_run (F : Type) [DitherFloat F] [DecidableLT F] (tools : CliTools)
    (command : CliCommand) :
    Session.Only (SentFor command.purpose) (command.run F tools) := by
  have done : Session.Only (SentFor command.purpose)
      (pure () : CliSession Unit) := Session.only_pure ()
  cases command with
  | probe => exact tools.only_cmdProbe (by decide)
  | material => exact tools.only_cmdMaterial.bind fun _ => done
  | testPrint density savePaper =>
      exact tools.only_queryMaterial.bind fun _ =>
        tools.only_printPage (by simp [CliCommand.purpose]) _
  | feed => exact tools.only_cmdFeed (by decide)
  | provision label heat count code matType =>
      exact tools.only_cmdProvision (by simp [CliCommand.purpose]) label heat
        count matType code
  | heatSweep label heats densities =>
      exact tools.only_sweepStrips (by simp [CliCommand.purpose])
        (by simp [CliCommand.purpose]) _ _ _
  | twoColor width length density pattern =>
      exact tools.only_printPage (by simp [CliCommand.purpose]) _
  | grayRamp width length dither steps density vertical =>
      exact tools.only_printPage (by simp [CliCommand.purpose]) _
  | probeReads also => exact (tools.only_cmdProbeReads also).bind fun _ => done
  | paperBack param =>
      exact (tools.only_cmdPaperBack (by simp [CliCommand.purpose]) _).bind
        fun _ => done

end Only

/-- Whatever the printer answers, an opcode that is not safe to probe goes out
only from a command that is for it, and bulk data only from commands that print
or write a record. -/
theorem run_sendsForPurpose (F : Type) [DitherFloat F] [DecidableLT F]
    (tools : CliTools) (command : CliCommand) (device : PrinterDevice) :
    ∀ event ∈ (Session.runOn device (command.run F tools)).2,
      SentFor command.purpose event.1 := by
  intro event member
  rcases (only_run F tools command).script.run device [] event member with
    nothing | sent
  · cases nothing
  · exact sent

def silentTools : CliTools where
  transport := sppCodec
  names := sppNames
  encoder := storingEncoder
  luma r _ _ := r

/-- A feed that is not acknowledged has still sent its one command. -/
theorem run_sendsForPurpose_feed :
    ∃ event ∈ (Session.runOn (fun _ _ => .ok none)
        (CliCommand.feed.run Rat silentTools)).2,
      event.1 = .sendCmd cmdPaperSkip 0#16 ∧
        SentFor CliCommand.feed.purpose event.1 :=
  have sent : (.sendCmd cmdPaperSkip 0#16, .ok none) ∈
      (Session.runOn (fun _ _ => .ok none)
        (CliCommand.feed.run Rat silentTools)).2 := .head _
  ⟨_, sent, rfl, run_sendsForPurpose Rat silentTools .feed _ _ sent⟩

/-! ### A run of `probe-reads` -/

/-- An opcode that was probed, the reply to it, and the reply to the status
query after it. -/
structure Probe where
  op : U8
  reply : Option Bytes
  status : Option Bytes

namespace Probe

def events (probe : Probe) : WireHistory :=
  [(.sendCmd probe.op 0#16, .ok probe.reply),
    (Transport.inquiry, .ok probe.status)]

/-- What the status reports, if it reports an error. -/
def fault (transport : Transport) (probe : Probe) : Option String :=
  (probe.status.bind transport.parseStatusResponse).bind
    PrinterStatus.errorDescription

def differs (baseline : Bytes) (probe : Probe) : Bool :=
  probe.reply.any fun r => replyHead r != baseline

end Probe

/-- How the last probe of a run that fails ends. -/
inductive LastProbe (transport : Transport) (op : U8) :
    WireHistory → CliError → Prop
  | unsent (error : ProtoError) :
      LastProbe transport op [(.sendCmd op 0#16, .error error)] (.proto error)
  | noStatus (reply : Option Bytes) (error : ProtoError) :
      LastProbe transport op [(.sendCmd op 0#16, .ok reply),
        (Transport.inquiry, .error error)] (.proto error)
  | faulty (probe : Probe) (errs : String) (same : probe.op = op)
      (reports : probe.fault transport = some errs) :
      LastProbe transport op probe.events (CliTools.abortingAfter op errs)

/-- The opcodes were probed in order while no status reported an error: all of
them, or those before the one that ended the run. -/
structure Probed (transport : Transport) (baseline : Bytes)
    (ops found : List U8) (start : WireHistory)
    (outcome : Except CliError (List U8) × WireHistory)
    (probes : List Probe) (last : WireHistory) : Prop where
  exchanged : outcome.2 = start ++ probes.flatMap Probe.events ++ last
  clear : ∀ probe ∈ probes, probe.fault transport = none
  inOrder : probes.map Probe.op <+: ops
  all : ∀ implemented, outcome.1 = .ok implemented → last = [] ∧
    probes.map Probe.op = ops ∧ implemented =
      found ++ (probes.filter (Probe.differs baseline)).map Probe.op
  stopped : ∀ error, outcome.1 = .error error → ∃ op,
    probes.map Probe.op ++ [op] <+: ops ∧
    LastProbe transport op last error

section Probing

variable {tools : CliTools} {baseline : Bytes} {ops found : List U8}
  {start : WireHistory}

/-- A run that ends with the probe of the first opcode. -/
theorem Probed.stop {op : U8} {last : WireHistory} {error : CliError}
    (stopped : LastProbe tools.transport op last error) :
    Probed tools.transport baseline (op :: ops) found start
      (.error error, start ++ last) [] last where
  exchanged := by simp
  clear := by simp
  inOrder := List.nil_prefix
  all := by simp
  stopped := by
    rintro _ same
    obtain rfl := Except.error.inj same
    exact ⟨op, List.cons_prefix_cons.mpr ⟨rfl, List.nil_prefix⟩, stopped⟩

/-- A run that goes on after the probe of the first opcode. -/
theorem Probed.cons {probe : Probe} {probes : List Probe} {last : WireHistory}
    {outcome : Except CliError (List U8) × WireHistory}
    (clear : probe.fault tools.transport = none)
    (rest : Probed tools.transport baseline ops
      (found ++ if probe.differs baseline then [probe.op] else [])
      (start ++ probe.events) outcome probes last) :
    Probed tools.transport baseline (probe.op :: ops) found start outcome
      (probe :: probes) last where
  exchanged := by simp [rest.exchanged]
  clear := List.forall_mem_cons.mpr ⟨clear, rest.clear⟩
  inOrder := List.cons_prefix_cons.mpr ⟨rfl, rest.inOrder⟩
  all implemented ok := by
    obtain ⟨done, listed, same⟩ := rest.all implemented ok
    refine ⟨done, by rw [List.map_cons, listed], ?_⟩
    rw [same]
    cases differs : probe.differs baseline <;> simp [differs]
  stopped error failed := by
    obtain ⟨op, listed, stops⟩ := rest.stopped error failed
    exact ⟨op, List.cons_prefix_cons.mpr ⟨rfl, listed⟩, stops⟩

theorem run_ofOperation {α : Type} (device : PrinterDevice)
    (operation : Operation α) (history : WireHistory) :
    Script.run device (CliSession.ofOperation operation).run history =
      ((Script.run device operation.run history).1.mapError .proto,
        (Script.run device operation.run history).2) :=
  Session.run_mapError _ _ _ _

/-- One probe and what follows from its replies. -/
theorem run_probeEach_cons (tools : CliTools) (device : PrinterDevice)
    (baseline : Bytes) (op : U8) (ops found : List U8) (start : WireHistory) :
    Script.run device (tools.probeEach baseline (op :: ops) found).run start =
      match device start (.sendCmd op 0#16) with
      | .error error =>
          (.error (.proto error), start ++ [(.sendCmd op 0#16, .error error)])
      | .ok reply =>
          let sent := start ++ [(.sendCmd op 0#16, .ok reply)]
          match device sent Transport.inquiry with
          | .error error => (.error (.proto error),
              sent ++ [(Transport.inquiry, .error error)])
          | .ok status =>
              let probe : Probe := ⟨op, reply, status⟩
              match probe.fault tools.transport with
              | some errs => (.error (CliTools.abortingAfter op errs),
                  start ++ probe.events)
              | none => Script.run device (tools.probeEach baseline ops
                  (found ++ if probe.differs baseline then [op] else [])).run
                  (start ++ probe.events) := by
  rw [CliTools.probeEach, Session.run_bind, run_ofOperation]
  simp only [Transport.probeRaw, transportCall, Session.run_ask]
  cases device start (.sendCmd op 0#16) with
  | error error => rfl
  | ok reply =>
      simp only [Except.mapError]
      rw [Session.run_bind, run_ofOperation, Transport.queryStatus,
        Session.run_bind]
      simp only [transportCall, Session.run_ask, Transport.inquiry]
      cases device _ (.sendCmd cmdInquirySta 0#16) with
      | error error => rfl
      | ok status =>
          have events : start ++ (Probe.mk op reply status).events =
              start ++ [(.sendCmd op 0#16, .ok reply)] ++
                [(Transport.inquiry, .ok status)] := by
            simp [Probe.events]
          simp only [Session.run_pure, Except.mapError, Probe.fault, events]
          cases (status.bind tools.transport.parseStatusResponse).bind
            PrinterStatus.errorDescription <;> rfl

/-- The loop of `probe-reads`, on any printer. -/
theorem probeEach_probed (tools : CliTools) (device : PrinterDevice)
    (baseline : Bytes) (ops found : List U8) (start : WireHistory) :
    ∃ probes last, Probed tools.transport baseline ops found start
      (Script.run device (tools.probeEach baseline ops found).run start)
      probes last := by
  induction ops generalizing found start with
  | nil =>
      have run : Script.run device (tools.probeEach baseline [] found).run
        start = (.ok found, start) := rfl
      rw [run]
      exact ⟨[], [], by constructor <;> simp⟩
  | cons op ops ih =>
      rw [run_probeEach_cons]
      cases device start (.sendCmd op 0#16) with
      | error error => exact ⟨[], _, .stop (.unsent error)⟩
      | ok reply =>
          dsimp only
          cases device _ Transport.inquiry with
          | error error =>
              refine ⟨[], [(.sendCmd op 0#16, .ok reply),
                (Transport.inquiry, .error error)], ?_⟩
              dsimp only
              rw [List.append_assoc]
              exact .stop (.noStatus reply error)
          | ok status =>
              dsimp only
              cases reports : (Probe.mk op reply status).fault
                tools.transport with
              | some errs => exact ⟨[], _, .stop (.faulty _ errs rfl reports)⟩
              | none =>
                  obtain ⟨probes, last, probed⟩ := ih _
                    (start ++ (Probe.mk op reply status).events)
                  exact ⟨_, last, .cons reports probed⟩

/-- The calibration, on any printer. -/
theorem calibrate_run (device : PrinterDevice) (ops : List U8)
    (baseline : Option Bytes) (start : WireHistory) :
    ∃ events,
      (Script.run device (CliTools.calibrate ops baseline).run start).2 =
        start ++ events ∧
      events.map Prod.fst <+: ops.map (.sendCmd · 0#16) ∧
      ∀ result,
        (Script.run device (CliTools.calibrate ops baseline).run start).1 =
          .ok result →
        events.map Prod.fst = ops.map (.sendCmd · 0#16) ∧
        (result = baseline ∨ ∃ event ∈ events, ∃ resp,
          event.2 = .ok (some resp) ∧ result = some (replyHead resp)) := by
  induction ops generalizing baseline start with
  | nil =>
      have run : Script.run device (CliTools.calibrate [] baseline).run start =
        (.ok baseline, start) := rfl
      rw [run]
      exact ⟨[], by simp, List.nil_prefix, by simp [eq_comm]⟩
  | cons op ops ih =>
      rw [CliTools.calibrate, Session.run_bind, run_ofOperation]
      simp only [Transport.probeRaw, transportCall, Session.run_ask]
      cases device start (.sendCmd op 0#16) with
      | error error =>
          refine ⟨[(.sendCmd op 0#16, .error error)], rfl, ?_, by
            simp [Except.mapError]⟩
          exact List.cons_prefix_cons.mpr ⟨rfl, List.nil_prefix⟩
      | ok reply =>
          simp only [Except.mapError]
          obtain ⟨events, later, inOrder, all⟩ :=
            ih (baseline <|> reply.map replyHead)
              (start ++ [(.sendCmd op 0#16, .ok reply)])
          refine ⟨(.sendCmd op 0#16, .ok reply) :: events, ?_,
            List.cons_prefix_cons.mpr ⟨rfl, inOrder⟩, fun result ok => ?_⟩
          · rw [later, List.append_assoc, List.singleton_append]
          obtain ⟨asked, known⟩ := all result ok
          refine ⟨by rw [List.map_cons, asked, List.map_cons], ?_⟩
          rcases known with rfl | ⟨event, member, resp, replied, same⟩
          · cases baseline with
            | some head => exact .inl rfl
            | none =>
                cases reply with
                | none => exact .inl rfl
                | some resp =>
                    exact .inr ⟨_, List.mem_cons_self, resp, rfl, rfl⟩
          · exact .inr ⟨event, List.mem_cons_of_mem _ member, resp, replied,
              same⟩

end Probing

/-- The opcodes `probe-reads` asks about. -/
def readList (also : List SafeOpcode) : List U8 :=
  probeReadOpcodes ++ also.map Subtype.val

/-- The control call and the calls that show what an opcode gets that is not
implemented. -/
def calibrationCalls : List TransportCall :=
  [.sendCmd cmdCheckDevice 0#16, .sendCmd 0x50#8 0#16, .sendCmd 0x51#8 0#16]

/-- A run of `probe-reads` calibrates and then probes its list in order,
looking at the status after each opcode.  It stops at the first status that
reports an error. -/
theorem cmdProbeReads_probed (tools : CliTools) (also : List SafeOpcode)
    (device : PrinterDevice) :
    let outcome := Session.runOn device (tools.cmdProbeReads also)
    (outcome.2.map Prod.fst <+: calibrationCalls ∧
      ∃ error, outcome.1 = .error error) ∨
    ∃ calibration baseline probes last,
      calibration.map Prod.fst = calibrationCalls ∧
      (∃ event ∈ calibration.tail, ∃ resp, event.2 = .ok (some resp) ∧
        baseline = replyHead resp) ∧
      Probed tools.transport baseline (readList also) [] calibration outcome
        probes last := by
  intro outcome
  have asked : outcome = Script.run device
    (tools.cmdProbeReads also).run [] := rfl
  rw [CliTools.cmdProbeReads, Session.run_bind, run_ofOperation] at asked
  simp only [Transport.probeRaw, transportCall, Session.run_ask,
    List.nil_append] at asked
  have controlFirst : [TransportCall.sendCmd cmdCheckDevice 0#16] <+:
    calibrationCalls := List.cons_prefix_cons.mpr ⟨rfl, List.nil_prefix⟩
  cases answer : device [] (.sendCmd cmdCheckDevice 0#16) with
  | error error =>
      rw [answer] at asked
      rw [asked]
      exact .inl ⟨controlFirst, _, rfl⟩
  | ok control =>
      rw [answer] at asked
      cases control with
      | none =>
          rw [asked]
          exact .inl ⟨controlFirst, _, rfl⟩
      | some reply =>
          let start : WireHistory :=
            [(.sendCmd cmdCheckDevice 0#16, .ok (some reply))]
          obtain ⟨events, calls, inOrder, known⟩ :=
            calibrate_run device unallocatedOpcodes none start
          have calibrated : outcome = Script.run device
            (CliTools.calibrate unallocatedOpcodes none >>= _).run start := asked
          rw [Session.run_bind] at calibrated
          have begun : (start ++ events).map Prod.fst =
            .sendCmd cmdCheckDevice 0#16 :: events.map Prod.fst := by
            rw [List.map_append]
            rfl
          rcases run : Script.run device
            (CliTools.calibrate unallocatedOpcodes none).run start with
            ⟨error | found, history⟩
          · rw [run] at calibrated calls
            rw [calibrated, calls, begun]
            exact .inl ⟨List.cons_prefix_cons.mpr ⟨rfl, inOrder⟩, _, rfl⟩
          rw [run] at calibrated calls known
          obtain ⟨all, heard⟩ := known found rfl
          obtain rfl : history = start ++ events := calls
          cases found with
          | none =>
              rw [calibrated]
              refine .inl ⟨?_, _, rfl⟩
              exact (begun.symm ▸ List.cons_prefix_cons.mpr ⟨rfl, inOrder⟩ :
                (start ++ events).map Prod.fst <+: calibrationCalls)
          | some baseline =>
              obtain ⟨probes, last, probed⟩ := probeEach_probed tools device
                baseline (readList also) [] (start ++ events)
              refine .inr ⟨start ++ events, baseline, probes, last, ?_, ?_, ?_⟩
              · rw [begun, all]
                rfl
              · rcases heard with absent | ⟨event, member, resp, replied, same⟩
                · cases absent
                · exact ⟨event, member, resp, replied, Option.some.inj same⟩
              · rw [calibrated]
                exact probed

end SupvanCups
