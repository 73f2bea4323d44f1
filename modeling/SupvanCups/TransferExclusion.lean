import SupvanCups.TransferDiscipline

/-!
# Status queries and page transfers

A page transfer must not be disturbed by the queries of a status poll.  A
device does not query the printer while its own `printing` flag is set, but a
poll has a device, and so a flag, of its own: the flag of a job's device never
keeps a poll out.  What does is the mutex of a shared connection, which is
held for the whole of a transfer.

Over USB every open has a connection of its own, and a query can get between
the commands of a page.  It cannot in the runs where no poll queries while the
flag of a job's device is set, save over that device's shared connection.
-/

namespace SupvanCups

/-! ### Flags -/

theorem flagOwner_concat (flag : Nat) (trace : HostTrace)
    (event : Nat × HostCall × HostReply) :
    flagOwner flag (trace ++ [event]) =
      (flagOwner flag trace).or
        (if event.2.2.namesFlag flag then some event.1 else none) := by
  unfold flagOwner
  rw [List.find?_append]
  cases trace.find? fun event => event.2.2.namesFlag flag with
  | some found => rfl
  | none =>
      by_cases names : event.2.2.namesFlag flag = true <;> simp [names]

theorem flagOwner_concat_of_owned {flag : Nat} {trace : HostTrace}
    {task : Nat} (owned : flagOwner flag trace = some task)
    (event : Nat × HostCall × HostReply) :
    flagOwner flag (trace ++ [event]) = some task := by
  rw [flagOwner_concat, owned, Option.some_or]

theorem flagValue_concat (flag : Nat) (trace : HostTrace)
    (event : Nat × HostCall × HostReply) :
    flagValue flag (trace ++ [event]) =
      match event.2 with
      | (.newDevice _, .flag f) =>
          if f = flag then false else flagValue flag trace
      | (.storePrinting f v, _) =>
          if f = flag then v else flagValue flag trace
      | _ => flagValue flag trace := by
  rw [flagValue, List.foldl_append]
  rfl

/-- The flag of a task's device was handed to that task, and it is as the task
left it. -/
structure FlagKept (trace : HostTrace) (task : Nat) (dev : KsDevice) :
    Prop where
  owner : flagOwner dev.printing trace = some task
  value : flagValue dev.printing trace =
    flagUp (Trace.ownHistory task trace)

/-- A step of another task leaves the flag of a device as it is. -/
theorem FlagKept.of_other {trace : HostTrace} {task actor : Nat}
    {dev : KsDevice} (kept : FlagKept trace task dev)
    (different : actor ≠ task) {request : HostCall} {reply : HostReply}
    (disciplined : Disciplined (Trace.ownHistory actor trace) request)
    (admitted : hostWorld trace actor request reply = true)
    (actorKept : ∀ dev ∈ liveDevice (Trace.ownHistory actor trace),
      FlagKept trace actor dev) :
    FlagKept (trace ++ [(actor, request, reply)]) task dev := by
  refine ⟨flagOwner_concat_of_owned kept.owner _, ?_⟩
  rw [Trace.ownHistory_concat_other different, ← kept.value, flagValue_concat]
  cases request with
  | newDevice printer =>
      cases reply with
      | flag f =>
          have fresh : flagOwner f trace = none := by
            simpa [hostWorld] using admitted
          have apart : f ≠ dev.printing := by
            rintro rfl
            rw [kept.owner] at fresh
            cases fresh
          exact if_neg apart
      | _ => rfl
  | storePrinting f v =>
      obtain ⟨actorDev, live, rfl, _⟩ := disciplined
      have apart : actorDev.printing ≠ dev.printing := by
        intro same
        have byActor := (actorKept actorDev live).owner
        rw [same, kept.owner] at byActor
        exact different (Option.some.inj byActor).symm
      exact if_neg apart
  | _ => rfl

/-- A step of a task keeps the flag of the device it then has. -/
theorem flagKept_of_self {trace : HostTrace} {task : Nat} {request : HostCall}
    {reply : HostReply}
    (kept : ∀ dev ∈ liveDevice (Trace.ownHistory task trace),
      FlagKept trace task dev)
    (disciplined : Disciplined (Trace.ownHistory task trace) request)
    (admitted : hostWorld trace task request reply = true) {dev : KsDevice}
    (live : dev ∈ liveDevice
      (Trace.ownHistory task (trace ++ [(task, request, reply)]))) :
    FlagKept (trace ++ [(task, request, reply)]) task dev := by
  have ownGrows := Trace.ownHistory_concat_self task trace (request, reply)
  rw [ownGrows, liveDevice_concat] at live
  have unchanged (same : dev ∈ liveDevice (Trace.ownHistory task trace))
      (up : flagAfter (flagUp (Trace.ownHistory task trace)) request =
        flagUp (Trace.ownHistory task trace))
      (value : flagValue dev.printing (trace ++ [(task, request, reply)]) =
        flagValue dev.printing trace) :
      FlagKept (trace ++ [(task, request, reply)]) task dev := by
    refine ⟨flagOwner_concat_of_owned (kept dev same).owner _, ?_⟩
    rw [ownGrows, flagUp_concat, up, value, (kept dev same).value]
  cases request with
  | newDevice printer =>
      cases reply with
      | flag f =>
          obtain rfl := Option.mem_some.mp live
          have fresh : flagOwner f trace = none := by
            simpa [hostWorld] using admitted
          refine ⟨?_, ?_⟩
          · simp [flagOwner_concat, fresh, HostReply.namesFlag]
          · rw [ownGrows, flagUp_concat, flagValue_concat]
            exact if_pos rfl
      | _ => cases admitted
  | dropDevice => cases live
  | storePrinting f v =>
      obtain ⟨actorDev, held, rfl, _⟩ := disciplined
      obtain rfl : actorDev = dev := Option.some.inj (held.symm.trans live)
      refine ⟨flagOwner_concat_of_owned (kept actorDev held).owner _, ?_⟩
      rw [ownGrows, flagUp_concat, flagValue_concat]
      exact if_pos rfl
  | _ => exact unchanged live rfl (flagValue_concat _ _ _)

/-! ### Runs -/

def hostScripts (bleFeature : Bool) (deviceUri : String)
    (kinds : Nat → TaskKind) : Nat → HostScript Unit :=
  fun task => (kinds task).script bleFeature deviceUri

def hostSteps : World Nat HostCall HostReply :=
  fun trace task request reply => hostWorld trace task request reply = true

instance (trace : HostTrace) (task : Nat) (request : HostCall)
    (reply : HostReply) : Decidable (hostSteps trace task request reply) :=
  inferInstanceAs (Decidable (hostWorld trace task request reply = true))

section Runs

variable {bleFeature : Bool} {deviceUri : String} {kinds : Nat → TaskKind}
  {rest : Nat → HostScript Unit} {trace : HostTrace}

/-- In every run each task keeps the discipline, up to the step it is at. -/
theorem disciplined_of_reaches
    (reached : Trace.Reaches hostSteps (hostScripts bleFeature deviceUri kinds)
      rest trace) (task : Nat) :
    Script.Lawful Disciplined (Trace.ownHistory task trace) ∧
      ∀ request next, rest task = .call request next →
        Disciplined (Trace.ownHistory task trace) request := by
  obtain ⟨lawful, ensures⟩ := reached.ensures
    (fun task => (kinds task).script_ensures bleFeature deviceUri) task
  refine ⟨lawful, ?_⟩
  intro request next pending
  rw [pending] at ensures
  exact ensures.1

/-- A mutex that a task holds by its own history is held by that task. -/
theorem holder_of_holdsLock
    (reached : Trace.Reaches hostSteps (hostScripts bleFeature deviceUri kinds)
      rest trace) {task : Nat} {conn : Conn}
    (held : HoldsLock conn (Trace.ownHistory task trace)) :
    holder HostCall.lockAction conn trace = some task := by
  refine reached.holder_of_holds ?_ ?_
    (fun task => (kinds task).script_ensures bleFeature deviceUri) task conn
    held
  · intro trace task request reply lock admitted acquires
    cases request with
    | lock conn =>
        obtain rfl : conn = lock := by
          simpa [HostCall.lockAction] using acquires
        cases reply with
        | done => simpa [hostSteps, hostWorld] using admitted
        | _ => cases admitted
    | _ => cases acquires
  · intro task history request lock disciplined releases
    cases request with
    | unlock conn =>
        obtain rfl : conn = lock := by
          simpa [HostCall.lockAction] using releases
        exact disciplined.1
    | _ => cases releases

/-- In every run the flag of each device is as its own task left it. -/
theorem flagKept_of_reaches
    (reached : Trace.Reaches hostSteps (hostScripts bleFeature deviceUri kinds)
      rest trace) (task : Nat) :
    ∀ dev ∈ liveDevice (Trace.ownHistory task trace),
      FlagKept trace task dev := by
  induction reached generalizing task with
  | start => intro dev live; cases live
  | @step rest trace actor request next reply reached pending admitted ih =>
      have disciplined :=
        (disciplined_of_reaches reached actor).2 request next pending
      intro dev live
      by_cases same : actor = task
      · subst same
        exact flagKept_of_self (ih actor) disciplined admitted live
      · rw [Trace.ownHistory_concat_other same] at live
        exact (ih task dev live).of_other same disciplined admitted (ih actor)

end Runs

/-! ### Queries of polls and transfers of jobs -/

def TaskKind.isPoller : TaskKind → Bool
  | poller => true
  | job _ => false

/-- The handle over which a step sends `INQUIRY_STA` or `RETURN_MAT`. -/
def HostCall.queriesOver : HostCall → Option PrinterHandle
  | exchange printer (.sendCmd cmd _) =>
      if cmd = cmdInquirySta ∨ cmd = cmdReturnMat then some printer else none
  | _ => none

theorem HostCall.eq_exchange_of_queriesOver {request : HostCall}
    {printer : PrinterHandle} (queries : request.queriesOver = some printer) :
    ∃ call, request = .exchange printer call := by
  cases request with
  | exchange handle call =>
      cases call with
      | sendCmd cmd param =>
          simp only [queriesOver, Option.ite_none_right_eq_some] at queries
          obtain rfl := Option.some.inj queries.2
          exact ⟨_, rfl⟩
      | _ => cases queries
  | _ => cases queries

/-- No query of a poll was sent while a job was within `print_compressed` and
had sent its first command. -/
def QueriesStayOut (kinds : Nat → TaskKind) (trace : HostTrace) : Prop :=
  ∀ before task request reply after,
    trace = before ++ (task, request, reply) :: after →
      (kinds task).isPoller = true → request.queriesOver.isSome = true →
        ∀ job, (kinds job).isPoller = false →
          spanOf (Trace.ownHistory job before) ≠ .sending

/-- Task 0 prints a page of one block; every other task polls. -/
def onePageJob : Nat → TaskKind
  | 0 => .job [.ok ([[0#8]], 60#16)]
  | _ => .poller

def usbOnly : HostReply :=
  .transports (some ⟨some "/dev/hidraw0", none, none⟩)

def usbIdle : Bytes := List.replicate 7 0#8

def usbPrinting : Bytes := [0#8, 0#8, 0#8, 0x40#8, 0#8, 0#8, 0#8]

/-- Job and poll open the printer over USB.  The job sends the header of its
block; then, before the data, the poll finds the flag of its own device off
and queries the status. -/
def usbRun : HostTrace :=
  [(0, .transports "t50", usbOnly),
    (0, .openHidraw "/dev/hidraw0", .conn (some 3)),
    (0, .newDevice (.owned 3), .flag 0),
    (1, .transports "t50", usbOnly),
    (1, .openHidraw "/dev/hidraw0", .conn (some 4)),
    (1, .newDevice (.owned 4), .flag 1),
    (0, .storePrinting 0 true, .done),
    (0, .enterPrint (.owned 3), .done),
    (0, .exchange (.owned 3) (.sendCmd cmdCheckDevice 0#16),
      .wire (.ok (some [0#8]))),
    (0, .exchange (.owned 3) (.sendCmd cmdInquirySta 0#16),
      .wire (.ok (some usbIdle))),
    (0, .exchange (.owned 3) (.sendCmd cmdStartPrint 0#16), .wire (.ok none)),
    (0, .exchange (.owned 3) (.sendCmd cmdInquirySta 0#16),
      .wire (.ok (some usbPrinting))),
    (0, .exchange (.owned 3) (.sendCmd cmdInquirySta 0#16),
      .wire (.ok (some usbPrinting))),
    (0, .exchange (.owned 3) (.sendBulkHeader 1#16 1),
      .wire (.ok (some [0#8]))),
    (1, .loadPrinting 1, .printing false),
    (1, .exchange (.owned 4) (.sendCmd cmdInquirySta 0#16),
      .wire (.ok (some usbPrinting)))]

/-- Over USB the query of a poll lands between the header and the data of a
block. -/
theorem usbRun_queriesBreakIn :
    (∃ rest, Trace.Reaches hostSteps
      (hostScripts false "supvan://t50" onePageJob) rest usbRun) ∧
      ¬ QueriesStayOut onePageJob usbRun := by
  constructor
  · have followed : Trace.follow hostSteps usbRun.schedule
        (hostScripts false "supvan://t50" onePageJob) [] = some usbRun := rfl
    exact Trace.Reaches.start.follow followed
  · intro stayOut
    exact stayOut usbRun.dropLast 1 _ _ [] rfl rfl rfl 0 rfl rfl

/-- A poll queries only when no device of a job has its flag set, save one over
the same shared connection. -/
def FlagsHeeded (kinds : Nat → TaskKind) (trace : HostTrace) (task : Nat)
    (request : HostCall) : Prop :=
  (kinds task).isPoller = true → ∀ printer ∈ request.queriesOver,
    ∀ job ∈ trace.map Prod.fst, (kinds job).isPoller = false →
      ∀ dev ∈ liveDevice (Trace.ownHistory job trace),
        flagValue dev.printing trace = true →
          dev.printer = printer ∧ printer.isShared = true

/-- The steps in which polls heed the flags of the jobs. -/
def heedfulSteps (kinds : Nat → TaskKind) : World Nat HostCall HostReply :=
  fun trace task request reply =>
    hostSteps trace task request reply ∧ FlagsHeeded kinds trace task request

instance (kinds : Nat → TaskKind) (trace : HostTrace) (task : Nat)
    (request : HostCall) : Decidable (FlagsHeeded kinds trace task request) :=
  inferInstanceAs (Decidable (_ → ∀ printer ∈ request.queriesOver,
    ∀ job ∈ trace.map Prod.fst, _ →
      ∀ dev ∈ liveDevice (Trace.ownHistory job trace), _ → _))

instance (kinds : Nat → TaskKind) (trace : HostTrace) (task : Nat)
    (request : HostCall) (reply : HostReply) :
    Decidable (heedfulSteps kinds trace task request reply) :=
  inferInstanceAs (Decidable (_ ∧ _))

/-- In every run whose polls heed the flags of the jobs, no query of a poll
lands inside a page transfer. -/
theorem heedfulRun_queriesStayOut (bleFeature : Bool) (deviceUri : String)
    (kinds : Nat → TaskKind) {rest : Nat → HostScript Unit}
    {trace : HostTrace}
    (reached : Trace.Reaches (heedfulSteps kinds)
      (hostScripts bleFeature deviceUri kinds) rest trace) :
    QueriesStayOut kinds trace := by
  intro before task request reply after split isPoll isQuery job isJob sending
  obtain ⟨⟨_, heeded⟩, left, next, heedful, pending⟩ := reached.before split
  have run := heedful.mono hostSteps fun _ _ _ _ step => step.1
  obtain ⟨printer, queries⟩ := Option.isSome_iff_exists.mp isQuery
  obtain ⟨call, rfl⟩ := HostCall.eq_exchange_of_queriesOver queries
  -- The job has a device, whose flag is set and whose mutex it holds.
  have inside : spanOf (Trace.ownHistory job before) ≠ .outside := by
    rw [sending]
    decide
  obtain ⟨dev, live, jobGuarded, up⟩ :=
    transferGuarded_of_lawful (disciplined_of_reaches run job).1 inside
  have flagSet : flagValue dev.printing before = true := by
    rw [(flagKept_of_reaches run job dev live).value, up]
  have stepped : job ∈ before.map Prod.fst := by
    apply Trace.mem_of_ownHistory_ne_nil
    intro nothing
    rw [nothing] at live
    cases live
  obtain ⟨rfl, shared⟩ :=
    heeded isPoll printer queries job stepped isJob dev live flagSet
  -- The poll holds the mutex of the same connection.
  have pollGuarded : dev.printer.Guarded (Trace.ownHistory task before) :=
    (disciplined_of_reaches run task).2 _ _ pending
  obtain ⟨conn, isConn⟩ : ∃ conn, dev.printer = .shared conn := by
    cases found : dev.printer with
    | owned fd => simp [found, PrinterHandle.isShared] at shared
    | shared conn => exact ⟨conn, rfl⟩
  have jobHolds := holder_of_holdsLock run (jobGuarded conn isConn)
  have pollHolds := holder_of_holdsLock run (pollGuarded conn isConn)
  have same : job = task := Option.some.inj (jobHolds.symm.trans pollHolds)
  rw [same, isPoll] at isJob
  cases isJob

def btOnly : HostReply :=
  .transports (some ⟨none, some "AA:BB", none⟩)

def btPresent : Bytes :=
  [magic1, magic2, 0#8, 0#8, 0#8, 0#8, 0#8, cmdCheckDevice]

/-- Job and poll share a Bluetooth connection.  The poll queries the status
after the job has set its flag, and the transfer starts once the poll has given
the mutex up. -/
def btRun : HostTrace :=
  [(0, .transports "t50", btOnly),
    (0, .cached .bt "AA:BB", .conn none),
    (0, .dial .bt "AA:BB", .conn (some 3)),
    (0, .cache .bt "AA:BB" 3, .done),
    (0, .newDevice (.shared 3), .flag 0),
    (1, .transports "t50", btOnly),
    (1, .cached .bt "AA:BB", .conn (some 3)),
    (1, .lock 3, .done),
    (1, .exchange (.shared 3) (.sendCmd cmdCheckDevice 0#16),
      .wire (.ok (some btPresent))),
    (1, .unlock 3, .done),
    (1, .newDevice (.shared 3), .flag 1),
    (0, .storePrinting 0 true, .done),
    (1, .loadPrinting 1, .printing false),
    (1, .lock 3, .done),
    (1, .exchange (.shared 3) (.sendCmd cmdInquirySta 0#16),
      .wire (.ok none)),
    (1, .unlock 3, .done),
    (0, .lock 3, .done),
    (0, .enterPrint (.shared 3), .done),
    (0, .exchange (.shared 3) (.sendCmd cmdCheckDevice 0#16),
      .wire (.ok (some btPresent)))]

theorem heedfulRun_queriesStayOut_overBt : QueriesStayOut onePageJob btRun := by
  have followed : Trace.follow (heedfulSteps onePageJob) btRun.schedule
      (hostScripts false "supvan://t50" onePageJob) [] = some btRun := rfl
  obtain ⟨rest, reached⟩ := Trace.Reaches.start.follow followed
  exact heedfulRun_queriesStayOut false "supvan://t50" onePageJob reached

end SupvanCups
