import SupvanCups.LockProgress
import SupvanCups.SharedConnections
import Mathlib.Algebra.Order.BigOperators.Group.List

/-!
# The server never locks up

A status poll that waits for a print, a print that waits for a poll, a media
change that waits for both: a handle takes the mutex of its connection for one
operation and takes no other meanwhile.  However many tasks run, however far
they have got and whatever the printer answers, all of them can still finish.
-/

namespace SupvanCups

theorem VisitsWhole.oneLock {Call Reply Lock : Type} [DecidableEq Lock]
    {action : Call → Option (LockAction Lock)} {uses : Call → Option Lock}
    {complete : Lock → History Call Reply → Prop} {own : History Call Reply}
    {request : Call} (whole : VisitsWhole action uses complete own request) :
    OneLock action own request where
  taken := whole.taken
  released lock releases := (whole.released lock releases).1

/-- From every state that the tasks of the server can reach, and however their
calls are answered from there on, some schedule brings any of them to their
ends. -/
theorem serverTasks_canFinish (bleFeature : Bool) (tasks : Nat → ServerTask)
    {rest : Nat → HostScript Unit} {trace : HostTrace}
    (reached : Trace.Reaches hostSteps (serverScripts bleFeature tasks) rest
      trace) (answer : HostTrace → Nat → HostCall → HostReply)
    (answers : ∀ trace task request,
      (∀ conn, request.lockAction = some (.acquire conn) →
        holder HostCall.lockAction conn trace = none) →
      hostSteps trace task request (answer trace task request))
    (group : List Nat) :
    ∃ left later, Trace.Leads hostSteps answer rest trace left later ∧
      ∀ task ∈ group, left task = .done () := by
  obtain ⟨left, later, led, finished⟩ := reached.finishAll answers
    (fun task => Script.Ensures.permit
      ((tasks task).keepsVisits bleFeature [] holdsNone_nil)
      fun _ _ whole => whole.oneLock) group
  exact ⟨left, later, led,
    fun task member => (finished task member).choose_spec⟩

/-! ### A world that answers everything -/

/-- A flag that no device has yet. -/
def freshFlag (trace : HostTrace) : Nat :=
  (trace.map fun event =>
    match event.2.2 with
    | .flag flag => flag + 1
    | _ => 0).sum

theorem flagOwner_freshFlag (trace : HostTrace) :
    flagOwner (freshFlag trace) trace = none := by
  rw [flagOwner, Option.map_eq_none_iff, List.find?_eq_none]
  rintro ⟨task, request, reply⟩ member names
  cases reply with
  | flag flag =>
      obtain rfl : flag = freshFlag trace := of_decide_eq_true names
      have least : freshFlag trace + 1 ≤ freshFlag trace :=
        List.le_sum_of_mem (List.mem_map.mpr ⟨_, member, rfl⟩)
      omega
  | _ => cases names

/-- Nothing new can be opened, and the printer is silent. -/
def silentAnswer (trace : HostTrace) (_ : Nat) : HostCall → HostReply
  | .transports _ => .transports none
  | .openHidraw _ => .conn none
  | .cached kind addr => .conn (cacheEntry kind addr trace)
  | .dial _ _ => .conn none
  | .newDevice _ => .flag (freshFlag trace)
  | .loadPrinting flag => .printing (flagValue flag trace)
  | .exchange _ _ => .wire (.ok none)
  | _ => .done

theorem hostSteps_silentAnswer (trace : HostTrace) (task : Nat)
    (request : HostCall)
    (granted : ∀ conn, request.lockAction = some (.acquire conn) →
      holder HostCall.lockAction conn trace = none) :
    hostSteps trace task request (silentAnswer trace task request) := by
  cases request with
  | lock conn => simp [hostSteps, hostWorld, silentAnswer, granted conn rfl]
  | newDevice printer =>
      simp [hostSteps, hostWorld, silentAnswer, flagOwner_freshFlag]
  | _ => simp [hostSteps, hostWorld, silentAnswer]

/-- A job in the middle of a page holds the connection of a poller. -/
theorem serverTasks_canFinish_bt :
    ∃ rest left later, Trace.Reaches hostSteps
        (serverScripts false fun task =>
          match task with
          | 0 => .job "supvan://t50" [.ok ([[0#8]], 60#16)]
          | _ => .poll "supvan://t50") rest btRun ∧
      Trace.Leads hostSteps silentAnswer rest btRun left later ∧
      ∀ task ∈ [0, 1], left task = .done () := by
  have followed : Trace.follow hostSteps btRun.schedule
      (serverScripts false fun task =>
        match task with
        | 0 => .job "supvan://t50" [.ok ([[0#8]], 60#16)]
        | _ => .poll "supvan://t50") [] = some btRun := rfl
  obtain ⟨rest, reached⟩ := Trace.Reaches.start.follow followed
  obtain ⟨left, later, led, done⟩ := serverTasks_canFinish false _ reached
    silentAnswer hostSteps_silentAnswer [0, 1]
  exact ⟨rest, left, later, reached, led, done⟩

end SupvanCups
