import SupvanCups.TaskInterleaving

/-!
# Critical sections

A resource is used under its lock.  What a task does with it between taking
the lock and giving it back is a visit.  When every visit that is given up is
complete, in a sense that the visits' makers agree on, the uses of the resource
in any interleaving are complete visits one after the other, with at most one
under way at the end.
-/

namespace SupvanCups

/-! ### What a script leaves behind -/

namespace Script

variable {Call Reply Low LowReply α β : Type}

/-- The histories of the runs of a script. -/
inductive Produces : Script Call Reply α → History Call Reply → Prop
  | done {result : α} : Produces (.done result) []
  | call {request : Call} {next : Reply → Script Call Reply α} {reply : Reply}
      {events : History Call Reply} (rest : Produces (next reply) events) :
      Produces (.call request next) ((request, reply) :: events)

theorem produces_run (device : Device Call Reply)
    (script : Script Call Reply α) (history : History Call Reply) :
    ∃ events, (script.run device history).2 = history ++ events ∧
      script.Produces events := by
  induction script generalizing history with
  | done result => exact ⟨[], (List.append_nil history).symm, .done⟩
  | call request next ih =>
      obtain ⟨events, same, produced⟩ := ih (device history request)
        (history ++ [(request, device history request)])
      refine ⟨_ :: events, ?_, .call produced⟩
      rw [run, same, List.append_assoc, List.singleton_append]

theorem exists_produces [Nonempty Reply] (script : Script Call Reply α) :
    ∃ events, script.Produces events := by
  obtain ⟨events, -, produced⟩ :=
    script.produces_run (fun _ _ => Classical.arbitrary Reply) []
  exact ⟨events, produced⟩

/-- When each call is asked by one low call, the low history read back is that
of a run. -/
theorem Produces.of_interpret {handler : Call → Script Low LowReply Reply}
    {lower : Call → Low} {raise : LowReply → Reply}
    {read : Low × LowReply → Option (Call × Reply)}
    (asks : ∀ request, handler request =
      .call (lower request) fun reply => .done (raise reply))
    (reads : ∀ request reply,
      read (lower request, reply) = some (request, raise reply))
    {script : Script Call Reply α} {low : History Low LowReply}
    (produced : (script.interpret handler).Produces low) :
    script.Produces (low.filterMap read) := by
  induction script generalizing low with
  | done result =>
      cases produced
      exact .done
  | call request next ih =>
      rw [interpret, asks] at produced
      cases produced with
      | call rest =>
          rw [List.filterMap_cons_some (reads request _)]
          exact .call (ih _ rest)

end Script

/-! ### Which locks a task holds -/

section Held

variable {Call Reply Lock : Type} [DecidableEq Lock]
  (action : Call → Option (LockAction Lock))

/-- By its own history a task holds no lock. -/
def HoldsNone (own : History Call Reply) : Prop :=
  ∀ lock, Holds action lock own = false

/-- By its own history a task holds one lock. -/
def HoldsOnly (lock : Lock) (own : History Call Reply) : Prop :=
  ∀ other, Holds action other own = decide (other = lock)

variable {action} {own : History Call Reply} {event : Call × Reply}
  {lock : Lock}

theorem holdsNone_nil : HoldsNone action ([] : History Call Reply) :=
  fun _ => rfl

theorem HoldsOnly.holds (only : HoldsOnly action lock own) :
    Holds action lock own = true :=
  (only lock).trans (decide_eq_true rfl)

theorem HoldsNone.concat (idle : HoldsNone action own)
    (apart : action event.1 = none) : HoldsNone action (own ++ [event]) := by
  intro lock
  rw [holds_concat_of_untouched (by simp [apart]) (by simp [apart])]
  exact idle lock

theorem HoldsOnly.concat (only : HoldsOnly action lock own)
    (apart : action event.1 = none) :
    HoldsOnly action lock (own ++ [event]) := by
  intro other
  rw [holds_concat_of_untouched (by simp [apart]) (by simp [apart])]
  exact only other

theorem HoldsNone.acquire (idle : HoldsNone action own)
    (acquires : action event.1 = some (.acquire lock)) :
    HoldsOnly action lock (own ++ [event]) := by
  intro other
  by_cases same : lock = other
  · simp [holds_concat, acquires, same]
  · simp [holds_concat, acquires, same, idle other, Ne.symm same]

theorem HoldsOnly.release (only : HoldsOnly action lock own)
    (releases : action event.1 = some (.release lock)) :
    HoldsNone action (own ++ [event]) := by
  intro other
  by_cases same : lock = other
  · simp [holds_concat, releases, same]
  · simp [holds_concat, releases, same, only other, Ne.symm same]

end Held

/-! ### Visits -/

section Visits

variable {Task Call Reply Lock α β : Type} [DecidableEq Task]
  [DecidableEq Lock] (action : Call → Option (LockAction Lock))
  (uses : Call → Option Lock)

/-- What a task has done with a resource since it last took its lock. -/
def visit (lock : Lock) (own : History Call Reply) : History Call Reply :=
  own.foldl (fun visit event =>
    if uses event.1 = some lock then visit ++ [event]
    else
      match action event.1 with
      | some (.acquire l) => if l = lock then [] else visit
      | _ => visit) []

/-- The visit of the task that holds a lock. -/
def openVisit (lock : Lock) (trace : Trace Task Call Reply) :
    Option (Task × History Call Reply) :=
  (holder action lock trace).map fun task =>
    (task, visit action uses lock (Trace.ownHistory task trace))

/-- The steps of all tasks that use a resource. -/
def usesOf (lock : Lock) (trace : Trace Task Call Reply) :
    Trace Task Call Reply :=
  trace.filter fun event => uses event.2.1 = some lock

/-- A visit with the task that makes it, as steps of a trace. -/
def stepsOf (visit : Task × History Call Reply) : Trace Task Call Reply :=
  visit.2.map fun event => (visit.1, event)

/-- Complete visits one after the other, and at most one begun. -/
def OneAtATime (complete : Task → History Call Reply → Prop)
    (steps : Trace Task Call Reply) : Prop :=
  ∃ (visits : List (Task × History Call Reply))
    (current : Option (Task × History Call Reply)),
    steps = visits.flatMap stepsOf ++ current.elim [] stepsOf ∧
    (∀ visit ∈ visits, complete visit.1 visit.2) ∧
    ∀ visit ∈ current, ∃ more, complete visit.1 (visit.2 ++ more)

/-- A task takes one lock at a time.  It uses a resource under its lock, so
that its visit can still become complete, and gives the lock back when it
is. -/
structure VisitsWhole (complete : Lock → History Call Reply → Prop)
    (own : History Call Reply) (request : Call) : Prop where
  taken : ∀ lock, action request = some (.acquire lock) → HoldsNone action own
  used : ∀ lock, uses request = some lock →
    Holds action lock own = true ∧
      ∀ reply, ∃ more, complete lock
        (visit action uses lock own ++ (request, reply) :: more)
  released : ∀ lock, action request = some (.release lock) →
    Holds action lock own = true ∧
      complete lock (visit action uses lock own)

variable {action uses}

theorem visit_concat_use {lock : Lock} (own : History Call Reply)
    {event : Call × Reply} (used : uses event.1 = some lock) :
    visit action uses lock (own ++ [event]) =
      visit action uses lock own ++ [event] := by
  simp [visit, used]

theorem visit_concat_acquire {lock : Lock} (own : History Call Reply)
    {event : Call × Reply} (unused : uses event.1 ≠ some lock)
    (acquires : action event.1 = some (.acquire lock)) :
    visit action uses lock (own ++ [event]) = [] := by
  simp [visit, unused, acquires]

theorem visit_concat_other {lock : Lock} (own : History Call Reply)
    {event : Call × Reply} (unused : uses event.1 ≠ some lock)
    (untaken : action event.1 ≠ some (.acquire lock)) :
    visit action uses lock (own ++ [event]) = visit action uses lock own := by
  rw [visit, List.foldl_append]
  simp only [List.foldl_cons, List.foldl_nil, if_neg unused]
  split
  · rename_i l acts
    refine if_neg fun same => untaken ?_
    rw [acts, same]
  · rfl

omit [DecidableEq Task] in
theorem usesOf_concat_use {lock : Lock} (trace : Trace Task Call Reply)
    {event : Task × Call × Reply} (used : uses event.2.1 = some lock) :
    usesOf uses lock (trace ++ [event]) =
      usesOf uses lock trace ++ [event] := by
  simp [usesOf, used]

omit [DecidableEq Task] in
theorem usesOf_concat_other {lock : Lock} (trace : Trace Task Call Reply)
    {event : Task × Call × Reply} (unused : uses event.2.1 ≠ some lock) :
    usesOf uses lock (trace ++ [event]) = usesOf uses lock trace := by
  simp [usesOf, unused]

/-- An unfinished visit can be completed. -/
theorem exists_complete {complete : Lock → History Call Reply → Prop}
    {own : History Call Reply} {lock : Lock}
    (starts : ∃ more, complete lock more)
    (lawful : Script.Lawful (VisitsWhole action uses complete) own)
    (held : Holds action lock own = true) :
    ∃ more, complete lock (visit action uses lock own ++ more) := by
  induction own using List.reverseRecOn with
  | nil => simp at held
  | append_singleton own event ih =>
      obtain ⟨before, whole⟩ := Script.Lawful.concat_iff.mp lawful
      by_cases used : uses event.1 = some lock
      · obtain ⟨more, completes⟩ := (whole.used lock used).2 event.2
        refine ⟨more, ?_⟩
        rw [visit_concat_use own used, List.append_assoc]
        exact completes
      by_cases acquires : action event.1 = some (.acquire lock)
      · rw [visit_concat_acquire own used acquires]
        exact starts
      by_cases releases : action event.1 = some (.release lock)
      · simp [holds_concat, releases] at held
      rw [holds_concat_of_untouched acquires releases] at held
      rw [visit_concat_other own used acquires]
      exact ih before held

omit [DecidableEq Task] in
/-- A script that only uses a resource, and completes the visit under way in
every run, is one that may be run under the lock. -/
theorem ensures_of_only_uses [Nonempty Reply]
    {complete : Lock → History Call Reply → Prop} {lock : Lock}
    {script : Script Call Reply α} {own : History Call Reply}
    (only : script.Only fun request =>
      uses request = some lock ∧ action request = none)
    (held : HoldsOnly action lock own)
    (completes : ∀ events, script.Produces events →
      complete lock (visit action uses lock own ++ events)) :
    script.Ensures (VisitsWhole action uses complete) own fun _ later =>
      HoldsOnly action lock later ∧
        complete lock (visit action uses lock later) := by
  induction script generalizing own with
  | done result =>
      refine ⟨held, ?_⟩
      have whole := completes [] .done
      rwa [List.append_nil] at whole
  | call request next ih =>
      obtain ⟨⟨used, acts⟩, only⟩ := only
      refine ⟨⟨fun other acquires => ?_, fun other usesOther => ?_,
        fun other releases => ?_⟩, fun reply =>
          ih reply (only reply) (held.concat acts) fun events produced => ?_⟩
      · rw [acts] at acquires
        cases acquires
      · obtain rfl := Option.some.inj (used.symm.trans usesOther)
        refine ⟨held.holds, fun reply => ?_⟩
        obtain ⟨events, produced⟩ := (next reply).exists_produces
        exact ⟨events, completes _ (.call produced)⟩
      · rw [acts] at releases
        cases releases
      · rw [visit_concat_use own used, List.append_assoc]
        exact completes _ (.call produced)

/-- The holder of a lock holds it by its own history. -/
theorem Trace.Reaches.holds_of_holder {world : World Task Call Reply}
    {scripts rest : Task → Script Call Reply α} {trace : Trace Task Call Reply}
    (reached : Trace.Reaches world scripts rest trace) {task : Task}
    {lock : Lock} (held : holder action lock trace = some task) :
    Holds action lock (Trace.ownHistory task trace) = true := by
  induction reached with
  | start => cases held
  | @step rest trace actor request next reply reached pending admitted ih =>
      by_cases acquires : action request = some (.acquire lock)
      · have taken : actor = task := by
          simpa [holder_concat, acquires] using held
        rw [taken, Trace.ownHistory_concat_self]
        simp [holds_concat, acquires]
      by_cases releases : action request = some (.release lock)
      · simp [holder_concat, releases] at held
      rw [holder_concat_of_untouched acquires releases] at held
      by_cases same : actor = task
      · rw [same, Trace.ownHistory_concat_self,
          holds_concat_of_untouched acquires releases]
        exact ih held
      · rw [Trace.ownHistory_concat_other same]
        exact ih held

/-! ### Visits in an interleaving -/

section Interleaving

variable {world : World Task Call Reply}
  {scripts rest : Task → Script Call Reply α} {trace : Trace Task Call Reply}
  {complete : Task → Lock → History Call Reply → Prop}
  {post : Task → α → History Call Reply → Prop}

variable
  (free : ∀ trace task request reply lock,
    world trace task request reply →
      action request = some (.acquire lock) → holder action lock trace = none)
  (apart : ∀ request lock, uses request = some lock → action request = none)
  (initial : ∀ task, (scripts task).Ensures
    (VisitsWhole action uses (complete task)) [] (post task))
include free apart initial

theorem Trace.Reaches.visits
    (reached : Trace.Reaches world scripts rest trace) (lock : Lock) :
    ∃ visits : List (Task × History Call Reply),
      usesOf uses lock trace = visits.flatMap stepsOf ++
        (openVisit action uses lock trace).elim [] stepsOf ∧
      ∀ visit ∈ visits, complete visit.1 lock visit.2 := by
  induction reached with
  | start => exact ⟨[], rfl, by simp⟩
  | @step rest trace actor request next reply reached pending admitted ih =>
      obtain ⟨visits, same, whole⟩ := ih
      have permitted : VisitsWhole action uses (complete actor)
          (Trace.ownHistory actor trace) request := by
        have ensures := (reached.ensures initial actor).2
        rw [pending] at ensures
        exact ensures.1
      have owns := reached.holder_of_holds free
        (fun _ _ _ lock whole releases => (whole.released lock releases).1)
        initial actor lock
      by_cases used : uses request = some lock
      · have held := owns (permitted.used lock used).1
        have untouched : holder action lock
            (trace ++ [(actor, request, reply)]) = some actor := by
          rw [holder_concat_of_untouched, held]
          · rw [apart request lock used]
            simp
          · rw [apart request lock used]
            simp
        have grown : openVisit action uses lock
            (trace ++ [(actor, request, reply)]) = some (actor,
              visit action uses lock (Trace.ownHistory actor trace) ++
                [(request, reply)]) := by
          rw [openVisit, untouched, Option.map_some,
            Trace.ownHistory_concat_self]
          rw [visit_concat_use _ used]
        refine ⟨visits, ?_, whole⟩
        rw [usesOf_concat_use trace used, same, grown]
        simp [openVisit, held, stepsOf]
      rw [usesOf_concat_other trace used]
      by_cases acquires : action request = some (.acquire lock)
      · have before := free _ _ _ _ lock admitted acquires
        have begun : openVisit action uses lock
            (trace ++ [(actor, request, reply)]) = some (actor, []) := by
          have taken : holder action lock
              (trace ++ [(actor, request, reply)]) = some actor := by
            simp [holder_concat, acquires]
          rw [openVisit, taken, Option.map_some, Trace.ownHistory_concat_self]
          rw [visit_concat_acquire _ used acquires]
        refine ⟨visits, ?_, whole⟩
        rw [same, begun]
        simp [openVisit, before, stepsOf]
      by_cases releases : action request = some (.release lock)
      · obtain ⟨holds, completes⟩ := permitted.released lock releases
        have held := owns holds
        refine ⟨visits ++ [(actor, visit action uses lock
          (Trace.ownHistory actor trace))], ?_, ?_⟩
        · rw [same]
          simp [openVisit, held, holder_concat, releases]
        · intro visit member
          rcases List.mem_append.mp member with earlier | last
          · exact whole visit earlier
          · rw [List.mem_singleton.mp last]
            exact completes
      refine ⟨visits, ?_, whole⟩
      rw [same, openVisit, openVisit,
        holder_concat_of_untouched acquires releases]
      rcases holder action lock trace with _ | task
      · rfl
      · by_cases isActor : actor = task
        · subst isActor
          rw [Option.map_some, Option.map_some, Trace.ownHistory_concat_self,
            visit_concat_other _ used acquires]
        · rw [Option.map_some, Option.map_some,
            Trace.ownHistory_concat_other isActor]

/-- In every interleaving the uses of a resource are complete visits one after
the other, the last of which may be under way. -/
theorem Trace.Reaches.oneAtATime
    (reached : Trace.Reaches world scripts rest trace) {lock : Lock}
    (starts : ∀ task, ∃ more, complete task lock more) :
    OneAtATime (fun task => complete task lock) (usesOf uses lock trace) := by
  obtain ⟨visits, same, whole⟩ := reached.visits free apart initial lock
  refine ⟨visits, _, same, whole, ?_⟩
  intro visit isOpen
  obtain ⟨task, held, rfl⟩ := Option.map_eq_some_iff.mp isOpen
  exact exists_complete (starts task) (reached.ensures initial task).1
    (reached.holds_of_holder held)

end Interleaving

end Visits

end SupvanCups
