import SupvanCups.InteractionScript
import Mathlib.Logic.Function.Basic

/-!
# Interleaved scripts

Any number of tasks run a script each, in a world that they share.  A step
takes the next call of one task and answers it with a reply that the world
admits after everything that happened so far.  The trace records the steps;
what one task did in it is that task's own history.

What a script ensures against every device it ensures in every interleaving.
When the world hands out locks that are free only, and the tasks give back
locks they hold only, a lock that a task holds by its own history is held by
no other task.
-/

namespace SupvanCups

/-- The steps of all tasks, oldest first. -/
abbrev Trace (Task Call Reply : Type) := List (Task × Call × Reply)

/-- Which reply a task may get, after a trace. -/
abbrev World (Task Call Reply : Type) :=
  Trace Task Call Reply → Task → Call → Reply → Prop

namespace Trace

variable {Task Call Reply α : Type} [DecidableEq Task]

def ownHistory (task : Task) (trace : Trace Task Call Reply) :
    History Call Reply :=
  trace.filterMap fun event => if event.1 = task then some event.2 else none

@[simp]
theorem ownHistory_nil (task : Task) :
    ownHistory task ([] : Trace Task Call Reply) = [] :=
  rfl

theorem ownHistory_concat_self (task : Task) (trace : Trace Task Call Reply)
    (event : Call × Reply) :
    ownHistory task (trace ++ [(task, event)]) =
      ownHistory task trace ++ [event] := by
  simp [ownHistory]

theorem ownHistory_concat_other {task other : Task} (different : other ≠ task)
    (trace : Trace Task Call Reply) (event : Call × Reply) :
    ownHistory task (trace ++ [(other, event)]) = ownHistory task trace := by
  simp [ownHistory, different]

theorem mem_of_ownHistory_ne_nil {task : Task}
    {trace : Trace Task Call Reply} (acted : ownHistory task trace ≠ []) :
    task ∈ trace.map Prod.fst := by
  obtain ⟨event, member⟩ := List.exists_mem_of_ne_nil _ acted
  obtain ⟨step, stepMember, own⟩ := List.mem_filterMap.mp member
  refine List.mem_map.mpr ⟨step, stepMember, ?_⟩
  by_contra other
  simp [other] at own

/-- The traces of the tasks and what is left of their scripts. -/
inductive Reaches (world : World Task Call Reply)
    (scripts : Task → Script Call Reply α) :
    (Task → Script Call Reply α) → Trace Task Call Reply → Prop
  | start : Reaches world scripts scripts []
  | step {rest : Task → Script Call Reply α} {trace : Trace Task Call Reply}
      {task : Task} {request : Call} {next : Reply → Script Call Reply α}
      {reply : Reply} (reached : Reaches world scripts rest trace)
      (pending : rest task = .call request next)
      (admitted : world trace task request reply) :
      Reaches world scripts (Function.update rest task (next reply))
        (trace ++ [(task, request, reply)])

variable {world : World Task Call Reply} {scripts rest : Task → Script Call Reply α}
  {trace : Trace Task Call Reply}

/-- What the scripts ensure on their own, they ensure in every interleaving:
each task's history is lawful, and the rest of its script ensures the
postcondition from there. -/
theorem Reaches.ensures {allowed : Task → History Call Reply → Call → Prop}
    {post : Task → α → History Call Reply → Prop}
    (initial : ∀ task, (scripts task).Ensures (allowed task) [] (post task))
    (reached : Reaches world scripts rest trace) (task : Task) :
    Script.Lawful (allowed task) (ownHistory task trace) ∧
      (rest task).Ensures (allowed task) (ownHistory task trace)
        (post task) := by
  induction reached generalizing task with
  | start => exact ⟨Script.Lawful.nil, initial task⟩
  | @step rest trace actor request next reply _ pending _ ih =>
      by_cases same : actor = task
      · subst same
        obtain ⟨lawful, ensures⟩ := ih actor
        rw [pending] at ensures
        rw [ownHistory_concat_self, Function.update_self]
        exact ⟨lawful.concat ensures.1 reply, ensures.2 reply⟩
      · rw [ownHistory_concat_other same,
          Function.update_of_ne (Ne.symm same)]
        exact ih task

theorem Reaches.before (reached : Reaches world scripts rest trace)
    {before after : Trace Task Call Reply} {task : Task} {request : Call}
    {reply : Reply} (split : trace = before ++ (task, request, reply) :: after) :
    world before task request reply ∧
      ∃ left next, Reaches world scripts left before ∧
        left task = .call request next := by
  induction reached generalizing after with
  | start => simp at split
  | @step rest trace actor request' next reply' reached pending admitted ih =>
      rcases List.eq_nil_or_concat after with rfl | ⟨later, last, rfl⟩
      · obtain ⟨rfl, same⟩ := List.append_inj' split rfl
        obtain ⟨rfl, rfl, rfl⟩ : actor = task ∧ request' = request ∧
            reply' = reply := by
          simpa using same
        exact ⟨admitted, rest, next, reached, pending⟩
      · have shorter : trace ++ [(actor, request', reply')] =
            (before ++ (task, request, reply) :: later) ++ [last] := by
          simpa using split
        exact ih (List.append_inj' shorter rfl).1

theorem Reaches.mono (wide : World Task Call Reply)
    (admits : ∀ trace task request reply,
      world trace task request reply → wide trace task request reply)
    (reached : Reaches world scripts rest trace) :
    Reaches wide scripts rest trace := by
  induction reached with
  | start => exact .start
  | step _ pending admitted ih =>
      exact ih.step pending (admits _ _ _ _ admitted)

/-! ### Schedules -/

/-- The schedule of a trace: which task moved and what reply it got. -/
def schedule (trace : Trace Task Call Reply) : List (Task × Reply) :=
  trace.map fun event => (event.1, event.2.2)

/-- Follow a schedule that says which task moves and what reply it gets. -/
def follow (world : World Task Call Reply)
    [∀ trace task request reply, Decidable (world trace task request reply)] :
    List (Task × Reply) → (Task → Script Call Reply α) →
      Trace Task Call Reply → Option (Trace Task Call Reply)
  | [], _, trace => some trace
  | (task, reply) :: schedule, rest, trace =>
      match rest task with
      | .done _ => none
      | .call request next =>
          if world trace task request reply then
            follow world schedule (Function.update rest task (next reply))
              (trace ++ [(task, request, reply)])
          else none

theorem Reaches.follow
    [∀ trace task request reply, Decidable (world trace task request reply)]
    {schedule : List (Task × Reply)} {final : Trace Task Call Reply}
    (reached : Reaches world scripts rest trace)
    (followed : Trace.follow world schedule rest trace = some final) :
    ∃ left, Reaches world scripts left final := by
  induction schedule generalizing rest trace with
  | nil =>
      cases followed
      exact ⟨rest, reached⟩
  | cons entry schedule ih =>
      obtain ⟨task, reply⟩ := entry
      unfold Trace.follow at followed
      split at followed
      · cases followed
      · next request next pending =>
          split at followed
          · next admitted => exact ih (reached.step pending admitted) followed
          · cases followed

end Trace

/-! ### Locks -/

inductive LockAction (Lock : Type)
  | acquire (lock : Lock)
  | release (lock : Lock)

section Locks

variable {Task Call Reply Lock α : Type} [DecidableEq Task] [DecidableEq Lock]
  (action : Call → Option (LockAction Lock))

def Holds (lock : Lock) (own : History Call Reply) : Bool :=
  own.foldl (fun held event =>
    match action event.1 with
    | some (.acquire l) => if l = lock then true else held
    | some (.release l) => if l = lock then false else held
    | none => held) false

def holder (lock : Lock) (trace : Trace Task Call Reply) : Option Task :=
  trace.foldl (fun held event =>
    match action event.2.1 with
    | some (.acquire l) => if l = lock then some event.1 else held
    | some (.release l) => if l = lock then none else held
    | none => held) none

@[simp]
theorem holds_nil (lock : Lock) :
    Holds action lock ([] : History Call Reply) = false :=
  rfl

theorem holds_concat (lock : Lock) (own : History Call Reply)
    (event : Call × Reply) :
    Holds action lock (own ++ [event]) =
      match action event.1 with
      | some (.acquire l) => if l = lock then true else Holds action lock own
      | some (.release l) => if l = lock then false else Holds action lock own
      | none => Holds action lock own := by
  simp [Holds]

omit [DecidableEq Task] in
theorem holder_concat (lock : Lock) (trace : Trace Task Call Reply)
    (event : Task × Call × Reply) :
    holder action lock (trace ++ [event]) =
      match action event.2.1 with
      | some (.acquire l) =>
          if l = lock then some event.1 else holder action lock trace
      | some (.release l) =>
          if l = lock then none else holder action lock trace
      | none => holder action lock trace := by
  simp [holder]

variable {action}

theorem holds_concat_of_untouched {lock : Lock} {own : History Call Reply}
    {event : Call × Reply} (untaken : action event.1 ≠ some (.acquire lock))
    (kept : action event.1 ≠ some (.release lock)) :
    Holds action lock (own ++ [event]) = Holds action lock own := by
  rw [holds_concat]
  rcases acts : action event.1 with _ | l | l
  · rfl
  · have different : l ≠ lock := fun same => untaken (same ▸ acts)
    exact if_neg different
  · have different : l ≠ lock := fun same => kept (same ▸ acts)
    exact if_neg different

omit [DecidableEq Task] in
theorem holder_concat_of_untouched {lock : Lock}
    {trace : Trace Task Call Reply} {event : Task × Call × Reply}
    (untaken : action event.2.1 ≠ some (.acquire lock))
    (kept : action event.2.1 ≠ some (.release lock)) :
    holder action lock (trace ++ [event]) = holder action lock trace := by
  rw [holder_concat]
  rcases acts : action event.2.1 with _ | l | l
  · rfl
  · have different : l ≠ lock := fun same => untaken (same ▸ acts)
    exact if_neg different
  · have different : l ≠ lock := fun same => kept (same ▸ acts)
    exact if_neg different

/-- Only giving a lock up ends holding it. -/
theorem holds_concat_of_held {lock : Lock} {own : History Call Reply}
    {event : Call × Reply} (held : Holds action lock own = true)
    (kept : action event.1 ≠ some (.release lock)) :
    Holds action lock (own ++ [event]) = true := by
  by_cases acquires : action event.1 = some (.acquire lock)
  · simp [holds_concat, acquires]
  · rw [holds_concat_of_untouched acquires kept, held]

/-- In a world that hands out free locks only, among tasks that release only
what they hold, holding a lock by one's own history is being its holder. -/
theorem Trace.Reaches.holder_of_holds {world : World Task Call Reply}
    {scripts rest : Task → Script Call Reply α}
    {trace : Trace Task Call Reply}
    {allowed : Task → History Call Reply → Call → Prop}
    {post : Task → α → History Call Reply → Prop}
    (free : ∀ trace task request reply lock,
      world trace task request reply →
        action request = some (.acquire lock) → holder action lock trace = none)
    (own : ∀ task history request lock, allowed task history request →
      action request = some (.release lock) → Holds action lock history = true)
    (initial : ∀ task, (scripts task).Ensures (allowed task) [] (post task))
    (reached : Trace.Reaches world scripts rest trace) (task : Task)
    (lock : Lock)
    (held : Holds action lock (Trace.ownHistory task trace) = true) :
    holder action lock trace = some task := by
  induction reached generalizing task lock with
  | start => simp at held
  | @step rest trace actor request next reply reached pending admitted ih =>
      have permitted : allowed actor (Trace.ownHistory actor trace) request := by
        have ensures := (reached.ensures initial actor).2
        rw [pending] at ensures
        exact ensures.1
      by_cases acquires : action request = some (.acquire lock)
      · have taken : holder action lock
            (trace ++ [(actor, request, reply)]) = some actor := by
          simp [holder_concat, acquires]
        by_cases same : actor = task
        · rw [taken, same]
        · rw [Trace.ownHistory_concat_other same] at held
          have before := ih task lock held
          rw [free _ _ _ _ lock admitted acquires] at before
          cases before
      by_cases releases : action request = some (.release lock)
      · have byActor := ih actor lock (own _ _ _ lock permitted releases)
        by_cases same : actor = task
        · subst same
          rw [Trace.ownHistory_concat_self] at held
          simp [holds_concat, releases] at held
        · rw [Trace.ownHistory_concat_other same] at held
          have before := ih task lock held
          exact absurd (Option.some.inj (byActor.symm.trans before)) same
      rw [holder_concat_of_untouched acquires releases]
      by_cases same : actor = task
      · subst same
        rw [Trace.ownHistory_concat_self,
          holds_concat_of_untouched acquires releases] at held
        exact ih actor lock held
      · rw [Trace.ownHistory_concat_other same] at held
        exact ih task lock held

end Locks

end SupvanCups
