import SupvanCups.CriticalSections

/-!
# Tasks that can always finish

Tasks that take one lock at a time and give it back never wait for each other
in a circle: the holder of a lock needs no other to go on.  So in every state
that a run can reach, and however the world answers from there on, some
schedule brings any of the tasks to their ends.
-/

namespace SupvanCups

section Progress

variable {Task Call Reply Lock α : Type} [DecidableEq Task]
  [DecidableEq Lock]

/-- The runs that go on from a state when calls are answered in one way. -/
inductive Trace.Leads (world : World Task Call Reply)
    (answer : Trace Task Call Reply → Task → Call → Reply)
    (rest : Task → Script Call Reply α) (trace : Trace Task Call Reply) :
    (Task → Script Call Reply α) → Trace Task Call Reply → Prop
  | start : Leads world answer rest trace rest trace
  | step {left : Task → Script Call Reply α} {later : Trace Task Call Reply}
      {task : Task} {request : Call} {next : Reply → Script Call Reply α}
      (led : Leads world answer rest trace left later)
      (pending : left task = .call request next)
      (admitted : world later task request (answer later task request)) :
      Leads world answer rest trace
        (Function.update left task (next (answer later task request)))
        (later ++ [(task, request, answer later task request)])

variable {world : World Task Call Reply}
  {answer : Trace Task Call Reply → Task → Call → Reply}
  {scripts rest left : Task → Script Call Reply α}
  {trace later : Trace Task Call Reply}

theorem Trace.Leads.trans {last : Task → Script Call Reply α}
    {final : Trace Task Call Reply}
    (first : Leads world answer rest trace left later)
    (second : Leads world answer left later last final) :
    Leads world answer rest trace last final := by
  induction second with
  | start => exact first
  | step _ pending admitted ih => exact ih.step pending admitted

theorem Trace.Reaches.leads (reached : Reaches world scripts rest trace)
    (led : Leads world answer rest trace left later) :
    Reaches world scripts left later := by
  induction led with
  | start => exact reached
  | step _ pending admitted ih => exact ih.step pending admitted

/-- A finished task stays finished. -/
theorem Trace.Leads.done {task : Task} {result : α}
    (led : Leads world answer rest trace left later)
    (done : rest task = .done result) : left task = .done result := by
  induction led with
  | start => exact done
  | @step left later actor request next _ pending _ ih =>
      have other : task ≠ actor := by
        rintro rfl
        rw [ih] at pending
        cases pending
      rw [Function.update_of_ne other, ih]

/-! ### One lock at a time -/

variable (action : Call → Option (LockAction Lock))

/-- A task takes a lock when it holds none and gives back what it holds. -/
structure OneLock (own : History Call Reply) (request : Call) : Prop where
  taken : ∀ lock, action request = some (.acquire lock) → HoldsNone action own
  released : ∀ lock, action request = some (.release lock) →
    Holds action lock own = true

variable {action}

theorem HoldsOnly.unique {own : History Call Reply} {lock other : Lock}
    (only : HoldsOnly action lock own) (held : Holds action other own = true) :
    other = lock :=
  of_decide_eq_true ((only other).symm.trans held)

theorem holdsNone_or_only {own : History Call Reply}
    (lawful : Script.Lawful (OneLock action) own) :
    HoldsNone action own ∨ ∃ lock, HoldsOnly action lock own := by
  induction own using List.reverseRecOn with
  | nil => exact .inl holdsNone_nil
  | append_singleton own event ih =>
      obtain ⟨before, keeps⟩ := Script.Lawful.concat_iff.mp lawful
      rcases acts : action event.1 with _ | lock | lock
      · exact (ih before).imp (·.concat acts) fun ⟨lock, only⟩ =>
          ⟨lock, only.concat acts⟩
      · exact .inr ⟨lock, (keeps.taken lock acts).acquire acts⟩
      · have held := keeps.released lock acts
        rcases ih before with idle | ⟨other, only⟩
        · rw [idle lock] at held
          cases held
        · obtain rfl := only.unique held
          exact .inl (only.release acts)

/-! ### Every task can finish -/

variable
  (answers : ∀ trace task request,
    (∀ lock, action request = some (.acquire lock) →
      holder action lock trace = none) →
    world trace task request (answer trace task request))
  (initial : ∀ task, (scripts task).Ensures (OneLock action) []
    fun _ later => HoldsNone action later)

include answers initial

/-- The holder of a lock gives it back by its own steps. -/
theorem Trace.Reaches.releases (reached : Reaches world scripts rest trace)
    {task : Task} {lock : Lock}
    (held : Holds action lock (ownHistory task trace) = true) :
    ∃ left later, Leads world answer rest trace left later ∧
      holder action lock later = none ∧
      ∀ other, other ≠ task → left other = rest other := by
  generalize pending : rest task = script
  induction script generalizing rest trace with
  | done result =>
      have ensures := (reached.ensures initial task).2
      rw [pending] at ensures
      have idle : HoldsNone action (ownHistory task trace) := ensures
      rw [idle lock] at held
      cases held
  | call request next ih =>
      obtain ⟨lawful, ensures⟩ := reached.ensures initial task
      rw [pending] at ensures
      have keeps : OneLock action (ownHistory task trace) request := ensures.1
      have untaken (other : Lock) :
          action request ≠ some (.acquire other) := by
        intro acquires
        rw [keeps.taken other acquires lock] at held
        cases held
      let reply := answer trace task request
      have admitted : world trace task request reply :=
        answers _ _ _ fun other acquires => absurd acquires (untaken other)
      have once : Leads world answer rest trace
          (Function.update rest task (next reply))
          (trace ++ [(task, request, reply)]) :=
        .step .start pending admitted
      rcases acts : action request with _ | other | other
      · have still : Holds action lock
            (ownHistory task (trace ++ [(task, request, reply)])) = true := by
          rw [ownHistory_concat_self]
          exact holds_concat_of_held held (by simp [acts])
        obtain ⟨left, later, led, released, apart⟩ :=
          ih reply (reached.step pending admitted) still
            (Function.update_self ..)
        refine ⟨left, later, once.trans led, released, fun other differs => ?_⟩
        rw [apart other differs, Function.update_of_ne differs]
      · exact absurd acts (untaken other)
      · have theirs := keeps.released other acts
        obtain rfl : lock = other := by
          rcases holdsNone_or_only lawful with idle | ⟨one, only⟩
          · rw [idle lock] at held
            cases held
          · exact (only.unique held).trans (only.unique theirs).symm
        refine ⟨_, _, once, ?_, fun other differs =>
          Function.update_of_ne differs ..⟩
        simp [holder_concat, acts]

/-- Some schedule brings a task to its end. -/
theorem Trace.Reaches.finishes (reached : Reaches world scripts rest trace)
    (task : Task) :
    ∃ left later result, Leads world answer rest trace left later ∧
      left task = .done result := by
  generalize pending : rest task = script
  induction script generalizing rest trace with
  | done result => exact ⟨rest, trace, result, .start, pending⟩
  | call request next ih =>
      -- First whoever holds the lock that the task waits for gives it back.
      obtain ⟨left, later, led, waiting, granted⟩ : ∃ left later,
          Leads world answer rest trace left later ∧
          left task = .call request next ∧
          ∀ lock, action request = some (.acquire lock) →
            holder action lock later = none := by
        by_cases acquires : ∃ lock, action request = some (.acquire lock)
        · obtain ⟨lock, acquires⟩ := acquires
          have unique (other : Lock)
              (same : action request = some (.acquire other)) :
              other = lock := by
            simpa using same.symm.trans acquires
          rcases taken : holder action lock trace with _ | other
          · refine ⟨rest, trace, .start, pending, fun other same => ?_⟩
            rw [unique other same, taken]
          · have held := reached.holds_of_holder taken
            have different : task ≠ other := by
              rintro rfl
              have ensures := (reached.ensures initial task).2
              rw [pending] at ensures
              have keeps : OneLock action (ownHistory task trace) request :=
                ensures.1
              rw [keeps.taken lock acquires lock] at held
              cases held
            obtain ⟨left, later, led, released, apart⟩ :=
              reached.releases answers initial held
            refine ⟨left, later, led, (apart task different).trans pending,
              fun other same => ?_⟩
            rw [unique other same, released]
        · exact ⟨rest, trace, .start, pending, fun lock same =>
            absurd ⟨lock, same⟩ acquires⟩
      have admitted := answers later task request granted
      obtain ⟨last, final, result, finishes, done⟩ :=
        ih (answer later task request)
          ((reached.leads led).step waiting admitted)
          (Function.update_self ..)
      exact ⟨last, final, result,
        (led.step waiting admitted).trans finishes, done⟩

/-- Some schedule brings a group of tasks to their ends. -/
theorem Trace.Reaches.finishAll (reached : Reaches world scripts rest trace)
    (group : List Task) :
    ∃ left later, Leads world answer rest trace left later ∧
      ∀ task ∈ group, ∃ result, left task = .done result := by
  induction group generalizing rest trace with
  | nil => exact ⟨rest, trace, .start, nofun⟩
  | cons task group ih =>
      obtain ⟨left, later, result, led, done⟩ :=
        reached.finishes answers initial task
      obtain ⟨last, final, finishes, allDone⟩ := ih (reached.leads led)
      refine ⟨last, final, led.trans finishes, fun other member => ?_⟩
      rcases List.mem_cons.mp member with rfl | later
      · exact ⟨result, finishes.done done⟩
      · exact allDone other later

end Progress

end SupvanCups
