import SupvanCups.InteractionScript

/-!
# Sessions that make a fixed list of calls

A session whose calls do not depend on what it is told follows a list of calls
and a result.  An error reply ends it early and nothing else does, so the
device only decides how far along the list it gets.
-/

namespace SupvanCups.Session

variable {Call ε ε' α β : Type}

/-- Make a call whose error reply ends the session with a report of it. -/
def request (report : Call → ε → ε') (call : Call) :
    Session Call (Except ε Unit) ε' Unit :=
  (ask call).mapError (report call)

/-- Calls that were all answered without error. -/
def accepted (calls : List Call) : History Call (Except ε Unit) :=
  calls.map fun call => (call, .ok ())

@[simp]
theorem accepted_nil :
    accepted ([] : List Call) = ([] : History Call (Except ε Unit)) :=
  rfl

@[simp]
theorem accepted_cons (call : Call) (calls : List Call) :
    accepted (call :: calls) =
      ((call, .ok ()) :: accepted calls : History Call (Except ε Unit)) :=
  rfl

@[simp]
theorem accepted_append (first second : List Call) :
    accepted (first ++ second) =
      (accepted first ++ accepted second :
        History Call (Except ε Unit)) :=
  List.map_append

/-- What becomes of the calls and the result that follows them. -/
def makeCalls (report : Call → ε → ε')
    (device : Device Call (Except ε Unit)) :
    List Call → Except ε' α → History Call (Except ε Unit) →
      Except ε' α × History Call (Except ε Unit)
  | [], result, history => (result, history)
  | call :: calls, result, history =>
      match device history call with
      | .ok () =>
          makeCalls report device calls result (history ++ [(call, .ok ())])
      | .error error =>
          (.error (report call error), history ++ [(call, .error error)])

/-- On every device the session makes these calls and has this result. -/
def Follows (report : Call → ε → ε')
    (session : Session Call (Except ε Unit) ε' α) (calls : List Call)
    (result : Except ε' α) : Prop :=
  ∀ device history, Script.run device session.run history =
    makeCalls report device calls result history

section Rules

variable {report : Call → ε → ε'}

theorem follows_pure (result : α) :
    Follows report (pure result) [] (.ok result) :=
  fun _ _ => rfl

theorem follows_throw (error : ε') :
    Follows report (throw error : Session Call (Except ε Unit) ε' α) []
      (.error error) :=
  fun _ _ => rfl

theorem follows_request (call : Call) :
    Follows report (request report call) [call] (.ok ()) := by
  intro device history
  unfold request
  rw [run_mapError, run_ask, makeCalls]
  cases device history call <;> rfl

theorem Follows.bind_ok {session : Session Call (Except ε Unit) ε' α}
    {next : α → Session Call (Except ε Unit) ε' β} {value : α}
    {first second : List Call} {result : Except ε' β}
    (head : Follows report session first (.ok value))
    (rest : Follows report (next value) second result) :
    Follows report (session >>= next) (first ++ second) result := by
  intro device history
  rw [run_bind, head]
  clear head
  induction first generalizing history with
  | nil => exact rest device history
  | cons call calls ih =>
      simp only [makeCalls, List.cons_append]
      cases device history call with
      | error error => rfl
      | ok done => exact ih _

end Rules

/-- Either all calls are accepted, or the calls end with the one that is
not. -/
theorem makeCalls_cases (report : Call → ε → ε')
    (device : Device Call (Except ε Unit)) (calls : List Call)
    (result : Except ε' α) (history : History Call (Except ε Unit)) :
    makeCalls report device calls result history =
        (result, history ++ accepted calls) ∨
      ∃ done call rest error, calls = done ++ call :: rest ∧
        makeCalls report device calls result history =
          (.error (report call error),
            history ++ accepted done ++ [(call, .error error)]) := by
  induction calls generalizing history with
  | nil => exact .inl (by simp [makeCalls])
  | cons call calls ih =>
      rw [makeCalls]
      cases device history call with
      | error error => exact .inr ⟨[], call, calls, error, rfl, by simp⟩
      | ok done =>
          rcases ih (history ++ [(call, .ok ())]) with all | stopped
          · exact .inl (by simp [all])
          · obtain ⟨first, last, rest, error, rfl, run⟩ := stopped
            exact .inr ⟨call :: first, last, rest, error, rfl, by simp [run]⟩

theorem makeCalls_accepting (report : Call → ε → ε') (calls : List Call)
    (result : Except ε' α) (history : History Call (Except ε Unit)) :
    makeCalls report (fun _ _ => .ok ()) calls result history =
      (result, history ++ accepted calls) := by
  induction calls generalizing history with
  | nil => simp [makeCalls]
  | cons call calls ih => simp [makeCalls, ih]

section Runs

variable {report : Call → ε → ε'}
  {session : Session Call (Except ε Unit) ε' α} {calls : List Call}
  {result : Except ε' α}

theorem Follows.runOn_accepting
    (follows : Follows report session calls result) :
    runOn (fun _ _ => .ok ()) session = (result, accepted calls) :=
  (follows _ []).trans (makeCalls_accepting report calls result [])

/-- Every call of a run is one of the list. -/
theorem Follows.mem_calls (follows : Follows report session calls result)
    (device : Device Call (Except ε Unit)) {event : Call × Except ε Unit}
    (member : event ∈ (runOn device session).2) : event.1 ∈ calls := by
  have made : ∀ done : List Call, event ∈ (accepted done :
      History Call (Except ε Unit)) → event.1 ∈ done := by
    intro done member
    obtain ⟨call, called, rfl⟩ := List.mem_map.mp member
    exact called
  rw [runOn, follows] at member
  rcases makeCalls_cases report device calls result [] with
    all | ⟨done, call, rest, error, rfl, stopped⟩
  · rw [all] at member
    exact made calls member
  · rw [stopped] at member
    rcases List.mem_append.mp member with earlier | last
    · exact List.mem_append_left _ (made done earlier)
    · obtain rfl := List.mem_singleton.mp last
      simp

/-- A run ends with the result or with the report of an error. -/
theorem Follows.outcome_cases (follows : Follows report session calls result)
    (device : Device Call (Except ε Unit)) :
    (runOn device session).1 = result ∨
      ∃ call error, (runOn device session).1 = .error (report call error) := by
  rw [runOn, follows]
  rcases makeCalls_cases report device calls result [] with
    all | ⟨_, call, _, error, _, stopped⟩
  · exact .inl (by rw [all])
  · exact .inr ⟨call, error, by rw [stopped]⟩

end Runs

end SupvanCups.Session

namespace SupvanCups

/-! ### From runs to scripts -/

namespace Script

variable {Call Reply α : Type} {allowed : History Call Reply → Call → Prop}

/-- A run only depends on what the device answers from there on. -/
theorem run_congr {device other : Device Call Reply}
    (script : Script Call Reply α) {history : History Call Reply}
    (same : ∀ later request, history <+: later →
      device later request = other later request) :
    script.run device history = script.run other history := by
  induction script generalizing history with
  | done result => rfl
  | call request next ih =>
      rw [run, run, same history request (List.prefix_refl history)]
      exact ih _ fun later request longer =>
        same later request ((List.prefix_append _ _).trans longer)

/-- What holds of the runs on every device is ensured. -/
theorem Ensures.of_runs [Nonempty Reply] {script : Script Call Reply α}
    {history : History Call Reply} {post : α → History Call Reply → Prop}
    (permitted : ∀ device before event after,
      (script.run device history).2 = before ++ event :: after →
        history.length ≤ before.length → allowed before event.1)
    (ends : ∀ device,
      post (script.run device history).1 (script.run device history).2) :
    script.Ensures allowed history post := by
  classical
  induction script generalizing history with
  | done result => exact ends fun _ _ => Classical.arbitrary Reply
  | call request next ih =>
      refine ⟨?_, fun reply => ?_⟩
      · let device : Device Call Reply := fun _ _ => Classical.arbitrary Reply
        obtain ⟨more, split⟩ := prefix_run device
          (next (device history request))
          (history ++ [(request, device history request)])
        refine permitted device history (request, device history request) more
          ?_ (Nat.le_refl _)
        rw [Script.run, ← split]
        simp
      · -- The device that answers the first call with this reply.
        let first (device : Device Call Reply) : Device Call Reply :=
          fun past call => if past = history then reply else device past call
        have runs (device : Device Call Reply) :
            (call request next).run (first device) history =
              (next reply).run device (history ++ [(request, reply)]) := by
          have answers : first device history request = reply := if_pos rfl
          rw [Script.run, answers]
          refine run_congr _ fun later call longer => if_neg ?_
          rintro rfl
          have shorter := longer.length_le
          rw [List.length_append, List.length_singleton] at shorter
          omega
        refine ih reply (fun device before event after split longer => ?_)
          fun device => ?_
        · refine permitted (first device) before event after ?_ ?_
          · rw [runs, split]
          · simp only [List.length_append] at longer
            omega
        · rw [← runs]
          exact ends (first device)

end Script

namespace Session

variable {Call ε ε' α : Type}

theorem accepted_injective :
    Function.Injective
      (accepted : List Call → History Call (Except ε Unit)) :=
  List.map_injective_iff.mpr fun _ _ same => (Prod.mk.inj same).1

/-- The session makes its calls in their order, each after the ones before it
were accepted, and has its result after all of them. -/
theorem Follows.ensures {report : Call → ε → ε'}
    {session : Session Call (Except ε Unit) ε' α} {calls : List Call}
    {result : Except ε' α} (follows : Follows report session calls result) :
    Ensures (fun past call => ∃ done rest, calls = done ++ call :: rest ∧
        past = accepted done) session []
      (IfOk fun value past => result = .ok value ∧ past = accepted calls) := by
  have first {done : List Call} {before : History Call (Except ε Unit)}
      {event : Call × Except ε Unit} {after : History Call (Except ε Unit)}
      (split : accepted done = before ++ event :: after) :
      ∃ early late, done = early ++ event.1 :: late ∧
        before = accepted early := by
    obtain ⟨early, late, rfl, isBefore, isAfter⟩ :=
      List.map_eq_append_iff.mp split
    obtain ⟨call, late, rfl, rfl, -⟩ := List.map_eq_cons_iff.mp isAfter
    exact ⟨early, late, rfl, isBefore.symm⟩
  have : Nonempty (Except ε Unit) := ⟨.ok ()⟩
  refine Script.Ensures.of_runs (fun device before event after split _ => ?_)
    fun device => ?_
  · rw [follows] at split
    rcases makeCalls_cases report device calls result [] with
      all | ⟨done, call, rest, error, rfl, stopped⟩
    · rw [all] at split
      obtain ⟨early, late, rfl, isBefore⟩ := first split
      exact ⟨early, late, rfl, isBefore⟩
    · rw [stopped] at split
      rcases List.eq_nil_or_concat after with rfl | ⟨middle, last, rfl⟩
      · obtain ⟨isBefore, same⟩ := List.append_inj' split rfl
        obtain rfl := List.singleton_inj.mp same
        exact ⟨done, rest, rfl, isBefore.symm⟩
      · have shorter : accepted done = before ++ event :: middle := by
          have longer : ([] : History Call (Except ε Unit)) ++
              accepted done ++ [(call, .error error)] =
                (before ++ event :: middle) ++ [last] := by
            simpa using split
          exact (List.append_inj' longer rfl).1
        obtain ⟨early, late, rfl, isBefore⟩ := first shorter
        exact ⟨early, late ++ call :: rest, by simp, isBefore⟩
  · rw [follows]
    rcases makeCalls_cases report device calls result [] with
      all | ⟨done, call, rest, error, -, stopped⟩
    · rw [all]
      cases result with
      | error error => trivial
      | ok value => exact ⟨rfl, rfl⟩
    · rw [stopped]
      trivial

end Session

end SupvanCups
