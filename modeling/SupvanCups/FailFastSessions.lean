import SupvanCups.InteractionScript

/-!
# Sessions that stop at the first error

Most operations issue their calls one by one and give up at the first error
reply, with that error.  Of such a session one knows at every call that all
calls before it were accepted.  The sessions are closed under sequencing.
-/

namespace SupvanCups

namespace Script

variable {Call ε ρ α β : Type}

/-- Every call is permitted, and the script ends with the error of the first
error reply. -/
def FailFast (permitted : Call → Prop) :
    Script Call (Except ε ρ) (Except ε α) → Prop
  | done _ => True
  | call request next =>
      permitted request ∧
        (∀ error, next (.error error) = done (.error error)) ∧
        ∀ reply, (next (.ok reply)).FailFast permitted

/-- All calls were permitted and accepted. -/
def AllAccepted (permitted : Call → Prop)
    (history : History Call (Except ε ρ)) : Prop :=
  ∀ event ∈ history, permitted event.1 ∧ ∃ reply, event.2 = .ok reply

variable {permitted : Call → Prop}

theorem AllAccepted.concat {history : History Call (Except ε ρ)}
    (accepted : AllAccepted permitted history) {request : Call}
    (permits : permitted request) (reply : ρ) :
    AllAccepted permitted (history ++ [(request, .ok reply)]) := by
  intro event member
  rcases List.mem_append.mp member with earlier | last
  · exact accepted event earlier
  · obtain rfl := List.mem_singleton.mp last
    exact ⟨permits, reply, rfl⟩

theorem FailFast.bind {script : Script Call (Except ε ρ) (Except ε α)}
    {next : Except ε α → Script Call (Except ε ρ) (Except ε β)}
    (first : script.FailFast permitted)
    (failed : ∀ error, next (.error error) = done (.error error))
    (rest : ∀ result, (next (.ok result)).FailFast permitted) :
    (script.bind next).FailFast permitted := by
  induction script with
  | done outcome =>
      cases outcome with
      | error error =>
          rw [Script.bind, failed]
          trivial
      | ok result => exact rest result
  | call request reply ih =>
      refine ⟨first.1, fun error => ?_, fun answer => ih _ (first.2.2 answer)⟩
      show (reply (.error error)).bind next = _
      rw [first.2.1, Script.bind, failed]

theorem FailFast.imp {wide : Call → Prop}
    {script : Script Call (Except ε ρ) (Except ε α)}
    (failFast : script.FailFast permitted)
    (permits : ∀ request, permitted request → wide request) :
    script.FailFast wide := by
  induction script with
  | done outcome => trivial
  | call request next ih =>
      exact ⟨permits request failFast.1, failFast.2.1,
        fun reply => ih _ (failFast.2.2 reply)⟩

theorem FailFast.only {script : Script Call (Except ε ρ) (Except ε α)}
    (failFast : script.FailFast permitted) : script.Only permitted := by
  induction script with
  | done outcome => trivial
  | call request next ih =>
      refine ⟨failFast.1, fun reply => ?_⟩
      cases reply with
      | error error =>
          rw [failFast.2.1]
          trivial
      | ok reply => exact ih _ (failFast.2.2 reply)

/-- Before every call all calls were accepted, and after a session that ends
well all are. -/
theorem FailFast.ensures {script : Script Call (Except ε ρ) (Except ε α)}
    (failFast : script.FailFast permitted)
    {history : History Call (Except ε ρ)}
    (accepted : AllAccepted permitted history) :
    script.Ensures
      (fun past request => AllAccepted permitted past ∧ permitted request)
      history
      (Session.IfOk fun _ later => AllAccepted permitted later) := by
  induction script generalizing history with
  | done outcome =>
      cases outcome with
      | error error => trivial
      | ok result => exact accepted
  | call request next ih =>
      refine ⟨⟨accepted, failFast.1⟩, fun reply => ?_⟩
      cases reply with
      | error error =>
          rw [failFast.2.1]
          trivial
      | ok reply =>
          exact ih _ (failFast.2.2 reply) (accepted.concat failFast.1 reply)

end Script

namespace Session

variable {Call ε ε' ρ α β : Type} {permitted : Call → Prop}

/-! ### Rules -/

structure FailFast (permitted : Call → Prop)
    (session : Session Call (Except ε ρ) ε α) : Prop where
  script : Script.FailFast permitted session.run

theorem failFast_pure (result : α) :
    FailFast permitted (pure result : Session Call (Except ε ρ) ε α) :=
  ⟨trivial⟩

theorem failFast_throw (error : ε) :
    FailFast permitted (throw error : Session Call (Except ε ρ) ε α) :=
  ⟨trivial⟩

theorem failFast_ask {request : Call} (permits : permitted request) :
    FailFast permitted (ask request : Session Call (Except ε α) ε α) :=
  ⟨permits, fun _ => rfl, fun _ => trivial⟩

theorem FailFast.bind {session : Session Call (Except ε ρ) ε α}
    {next : α → Session Call (Except ε ρ) ε β}
    (first : FailFast permitted session)
    (rest : ∀ result, FailFast permitted (next result)) :
    FailFast permitted (session >>= next) :=
  ⟨first.script.bind (fun _ => rfl) fun result => (rest result).script⟩

theorem FailFast.imp {wide : Call → Prop}
    {session : Session Call (Except ε ρ) ε α}
    (failFast : FailFast permitted session)
    (permits : ∀ request, permitted request → wide request) :
    FailFast wide session :=
  ⟨failFast.script.imp permits⟩

/-- Every call the session can make is permitted. -/
structure Only {Reply : Type} (permitted : Call → Prop)
    (session : Session Call Reply ε α) : Prop where
  script : Script.Only permitted session.run

theorem FailFast.only {session : Session Call (Except ε ρ) ε α}
    (failFast : FailFast permitted session) : Only permitted session :=
  ⟨failFast.script.only⟩

section Only

variable {Reply : Type}

theorem only_pure (result : α) :
    Only permitted (pure result : Session Call Reply ε α) :=
  ⟨trivial⟩

theorem only_throw (error : ε) :
    Only permitted (throw error : Session Call Reply ε α) :=
  ⟨trivial⟩

theorem Only.bind {session : Session Call Reply ε α}
    {next : α → Session Call Reply ε β} (first : Only permitted session)
    (rest : ∀ result, Only permitted (next result)) :
    Only permitted (session >>= next) := by
  refine ⟨first.script.bind fun outcome => ?_⟩
  cases outcome with
  | error error => trivial
  | ok result => exact (rest result).script

theorem Only.mapError {session : Session Call Reply ε α} (report : ε → ε')
    (only : Only permitted session) :
    Only permitted (session.mapError report) :=
  ⟨only.script.bind fun _ => trivial⟩

/-- Run a session and go on however it ends. -/
def attempt (session : Session Call Reply ε α) : Session Call Reply ε' Unit :=
  ExceptT.mk (session.run.bind fun _ => .done (.ok ()))

theorem Only.attempt {session : Session Call Reply ε α}
    (only : Only permitted session) :
    Only permitted (session.attempt : Session Call Reply ε' Unit) :=
  ⟨only.script.bind fun _ => trivial⟩

end Only

end Session

theorem Script.interpret_bind {Call Reply Low LowReply α β : Type}
    (handler : Call → Script Low LowReply Reply)
    (script : Script Call Reply α) (next : α → Script Call Reply β) :
    (script.bind next).interpret handler =
      (script.interpret handler).bind fun result =>
        (next result).interpret handler := by
  induction script with
  | done result => rfl
  | call request reply ih =>
      simp only [Script.bind, Script.interpret, ih]
      generalize handler request = carried
      induction carried with
      | done answer => rfl
      | call low rest again => exact congrArg _ (funext again)

theorem Script.bind_done {Call Reply α : Type}
    (script : Script Call Reply α) :
    (script.bind fun result => .done result) = script := by
  induction script with
  | done result => rfl
  | call request next ih =>
      show Script.call request _ = _
      congr 1
      funext reply
      exact ih reply

theorem Script.bind_assoc {Call Reply α β γ : Type}
    (script : Script Call Reply α) (next : α → Script Call Reply β)
    (last : β → Script Call Reply γ) :
    (script.bind next).bind last =
      script.bind fun result => (next result).bind last := by
  induction script with
  | done result => rfl
  | call request reply ih =>
      simp only [Script.bind]
      congr 1
      funext answer
      exact ih answer

/-- A session whose errors are reported otherwise, over another link. -/
theorem Session.interpret_mapError_bind
    {Call Reply Low LowReply ε ε' α β : Type}
    (handler : Call → Script Low LowReply Reply) (report : ε → ε')
    (session : Session Call Reply ε α)
    (next : α → Session Call Reply ε' β) :
    (session.mapError report >>= next).run.interpret handler =
      (session.run.interpret handler).bind fun result =>
        match result with
        | .error error => .done (.error (report error))
        | .ok value => (next value).run.interpret handler := by
  show Script.interpret handler (Script.bind (Script.bind _ _) _) = _
  rw [Script.bind_assoc, Script.interpret_bind]
  congr 1
  funext result
  cases result <;> rfl

/-- Two links on top of each other are one link. -/
theorem Script.interpret_interpret
    {Call Reply Mid MidReply Low LowReply α : Type}
    (upper : Call → Script Mid MidReply Reply)
    (lower : Mid → Script Low LowReply MidReply)
    (script : Script Call Reply α) :
    (script.interpret upper).interpret lower =
      script.interpret fun request => (upper request).interpret lower := by
  induction script with
  | done result => rfl
  | call request next ih =>
      rw [Script.interpret, Script.interpret_bind]
      simp only [ih]
      rfl

/-- What two sets of rules allow is allowed by both together. -/
theorem Script.Ensures.and {Call Reply α : Type}
    {script : Script Call Reply α} {history : History Call Reply}
    {first second : History Call Reply → Call → Prop}
    {firstPost secondPost : α → History Call Reply → Prop}
    (firstEnsures : script.Ensures first history firstPost)
    (secondEnsures : script.Ensures second history secondPost) :
    script.Ensures
      (fun past request => first past request ∧ second past request) history
      (fun result later =>
        firstPost result later ∧ secondPost result later) := by
  induction script generalizing history with
  | done result => exact ⟨firstEnsures, secondEnsures⟩
  | call request next ih =>
      exact ⟨⟨firstEnsures.1, secondEnsures.1⟩,
        fun reply => ih reply (firstEnsures.2 reply) (secondEnsures.2 reply)⟩

end SupvanCups
