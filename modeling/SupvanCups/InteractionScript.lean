import Mathlib.Data.List.Infix

/-!
# Programs that talk to a device

A script is a program that issues calls one at a time and continues with each
reply.  It is a well-founded tree, so it always ends, whatever the device
answers.  A device is any function from the past exchange to the next reply.

`Ensures` is the weakest precondition of a script over every device: each call
must be allowed by the history before it, and the result must satisfy a
postcondition together with the whole history.  It has one rule for each way
of building a script, and one for translating a script to another set of calls.
-/

namespace SupvanCups

/-- A program that issues calls and continues with their replies. -/
inductive Script (Call Reply α : Type) where
  | done (result : α)
  | call (request : Call) (next : Reply → Script Call Reply α)

/-- The calls made so far with the replies they got, oldest first. -/
abbrev History (Call Reply : Type) := List (Call × Reply)

/-- What answers a call, given everything exchanged before it. -/
abbrev Device (Call Reply : Type) := History Call Reply → Call → Reply

namespace Script

variable {Call Reply Low LowReply α β ε : Type}

def bind : Script Call Reply α → (α → Script Call Reply β) →
    Script Call Reply β
  | done result, next => next result
  | call request reply, next =>
      call request fun answer => (reply answer).bind next

instance : Monad (Script Call Reply) where
  pure := done
  bind := bind

def ask (request : Call) : Script Call Reply Reply :=
  call request done

def run (device : Device Call Reply) :
    Script Call Reply α → History Call Reply → α × History Call Reply
  | done result, history => (result, history)
  | call request next, history =>
      let reply := device history request
      (next reply).run device (history ++ [(request, reply)])

/-- Carry out every call of a script by a script over other calls. -/
def interpret (handler : Call → Script Low LowReply Reply) :
    Script Call Reply α → Script Low LowReply α
  | done result => done result
  | call request next =>
      (handler request).bind fun reply => (next reply).interpret handler

/-- Every entry of a history was allowed by the entries before it. -/
def Lawful (allowed : History Call Reply → Call → Prop)
    (history : History Call Reply) : Prop :=
  ∀ before event after, history = before ++ event :: after →
    allowed before event.1

/-- Against every device, each call is allowed by the history before it and
the outcome satisfies the postcondition. -/
def Ensures (allowed : History Call Reply → Call → Prop) :
    Script Call Reply α → History Call Reply →
      (α → History Call Reply → Prop) → Prop
  | done result, history, post => post result history
  | call request next, history, post =>
      allowed history request ∧
        ∀ reply, (next reply).Ensures allowed (history ++ [(request, reply)])
          post

variable {allowed : History Call Reply → Call → Prop}

theorem Lawful.nil : Lawful allowed [] := by
  intro before event after split
  simp at split

theorem Lawful.concat {history : History Call Reply} {request : Call}
    (lawful : Lawful allowed history) (permitted : allowed history request)
    (reply : Reply) :
    Lawful allowed (history ++ [(request, reply)]) := by
  intro before event after split
  rcases List.eq_nil_or_concat after with rfl | ⟨rest, last, rfl⟩
  · obtain ⟨rfl, same⟩ := List.append_inj' split rfl
    obtain rfl := List.singleton_inj.mp same
    exact permitted
  · have shorter : history ++ [(request, reply)] =
        (before ++ event :: rest) ++ [last] := by
      simpa using split
    exact lawful before event rest (List.append_inj' shorter rfl).1

theorem Lawful.concat_iff {history : History Call Reply}
    {event : Call × Reply} :
    Lawful allowed (history ++ [event]) ↔
      Lawful allowed history ∧ allowed history event.1 := by
  constructor
  · intro lawful
    refine ⟨fun before middle after split => ?_, ?_⟩
    · exact lawful before middle (after ++ [event]) (by simp [split])
    · exact lawful history event [] rfl
  · rintro ⟨lawful, permitted⟩
    exact lawful.concat permitted event.2

/-! ### Rules -/

theorem Ensures.bind {script : Script Call Reply α}
    {next : α → Script Call Reply β} {history : History Call Reply}
    (middle : α → History Call Reply → Prop)
    {post : β → History Call Reply → Prop}
    (first : script.Ensures allowed history middle)
    (rest : ∀ result later, middle result later →
      (next result).Ensures allowed later post) :
    (script.bind next).Ensures allowed history post := by
  induction script generalizing history with
  | done result => exact rest result history first
  | call request reply ih =>
      exact ⟨first.1, fun answer => ih answer (first.2 answer)⟩

theorem Ensures.consequence {script : Script Call Reply α}
    {history : History Call Reply}
    {strong weak : α → History Call Reply → Prop}
    (ensures : script.Ensures allowed history strong)
    (weaken : ∀ result later, strong result later → weak result later) :
    script.Ensures allowed history weak := by
  induction script generalizing history with
  | done result => exact weaken result history ensures
  | call request next ih =>
      exact ⟨ensures.1, fun reply => ih reply (ensures.2 reply)⟩

/-- What is allowed under stricter rules is allowed under laxer ones. -/
theorem Ensures.permit {script : Script Call Reply α}
    {strict lax : History Call Reply → Call → Prop}
    {history : History Call Reply} {post : α → History Call Reply → Prop}
    (ensures : script.Ensures strict history post)
    (permits : ∀ later request, strict later request → lax later request) :
    script.Ensures lax history post := by
  induction script generalizing history with
  | done result => exact ensures
  | call request next ih =>
      exact ⟨permits history request ensures.1,
        fun reply => ih reply (ensures.2 reply)⟩

/-- What is ensured holds of every run. -/
theorem Ensures.run {script : Script Call Reply α}
    {history : History Call Reply} {post : α → History Call Reply → Prop}
    (ensures : script.Ensures allowed history post)
    (lawful : Lawful allowed history) (device : Device Call Reply) :
    Lawful allowed (script.run device history).2 ∧
      post (script.run device history).1 (script.run device history).2 := by
  induction script generalizing history with
  | done result => exact ⟨lawful, ensures⟩
  | call request next ih =>
      exact ih (device history request) (ensures.2 _)
        (lawful.concat ensures.1 _)

/-- An invariant that calls keep, and that allows every call, holds after any
script. -/
theorem Ensures.of_stable (inv : History Call Reply → Prop)
    (stable : ∀ history event, inv history → inv (history ++ [event]))
    (allows : ∀ history request, inv history → allowed history request)
    (script : Script Call Reply α) {history : History Call Reply}
    (holds : inv history) :
    script.Ensures allowed history fun _ later => inv later := by
  induction script generalizing history with
  | done result => exact holds
  | call request next ih =>
      exact ⟨allows history request holds,
        fun reply => ih reply (stable history _ holds)⟩

theorem run_bind (device : Device Call Reply) (script : Script Call Reply α)
    (next : α → Script Call Reply β) (history : History Call Reply) :
    (script.bind next).run device history =
      (next (script.run device history).1).run device
        (script.run device history).2 := by
  induction script generalizing history with
  | done result => rfl
  | call request reply ih => exact ih _ _

theorem prefix_run (device : Device Call Reply) (script : Script Call Reply α)
    (history : History Call Reply) :
    history <+: (script.run device history).2 := by
  induction script generalizing history with
  | done result => exact List.prefix_refl history
  | call request next ih => exact (List.prefix_append _ _).trans (ih _ _)

/-- If every call is carried out so that a relation between the two histories
is kept, whatever a script ensures holds of the script that carries it out. -/
theorem Ensures.interpret {handler : Call → Script Low LowReply Reply}
    {lowAllowed : History Low LowReply → Low → Prop}
    (related : History Call Reply → History Low LowReply → Prop)
    (carriesOut : ∀ high low request, related high low →
      allowed high request →
        (handler request).Ensures lowAllowed low fun reply later =>
          related (high ++ [(request, reply)]) later)
    {script : Script Call Reply α} {high : History Call Reply}
    {low : History Low LowReply} {post : α → History Call Reply → Prop}
    (start : related high low)
    (ensures : script.Ensures allowed high post) :
    (script.interpret handler).Ensures lowAllowed low fun result later =>
      ∃ past, related past later ∧ post result past := by
  induction script generalizing high low with
  | done result => exact ⟨high, start, ensures⟩
  | call request next ih =>
      exact (carriesOut high low request start ensures.1).bind _
        fun reply later kept => ih reply kept (ensures.2 reply)

/-- If every call is carried out with the reply the device above would give,
the script that carries them out ends like the script above. -/
theorem run_interpret {handler : Call → Script Low LowReply Reply}
    (device : Device Call Reply) (lowDevice : Device Low LowReply)
    (related : History Call Reply → History Low LowReply → Prop)
    (carriesOut : ∀ high low request, related high low →
      ∃ later, (handler request).run lowDevice low =
          (device high request, later) ∧
        related (high ++ [(request, device high request)]) later)
    (script : Script Call Reply α) {high : History Call Reply}
    {low : History Low LowReply} (start : related high low) :
    ∃ later, (script.interpret handler).run lowDevice low =
        ((script.run device high).1, later) ∧
      related (script.run device high).2 later := by
  induction script generalizing high low with
  | done result => exact ⟨low, rfl, start⟩
  | call request next ih =>
      obtain ⟨middle, run, kept⟩ := carriesOut high low request start
      obtain ⟨later, rest, last⟩ := ih (device high request) kept
      refine ⟨later, ?_, last⟩
      rw [Script.interpret, run_bind, run]
      exact rest

/-! ### Which calls a script makes -/

/-- Every call the script can make is permitted. -/
def Only (permitted : Call → Prop) : Script Call Reply α → Prop
  | done _ => True
  | call request next =>
      permitted request ∧ ∀ reply, (next reply).Only permitted

section Only

variable {permitted : Call → Prop}

theorem only_ask {request : Call} (permits : permitted request) :
    (ask request : Script Call Reply Reply).Only permitted :=
  ⟨permits, fun _ => trivial⟩

theorem Only.bind {script : Script Call Reply α}
    {next : α → Script Call Reply β} (first : script.Only permitted)
    (rest : ∀ result, (next result).Only permitted) :
    (script.bind next).Only permitted := by
  induction script with
  | done result => exact rest result
  | call request reply ih =>
      exact ⟨first.1, fun answer => ih answer (first.2 answer)⟩

theorem Only.interpret {handler : Call → Script Low LowReply Reply}
    {lowPermitted : Low → Prop}
    (carriesOut : ∀ request, (handler request).Only lowPermitted)
    (script : Script Call Reply α) :
    (script.interpret handler).Only lowPermitted := by
  induction script with
  | done result => trivial
  | call request next ih => exact (carriesOut request).bind ih

theorem Only.run {script : Script Call Reply α} (only : script.Only permitted)
    (device : Device Call Reply) (history : History Call Reply) :
    ∀ event ∈ (script.run device history).2,
      event ∈ history ∨ permitted event.1 := by
  induction script generalizing history with
  | done result => exact fun event member => .inl member
  | call request next ih =>
      intro event member
      rcases ih _ (only.2 _) _ event member with before | permits
      · rcases List.mem_append.mp before with earlier | here
        · exact .inl earlier
        · obtain rfl := List.mem_singleton.mp here
          exact .inr only.1
      · exact .inr permits

end Only

end Script

/-! ### Scripts that can fail -/

/-- A script that ends with a result or an error. -/
abbrev Session (Call Reply ε : Type) := ExceptT ε (Script Call Reply)

namespace Session

variable {Call Reply Low LowReply α β ε : Type}

/-- Issue one call; an error reply ends the session. -/
def ask (request : Call) : Session Call (Except ε α) ε α :=
  ExceptT.mk (Script.ask request)

def interpret (handler : Call → Script Low LowReply Reply)
    (session : Session Call Reply ε α) : Session Low LowReply ε α :=
  ExceptT.mk (session.run.interpret handler)

def mapError {ε' : Type} (report : ε → ε') (session : Session Call Reply ε α) :
    Session Call Reply ε' α :=
  ExceptT.mk (session.run.bind fun outcome =>
    .done (outcome.mapError report))

def Ensures (allowed : History Call Reply → Call → Prop)
    (session : Session Call Reply ε α) (history : History Call Reply)
    (post : Except ε α → History Call Reply → Prop) : Prop :=
  Script.Ensures allowed session.run history post

variable {allowed : History Call Reply → Call → Prop}

theorem ensures_pure {result : α} {history : History Call Reply}
    {post : Except ε α → History Call Reply → Prop}
    (holds : post (.ok result) history) :
    Ensures allowed (pure result) history post :=
  holds

theorem ensures_throw {error : ε} {history : History Call Reply}
    {post : Except ε α → History Call Reply → Prop}
    (holds : post (.error error) history) :
    Ensures allowed (throw error : Session Call Reply ε α) history post :=
  holds

theorem ensures_ask {allowed : History Call (Except ε α) → Call → Prop}
    {request : Call} {history : History Call (Except ε α)}
    {post : Except ε α → History Call (Except ε α) → Prop}
    (permitted : allowed history request)
    (holds : ∀ reply, post reply (history ++ [(request, reply)])) :
    Ensures allowed (ask request) history post :=
  ⟨permitted, holds⟩

/-- An error skips the rest of the session. -/
theorem ensures_bind {session : Session Call Reply ε α}
    {next : α → Session Call Reply ε β} {history : History Call Reply}
    (middle : Except ε α → History Call Reply → Prop)
    {post : Except ε β → History Call Reply → Prop}
    (first : Ensures allowed session history middle)
    (failed : ∀ error later, middle (.error error) later →
      post (.error error) later)
    (rest : ∀ result later, middle (.ok result) later →
      Ensures allowed (next result) later post) :
    Ensures allowed (session >>= next) history post := by
  apply Script.Ensures.bind middle first
  intro outcome later reached
  cases outcome with
  | error error => exact failed error later reached
  | ok result => exact rest result later reached

def runOn (device : Device Call Reply) (session : Session Call Reply ε α) :
    Except ε α × History Call Reply :=
  Script.run device session.run []

/-- A run of two sessions in a row stops at an error of the first. -/
theorem run_bind (device : Device Call Reply) (session : Session Call Reply ε α)
    (next : α → Session Call Reply ε β) (history : History Call Reply) :
    Script.run device (session >>= next).run history =
      match Script.run device session.run history with
      | (.ok result, later) => Script.run device (next result).run later
      | (.error error, later) => (.error error, later) := by
  apply (Script.run_bind device session.run _ history).trans
  rcases Script.run device session.run history with ⟨error | result, later⟩
  · rfl
  · rfl

/-- A longer session starts with the calls of its first part. -/
theorem prefix_run_bind (device : Device Call Reply)
    (session : Session Call Reply ε α) (next : α → Session Call Reply ε β)
    (history : History Call Reply) :
    (Script.run device session.run history).2 <+:
      (Script.run device (session >>= next).run history).2 := by
  rw [run_bind]
  rcases Script.run device session.run history with ⟨error | result, later⟩
  · exact List.prefix_refl later
  · exact Script.prefix_run device _ later

theorem run_pure (device : Device Call Reply) (result : α)
    (history : History Call Reply) :
    Script.run device (pure result : Session Call Reply ε α).run history =
      (.ok result, history) :=
  rfl

theorem run_ask (device : Device Call (Except ε α)) (request : Call)
    (history : History Call (Except ε α)) :
    Script.run device (ask request).run history =
      (device history request,
        history ++ [(request, device history request)]) :=
  rfl

theorem run_mapError {ε' : Type} (report : ε → ε') (device : Device Call Reply)
    (session : Session Call Reply ε α) (history : History Call Reply) :
    Script.run device (session.mapError report).run history =
      ((Script.run device session.run history).1.mapError report,
        (Script.run device session.run history).2) :=
  Script.run_bind device session.run _ history

theorem Ensures.run {session : Session Call Reply ε α}
    {history : History Call Reply}
    {post : Except ε α → History Call Reply → Prop}
    (ensures : Ensures allowed session history post)
    (lawful : Script.Lawful allowed history) (device : Device Call Reply) :
    Script.Lawful allowed (Script.run device session.run history).2 ∧
      post (Script.run device session.run history).1
        (Script.run device session.run history).2 :=
  Script.Ensures.run ensures lawful device

theorem Ensures.runOn {session : Session Call Reply ε α}
    {post : Except ε α → History Call Reply → Prop}
    (ensures : Ensures allowed session [] post) (device : Device Call Reply) :
    Script.Lawful allowed (runOn device session).2 ∧
      post (runOn device session).1 (runOn device session).2 :=
  ensures.run Script.Lawful.nil device

theorem Ensures.consequence {session : Session Call Reply ε α}
    {history : History Call Reply}
    {strong weak : Except ε α → History Call Reply → Prop}
    (ensures : Ensures allowed session history strong)
    (weaken : ∀ outcome later, strong outcome later → weak outcome later) :
    Ensures allowed session history weak :=
  Script.Ensures.consequence ensures weaken

/-- A postcondition that says nothing about sessions that fail. -/
def IfOk (post : α → History Call Reply → Prop) :
    Except ε α → History Call Reply → Prop
  | .ok result, history => post result history
  | .error _, _ => True

@[simp]
theorem ifOk_ok {post : α → History Call Reply → Prop} {result : α}
    {history : History Call Reply} :
    IfOk (ε := ε) post (.ok result) history ↔ post result history :=
  Iff.rfl

@[simp]
theorem ifOk_error {post : α → History Call Reply → Prop} {error : ε}
    {history : History Call Reply} : IfOk post (.error error) history :=
  trivial

/-- What a run that ended well leaves, whatever it was allowed to call. -/
theorem Ensures.of_run_ok {session : Session Call Reply ε α}
    {history later : History Call Reply} {device : Device Call Reply}
    {result : α} (post : α → History Call Reply → Prop)
    (ensures : Ensures (fun _ _ => True) session history (IfOk post))
    (ran : Script.run device session.run history = (.ok result, later)) :
    post result later := by
  have holds := (ensures.run (fun _ _ _ _ => trivial) device).2
  rw [ran] at holds
  exact holds

theorem Ensures.weakenOk {session : Session Call Reply ε α}
    {history : History Call Reply}
    {strong weak : α → History Call Reply → Prop}
    (ensures : Ensures allowed session history (IfOk strong))
    (weaken : ∀ result later, strong result later → weak result later) :
    Ensures allowed session history (IfOk weak) := by
  apply ensures.consequence
  intro outcome later holds
  cases outcome with
  | error error => exact ifOk_error
  | ok result => exact weaken result later holds

theorem ensures_throw_ifOk {error : ε} {history : History Call Reply}
    {post : α → History Call Reply → Prop} :
    Ensures allowed (throw error : Session Call Reply ε α) history
      (IfOk post) :=
  ensures_throw trivial

theorem ensures_bind_ifOk {session : Session Call Reply ε α}
    {next : α → Session Call Reply ε β} {history : History Call Reply}
    (middle : α → History Call Reply → Prop)
    {post : β → History Call Reply → Prop}
    (first : Ensures allowed session history (IfOk middle))
    (rest : ∀ result later, middle result later →
      Ensures allowed (next result) later (IfOk post)) :
    Ensures allowed (session >>= next) history (IfOk post) :=
  ensures_bind (IfOk middle) first (fun _ _ _ => trivial) rest

theorem ensures_ask_ifOk {allowed : History Call (Except ε α) → Call → Prop}
    {request : Call} {history : History Call (Except ε α)}
    {post : α → History Call (Except ε α) → Prop}
    (permitted : allowed history request)
    (holds : ∀ result, post result (history ++ [(request, .ok result)])) :
    Ensures allowed (ask request) history (IfOk post) := by
  apply ensures_ask permitted
  intro reply
  cases reply with
  | error error => trivial
  | ok result => exact holds result

/-! ### Sessions that end well -/

/-- On this device the session ends without error, and its outcome satisfies
the postcondition. -/
def Succeeds (device : Device Call Reply) (session : Session Call Reply ε α)
    (history : History Call Reply) (post : α → History Call Reply → Prop) :
    Prop :=
  ∃ result later,
    Script.run device session.run history = (.ok result, later) ∧
      post result later

section Succeeds

variable {device : Device Call Reply} {history : History Call Reply}

theorem succeeds_pure {result : α} {post : α → History Call Reply → Prop}
    (holds : post result history) :
    Succeeds device (pure result : Session Call Reply ε α) history post :=
  ⟨result, history, rfl, holds⟩

theorem succeeds_ask {device : Device Call (Except ε α)} {request : Call}
    {history : History Call (Except ε α)} {result : α}
    {post : α → History Call (Except ε α) → Prop}
    (answered : device history request = .ok result)
    (holds : post result (history ++ [(request, .ok result)])) :
    Succeeds device (ask request) history post :=
  ⟨result, _, by rw [run_ask, answered], holds⟩

theorem Succeeds.bind {session : Session Call Reply ε α}
    {next : α → Session Call Reply ε β}
    {middle : α → History Call Reply → Prop}
    {post : β → History Call Reply → Prop}
    (first : Succeeds device session history middle)
    (rest : ∀ result later, middle result later →
      Succeeds device (next result) later post) :
    Succeeds device (session >>= next) history post := by
  obtain ⟨result, later, run, reached⟩ := first
  obtain ⟨final, last, runRest, holds⟩ := rest result later reached
  exact ⟨final, last, by rw [run_bind, run]; exact runRest, holds⟩

theorem Succeeds.imp {session : Session Call Reply ε α}
    {strong weak : α → History Call Reply → Prop}
    (succeeds : Succeeds device session history strong)
    (weaken : ∀ result later, strong result later → weak result later) :
    Succeeds device session history weak := by
  obtain ⟨result, later, run, holds⟩ := succeeds
  exact ⟨result, later, run, weaken result later holds⟩

end Succeeds

end Session

end SupvanCups
