import SupvanCups.FailFastSessions

/-!
# Sessions that write a stream

A session writes a sequence of pieces if at every step the link has got some of
the first of them, and all of them when the session succeeds.  Writing composes
along sequencing, and along carrying out the calls of one link by sessions on
the link below.
-/

namespace SupvanCups

/-- What holds at the start and after every call holds in the end. -/
theorem Script.Ensures.keeps {Call Reply α : Type}
    {inv : History Call Reply → Prop} {script : Script Call Reply α}
    {history : History Call Reply} {post : α → History Call Reply → Prop}
    (ensures : script.Ensures
      (fun now call => ∀ reply, inv (now ++ [(call, reply)])) history post)
    (start : inv history) :
    script.Ensures (fun now call => ∀ reply, inv (now ++ [(call, reply)]))
      history fun result later => inv later ∧ post result later := by
  induction script generalizing history with
  | done result => exact ⟨start, ensures⟩
  | call request next ih =>
      exact ⟨ensures.1, fun reply => ih reply (ensures.2 reply)
        (ensures.1 reply)⟩

namespace Session

variable {Call Low Reply LowReply ρ ε α β γ : Type}

theorem Ensures.permit {strict lax : History Low LowReply → Low → Prop}
    {session : Session Low LowReply ε β} {history : History Low LowReply}
    {post : Except ε β → History Low LowReply → Prop}
    (ensures : Ensures strict session history post)
    (permits : ∀ later request, strict later request → lax later request) :
    Ensures lax session history post :=
  Script.Ensures.permit ensures permits

/-- Wherever it starts, the session adds pieces to the link in their order,
all of them if it succeeds. -/
def Writes (wire : History Low LowReply → List α) (pieces : List α)
    (session : Session Low LowReply ε β) : Prop :=
  ∀ low, Ensures
    (fun now call => ∀ reply, ∃ part, part <+: pieces ∧
      wire (now ++ [(call, reply)]) = wire low ++ part)
    session low (IfOk fun _ later => wire later = wire low ++ pieces)

section Rules

variable {wire : History Low LowReply → List α} {pieces more : List α}

theorem writes_pure (result : β) :
    Writes wire [] (pure result : Session Low LowReply ε β) :=
  fun low => ensures_pure (List.append_nil (wire low)).symm

/-- A call after which the link has got all pieces, however it ends. -/
theorem writes_ask {wire : History Low (Except ε β) → List α} {call : Low}
    (adds : ∀ low reply, wire (low ++ [(call, reply)]) = wire low ++ pieces) :
    Writes wire pieces (ask call : Session Low (Except ε β) ε β) :=
  fun low => ensures_ask_ifOk
    (fun reply => ⟨pieces, List.prefix_refl _, adds low reply⟩)
    fun _ => adds low _

theorem Writes.bind {session : Session Low LowReply ε β}
    {next : β → Session Low LowReply ε γ} (first : Writes wire pieces session)
    (rest : ∀ result, Writes wire more (next result)) :
    Writes wire (pieces ++ more) (session >>= next) := by
  intro low
  apply ensures_bind_ifOk
    (fun _ later => wire later = wire low ++ pieces)
    ((first low).permit ?_)
  · intro result later added
    refine ((rest result later).permit ?_).weakenOk ?_
    · intro now call written reply
      obtain ⟨part, isPart, wrote⟩ := written reply
      exact ⟨pieces ++ part, (List.prefix_append_right_inj pieces).mpr isPart,
        by rw [wrote, added, List.append_assoc]⟩
    · intro _ last grown
      rw [grown, added, List.append_assoc]
  · intro now call written reply
    obtain ⟨part, isPart, wrote⟩ := written reply
    exact ⟨part, isPart.trans (List.prefix_append pieces more), wrote⟩

end Rules

/-- What the calls of a history stand for, all of them carried out. -/
def callWire (pieces : Call → List α) (history : History Call Reply) :
    List α :=
  history.flatMap fun event => pieces event.1

theorem callWire_concat (pieces : Call → List α) (history : History Call Reply)
    (event : Call × Reply) :
    callWire pieces (history ++ [event]) =
      callWire pieces history ++ pieces event.1 := by
  simp [callWire]

/-- A session that stops at errors writes through the link below what its
calls stand for there. -/
theorem Writes.interpret [Nonempty ε] {permitted : Call → Prop}
    {handler : Call → Session Low LowReply ε ρ}
    {lowWire : History Low LowReply → List γ} {callPieces : Call → List α}
    {pieces : List α} (expand : α → List γ)
    (carriesOut : ∀ request, permitted request →
      Writes lowWire ((callPieces request).flatMap expand) (handler request))
    {session : Session Call (Except ε ρ) ε β}
    (failFast : FailFast permitted session)
    (writes : Writes (callWire callPieces) pieces session) :
    Writes lowWire (pieces.flatMap expand)
      (session.interpret fun request => (handler request).run) := by
  intro low
  let related (high : History Call (Except ε ρ))
      (now : History Low LowReply) : Prop :=
    Script.AllAccepted permitted high →
      lowWire now = lowWire low ++ (callWire callPieces high).flatMap expand
  have nothing : Script.AllAccepted (ε := ε) (ρ := ρ) permitted [] := by
    simp [Script.AllAccepted]
  obtain ⟨anyError⟩ := ‹Nonempty ε›
  refine (Script.Ensures.interpret related ?_ (fun _ => by simp [callWire])
    ((failFast.script.ensures nothing).and (writes []))).consequence ?_
  · rintro high now request sofar ⟨⟨accepted, permits⟩, written⟩
    have level := sofar accepted
    have whole : (callWire callPieces high).flatMap expand ++
        (callPieces request).flatMap expand <+: pieces.flatMap expand := by
      obtain ⟨first, ⟨rest, split⟩, wrote⟩ := written (.error anyError)
      rw [callWire_concat] at wrote
      rw [← List.flatMap_append, wrote, ← split]
      simp [callWire]
    refine (Ensures.permit (carriesOut request permits now)
      ?_).consequence ?_
    · intro later call wrote reply
      obtain ⟨part, isPart, partWritten⟩ := wrote reply
      refine ⟨(callWire callPieces high).flatMap expand ++ part,
        ((List.prefix_append_right_inj _).mpr isPart).trans whole, ?_⟩
      rw [partWritten, level, List.append_assoc]
    · intro outcome later added allAccepted
      obtain ⟨-, reply, rfl⟩ := allAccepted (request, outcome) (by simp)
      have grown : lowWire later =
        lowWire now ++ (callPieces request).flatMap expand := added
      rw [grown, level, callWire_concat, List.flatMap_append,
        List.append_assoc]
  · rintro outcome later ⟨high, onWire, accepted, written⟩
    cases outcome with
    | error error => trivial
    | ok result =>
        have allWritten : callWire callPieces high = [] ++ pieces := written
        rw [ifOk_ok, onWire accepted, allWritten, List.nil_append]

end Session

end SupvanCups
