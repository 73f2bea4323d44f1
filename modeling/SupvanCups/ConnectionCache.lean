import SupvanCups.TransferExclusion

/-!
# One connection to each address

An open reuses the cached connection if it answers a `CHECK_DEVICE`, and dials
otherwise.  The lookup, the check, the removal, the dial and the insertion are
steps of their own, so a second call can give up the same entry before the
first has replaced it.  Where a call gives up only while no other is replacing,
and only what the cache still holds, there is never a second connection.
-/

namespace SupvanCups

/-! ### The steps of an open -/

def HostReply.present : HostReply → Bool
  | .wire (.ok (some resp)) => validateResponse resp cmdCheckDevice
  | _ => false

/-- The cache entry that a call gives up with a step: none was found, or the
connection did not answer its `CHECK_DEVICE`. -/
def givesUp : HostCall × HostReply → Option (Option Conn)
  | (.cached _ _, .conn (some _)) => none
  | (.cached _ _, _) => some none
  | (.exchange (.shared conn) (.sendCmd cmd _), reply) =>
      if cmd = cmdCheckDevice ∧ reply.present = false then some (some conn)
      else none
  | _ => none

/-- Where a call is with regard to the cache. -/
inductive OpenPhase
  | looking
  | checking (conn : Conn)
  | stale (checked : Option Conn)
  | cleared
  | dialled (conn : Conn)
  | settled
  deriving DecidableEq

namespace OpenPhase

/-- The call has given up a cache entry and not yet put in another. -/
def replaces : OpenPhase → Bool
  | stale _ => true
  | cleared => true
  | dialled _ => true
  | _ => false

def after (phase : OpenPhase) (event : HostCall × HostReply) : OpenPhase :=
  match givesUp event with
  | some checked => .stale checked
  | none =>
      match event with
      | (.cached _ _, .conn (some conn)) => .checking conn
      | (.uncache _ _, _) => .cleared
      | (.dial _ _, .conn (some conn)) => .dialled conn
      | (.dial _ _, _) => .settled
      | (.cache _ _ _, _) => .settled
      | _ => phase

end OpenPhase

def phaseOf (own : OwnHistory) : OpenPhase :=
  own.foldl OpenPhase.after .looking

@[simp]
theorem phaseOf_concat (own : OwnHistory) (event : HostCall × HostReply) :
    phaseOf (own ++ [event]) = (phaseOf own).after event := by
  simp [phaseOf]

/-- The step that an open may make next. -/
def OpensCached (kind : CacheKind) (addr : String) (own : OwnHistory) :
    HostCall → Prop
  | .cached k a => k = kind ∧ a = addr ∧ phaseOf own = .looking
  | .exchange printer call => call = .sendCmd cmdCheckDevice 0#16 ∧
      ∃ conn, printer = .shared conn ∧ phaseOf own = .checking conn
  | .uncache k a => k = kind ∧ a = addr ∧
      ∃ conn, phaseOf own = .stale (some conn)
  | .dial k a => k = kind ∧ a = addr ∧
      (phaseOf own = .stale none ∨ phaseOf own = .cleared)
  | .cache k a conn => k = kind ∧ a = addr ∧ phaseOf own = .dialled conn
  | .lock _ => True
  | .unlock _ => True
  | .newDevice _ => True
  | _ => False

section Open

variable {kind : CacheKind} {addr : String} {own : OwnHistory}

theorem dialAndCache_opens
    (ready : phaseOf own = .stale none ∨ phaseOf own = .cleared) :
    (dialAndCache kind addr).Ensures (OpensCached kind addr) own
      fun _ _ => True := by
  refine ⟨⟨rfl, rfl, ready⟩, fun reply => ?_⟩
  cases reply with
  | conn opened =>
      cases opened with
      | none => trivial
      | some conn =>
          exact ⟨⟨rfl, rfl, by simp [OpenPhase.after, givesUp]⟩,
            fun _ => trivial⟩
  | _ => trivial

theorem checkDevice_opens {conn : Conn}
    (checking : phaseOf own = .checking conn) :
    (PrinterHandle.shared conn).checkDevice.Ensures (OpensCached kind addr) own
      fun answer later =>
        answer ≠ .ok true → phaseOf later = .stale (some conn) := by
  refine ⟨trivial, fun locked => ⟨⟨rfl, conn, rfl, ?_⟩, fun reply => ?_⟩⟩
  · simp [checking, OpenPhase.after, givesUp]
  · have absent (silent : reply.present = false) (unlocked : HostReply) :
        phaseOf (((own ++ [(.lock conn, locked)]) ++
          [(.exchange (.shared conn) (.sendCmd cmdCheckDevice 0#16), reply)]) ++
            [(.unlock conn, unlocked)]) = .stale (some conn) := by
      simp only [phaseOf_concat, OpenPhase.after, givesUp, silent, and_self,
        if_true]
    cases reply with
    | wire answer =>
        rcases answer with error | _ | resp
        · exact ⟨trivial, fun unlocked _ => absent rfl unlocked⟩
        · exact ⟨trivial, fun unlocked _ => absent rfl unlocked⟩
        · refine ⟨trivial, fun unlocked failed => absent ?_ unlocked⟩
          by_contra answered
          apply failed
          have valid : validateResponse resp cmdCheckDevice = true := by
            simpa [HostReply.present] using answered
          exact congrArg Except.ok valid
    | _ => exact ⟨trivial, fun unlocked _ => absent rfl unlocked⟩

theorem cachedOrDialed_opens (looking : phaseOf own = .looking) :
    (cachedOrDialed kind addr).Ensures (OpensCached kind addr) own
      fun _ _ => True := by
  have dials (reply : HostReply)
      (missed : givesUp (.cached kind addr, reply) = some none) :
      (dialAndCache kind addr).Ensures (OpensCached kind addr)
        (own ++ [(.cached kind addr, reply)]) fun _ _ => True :=
    dialAndCache_opens (.inl (by simp [OpenPhase.after, missed]))
  refine ⟨⟨rfl, rfl, looking⟩, fun reply => ?_⟩
  cases reply with
  | conn opened =>
      cases opened with
      | none => exact dials _ rfl
      | some conn =>
          apply Script.Ensures.bind _ (checkDevice_opens (by
            simp [OpenPhase.after, givesUp]))
          intro answer later stale
          have redial (failed : answer ≠ .ok true) : (do
              act (.uncache kind addr)
              dialAndCache kind addr).Ensures (OpensCached kind addr) later
                fun _ _ => True :=
            ⟨⟨rfl, rfl, conn, stale failed⟩, fun reply =>
              dialAndCache_opens (.inr (by simp [OpenPhase.after, givesUp]))⟩
          rcases answer with error | _ | _
          · exact redial (by simp)
          · exact redial (by simp)
          · trivial
  | _ => exact dials _ rfl

theorem openCached_opens (looking : phaseOf own = .looking) :
    (openCached kind addr).Ensures (OpensCached kind addr) own
      fun _ _ => True := by
  apply Script.Ensures.bind _ (cachedOrDialed_opens looking)
  intro conn later _
  cases conn with
  | none => trivial
  | some conn => exact ⟨trivial, fun reply => by cases reply <;> trivial⟩

end Open

/-! ### What the calls of an address share -/

def Dialled (kind : CacheKind) (addr : String) (conn : Conn)
    (trace : HostTrace) : Prop :=
  ∃ task, (task, HostCall.dial kind addr, HostReply.conn (some conn)) ∈ trace

/-- The call saw a `CHECK_DEVICE` of the connection fail. -/
def SawFail (conn : Conn) (own : OwnHistory) : Prop :=
  ∃ event ∈ own, givesUp event = some (some conn)

def phaseIn (trace : HostTrace) (task : Nat) : OpenPhase :=
  phaseOf (Trace.ownHistory task trace)

/-- A removal takes only the connection whose check the call saw fail out of
the cache, and at a dial every earlier connection to the address has failed a
check. -/
structure OneConnection (kind : CacheKind) (addr : String)
    (trace : HostTrace) : Prop where
  removals : ∀ before task reply after,
    trace = before ++ (task, .uncache kind addr, reply) :: after →
      ∀ conn, cacheEntry kind addr before = some conn →
        SawFail conn (Trace.ownHistory task before)
  dials : ∀ before task reply after,
    trace = before ++ (task, .dial kind addr, reply) :: after →
      ∀ conn, Dialled kind addr conn before →
        ∃ other, SawFail conn (Trace.ownHistory other before)

/-- A call gives up a cache entry only while no call is replacing it, and only
if the cache holds no other connection than the one that was checked. -/
def GivesUpAlone (kind : CacheKind) (addr : String) (trace : HostTrace)
    (request : HostCall) (reply : HostReply) : Prop :=
  ∀ checked ∈ givesUp (request, reply),
    (∀ other ∈ trace.map Prod.fst, (phaseIn trace other).replaces = false) ∧
      ∀ conn ∈ cacheEntry kind addr trace, checked = some conn

def aloneSteps (kind : CacheKind) (addr : String) :
    World Nat HostCall HostReply :=
  fun trace task request reply =>
    hostSteps trace task request reply ∧
      GivesUpAlone kind addr trace request reply

instance (kind : CacheKind) (addr : String) (trace : HostTrace)
    (request : HostCall) (reply : HostReply) :
    Decidable (GivesUpAlone kind addr trace request reply) :=
  inferInstanceAs (Decidable (∀ checked ∈ givesUp (request, reply),
    (∀ other ∈ trace.map Prod.fst, _) ∧
      ∀ conn ∈ cacheEntry kind addr trace, _))

instance (kind : CacheKind) (addr : String) (trace : HostTrace) (task : Nat)
    (request : HostCall) (reply : HostReply) :
    Decidable (aloneSteps kind addr trace task request reply) :=
  inferInstanceAs (Decidable (_ ∧ _))

section Steps

variable {kind : CacheKind} {addr : String} {trace : HostTrace} {task : Nat}

theorem phaseIn_concat (other : Nat) (event : HostCall × HostReply) :
    phaseIn (trace ++ [(task, event)]) other =
      if task = other then (phaseIn trace task).after event
      else phaseIn trace other := by
  by_cases same : task = other
  · subst same
    rw [if_pos rfl, phaseIn, Trace.ownHistory_concat_self, phaseOf_concat]
    rfl
  · rw [if_neg same, phaseIn, Trace.ownHistory_concat_other same]
    rfl

theorem phaseIn_of_absent {other : Nat}
    (absent : other ∉ trace.map Prod.fst) : phaseIn trace other = .looking := by
  have nothing : Trace.ownHistory other trace = [] := by
    by_contra acted
    exact absent (Trace.mem_of_ownHistory_ne_nil acted)
  rw [phaseIn, nothing]
  rfl

theorem dialled_concat (conn : Conn) (event : HostCall × HostReply) :
    Dialled kind addr conn (trace ++ [(task, event)]) ↔
      Dialled kind addr conn trace ∨
        event = (.dial kind addr, .conn (some conn)) := by
  simp only [Dialled, List.mem_append, List.mem_singleton, Prod.mk.injEq,
    exists_or]
  apply or_congr Iff.rfl
  constructor
  · rintro ⟨_, _, same⟩
    exact same.symm
  · rintro rfl
    exact ⟨task, rfl, rfl⟩

theorem cacheEntry_concat (event : HostCall × HostReply) :
    cacheEntry kind addr (trace ++ [(task, event)]) =
      match event.1 with
      | .cache k a conn =>
          if k = kind ∧ a = addr then some conn else cacheEntry kind addr trace
      | .uncache k a =>
          if k = kind ∧ a = addr then none else cacheEntry kind addr trace
      | _ => cacheEntry kind addr trace := by
  rw [cacheEntry, List.foldl_append]
  rfl

/-- Some call saw a check of the connection fail. -/
def HasFailed (conn : Conn) (trace : HostTrace) : Prop :=
  ∃ other, SawFail conn (Trace.ownHistory other trace)

theorem HasFailed.concat {conn : Conn} (failed : HasFailed conn trace)
    (event : HostCall × HostReply) :
    HasFailed conn (trace ++ [(task, event)]) := by
  obtain ⟨other, earlier, member, fails⟩ := failed
  refine ⟨other, earlier, ?_, fails⟩
  by_cases same : task = other
  · subst same
    rw [Trace.ownHistory_concat_self]
    exact List.mem_append_left _ member
  · rwa [Trace.ownHistory_concat_other same]

theorem hasFailed_of_givesUp {conn : Conn} {event : HostCall × HostReply}
    (fails : givesUp event = some (some conn)) :
    HasFailed conn (trace ++ [(task, event)]) := by
  refine ⟨task, event, ?_, fails⟩
  rw [Trace.ownHistory_concat_self]
  exact List.mem_append_right _ (List.mem_singleton.mpr rfl)

/-! ### At most one call replaces -/

/-- At most one call is replacing the cache entry.  A connection that has not
failed is the one that this call dialled, or the one in the cache. -/
structure CacheKept (kind : CacheKind) (addr : String) (trace : HostTrace) :
    Prop where
  single : ∀ task other, (phaseIn trace task).replaces = true →
    (phaseIn trace other).replaces = true → task = other
  live : ∀ conn, Dialled kind addr conn trace → HasFailed conn trace ∨
    (∃ task, phaseIn trace task = .dialled conn) ∨
      (∀ task, (phaseIn trace task).replaces = false) ∧
        cacheEntry kind addr trace = some conn
  stale : ∀ task checked, phaseIn trace task = .stale checked →
    ∀ conn, cacheEntry kind addr trace = some conn → checked = some conn

/-- While a call replaces, only what it dialled itself has not failed. -/
theorem CacheKept.live_of_replaces (kept : CacheKept kind addr trace)
    (replaces : (phaseIn trace task).replaces = true) {conn : Conn}
    (dialled : Dialled kind addr conn trace) :
    HasFailed conn trace ∨ phaseIn trace task = .dialled conn := by
  rcases kept.live conn dialled with failed | ⟨other, phase⟩ | ⟨none, _⟩
  · exact .inl failed
  · have same : task = other :=
      kept.single task other replaces (by rw [phase]; rfl)
    exact .inr (same ▸ phase)
  · rw [none task] at replaces
    cases replaces

/-- A step that changes neither the cache nor who is replacing. -/
theorem CacheKept.concat_quiet (kept : CacheKept kind addr trace)
    {event : HostCall × HostReply}
    (phase : (phaseIn trace task).after event = phaseIn trace task ∨
      ((phaseIn trace task).after event).replaces = false ∧
        (phaseIn trace task).replaces = false)
    (cache : cacheEntry kind addr (trace ++ [(task, event)]) =
      cacheEntry kind addr trace)
    (dials : ∀ conn, event ≠ (.dial kind addr, .conn (some conn))) :
    CacheKept kind addr (trace ++ [(task, event)]) := by
  have same : ∀ other,
      phaseIn (trace ++ [(task, event)]) other = phaseIn trace other ∨
        (phaseIn (trace ++ [(task, event)]) other).replaces = false ∧
          (phaseIn trace other).replaces = false := by
    intro other
    rw [phaseIn_concat]
    by_cases acts : task = other
    · subst acts
      rwa [if_pos rfl]
    · rw [if_neg acts]
      exact .inl rfl
  have replaced : ∀ other,
      (phaseIn (trace ++ [(task, event)]) other).replaces =
        (phaseIn trace other).replaces := by
    intro other
    rcases same other with phase | ⟨after, before⟩
    · rw [phase]
    · rw [after, before]
  constructor
  · intro first second firstReplaces secondReplaces
    rw [replaced] at firstReplaces secondReplaces
    exact kept.single first second firstReplaces secondReplaces
  · intro conn dialled
    have earlier := ((dialled_concat conn event).mp dialled).resolve_right
      (dials conn)
    rcases kept.live conn earlier with failed | ⟨other, phase⟩ | ⟨idle, cached⟩
    · exact .inl (failed.concat event)
    · rcases same other with unchanged | ⟨_, before⟩
      · exact .inr (.inl ⟨other, unchanged.trans phase⟩)
      · rw [phase] at before
        cases before
    · exact .inr (.inr ⟨fun other => (replaced other).trans (idle other),
        cache.trans cached⟩)
  · intro other checked phase conn cached
    rcases same other with unchanged | ⟨after, _⟩
    · exact kept.stale other checked (unchanged.symm.trans phase) conn
        (cache.symm.trans cached)
    · rw [phase] at after
      cases after

/-- A step of a call while no other is replacing. -/
theorem CacheKept.concat_alone (event : HostCall × HostReply)
    (others : ∀ other, other ≠ task →
      (phaseIn trace other).replaces = false)
    (live : ∀ conn, Dialled kind addr conn (trace ++ [(task, event)]) →
      HasFailed conn (trace ++ [(task, event)]) ∨
        (phaseIn trace task).after event = .dialled conn ∨
        ((phaseIn trace task).after event).replaces = false ∧
          cacheEntry kind addr (trace ++ [(task, event)]) = some conn)
    (stale : ∀ checked, (phaseIn trace task).after event = .stale checked →
      ∀ conn, cacheEntry kind addr (trace ++ [(task, event)]) = some conn →
        checked = some conn) :
    CacheKept kind addr (trace ++ [(task, event)]) := by
  have acting : phaseIn (trace ++ [(task, event)]) task =
      (phaseIn trace task).after event := by
    rw [phaseIn_concat, if_pos rfl]
  have resting : ∀ other, other ≠ task →
      (phaseIn (trace ++ [(task, event)]) other).replaces = false := by
    intro other different
    rw [phaseIn_concat, if_neg different.symm]
    exact others other different
  have onlyTask : ∀ other,
      (phaseIn (trace ++ [(task, event)]) other).replaces = true →
        other = task := by
    intro other replaces
    by_contra different
    rw [resting other different] at replaces
    cases replaces
  constructor
  · intro first second firstReplaces secondReplaces
    rw [onlyTask first firstReplaces, onlyTask second secondReplaces]
  · intro conn dialled
    rcases live conn dialled with failed | dialledHere | ⟨idle, cached⟩
    · exact .inl failed
    · exact .inr (.inl ⟨task, acting.trans dialledHere⟩)
    · refine .inr (.inr ⟨fun other => ?_, cached⟩)
      by_cases same : other = task
      · rw [same, acting, idle]
      · exact resting other same
  · intro other checked phase conn cached
    obtain rfl : other = task := onlyTask other (by rw [phase]; rfl)
    exact stale checked (acting.symm.trans phase) conn cached

theorem OpenPhase.after_of_givesUp {phase : OpenPhase}
    {event : HostCall × HostReply} {checked : Option Conn}
    (given : givesUp event = some checked) :
    phase.after event = .stale checked := by
  simp [OpenPhase.after, given]

/-- A call that gives up alone is the only one that is replacing. -/
theorem CacheKept.concat_givesUp (kept : CacheKept kind addr trace)
    {request : HostCall} {reply : HostReply} {checked : Option Conn}
    (given : givesUp (request, reply) = some checked)
    (alone : GivesUpAlone kind addr trace request reply) :
    CacheKept kind addr (trace ++ [(task, request, reply)]) := by
  obtain ⟨idle, holds⟩ := alone checked given
  have noneReplaces : ∀ other, (phaseIn trace other).replaces = false := by
    intro other
    by_cases acted : other ∈ trace.map Prod.fst
    · exact idle other acted
    · rw [phaseIn_of_absent acted]
      rfl
  have noDial : ∀ conn, (request, reply) ≠
      (.dial kind addr, .conn (some conn)) := by
    rintro conn same
    rw [same] at given
    cases given
  have sameCache : cacheEntry kind addr (trace ++ [(task, request, reply)]) =
      cacheEntry kind addr trace := by
    rw [cacheEntry_concat]
    cases request with
    | cache k a conn => cases given
    | uncache k a => cases given
    | _ => rfl
  apply CacheKept.concat_alone
  · intro other _
    exact noneReplaces other
  · intro conn dialled
    have earlier := ((dialled_concat conn _).mp dialled).resolve_right
      (noDial conn)
    rcases kept.live conn earlier with failed | ⟨other, phase⟩ | ⟨_, cached⟩
    · exact .inl (failed.concat _)
    · have replaces := noneReplaces other
      rw [phase] at replaces
      cases replaces
    · have isChecked := holds conn cached
      rw [isChecked] at given
      exact .inl (hasFailed_of_givesUp given)
  · intro other phase conn cached
    rw [OpenPhase.after_of_givesUp given] at phase
    obtain rfl := OpenPhase.stale.inj phase
    exact holds conn (sameCache.symm.trans cached)

/-- A step of the call that is replacing.  What it dialled stays its own until
it is in the cache. -/
theorem CacheKept.concat_replacing (kept : CacheKept kind addr trace)
    (replaces : (phaseIn trace task).replaces = true)
    (event : HostCall × HostReply)
    (own : ∀ conn, phaseIn trace task = .dialled conn ∨
        event = (.dial kind addr, .conn (some conn)) →
      (phaseIn trace task).after event = .dialled conn ∨
        ((phaseIn trace task).after event).replaces = false ∧
          cacheEntry kind addr (trace ++ [(task, event)]) = some conn)
    (moves : ∀ checked, (phaseIn trace task).after event ≠ .stale checked) :
    CacheKept kind addr (trace ++ [(task, event)]) := by
  apply CacheKept.concat_alone
  · intro other different
    by_contra alsoReplaces
    exact different (kept.single other task (by simpa using alsoReplaces)
      replaces)
  · intro conn dialled
    rcases (dialled_concat conn event).mp dialled with earlier | here
    · rcases kept.live_of_replaces replaces earlier with failed | phase
      · exact .inl (failed.concat event)
      · exact .inr (own conn (.inl phase))
    · exact .inr (own conn (.inr here))
  · intro checked phase
    exact absurd phase (moves checked)

/-- Every step that gives up alone keeps the cache. -/
theorem CacheKept.step (kept : CacheKept kind addr trace) {request : HostCall}
    {reply : HostReply}
    (opens : OpensCached kind addr (Trace.ownHistory task trace) request)
    (alone : GivesUpAlone kind addr trace request reply) :
    CacheKept kind addr (trace ++ [(task, request, reply)]) := by
  cases given : givesUp (request, reply) with
  | some checked => exact kept.concat_givesUp given alone
  | none =>
      have quiet (unmoved : (phaseIn trace task).after (request, reply) =
            phaseIn trace task)
          (cache : cacheEntry kind addr (trace ++ [(task, request, reply)]) =
            cacheEntry kind addr trace)
          (noDial : ∀ conn, (request, reply) ≠
            (.dial kind addr, .conn (some conn))) :
          CacheKept kind addr (trace ++ [(task, request, reply)]) :=
        kept.concat_quiet (.inl unmoved) cache noDial
      cases request with
      | cached k a =>
          obtain ⟨rfl, rfl, looking⟩ := opens
          have before : phaseIn trace task = .looking := looking
          cases reply with
          | conn opened =>
              cases opened with
              | none => cases given
              | some conn =>
                  apply kept.concat_quiet _ (cacheEntry_concat _) (by simp)
                  rw [before]
                  exact .inr ⟨rfl, rfl⟩
          | _ => cases given
      | exchange printer call =>
          apply quiet _ (cacheEntry_concat _) (by simp)
          simp [OpenPhase.after, given]
      | uncache k a =>
          obtain ⟨rfl, rfl, conn, stale⟩ := opens
          have before : phaseIn trace task = .stale (some conn) := stale
          apply kept.concat_replacing (by rw [before]; rfl)
          · rintro other (phase | same)
            · rw [before] at phase
              cases phase
            · cases same
          · intro checked
            simp [OpenPhase.after, given]
      | dial k a =>
          obtain ⟨rfl, rfl, ready⟩ := opens
          have before : phaseIn trace task = .stale none ∨
              phaseIn trace task = .cleared := ready
          apply kept.concat_replacing
          · rcases before with before | before <;> rw [before] <;> rfl
          · rintro other (phase | same)
            · rcases before with before | before <;> rw [before] at phase <;>
                cases phase
            · obtain rfl := (Prod.mk.inj same).2
              exact .inl rfl
          · intro checked
            cases reply with
            | conn opened =>
                cases opened with
                | none => simp [OpenPhase.after, givesUp]
                | some conn => simp [OpenPhase.after, givesUp]
            | _ => simp [OpenPhase.after, givesUp]
      | cache k a conn =>
          obtain ⟨rfl, rfl, dialled⟩ := opens
          have before : phaseIn trace task = .dialled conn := dialled
          apply kept.concat_replacing (by rw [before]; rfl)
          · rintro other (phase | same)
            · rw [before] at phase
              obtain rfl := OpenPhase.dialled.inj phase
              exact .inr ⟨rfl, (cacheEntry_concat _).trans (if_pos ⟨rfl, rfl⟩)⟩
            · cases same
          · intro checked
            simp [OpenPhase.after, given]
      | lock conn => exact quiet rfl (cacheEntry_concat _) (by simp)
      | unlock conn => exact quiet rfl (cacheEntry_concat _) (by simp)
      | newDevice printer => exact quiet rfl (cacheEntry_concat _) (by simp)
      | transports slug => exact opens.elim
      | openHidraw path => exact opens.elim
      | dropDevice => exact opens.elim
      | loadPrinting flag => exact opens.elim
      | storePrinting flag value => exact opens.elim
      | enterPrint printer => exact opens.elim
      | leavePrint => exact opens.elim

end Steps

/-! ### Runs of opens -/

theorem sawFail_of_stale {own : OwnHistory} {conn : Conn}
    (stale : phaseOf own = .stale (some conn)) : SawFail conn own := by
  induction own using List.reverseRecOn with
  | nil => cases stale
  | append_singleton own event ih =>
      rw [phaseOf_concat] at stale
      cases given : givesUp event with
      | some checked =>
          rw [OpenPhase.after_of_givesUp given] at stale
          obtain rfl := OpenPhase.stale.inj stale
          exact ⟨event, by simp, given⟩
      | none =>
          have unmoved : phaseOf own = .stale (some conn) := by
            simp only [OpenPhase.after, given] at stale
            split at stale <;> first | exact stale | cases stale
          obtain ⟨earlier, member, fails⟩ := ih unmoved
          exact ⟨earlier, List.mem_append_left _ member, fails⟩

section Runs

variable {kind : CacheKind} {addr : String} {trace : HostTrace}
  {rest : Nat → HostScript (Option KsDevice)}

theorem opensCached_of_reaches {world : World Nat HostCall HostReply}
    (reached : Trace.Reaches world (fun _ => openCached kind addr) rest trace)
    {task : Nat} {request : HostCall}
    {next : HostReply → HostScript (Option KsDevice)}
    (pending : rest task = .call request next) :
    OpensCached kind addr (Trace.ownHistory task trace) request := by
  have ensures := (reached.ensures (fun _ => openCached_opens rfl) task).2
  rw [pending] at ensures
  exact ensures.1

theorem cacheKept_of_reaches
    (reached : Trace.Reaches (aloneSteps kind addr)
      (fun _ => openCached kind addr) rest trace) :
    CacheKept kind addr trace := by
  induction reached with
  | start =>
      constructor
      · intro task other replaces
        cases replaces
      · intro conn dialled
        simp [Dialled] at dialled
      · intro task checked phase
        cases phase
  | step reached pending admitted ih =>
      exact ih.step (opensCached_of_reaches reached pending) admitted.2

/-- If each call gives up alone, there is never a second connection. -/
theorem oneConnection_of_reaches
    (reached : Trace.Reaches (aloneSteps kind addr)
      (fun _ => openCached kind addr) rest trace) :
    OneConnection kind addr trace := by
  constructor
  · intro before task reply after split conn cached
    obtain ⟨_, left, next, run, pending⟩ := reached.before split
    obtain ⟨_, _, checked, stale⟩ := opensCached_of_reaches run pending
    have same : some checked = some conn :=
      (cacheKept_of_reaches run).stale task _ stale conn cached
    rw [same] at stale
    exact sawFail_of_stale stale
  · intro before task reply after split conn dialled
    obtain ⟨_, left, next, run, pending⟩ := reached.before split
    obtain ⟨_, _, ready⟩ := opensCached_of_reaches run pending
    have phase : phaseIn before task = .stale none ∨
        phaseIn before task = .cleared := ready
    have kept := cacheKept_of_reaches run
    have replaces : (phaseIn before task).replaces = true := by
      rcases phase with phase | phase <;> rw [phase] <;> rfl
    rcases kept.live_of_replaces replaces dialled with failed | dialledHere
    · exact failed
    · rcases phase with phase | phase <;> rw [phase] at dialledHere <;>
        cases dialledHere

/-- In every run of opens of one address in which each call gives up a cache
entry alone, a removal takes only what its call saw fail, and a dial finds no
other connection that has not failed. -/
theorem openBt_oneConnection {uris : Nat → String}
    (sameAddress : ∀ task, btAddress (uris task) = some addr)
    (reached : Trace.Reaches (aloneSteps .bt addr)
      (fun task => openBt (uris task)) rest trace) :
    OneConnection .bt addr trace := by
  have opens : (fun task => openBt (uris task)) =
      fun _ => openCached .bt addr := by
    funext task
    simp [openBt, sameAddress task]
  rw [opens] at reached
  exact oneConnection_of_reaches reached

end Runs

/-! ### Two runs -/

def btAbsent : HostReply := .wire (.ok none)

/-- Opens of a printer that goes away: task 0 dials, task 1 reuses the
connection, task 2 finds it dead and dials again, and task 3 reuses that. -/
def takingTurns : HostTrace :=
  [(0, .cached .bt "AA:BB", .conn none),
    (0, .dial .bt "AA:BB", .conn (some 3)),
    (0, .cache .bt "AA:BB" 3, .done),
    (1, .cached .bt "AA:BB", .conn (some 3)),
    (0, .newDevice (.shared 3), .flag 0),
    (1, .lock 3, .done),
    (2, .cached .bt "AA:BB", .conn (some 3)),
    (1, .exchange (.shared 3) (.sendCmd cmdCheckDevice 0#16),
      .wire (.ok (some btPresent))),
    (1, .unlock 3, .done),
    (1, .newDevice (.shared 3), .flag 1),
    (2, .lock 3, .done),
    (2, .exchange (.shared 3) (.sendCmd cmdCheckDevice 0#16), btAbsent),
    (2, .unlock 3, .done),
    (2, .uncache .bt "AA:BB", .done),
    (2, .dial .bt "AA:BB", .conn (some 4)),
    (2, .cache .bt "AA:BB" 4, .done),
    (3, .cached .bt "AA:BB", .conn (some 4)),
    (2, .newDevice (.shared 4), .flag 2)]

def btUri (_ : Nat) : String := "btrfcomm://bt/AA:BB"

theorem openBt_oneConnection_takingTurns :
    (∀ task, btAddress (btUri task) = some "AA:BB") ∧
      OneConnection .bt "AA:BB" takingTurns := by
  have address : ∀ task, btAddress (btUri task) = some "AA:BB" := by
    intro task
    simp only [btUri]
    decide
  have followed : Trace.follow (aloneSteps .bt "AA:BB") takingTurns.schedule
      (fun task => openBt (btUri task)) [] = some takingTurns := rfl
  obtain ⟨rest, reached⟩ := Trace.Reaches.start.follow followed
  exact ⟨address, openBt_oneConnection address reached⟩

/-- Two calls find the same connection dead.  The second removes what the first
has just put in its place, and dials while that is open. -/
def bothFindDead : HostTrace :=
  [(0, .cached .bt "AA:BB", .conn none),
    (0, .dial .bt "AA:BB", .conn (some 3)),
    (0, .cache .bt "AA:BB" 3, .done),
    (1, .cached .bt "AA:BB", .conn (some 3)),
    (2, .cached .bt "AA:BB", .conn (some 3)),
    (1, .lock 3, .done),
    (1, .exchange (.shared 3) (.sendCmd cmdCheckDevice 0#16), btAbsent),
    (1, .unlock 3, .done),
    (2, .lock 3, .done),
    (2, .exchange (.shared 3) (.sendCmd cmdCheckDevice 0#16), btAbsent),
    (2, .unlock 3, .done),
    (1, .uncache .bt "AA:BB", .done),
    (1, .dial .bt "AA:BB", .conn (some 4)),
    (1, .cache .bt "AA:BB" 4, .done),
    (1, .newDevice (.shared 4), .flag 0),
    (2, .uncache .bt "AA:BB", .done),
    (2, .dial .bt "AA:BB", .conn (some 5))]

theorem bothFindDead_dialsTwice :
    (∃ rest, Trace.Reaches hostSteps (fun task => openBt (btUri task)) rest
      bothFindDead) ∧ ¬ OneConnection .bt "AA:BB" bothFindDead := by
  constructor
  · have followed : Trace.follow hostSteps bothFindDead.schedule
        (fun task => openBt (btUri task)) [] = some bothFindDead := rfl
    exact Trace.Reaches.start.follow followed
  · intro one
    have sawFail := one.removals (bothFindDead.take 15) 2 _ _ rfl 4 rfl
    have sawAnother : ¬ SawFail 4
        (Trace.ownHistory 2 (bothFindDead.take 15)) := by
      unfold SawFail
      decide
    exact sawAnother sawFail

end SupvanCups
