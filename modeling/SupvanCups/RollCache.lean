import SupvanCups.SharedConnections

/-!
# Which rolls the server takes for new

The poller remembers a fingerprint of each printer's roll and reports a swap
when the next one is another.  A media change puts the record it has written
into the same cache, so that the poller does not take it for a new roll.  To
see a roll and to put it into the cache are two steps of a task, and other
tasks may come between them.

Behind every swap that is reported the loaded record has changed between the
two looks that are compared.  Where the server made the change itself, its
media change overlaps another task that looked at the same printer.
-/

namespace SupvanCups

/-! ### What tasks do about rolls -/

/-- A query and a write have a printer to themselves, and the cache is locked
for a comparison with the update after it.  Rolls are loaded by hand, or by a
write that took although it was not confirmed. -/
inductive RollCall
  | queryMaterial (name : String)
  | provisionMaterial (name : String) (mat : RfidMaterial)
  | noteRoll (name : String) (roll : RollFingerprint)
  | recordRoll (name : String) (roll : RollFingerprint)
  | loadRoll (name : String) (roll : Option MaterialInfo)

inductive RollReply
  | done
  | material (answer : Except ProtoError (Option MaterialInfo))
  | provisioned (answer : Except ProtoError MaterialInfo)
  | previous (roll : Option RollFingerprint)

abbrev RollScript := Script RollCall RollReply

abbrev RollEvent := RollCall × RollReply

abbrev RollTrace := Trace Nat RollCall RollReply

def fingerprint (mat : MaterialInfo) : RollFingerprint :=
  ⟨mat.uuid, mat.code, mat.widthMm, mat.heightMm⟩

def askMaterial (name : String) :
    RollScript (Except ProtoError (Option MaterialInfo)) :=
  (Script.ask (.queryMaterial name)).bind fun
    | .material answer => .done answer
    | _ => .done (.ok none)

def askProvision (name : String) (mat : RfidMaterial) :
    RollScript (Except ProtoError MaterialInfo) :=
  (Script.ask (.provisionMaterial name mat)).bind fun
    | .provisioned answer => .done answer
    | _ => .done (.error (.io "no answer"))

/-- The part of a poll that is about the roll. -/
def pollRoll (name : String) : RollScript Unit := do
  match ← askMaterial name with
  | .ok (some mat) =>
      let _ ← Script.ask (.noteRoll name (fingerprint mat))
  | _ => pure ()

/-- The poller logs a swap, unless the roll before had no UUID. -/
def swapDetected (previous : Option RollFingerprint) (roll : RollFingerprint) :
    Bool :=
  previous.any fun prev => prev != roll && prev.uuid != ""

/-- A media change that has seen the loaded record. -/
def writeRoll (name : String) (sizeHmm : Int × Int) (heat : U16 × U16)
    (current : Option MaterialInfo) :
    RollScript (Except String (Option RollFingerprint)) := do
  let widthMm := sizeMm sizeHmm.1
  let heightMm := sizeMm sizeHmm.2
  match current.filter fun m => !recordIsOurs m.uuid m.code with
  | some m => pure (.error (genuineRoll m))
  | none =>
      if current.any fun m =>
          m.widthMm = widthMm && m.heightMm = heightMm then
        pure (.ok none)
      else
        match ← askProvision name
          (mediaRecord current widthMm heightMm heat) with
        | .error e => pure (.error
            ("the printer did not take the record: " ++ e.display))
        | .ok written => pure (.ok (some (fingerprint written)))

/-- A media change up to what it leaves for the cache. -/
def applyRoll (name : String) (sizeHmm : Int × Int) (heat : U16 × U16) :
    RollScript (Except String (Option RollFingerprint)) := do
  match ← askMaterial name with
  | .error e =>
      pure (.error ("cannot read the loaded material: " ++ e.display))
  | .ok current => writeRoll name sizeHmm heat current

def changeRoll (name : String) (sizeHmm : Int × Int) (heat : U16 × U16) :
    RollScript Unit := do
  match ← applyRoll name sizeHmm heat with
  | .ok (some roll) =>
      let _ ← Script.ask (.recordRoll name roll)
  | _ => pure ()

def loadRolls : List (String × Option MaterialInfo) → RollScript Unit
  | [] => pure ()
  | (name, roll) :: rolls => do
      let _ ← Script.ask (.loadRoll name roll)
      loadRolls rolls

inductive RollTask
  | poll (name : String)
  | setMedia (name : String) (sizeHmm : Int × Int) (heat : U16 × U16)
  | byHand (rolls : List (String × Option MaterialInfo))

def RollTask.script : RollTask → RollScript Unit
  | poll name => pollRoll name
  | setMedia name sizeHmm heat => changeRoll name sizeHmm heat
  | byHand rolls => loadRolls rolls

/-! ### On a device -/

/-- How a device carries out the queries and writes of a media change. -/
def KsDevice.atRoll (dev : KsDevice) : RollCall → HostScript RollReply
  | .queryMaterial _ => do
      return .material (← dev.printer.queryMaterial)
  | .provisionMaterial _ mat => do
      return .provisioned (← dev.printer.provisionMaterial mat)
  | _ => pure .done

/-- Carried out on a device, a media change is that of the server. -/
theorem applyRoll_onDevice (dev : KsDevice) (name : String)
    (sizeHmm : Int × Int) (heat : U16 × U16) :
    (applyRoll name sizeHmm heat).interpret dev.atRoll =
      dev.applyMedia sizeHmm heat := by
  show ((dev.printer.queryMaterial).bind _).bind _ = Script.bind _ _
  rw [Script.bind_assoc]
  congr 1
  funext answer
  rcases answer with error | current
  · rfl
  · show (writeRoll name sizeHmm heat current).interpret dev.atRoll = _
    unfold writeRoll
    dsimp only
    cases current.filter fun m => !recordIsOurs m.uuid m.code with
    | some m => rfl
    | none =>
        dsimp only
        split
        · rfl
        · show ((dev.printer.provisionMaterial _).bind _).bind _ =
            Script.bind _ _
          rw [Script.bind_assoc]
          congr 1
          funext written
          cases written <;> rfl

/-! ### Printers and the cache -/

/-- What a step makes the loaded roll of a printer. -/
def rollChange (name : String) : RollEvent → Option (Option MaterialInfo)
  | (.loadRoll other roll, _) => if other = name then some roll else none
  | (.provisionMaterial other _, .provisioned (.ok written)) =>
      if other = name then some (some written) else none
  | _ => none

/-- What a step puts into the cache for a printer. -/
def cacheUpdate (name : String) : RollEvent → Option RollFingerprint
  | (.noteRoll other roll, _) | (.recordRoll other roll, _) =>
      if other = name then some roll else none
  | _ => none

/-- What the last update of a trace made of something. -/
def lastOf {α : Type} (update : RollEvent → Option α) (trace : RollTrace) :
    Option α :=
  (trace.filterMap fun event => update event.2).getLast?

def loaded (initial : String → Option MaterialInfo) (trace : RollTrace)
    (name : String) : Option MaterialInfo :=
  (lastOf (rollChange name) trace).getD (initial name)

def cachedRoll (trace : RollTrace) (name : String) : Option RollFingerprint :=
  lastOf (cacheUpdate name) trace

/-- A query may fail, and else shows the loaded roll.  What a write is
confirmed with is loaded from then on. -/
def rollAdmits (initial : String → Option MaterialInfo) (trace : RollTrace) :
    RollCall → RollReply → Bool
  | .queryMaterial name, .material (.ok (some mat)) =>
      loaded initial trace name = some mat
  | .queryMaterial _, .material _ => true
  | .provisionMaterial _ _, .provisioned _ => true
  | .noteRoll name _, .previous roll => roll = cachedRoll trace name
  | .recordRoll _ _, .done => true
  | .loadRoll _ _, .done => true
  | _, _ => false

def rollWorld (initial : String → Option MaterialInfo) :
    World Nat RollCall RollReply :=
  fun trace _ request reply => rollAdmits initial trace request reply = true

instance (initial : String → Option MaterialInfo) (trace : RollTrace)
    (task : Nat) (request : RollCall) (reply : RollReply) :
    Decidable (rollWorld initial trace task request reply) :=
  inferInstanceAs (Decidable (rollAdmits initial trace request reply = true))

/-! ### Looks and updates -/

/-- A step shows a task the roll of a printer. -/
def Sees (name : String) (roll : RollFingerprint) : RollEvent → Prop
  | (.queryMaterial other, .material (.ok (some mat))) =>
      other = name ∧ fingerprint mat = roll
  | (.provisionMaterial other _, .provisioned (.ok written)) =>
      other = name ∧ fingerprint written = roll
  | _ => False

/-- A task sees a roll at one step and caches it at a later one. -/
structure SeesAndCaches (steps : RollTrace) (name : String)
    (roll : RollFingerprint) (task look update : Nat) : Prop where
  later : look < update
  seen : ∃ event, steps[look]? = some (task, event) ∧ Sees name roll event
  cached : ∃ event, steps[update]? = some (task, event) ∧
    cacheUpdate name event = some roll

/-- A confirmed write of one task overlaps another task that sees and caches
the roll: it is made between the two, or before them and not cached until they
are through. -/
def OverlapsOther (steps : RollTrace) (name : String)
    (writer write last : Nat) : Prop :=
  ∃ roll other look update, other ≠ writer ∧ update ≤ last ∧
    SeesAndCaches steps name roll other look update ∧
    (look < write ∧ write < update ∨
      write < look ∧ ∀ between < update, ∀ event,
        steps[between]? = some (writer, event) →
        cacheUpdate name event = none)

/-- Why a swap from one roll to another is reported at a step. -/
def SwapBehind (steps : RollTrace) (name : String)
    (prev roll : RollFingerprint) (task step : Nat) : Prop :=
  ∃ look keeper before update,
    SeesAndCaches steps name roll task look step ∧
    SeesAndCaches steps name prev keeper before update ∧ update < step ∧
    ∃ change actor event, min before look < change ∧
      change ≤ max before look ∧ steps[change]? = some (actor, event) ∧
      (rollChange name event).isSome ∧
      ((∃ new, event.1 = .loadRoll name new) ∨
        OverlapsOther steps name actor change step)

/-! ### The last update -/

section LastOf

variable {α : Type} {update : RollEvent → Option α} {steps : RollTrace}

theorem lastOf_concat (steps : RollTrace) (step : Nat × RollEvent) :
    lastOf update (steps ++ [step]) =
      (update step.2).or (lastOf update steps) := by
  cases updates : update step.2 <;> simp [lastOf, updates]

theorem exists_of_lastOf {value : α}
    (found : lastOf update steps = some value) :
    ∃ (last task : Nat) (event : RollEvent), steps[last]? = some (task, event) ∧
      update event = some value ∧ ∀ later > last,
        ∀ (other : Nat) (next : RollEvent),
          steps[later]? = some (other, next) → update next = none := by
  induction steps using List.reverseRecOn with
  | nil => cases found
  | append_singleton steps step ih =>
      rw [lastOf_concat] at found
      cases updates : update step.2 with
      | some new =>
          refine ⟨steps.length, step.1, step.2, by simp, ?_, ?_⟩
          · rw [updates] at found ⊢
            exact found
          · intro later beyond other next present
            rw [List.getElem?_eq_none (by simp; omega)] at present
            cases present
      | none =>
          rw [updates] at found
          obtain ⟨last, task, event, present, updated, rest⟩ := ih found
          have bound := (List.getElem?_eq_some_iff.mp present).1
          refine ⟨last, task, event, ?_, updated, fun later beyond other next
            found => ?_⟩
          · rw [List.getElem?_append_left bound, present]
          · rcases Nat.lt_or_ge later steps.length with inside | outside
            · rw [List.getElem?_append_left inside] at found
              exact rest later beyond other next found
            · rw [List.getElem?_append_right outside] at found
              obtain rfl :=
                List.mem_singleton.mp (List.mem_of_getElem? found)
              exact updates

/-- Steps that do not update leave the last update. -/
theorem lastOf_take {first last : Nat} (ordered : first ≤ last)
    (kept : ∀ between, first ≤ between → between < last → ∀ task event,
      steps[between]? = some (task, event) → update event = none) :
    lastOf update (steps.take last) = lastOf update (steps.take first) := by
  induction last, ordered using Nat.le_induction with
  | base => rfl
  | succ last ordered ih =>
      rw [← ih fun between above below =>
        kept between above (Nat.lt_succ_of_lt below)]
      rcases present : steps[last]? with _ | ⟨task, event⟩
      · rw [List.take_add_one, present]
        simp
      · rw [List.take_add_one, present]
        show lastOf update (_ ++ [_]) = _
        rw [lastOf_concat, kept last ordered (Nat.lt_succ_self last) _ _
          present]
        rfl

end LastOf

/-! ### What a task has done before -/

def RollCall.isWrite : RollCall → Bool
  | provisionMaterial _ _ => true
  | _ => false

/-- A roll that is cached was seen before, a task writes once, and a poll does
not write. -/
def RollLaw (kind : RollTask) (own : History RollCall RollReply) :
    RollCall → Prop
  | .noteRoll name roll =>
      (∃ other, kind = .poll other) ∧ ∃ event ∈ own, Sees name roll event
  | .recordRoll name roll =>
      ∃ event ∈ own, Sees name roll event ∧ event.1.isWrite = true
  | .provisionMaterial _ _ =>
      (∀ other, kind ≠ .poll other) ∧ ∀ event ∈ own, event.1.isWrite = false
  | _ => True

theorem pollRoll_lawful (name : String) :
    (pollRoll name).Ensures (RollLaw (.poll name)) [] fun _ _ => True := by
  refine ⟨trivial, fun reply => ?_⟩
  cases reply with
  | material answer =>
      rcases answer with error | _ | mat
      · trivial
      · trivial
      · exact ⟨⟨⟨name, rfl⟩, _, List.mem_singleton_self _, rfl, rfl⟩,
          fun _ => trivial⟩
  | _ => trivial

theorem changeRoll_lawful (name : String) (sizeHmm : Int × Int)
    (heat : U16 × U16) :
    (changeRoll name sizeHmm heat).Ensures
      (RollLaw (.setMedia name sizeHmm heat)) [] fun _ _ => True := by
  refine .bind (fun result own => ∀ roll, result = .ok (some roll) →
    ∃ event ∈ own, Sees name roll event ∧ event.1.isWrite = true) ?_ ?_
  · refine .bind (fun _ own => ∀ event ∈ own, event.1.isWrite = false)
      ⟨trivial, fun reply => ?_⟩ ?_
    · cases reply <;> exact List.forall_mem_singleton.mpr rfl
    · intro answer own unwritten
      rcases answer with error | current
      · intro roll same
        cases same
      · show (writeRoll name sizeHmm heat current).Ensures _ _ _
        unfold writeRoll
        dsimp only
        split
        · intro roll same
          cases same
        · split
          · intro roll same
            cases same
          · refine ⟨⟨fun other => nofun, unwritten⟩, fun reply => ?_⟩
            rcases reply with _ | _ | (error | written) | _
            case provisioned.ok =>
              rintro roll same
              obtain rfl := Option.some.inj (Except.ok.inj same)
              exact ⟨_, List.mem_concat_self, ⟨rfl, rfl⟩, rfl⟩
            all_goals
              intro roll same
              cases same
  · intro result own seen
    rcases result with error | _ | roll
    · trivial
    · trivial
    · exact ⟨seen roll rfl, fun _ => trivial⟩

theorem loadRolls_lawful (kind : RollTask)
    (rolls : List (String × Option MaterialInfo))
    (own : History RollCall RollReply) :
    (loadRolls rolls).Ensures (RollLaw kind) own fun _ _ => True := by
  induction rolls generalizing own with
  | nil => trivial
  | cons roll rolls ih => exact ⟨trivial, fun reply => ih _⟩

theorem RollTask.lawful (kind : RollTask) :
    kind.script.Ensures (RollLaw kind) [] fun _ _ => True := by
  cases kind with
  | poll name => exact pollRoll_lawful name
  | setMedia name sizeHmm heat => exact changeRoll_lawful name sizeHmm heat
  | byHand rolls => exact loadRolls_lawful _ rolls []

/-! ### Runs -/

section Runs

variable {initial : String → Option MaterialInfo} {tasks : Nat → RollTask}
  {rest : Nat → RollScript Unit} {steps : RollTrace}

def rollScripts (tasks : Nat → RollTask) : Nat → RollScript Unit :=
  fun task => (tasks task).script

theorem mem_ownHistory_take {task last : Nat} {event : RollEvent} :
    event ∈ Trace.ownHistory task (steps.take last) ↔
      ∃ step < last, steps[step]? = some (task, event) := by
  simp only [Trace.ownHistory, List.mem_filterMap, List.mem_take_iff_getElem,
    Option.ite_none_right_eq_some, Option.some.injEq]
  constructor
  · rintro ⟨_, ⟨step, bound, rfl⟩, rfl, rfl⟩
    exact ⟨step, by omega, by simp⟩
  · rintro ⟨step, bound, present⟩
    obtain ⟨inside, same⟩ := List.getElem?_eq_some_iff.mp present
    exact ⟨_, ⟨step, by omega, same⟩, rfl, rfl⟩

/-- Every step follows the law of its task and what the world admits. -/
theorem law_at
    (reached : Trace.Reaches (rollWorld initial) (rollScripts tasks) rest steps)
    {step task : Nat} {event : RollEvent}
    (present : steps[step]? = some (task, event)) :
    RollLaw (tasks task) (Trace.ownHistory task (steps.take step)) event.1 ∧
      rollWorld initial (steps.take step) task event.1 event.2 := by
  obtain ⟨inside, same⟩ := List.getElem?_eq_some_iff.mp present
  have split : steps =
      steps.take step ++ (task, event.1, event.2) :: steps.drop (step + 1) := by
    rw [← same, List.getElem_cons_drop, List.take_append_drop]
  obtain ⟨admitted, left, next, before, pending⟩ := reached.before split
  have ensured := before.ensures
    (fun task => (tasks task).lawful) task
  rw [pending] at ensured
  exact ⟨ensured.2.1, admitted⟩

/-- What a task sees of a roll is loaded after the look. -/
theorem loaded_of_sees
    (reached : Trace.Reaches (rollWorld initial) (rollScripts tasks) rest steps)
    {look task : Nat} {event : RollEvent} {name : String}
    {roll : RollFingerprint} (present : steps[look]? = some (task, event))
    (sees : Sees name roll event) :
    (loaded initial (steps.take (look + 1)) name).map fingerprint =
      some roll := by
  have admitted := (law_at reached present).2
  have grown : steps.take (look + 1) = steps.take look ++ [(task, event)] := by
    rw [List.take_add_one, present]
    rfl
  rw [loaded, grown, lastOf_concat]
  rcases event with ⟨request, reply⟩
  cases request with
  | queryMaterial other =>
      rcases reply with _ | (error | _ | mat) | _ | _
      case material.ok.some =>
        obtain ⟨rfl, rfl⟩ : other = name ∧ fingerprint mat = roll := sees
        have same : loaded initial (steps.take look) other = some mat :=
          of_decide_eq_true admitted
        rw [loaded] at same
        simp [rollChange, same]
      all_goals cases sees
  | provisionMaterial other record =>
      rcases reply with _ | _ | (error | written) | _
      case provisioned.ok =>
        obtain ⟨rfl, rfl⟩ : other = name ∧ fingerprint written = roll := sees
        simp [rollChange]
      all_goals cases sees
  | _ => cases sees

/-- Between two looks that show different rolls the loaded roll changes. -/
theorem change_of_sees
    (reached : Trace.Reaches (rollWorld initial) (rollScripts tasks) rest steps)
    {look other task actor : Nat} {event next : RollEvent} {name : String}
    {roll new : RollFingerprint} (ordered : look ≤ other)
    (present : steps[look]? = some (task, event)) (sees : Sees name roll event)
    (later : steps[other]? = some (actor, next)) (seesNew : Sees name new next)
    (differ : roll ≠ new) :
    ∃ change changer changed, look < change ∧ change ≤ other ∧
      steps[change]? = some (changer, changed) ∧
      (rollChange name changed).isSome := by
  by_contra unchanged
  have kept : lastOf (rollChange name) (steps.take (other + 1)) =
      lastOf (rollChange name) (steps.take (look + 1)) := by
    refine lastOf_take (Nat.succ_le_succ ordered) ?_
    intro between above below changer changed found
    by_contra changes
    exact unchanged ⟨between, changer, changed, above,
      Nat.lt_succ_iff.mp below, found, Option.isSome_iff_ne_none.mpr changes⟩
  have first := loaded_of_sees reached present sees
  have last := loaded_of_sees reached later seesNew
  rw [loaded, kept] at last
  exact differ (Option.some.inj (first.symm.trans last))

theorem isWrite_of_change {name : String} {event : RollEvent}
    (changes : (rollChange name event).isSome) :
    (∃ new, event.1 = .loadRoll name new) ∨ event.1.isWrite = true := by
  obtain ⟨request, reply⟩ := event
  cases request with
  | loadRoll other roll =>
      obtain rfl : other = name := by
        by_contra different
        simp [rollChange, different] at changes
      exact .inl ⟨roll, rfl⟩
  | provisionMaterial other mat => exact .inr rfl
  | _ => cases changes

theorem notPoll_of_write
    (reached : Trace.Reaches (rollWorld initial) (rollScripts tasks) rest steps)
    {write task : Nat} {event : RollEvent}
    (present : steps[write]? = some (task, event))
    (isWrite : event.1.isWrite = true) (name : String) :
    tasks task ≠ .poll name := by
  obtain ⟨request, reply⟩ := event
  have law := (law_at reached present).1
  cases request with
  | provisionMaterial other mat => exact law.1 name
  | _ => cases isWrite

theorem not_write_before
    (reached : Trace.Reaches (rollWorld initial) (rollScripts tasks) rest steps)
    {write task earlier : Nat} {event before : RollEvent}
    (present : steps[write]? = some (task, event))
    (isWrite : event.1.isWrite = true) (isEarlier : earlier < write)
    (found : steps[earlier]? = some (task, before)) :
    before.1.isWrite = false := by
  obtain ⟨request, reply⟩ := event
  have law := (law_at reached present).1
  cases request with
  | provisionMaterial other mat =>
      exact law.2 _ (mem_ownHistory_take.mpr ⟨earlier, isEarlier, found⟩)
  | _ => cases isWrite

/-- A task writes at most once. -/
theorem write_unique
    (reached : Trace.Reaches (rollWorld initial) (rollScripts tasks) rest steps)
    {first second task : Nat} {event next : RollEvent}
    (present : steps[first]? = some (task, event))
    (isWrite : event.1.isWrite = true)
    (found : steps[second]? = some (task, next))
    (isOther : next.1.isWrite = true) : first = second := by
  rcases Nat.lt_trichotomy first second with before | same | after
  · have no := not_write_before reached found isOther before present
    rw [isWrite] at no
    cases no
  · exact same
  · have no := not_write_before reached present isWrite after found
    rw [isOther] at no
    cases no

/-- What is in the cache was seen and put there by one task: a poll, or a task
that wrote it. -/
theorem seesAndCaches_of_cached
    (reached : Trace.Reaches (rollWorld initial) (rollScripts tasks) rest steps)
    {update task : Nat} {event : RollEvent} {name : String}
    {roll : RollFingerprint} (present : steps[update]? = some (task, event))
    (cached : cacheUpdate name event = some roll) :
    ∃ look seen, SeesAndCaches steps name roll task look update ∧
      steps[look]? = some (task, seen) ∧ Sees name roll seen ∧
      ((∃ other, tasks task = .poll other) ∨ seen.1.isWrite = true) := by
  have law := (law_at reached present).1
  have found : ∃ seen ∈ Trace.ownHistory task (steps.take update),
      Sees name roll seen ∧
        ((∃ other, tasks task = .poll other) ∨ seen.1.isWrite = true) := by
    obtain ⟨request, reply⟩ := event
    cases request with
    | noteRoll other new =>
        obtain ⟨rfl, rfl⟩ : other = name ∧ new = roll := by
          simpa [cacheUpdate] using cached
        obtain ⟨isPoll, seen, member, sees⟩ := law
        exact ⟨seen, member, sees, .inl isPoll⟩
    | recordRoll other new =>
        obtain ⟨rfl, rfl⟩ : other = name ∧ new = roll := by
          simpa [cacheUpdate] using cached
        obtain ⟨seen, member, sees, isWrite⟩ := law
        exact ⟨seen, member, sees, .inr isWrite⟩
    | _ => cases cached
  obtain ⟨seen, member, sees, origin⟩ := found
  obtain ⟨look, before, shown⟩ := mem_ownHistory_take.mp member
  exact ⟨look, seen, ⟨before, ⟨seen, shown, sees⟩, event, present, cached⟩,
    shown, sees, origin⟩

/-- A confirmed write between two looks overlaps a task that looks: the one
whose roll was cached, or the poll that compares. -/
theorem overlapsOther_of_write
    (reached : Trace.Reaches (rollWorld initial) (rollScripts tasks) rest steps)
    {name : String} {prev roll : RollFingerprint}
    {task keeper look step before update : Nat} {kept : RollEvent}
    (isPoll : ∃ other, tasks task = .poll other)
    (polls : SeesAndCaches steps name roll task look step)
    (keeps : SeesAndCaches steps name prev keeper before update)
    (shown : steps[before]? = some (keeper, kept))
    (origin : (∃ other, tasks keeper = .poll other) ∨ kept.1.isWrite = true)
    (updated : update < step)
    (isLast : ∀ later > update, later < step →
      ∀ (other : Nat) (next : RollEvent),
        steps[later]? = some (other, next) → cacheUpdate name next = none)
    {write writer : Nat} {event : RollEvent}
    (written : steps[write]? = some (writer, event))
    (isWrite : event.1.isWrite = true) (above : min before look < write)
    (below : write ≤ max before look) :
    OverlapsOther steps name writer write step := by
  have notPoll := notPoll_of_write reached written isWrite
  have different : task ≠ writer := by
    rintro rfl
    obtain ⟨other, same⟩ := isPoll
    exact notPoll other same
  have keptBefore := keeps.later
  by_cases inOrder : before < look
  · rw [min_eq_left inOrder.le] at above
    rw [max_eq_right inOrder.le] at below
    have earlier : write < look := by
      refine Nat.lt_of_le_of_ne below fun same => different ?_
      obtain ⟨seen, present, -⟩ := polls.seen
      rw [same, present] at written
      exact (Prod.mk.inj (Option.some.inj written)).1
    by_cases uncached : ∀ between < step, ∀ next : RollEvent,
        steps[between]? = some (writer, next) → cacheUpdate name next = none
    · exact ⟨roll, task, look, step, different, Nat.le_refl _, polls,
        .inr ⟨earlier, uncached⟩⟩
    · push Not at uncached
      obtain ⟨between, inside, next, present, caches⟩ := uncached
      obtain ⟨new, cached⟩ := Option.ne_none_iff_exists'.mp caches
      -- The writer caches what it wrote, so it does that after the write.
      obtain ⟨own, seen, sees, ownShown, -, ownOrigin⟩ :=
        seesAndCaches_of_cached reached present cached
      have ownWrite : seen.1.isWrite = true := by
        rcases ownOrigin with ⟨other, same⟩ | isOwn
        · exact absurd same (notPoll other)
        · exact isOwn
      obtain rfl := write_unique reached written isWrite ownShown ownWrite
      have ownLater := sees.later
      have upTo : between ≤ update := by
        by_contra beyond
        exact caches (isLast between (by omega) inside writer next present)
      have others : keeper ≠ writer := by
        rintro rfl
        rcases origin with ⟨other, same⟩ | keptWrite
        · exact notPoll other same
        · have no := not_write_before reached written isWrite above shown
          rw [keptWrite] at no
          cases no
      exact ⟨prev, keeper, before, update, others, updated.le, keeps,
        .inl ⟨above, by omega⟩⟩
  · have reversed : look ≤ before := by omega
    rw [min_eq_right reversed] at above
    rw [max_eq_left reversed] at below
    exact ⟨roll, task, look, step, different, Nat.le_refl _, polls,
      .inl ⟨above, by omega⟩⟩

/-- Behind every swap that is reported the loaded record changed between the
looks that are compared.  If a media change made the change, it overlaps
another task that looked at the printer. -/
theorem noteRoll_swapBehind
    (reached : Trace.Reaches (rollWorld initial) (rollScripts tasks) rest steps)
    {step task : Nat} {name : String} {roll : RollFingerprint}
    {previous : Option RollFingerprint}
    (noted : steps[step]? =
      some (task, .noteRoll name roll, .previous previous))
    (detected : swapDetected previous roll = true) :
    ∃ prev, previous = some prev ∧
      SwapBehind steps name prev roll task step := by
  obtain ⟨prev, rfl, swapped⟩ : ∃ prev, previous = some prev ∧
      (prev != roll && prev.uuid != "") = true := by
    cases previous with
    | none => cases detected
    | some prev => exact ⟨prev, rfl, detected⟩
  have differ : prev ≠ roll := by
    simp only [Bool.and_eq_true, bne_iff_ne] at swapped
    exact swapped.1
  obtain ⟨law, admitted⟩ := law_at reached noted
  have caches : cacheUpdate name
      (.noteRoll name roll, .previous (some prev)) = some roll :=
    if_pos rfl
  obtain ⟨look, seen, polls, shown, sees, -⟩ :=
    seesAndCaches_of_cached reached noted caches
  have cached : lastOf (cacheUpdate name) (steps.take step) = some prev :=
    (of_decide_eq_true admitted).symm
  obtain ⟨update, keeper, event, present, updates, isLast⟩ :=
    exists_of_lastOf cached
  obtain ⟨updated, found⟩ : update < step ∧
      steps[update]? = some (keeper, event) := by
    rw [List.getElem?_take] at present
    split at present
    · exact ⟨‹_›, present⟩
    · cases present
  obtain ⟨before, kept, keeps, keptShown, keptSees, origin⟩ :=
    seesAndCaches_of_cached reached found updates
  have isLast' : ∀ later > update, later < step →
      ∀ (other : Nat) (next : RollEvent),
        steps[later]? = some (other, next) → cacheUpdate name next = none := by
    intro later beyond inside other next present
    exact isLast later beyond other next (by
      rw [List.getElem?_take, if_pos inside, present])
  obtain ⟨change, changer, changed, above, below, changedAt, changes⟩ :
      ∃ change changer changed, min before look < change ∧
        change ≤ max before look ∧
        steps[change]? = some (changer, changed) ∧
        (rollChange name changed).isSome := by
    rcases Nat.le_total before look with inOrder | reversed
    · rw [min_eq_left inOrder, max_eq_right inOrder]
      exact change_of_sees reached inOrder keptShown keptSees shown sees differ
    · rw [min_eq_right reversed, max_eq_left reversed]
      exact change_of_sees reached reversed shown sees keptShown keptSees
        differ.symm
  refine ⟨prev, rfl, look, keeper, before, update, polls, keeps, updated,
    change, changer, changed, above, below, changedAt, changes, ?_⟩
  refine (isWrite_of_change changes).imp_right fun isWrite => ?_
  exact overlapsOther_of_write reached law.1 polls keeps keptShown origin
    updated isLast' changedAt isWrite above below

end Runs

def blankRoll : MaterialInfo :=
  ⟨"00000000000000", "0000000000000000", 0#16, 1#8, 40#8, 30#8, 3#8,
    some 0#32, none⟩

def writtenRoll : MaterialInfo :=
  ⟨"30000000000000", "0000000000000000", 30000#16, 1#8, 50#8, 30#8, 3#8,
    some 480#32, none⟩

/-- A poll that a media change overtakes. -/
def overtakenPoll : RollTrace :=
  [(0, .queryMaterial "t50", .material (.ok (some blankRoll))),
    (1, .queryMaterial "t50", .material (.ok (some blankRoll))),
    (1, .provisionMaterial "t50"
      (mediaRecord (some blankRoll) 50#8 30#8 (1800#16, 1300#16)),
      .provisioned (.ok writtenRoll)),
    (1, .recordRoll "t50" (fingerprint writtenRoll), .done),
    (0, .noteRoll "t50" (fingerprint blankRoll),
      .previous (some (fingerprint writtenRoll)))]

/-- The poll reports the roll that it saw before the media change. -/
theorem noteRoll_swapBehind_overtaken :
    ∃ prev, some (fingerprint writtenRoll) = some prev ∧
      SwapBehind overtakenPoll "t50" prev (fingerprint blankRoll) 0 4 := by
  have followed : Trace.follow (rollWorld fun _ => some blankRoll)
      overtakenPoll.schedule (rollScripts fun task =>
        if task = 0 then .poll "t50"
        else .setMedia "t50" (5000, 3000) (1800#16, 1300#16)) [] =
      some overtakenPoll := rfl
  obtain ⟨rest, reached⟩ := Trace.Reaches.start.follow followed
  exact noteRoll_swapBehind reached rfl (by decide)

end SupvanCups
