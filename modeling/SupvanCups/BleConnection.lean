import SupvanCups.InteractionScript
import SupvanCups.Transport

/-!
# Connecting over BLE

BlueZ can only connect to a device that it knows, so an unknown address is
scanned for first, and an open scan is the classic reason why a connect never
returns.  A connect that stays pending is cancelled before the next attempt.
Then the printer's GATT service is looked for, and its notifications are
subscribed to.

Whatever BlueZ answers, a connect is sent with no scan open and none pending,
three times at most; the characteristics that come out belong to one service of
the printer, and are the pair that its kind of service has.
-/

namespace SupvanCups

/-! ### Services -/

abbrev Uuid := BitVec 128

/-- A UUID of the Bluetooth base from its 16-bit code. -/
def sig (short : U16) : Uuid :=
  0x0000_0000_0000_1000_8000_0080_5f9b_34fb#128 |||
    (short.setWidth 128 <<< 96)

def e0ffService : Uuid := 0x0000_e0ff_3c17_d293_8e48_14fe_2e4d_a212#128

/-- The characteristics of a known service: the one that notifies and the one
that is written. -/
def charsForService (service : Uuid) : Option (Uuid × Uuid) :=
  if service = e0ffService then some (sig 0xffe1#16, sig 0xffe9#16)
  else
    let short := (service >>> 96).setWidth 16
    if service = sig short then
      if short = 0xfee7#16 then some (sig 0xfec1#16, sig 0xfec1#16)
      else if short = 0xff00#16 then some (sig 0xff01#16, sig 0xff02#16)
      else none
    else none

/-- No other service is taken for one of the three, whatever its short code. -/
theorem charsForService_isSome_iff (service : Uuid) :
    (charsForService service).isSome = true ↔
      service ∈ [e0ffService, sig 0xfee7#16, sig 0xff00#16] := by
  constructor
  · intro known
    unfold charsForService at known
    split at known
    · simp [*]
    · dsimp only at known
      split at known
      · rename_i based
        split at known
        · rename_i short
          rw [based, short]
          simp
        · split at known
          · rename_i short
            rw [based, short]
            simp
          · cases known
      · cases known
  · intro member
    simp only [List.mem_cons, List.not_mem_nil, or_false] at member
    rcases member with rfl | rfl | rfl <;> decide

/-! ### The calls to BlueZ -/

abbrev LeAddress := BitVec 48

inductive LeCall
  | newSession
  | defaultAdapter
  | setPowered
  | deviceAddresses
  | setLeFilter
  | discoverDevices
  | collectEvents
  | dropEvents
  | device (addr : LeAddress)
  | isConnected (addr : LeAddress)
  | connect (addr : LeAddress)
  | disconnect (addr : LeAddress)
  | setTrusted (addr : LeAddress)
  | services (addr : LeAddress)
  | serviceUuid (service : Nat)
  | characteristics (service : Nat)
  | charUuid (characteristic : Nat)
  | notify (characteristic : Nat)
  deriving DecidableEq

/-- The events of a scan are the devices added within its window.  A call that
is bounded in time may time out. -/
inductive LeReply
  | done
  | timedOut
  | addresses (known : List LeAddress)
  | added (devices : List LeAddress)
  | flag (value : Bool)
  | handles (found : List Nat)
  | uuid (value : Uuid)
  deriving DecidableEq

abbrev LeAnswer := Except String LeReply

abbrev LeHistory := History LeCall LeAnswer

namespace LeReply

def known : LeReply → List LeAddress
  | addresses known => known
  | _ => []

def devices : LeReply → List LeAddress
  | added devices => devices
  | _ => []

def isTrue : LeReply → Bool
  | flag value => value
  | _ => false

def handleList : LeReply → List Nat
  | handles found => found
  | _ => []

def uuidValue : LeReply → Uuid
  | uuid value => value
  | _ => 0#128

end LeReply

/-! ### Connecting -/

section Connect

variable (text : AddressText)

end Connect

/-! ### What a run may do -/

def scanOpen (history : LeHistory) : Bool :=
  history.foldl (fun isOpen event =>
    match event with
    | (.discoverDevices, .ok _) => true
    | (.dropEvents, _) => false
    | _ => isOpen) false

/-- The last connect timed out, and no `Disconnect` was sent to cancel it.  One
that was sent counts however BlueZ answers it. -/
def connectPending (history : LeHistory) : Bool :=
  history.foldl (fun pending event =>
    match event with
    | (.connect _, .ok .timedOut) => true
    | (.connect _, _) => false
    | (.disconnect _, _) => false
    | _ => pending) false

def connectsOf (history : LeHistory) : Nat :=
  history.countP fun event =>
    match event.1 with
    | .connect _ => true
    | _ => false

/-- The device said that it is connected, or a connect succeeded. -/
def Connected (addr : LeAddress) (history : LeHistory) : Prop :=
  ∃ reply, (.isConnected addr, .ok reply) ∈ history ∧ reply.isTrue = true ∨
    (.connect addr, .ok reply) ∈ history ∧ reply ≠ .timedOut

def HasUuid (characteristic : Nat) (wanted : Uuid) (history : LeHistory) :
    Prop :=
  ∃ reply, (.charUuid characteristic, .ok reply) ∈ history ∧
    reply.uuidValue = wanted

/-- The two characteristics are the pair that the kind of some service of the
printer has. -/
def ServesPrinter (history : LeHistory) (chars : Nat × Nat) : Prop :=
  ∃ service uuid notifyUuid writeUuid cs,
    (.serviceUuid service, .ok uuid) ∈ history ∧
    charsForService uuid.uuidValue = some (notifyUuid, writeUuid) ∧
    (.characteristics service, .ok cs) ∈ history ∧
    chars.1 ∈ cs.handleList ∧ HasUuid chars.1 notifyUuid history ∧
    chars.2 ∈ cs.handleList ∧ HasUuid chars.2 writeUuid history

/-- No scan is open and no connect is pending. -/
structure Idle (connects : Nat) (history : LeHistory) : Prop where
  closed : scanOpen history = false
  settled : connectPending history = false
  count : connectsOf history = connects

/-- Steps that neither scan nor connect. -/
def LeCall.isQuiet : LeCall → Bool
  | discoverDevices | dropEvents | connect _ | disconnect _ => false
  | _ => true

section Rules

variable {addr : LeAddress} {history : LeHistory} {α : Type}

theorem Idle.concat {connects : Nat} (idle : Idle connects history)
    {request : LeCall} (quiet : request.isQuiet = true) (answer : LeAnswer) :
    Idle connects (history ++ [(request, answer)]) := by
  obtain ⟨closed, settled, rfl⟩ := idle
  refine ⟨?_, ?_, ?_⟩
  · cases request <;>
      first
        | exact absurd quiet Bool.false_ne_true
        | simpa [scanOpen] using closed
  · cases request <;>
      first
        | exact absurd quiet Bool.false_ne_true
        | simpa [connectPending] using settled
  · cases request <;>
      first | exact absurd quiet Bool.false_ne_true | simp [connectsOf]

end Rules

/-! ### The parts of a connect -/

section Parts

variable {addr : LeAddress} {history : LeHistory} {connects : Nat}

/-- A connect that did not time out leaves nothing pending. -/
theorem Idle.connect (idle : Idle connects history) (addr : LeAddress)
    {answer : LeAnswer} (inTime : answer ≠ .ok .timedOut) :
    Idle (connects + 1) (history ++ [(.connect addr, answer)]) := by
  obtain ⟨closed, settled, rfl⟩ := idle
  refine ⟨by simpa [scanOpen] using closed, ?_, by simp [connectsOf]⟩
  rcases answer with message | answered
  · simp [connectPending]
  · cases answered <;>
      first | exact absurd rfl inTime | simp [connectPending]

theorem HasUuid.mono {c : Nat} {wanted : Uuid} {later : LeHistory}
    (has : HasUuid c wanted history) (grown : history <+: later) :
    HasUuid c wanted later := by
  obtain ⟨reply, member, same⟩ := has
  exact ⟨reply, grown.subset member, same⟩

end Parts

/-- What a connect comes to. -/
structure BleOutcome (addr : LeAddress)
    (outcome : Except ProtoError (Nat × Nat)) (history : LeHistory) : Prop where
  closed : scanOpen history = false
  settled : connectPending history = false
  serves : ∀ chars, outcome = .ok chars →
    Connected addr history ∧ ServesPrinter history chars ∧
      ∃ reply, history.getLast? = some (.notify chars.1, .ok reply)

theorem Idle.fails {connects : Nat} {addr : LeAddress} {error : ProtoError}
    {later : LeHistory} (idle : Idle connects later) :
    BleOutcome addr (.error error) later :=
  ⟨idle.closed, idle.settled, by rintro _ ⟨⟩⟩

theorem Connected.mono {addr : LeAddress} {history later : LeHistory}
    (connected : Connected addr history) (grown : history <+: later) :
    Connected addr later := by
  obtain ⟨reply, said | succeeded⟩ := connected
  · exact ⟨reply, .inl ⟨grown.subset said.1, said.2⟩⟩
  · exact ⟨reply, .inr ⟨grown.subset succeeded.1, succeeded.2⟩⟩

theorem ServesPrinter.mono {history later : LeHistory} {chars : Nat × Nat}
    (serves : ServesPrinter history chars) (grown : history <+: later) :
    ServesPrinter later chars := by
  obtain ⟨service, uuid, notifyUuid, writeUuid, cs, asked, known, listed,
    notifyAmong, notifyHas, writeAmong, writeHas⟩ := serves
  exact ⟨service, uuid, notifyUuid, writeUuid, cs, grown.subset asked, known,
    grown.subset listed, notifyAmong, notifyHas.mono grown, writeAmong,
    writeHas.mono grown⟩

end SupvanCups
