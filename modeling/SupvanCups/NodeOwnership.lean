import SupvanCups.DiscoveryCoverage
import SupvanCups.DeviceAccess

/-!
# One printer for each device node

The transport map outlives a round of discovery: a round inserts what it lists
and removes nothing.  A hidraw path that another printer takes over stays
registered under the old slug too, unless that slug is listed again.
-/

namespace SupvanCups

/-- What one round of discovery finds. -/
structure Cycle where
  usb : List UsbCandidate
  bt : List BtCandidate := []
  ble : List BleCandidate := []

/-- The node registered under a slug. -/
def nodeOf (map : SupvanMap) (s : String) : Option String :=
  map[s]?.bind SupvanTransports.hidrawPath

def PathOwned (map : SupvanMap) : Prop :=
  ∀ first second path, nodeOf map first = some path →
    nodeOf map second = some path → first = second

namespace Cycle

/-- The paths of a round are distinct, and so are the names of its USB
candidates and the slugs of what it lists. -/
structure WellFormed (c : Cycle) : Prop where
  paths : (c.usb.map UsbCandidate.hidrawPath).Nodup
  names : (c.usb.map UsbCandidate.key).Nodup
  slugs : SlugsApart c.usb c.bt c.ble

/-- The slug is that of a printer the round lists. -/
def Lists (c : Cycle) (s : String) : Prop :=
  ∃ name, Listed c.usb c.bt c.ble name ∧ slug name = s

/-- Every slug that holds a path the round reports is listed again. -/
def Retires (map : SupvanMap) (c : Cycle) : Prop :=
  ∀ s path, nodeOf map s = some path →
    path ∈ c.usb.map UsbCandidate.hidrawPath → c.Lists s

end Cycle

section Discovery

variable (unicode : UnicodeLower) (reg : Registry)

def discover (map : SupvanMap) (c : Cycle) : Option SupvanMap :=
  (listDevices false unicode reg c.usb c.bt c.ble map).map Prod.snd

/-- The transport map after some rounds, the first of which finds it empty. -/
def discoverAll (cycles : List Cycle) : Option SupvanMap :=
  cycles.foldlM (discover unicode reg) ∅

/-! ### What one round leaves in the map -/

/-- What a round leaves under each slug, and where its USB candidates are. -/
structure Round (map after : SupvanMap) (c : Cycle) : Prop where
  unlisted : ∀ s, ¬ c.Lists s → nodeOf after s = nodeOf map s
  /-- A listed slug holds the node of a candidate listed under its name. -/
  held : ∀ s path, c.Lists s → nodeOf after s = some path →
    ∃ u ∈ c.usb, u.hidrawPath = path ∧
      ∃ name, ListedUnder c.usb c.bt c.ble u.key name ∧ slug name = s
  found : ∀ u ∈ c.usb, ∃ s, c.Lists s ∧ nodeOf after s = some u.hidrawPath

theorem discover_round (map : SupvanMap) {c : Cycle}
    (wellFormed : c.WellFormed) :
    ∃ after, discover unicode reg map c = some after ∧ Round map after c := by
  obtain ⟨printers, listed, named, hold, seated⟩ :=
    logicalPrinters_holdCandidates c.usb c.bt c.ble
  have apart := (slugs_apart_iff named hold seated).mpr wellFormed.slugs
  have run : discover unicode reg map c =
      some (printers.foldl registerPrinter map) := by
    simp [discover, listDevices, listed, foldl_emitPrinter]
  have registered {p : LogicalPrinter} (member : p ∈ printers) :
      nodeOf (printers.foldl registerPrinter map) (slug p.name) =
        p.transports.usb.map UsbCandidate.hidrawPath := by
    rw [nodeOf, getElem?_registered apart map member]
    rfl
  refine ⟨_, run, ?_, ?_, ?_⟩
  · intro s unlisted
    have absent : latest (fun p : LogicalPrinter => slug p.name) printers s =
        none := by
      apply Option.isNone_iff_eq_none.mp
      rw [latest_isNone]
      intro p member sameSlug
      exact unlisted ⟨p.name, (hold p member).listed, sameSlug⟩
    rw [nodeOf, getElem?_foldl_registerPrinter, absent]
    rfl
  · rintro s path ⟨name, listedName, rfl⟩ node
    obtain ⟨p, member, rfl⟩ := seated name listedName
    rw [registered member] at node
    obtain ⟨u, holdsU, rfl⟩ := Option.map_eq_some_iff.mp node
    obtain ⟨k, under, latestU⟩ := ((hold p member).usb u).mp holdsU
    obtain ⟨uMember, rfl⟩ := latest_some latestU
    exact ⟨u, uMember, rfl, p.name, under, rfl⟩
  · intro u uMember
    have latestU := (latest_eq_self_iff UsbCandidate.key
      wellFormed.paths.of_map).mpr wellFormed.names u uMember
    obtain ⟨name, under⟩ := exists_listedUnder c.usb c.bt c.ble u.key
    have listedName := listed_of_listedUnder under ⟨u, uMember, rfl⟩
    obtain ⟨p, member, rfl⟩ := seated name listedName
    refine ⟨slug p.name, ⟨p.name, listedName, rfl⟩, ?_⟩
    rw [registered member, ((hold p member).usb u).mpr ⟨_, under, latestU⟩]
    rfl

end Discovery

/-- A round keeps each node with one printer exactly when it lists again every
slug whose node it reports. -/
theorem Round.pathOwned_iff {map after : SupvanMap} {c : Cycle}
    (round : Round map after c) (wellFormed : c.WellFormed)
    (owned : PathOwned map) :
    PathOwned after ↔ c.Retires map := by
  constructor
  · intro ownedAfter s path node reported
    by_contra unlisted
    obtain ⟨u, uMember, rfl⟩ := List.mem_map.mp reported
    obtain ⟨home, listedHome, homeNode⟩ := round.found u uMember
    have staleNode := (round.unlisted s unlisted).trans node
    exact unlisted (ownedAfter home s u.hidrawPath homeNode staleNode ▸
      listedHome)
  · intro retires first second path firstNode secondNode
    -- A listed slug shares its node with no slug that is not listed.
    have apart : ∀ s other, c.Lists s → ¬ c.Lists other →
        nodeOf after s = some path → nodeOf after other ≠ some path := by
      intro s other lists unlisted node otherNode
      obtain ⟨u, uMember, rfl, -⟩ := round.held s path lists node
      rw [round.unlisted other unlisted] at otherNode
      exact unlisted (retires other _ otherNode
        (List.mem_map_of_mem uMember))
    by_cases firstLists : c.Lists first <;>
      by_cases secondLists : c.Lists second
    · obtain ⟨u, uMember, uPath, name, under, rfl⟩ :=
        round.held first path firstLists firstNode
      obtain ⟨v, vMember, vPath, other, otherUnder, rfl⟩ :=
        round.held second path secondLists secondNode
      obtain rfl := List.inj_on_of_nodup_map wellFormed.paths uMember vMember
        (uPath.trans vPath.symm)
      rw [under.unique otherUnder]
    · exact absurd secondNode (apart first second firstLists secondLists
        firstNode)
    · exact absurd firstNode (apart second first secondLists firstLists
        secondNode)
    · rw [round.unlisted first firstLists] at firstNode
      rw [round.unlisted second secondLists] at secondNode
      exact owned first second path firstNode secondNode

/-! ### What opening a printer opens -/

def HostCall.openedNode : HostCall → Option String
  | .openHidraw path => some path
  | _ => none

/-- The only node a call opens, if any, is the given one. -/
def OpensAtMost (node : Option String) (request : HostCall) : Prop :=
  ∀ path, request.openedNode = some path → node = some path

section Opening

variable {α : Type} {node : Option String}

theorem opensAtMost_of_none {request : HostCall}
    (opensNone : request.openedNode = none) : OpensAtMost node request := by
  intro path opens
  rw [opensNone] at opens
  contradiction

theorem act_only {request : HostCall} (permits : OpensAtMost node request) :
    (act request).Only (OpensAtMost node) :=
  (Script.only_ask permits).bind fun _ => trivial

theorem askConn_only {request : HostCall}
    (permits : OpensAtMost node request) :
    (askConn request).Only (OpensAtMost node) :=
  (Script.only_ask permits).bind fun reply => by
    cases reply <;> trivial

theorem newDevice_only (printer : PrinterHandle) :
    (newDevice printer).Only (OpensAtMost node) :=
  (Script.only_ask (opensAtMost_of_none rfl)).bind fun reply => by
    cases reply <;> trivial

theorem carryOut_only (printer : PrinterHandle) (operation : Operation α) :
    (printer.carryOut operation).Only (OpensAtMost node) :=
  .interpret (fun _ => (Script.only_ask (opensAtMost_of_none rfl)).bind
    fun reply => by cases reply <;> trivial) _

theorem checkDevice_only (printer : PrinterHandle) :
    printer.checkDevice.Only (OpensAtMost node) := by
  cases printer with
  | owned fd => exact carryOut_only _ _
  | shared conn =>
      exact (act_only (opensAtMost_of_none rfl)).bind fun _ =>
        (carryOut_only _ _).bind fun _ =>
          (act_only (opensAtMost_of_none rfl)).bind fun _ => trivial

theorem dialAndCache_only (kind : CacheKind) (addr : String) :
    (dialAndCache kind addr).Only (OpensAtMost node) := by
  apply (askConn_only (opensAtMost_of_none rfl)).bind
  intro opened
  cases opened with
  | none => trivial
  | some conn =>
      exact (act_only (opensAtMost_of_none rfl)).bind fun _ => trivial

theorem cachedOrDialed_only (kind : CacheKind) (addr : String) :
    (cachedOrDialed kind addr).Only (OpensAtMost node) := by
  apply (askConn_only (opensAtMost_of_none rfl)).bind
  intro entry
  cases entry with
  | none => exact dialAndCache_only kind addr
  | some conn =>
      apply (checkDevice_only (.shared conn)).bind
      intro answer
      have redial : (do
          act (.uncache kind addr)
          dialAndCache kind addr).Only (OpensAtMost node) :=
        (act_only (opensAtMost_of_none rfl)).bind fun _ =>
          dialAndCache_only kind addr
      rcases answer with error | _ | _
      · exact redial
      · exact redial
      · trivial

theorem openCached_only (kind : CacheKind) (addr : String) :
    (openCached kind addr).Only (OpensAtMost node) := by
  apply (cachedOrDialed_only kind addr).bind
  intro conn
  cases conn with
  | none => trivial
  | some conn => exact (newDevice_only _).bind fun _ => trivial

theorem openUsb_only {path : String} (registered : node = some path) :
    (KsDevice.openUsb path).Only (OpensAtMost node) := by
  have permits : OpensAtMost node (.openHidraw path) := by
    rintro other ⟨rfl⟩
    exact registered
  apply (askConn_only permits).bind
  intro fd
  cases fd with
  | none => trivial
  | some fd => exact (newDevice_only _).bind fun _ => trivial

theorem orElse_only {first second : HostScript (Option KsDevice)}
    (firstOnly : first.Only (OpensAtMost node))
    (secondOnly : second.Only (OpensAtMost node)) :
    (orElse first second).Only (OpensAtMost node) := by
  apply firstOnly.bind
  intro result
  cases result with
  | none => exact secondOnly
  | some dev => trivial

theorem openBt_only (uri : String) :
    (openBt uri).Only (OpensAtMost node) := by
  unfold openBt
  split
  · trivial
  · exact openCached_only _ _

theorem openBleAddr_only (bleFeature : Bool) (addr : String) :
    (openBleAddr bleFeature addr).Only (OpensAtMost node) := by
  unfold openBleAddr
  split
  · exact openCached_only _ _
  · trivial

/-- The ways to a registered printer, in the order they are tried. -/
def openEntry (bleFeature : Bool) (entry : SupvanTransports) :
    HostScript (Option KsDevice) :=
  orElse (openIf entry.hidrawPath KsDevice.openUsb)
    (orElse
      (openIf entry.btAddress fun addr => openBt ("btrfcomm://bt/" ++ addr))
      (openIf entry.bleAddress (openBleAddr bleFeature)))

/-- The ways to a registered printer open no node but its own. -/
theorem openEntry_only (bleFeature : Bool) (entry : SupvanTransports) :
    (openEntry bleFeature entry).Only (OpensAtMost entry.hidrawPath) := by
  apply orElse_only
  · unfold openIf
    split
    · trivial
    · next path registered => exact openUsb_only registered
  apply orElse_only
  · unfold openIf
    split
    · trivial
    · exact openBt_only _
  · unfold openIf
    split
    · trivial
    · exact openBleAddr_only _ _

end Opening

/-- Opening a printer by its slug opens no node that another slug holds. -/
def OpensOwnNode (map : SupvanMap) : Prop :=
  ∀ (bleFeature : Bool) (device : Device HostCall HostReply),
    (∀ history s, device history (.transports s) = .transports map[s]?) →
    ∀ s other path reply,
      (HostCall.openHidraw path, reply) ∈
        ((openSupvan bleFeature ("supvan://" ++ s)).run device []).2 →
      nodeOf map other = some path → other = s

theorem stripPrefix_append (start rest : String) :
    stripPrefix start (start ++ rest) = some rest := by
  simp [stripPrefix, String.toList_append]

/-- `open_supvan` looks its slug up and goes on with what is registered. -/
theorem run_openSupvan {map : SupvanMap} (bleFeature : Bool)
    {device : Device HostCall HostReply}
    (serves : ∀ history s,
      device history (.transports s) = .transports map[s]?)
    (s : String) (history : History HostCall HostReply) :
    (openSupvan bleFeature ("supvan://" ++ s)).run device history =
      (map[s]?.elim (pure none) (openEntry bleFeature)).run device
        (history ++ [(.transports s, .transports map[s]?)]) := by
  have looked : (askTransports s).run device history =
      (map[s]?, history ++ [(.transports s, .transports map[s]?)]) := by
    simp [askTransports, Script.ask, Script.bind, Script.run, serves]
  have continued : ∀ next : Option SupvanTransports →
        HostScript (Option KsDevice),
      (askTransports s >>= next).run device history =
        (next map[s]?).run device
          (history ++ [(.transports s, .transports map[s]?)]) := by
    intro next
    exact (Script.run_bind device _ next history).trans (by rw [looked])
  simp only [openSupvan, stripPrefix_append, continued]
  cases map[s]? <;> rfl

/-- `open_supvan` opens no node but the one registered under the slug. -/
theorem openSupvan_opensRegistered {map : SupvanMap} (bleFeature : Bool)
    {device : Device HostCall HostReply}
    (serves : ∀ history s,
      device history (.transports s) = .transports map[s]?)
    {s path : String} {reply : HostReply}
    (opened : (HostCall.openHidraw path, reply) ∈
      ((openSupvan bleFeature ("supvan://" ++ s)).run device []).2) :
    nodeOf map s = some path := by
  rw [run_openSupvan bleFeature serves] at opened
  cases found : map[s]? with
  | none =>
      rw [found] at opened
      obtain same := List.mem_singleton.mp opened
      cases same
  | some entry =>
      rw [found] at opened
      rcases (openEntry_only bleFeature entry).run device _ _ opened with
        before | permits
      · obtain same := List.mem_singleton.mp before
        cases same
      · rw [nodeOf, found]
        exact permits path rfl

theorem PathOwned.opensOwnNode {map : SupvanMap} (owned : PathOwned map) :
    OpensOwnNode map := by
  intro bleFeature device serves s other path reply opened otherNode
  exact owned other s path otherNode
    (openSupvan_opensRegistered bleFeature serves opened)

/-! ### Every sequence of rounds -/

/-- No node is registered under two slugs, and opening a printer by its slug
opens no other printer's node. -/
def NodesApart (map : SupvanMap) : Prop :=
  PathOwned map ∧ OpensOwnNode map

theorem pathOwned_empty : PathOwned ∅ := by
  intro first second path node
  simp [nodeOf] at node

section Runs

variable (unicode : UnicodeLower) (reg : Registry)

theorem discoverAll_concat (cycles : List Cycle) (c : Cycle) :
    discoverAll unicode reg (cycles ++ [c]) =
      (discoverAll unicode reg cycles).bind fun map =>
        discover unicode reg map c := by
  simp [discoverAll, List.foldlM_append]

/-- After every round of a sequence each node belongs to one printer, exactly
when every round lists again the slugs whose nodes it reports. -/
theorem discoverAll_nodesApart_iff (cycles : List Cycle)
    (wellFormed : ∀ c ∈ cycles, c.WellFormed) :
    (∀ done, done <+: cycles →
      ∃ map, discoverAll unicode reg done = some map ∧ NodesApart map) ↔
    ∀ done c, done ++ [c] <+: cycles →
      ∃ map, discoverAll unicode reg done = some map ∧ c.Retires map := by
  constructor
  · intro apart done c reached
    obtain ⟨map, run, owned, -⟩ :=
      apart done ((List.prefix_append done [c]).trans reached)
    obtain ⟨after, runAfter, ownedAfter, -⟩ := apart (done ++ [c]) reached
    have formed := wellFormed c (reached.subset (by simp))
    obtain ⟨after', step, round⟩ := discover_round unicode reg map formed
    rw [discoverAll_concat, run, Option.bind_some, step] at runAfter
    obtain rfl := Option.some.inj runAfter
    exact ⟨map, run, (round.pathOwned_iff formed owned).mp ownedAfter⟩
  · intro retires done
    induction done using List.reverseRecOn with
    | nil =>
        exact fun _ => ⟨∅, rfl, pathOwned_empty,
          pathOwned_empty.opensOwnNode⟩
    | append_singleton done c ih =>
        intro reached
        obtain ⟨map, run, owned, -⟩ :=
          ih ((List.prefix_append done [c]).trans reached)
        obtain ⟨map', run', retired⟩ := retires done c reached
        obtain rfl := Option.some.inj (run.symm.trans run')
        have formed := wellFormed c (reached.subset (by simp))
        obtain ⟨after, step, round⟩ := discover_round unicode reg map formed
        have ownedAfter := (round.pathOwned_iff formed owned).mpr retired
        refine ⟨after, ?_, ownedAfter, ownedAfter.opensOwnNode⟩
        rw [discoverAll_concat, run, Option.bind_some, step]

end Runs

/-- A printer that comes back on another node, its old one unused. -/
theorem discoverAll_nodesApart_replugged :
    let reg : Registry := ⟨[⟨"supvan_t50", "Supvan T50 Series"⟩], [], [], 0⟩
    let cycles : List Cycle :=
      [{ usb := [⟨"/dev/hidraw0", "7E1222120101", "T50M Pro",
          some "T0117A2410211517"⟩] },
        { usb := [⟨"/dev/hidraw1", "7E1222120101", "T50M Pro",
          some "T0117A2410211517"⟩] }]
    ∀ done, done <+: cycles →
      ∃ map, discoverAll (fun _ c _ => [c]) reg done = some map ∧
        NodesApart map := by
  intro reg cycles
  have formed : ∀ c ∈ cycles, c.WellFormed := by
    intro c member
    simp only [cycles, List.mem_cons, List.not_mem_nil, or_false] at member
    rcases member with rfl | rfl
    · exact ⟨by decide, by decide, .of_names _ _ _ (by decide)⟩
    · exact ⟨by decide, by decide, .of_names _ _ _ (by decide)⟩
  apply (discoverAll_nodesApart_iff _ reg cycles formed).mpr
  intro done c reached
  rcases done with _ | ⟨first, _ | ⟨second, rest⟩⟩
  · refine ⟨∅, rfl, ?_⟩
    intro s path node
    simp [nodeOf] at node
  · simp only [cycles, List.cons_append, List.nil_append,
      List.cons_prefix_cons, List.nil_prefix, and_true] at reached
    obtain ⟨rfl, rfl⟩ := reached
    refine ⟨(∅ : SupvanMap).insert "t0117a2410211517"
      ⟨some "/dev/hidraw0", none, none⟩, rfl, ?_⟩
    intro s path node reported
    simp only [List.map_cons, List.map_nil, List.mem_singleton] at reported
    subst reported
    rw [nodeOf, Std.TreeMap.getElem?_insert] at node
    split at node <;> simp at node
  · have short := reached.length_le
    simp [cycles] at short

/-- Another printer takes the node of one that was unplugged. -/
theorem discoverAll_nodeUnderTwoSlugs :
    let reg : Registry := ⟨[⟨"supvan_t50", "Supvan T50 Series"⟩], [], [], 0⟩
    let cycles : List Cycle :=
      [{ usb := [⟨"/dev/hidraw0", "7E1222120101", "T50M Pro",
          some "T0117A2410211517"⟩] },
        { usb := [⟨"/dev/hidraw0", "7E1222120202", "T50M Pro",
          some "T0117A2410219999"⟩] }]
    ¬ ∀ done, done <+: cycles →
      ∃ map, discoverAll (fun _ c _ => [c]) reg done = some map ∧
        NodesApart map := by
  intro reg cycles apart
  obtain ⟨map, run, owned, -⟩ := apart cycles (List.prefix_refl cycles)
  have ran := Option.some.inj (run.symm.trans rfl)
  have stale : nodeOf map "t0117a2410211517" = some "/dev/hidraw0" :=
    congrArg (nodeOf · "t0117a2410211517") ran
  have taken : nodeOf map "t0117a2410219999" = some "/dev/hidraw0" :=
    congrArg (nodeOf · "t0117a2410219999") ran
  exact absurd (owned _ _ _ stale taken) (by decide)

end SupvanCups
