import Mathlib
import UsbAccess.Inventory
import UsbAccess.Proofs.Beside

/-!
# Surveys of nodes

Stock is taken by visiting one sight after another: the names of the nodes, and the directories that
cannot be read. A visit asks only the node to which the name leads, and yields a device or a
failure.

Results:
* `mem_sights`, `sights_ascending`: what is in sight, and in which order.
* `list_eq_made`: an inventory has what a survey of all sights finds.
* `getLast?_failures`: the last failure is the one after which nothing fails.
* `visit_spares`: a visit leaves the files, the kernel and the requests at other nodes as they are.
* `yields_of_mem_findings`: when a sight yields a device, and which one.
-/

namespace UsbAccess

open Descriptor

/-! ## Nodes -/

/-- The location of a node that is opened for reading. -/
def FileTree.nodeAt (t : FileTree) (p : Path) : Except FileFault Location :=
  match t.openToUpdate p with
  | .ok l => .ok l
  | .error fault => if Host.isDenial fault then t.openToRead p else .error fault

/-- The tree of records in a node that is opened for reading. -/
def FileTree.recordsAt (t : FileTree) (p : Path) : Except Error DeviceTree :=
  match t.nodeAt p with
  | .error fault => .error (.io fault)
  | .ok l =>
    match t.contentAt l with
    | .error fault => .error (.io fault)
    | .ok bytes =>
      match DeviceTree.ofBytes? bytes with
      | .error fault => .error (.invalidDescriptor fault)
      | .ok tree => .ok tree

/-- A node with a tree of records has been opened. -/
theorem FileTree.nodeAt_of_recordsAt {t : FileTree} {p : Path} {tree : DeviceTree}
    (hrecords : t.recordsAt p = .ok tree) : ∃ l, t.nodeAt p = .ok l := by
  unfold recordsAt at hrecords
  cases hnode : t.nodeAt p with
  | ok l => exact ⟨l, rfl⟩
  | error fault =>
    rw [hnode] at hrecords
    cases hrecords

theorem Host.openNodeToRead_eq (path : Path) (host : Host) :
    openNodeToRead path host =
      match host.files.nodeAt path with
      | .ok l => (.ok (newHandle l host).1, (newHandle l host).2)
      | .error fault => (.error fault, host) := by
  unfold openNodeToRead openNode FileTree.nodeAt
  cases host.files.openToUpdate path with
  | ok l => rfl
  | error fault =>
    simp only
    split_ifs
    · cases host.files.openToRead path <;> rfl
    · rfl

namespace Inventory

/-- What there is to see when stock is taken: a directory that cannot be read, that of a bus or that
of all buses, or the name of a node. Buses and nodes have the numbers by which they are called. -/
inductive Sight where
  | closed (bus : Option UInt8) (fault : FileFault)
  | node (address : BusAddress) (path : Path)
  deriving DecidableEq, Repr

/-- The sights on one bus, in the order of the numbers of its nodes. -/
def busSights (files : FileTree) (bus : UInt8 × Path) : List Sight :=
  match numbered files bus.2 with
  | .ok nodes => nodes.map fun node => .node ⟨bus.1, node.1⟩ node.2
  | .error fault => [.closed (some bus.1) fault]

/-- All sights, in the order of the numbers of the buses and their nodes. -/
def sights (settings : Settings) (files : FileTree) : List Sight :=
  match numbered files settings.nodeRoot with
  | .ok buses => buses.flatMap (busSights files)
  | .error fault => [.closed none fault]

/-- The number that a name stands for in a directory of nodes. -/
def number? (name : Bytes) : Option UInt8 :=
  Text.byte? (Text.Utf8.lossy name).toList

/-- No two names in a directory stand for the same number. -/
def NumbersOnce (files : FileTree) (dir : Path) : Prop :=
  ∀ names, files.entriesOf dir = .ok names → (names.filterMap number?).Nodup

/-- No two buses have the same number, and no two nodes of a bus. -/
structure UniquelyNumbered (settings : Settings) (files : FileTree) : Prop where
  buses : NumbersOnce files settings.nodeRoot
  nodes : ∀ names name, files.entriesOf settings.nodeRoot = .ok names → name ∈ names →
    (number? name).isSome → NumbersOnce files (settings.nodeRoot.join ⟨name⟩)

/-- What is in view: the directory of nodes, or that of a bus, if it cannot be read, and each node
whose name and whose bus's name are numbers. -/
inductive Sight.InView (settings : Settings) (files : FileTree) : Sight → Prop
  | root {fault : FileFault} (hfault : files.entriesOf settings.nodeRoot = .error fault) :
      InView settings files (.closed none fault)
  | bus {busNames : List Bytes} {busName : Bytes} {bus : UInt8} {fault : FileFault}
      (hbusNames : files.entriesOf settings.nodeRoot = .ok busNames) (hbusName : busName ∈ busNames)
      (hbus : number? busName = some bus)
      (hfault : files.entriesOf (settings.nodeRoot.join ⟨busName⟩) = .error fault) :
      InView settings files (.closed (some bus) fault)
  | node {busNames names : List Bytes} {busName name : Bytes} {bus number : UInt8}
      (hbusNames : files.entriesOf settings.nodeRoot = .ok busNames) (hbusName : busName ∈ busNames)
      (hbus : number? busName = some bus)
      (hnames : files.entriesOf (settings.nodeRoot.join ⟨busName⟩) = .ok names)
      (hname : name ∈ names)
      (hnumber : number? name = some number) :
      InView settings files (.node ⟨bus, number⟩ ((settings.nodeRoot.join ⟨busName⟩).join ⟨name⟩))

/-- The numbers by which a sight is called, by which the sights are in order. -/
def Sight.numbers : Sight → List UInt8
  | .closed bus _ => bus.toList
  | .node address _ => [address.bus, address.number]

/-- What is found at a sight. -/
def visit (settings : Settings) : Sight → StateM Host (Except Error Assembled)
  | .closed _ fault => return .error (.io fault)
  | .node address path => readDevice settings address path

/-- What is found at one sight after another. -/
def survey (settings : Settings) : List Sight → StateM Host (List (Sight × Except Error Assembled))
  | [] => return []
  | sight :: rest => do
    let found ← visit settings sight
    return (sight, found) :: (← survey settings rest)

/-- The inventory with what has been found at one more sight. -/
def enter (i : Inventory) (finding : Sight × Except Error Assembled) : Inventory :=
  match finding.2 with
  | .ok a => i.add a
  | .error e => i.fail e

/-- What is found when stock is taken. -/
def findings (settings : Settings) (host : Host) : List (Sight × Except Error Assembled) :=
  (survey settings (sights settings host.files) host).1

theorem bind_apply {σ α β : Type} (m : StateM σ α) (f : α → StateM σ β) (s : σ) :
    (m >>= f) s = f (m s).1 (m s).2 := rfl

theorem survey_cons (settings : Settings) (sight : Sight) (rest : List Sight) (host : Host) :
    survey settings (sight :: rest) host =
      ((sight, (visit settings sight host).1) ::
        (survey settings rest (visit settings sight host).2).1,
        (survey settings rest (visit settings sight host).2).2) := rfl

theorem survey_append (settings : Settings) (ss ss' : List Sight) (host : Host) :
    survey settings (ss ++ ss') host =
      ((survey settings ss host).1 ++ (survey settings ss' (survey settings ss host).2).1,
        (survey settings ss' (survey settings ss host).2).2) := by
  induction ss generalizing host with
  | nil => rfl
  | cons s rest ih => rw [List.cons_append, survey_cons, survey_cons, ih, List.cons_append]

theorem readDevice_eq (settings : Settings) (address : BusAddress) (path : Path) (host : Host) :
    readDevice settings address path host =
      match host.files.nodeAt path with
      | .error fault => (.error (.io fault), host)
      | .ok l =>
        match host.files.recordsAt path with
        | .error e => (.error e, (Host.newHandle l host).2)
        | .ok tree =>
          let made := Assembly.assemble settings host.files
            (fun _ => .ofQueries (Host.newHandle l host).1.queries) tree ⟨address, none⟩
            (Host.newHandle l host).2
          (.ok made.1, made.2) := by
  unfold readDevice FileTree.recordsAt
  rw [bind_apply, Host.openNodeToRead_eq]
  cases host.files.nodeAt path with
  | error fault => rfl
  | ok l =>
    have hread : (Host.newHandle l host).2.readNode (Host.newHandle l host).1 =
        host.files.contentAt l := rfl
    simp only [bind_apply, hread, get, getThe, MonadStateOf.get, StateT.get, pure]
    cases host.files.contentAt l with
    | error fault => rfl
    | ok bytes =>
      simp only
      cases DeviceTree.ofBytes? bytes with
      | error fault => rfl
      | ok tree => rfl

/-- A sight at which the node at `l` is opened. -/
def Sight.isAt (files : FileTree) (l : Location) : Sight → Bool
  | .closed .. => false
  | .node _ path => (files.nodeAt path).toOption == some l

theorem Sight.isAt_node {files : FileTree} {l : Location} {address : BusAddress} {path : Path} :
    (Sight.node address path).isAt files l = true ↔ files.nodeAt path = .ok l := by
  show ((files.nodeAt path).toOption == some l) = true ↔ _
  cases files.nodeAt path with
  | ok l' => simp [Except.toOption]
  | error fault => simp [Except.toOption]

end Inventory

/-! ## Requests at a node -/

/-- The request that the event answers at the node at `l`. -/
def Event.requestAt? (l : Location) : Event → Option NodeRequest
  | .answered _ node request _ => if node = l then some request else none
  | .opened _ => none

/-- The requests made at a node, the latest first. -/
def requestsAt (l : Location) (events : List Event) : List NodeRequest :=
  events.filterMap (Event.requestAt? l)

theorem requestsAt_answered (l node : Location) (h : Handle) (request : NodeRequest)
    (answer : Except Errno Reply) (events : List Event) :
    requestsAt l (.answered h node request answer :: events) =
      if node = l then request :: requestsAt l events else requestsAt l events := by
  unfold requestsAt
  split_ifs with heq
  · exact List.filterMap_cons_some (if_pos heq)
  · exact List.filterMap_cons_none (if_neg heq)

/-- The host has changed by requests at the node at `l` at most. -/
structure Host.Spares (l : Location) (host host' : Host) : Prop where
  files : host'.files = host.files
  kernel : host'.kernel = host.kernel
  requests : ∀ l', l' ≠ l → requestsAt l' host'.history = requestsAt l' host.history

theorem Host.Spares.newHandle (l l' : Location) (host : Host) :
    host.Spares l (Host.newHandle l' host).2 :=
  ⟨rfl, rfl, fun _ _ => rfl⟩

theorem Host.Spares.ask {l : Location} {host₀ host : Host} {h : Handle}
    (hspares : host₀.Spares l host) (hnode : h.node = l)
    (hremovals : h.removals = host₀.files.removals l) (request : NodeRequest) :
    host₀.Spares l (Host.ask h request host).2 where
  files := hspares.files
  kernel := hspares.kernel
  requests l' hne := by
    have hat : host.nodeOf h = l := by
      rw [Host.nodeOf, hspares.files, hnode, hremovals, if_pos rfl]
    rw [Host.ask_history, hat, requestsAt_answered, if_neg hne.symm, hspares.requests l' hne]

theorem Host.Spares.assemble (settings : Settings) (files : FileTree) (tree : DeviceTree)
    (hints : Hints) (l : Location) (host : Host) :
    host.Spares l (Assembly.assemble settings files
      (fun _ => .ofQueries (Host.newHandle l host).1.queries) tree hints
        (Host.newHandle l host).2).2 := by
  have hask : ∀ request, Relates (fun host₁ host₂ => host₁ = host₂ ∧ host.Spares l host₁)
      (Host.ask (Host.newHandle l host).1 request)
        (Host.ask (Host.newHandle l host).1 request) := by
    rintro request host₁ _ ⟨rfl, hspares⟩
    exact ⟨rfl, rfl, hspares.ask rfl rfl request⟩
  have hmade := Relates.assemble (fun _ => Inquiry.Relates.ofQueries hask) settings files tree hints
  exact (hmade _ _ ⟨rfl, .newHandle l l host⟩).2.2

namespace Inventory

/-- Only the node at a sight is asked. -/
theorem visit_spares (settings : Settings) (sight : Sight) (host : Host) :
    ((visit settings sight host).2.files = host.files ∧
      (visit settings sight host).2.kernel = host.kernel) ∧
      ∀ l, sight.isAt host.files l = false →
        requestsAt l (visit settings sight host).2.history = requestsAt l host.history := by
  cases sight with
  | closed bus fault => exact ⟨⟨rfl, rfl⟩, fun l _ => rfl⟩
  | node address path =>
    show ((readDevice settings address path host).2.files = host.files ∧
      (readDevice settings address path host).2.kernel = host.kernel) ∧ _
    cases hnode : host.files.nodeAt path with
    | error fault =>
      rw [visit, readDevice_eq, hnode]
      exact ⟨⟨rfl, rfl⟩, fun l _ => rfl⟩
    | ok l =>
      have hspares : host.Spares l (readDevice settings address path host).2 := by
        rw [readDevice_eq, hnode]
        cases host.files.recordsAt path with
        | error e => exact .newHandle l l host
        | ok tree => exact .assemble settings host.files tree ⟨address, none⟩ l host
      refine ⟨⟨hspares.files, hspares.kernel⟩, fun l' hl' => hspares.requests l' ?_⟩
      rintro rfl
      simp [Sight.isAt, hnode, Except.toOption] at hl'

theorem survey_files (settings : Settings) (ss : List Sight) (host : Host) :
    (survey settings ss host).2.files = host.files := by
  induction ss generalizing host with
  | nil => rfl
  | cons s rest ih => rw [survey_cons, ih, (visit_spares settings s host).1.1]

/-! ## The order of sights -/

/-- The entries of a directory that have numbers, by name. -/
theorem mem_numbered {files : FileTree} {dir : Path} {entries : List (UInt8 × Path)}
    (hentries : numbered files dir = .ok entries) {n : UInt8} {path : Path} :
    (n, path) ∈ entries ↔ ∃ names name, files.entriesOf dir = .ok names ∧ name ∈ names ∧
      number? name = some n ∧ path = dir.join ⟨name⟩ := by
  unfold numbered at hentries
  cases hnames : files.entriesOf dir with
  | error fault => 
    rw [hnames] at hentries
    cases hentries
  | ok names =>
    rw [hnames] at hentries
    cases hentries
    rw [List.mem_mergeSort, List.mem_filterMap]
    constructor
    · rintro ⟨name, hname, hentry⟩
      obtain ⟨n', hn', heq⟩ := Option.map_eq_some_iff.1 hentry
      cases heq
      exact ⟨names, name, rfl, hname, hn', rfl⟩
    · rintro ⟨_, name, heq, hname, hn, rfl⟩
      cases heq
      exact ⟨name, hname, by rw [← number?, hn]; rfl⟩

theorem numbered_eq_error_iff {files : FileTree} {dir : Path} {fault : FileFault} :
    numbered files dir = .error fault ↔ files.entriesOf dir = .error fault := by
  unfold numbered
  cases files.entriesOf dir <;> simp

theorem pairwise_mergeSort_number (entries : List (UInt8 × Path)) :
    (entries.mergeSort fun a b => a.1 ≤ b.1).Pairwise fun a b => decide (a.1 ≤ b.1) = true := by
  apply List.pairwise_mergeSort
  · intro a b c hab hbc
    simp only [decide_eq_true_eq] at hab hbc ⊢
    exact UInt8.le_trans hab hbc
  · intro a b
    simp only [Bool.or_eq_true, decide_eq_true_eq]
    exact UInt8.le_total a.1 b.1

/-- Where no two names stand for the same number, the numbers ascend. -/
theorem numbered_ascending {files : FileTree} {dir : Path} {entries : List (UInt8 × Path)}
    (honce : NumbersOnce files dir) (hentries : numbered files dir = .ok entries) :
    entries.Pairwise fun a b => a.1 < b.1 := by
  unfold numbered at hentries
  cases hnames : files.entriesOf dir with
  | error fault =>
    rw [hnames] at hentries
    cases hentries
  | ok names =>
    rw [hnames] at hentries
    cases hentries
    set unsorted : List (UInt8 × Path) := names.filterMap fun name =>
      (Text.byte? (Text.Utf8.lossy name).toList).map fun n => (n, dir.join ⟨name⟩) with hunsorted
    have hnumbers : unsorted.map Prod.fst = names.filterMap number? := by
      rw [hunsorted, List.map_filterMap]
      refine List.filterMap_congr fun name _ => ?_
      rw [Option.map_map]
      exact Option.map_id'
    have hdistinct : (unsorted.mergeSort fun a b => a.1 ≤ b.1).Pairwise fun a b => a.1 ≠ b.1 := by
      rw [← List.pairwise_map (R := fun m n : UInt8 => m ≠ n)]
      refine ((List.mergeSort_perm unsorted _).map Prod.fst).nodup_iff.2 ?_
      rw [hnumbers]
      exact honce names hnames
    have hsorted := pairwise_mergeSort_number unsorted
    exact (hsorted.and hdistinct).imp fun hab => UInt8.lt_of_le_of_ne (by simpa using hab.1) hab.2

theorem mem_busSights {files : FileTree} {bus : UInt8} {dir : Path} {s : Sight} :
    s ∈ busSights files (bus, dir) ↔
      (∃ fault, files.entriesOf dir = .error fault ∧ s = .closed (some bus) fault) ∨
      ∃ names name number, files.entriesOf dir = .ok names ∧ name ∈ names ∧
        number? name = some number ∧ s = .node ⟨bus, number⟩ (dir.join ⟨name⟩) := by
  unfold busSights
  cases hnodes : numbered files dir with
  | error fault =>
    have hnames : files.entriesOf dir = .error fault := numbered_eq_error_iff.1 hnodes
    simp [hnames]
  | ok nodes =>
    have hreadable : ∀ fault, files.entriesOf dir ≠ .error fault := by
      intro fault hfault
      rw [numbered_eq_error_iff.2 hfault] at hnodes
      cases hnodes
    rw [List.mem_map]
    constructor
    · rintro ⟨⟨number, path⟩, hmem, rfl⟩
      obtain ⟨names, name, hnames, hname, hnumber, rfl⟩ := (mem_numbered hnodes).1 hmem
      exact .inr ⟨names, name, number, hnames, hname, hnumber, rfl⟩
    · rintro (⟨fault, hfault, -⟩ | ⟨names, name, number, hnames, hname, hnumber, rfl⟩)
      · exact absurd hfault (hreadable fault)
      · exact ⟨(number, dir.join ⟨name⟩),
          (mem_numbered hnodes).2 ⟨names, name, hnames, hname, hnumber, rfl⟩, rfl⟩

/-- The sights are those that are in view. -/
theorem mem_sights {settings : Settings} {files : FileTree} {s : Sight} :
    s ∈ sights settings files ↔ s.InView settings files := by
  unfold sights
  cases hbuses : numbered files settings.nodeRoot with
  | error fault =>
    have hnames : files.entriesOf settings.nodeRoot = .error fault := numbered_eq_error_iff.1 hbuses
    rw [List.mem_singleton]
    constructor
    · rintro rfl
      exact .root hnames
    · intro hview
      cases hview with
      | root hroot =>
        rw [hnames] at hroot
        cases hroot
        rfl
      | bus hbusNames | node hbusNames =>
        rw [hnames] at hbusNames
        cases hbusNames
  | ok buses =>
    rw [List.mem_flatMap]
    constructor
    · rintro ⟨⟨bus, dir⟩, hmem, hs⟩
      obtain ⟨busNames, busName, hbusNames, hbusName, hbus, rfl⟩ := (mem_numbered hbuses).1 hmem
      rcases mem_busSights.1 hs with ⟨fault, hfault, rfl⟩ |
        ⟨names, name, number, hnames, hname, hnumber, rfl⟩
      · exact .bus hbusNames hbusName hbus hfault
      · exact .node hbusNames hbusName hbus hnames hname hnumber
    · intro hview
      cases hview with
      | root hroot =>
        rw [numbered_eq_error_iff.2 hroot] at hbuses
        cases hbuses
      | bus hbusNames hbusName hbus hfault =>
        exact ⟨_, (mem_numbered hbuses).2 ⟨_, _, hbusNames, hbusName, hbus, rfl⟩,
          mem_busSights.2 (.inl ⟨_, hfault, rfl⟩)⟩
      | node hbusNames hbusName hbus hnames hname hnumber =>
        exact ⟨_, (mem_numbered hbuses).2 ⟨_, _, hbusNames, hbusName, hbus, rfl⟩,
          mem_busSights.2 (.inr ⟨_, _, _, hnames, hname, hnumber, rfl⟩)⟩

/-- The sights are in the order of their numbers. -/
theorem sights_ascending {settings : Settings} {files : FileTree}
    (honce : UniquelyNumbered settings files) :
    (sights settings files).Pairwise fun s s' => s.numbers < s'.numbers := by
  unfold sights
  cases hbuses : numbered files settings.nodeRoot with
  | error fault => exact List.pairwise_singleton ..
  | ok buses =>
    have hhead : ∀ bus, ∀ s ∈ busSights files bus, ∃ rest, s.numbers = bus.1 :: rest := by
      intro bus s hs
      unfold busSights at hs
      split at hs
      · obtain ⟨node, -, rfl⟩ := List.mem_map.1 hs
        exact ⟨_, rfl⟩
      · rw [List.mem_singleton.1 hs]
        exact ⟨_, rfl⟩
    have hbus : ∀ bus ∈ buses, (busSights files bus).Pairwise fun s s' =>
        s.numbers < s'.numbers := by
      rintro ⟨bus, dir⟩ hmem
      obtain ⟨names, name, hnames, hname, hnumber, rfl⟩ := (mem_numbered hbuses).1 hmem
      unfold busSights
      split
      · next nodes hnodes =>
        have hnodeOnce := honce.nodes names name hnames hname (by rw [hnumber]; rfl)
        refine List.pairwise_map.2 ((numbered_ascending hnodeOnce hnodes).imp fun hlt => ?_)
        exact List.Lex.cons (List.Lex.rel hlt)
      · exact List.pairwise_singleton ..
    refine List.pairwise_flatMap.2 ⟨hbus,
      (numbered_ascending honce.buses hbuses).imp fun hlt s hs s' hs' => ?_⟩
    obtain ⟨rest, hs⟩ := hhead _ s hs
    obtain ⟨rest', hs'⟩ := hhead _ s' hs'
    rw [hs, hs']
    exact List.Lex.rel hlt

/-! ## Taking stock is a survey -/

theorem listNodes_eq (settings : Settings) (bus : UInt8) (nodes : List (UInt8 × Path))
    (i : Inventory) (host : Host) :
    nodes.foldlM (listNode settings bus) i host =
      ((survey settings (nodes.map fun node => .node ⟨bus, node.1⟩ node.2) host).1.foldl enter i,
        (survey settings (nodes.map fun node => .node ⟨bus, node.1⟩ node.2) host).2) := by
  induction nodes generalizing i host with
  | nil => rfl
  | cons node rest ih =>
    have hnode : listNode settings bus i node host =
        (enter i (.node ⟨bus, node.1⟩ node.2, (visit settings (.node ⟨bus, node.1⟩ node.2) host).1),
          (visit settings (.node ⟨bus, node.1⟩ node.2) host).2) := by
      unfold listNode enter
      rw [bind_apply, visit]
      cases (readDevice settings ⟨bus, node.1⟩ node.2 host).1 <;> rfl
    rw [List.foldlM_cons, bind_apply, hnode, ih, List.map_cons, survey_cons, List.foldl_cons]

theorem listBus_eq (settings : Settings) (bus : UInt8 × Path) (i : Inventory) (host : Host) :
    listBus settings i bus host =
      ((survey settings (busSights host.files bus) host).1.foldl enter i,
        (survey settings (busSights host.files bus) host).2) := by
  unfold listBus busSights
  have hget : (get : StateM Host Host) host = (host, host) := rfl
  rw [bind_apply, hget]
  cases numbered host.files bus.2 with
  | ok nodes => exact listNodes_eq settings bus.1 nodes i host
  | error fault => rfl

theorem listBuses_eq (settings : Settings) (buses : List (UInt8 × Path)) (i : Inventory)
    (host : Host) :
    buses.foldlM (listBus settings) i host =
      ((survey settings (buses.flatMap (busSights host.files)) host).1.foldl enter i,
        (survey settings (buses.flatMap (busSights host.files)) host).2) := by
  induction buses generalizing i host with
  | nil => rfl
  | cons bus rest ih =>
    rw [List.foldlM_cons, bind_apply, listBus_eq, ih, survey_files, List.flatMap_cons,
      survey_append, List.foldl_append]

/-- To take stock is to survey all sights and enter what is found. -/
theorem list_eq (settings : Settings) (host : Host) :
    (list settings host).1 = (findings settings host).foldl enter empty := by
  unfold list findings sights
  have hget : (get : StateM Host Host) host = (host, host) := rfl
  rw [bind_apply, hget]
  cases numbered host.files settings.nodeRoot with
  | ok buses => exact congrArg Prod.fst (listBuses_eq settings buses empty host)
  | error fault => rfl

/-- Taking stock changes no file. -/
theorem list_files (settings : Settings) (host : Host) :
    (list settings host).2.files = host.files := by
  unfold list
  have hget : (get : StateM Host Host) host = (host, host) := rfl
  rw [bind_apply, hget]
  cases numbered host.files settings.nodeRoot with
  | ok buses =>
    simp only [listBuses_eq]
    exact survey_files ..
  | error fault => rfl

/-! ## Findings -/

theorem survey_fst (settings : Settings) (ss : List Sight) (host : Host) :
    (survey settings ss host).1.map Prod.fst = ss := by
  induction ss generalizing host with
  | nil => rfl
  | cons s rest ih => rw [survey_cons, List.map_cons, ih]

/-- What is found at a sight is what is found when it is visited, with the files and the kernel as
they are. -/
theorem of_mem_survey {settings : Settings} {ss : List Sight} {host : Host}
    {finding : Sight × Except Error Assembled} (hfinding : finding ∈ (survey settings ss host).1) :
    ∃ host', (host'.files = host.files ∧ host'.kernel = host.kernel) ∧
      finding.2 = (visit settings finding.1 host').1 := by
  induction ss generalizing host with
  | nil => cases hfinding
  | cons s rest ih =>
    rw [survey_cons, List.mem_cons] at hfinding
    obtain ⟨hfiles, hkernel⟩ := (visit_spares settings s host).1
    rcases hfinding with rfl | hlater
    · exact ⟨host, ⟨rfl, rfl⟩, rfl⟩
    · obtain ⟨host', ⟨hfiles', hkernel'⟩, hfound⟩ := ih hlater
      exact ⟨host', ⟨hfiles'.trans hfiles, hkernel'.trans hkernel⟩, hfound⟩

/-- The devices that are found, with the remarks on them. -/
def made (found : List (Sight × Except Error Assembled)) : List Assembled :=
  found.filterMap fun finding => finding.2.toOption

/-- The failures among what is found. -/
def failures (found : List (Sight × Except Error Assembled)) : List Error :=
  found.filterMap fun finding =>
    match finding.2 with
    | .ok _ => none
    | .error e => some e

section

variable (sight : Sight) (rest : List (Sight × Except Error Assembled))

theorem made_cons_ok (a : Assembled) : made ((sight, .ok a) :: rest) = a :: made rest := rfl

theorem made_cons_error (e : Error) : made ((sight, .error e) :: rest) = made rest := rfl

theorem failures_cons_ok (a : Assembled) : failures ((sight, .ok a) :: rest) = failures rest := rfl

theorem failures_cons_error (e : Error) :
    failures ((sight, .error e) :: rest) = e :: failures rest := rfl

end

/-- The remarks on a device, under its address. -/
def addressed (a : Assembled) : List (BusAddress × Remark) :=
  a.remarks.map fun r => (a.device.address, r)

theorem foldl_enter (found : List (Sight × Except Error Assembled)) (i : Inventory) :
    found.foldl enter i =
      ⟨i.devices ++ (made found).map Assembled.device, i.remarks ++ (made found).flatMap addressed,
        (failures found).getLast?.or i.error⟩ := by
  induction found generalizing i with
  | nil => simp [made, failures]
  | cons finding rest ih =>
    obtain ⟨sight, outcome⟩ := finding
    rw [List.foldl_cons, ih]
    cases outcome with
    | ok a =>
      rw [made_cons_ok, failures_cons_ok, List.map_cons, List.flatMap_cons]
      simp [enter, add, addressed]
    | error e =>
      have hlast : ((e :: failures rest).getLast?).or i.error =
          (failures rest).getLast?.or (some e) := by
        rw [List.getLast?_cons]
        cases (failures rest).getLast? <;> rfl
      rw [made_cons_error, failures_cons_error, hlast]
      rfl

/-- An inventory has the devices that are found, the remarks on each, and the last failure. -/
theorem list_eq_made (settings : Settings) (host : Host) :
    (list settings host).1 =
      ⟨(made (findings settings host)).map Assembled.device,
        (made (findings settings host)).flatMap addressed,
          (failures (findings settings host)).getLast?⟩ := by
  rw [list_eq, foldl_enter]
  simp [empty]

theorem mem_made {found : List (Sight × Except Error Assembled)} {a : Assembled} :
    a ∈ made found ↔ ∃ sight, (sight, .ok a) ∈ found := by
  rw [made, List.mem_filterMap]
  constructor
  · rintro ⟨⟨sight, outcome⟩, hmem, hok⟩
    cases outcome with
    | ok b =>
      cases hok
      exact ⟨sight, hmem⟩
    | error e => cases hok
  · rintro ⟨sight, hmem⟩
    exact ⟨_, hmem, rfl⟩

theorem made_filter {found : List (Sight × Except Error Assembled)} {here : Sight → Bool}
    (hfails : ∀ finding ∈ found, here finding.1 = false → ∃ e, finding.2 = .error e) :
    made (found.filter fun finding => here finding.1) = made found := by
  induction found with
  | nil => rfl
  | cons finding rest ih =>
    have hrest := ih fun f hf => hfails f (List.mem_cons_of_mem _ hf)
    obtain ⟨sight, outcome⟩ := finding
    rw [List.filter_cons]
    split_ifs with hhere
    · cases outcome with
      | ok a => rw [made_cons_ok, made_cons_ok, hrest]
      | error e => rw [made_cons_error, made_cons_error, hrest]
    · obtain ⟨e, he⟩ := hfails _ List.mem_cons_self (by simpa using hhere)
      change outcome = .error e at he
      rw [he, made_cons_error, hrest]

theorem failures_eq_nil {found : List (Sight × Except Error Assembled)} :
    failures found = [] ↔ ∀ finding ∈ found, ∃ a, finding.2 = .ok a := by
  rw [failures, List.filterMap_eq_nil_iff]
  refine forall₂_congr fun finding _ => ?_
  cases finding.2 with
  | ok a => simp
  | error e => simp

/-- The last failure is the one after which nothing fails. -/
theorem getLast?_failures {found : List (Sight × Except Error Assembled)} {e : Error} :
    (failures found).getLast? = some e ↔ ∃ before sight after,
      found = before ++ (sight, .error e) :: after ∧
      ∀ finding ∈ after, ∃ a, finding.2 = .ok a := by
  constructor
  · intro hlast
    induction found with
    | nil => cases hlast
    | cons finding rest ih =>
      obtain ⟨sight, outcome⟩ := finding
      by_cases hrest : failures rest = []
      · cases outcome with
        | ok a =>
          rw [failures_cons_ok, hrest] at hlast
          cases hlast
        | error e' =>
          rw [failures_cons_error, hrest] at hlast
          cases hlast
          exact ⟨[], sight, rest, rfl, failures_eq_nil.1 hrest⟩
      · have hlater : (failures rest).getLast? = some e := by
          rw [← hlast]
          cases outcome with
          | ok a => rw [failures_cons_ok]
          | error e' => rw [failures_cons_error, List.getLast?_cons_of_ne_nil hrest]
        obtain ⟨before, sight', after, heq, hafter⟩ := ih hlater
        exact ⟨(sight, outcome) :: before, sight', after, by rw [heq]; rfl, hafter⟩
  · rintro ⟨before, sight, after, rfl, hafter⟩
    have happend : failures (before ++ (sight, .error e) :: after) =
        failures before ++ failures ((sight, .error e) :: after) := List.filterMap_append
    rw [happend, failures_cons_error, failures_eq_nil.2 hafter, List.getLast?_append]
    rfl

/-- A sight yields a device just when it is a node of which the records can be read. Otherwise it
yields the failure. -/
inductive Sight.Yields (settings : Settings) (host : Host) : Sight → Except Error Assembled → Prop
  | closed (bus : Option UInt8) (fault : FileFault) :
      Yields settings host (.closed bus fault) (.error (.io fault))
  | broken {address : BusAddress} {path : Path} {e : Error}
      (hrecords : host.files.recordsAt path = .error e) :
      Yields settings host (.node address path) (.error e)
  /-- The device is put together from its records and from what its node answers. -/
  | device {address : BusAddress} {path : Path} {l : Location} {tree : DeviceTree} {host₁ : Host}
      (hnode : host.files.nodeAt path = .ok l) (hrecords : host.files.recordsAt path = .ok tree)
      (hfiles : host₁.files = host.files) (hkernel : host₁.kernel = host.kernel) :
      Yields settings host (.node address path)
        (.ok (Assembly.assemble settings host.files
          (fun _ => .ofQueries (Host.newHandle l host₁).1.queries) tree ⟨address, none⟩
          (Host.newHandle l host₁).2).1)

theorem yields_of_mem_findings {settings : Settings} {host : Host}
    {finding : Sight × Except Error Assembled} (hfinding : finding ∈ findings settings host) :
    finding.1.Yields settings host finding.2 := by
  obtain ⟨sight, outcome⟩ := finding
  obtain ⟨host₁, ⟨hfiles, hkernel⟩, houtcome⟩ := of_mem_survey hfinding
  change outcome = (visit settings sight host₁).1 at houtcome
  subst houtcome
  cases sight with
  | closed bus fault => exact .closed bus fault
  | node address path =>
    show Sight.Yields settings host (.node address path)
      (visit settings (.node address path) host₁).1
    rw [visit, readDevice_eq, hfiles]
    cases hrecords : host.files.recordsAt path with
    | error e =>
      cases hnode : host.files.nodeAt path with
      | ok l => exact .broken hrecords
      | error fault =>
        have hfault : host.files.recordsAt path = .error (.io fault) := by
          rw [FileTree.recordsAt, hnode]
        exact .broken hfault
    | ok tree =>
      obtain ⟨l, hnode⟩ := FileTree.nodeAt_of_recordsAt hrecords
      rw [hnode]
      exact .device hnode hrecords hfiles hkernel

/-- What is found as a device has been put together from the records in a node. -/
theorem Sight.Yields.of_ok {settings : Settings} {host : Host} {sight : Sight} {a : Assembled}
    (hyields : sight.Yields settings host (.ok a)) :
    ∃ address path tree, ∃ ask : Path → Inquiry Host, ∃ host₁, sight = .node address path ∧
      host.files.recordsAt path = .ok tree ∧
      a = (Assembly.assemble settings host.files ask tree ⟨address, none⟩ host₁).1 := by
  generalize houtcome : (Except.ok a : Except Error Assembled) = outcome at hyields
  cases hyields with
  | closed | broken => cases houtcome
  | device _ hrecords =>
    cases houtcome
    exact ⟨_, _, _, _, _, rfl, hrecords, rfl⟩

theorem inView_of_mem_findings {settings : Settings} {host : Host} {sight : Sight}
    {outcome : Except Error Assembled} (hfinding : (sight, outcome) ∈ findings settings host) :
    sight.InView settings host.files := by
  rw [← mem_sights, ← survey_fst settings (sights settings host.files) host]
  exact List.mem_map_of_mem hfinding

theorem exists_finding_of_inView {settings : Settings} {host : Host} {sight : Sight}
    (hview : sight.InView settings host.files) :
    ∃ outcome, (sight, outcome) ∈ findings settings host := by
  rw [← mem_sights, ← survey_fst settings (sights settings host.files) host] at hview
  obtain ⟨⟨sight, outcome⟩, hfinding, rfl⟩ := List.mem_map.1 hview
  exact ⟨outcome, hfinding⟩

/-- Where a node in view has records, a device is found. -/
theorem exists_made_of_inView {settings : Settings} {host : Host} {address : BusAddress}
    {path : Path} {tree : DeviceTree} (hview : (Sight.node address path).InView settings host.files)
    (hrecords : host.files.recordsAt path = .ok tree) :
    ∃ a, (.node address path, .ok a) ∈ findings settings host := by
  obtain ⟨outcome, hfinding⟩ := exists_finding_of_inView hview
  cases outcome with
  | ok a => exact ⟨a, hfinding⟩
  | error e =>
    cases yields_of_mem_findings hfinding with
    | broken hbroken =>
      rw [hrecords] at hbroken
      cases hbroken

theorem exists_finding_of_mem_list {settings : Settings} {host : Host} {d : Device}
    (hd : d ∈ (list settings host).1.devices) :
    ∃ sight a, (sight, .ok a) ∈ findings settings host ∧ d = a.device := by
  rw [list_eq_made] at hd
  obtain ⟨a, ha, rfl⟩ := List.mem_map.1 hd
  obtain ⟨sight, hfinding⟩ := mem_made.1 ha
  exact ⟨sight, a, hfinding, rfl⟩

/-- A device that is listed has been put together from the records in a node. -/
theorem assembled_of_mem_list {settings : Settings} {host : Host} {d : Device}
    (hd : d ∈ (list settings host).1.devices) :
    ∃ tree, ∃ ask : Path → Inquiry Host, ∃ address host₁,
      d = (Assembly.assemble settings host.files ask tree ⟨address, none⟩ host₁).1.device := by
  obtain ⟨sight, a, hfinding, rfl⟩ := exists_finding_of_mem_list hd
  obtain ⟨address, path, tree, ask, host₁, -, -, rfl⟩ := (yields_of_mem_findings hfinding).of_ok
  exact ⟨tree, ask, address, host₁, rfl⟩

end Inventory

end UsbAccess
