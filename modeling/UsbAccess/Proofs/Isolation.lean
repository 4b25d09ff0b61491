import Mathlib
import UsbAccess.Proofs.ClaimLedger
import UsbAccess.Proofs.Directories
import UsbAccess.Proofs.RecordTree
import UsbAccess.Proofs.Survey

/-!
# Nodes apart from each other

Where the kernel answers at each node by what has been asked there, it makes no difference to the
device at one node what becomes of the others.

Results:
* `survey_filter`: what a survey finds at a node is what a survey of that node alone finds.
* `foundAt_alike`: on hosts that are alike at a node the same is found there.
* `list_isolates_nodes`: what an inventory has, and that each node has its part in it apart from the
  others.
-/

namespace UsbAccess

open Descriptor

/-! ## Hosts that are alike at a node -/

/-- The kernel's answers at a node depend on the requests made at that node, and on nothing else. -/
def Kernel.IsLocal (kernel : Kernel) : Prop :=
  ∃ tell : Location → List NodeRequest → NodeRequest → Except Errno Reply,
    ∀ history h node request,
      kernel.answer history h node request = tell node (requestsAt node history) request

/-- To whoever takes stock the hosts are alike as far as the node at `l` goes, whatever becomes of
other nodes: the kernel and its past at this node, what the node holds, and the device directories.
-/
structure Host.AlikeAt (settings : Settings) (l : Location) (host host' : Host) : Prop where
  kernel : host'.kernel = host.kernel
  requests : requestsAt l host'.history = requestsAt l host.history
  content : host'.files.contentAt l = host.files.contentAt l
  directories : FileTree.SameDirectories settings.directoryRoot host.files host'.files

namespace Host.AlikeAt

variable {settings : Settings} {l : Location} {host host' : Host}

theorem refl (settings : Settings) (l : Location) (host : Host) : host.AlikeAt settings l host :=
  ⟨rfl, rfl, rfl, ⟨rfl, fun _ _ _ => rfl, fun _ _ => rfl, fun _ _ _ _ _ => rfl⟩⟩

/-- Hosts stay alike while neither changes its files or its kernel, and the same is asked at the
node. -/
theorem of_eq {host₁ host₁' : Host} (halike : host.AlikeAt settings l host')
    (hsame : host₁.files = host.files ∧ host₁.kernel = host.kernel)
    (hsame' : host₁'.files = host'.files ∧ host₁'.kernel = host'.kernel)
    (hrequests : requestsAt l host₁'.history = requestsAt l host₁.history) :
    host₁.AlikeAt settings l host₁' where
  kernel := by rw [hsame.2, hsame'.2, halike.kernel]
  requests := hrequests
  content := by rw [hsame.1, hsame'.1, halike.content]
  directories := by rw [hsame.1, hsame'.1]; exact halike.directories

/-- A local kernel gives the same answer on both hosts when the node at `l` is asked. -/
theorem ask (settings : Settings) (h h' : Handle) (files files' : FileTree)
    (hlocal : host.kernel.IsLocal) (hnode : h.node = l) (hremovals : h.removals = files.removals l)
    (hnode' : h'.node = l) (hremovals' : h'.removals = files'.removals l) (request : NodeRequest) :
    Relates (fun host₁ host₁' => (host₁.kernel = host.kernel ∧ host₁.files = files ∧
      host₁'.files = files') ∧
        host₁.AlikeAt settings l host₁')
      (Host.ask h request) (Host.ask h' request) := by
  rintro host₁ host₁' ⟨⟨hkernel, hfiles, hfiles'⟩, halike⟩
  obtain ⟨tell, htell⟩ := hlocal
  have hat : host₁.nodeOf h = l := by rw [Host.nodeOf, hfiles, hnode, hremovals, if_pos rfl]
  have hat' : host₁'.nodeOf h' = l := by rw [Host.nodeOf, hfiles', hnode', hremovals', if_pos rfl]
  refine ⟨?_, ⟨hkernel, hfiles, hfiles'⟩, halike.of_eq ⟨rfl, rfl⟩ ⟨rfl, rfl⟩ ?_⟩
  · show host₁.kernel.answer host₁.history h (host₁.nodeOf h) request =
      host₁'.kernel.answer host₁'.history h' (host₁'.nodeOf h') request
    rw [halike.kernel, hkernel, hat, hat', htell, htell, halike.requests]
  · rw [Host.ask_history, Host.ask_history, hat, hat', requestsAt_answered,
      requestsAt_answered, if_pos rfl, if_pos rfl, halike.requests]

end Host.AlikeAt

namespace Inventory

variable {settings : Settings} {l : Location} {host host' : Host}

/-- Alike hosts yield the same at the node, and stay alike. -/
theorem visit_alike (hlocal : host.kernel.IsLocal) (halike : host.AlikeAt settings l host')
    {sight : Sight} (hat : sight.isAt host.files l = true)
    (hat' : sight.isAt host'.files l = true) :
    (visit settings sight host).1 = (visit settings sight host').1 ∧
      (visit settings sight host).2.AlikeAt settings l (visit settings sight host').2 := by
  cases sight with
  | closed fault => cases hat
  | node address path =>
    rw [Sight.isAt_node] at hat hat'
    have hrecords : host'.files.recordsAt path = host.files.recordsAt path := by
      unfold FileTree.recordsAt
      rw [hat, hat']
      simp only [halike.content]
    have hopened : (Host.newHandle l host).2.AlikeAt settings l (Host.newHandle l host').2 :=
      halike.of_eq ⟨rfl, rfl⟩ ⟨rfl, rfl⟩ halike.requests
    rw [visit, readDevice_eq, readDevice_eq, hat, hat', hrecords]
    cases host.files.recordsAt path with
    | error e => exact ⟨rfl, hopened⟩
    | ok tree =>
      have hask :=
        Host.AlikeAt.ask settings (Host.newHandle l host).1 (Host.newHandle l host').1 host.files
        host'.files hlocal rfl rfl rfl rfl
      have hmade := Relates.assemble
        (fun _ => .ofQueries hask) settings host.files tree ⟨address, none⟩
      obtain ⟨houtcome, -, hafter⟩ := hmade (Host.newHandle l host).2 (Host.newHandle l host').2
        ⟨⟨rfl, rfl, rfl⟩, hopened⟩
      simp only [halike.directories.assemble settings]
      exact ⟨congrArg Except.ok houtcome, hafter⟩

/-- What a survey finds at a node is what a survey of this node alone finds, on any host that is
alike. -/
theorem survey_filter (hlocal : host.kernel.IsLocal) (halike : host.AlikeAt settings l host')
    (ss : List Sight) (hat : ∀ s ∈ ss, s.isAt host.files l = true → s.isAt host'.files l = true) :
    ((survey settings ss host).1.filter fun finding => finding.1.isAt host.files l) =
      (survey settings (ss.filter fun s => s.isAt host.files l) host').1 := by
  induction ss generalizing host host' with
  | nil => rfl
  | cons s rest ih =>
    obtain ⟨⟨hfiles, hkernel⟩, helsewhere⟩ := visit_spares settings s host
    have hlocal₁ : (visit settings s host).2.kernel.IsLocal := by rw [hkernel]; exact hlocal
    have hrest : ∀ s' ∈ rest, s'.isAt host.files l = true → s'.isAt host'.files l = true :=
      fun s' hs' => hat s' (List.mem_cons_of_mem s hs')
    rw [survey_cons]
    cases hs : s.isAt host.files l with
    | true =>
      obtain ⟨hfound, hafter⟩ := visit_alike hlocal halike hs (hat s List.mem_cons_self hs)
      have hfiles' : (visit settings s host').2.files = host'.files :=
        (visit_spares settings s host').1.1
      have hlater := ih hlocal₁ hafter (by rw [hfiles, hfiles']; exact hrest)
      rw [hfiles] at hlater
      show ((s, _) :: _ : List _).filter _ = _
      rw [List.filter_cons, List.filter_cons, if_pos hs, if_pos hs, survey_cons, hlater, hfound]
    | false =>
      have hspared := helsewhere l hs
      have hafter : (visit settings s host).2.AlikeAt settings l host' :=
        halike.of_eq ⟨hfiles, hkernel⟩ ⟨rfl, rfl⟩ (by rw [hspared, halike.requests])
      have hlater := ih hlocal₁ hafter (by rw [hfiles]; exact hrest)
      rw [hfiles] at hlater
      have hneg : ¬ s.isAt host.files l = true := by rw [hs]; exact Bool.false_ne_true
      rw [List.filter_cons, List.filter_cons, if_neg hneg, if_neg hneg, hlater]

/-- What is found at the node at `l`. -/
def foundAt (settings : Settings) (host : Host) (l : Location) :
    List (Sight × Except Error Assembled) :=
  (findings settings host).filter fun finding => finding.1.isAt host.files l

/-- A node's findings are the same on all hosts that are alike at it and show it by the same names.
-/
theorem foundAt_alike (hlocal : host.kernel.IsLocal) (halike : host.AlikeAt settings l host')
    (hsights : ((sights settings host'.files).filter fun s => s.isAt host'.files l) =
      (sights settings host.files).filter fun s => s.isAt host.files l) :
    foundAt settings host' l = foundAt settings host l := by
  have hlocal' : host'.kernel.IsLocal := by rw [halike.kernel]; exact hlocal
  have hat : ∀ s ∈ sights settings host.files, s.isAt host.files l = true →
      s.isAt host'.files l = true := by
    intro s hs hsat
    have hmem : s ∈ (sights settings host.files).filter fun s => s.isAt host.files l :=
      List.mem_filter.2 ⟨hs, hsat⟩
    rw [← hsights] at hmem
    exact (List.mem_filter.1 hmem).2
  have halone := survey_filter hlocal halike (sights settings host.files) hat
  have halone' := survey_filter hlocal' (.refl settings l host') (sights settings host'.files)
    fun _ _ h => h
  rw [foundAt, findings, halone', hsights, ← halone]
  rfl

/-- Let no two buses have the same number, nor two nodes of a bus, and let the kernel answer at each
node by what has been asked there. Then an inventory has what is found at the nodes whose names are
numbers, in the order of these numbers: a device of each node that can be opened and has a tree of
records, with its remarks. The devices are closed and hold no claims. The error is the last failure.
What is found at a node is what would be found if there were no other, and also what is found on any
host that is alike at this node. -/
theorem list_isolates_nodes (settings : Settings) (host : Host)
    (honce : UniquelyNumbered settings host.files) (hlocal : host.kernel.IsLocal) :
    ((findings settings host).map Prod.fst = sights settings host.files ∧
      (sights settings host.files).Pairwise (fun s s' => s.numbers < s'.numbers) ∧
      ∀ s, s ∈ sights settings host.files ↔ s.InView settings host.files) ∧
    (∀ finding ∈ findings settings host, finding.1.Yields settings host finding.2) ∧
    (list settings host).1.devices = (made (findings settings host)).map Assembled.device ∧
    (list settings host).1.remarks = (made (findings settings host)).flatMap addressed ∧
    (∀ d ∈ (list settings host).1.devices, d.IsFresh) ∧
    ((list settings host).1.error = none ↔ ∀ finding ∈ findings settings host, ∃ a,
      finding.2 = .ok a) ∧
    (∀ e, (list settings host).1.error = some e ↔ ∃ before sight after,
      findings settings host = before ++ (sight, .error e) :: after ∧
        ∀ finding ∈ after, ∃ a, finding.2 = .ok a) ∧
    ∀ l, foundAt settings host l =
        (survey settings ((sights settings host.files).filter fun s =>
          s.isAt host.files l) host).1 ∧
      ∀ host', host.AlikeAt settings l host' →
        ((sights settings host'.files).filter fun s => s.isAt host'.files l) =
          ((sights settings host.files).filter fun s => s.isAt host.files l) →
        foundAt settings host' l = foundAt settings host l ∧
        ((∀ finding ∈ findings settings host', finding.1.isAt host'.files l = false →
            ∃ e, finding.2 = .error e) →
          (list settings host').1.devices =
            (made (foundAt settings host l)).map Assembled.device) := by
  refine ⟨⟨survey_fst .., sights_ascending honce, fun _ => mem_sights⟩,
    fun _ => yields_of_mem_findings, ?_, ?_, fun d hd => ?_, ?_, fun e => ?_, fun l => ⟨?_, ?_⟩⟩
  · rw [list_eq_made]
  · rw [list_eq_made]
  · obtain ⟨tree, ask, address, host₁, rfl⟩ := assembled_of_mem_list hd
    exact Assembly.assemble_isFresh ..
  · rw [list_eq_made]
    exact List.getLast?_eq_none_iff.trans failures_eq_nil
  · rw [list_eq_made]
    exact getLast?_failures
  · exact survey_filter hlocal (.refl settings l host) _ fun _ _ hat => hat
  · intro host' halike hsights
    have hfound := foundAt_alike hlocal halike hsights
    refine ⟨hfound, fun hfails => ?_⟩
    rw [list_eq_made, ← hfound, foundAt, made_filter hfails]

end Inventory

/-! ## Two nodes -/

/-- Settings with short paths. -/
def smallSettings : Settings := ⟨.ofText "/n", .ofText "/s", none⟩

/-- The location of node 1 on bus 1. -/
def nodeOne : Location := [Text.Utf8.bytes "n", Text.Utf8.bytes "001", Text.Utf8.bytes "001"]

/-- The location of node 2. -/
def nodeTwo : Location := [Text.Utf8.bytes "n", Text.Utf8.bytes "001", Text.Utf8.bytes "002"]

/-- A host with node 1 on bus 1, and no other files. -/
def oneNode : Host where
  files := (((FileTree.empty []).put [Text.Utf8.bytes "n"] .dir).put
    [Text.Utf8.bytes "n", Text.Utf8.bytes "001"] .dir).put nodeOne (.file smallTree.bytes)
  kernel := grantingKernel
  history := []
  opened := 0

/-- The host with an empty node 2 beside it. -/
def twoNodes : Host :=
  { oneNode with files := oneNode.files.put nodeTwo (.file []) }

theorem uniquelyNumbered_twoNodes : Inventory.UniquelyNumbered smallSettings twoNodes.files := by
  have hroot : twoNodes.files.entriesOf smallSettings.nodeRoot = .ok [Text.Utf8.bytes "001"] := by
    cbv
  have hbus : twoNodes.files.entriesOf (smallSettings.nodeRoot.join ⟨Text.Utf8.bytes "001"⟩) =
      .ok [Text.Utf8.bytes "001", Text.Utf8.bytes "002"] := by cbv
  have hone : Inventory.number? (Text.Utf8.bytes "001") = some 1 := by cbv
  have htwo : Inventory.number? (Text.Utf8.bytes "002") = some 2 := by cbv
  refine ⟨fun names hnames => ?_, fun busNames busName hbusNames hbusName _ names hnames => ?_⟩
  · rw [hroot] at hnames
    cases hnames
    rw [List.filterMap_cons_some hone]
    exact List.nodup_singleton _
  · rw [hroot] at hbusNames
    cases hbusNames
    rw [List.mem_singleton.1 hbusName, hbus] at hnames
    cases hnames
    rw [List.filterMap_cons_some hone, List.filterMap_cons_some htwo]
    decide

theorem grantingKernel_isLocal : grantingKernel.IsLocal :=
  ⟨fun _ _ request => grantingKernel.answer [] ⟨[], 0, 0⟩ [] request, fun _ _ _ _ => rfl⟩

theorem alikeAt_oneNode : twoNodes.AlikeAt smallSettings nodeOne oneNode := by
  have hentries : twoNodes.files.entriesOf smallSettings.directoryRoot =
      .error (.refused .noEntry) := by cbv
  have hnone : ∀ d, ¬ DeviceDir.Shown twoNodes.files smallSettings.directoryRoot d := by
    intro d hd
    induction hd with
    | entry hnames =>
      rw [hentries] at hnames
      cases hnames
    | above _ _ ih => exact ih
  refine ⟨rfl, rfl, by cbv, ⟨?_, fun d hd => absurd hd (hnone d), fun d hd => absurd hd (hnone d),
    fun d hd => absurd hd (hnone d)⟩⟩
  rw [hentries]
  cbv

namespace Inventory

/-- With the empty node beside it and without, node 1 yields the same device. -/
theorem list_isolates_nodes_oneNode :
    ∃ sight a, foundAt smallSettings twoNodes nodeOne = [(sight, .ok a)] ∧
      (list smallSettings oneNode).1.devices = [a.device] := by
  set one : Sight := .node ⟨1, 1⟩ (Location.path nodeOne) with hone
  set two : Sight := .node ⟨1, 2⟩ (Location.path nodeTwo) with htwo
  have hsights : sights smallSettings twoNodes.files = [one, two] := by cbv
  have hsights' : sights smallSettings oneNode.files = [one] := by cbv
  have hnode : twoNodes.files.nodeAt (Location.path nodeOne) = .ok nodeOne := by cbv
  have hnode' : oneNode.files.nodeAt (Location.path nodeOne) = .ok nodeOne := by cbv
  have hother : twoNodes.files.nodeAt (Location.path nodeTwo) = .ok nodeTwo := by cbv
  have hrecords : oneNode.files.recordsAt (Location.path nodeOne) = .ok smallTree := by cbv
  have hat : one.isAt twoNodes.files nodeOne = true := Sight.isAt_node.2 hnode
  have hat' : one.isAt oneNode.files nodeOne = true := Sight.isAt_node.2 hnode'
  have haway : ¬ two.isAt twoNodes.files nodeOne = true := by
    rw [Sight.isAt_node, hother]
    decide
  have hvisit : ∃ a, findings smallSettings oneNode = [(one, .ok a)] := by
    rw [findings, hsights', survey_cons, hone, visit, readDevice_eq, hnode', hrecords]
    exact ⟨_, rfl⟩
  obtain ⟨a, hfindings⟩ := hvisit
  obtain ⟨-, -, -, -, -, -, -, hisolated⟩ := list_isolates_nodes smallSettings twoNodes
    uniquelyNumbered_twoNodes grantingKernel_isLocal
  obtain ⟨hfound, hdevices⟩ := (hisolated nodeOne).2 oneNode alikeAt_oneNode (by
    rw [hsights, hsights', List.filter_cons_of_pos hat, List.filter_cons_of_neg haway,
      List.filter_cons_of_pos hat']
    rfl)
  have hfoundOne : foundAt smallSettings oneNode nodeOne = [(one, .ok a)] := by
    rw [foundAt, hfindings, List.filter_cons_of_pos (by exact hat')]
    rfl
  rw [hfoundOne] at hfound
  refine ⟨one, a, hfound.symm, ?_⟩
  rw [hdevices, ← hfound]
  · rfl
  · intro finding hfinding haway'
    rw [hfindings] at hfinding
    rw [List.mem_singleton.1 hfinding] at haway'
    rw [hat'] at haway'
    cases haway'

end Inventory

end UsbAccess
