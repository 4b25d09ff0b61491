import Mathlib
import UsbAccess.Proofs.Parts
import UsbAccess.Proofs.UpstreamPorts
import UsbAccess.Proofs.Writing

/-!
# The active configuration

A device that has configurations always has one that is active: the one that was found when the
device was put together, until another one is selected. It is kept by its place, and known by its
value, which is one more. The configuration of an open device is selected by a request at its node,
that of a closed one in its directory, where the next device that is put together finds it.

Results:
* `Device.After.active`: the active configuration is the one that was selected last.
* `Device.submits_submit`: how a configuration is selected.
* `Device.active_configuration`: both together, for every device that is put together, listed or
  opened.
-/

namespace UsbAccess

open Descriptor

/-! ## Putting together -/

namespace Assembly

/-- One of the configurations is active, unless there are none. -/
theorem active_cases (count : ℕ) (value : Except Error UInt8) :
    ((active count value).1 = none ∧ count = 0) ∨ ∃ index < count,
      (active count value).1 = some index := by
  have hfirst : ((if count = 0 then none else some 0) = none ∧ count = 0) ∨
      ∃ index < count, (if count = 0 then none else some 0) = some index := by
    by_cases hcount : count = 0
    · exact .inl ⟨if_pos hcount, hcount⟩
    · exact .inr ⟨0, by omega, if_neg hcount⟩
  unfold active
  cases value with
  | error e => exact hfirst
  | ok v =>
    by_cases hrange : 1 ≤ v.toNat ∧ v.toNat ≤ count
    · simp only [if_pos hrange]
      exact .inr ⟨v.toNat - 1, by omega, rfl⟩
    · simp only [if_neg hrange]
      exact hfirst

/-- The active configuration is the one that the source tells. -/
theorem assemble_active {σ : Type} (settings : Settings) (files : FileTree) (ask : Path → Inquiry σ)
    (tree : DeviceTree) (hints : Hints) (s : σ) :
    ∃ (inquiry : Inquiry σ) (s' : σ), (assemble settings files ask tree hints s).1.device.active =
      (active (Placement.configurations tree hints.address).length
        ((source settings files hints).1.activeConfiguration files inquiry s').1).1 :=
  ⟨_, _, rfl⟩

end Assembly

namespace Device

/-- One of the device's configurations is active, unless it has none. -/
def Configured (d : Device) : Prop :=
  (d.active = none ∧ d.configurations = []) ∨ ∃ index < d.configurations.length,
    d.active = some index

theorem Keeps.configured {d d' : Device} (h : d.Keeps d') (hd : d.Configured) : d'.Configured := by
  obtain ⟨handle, claims, rfl, -⟩ := h
  exact hd

theorem MadeFrom.configured {tree : DeviceTree} {d : Device} (h : d.MadeFrom tree) :
    d.Configured := by
  obtain ⟨σ, settings, files, ask, hints, s, hmade⟩ := h
  refine hmade.configured ?_
  obtain ⟨inquiry, s', hactive⟩ := Assembly.assemble_active settings files ask tree hints s
  obtain ⟨hnone, hcount⟩ | ⟨index, hindex, hsome⟩ := Assembly.active_cases
    (Placement.configurations tree hints.address).length
    ((Assembly.source settings files hints).1.activeConfiguration files inquiry s').1
  · refine .inl ⟨hactive.trans hnone, ?_⟩
    rw [Assembly.assemble_configurations, List.eq_nil_of_length_eq_zero hcount, List.map_nil]
  · refine .inr ⟨index, ?_, hactive.trans hsome⟩
    rwa [Assembly.assemble_configurations, List.length_map]

/-- The only configuration of a device is active. -/
theorem MadeFrom.active_of_single {tree : DeviceTree} {d : Device} (h : d.MadeFrom tree)
    (hsingle : tree.record.configurationCount = 1) : d.active = some 0 := by
  have hlength : d.configurations.length = 1 := by rw [h.inPlace.length, hsingle]; rfl
  obtain ⟨-, hnone⟩ | ⟨index, hindex, hactive⟩ := h.configured
  · simp [hnone] at hlength
  · obtain rfl : index = 0 := by omega
    exact hactive

theorem Configured.activeConfiguration?_eq_none {d : Device} (h : d.Configured) :
    d.activeConfiguration? = none ↔ d.configurations = [] := by
  obtain ⟨hnone, hempty⟩ | ⟨index, hindex, hsome⟩ := h
  · simp [activeConfiguration?, hnone, hempty]
  · simp only [activeConfiguration?, hsome, Option.bind_some, List.getElem?_eq_none_iff]
    constructor
    · intro hlong
      omega
    · intro hempty
      rw [hempty]
      exact Nat.zero_le _

/-- The value of the active configuration is one more than its place. -/
theorem InPlace.activeValue {d : Device} {tree : DeviceTree} (h : d.InPlace tree) {index : ℕ}
    {value : UInt8} (hindex : index < d.configurations.length) (hactive : d.active = some index)
    (hvalue : value.toNat = index + 1) :
    d.activeConfiguration?.map Configuration.value = some value := by
  have hc : d.configurations[index]? = some d.configurations[index] :=
    List.getElem?_eq_getElem hindex
  have hplace := (h.configurations index _ hc).value
  rw [activeConfiguration?, hactive, Option.bind_some, hc, Option.map_some]
  exact congrArg some (UInt8.toNat_inj.1 (hplace.trans hvalue.symm))

/-! ## What operations select -/

/-- The value that is selected by an operation with this outcome. -/
def selected? : Operation × Except Error Unit → Option UInt8
  | (.selectConfiguration value, .ok _) => some value
  | _ => none

/-- The value selected last by operations with these outcomes, the latest first. -/
def lastSelected? (log : List (Operation × Except Error Unit)) : Option UInt8 :=
  log.findSome? selected?

/-- The active configuration after a selection, which has to be one of the device's, or after none.
-/
inductive Activates (d d' : Device) : Option UInt8 → Prop
  | kept (hactive : d'.active = d.active) : Activates d d' none
  | selected {value : UInt8} (hpos : 1 ≤ value.toNat)
      (hcount : value.toNat ≤ d.configurations.length)
      (hactive : d'.active = some (value.toNat - 1)) : Activates d d' (some value)

theorem Keeps.active {d d' : Device} (h : d.Keeps d') : d'.active = d.active := by
  obtain ⟨handle, claims, rfl, -⟩ := h
  rfl

theorem Passes.active {d d' : Device} {registries registries' : List Registry}
    (h : d.Passes registries d' registries') : d'.active = d.active := by
  cases h with
  | stays h => exact h.active
  | leaves => rfl

theorem setAlternate_active (d : Device) (number alternate : UInt8) :
    (d.setAlternate number alternate).active = d.active := by
  unfold setAlternate
  split <;> rfl

theorem activates_selectConfiguration (d : Device) (value : UInt8) :
    Always (fun o => d.Activates o.2 (selected? (.selectConfiguration value, o.1)))
    (d.selectConfiguration value) := by
  intro host
  by_cases hrange : value = 0 ∨ d.configurations.length < value.toNat
  · rw [selectConfiguration_range hrange]
    exact .kept rfl
  · have hpos : value.toNat ≠ 0 := fun hzero => hrange (.inl (UInt8.toNat_inj.1 hzero))
    have hchanges := changes_selectConfiguration d value host
    cases houtcome : (d.selectConfiguration value host).1.1 with
    | ok _ =>
      rw [Changes, houtcome] at hchanges
      exact .selected (by omega) (by omega) (congrArg Device.active hchanges)
    | error e =>
      rw [Changes, houtcome] at hchanges
      exact .kept (congrArg Device.active hchanges)

/-- Nothing but a selection makes another configuration the active one. -/
theorem activates_perform (d : Device) (op : Operation) :
    Always (fun o => d.Activates o.2 (selected? (op, o.1))) (op.perform d) := by
  rintro ⟨host, registries⟩
  cases op with
  | selectConfiguration value => exact activates_selectConfiguration d value host
  | «open» => exact .kept (keeps_open d host).1.active
  | close => exact .kept ((Keeps.refl d).passes_close registries host).active
  | claimInterface number => exact .kept (keeps_claimInterface d number host).active
  | releaseInterface number => exact .kept (keeps_releaseInterface d number host).active
  | selectAlternate number alternate =>
    obtain hchanged | hsame := (changes_selectAlternate d number alternate host).eq_or
    · exact .kept ((congrArg Device.active hchanged).trans (setAlternate_active d number alternate))
    · exact .kept (congrArg Device.active hsame)
  | beginDefault => exact .kept (passes_beginDefault d registries host).active
  | endDefault number => exact .kept (passes_endDefault d number registries host).active
  | drop => exact .kept ((Keeps.refl d).passes_close registries host).active

/-- The device after operations with these outcomes, the latest first, whatever becomes of the host
and the registries between them. -/
inductive After (d₀ : Device) : List (Operation × Except Error Unit) → Device → Prop
  | start : After d₀ [] d₀
  | operation {log : List (Operation × Except Error Unit)} {d : Device} (op : Operation)
      (s : Session) (h : After d₀ log d) : After d₀ ((op, (op.perform d s).1.1) :: log)
      (op.perform d s).1.2

namespace After

variable {d₀ d : Device} {log : List (Operation × Except Error Unit)} {tree : DeviceTree}

theorem inPlace (h : d₀.After log d) (hd₀ : d₀.InPlace tree) : d.InPlace tree := by
  induction h with
  | start => exact hd₀
  | operation op s h ih => exact ih.perform op s

/-- The active configuration is the one that was selected last. -/
theorem active (h : d₀.After log d) (hd₀ : d₀.InPlace tree) :
    d₀.Activates d (lastSelected? log) := by
  induction h with
  | start => exact .kept rfl
  | @operation log d op s h ih =>
    have hlength : d.configurations.length = d₀.configurations.length :=
      (h.inPlace hd₀).length.trans hd₀.length.symm
    have hstep : d.Activates (op.perform d s).1.2 (selected? (op, (op.perform d s).1.1)) :=
      activates_perform d op s
    rw [lastSelected?, List.findSome?_cons]
    generalize selected? (op, (op.perform d s).1.1) = now at hstep ⊢
    cases hstep with
    | selected hpos hcount hactive => exact .selected hpos (hlength ▸ hcount) hactive
    | kept hactive =>
      change d₀.Activates _ (lastSelected? log)
      generalize lastSelected? log = last at ih ⊢
      cases ih with
      | kept hbefore => exact .kept (hactive.trans hbefore)
      | selected hpos hcount hbefore => exact .selected hpos hcount (hactive.trans hbefore)

end After

namespace Activates

variable {d d' : Device} {selected : Option UInt8} {tree : DeviceTree}

theorem configured (h : d.Activates d' selected) (hd : d.Configured)
    (hlength : d'.configurations.length = d.configurations.length) : d'.Configured := by
  cases h with
  | selected hpos hcount hactive => exact .inr ⟨_, by omega, hactive⟩
  | kept hactive =>
    obtain ⟨hnone, hempty⟩ | ⟨index, hindex, hsome⟩ := hd
    · rw [hempty] at hlength
      exact .inl ⟨hactive.trans hnone, List.eq_nil_of_length_eq_zero hlength⟩
    · exact .inr ⟨index, by omega, hactive.trans hsome⟩

theorem value (h : d.Activates d' selected) (hd : d.Configured) (hplace : d.InPlace tree)
    (hplace' : d'.InPlace tree) :
    d'.activeConfiguration?.map Configuration.value =
      selected.or (d.activeConfiguration?.map Configuration.value) := by
  have hlength : d'.configurations.length = d.configurations.length :=
    hplace'.length.trans hplace.length.symm
  cases h with
  | @selected value hpos hcount hactive =>
    exact hplace'.activeValue (by omega) hactive (by omega)
  | kept hactive =>
    obtain ⟨hnone, hempty⟩ | ⟨index, hindex, hsome⟩ := hd
    · simp [activeConfiguration?, hactive, hnone]
    · have hsmall : index + 1 < 256 := by
        have := tree.record.configurationCount.toNat_lt
        have := hplace.length
        omega
      have hvalue : (UInt8.ofNat (index + 1)).toNat = index + 1 := UInt8.toNat_ofNat_of_lt hsmall
      rw [hplace'.activeValue (by omega) (hactive.trans hsome) hvalue,
        hplace.activeValue hindex hsome hvalue]
      rfl

end Activates

end Device

/-! ## How a configuration is selected -/

theorem Handle.selectConfiguration_apply (h : Handle) (value : UInt8) (host : Host) :
    h.selectConfiguration value host =
      ((Host.ask h (.setConfiguration value) host).1.map fun _ => (),
      (Host.ask h (.setConfiguration value) host).2) := by
  unfold Handle.selectConfiguration Handle.tell
  rw [Inventory.bind_apply]
  cases (Host.ask h (.setConfiguration value) host).1 with
  | ok reply => rfl
  | error e => rfl

namespace Device

/-- Selects a configuration by the handle of an open device, and else by the source of its data. -/
def submit (d : Device) (value : UInt8) : StateM Host (Except Error Unit) :=
  match d.handle with
  | some h => do return Claim.failed "set configuration" (← h.selectConfiguration value)
  | none => d.sourceSelectConfiguration value

/-- A selection, with its outcome, its events and the files after it: an open device is asked once
by its handle. Of a closed one the attribute in its directory is written, without asking for
anything, or a node is opened to ask once. -/
inductive Submits (d : Device) (value : UInt8) (files : FileTree) :
    Except Error Unit → List Event → FileTree → Prop
  | asked {h : Handle} {node : Location} {answer : Except Errno Reply} (hopen : d.handle = some h) :
      Submits d value files (Claim.failed "set configuration" (answer.map fun _ => ()))
        [.answered h node (.setConfiguration value) answer] files
  | written {dir : DeviceDir} {files' : FileTree} (hclosed : d.handle = none)
      (hsource : d.source = .directory dir)
      (hwrite : dir.selectConfiguration files value = .ok files') :
      Submits d value files (.ok ()) [] files'
  | unwritten {dir : DeviceDir} {e : Error} (hclosed : d.handle = none)
      (hsource : d.source = .directory dir)
      (hwrite : dir.selectConfiguration files value = .error e) :
      Submits d value files (.error e) [] files
  | askedNode {h : Handle} {node : Location} {answer : Except Errno Reply}
      (hclosed : d.handle = none) (hsource : d.source = .node)
      (hnode : files.openToUpdate d.node = .ok h.node) :
      Submits d value files (Claim.failed "set configuration" (answer.map fun _ => ()))
        [.answered h node (.setConfiguration value) answer, .opened h] files
  | unopened {fault : FileFault} (hclosed : d.handle = none) (hsource : d.source = .node)
      (hnode : files.openToUpdate d.node = .error fault) :
      Submits d value files (.error (.io fault)) [] files

theorem submits_submit (d : Device) (value : UInt8) (host : Host) :
    ∃ events, host.Evolves events (d.submit value host).2 ∧
      d.Submits value host.files (d.submit value host).1 events (d.submit value host).2.files := by
  have hask : ∀ (h : Handle) (host : Host),
      (do return Claim.failed "set configuration" (← h.selectConfiguration value) :
          StateM Host _) host =
        (Claim.failed "set configuration"
          ((Host.ask h (.setConfiguration value) host).1.map fun _ => ()),
          (Host.ask h (.setConfiguration value) host).2) := by
    intro h host
    rw [Inventory.bind_apply, h.selectConfiguration_apply]
    rfl
  unfold submit
  cases hhandle : d.handle with
  | some h =>
    simp only [hask]
    exact ⟨_, Host.ask_evolves h (.setConfiguration value) host, .asked hhandle⟩
  | none =>
    unfold sourceSelectConfiguration
    cases hsource : d.source with
    | directory dir =>
      cases hwrite : dir.selectConfiguration host.files value with
      | ok files =>
        simp only [Bind.bind, StateT.bind, get, getThe, MonadStateOf.get, StateT.get,
          Pure.pure, hwrite]
        exact ⟨[], .files host files, .written hhandle hsource hwrite⟩
      | error e =>
        simp only [Bind.bind, StateT.bind, get, getThe, MonadStateOf.get, StateT.get,
          Pure.pure, hwrite]
        exact ⟨[], .refl host, .unwritten hhandle hsource hwrite⟩
    | node =>
      simp only [hhandle]
      unfold Inquiry.withNode
      rw [Inventory.bind_apply]
      cases hnode : host.files.openToUpdate d.node with
      | error fault =>
        rw [Host.openNode_of_error hnode]
        exact ⟨[], .refl host, .unopened hhandle hsource hnode⟩
      | ok l =>
        rw [Host.openNode_of_ok hnode]
        simp only [hask]
        exact ⟨_, (Host.newHandle_evolves l host).trans (Host.ask_evolves _ _ _),
          .askedNode hhandle hsource hnode⟩

/-- A value that the device has is submitted. -/
theorem selectConfiguration_submits {d : Device} {value : UInt8}
    (hrange : ¬ (value = 0 ∨ d.configurations.length < value.toNat)) (host : Host) :
    (d.selectConfiguration value host).1.1 = (d.submit value host).1 ∧
      (d.selectConfiguration value host).2 = (d.submit value host).2 := by
  unfold selectConfiguration submit
  rw [if_neg hrange]
  cases d.handle with
  | some h =>
    simp only [pure_bind, Inventory.bind_apply, h.selectConfiguration_apply]
    cases (Host.ask h (.setConfiguration value) host).1 with
    | ok reply => exact ⟨rfl, rfl⟩
    | error e => exact ⟨rfl, rfl⟩
  | none =>
    simp only [Inventory.bind_apply]
    cases (d.sourceSelectConfiguration value host).1 with
    | ok _ => exact ⟨rfl, rfl⟩
    | error e => exact ⟨rfl, rfl⟩

/-- Files are written only by a selection that succeeds. -/
theorem Submits.files_eq {d : Device} {value : UInt8} {files files' : FileTree}
    {outcome : Except Error Unit} {events : List Event}
    (h : d.Submits value files outcome events files') {e : Error}
    (houtcome : outcome = .error e) : files' = files := by
  cases h with
  | written => cases houtcome
  | asked => rfl
  | unwritten => rfl
  | askedNode => rfl
  | unopened => rfl

/-- Of a closed device with a directory the attribute is written, or nothing is. -/
theorem Submits.of_directory {d : Device} {value : UInt8} {files files' : FileTree}
    {outcome : Except Error Unit} {events : List Event} {dir : DeviceDir}
    (h : d.Submits value files outcome events files')
    (hclosed : d.handle = none) (hsource : d.source = .directory dir) :
    (outcome = .ok () ∧ dir.selectConfiguration files value = .ok files') ∨
      ∃ e, outcome = .error e ∧ dir.selectConfiguration files value = .error e := by
  cases h with
  | written _ hsource' hwrite =>
    cases hsource.symm.trans hsource'
    exact .inl ⟨rfl, hwrite⟩
  | unwritten _ hsource' hwrite =>
    cases hsource.symm.trans hsource'
    exact .inr ⟨_, rfl, hwrite⟩
  | asked hopen => cases hclosed.symm.trans hopen
  | askedNode _ hsource' => cases hsource.symm.trans hsource'
  | unopened _ hsource' => cases hsource.symm.trans hsource'

/-- What has become of a selection: its outcome, and the device and the host after it. -/
structure Selection (d : Device) (value : UInt8) (host : Host) (outcome : Except Error Unit)
    (d' : Device) (host' : Host) : Prop where
  /-- A value that the device does not have is refused before anything is asked or written. -/
  range : value = 0 ∨ d.configurations.length < value.toNat →
    outcome = .error (.invalidArgument (.configurationRange value d.configurations.length)) ∧
    host' = host
  /-- Any other value is submitted once. -/
  submits : ¬ (value = 0 ∨ d.configurations.length < value.toNat) →
    ∃ events, host.Evolves events host' ∧ d.Submits value host.files outcome events host'.files
  /-- A selection that fails changes neither the device nor any file. -/
  fails : ∀ e, outcome = .error e → d' = d ∧ host'.files = host.files
  succeeds : outcome = .ok () → d' = { d with active := some (value.toNat - 1) }

theorem selection (d : Device) (value : UInt8) (host : Host) :
    d.Selection value host (d.selectConfiguration value host).1.1
      (d.selectConfiguration value host).1.2
      (d.selectConfiguration value host).2 := by
  have hchanges := changes_selectConfiguration d value host
  have hsubmits : ¬ (value = 0 ∨ d.configurations.length < value.toNat) →
      ∃ events, host.Evolves events (d.selectConfiguration value host).2 ∧
        d.Submits value host.files (d.selectConfiguration value host).1.1 events
          (d.selectConfiguration value host).2.files := by
    intro hrange
    obtain ⟨houtcome, hhost⟩ := selectConfiguration_submits hrange host
    rw [houtcome, hhost]
    exact submits_submit d value host
  refine ⟨fun hrange => ?_, hsubmits, fun e he => ⟨?_, ?_⟩, fun hok => ?_⟩
  · rw [selectConfiguration_range hrange]
    exact ⟨rfl, rfl⟩
  · rwa [Changes, he] at hchanges
  · by_cases hrange : value = 0 ∨ d.configurations.length < value.toNat
    · rw [selectConfiguration_range hrange]
    · obtain ⟨events, -, hevents⟩ := hsubmits hrange
      exact hevents.files_eq he
  · rwa [Changes, hok] at hchanges

/-- The device that is put together with a directory has the configuration active that is read
there, if the device has this configuration. -/
theorem activeValue_of_read {σ : Type} {settings : Settings} {files : FileTree}
    {ask : Path → Inquiry σ} {tree : DeviceTree} {hints : Hints} {s : σ} {dir : DeviceDir}
    {value : UInt8}
    (hsource : (Assembly.source settings files hints).1 = .directory dir)
    (hread : dir.activeConfiguration files = .ok value) (hpos : 1 ≤ value.toNat)
    (hcount : value.toNat ≤ tree.record.configurationCount.toNat) :
    (Assembly.assemble settings files ask tree hints s).1.device.activeConfiguration?.map
      Configuration.value =
      some value := by
  have hplace := Assembly.assemble_inPlace settings files ask tree hints s
  obtain ⟨inquiry, s', hactive⟩ := Assembly.assemble_active settings files ask tree hints s
  have htold : ((Assembly.source settings files hints).1.activeConfiguration files inquiry s').1 =
      .ok value := by
    rw [hsource]
    exact hread
  rw [htold, Assembly.active, Placement.length_configurations] at hactive
  simp only [if_pos (And.intro hpos hcount)] at hactive
  have hlength := hplace.length
  exact hplace.activeValue (by omega) hactive (by omega)

/-- Of a device that comes from a tree of records, after any operations and whatever was answered
and changed elsewhere: It has no active configuration only if it has none at all. The active one has
the value that was selected last, or else the one that was found when the device was put together. A
further selection is refused, or submitted once to the handle of an open device and else to its
source; it changes nothing if it fails. And if a closed device with a directory is selected a
configuration, this is read in the directory, and it is the active one of every device that is put
together from the same records and the same directory as long as its file is left alone. -/
theorem active_configuration {tree : DeviceTree} {d₀ d : Device}
    {log : List (Operation × Except Error Unit)} (hcomes : d₀.ComesFrom tree)
    (hafter : d₀.After log d) :
    (d.activeConfiguration? = none ↔ d.configurations = []) ∧
    d.activeConfiguration?.map Configuration.value =
      (lastSelected? log).or (d₀.activeConfiguration?.map Configuration.value) ∧
    ∀ (value : UInt8) (host : Host) (outcome : Except Error Unit) (d' : Device) (host' : Host),
      d.selectConfiguration value host = ((outcome, d'), host') →
        d.Selection value host outcome d' host' ∧
        ∀ dir, d.handle = none → d.source = .directory dir → outcome = .ok () →
          dir.activeConfiguration host'.files = .ok value ∧
          ∀ {σ : Type} (settings : Settings) (files : FileTree) (ask : Path → Inquiry σ)
            (hints : Hints) (s : σ),
            (Assembly.source settings files hints).1 = .directory dir →
            files.read dir.configurationPath = host'.files.read dir.configurationPath →
              (Assembly.assemble settings files ask tree hints s).1.device.activeConfiguration?.map
                Configuration.value = some value := by
  have hplace₀ : d₀.InPlace tree := hcomes.inPlace
  have hplace : d.InPlace tree := hafter.inPlace hplace₀
  have hactivates : d₀.Activates d (lastSelected? log) := hafter.active hplace₀
  have hconfigured : d.Configured :=
    hactivates.configured hcomes.made.configured (hplace.length.trans hplace₀.length.symm)
  refine ⟨hconfigured.activeConfiguration?_eq_none,
    hactivates.value hcomes.made.configured hplace₀ hplace,
    fun value host outcome d' host' hselect => ?_⟩
  have hselection := d.selection value host
  rw [hselect] at hselection
  refine ⟨hselection, fun dir hclosed hsource hok => ?_⟩
  subst hok
  have hrange : ¬ (value = 0 ∨ d.configurations.length < value.toNat) := by
    intro hout
    cases (hselection.range hout).1
  obtain ⟨events, -, hevents⟩ := hselection.submits hrange
  have hwrite : dir.selectConfiguration host.files value = .ok host'.files := by
    obtain ⟨-, hwrite⟩ | ⟨e, he, -⟩ := hevents.of_directory hclosed hsource
    · exact hwrite
    · cases he
  have hread := DeviceDir.read_of_selectConfiguration hwrite
  have hpos : value.toNat ≠ 0 := fun hzero => hrange (.inl (UInt8.toNat_inj.1 hzero))
  have hlength := hplace.length
  refine ⟨DeviceDir.activeConfiguration_of_read hread,
    fun settings files ask hints s hagain hsame => ?_⟩
  have hstill := DeviceDir.activeConfiguration_of_read (hsame.trans hread)
  exact activeValue_of_read hagain hstill (by omega) (by omega)

end Device

/-! ## A device with two configurations -/

/-- The records of a device with two configurations, of which only the first has a record. -/
def twoTree : DeviceTree :=
  { smallTree with record := { smallTree.record with configurationCount := 2 } }

/-- The hub's directory, with these records. -/
def twoHints : Hints := ⟨⟨1, 1⟩, some (.ofText "/s/1-1")⟩

/-- The device of these records in the hub's directory. -/
def twoMade : Device :=
  (Assembly.assemble smallSettings hubFiles Inquiry.ofNode twoTree twoHints hubHost).1.device

/-- The second configuration is selected in the directory, a third one is not there to be selected,
and a device that is put together again has the second one active. -/
theorem active_configuration_twoMade :
    ∃ d host', twoMade.selectConfiguration 2 hubHost = ((.ok (), d), host') ∧
      d.activeConfiguration?.map Configuration.value = some 2 ∧
      (d.selectConfiguration 3 host').1.1 = .error (.invalidArgument (.configurationRange 3 2)) ∧
      (Assembly.assemble smallSettings host'.files Inquiry.ofNode twoTree twoHints
        host').1.device.activeConfiguration?.map Configuration.value = some 2 := by
  have hcomes : twoMade.ComesFrom twoTree := .assembled ..
  have hlength : twoMade.configurations.length = 2 := (Assembly.assemble_inPlace ..).length
  rcases hselect : twoMade.selectConfiguration 2 hubHost with ⟨⟨outcome, d⟩, host'⟩
  obtain ⟨-, -, hall⟩ := Device.active_configuration hcomes .start
  obtain ⟨hselection, hagain⟩ := hall 2 hubHost outcome d host' hselect
  have hok : outcome = .ok () := by
    obtain ⟨events, -, hevents⟩ := hselection.submits (by rw [hlength]; decide)
    have hsource : twoMade.source = .directory ⟨.ofText "/s/1-1"⟩ := rfl
    obtain ⟨hok, -⟩ | ⟨e, -, hwrite⟩ := hevents.of_directory rfl hsource
    · exact hok
    · have hwritten : ((DeviceDir.mk (.ofText "/s/1-1")).selectConfiguration hubFiles 2).isOk =
          true := by cbv
      change (DeviceDir.mk (.ofText "/s/1-1")).selectConfiguration hubFiles 2 = .error e at hwrite
      rw [hwrite] at hwritten
      cases hwritten
  subst hok
  have hperform : (Device.Operation.selectConfiguration 2).perform twoMade ⟨hubHost, []⟩ =
      ((.ok (), d), ⟨host', []⟩) := by
    show Session.onHost (twoMade.selectConfiguration 2) ⟨hubHost, []⟩ = _
    rw [Session.onHost, hselect]
  have hafter : twoMade.After [(.selectConfiguration 2, .ok ())] d := by
    have hstep := (Device.After.start : twoMade.After [] twoMade).operation (.selectConfiguration 2)
      ⟨hubHost, []⟩
    rwa [hperform] at hstep
  obtain ⟨-, hvalue, hnext⟩ := Device.active_configuration hcomes hafter
  refine ⟨d, host', rfl, hvalue, ?_, ?_⟩
  · have hcount : d.configurations.length = 2 := (hafter.inPlace hcomes.inPlace).length
    rw [← hcount]
    exact ((hnext 3 host' _ _ _ rfl).1.range (.inr (by rw [hcount]; decide))).1
  · exact (hagain ⟨.ofText "/s/1-1"⟩ rfl rfl rfl).2 smallSettings host'.files Inquiry.ofNode
      twoHints host' rfl rfl

end UsbAccess
