import Mathlib
import UsbAccess.Proofs.Readings
import UsbAccess.Proofs.UpstreamPorts

/-!
# Devices behind hubs

The directory of a device stands in that of the hub it is plugged into, up to that of the root hub,
and has a name that tells the bus and the ports on the way. From the name alone, the last port is
found; the hub, and the ports before the last, are found on the way up. That takes as many steps as
there are ports, since the last step is to the root hub, which names none; so all of up to seven
ports are found.

Results:
* `DeviceDir.portOfName_hubName`: a directory named by ports is plugged into the last of them.
* `HubChain.found_lookDir`: on the way up, the ports are found from the last to the first.
* `HubChain.ports_assemble`: the ports of a device are those that name its directory.
* `plug_of_nested`: the port, the hub and the ports of a device in nested directories, with no
  remark on them.
-/

namespace UsbAccess

open Text

/-! ## Names of hubs -/

/-- The name of the directory of a device: the bus and the ports on the way to the device. Without
ports it is that of the root hub. -/
def hubName (bus : UInt8) (ports : List UInt8) : String :=
  if ports = [] then "usb" ++ bus.toNat.repr
  else bus.toNat.repr ++ "-" ++ ".".intercalate (ports.map fun port => port.toNat.repr)

theorem isDigit_of_mem_repr {n : ℕ} {c : Char} (hc : c ∈ n.repr.toList) : c.isDigit = true := by
  rw [Nat.toList_repr] at hc
  exact Nat.isDigit_of_mem_toDigits (by decide) (by decide) hc

theorem byte?_repr (b : UInt8) : byte? b.toNat.repr.toList = some b := by
  have hdecimal : decimal 0 b.toNat = b.toNat.repr := by
    rw [decimal, zeroFill, Nat.repr_eq_ofList_toDigits]
    simp
  rw [← hdecimal]
  exact byte?_decimal 0 b

theorem mem_of_mem_intercalate {α : Type} {separator : List α} {parts : List (List α)} {x : α}
    (hx : x ∈ separator.intercalate parts) : x ∈ separator ∨ ∃ part ∈ parts, x ∈ part := by
  induction parts with
  | nil => cases hx
  | cons part rest ih =>
    by_cases hrest : rest = []
    · rw [hrest, List.intercalate_singleton] at hx
      exact .inr ⟨part, List.mem_cons_self, hx⟩
    · rw [List.intercalate_cons_of_ne_nil hrest, List.mem_append, List.mem_append] at hx
      rcases hx with (hpart | hseparator) | hlater
      · exact .inr ⟨part, List.mem_cons_self, hpart⟩
      · exact .inl hseparator
      · rcases ih hlater with hseparator | ⟨part', hpart', hmem⟩
        · exact .inl hseparator
        · exact .inr ⟨part', List.mem_cons_of_mem _ hpart', hmem⟩

/-- A name with ports is made of digits, hyphens and dots. -/
theorem isDigit_of_mem_hubName {bus : UInt8} {ports : List UInt8} (hports : ports ≠ []) {c : Char}
    (hc : c ∈ (hubName bus ports).toList) : c.isDigit = true ∨ c = '-' ∨ c = '.' := by
  rw [hubName, if_neg hports, String.toList_append, String.toList_append, String.toList_intercalate,
    List.mem_append, List.mem_append] at hc
  rcases hc with (hbus | hhyphen) | hport
  · exact .inl (isDigit_of_mem_repr hbus)
  · exact .inr (.inl (by simpa using hhyphen))
  · rcases mem_of_mem_intercalate hport with hdot | ⟨part, hpart, hmem⟩
    · exact .inr (.inr (by simpa using hdot))
    · rw [List.map_map, List.mem_map] at hpart
      obtain ⟨port, -, rfl⟩ := hpart
      exact .inl (isDigit_of_mem_repr hmem)

/-- The last port stands at the end of the name, behind a hyphen or a dot. -/
theorem hubName_concat (bus : UInt8) (ports : List UInt8) (port : UInt8) :
    ∃ before separator, (separator = '-' ∨ separator = '.') ∧
      (hubName bus (ports ++ [port])).toList = before ++ separator :: port.toNat.repr.toList := by
  have hsome : ports ++ [port] ≠ [] := by simp
  rw [hubName, if_neg hsome, List.map_append]
  by_cases hports : ports = []
  · refine ⟨bus.toNat.repr.toList, '-', .inl rfl, ?_⟩
    subst hports
    simp
  · have hmap : (ports.map fun port => port.toNat.repr) ≠ [] := by simpa using hports
    rw [List.map_singleton, String.intercalate_append_of_ne_nil hmap (List.cons_ne_nil _ _)]
    refine ⟨bus.toNat.repr.toList ++ '-' ::
      (".".intercalate (ports.map fun port => port.toNat.repr)).toList,
      '.', .inr rfl, ?_⟩
    simp

/-- What stands behind the last dot or hyphen. -/
theorem DeviceDir.lastNumeral_append {before digits : List Char} {separator : Char}
    (hseparator : separator = '-' ∨ separator = '.') (hdigits : ∀ c ∈ digits, c.isDigit = true) :
    lastNumeral (before ++ separator :: digits) = digits := by
  have hkeep : ∀ c ∈ digits.reverse, (decide (c ≠ '.') && decide (c ≠ '-')) = true := by
    intro c hc
    have hdigit := hdigits c (List.mem_reverse.1 hc)
    have hdot : c ≠ '.' := by
      rintro rfl
      exact absurd hdigit (by decide)
    have hhyphen : c ≠ '-' := by
      rintro rfl
      exact absurd hdigit (by decide)
    simp [hdot, hhyphen]
  have hreverse : (before ++ separator :: digits).reverse =
      digits.reverse ++ separator :: before.reverse := by simp
  unfold lastNumeral
  rw [hreverse, List.takeWhile_append_of_pos hkeep]
  rcases hseparator with rfl | rfl
  · simp
  · simp

/-- A directory named by ports is plugged into the last of them. -/
theorem DeviceDir.portOfName_hubName (bus : UInt8) (ports : List UInt8) (port : UInt8) :
    portOfName (hubName bus (ports ++ [port])) = .ok port := by
  obtain ⟨before, separator, hseparator, hname⟩ := hubName_concat bus ports port
  have hsome : ports ++ [port] ≠ [] := by simp
  have husb : ¬ "usb".toList.isPrefixOf (hubName bus (ports ++ [port])).toList = true := by
    intro hprefix
    have hmem : 'u' ∈ (hubName bus (ports ++ [port])).toList :=
      (List.isPrefixOf_iff_prefix.1 hprefix).subset (by decide)
    exact absurd (isDigit_of_mem_hubName hsome hmem) (by decide)
  have hcolon : ¬ (hubName bus (ports ++ [port])).toList.contains ':' = true := by
    intro hcontains
    have hmem : ':' ∈ (hubName bus (ports ++ [port])).toList := List.contains_iff_mem.1 hcontains
    exact absurd (isDigit_of_mem_hubName hsome hmem) (by decide)
  rw [portOfName, if_neg husb, if_neg hcolon, hname,
    lastNumeral_append hseparator fun _ => isDigit_of_mem_repr, byte?_repr]

/-! ## Nested directories -/

/-- The location of the directory of a device: in `base` that of the root hub, and in it, one inside
the other, those of the hubs above the device and its own. -/
def nested (base : Location) (bus : UInt8) (ports : List UInt8) : Location :=
  base ++ ports.inits.map fun upper => Utf8.bytes (hubName bus upper)

theorem nested_nil (base : Location) (bus : UInt8) :
    nested base bus [] = base ++ [Utf8.bytes (hubName bus [])] := rfl

/-- The directories of the first ports come first. -/
theorem exists_nested_append (base : Location) (bus : UInt8) (ports rest : List UInt8) :
    ∃ lower, nested base bus (ports ++ rest) = nested base bus ports ++ lower := by
  rw [nested, nested, List.inits_append, List.map_append, ← List.append_assoc]
  exact ⟨_, rfl⟩

theorem nested_concat (base : Location) (bus : UInt8) (ports : List UInt8) (port : UInt8) :
    nested base bus (ports ++ [port]) =
      nested base bus ports ++ [Utf8.bytes (hubName bus (ports ++ [port]))] := by
  simp [nested, List.inits_append]

/-- The last of the nested directories has the name of the device. -/
theorem exists_nested_eq (base : Location) (bus : UInt8) (ports : List UInt8) :
    ∃ upper, nested base bus ports = upper ++ [Utf8.bytes (hubName bus ports)] := by
  induction ports using List.reverseRecOn with
  | nil => exact ⟨base, rfl⟩
  | append_singleton ports port => exact ⟨_, nested_concat base bus ports port⟩

/-- The directory of a device by its own path. -/
def nestedDir (base : Location) (bus : UInt8) (ports : List UInt8) : DeviceDir :=
  ⟨Location.path (nested base bus ports)⟩

/-- The nested directories are there, each with the two numbers of a device, while the directory
above them all lacks one of these. -/
structure HubChain (files : FileTree) (base : Location) (bus : UInt8)
    (ports : List UInt8) : Prop where
  settled : files.Settled (nested base bus ports)
  address : ∀ upper, upper <+: ports → ∃ a, (nestedDir base bus upper).address files = .ok a
  top : files.exists? ((Location.path base).child "busnum") = false ∨
    files.exists? ((Location.path base).child "devnum") = false

/-- The path leads to the directory of the device at these ports and ends with its name. -/
structure DeviceDir.LeadsTo (files : FileTree) (base : Location) (bus : UInt8) (ports : List UInt8)
    (d : DeviceDir) : Prop where
  canonical : files.canonical d.path = .ok (nested base bus ports)
  name : d.path.fileName? = some (Utf8.bytes (hubName bus ports))

namespace HubChain

variable {files : FileTree} {base : Location} {bus : UInt8} {ports : List UInt8} {port : UInt8}

/-- Of nested directories, the outer ones are nested. -/
theorem of_append {rest : List UInt8} (hchain : HubChain files base bus (ports ++ rest)) :
    HubChain files base bus ports where
  settled := by
    obtain ⟨lower, hlower⟩ := exists_nested_append base bus ports rest
    have hsettled := hchain.settled
    rw [hlower] at hsettled
    exact hsettled.of_append
  address upper hupper := hchain.address upper (hupper.trans (List.prefix_append ..))
  top := hchain.top

theorem isName (hchain : HubChain files base bus ports) :
    Path.IsName (Utf8.bytes (hubName bus ports)) := by
  obtain ⟨upper, hupper⟩ := exists_nested_eq base bus ports
  exact hchain.settled.isName _ (by rw [hupper]; simp)

/-- The path of the directory itself. -/
theorem leadsTo (hchain : HubChain files base bus ports) :
    (nestedDir base bus ports).LeadsTo files base bus ports where
  canonical := by
    obtain ⟨a, haddress⟩ := hchain.address ports (List.prefix_refl _)
    exact DeviceDir.canonical_of_address hchain.settled haddress
  name := by
    obtain ⟨upper, hupper⟩ := exists_nested_eq base bus ports
    have hnonempty : nested base bus ports ≠ [] := by simp [hupper]
    have hpieces := Location.pieces_path fun name hname =>
      (hchain.settled.isName name hname).slash_not_mem
    have hend : (Location.path (nested base bus ports)).pieces =
        ([] :: upper) ++ [Utf8.bytes (hubName bus ports)] := by
      rw [hpieces, if_neg hnonempty, hupper]
      rfl
    exact Path.fileName?_of_pieces hchain.isName hend

/-- A link of the same name. -/
theorem leadsTo_link (hchain : HubChain files base bus ports) {root : Path}
    (hlink : files.canonical (root.join ⟨Utf8.bytes (hubName bus ports)⟩) =
      .ok (nested base bus ports)) :
    DeviceDir.LeadsTo files base bus ports ⟨root.join ⟨Utf8.bytes (hubName bus ports)⟩⟩ :=
  ⟨hlink, Path.fileName?_join root hchain.isName⟩

end HubChain

namespace DeviceDir.LeadsTo

variable {files : FileTree} {base : Location} {bus : UInt8} {ports : List UInt8} {port : UInt8}
  {d : DeviceDir}

theorem fileName_eq (hd : d.LeadsTo files base bus ports) :
    d.path.fileName = hubName bus ports := by
  rw [Path.fileName, hd.name]
  exact Utf8.lossy_bytes _

theorem port_nil (hd : d.LeadsTo files base bus []) : d.port = .ok 0 := by
  rw [DeviceDir.port, hd.fileName_eq]
  exact portOfName_usb _

theorem port_concat (hd : d.LeadsTo files base bus (ports ++ [port])) : d.port = .ok port := by
  rw [DeviceDir.port, hd.fileName_eq, portOfName_hubName]

/-- No hub is above the root hub. -/
theorem above_nil (hchain : HubChain files base bus []) (hd : d.LeadsTo files base bus []) :
    d.above files = .ok none := by
  rw [above_eq hd.canonical, nested_nil, List.dropLast_concat]
  refine if_neg ?_
  rintro ⟨-, hbusnum, hdevnum⟩
  rcases hchain.top with h | h
  · rw [h] at hbusnum
    cases hbusnum
  · rw [h] at hdevnum
    cases hdevnum

/-- One level up is the directory without the last port. -/
theorem above_concat (hchain : HubChain files base bus (ports ++ [port]))
    (hd : d.LeadsTo files base bus (ports ++ [port])) :
    d.above files = .ok (some (nestedDir base bus ports)) := by
  obtain ⟨a, haddress⟩ := hchain.address ports (List.prefix_append ..)
  rw [above_eq hd.canonical, nested_concat, List.dropLast_concat]
  exact if_pos ⟨by simp, address_exists haddress⟩

end DeviceDir.LeadsTo

namespace HubChain

variable {files : FileTree} {base : Location} {bus : UInt8} {ports : List UInt8} {port : UInt8}
  {d : DeviceDir}

/-- On the way up from a directory, the ports are found from the last to the first, and then that of
the root hub. -/
theorem found_lookDir (hchain : HubChain files base bus ports) {limit : ℕ}
    (hlimit : ports.length < limit) :
    PortPath.found (PortPath.lookDir files) limit (some (nestedDir base bus ports)) =
      ports.reverse ++ [0] := by
  induction ports using List.reverseRecOn generalizing limit with
  | nil =>
    obtain ⟨limit, rfl⟩ := Nat.exists_eq_add_one_of_ne_zero (Nat.ne_of_gt hlimit)
    rw [PortPath.found_some (PortPath.lookDir_eq ..), hchain.leadsTo.port_nil,
      hchain.leadsTo.above_nil hchain]
    exact congrArg _ (PortPath.found_none ..)
  | append_singleton ports port ih =>
    rw [List.length_append, List.length_singleton] at hlimit
    obtain ⟨limit, rfl⟩ :=
      Nat.exists_eq_add_one_of_ne_zero (Nat.ne_of_gt (Nat.zero_lt_of_lt hlimit))
    have hupper := ih hchain.of_append (Nat.lt_of_succ_lt_succ hlimit)
    rw [PortPath.found_some (PortPath.lookDir_eq ..), hchain.leadsTo.port_concat,
      hchain.leadsTo.above_concat hchain, List.reverse_append]
    exact congrArg _ hupper

/-- Of the directories above a device at up to seven ports, the ports are told from the first to the
last. -/
theorem upstream_lookDir (hchain : HubChain files base bus ports)
    (hlength : ports.length < PortPath.maxTiers) (hnonzero : 0 ∉ ports) :
    PortPath.upstream (PortPath.lookDir files) (some (nestedDir base bus ports)) = ports := by
  rw [PortPath.upstream_eq, hchain.found_lookDir hlength, List.reverse_append, List.reverse_reverse]
  have hkeep : ports.filter (fun port => port ≠ 0) = ports := by
    rw [List.filter_eq_self]
    intro port hport
    simpa using fun heq : port = 0 => hnonzero (heq ▸ hport)
  exact hkeep

end HubChain

/-! ## Devices in nested directories -/

namespace HubChain

variable {settings : Settings} {files : FileTree} {base : Location} {bus : UInt8}
  {ports upper : List UInt8} {port : UInt8} {d : DeviceDir}

theorem parent_concat (hchain : HubChain files base bus (upper ++ [port]))
    (hd : d.LeadsTo files base bus (upper ++ [port])) {a : BusAddress}
    (haddress : (nestedDir base bus upper).address files = .ok a) :
    d.parent files = .ok (some a) := by
  rw [DeviceDir.parent, hd.above_concat hchain]
  show ((nestedDir base bus upper).address files).map some = .ok (some a)
  rw [haddress]
  rfl

theorem ofDir_concat (hchain : HubChain files base bus (upper ++ [port]))
    (hlength : upper.length < PortPath.maxTiers) (hnonzero : 0 ∉ upper)
    (hd : d.LeadsTo files base bus (upper ++ [port])) : PortPath.ofDir files d = .ok upper := by
  rw [PortPath.ofDir, hd.above_concat hchain]
  exact congrArg _ (hchain.of_append.upstream_lookDir hlength hnonzero)

section

variable {σ : Type} (ask : Path → Inquiry σ) (tree : Descriptor.DeviceTree) {hints : Hints} (s : σ)
  (hsource : (Assembly.source settings files hints).1 = .directory d)

include hsource

theorem port_assemble (hd : d.LeadsTo files base bus (upper ++ [port])) :
    (Assembly.assemble settings files ask tree hints s).1.device.port = port := by
  rw [(Assembly.assemble_plugged settings files ask tree hints s).port,
    Assembly.assemble_source, hsource]
  show d.port.toOption.getD 0 = port
  rw [hd.port_concat]
  rfl

theorem parent_assemble (hchain : HubChain files base bus (upper ++ [port]))
    (hd : d.LeadsTo files base bus (upper ++ [port])) {a : BusAddress}
    (haddress : (nestedDir base bus upper).address files = .ok a) :
    (Assembly.assemble settings files ask tree hints s).1.device.parent = some a := by
  rw [(Assembly.assemble_plugged settings files ask tree hints s).parent,
    Assembly.assemble_source, hsource, Assembly.upstream_directory,
    hchain.parent_concat hd haddress]
  rfl

/-- The ports of a device are those that name its directory. -/
theorem ports_assemble (hchain : HubChain files base bus ports)
    (hlength : ports.length ≤ PortPath.maxTiers) (hnonzero : 0 ∉ ports)
    (hd : d.LeadsTo files base bus ports) :
    (Assembly.assemble settings files ask tree hints s).1.device.ports = ports := by
  have hplugged := Assembly.assemble_plugged settings files ask tree hints s
  rw [hplugged.ports, hplugged.port, Assembly.assemble_source, hsource, Assembly.upstream_directory]
  show (PortPath.ofDir files d).toOption.getD [] ++
    (if d.port.toOption.getD 0 = 0 then [] else [d.port.toOption.getD 0]) = ports
  induction ports using List.reverseRecOn with
  | nil =>
    rw [PortPath.ofDir_getD, hd.above_nil hchain, hd.port_nil]
    rfl
  | append_singleton upper port =>
    rw [List.length_append, List.length_singleton] at hlength
    rw [List.mem_append, List.mem_singleton, not_or] at hnonzero
    rw [hchain.ofDir_concat hlength hnonzero.1 hd, hd.port_concat]
    exact congrArg (upper ++ ·) (if_neg (Ne.symm hnonzero.2))

/-- Nothing is remarked on the port or the hubs above. -/
theorem topic_assemble (hchain : HubChain files base bus (upper ++ [port]))
    (hlength : upper.length < PortPath.maxTiers) (hnonzero : 0 ∉ upper)
    (hd : d.LeadsTo files base bus (upper ++ [port])) {r : Remark}
    (hr : r ∈ (Assembly.assemble settings files ask tree hints s).1.remarks) :
    r.topic ≠ .port ∧ r.topic ≠ .parent := by
  obtain ⟨a, haddress⟩ := hchain.address upper (List.prefix_append ..)
  rw [← not_or]
  intro htopic
  rcases Assembly.mem_note_of_mem_remarks hr htopic with hport | hup
  · rw [hsource, Source.port, hd.port_concat] at hport
    cases hport
  · rw [hsource, Assembly.upstream, hchain.parent_concat hd haddress,
      hchain.ofDir_concat hlength hnonzero hd] at hup
    cases hup

end

end HubChain

/-- Let the directories of a root hub, of up to six hubs and of a device be nested, each with the
two numbers of a device, and let the directory above them all lack one of these. To each of them,
its own path leads, and so does any link of the same name. The device that is put together from the
innermost one has the last port, the hub of the directory one level up, and the ports that name the
directory; nothing is remarked on its port or the hubs above; and its ports are those of the device
one level up, and then its own port. -/
theorem plug_of_nested (settings : Settings) (files : FileTree) (base : Location) (bus : UInt8)
    (upper : List UInt8) (port : UInt8) (hlength : (upper ++ [port]).length ≤ 7)
    (hnonzero : 0 ∉ upper ++ [port])
    (hchain : HubChain files base bus (upper ++ [port])) :
    (∀ ports, ports <+: upper ++ [port] → (nestedDir base bus ports).LeadsTo files base bus ports ∧
      ∀ root : Path, files.canonical (root.join ⟨Utf8.bytes (hubName bus ports)⟩) =
        .ok (nested base bus ports) →
        DeviceDir.LeadsTo files base bus ports ⟨root.join ⟨Utf8.bytes (hubName bus ports)⟩⟩) ∧
    ∃ hub, (nestedDir base bus upper).address files = .ok hub ∧
      ∀ (σ : Type) (ask : Path → Inquiry σ) (tree : Descriptor.DeviceTree) (hints : Hints) (s : σ)
        (d : DeviceDir),
        (Assembly.source settings files hints).1 = .directory d →
        d.LeadsTo files base bus (upper ++ [port]) →
        ((Assembly.assemble settings files ask tree hints s).1.device.port = port ∧
          (Assembly.assemble settings files ask tree hints s).1.device.parent = some hub ∧
          (Assembly.assemble settings files ask tree hints s).1.device.ports = upper ++ [port]) ∧
        (∀ r ∈ (Assembly.assemble settings files ask tree hints s).1.remarks,
          r.topic ≠ .port ∧ r.topic ≠ .parent) ∧
        ∀ (tree' : Descriptor.DeviceTree) (hints' : Hints) (s' : σ) (d' : DeviceDir),
          (Assembly.source settings files hints').1 = .directory d' →
          d'.LeadsTo files base bus upper →
          (Assembly.assemble settings files ask tree hints s).1.device.ports =
            (Assembly.assemble settings files ask tree' hints' s').1.device.ports ++
              [(Assembly.assemble settings files ask tree hints s).1.device.port] := by
  refine ⟨fun ports hprefix => ?_, ?_⟩
  · obtain ⟨rest, hrest⟩ := hprefix
    rw [← hrest] at hchain
    exact ⟨hchain.of_append.leadsTo, fun root hlink => hchain.of_append.leadsTo_link hlink⟩
  obtain ⟨hub, haddress⟩ := hchain.address upper (List.prefix_append ..)
  have hshort : upper.length < PortPath.maxTiers := by
    rw [List.length_append, List.length_singleton] at hlength
    exact hlength
  have hupper : 0 ∉ upper := fun hmem => hnonzero (List.mem_append_left _ hmem)
  refine ⟨hub, haddress, fun σ ask tree hints s d hsource hd => ?_⟩
  have hport := HubChain.port_assemble ask tree s hsource hd
  have hports := hchain.ports_assemble ask tree s hsource hlength hnonzero hd
  refine ⟨⟨hport, hchain.parent_assemble ask tree s hsource hd haddress, hports⟩,
    fun r hr => hchain.topic_assemble ask tree s hsource hshort hupper hd hr,
    fun tree' hints' s' d' hsource' hd' => ?_⟩
  rw [hports, hport, hchain.of_append.ports_assemble ask tree' s' hsource' hshort.le hupper hd']

/-! ## Two tiers -/

/-- The directories of a root hub, of a hub at its port 1 and of a device at port 2 of that hub,
nested and with a link to the last. -/
def nestedFiles : FileTree :=
  ((((((FileTree.empty []).put (located ["s"]) .dir).putDevice
    (located ["s", "usb1"]) "1\n").putDevice
    (located ["s", "usb1", "1-1"]) "2\n").putDevice
      (located ["s", "usb1", "1-1", "1-1.2"]) "3\n").put
    (located ["s", "1-1.2"]) (.link (Utf8.bytes "usb1/1-1/1-1.2")))

theorem address_nestedFiles :
    (nestedDir (located ["s"]) 1 []).address nestedFiles = .ok ⟨1, 1⟩ ∧
      (nestedDir (located ["s"]) 1 [1]).address nestedFiles = .ok ⟨1, 2⟩ ∧
      (nestedDir (located ["s"]) 1 [1, 2]).address nestedFiles = .ok ⟨1, 3⟩ := by
  refine ⟨?_, ?_, ?_⟩
  · cbv
  · cbv
  · cbv

theorem canonical_nestedFiles :
    nestedFiles.canonical (smallSettings.directoryRoot.join ⟨Utf8.bytes (hubName 1 [1, 2])⟩) =
      .ok (nested (located ["s"]) 1 [1, 2]) := by
  cbv

theorem hubChain_nestedFiles : HubChain nestedFiles (located ["s"]) 1 [1, 2] where
  settled := FileTree.settled_of_canonical canonical_nestedFiles
  address := by
    obtain ⟨hroot, hhub, hdevice⟩ := address_nestedFiles
    intro upper hupper
    have hcases : upper = [] ∨ upper = [1] ∨ upper = [1, 2] := by
      simpa using (List.mem_inits _ _).2 hupper
    rcases hcases with rfl | rfl | rfl
    · exact ⟨_, hroot⟩
    · exact ⟨_, hhub⟩
    · exact ⟨_, hdevice⟩
  top := .inl (by cbv)

/-- What is put together there for these numbers and this directory. -/
def nestedMade (number : UInt8) (dir : Path) : Assembled :=
  (Assembly.assemble smallSettings nestedFiles Inquiry.ofNode Descriptor.smallTree
    ⟨⟨1, number⟩, some dir⟩
    ⟨nestedFiles, grantingKernel, [], 0⟩).1

/-- By the link, the device has port 2, the hub and the ports 1 and 2: the ports of the hub by its
own path, and then its port. -/
theorem plug_of_nested_nestedFiles :
    (nestedMade 3 (.ofText "/s/1-1.2")).device.port = 2 ∧
      (nestedMade 3 (.ofText "/s/1-1.2")).device.parent = some ⟨1, 2⟩ ∧
      (nestedMade 3 (.ofText "/s/1-1.2")).device.ports = [1, 2] ∧
      (nestedMade 3 (.ofText "/s/1-1.2")).device.ports =
        (nestedMade 2 (.ofText "/s/usb1/1-1")).device.ports ++ [2] := by
  have hlink : Path.ofText "/s/1-1.2" =
      smallSettings.directoryRoot.join ⟨Utf8.bytes (hubName 1 [1, 2])⟩ := by cbv
  have hpath : Path.ofText "/s/usb1/1-1" = (nestedDir (located ["s"]) 1 [1]).path := by cbv
  obtain ⟨-, hhub, -⟩ := address_nestedFiles
  obtain ⟨hlead, hub, haddress, hplug⟩ :=
    plug_of_nested smallSettings nestedFiles (located ["s"]) 1 [1] 2
    (by decide) (by decide) hubChain_nestedFiles
  rw [hhub] at haddress
  cases haddress
  have hdevice := (hlead [1, 2] (List.prefix_refl _)).2 _ canonical_nestedFiles
  have hupper := (hlead [1] (List.prefix_append ..)).1
  obtain ⟨⟨hport, hparent, hports⟩, -, htiers⟩ := hplug Host Inquiry.ofNode Descriptor.smallTree
    ⟨⟨1, 3⟩, some (.ofText "/s/1-1.2")⟩ ⟨nestedFiles, grantingKernel, [], 0⟩ _
    (congrArg (Source.directory ⟨·⟩) hlink) hdevice
  have hsame := htiers Descriptor.smallTree ⟨⟨1, 2⟩, some (.ofText "/s/usb1/1-1")⟩
    ⟨nestedFiles, grantingKernel, [], 0⟩ _ (congrArg (Source.directory ⟨·⟩) hpath) hupper
  rw [hport] at hsame
  exact ⟨hport, hparent, hports, hsame⟩

end UsbAccess
