import Mathlib
import UsbAccess.Assembly.Build

/-!
# The device directories of a file tree

What is read of a file tree while a device is put together: the entries of the root of the device
directories, the attributes in a directory, where it really is, and whether a hub's directory is
above it.

Results:
* `FileTree.SameDirectories.assemble`: where these are the same, a device is put together alike.
-/

namespace UsbAccess

/-- A directory to which the device directories lead: an entry of their root, or the directory above
one. -/
inductive DeviceDir.Shown (files : FileTree) (root : Path) : DeviceDir → Prop
  | entry {names : List Bytes} {name : Bytes} (hnames : files.entriesOf root = .ok names)
      (hname : name ∈ names) : Shown files root ⟨root.join ⟨name⟩⟩
  | above {d hub : DeviceDir} (hd : Shown files root d) (habove : d.above files = .ok (some hub)) :
      Shown files root hub

/-- Both file trees show the same device directories: the same entries of their root, and in each
directory to which these lead the same attributes, and the same location once links are resolved. -/
structure FileTree.SameDirectories (root : Path) (t t' : FileTree) : Prop where
  entries : t'.entriesOf root = t.entriesOf root
  readText : ∀ d, DeviceDir.Shown t root d → ∀ name,
    t'.readText (d.path.child name) = t.readText (d.path.child name)
  canonical : ∀ d, DeviceDir.Shown t root d → t'.canonical d.path = t.canonical d.path
  exists? : ∀ d, DeviceDir.Shown t root d → ∀ l, t.canonical d.path = .ok l → ∀ name,
    t'.exists? ((Location.path l.dropLast).child name) =
      t.exists? ((Location.path l.dropLast).child name)

namespace FileTree.SameDirectories

variable {root : Path} {t t' : FileTree} {d : DeviceDir}

section

variable (hsame : SameDirectories root t t') (hd : DeviceDir.Shown t root d)

include hsame hd

theorem attr (name : String) : d.attr t' name = d.attr t name := by
  unfold DeviceDir.attr
  rw [hsame.readText d hd name]

theorem parsed {α : Type} (name : String) (read? : List Char → Option α) :
    d.parsed t' name read? = d.parsed t name read? := by
  unfold DeviceDir.parsed
  rw [hsame.attr hd name]

theorem speed : d.speed t' = d.speed t := by
  unfold DeviceDir.speed
  rw [hsame.parsed hd]

theorem address : d.address t' = d.address t := by
  have hbus : d.busNumber t' = d.busNumber t := hsame.parsed hd _ _
  have hnumber : d.deviceNumber t' = d.deviceNumber t := hsame.parsed hd _ _
  unfold DeviceDir.address
  rw [hbus, hnumber]

theorem above : d.above t' = d.above t := by
  unfold DeviceDir.above
  rw [hsame.canonical d hd]
  split
  · rfl
  · rfl
  · next location _ hlocation =>
    simp only [hsame.exists? d hd location hlocation]

theorem parent : d.parent t' = d.parent t := by
  unfold DeviceDir.parent
  rw [hsame.above hd]
  split
  · next hub habove => rw [hsame.address (.above hd habove)]
  · rfl
  · rfl

theorem visits (limit : ℕ) :
    PortPath.visits (PortPath.lookDir t') limit (some d) =
      PortPath.visits (PortPath.lookDir t) limit (some d) := by
  induction limit generalizing d with
  | zero => rfl
  | succ limit ih =>
    rw [PortPath.visits, PortPath.visits, PortPath.lookDir, PortPath.lookDir, hsame.above hd]
    simp only
    cases habove : d.above t with
    | error e => rw [Except.toOption, Option.getD_none, PortPath.visits_none, PortPath.visits_none]
    | ok next =>
      rw [Except.toOption, Option.getD_some]
      cases next with
      | none => rw [PortPath.visits_none, PortPath.visits_none]
      | some hub => rw [ih (.above hd habove)]

theorem ofDir : PortPath.ofDir t' d = PortPath.ofDir t d := by
  unfold PortPath.ofDir
  rw [hsame.above hd]
  split
  · next start habove =>
    cases start with
    | none => rfl
    | some hub => 
      unfold PortPath.upstream
      rw [hsame.visits (.above hd habove)]
  · rfl

end

theorem find? (hsame : SameDirectories root t t') (device : BusAddress) :
    DeviceDir.find? t' root device = DeviceDir.find? t root device := by
  unfold DeviceDir.find?
  rw [hsame.entries]
  split
  · next names hnames =>
    rw [List.find?_map, List.find?_map]
    congr 1
    refine List.find?_congr fun name hname => ?_
    rw [Function.comp_apply, Function.comp_apply, hsame.address (.entry hnames hname)]
  · rfl

theorem shown_of_find? {device : BusAddress} (hfind : DeviceDir.find? t root device = some d) :
    DeviceDir.Shown t root d := by
  unfold DeviceDir.find? at hfind
  split at hfind
  · next names hnames =>
    obtain ⟨name, hname, rfl⟩ := List.mem_map.1 (List.mem_of_find?_eq_some hfind)
    exact .entry hnames hname
  · cases hfind

theorem source (settings : Settings) (hsame : SameDirectories settings.directoryRoot t t')
    (device : BusAddress) :
    Assembly.source settings t' ⟨device, none⟩ = Assembly.source settings t ⟨device, none⟩ ∧
      ∀ dir, (Assembly.source settings t ⟨device, none⟩).1 = .directory dir →
        DeviceDir.Shown t settings.directoryRoot dir := by
  unfold Assembly.source
  simp only [hsame.find? device]
  refine ⟨trivial, fun dir hdir => ?_⟩
  cases hfind : DeviceDir.find? t settings.directoryRoot device with
  | none =>
    rw [hfind] at hdir
    cases hdir
  | some found =>
    rw [hfind] at hdir
    cases hdir
    exact shown_of_find? hfind

/-- A device is put together alike where the same device directories are shown. -/
theorem assemble {σ : Type} (settings : Settings)
    (hsame : SameDirectories settings.directoryRoot t t') (ask : Path → Inquiry σ)
    (tree : Descriptor.DeviceTree) (device : BusAddress) :
    Assembly.assemble settings t' ask tree ⟨device, none⟩ =
      Assembly.assemble settings t ask tree ⟨device, none⟩ := by
  obtain ⟨hsource, hshown⟩ := source settings hsame device
  unfold Assembly.assemble
  rw [hsource]
  generalize Assembly.source settings t ⟨device, none⟩ = found at hshown
  obtain ⟨source, remarks⟩ := found
  cases source with
  | node => rfl
  | directory dir =>
    have hd : DeviceDir.Shown t settings.directoryRoot dir := hshown dir rfl
    have hattr : ∀ name, dir.attr t' name = dir.attr t name := hsame.attr hd
    have hnumber : ∀ name, dir.number t' name = dir.number t name :=
      fun name => hsame.parsed hd name _
    simp only [Assembly.deviceNumber, Assembly.busNumber, Assembly.upstream, Source.deviceNumber,
      Source.busNumber, Source.vendorName, Source.productName, Source.activeConfiguration,
      Source.speed,
      DeviceDir.deviceNumber, DeviceDir.busNumber, DeviceDir.manufacturer, DeviceDir.product,
      DeviceDir.activeConfiguration, hattr, hnumber, hsame.speed hd, hsame.parent hd,
      hsame.ofDir hd]

end FileTree.SameDirectories

end UsbAccess
