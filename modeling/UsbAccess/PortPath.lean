import UsbAccess.DeviceDir

/-!
# Port paths

The ports on the way from the root hub down to a device. The way is found upwards, from hub to hub,
and seven hubs at most are visited, so that it ends in a chain without an end too.

Results:
* `length_visits_le`: at most seven hubs are visited.
* `length_upstream_le`: a way has seven ports at most.
* `zero_not_mem_upstream`: a way has no port 0.
-/

namespace UsbAccess.PortPath

/-- The tiers that a device can be below its root hub. -/
def maxTiers : Nat := 7

variable {κ : Type}

/-- The hubs visited on the way up from `start`, each with what `look` finds there: the hub's port
and the next hub. The way ends at `limit` hubs, at a hub that `look` does not know, or at the last
hub. -/
def visits (look : κ → Option (UInt8 × Option κ)) :
    Nat → Option κ → List (κ × Option (UInt8 × Option κ))
  | 0, _ => []
  | _ + 1, none => []
  | limit + 1, some hub =>
    match look hub with
    | none => [(hub, none)]
    | some (port, next) => (hub, some (port, next)) :: visits look limit next

/-- The ports of the hubs above a device, that of the highest hub first. Root hubs have no port. -/
def upstream (look : κ → Option (UInt8 × Option κ)) (start : Option κ) : List UInt8 :=
  (((visits look maxTiers start).filterMap Prod.snd).map Prod.fst).reverse.filter fun port =>
    port ≠ 0

/-- The port of a hub's directory and the directory above it; where one of them cannot be told, port
0 and no directory. -/
def lookDir (files : FileTree) (hub : DeviceDir) : Option (UInt8 × Option DeviceDir) :=
  some (hub.port.toOption.getD 0, ((hub.above files).toOption).getD none)

/-- The ports of the hubs above the device of a directory. -/
def ofDir (files : FileTree) (d : DeviceDir) : Except Error (List UInt8) :=
  match d.above files with
  | .ok start => .ok (upstream (lookDir files) start)
  | .error e => .error e

/-! ## Laws -/

theorem visits_none (look : κ → Option (UInt8 × Option κ)) (limit : Nat) :
    visits look limit none = [] := by
  cases limit <;> rfl

theorem length_visits_le (look : κ → Option (UInt8 × Option κ)) (limit : Nat) (start : Option κ) :
    (visits look limit start).length ≤ limit := by
  fun_induction visits look limit start with
  | case1 => simp
  | case2 => simp
  | case3 => simp
  | case4 limit hub port next _ ih => simpa using ih

theorem length_upstream_le (look : κ → Option (UInt8 × Option κ)) (start : Option κ) :
    (upstream look start).length ≤ maxTiers := by
  have hfilter := List.length_filter_le (fun port : UInt8 => port ≠ 0)
    (((visits look maxTiers start).filterMap Prod.snd).map Prod.fst).reverse
  have hmap := List.length_filterMap_le Prod.snd (visits look maxTiers start)
  have hvisits := length_visits_le look maxTiers start
  simp only [List.length_reverse, List.length_map] at hfilter
  unfold upstream
  omega

theorem zero_not_mem_upstream (look : κ → Option (UInt8 × Option κ)) (start : Option κ) :
    0 ∉ upstream look start := by
  simp [upstream]

end UsbAccess.PortPath
