import UsbAccess.Binary64.Basic

/-!
# Speeds

The speed at which a device is attached, as the kernel numbers it and as the attribute of its
directory gives it in megabits per second.
-/

namespace UsbAccess

/-- The speed of a device. -/
inductive Speed where
  | unknown
  | low
  | full
  | high
  | wireless
  | super
  | superPlus
  deriving DecidableEq, Repr

namespace Speed

/-- The speed to which the kernel gives this number. -/
def ofKernel (code : Int) : Speed :=
  if code = 1 then low
  else if code = 2 then full
  else if code = 3 then high
  else if code = 4 then wireless
  else if code = 5 then super
  else if code = 6 then superPlus
  else unknown

/-- One and a half. -/
def threeHalves : Binary64 :=
  .finite false (3 * Binary64.twoTo 51) (-52)

/-- The speed of this many megabits per second: 1.5 is low speed, of any other rate the fraction is
dropped. -/
def ofMbps? (rate : Binary64) : Option Speed :=
  if rate = threeHalves then some low
  else if rate.truncate = 12 then some full
  else if rate.truncate = 480 then some high
  else if rate.truncate = 5000 then some super
  else if rate.truncate = 10000 || rate.truncate = 20000 then some superPlus
  else none

/-- The name of a speed. -/
def name : Speed → String
  | unknown => "Unknown"
  | low => "Low"
  | full => "Full"
  | high => "High"
  | wireless => "Wireless"
  | super => "Super"
  | superPlus => "SuperPlus"

/-- The name and the rate of a speed. -/
def text : Speed → String
  | unknown => "Unknown"
  | low => "Low, 1.5 Mbps"
  | full => "Full, 12 Mbps"
  | high => "High, 480 Mbps"
  | wireless => "Wireless, 480 Mbps"
  | super => "Super, 5 Gbps"
  | superPlus => "Super Plus, 10 Gbps"

end Speed

end UsbAccess
