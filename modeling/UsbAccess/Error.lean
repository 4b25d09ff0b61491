import UsbAccess.BusAddress
import UsbAccess.Descriptor.Fault
import UsbAccess.Errno.Basic

/-!
# Errors

Everything that can go wrong, as causes, and the wording of each.
-/

namespace UsbAccess

open Text

/-- The direction of data, seen from the host. -/
inductive Direction where
  | out
  | into
  deriving DecidableEq, Repr

/-- The name of a direction. -/
def Direction.name : Direction → String
  | out => "OUT"
  | into => "IN"

/-- Why a device cannot do now what it is asked to do. -/
inductive StateFault where
  /-- The device is not open. -/
  | notOpen (device : BusAddress)
  /-- The device has no active configuration. -/
  | unconfigured (device : BusAddress)
  /-- The driver of an interface is asked for and there is no active configuration. -/
  | noDriverConfiguration
  /-- The active configuration has no interfaces. -/
  | noInterfaces (configuration : UInt8)
  /-- The interface has not been claimed. -/
  | notClaimed (interface : UInt8)
  /-- A cause given in words. -/
  | described (text : String)
  deriving DecidableEq, Repr

/-- What is wrong with an argument. -/
inductive ArgumentFault where
  /-- The active configuration has only `count` interfaces. -/
  | interfaceRange (interface : UInt8) (count : Nat)
  /-- The device has only `count` configurations, and they are numbered from 1. -/
  | configurationRange (value : UInt8) (count : Nat)
  /-- The configuration has no endpoint of this address. -/
  | noEndpoint (address : UInt8) (configuration : UInt8)
  /-- The interface has no endpoint of this direction. -/
  | noDirection (direction : Direction) (interface : UInt8)
  /-- The address is not one of this direction. -/
  | addressDirection (address : UInt8) (direction : Direction)
  /-- A transfer in this direction is not possible at the endpoint. -/
  | transferDirection (address : UInt8) (direction : Direction)
  /-- The endpoint carries transfers of another type. -/
  | notBulk (address : UInt8) (transferType : UInt8)
  /-- The device's directory has none for this interface. -/
  | noInterfaceDir (interface configuration : UInt8) (dir : String)
  /-- A fault given in words. -/
  | described (text : String)
  deriving DecidableEq, Repr

/-- Why a file cannot be read or written. -/
inductive FileFault where
  /-- The operating system refuses. -/
  | refused (errno : Errno)
  /-- The path has a zero byte in it, at which it would end. -/
  | zeroInPath
  /-- The file holds bytes that are no text. -/
  | notText
  /-- A cause given in words. -/
  | described (text : String)
  deriving DecidableEq, Repr

/-- What can go wrong. -/
inductive Error where
  /-- There is no such device. -/
  | notFound
  /-- The device is in the wrong state. -/
  | invalidState (fault : StateFault)
  /-- An argument is wrong. -/
  | invalidArgument (fault : ArgumentFault)
  /-- The kernel refuses a request other than a transfer. -/
  | kernel (operation : String) (errno : Errno)
  /-- A transfer fails after this many bytes. -/
  | transfer (endpoint : UInt8) (transferred : Nat) (errno : Errno)
  /-- The operation has been given up. -/
  | cancelled
  /-- The source of a device's data cannot tell this. -/
  | unsupported (what : String)
  /-- The device's descriptors are malformed. -/
  | invalidDescriptor (fault : Descriptor.Fault)
  /-- An attribute does not hold what it should. -/
  | parse (field value : String)
  /-- A registry is to close while devices are open. -/
  | devicesStillOpen (count : Nat)
  /-- A file cannot be accessed. -/
  | io (fault : FileFault)
  deriving DecidableEq, Repr

/-! ## Wording -/

/-- The wording of a fault of the state. -/
def StateFault.message : StateFault → String
  | notOpen device => "device " ++ device.text ++ " is not open"
  | unconfigured device => "device " ++ device.text ++ " has no active configuration"
  | noDriverConfiguration => "device has no active configuration"
  | noInterfaces configuration =>
    "configuration " ++ configuration.toNat.repr ++ " has no interfaces"
  | notClaimed interface => "interface " ++ interface.toNat.repr ++ " is not claimed"
  | described text => text

/-- The wording of a fault of an argument. -/
def ArgumentFault.message : ArgumentFault → String
  | interfaceRange interface count =>
    "interface " ++ interface.toNat.repr ++ " out of range, available 0 to " ++ (count - 1).repr
  | configurationRange value count =>
    "configuration " ++ value.toNat.repr ++ " out of range, device has " ++ count.repr
  | noEndpoint address configuration =>
    "no endpoint 0x" ++ hexCapital 2 address.toNat ++ " in configuration " ++
      configuration.toNat.repr
  | noDirection direction interface =>
    "no " ++ direction.name ++ " endpoint found in interface " ++ interface.toNat.repr
  | addressDirection address direction =>
    "endpoint address 0x" ++ hexCapital 2 address.toNat ++ " is not an " ++
      direction.name ++ " endpoint"
  | transferDirection address direction =>
    "endpoint 0x" ++ hexCapital 2 address.toNat ++ " is not an " ++ direction.name ++ " endpoint"
  | notBulk address transferType =>
    "endpoint 0x" ++ hexCapital 2 address.toNat ++ " has transfer type " ++
      transferType.toNat.repr ++
      ", not bulk"
  | noInterfaceDir interface configuration dir =>
    "no interface " ++ interface.toNat.repr ++ " in configuration " ++
      configuration.toNat.repr ++ " of " ++
      dir
  | described text => text

/-- The wording of a fault of a file. -/
def FileFault.message : FileFault → String
  | refused errno => errno.report
  | zeroInPath => "file name contained an unexpected NUL byte"
  | notText => "stream did not contain valid UTF-8"
  | described text => text

/-- The wording of an error. -/
def Error.message : Error → String
  | notFound => "usb: device not found"
  | invalidState fault => "usb: " ++ fault.message
  | invalidArgument fault => "usb: " ++ fault.message
  | kernel operation errno => "usb: " ++ operation ++ " failed: " ++ errno.describe
  | transfer endpoint transferred errno =>
    "usb: bulk transfer on endpoint 0x" ++ hexCapital 2 endpoint.toNat ++ " failed after " ++
      transferred.repr ++ " bytes: " ++ errno.describe
  | cancelled => "usb: operation cancelled"
  | unsupported what => "usb: " ++ what ++ " is not available from this data source"
  | invalidDescriptor fault => "usb: invalid descriptor: " ++ fault.message
  | parse field value => "usb: could not parse attribute '" ++ field ++ "': " ++ quoted value
  | devicesStillOpen count =>
    "usb: context closed while " ++ count.repr ++
      " devices are still open, close every device first"
  | io fault => "usb: " ++ fault.message

/-- The code of the operating system's failure behind the error. -/
def Error.errno? : Error → Option Int
  | kernel _ errno => some errno.code
  | transfer _ _ errno => some errno.code
  | io (.refused errno) => some errno.code
  | _ => none

/-- The wording of the failure behind the error. -/
def Error.cause? : Error → Option String
  | kernel _ errno => some errno.describe
  | transfer _ _ errno => some errno.describe
  | io fault => some fault.message
  | _ => none

end UsbAccess
