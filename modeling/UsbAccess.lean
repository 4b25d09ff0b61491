import UsbAccess.Assembly.Build
import UsbAccess.Assembly.Placement
import UsbAccess.Assembly.Remark
import UsbAccess.Binary64.Basic
import UsbAccess.Binary64.Reader
import UsbAccess.Binary64.Shortest
import UsbAccess.BusAddress
import UsbAccess.Bytes
import UsbAccess.Claim
import UsbAccess.Descriptor.Fault
import UsbAccess.Descriptor.Printer
import UsbAccess.Descriptor.Record
import UsbAccess.Descriptor.Stream
import UsbAccess.Descriptor.Tree
import UsbAccess.Device.Basic
import UsbAccess.Device.Control
import UsbAccess.DeviceDir
import UsbAccess.DeviceText
import UsbAccess.Document.Basic
import UsbAccess.Document.Descriptor
import UsbAccess.Document.Device
import UsbAccess.Endpoint
import UsbAccess.Errno.Basic
import UsbAccess.Errno.Table
import UsbAccess.Error
import UsbAccess.Files.Path
import UsbAccess.Files.Tree
import UsbAccess.Host.Basic
import UsbAccess.Host.Node
import UsbAccess.Host.Request
import UsbAccess.Interface
import UsbAccess.Inventory
import UsbAccess.PortPath
import UsbAccess.Proofs.Beside
import UsbAccess.Proofs.ClaimLedger
import UsbAccess.Proofs.Course
import UsbAccess.Proofs.DriverBinding
import UsbAccess.Proofs.Places
import UsbAccess.Proofs.RecordStream
import UsbAccess.Proofs.RecordTree
import UsbAccess.Proofs.Run
import UsbAccess.Proofs.Trace
import UsbAccess.Registry
import UsbAccess.Script.Device
import UsbAccess.Script.Kernel
import UsbAccess.Settings
import UsbAccess.Source
import UsbAccess.Speed
import UsbAccess.Text.Blank
import UsbAccess.Text.Hidden
import UsbAccess.Text.Numeral
import UsbAccess.Text.Outline
import UsbAccess.Text.Quoted
import UsbAccess.Text.Utf16
import UsbAccess.Text.Utf8
import UsbAccess.Transfer
import UsbAccess.Proofs.Survey
import UsbAccess.Proofs.Directories
import UsbAccess.Proofs.Isolation
import UsbAccess.Proofs.Parts
import UsbAccess.Proofs.Locations
import UsbAccess.Proofs.UpstreamPorts
import UsbAccess.Proofs.Remarks
import UsbAccess.Proofs.NestedHubs
import UsbAccess.Proofs.Keeping
import UsbAccess.Proofs.Watching
import UsbAccess.Proofs.Program
import UsbAccess.Proofs.Membership
import UsbAccess.Proofs.Writing
import UsbAccess.Proofs.Selection
import UsbAccess.Proofs.Tiers
import UsbAccess.Proofs.Alternates
import UsbAccess.Proofs.SharedRegistry
import UsbAccess.Proofs.Traps
import UsbAccess.Proofs.CheckedRecords
import UsbAccess.Proofs.CheckedDevices
import UsbAccess.Proofs.Readings
import UsbAccess.Proofs.Layout
import UsbAccess.Proofs.Failures
import UsbAccess.Proofs.Reopening
import UsbAccess.Proofs.Ascent
import UsbAccess.Proofs.QuietTransfers
import UsbAccess.Proofs.TextRecords
import UsbAccess.Proofs.ChosenDevices
import UsbAccess.Proofs.Contenders
import UsbAccess.Proofs.TransferLength
import UsbAccess.Proofs.EndpointLookup
import UsbAccess.Proofs.Absence
import UsbAccess.Proofs.Numerals
import UsbAccess.Proofs.NodeNames
