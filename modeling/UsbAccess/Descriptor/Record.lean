import UsbAccess.Bytes

/-!
# Descriptor records

The records in which a USB device describes itself: each begins with its length and its kind, and
the four kinds that describe the device's structure have a fixed layout of 18, 9, 9 and 7 bytes.
Bytes beyond the layout are ignored.

Results:
* `DeviceRecord.read?_bytes` and its three companions: what is read is what is in the bytes.
* `DeviceRecord.eq_bytes_append` and its three companions: nothing else is read.
* `ofBytes?_eq_none_iff`: the only bytes that are no record are those shorter than their kind's
  layout.
-/

namespace UsbAccess.Descriptor

/-! ## Kinds -/

/-- The kind of a device record. -/
def deviceKind : UInt8 := 1

/-- The kind of a configuration record. -/
def configurationKind : UInt8 := 2

/-- The kind of a text record. -/
def textKind : UInt8 := 3

/-- The kind of an interface record. -/
def interfaceKind : UInt8 := 4

/-- The kind of an endpoint record. -/
def endpointKind : UInt8 := 5

/-! ## Layouts -/

/-- The device as a whole. Releases are binary coded decimals, texts are given by their indices. -/
structure DeviceRecord where
  length : UInt8
  kind : UInt8
  usbRelease : UInt16
  deviceClass : UInt8
  subclass : UInt8
  protocol : UInt8
  controlPacketSize : UInt8
  vendor : UInt16
  product : UInt16
  release : UInt16
  manufacturerText : UInt8
  productText : UInt8
  serialText : UInt8
  configurationCount : UInt8
  deriving DecidableEq, Repr

/-- One configuration; its power draw is given in units of 2 mA. -/
structure ConfigurationRecord where
  length : UInt8
  kind : UInt8
  totalLength : UInt16
  interfaceCount : UInt8
  value : UInt8
  text : UInt8
  attributes : UInt8
  power : UInt8
  deriving DecidableEq, Repr

/-- One alternate setting of an interface. -/
structure InterfaceRecord where
  length : UInt8
  kind : UInt8
  number : UInt8
  alternate : UInt8
  endpointCount : UInt8
  interfaceClass : UInt8
  subclass : UInt8
  protocol : UInt8
  text : UInt8
  deriving DecidableEq, Repr

/-- One endpoint. -/
structure EndpointRecord where
  length : UInt8
  kind : UInt8
  address : UInt8
  attributes : UInt8
  maxPacketSize : UInt16
  interval : UInt8
  deriving DecidableEq, Repr

/-- The device record at the start of the bytes, and what follows it. -/
def DeviceRecord.read? : Bytes → Option (DeviceRecord × Bytes)
  | length :: kind :: usb₀ :: usb₁ :: deviceClass :: subclass :: protocol :: size ::
      vendor₀ :: vendor₁ ::
      product₀ :: product₁ :: release₀ :: release₁ :: manufacturerText :: productText ::
        serialText ::
      configurationCount :: rest =>
    some (⟨length, kind, Bytes.word usb₀ usb₁, deviceClass, subclass, protocol, size,
      Bytes.word vendor₀ vendor₁, Bytes.word product₀ product₁, Bytes.word release₀ release₁,
      manufacturerText, productText, serialText, configurationCount⟩, rest)
  | _ => none

/-- The configuration record at the start of the bytes, and what follows it. -/
def ConfigurationRecord.read? : Bytes → Option (ConfigurationRecord × Bytes)
  | length :: kind :: total₀ :: total₁ :: interfaceCount :: value :: text :: attributes ::
      power :: rest =>
    some (⟨length, kind, Bytes.word total₀ total₁, interfaceCount, value, text, attributes, power⟩,
      rest)
  | _ => none

/-- The interface record at the start of the bytes, and what follows it. -/
def InterfaceRecord.read? : Bytes → Option (InterfaceRecord × Bytes)
  | length :: kind :: number :: alternate :: endpointCount :: interfaceClass ::
      subclass :: protocol ::
      text :: rest =>
    some (⟨length, kind, number, alternate, endpointCount, interfaceClass, subclass, protocol,
      text⟩, rest)
  | _ => none

/-- The endpoint record at the start of the bytes, and what follows it. -/
def EndpointRecord.read? : Bytes → Option (EndpointRecord × Bytes)
  | length :: kind :: address :: attributes :: size₀ :: size₁ :: interval :: rest =>
    some (⟨length, kind, address, attributes, Bytes.word size₀ size₁, interval⟩, rest)
  | _ => none

/-- The bytes of a device record. -/
def DeviceRecord.bytes (r : DeviceRecord) : Bytes :=
  [r.length, r.kind, Bytes.low r.usbRelease, Bytes.high r.usbRelease, r.deviceClass, r.subclass,
    r.protocol, r.controlPacketSize, Bytes.low r.vendor, Bytes.high r.vendor, Bytes.low r.product,
    Bytes.high r.product, Bytes.low r.release, Bytes.high r.release, r.manufacturerText,
    r.productText,
    r.serialText, r.configurationCount]

/-- The bytes of a configuration record. -/
def ConfigurationRecord.bytes (r : ConfigurationRecord) : Bytes :=
  [r.length, r.kind, Bytes.low r.totalLength, Bytes.high r.totalLength, r.interfaceCount,
    r.value, r.text, r.attributes, r.power]

/-- The bytes of an interface record. -/
def InterfaceRecord.bytes (r : InterfaceRecord) : Bytes :=
  [r.length, r.kind, r.number, r.alternate, r.endpointCount, r.interfaceClass,
    r.subclass, r.protocol, r.text]

/-- The bytes of an endpoint record. -/
def EndpointRecord.bytes (r : EndpointRecord) : Bytes :=
  [r.length, r.kind, r.address, r.attributes, Bytes.low r.maxPacketSize, Bytes.high r.maxPacketSize,
    r.interval]

/-! ## Attributes -/

/-- Bit 6 of a configuration's attributes. -/
def selfPoweredBit : UInt8 := 0x40

/-- Bit 5 of a configuration's attributes. -/
def remoteWakeupBit : UInt8 := 0x20

/-- The two low bits of an endpoint's attributes. -/
def transferTypeMask : UInt8 := 0x03

/-- The configuration does not draw its power from the bus alone. -/
def ConfigurationRecord.selfPowered (r : ConfigurationRecord) : Bool :=
  r.attributes &&& selfPoweredBit != 0

/-- The device can wake the host in this configuration. -/
def ConfigurationRecord.remoteWakeup (r : ConfigurationRecord) : Bool :=
  r.attributes &&& remoteWakeupBit != 0

/-- The kind of transfer. -/
def EndpointRecord.transferType (r : EndpointRecord) : UInt8 :=
  r.attributes &&& transferTypeMask

/-! ## Records of any kind -/

/-- A record. One that holds text keeps what follows its length and kind, one of another kind keeps
all its bytes. -/
inductive Record where
  | device (record : DeviceRecord)
  | configuration (record : ConfigurationRecord)
  | text (content : Bytes)
  | interface (record : InterfaceRecord)
  | endpoint (record : EndpointRecord)
  | other (kind : UInt8) (bytes : Bytes)
  deriving DecidableEq, Repr

/-- The bytes that a record of this kind needs. -/
def layoutSize (kind : UInt8) : Nat :=
  if kind = deviceKind then 18
  else if kind = configurationKind then 9
  else if kind = interfaceKind then 9
  else if kind = endpointKind then 7
  else 2

/-- The record that `bytes`, as long as its first byte says, is. -/
def Record.ofBytes? (bytes : Bytes) : Option Record :=
  match bytes with
  | _ :: kind :: content =>
    if kind = deviceKind then (DeviceRecord.read? bytes).map fun r => .device r.1
    else if kind = configurationKind then (ConfigurationRecord.read? bytes).map fun r =>
      .configuration r.1
    else if kind = textKind then some (.text content)
    else if kind = interfaceKind then (InterfaceRecord.read? bytes).map fun r => .interface r.1
    else if kind = endpointKind then (EndpointRecord.read? bytes).map fun r => .endpoint r.1
    else some (.other kind bytes)
  | _ => none

/-! ## Laws -/

theorem DeviceRecord.read?_bytes (r : DeviceRecord) (rest : Bytes) :
    DeviceRecord.read? (r.bytes ++ rest) = some (r, rest) := by
  simp [bytes, DeviceRecord.read?, Bytes.word_low_high]

theorem ConfigurationRecord.read?_bytes (r : ConfigurationRecord) (rest : Bytes) :
    ConfigurationRecord.read? (r.bytes ++ rest) = some (r, rest) := by
  simp [bytes, ConfigurationRecord.read?, Bytes.word_low_high]

theorem InterfaceRecord.read?_bytes (r : InterfaceRecord) (rest : Bytes) :
    InterfaceRecord.read? (r.bytes ++ rest) = some (r, rest) := by
  simp [bytes, InterfaceRecord.read?]

theorem EndpointRecord.read?_bytes (r : EndpointRecord) (rest : Bytes) :
    EndpointRecord.read? (r.bytes ++ rest) = some (r, rest) := by
  simp [bytes, EndpointRecord.read?, Bytes.word_low_high]

theorem DeviceRecord.eq_bytes_append {bs rest : Bytes} {r : DeviceRecord}
    (h : DeviceRecord.read? bs = some (r, rest)) : bs = r.bytes ++ rest := by
  unfold DeviceRecord.read? at h
  split at h
  · cases h; simp [bytes, Bytes.low_word, Bytes.high_word]
  · cases h

theorem ConfigurationRecord.eq_bytes_append {bs rest : Bytes} {r : ConfigurationRecord}
    (h : ConfigurationRecord.read? bs = some (r, rest)) : bs = r.bytes ++ rest := by
  unfold ConfigurationRecord.read? at h
  split at h
  · cases h; simp [bytes, Bytes.low_word, Bytes.high_word]
  · cases h

theorem InterfaceRecord.eq_bytes_append {bs rest : Bytes} {r : InterfaceRecord}
    (h : InterfaceRecord.read? bs = some (r, rest)) : bs = r.bytes ++ rest := by
  unfold InterfaceRecord.read? at h
  split at h
  · cases h; simp [bytes]
  · cases h

theorem EndpointRecord.eq_bytes_append {bs rest : Bytes} {r : EndpointRecord}
    (h : EndpointRecord.read? bs = some (r, rest)) : bs = r.bytes ++ rest := by
  unfold EndpointRecord.read? at h
  split at h
  · cases h; simp [bytes, Bytes.low_word, Bytes.high_word]
  · cases h

theorem DeviceRecord.read?_eq_none_iff (bs : Bytes) :
    DeviceRecord.read? bs = none ↔ bs.length < 18 := by
  unfold DeviceRecord.read?
  split
  · simp
  · next h =>
    simp only [true_iff]
    match bs with
    | [] | [_] | [_, _] | [_, _, _] | [_, _, _, _] | [_, _, _, _, _] | [_, _, _, _, _, _]
    | [_, _, _, _, _, _, _] | [_, _, _, _, _, _, _, _] | [_, _, _, _, _, _, _, _, _]
    | [_, _, _, _, _, _, _, _, _, _] | [_, _, _, _, _, _, _, _, _, _, _]
    | [_, _, _, _, _, _, _, _, _, _, _, _] | [_, _, _, _, _, _, _, _, _, _, _, _, _]
    | [_, _, _, _, _, _, _, _, _, _, _, _, _, _] | [_, _, _, _, _, _, _, _, _, _, _, _, _, _, _]
    | [_, _, _, _, _, _, _, _, _, _, _, _, _, _, _, _]
    | [_, _, _, _, _, _, _, _, _, _, _, _, _, _, _, _, _] => simp
    | _ :: _ :: _ :: _ :: _ :: _ :: _ :: _ :: _ :: _ :: _ :: _ :: _ :: _ :: _ :: _ :: _ :: _ :: _ =>
      exact absurd rfl (h _ _ _ _ _ _ _ _ _ _ _ _ _ _ _ _ _ _ _)

theorem ConfigurationRecord.read?_eq_none_iff (bs : Bytes) :
    ConfigurationRecord.read? bs = none ↔ bs.length < 9 := by
  unfold ConfigurationRecord.read?
  split
  · simp
  · next h =>
    simp only [true_iff]
    match bs with
    | [] | [_] | [_, _] | [_, _, _] | [_, _, _, _] | [_, _, _, _, _] | [_, _, _, _, _, _]
    | [_, _, _, _, _, _, _] | [_, _, _, _, _, _, _, _] => simp
    | _ :: _ :: _ :: _ :: _ :: _ :: _ :: _ :: _ :: _ => exact absurd rfl (h _ _ _ _ _ _ _ _ _ _)

theorem InterfaceRecord.read?_eq_none_iff (bs : Bytes) :
    InterfaceRecord.read? bs = none ↔ bs.length < 9 := by
  unfold InterfaceRecord.read?
  split
  · simp
  · next h =>
    simp only [true_iff]
    match bs with
    | [] | [_] | [_, _] | [_, _, _] | [_, _, _, _] | [_, _, _, _, _] | [_, _, _, _, _, _]
    | [_, _, _, _, _, _, _] | [_, _, _, _, _, _, _, _] => simp
    | _ :: _ :: _ :: _ :: _ :: _ :: _ :: _ :: _ :: _ => exact absurd rfl (h _ _ _ _ _ _ _ _ _ _)

theorem EndpointRecord.read?_eq_none_iff (bs : Bytes) :
    EndpointRecord.read? bs = none ↔ bs.length < 7 := by
  unfold EndpointRecord.read?
  split
  · simp
  · next h =>
    simp only [true_iff]
    match bs with
    | [] | [_] | [_, _] | [_, _, _] | [_, _, _, _] | [_, _, _, _, _] | [_, _, _, _, _, _] => simp
    | _ :: _ :: _ :: _ :: _ :: _ :: _ :: _ => exact absurd rfl (h _ _ _ _ _ _ _ _)

theorem Record.ofBytes?_eq_none_iff (length kind : UInt8) (content : Bytes) :
    Record.ofBytes? (length :: kind :: content) = none ↔ content.length + 2 < layoutSize kind := by
  simp only [Record.ofBytes?, layoutSize]
  by_cases hd : kind = deviceKind
  · simp [hd, DeviceRecord.read?_eq_none_iff]
  by_cases hc : kind = configurationKind
  · rw [if_neg hd, if_neg hd, if_pos hc, if_pos hc]
    simp [ConfigurationRecord.read?_eq_none_iff]
  by_cases ht : kind = textKind
  · subst ht
    simp +decide
  by_cases hi : kind = interfaceKind
  · rw [if_neg hd, if_neg hd, if_neg hc, if_neg hc, if_neg ht, if_pos hi, if_pos hi]
    simp [InterfaceRecord.read?_eq_none_iff]
  by_cases he : kind = endpointKind
  · rw [if_neg hd, if_neg hd, if_neg hc, if_neg hc, if_neg ht, if_neg hi, if_neg hi,
      if_pos he, if_pos he]
    simp [EndpointRecord.read?_eq_none_iff]
  · simp [hd, hc, ht, hi, he]

end UsbAccess.Descriptor
