import Mathlib
import UsbAccess.Proofs.Isolation

/-!
# Texts of devices

A device hands out its texts in records: a length, a kind, and the units of the text with the low
byte first. The kernel counts the bytes of an answer too, the two lengths need not agree, and one
buffer serves both requests. What comes out is told by the bytes of the second answer alone.

Results:
* `Text.Utf16.decode_append`: units are read side by side, unless a pair is cut in two.
* `Text.Utf16.decode_append_lone`: half a pair is one replacement character, whatever stands beside
  it.
* `Text.Utf16.spells_iff`: units are read as the only text that they write.
* `DeviceText.decode_eq_ok_iff`: the text of a record.
* `DeviceText.carries_encode`: the record that hands out units has these units.
* `Handle.text_of_answers`: nothing of the first answer is left in the text.
* `Handle.text_told`: which requests are made for a text, and what it is.
-/

namespace UsbAccess

namespace Text.Utf16

/-- `units` write `text`: a character by its unit or its pair, and half a pair without the other
half is read as one replacement character. -/
inductive Spells : List UInt16 → List Char → Prop
  | nil : Spells [] []
  | char (c : Char) {units : List UInt16} {text : List Char} (hrest : Spells units text) :
      Spells (encodeChar c ++ units) (c :: text)
  | lone {u : UInt16} {units : List UInt16} {text : List Char} (hhalf : isHigh u ∨ isLow u)
      (halone : isHigh u → ∀ v ∈ units.head?, ¬ isLow v) (hrest : Spells units text) :
      Spells (u :: units) (replacement :: text)

/-- `u` is half a pair, and the other half is neither the last unit of `before` nor the first one of
`after`. -/
def Lone (before : List UInt16) (u : UInt16) (after : List UInt16) : Prop :=
  (isHigh u ∨ isLow u) ∧ (isLow u → ∀ v ∈ before.getLast?, ¬ isHigh v) ∧
    (isHigh u → ∀ v ∈ after.head?, ¬ isLow v)

theorem isHigh_iff {u : UInt16} : isHigh u ↔ 0xd800 ≤ u.toNat ∧ u.toNat ≤ 0xdbff := by
  simp [isHigh, UInt16.le_iff_toNat_le]

theorem isLow_iff {u : UInt16} : isLow u ↔ 0xdc00 ≤ u.toNat ∧ u.toNat ≤ 0xdfff := by
  simp [isLow, UInt16.le_iff_toNat_le]

/-! ## One character -/

/-- A character is written by one unit, which is no half of a pair, or by a pair. -/
theorem encodeChar_cases (c : Char) :
    (∃ u, encodeChar c = [u] ∧ ¬ isHigh u ∧ ¬ isLow u ∧ Char.ofNat u.toNat = c) ∨
      ∃ high low, encodeChar c = [high, low] ∧ isHigh high ∧ isLow low ∧ pair high low = c := by
  have hvalid : c.toNat.isValidChar := c.valid
  rw [encodeChar]
  split_ifs with hsmall
  · refine .inl ⟨_, rfl, ?_, ?_, ?_⟩
    · rw [isHigh_iff, UInt16.toNat_ofNat_of_lt' hsmall]
      unfold Nat.isValidChar at hvalid
      omega
    · rw [isLow_iff, UInt16.toNat_ofNat_of_lt' hsmall]
      unfold Nat.isValidChar at hvalid
      omega
    · rw [UInt16.toNat_ofNat_of_lt' hsmall, Char.ofNat_toNat]
  · have hbound : c.toNat < 0x110000 := by
      unfold Nat.isValidChar at hvalid
      omega
    have hhigh : 0xd800 + (c.toNat - 0x10000) / 0x400 < 0x10000 := by omega
    have hlow : 0xdc00 + (c.toNat - 0x10000) % 0x400 < 0x10000 := by omega
    refine .inr ⟨_, _, rfl, ?_, ?_, ?_⟩
    · rw [isHigh_iff, UInt16.toNat_ofNat_of_lt' hhigh]
      omega
    · rw [isLow_iff, UInt16.toNat_ofNat_of_lt' hlow]
      omega
    · rw [pair, UInt16.toNat_ofNat_of_lt' hhigh, UInt16.toNat_ofNat_of_lt' hlow]
      have hsum : 0x10000 + (0xd800 + (c.toNat - 0x10000) / 0x400 - 0xd800) * 0x400 +
          (0xdc00 + (c.toNat - 0x10000) % 0x400 - 0xdc00) = c.toNat := by omega
      rw [hsum, Char.ofNat_toNat]

theorem encodeChar_single {u : UInt16} (hhigh : ¬ isHigh u) (hlow : ¬ isLow u) :
    encodeChar (Char.ofNat u.toNat) = [u] := by
  have hbound := u.toNat_lt
  have hvalid : u.toNat.isValidChar := by
    rw [isHigh_iff] at hhigh
    rw [isLow_iff] at hlow
    unfold Nat.isValidChar
    omega
  rw [encodeChar, Char.toNat_ofNat, if_pos hvalid, if_pos hbound]
  exact congrArg (fun v => [v]) UInt16.ofNat_toNat

theorem encodeChar_pair {high low : UInt16} (hhigh : isHigh high) (hlow : isLow low) :
    encodeChar (pair high low) = [high, low] := by
  rw [isHigh_iff] at hhigh
  rw [isLow_iff] at hlow
  have hvalid : (0x10000 + (high.toNat - 0xd800) * 0x400 + (low.toNat - 0xdc00)).isValidChar := by
    unfold Nat.isValidChar
    omega
  have hhighUnit : 0xd800 +
      (0x10000 + (high.toNat - 0xd800) * 0x400 + (low.toNat - 0xdc00) - 0x10000) / 0x400 =
        high.toNat := by omega
  have hlowUnit : 0xdc00 +
      (0x10000 + (high.toNat - 0xd800) * 0x400 + (low.toNat - 0xdc00) - 0x10000) % 0x400 =
        low.toNat := by omega
  rw [encodeChar, pair, Char.toNat_ofNat, if_pos hvalid, if_neg (by omega), hhighUnit, hlowUnit]
  exact congrArg₂ (fun u v => [u, v]) UInt16.ofNat_toNat UInt16.ofNat_toNat

/-! ## Units side by side -/

/-- Units are read side by side, unless a pair is cut in two. -/
theorem decode_append {us vs : List UInt16}
    (h : ∀ u ∈ us.getLast?, isHigh u → ∀ v ∈ vs.head?, ¬ isLow v) :
    decode (us ++ vs) = decode us ++ decode vs := by
  fun_induction decode us with
  | case1 => rfl
  | case2 u =>
    cases vs with
    | nil => simp [decode]
    | cons v vs =>
      have hpair : ¬ (isHigh u && isLow v) := by simpa using h u rfl
      rw [List.singleton_append, decode, if_neg hpair, List.singleton_append]
  | case3 u v rest hpair ih =>
    have hrest : ∀ w ∈ rest.getLast?, isHigh w → ∀ v ∈ vs.head?, ¬ isLow v := by
      intro w hw
      apply h w
      cases rest with
      | nil => simp at hw
      | cons r rest => rwa [List.getLast?_cons_cons, List.getLast?_cons_cons]
    rw [List.cons_append, List.cons_append, decode, if_pos hpair, ih hrest, List.cons_append]
  | case4 u v rest hpair ih =>
    have hrest : ∀ w ∈ (v :: rest).getLast?, isHigh w → ∀ v ∈ vs.head?, ¬ isLow v := by
      intro w hw
      exact h w (by rwa [List.getLast?_cons_cons])
    rw [List.cons_append, List.cons_append, decode, if_neg hpair, ← List.cons_append, ih hrest,
      List.cons_append]

theorem decode_lone {u : UInt16} (hhalf : isHigh u ∨ isLow u) : decode [u] = [replacement] := by
  rw [decode, single, if_pos (by simpa using hhalf)]

theorem decode_encodeChar_append (c : Char) (units : List UInt16) :
    decode (encodeChar c ++ units) = c :: decode units := by
  obtain ⟨u, hc, hhigh, hlow, hchar⟩ | ⟨high, low, hc, hhigh, hlow, hchar⟩ := encodeChar_cases c
  · have hwhole : ∀ w ∈ [u].getLast?, isHigh w → ∀ v ∈ units.head?, ¬ isLow v := by
      simpa using fun h => absurd h hhigh
    rw [hc, decode_append hwhole, decode, single, if_neg (by simp [hhigh, hlow]), hchar,
      List.singleton_append]
  · rw [hc, List.cons_append, List.cons_append, decode, if_pos (by simp [hhigh, hlow]), hchar,
      List.nil_append]

/-- What has been written is read. -/
theorem decode_encode (text : List Char) : decode (encode text) = text := by
  induction text with
  | nil => rfl
  | cons c text ih =>
    rw [encode, List.flatMap_cons, decode_encodeChar_append]
    exact congrArg (c :: ·) ih

/-- Half a pair without the other half is read as one replacement character, and its neighbours as
without it. -/
theorem decode_append_lone {before after : List UInt16} {u : UInt16} (h : Lone before u after) :
    decode (before ++ u :: after) = decode before ++ replacement :: decode after := by
  obtain ⟨hhalf, hbefore, hafter⟩ := h
  have hright : decode (u :: after) = replacement :: decode after := by
    rw [← List.singleton_append, decode_append (by simpa using hafter), decode_lone hhalf,
      List.singleton_append]
  rw [decode_append ?_, hright]
  intro w hw hhigh v hv hlow
  obtain rfl : u = v := by simpa using hv
  exact hbefore hlow w hw hhigh

theorem Spells.cons {u : UInt16} {units : List UInt16} {text : List Char}
    (halone : isHigh u → ∀ v ∈ units.head?, ¬ isLow v) (hrest : Spells units text) :
    Spells (u :: units) (single u :: text) := by
  rw [single]
  split_ifs with hhalf
  · exact .lone (by simpa using hhalf) halone hrest
  · obtain ⟨hhigh, hlow⟩ : ¬ isHigh u ∧ ¬ isLow u := by simpa using hhalf
    simpa [encodeChar_single hhigh hlow] using Spells.char (Char.ofNat u.toNat) hrest

/-- What units write is what is read from them. -/
theorem spells_iff {units : List UInt16} {text : List Char} :
    Spells units text ↔ decode units = text := by
  constructor
  · intro h
    induction h with
    | nil => rfl
    | char c hrest ih => rw [decode_encodeChar_append, ih]
    | @lone u units text hhalf halone hrest ih =>
      have hlone : Lone [] u units := ⟨hhalf, by simp, halone⟩
      rw [← List.nil_append (u :: units), decode_append_lone hlone, ih]
      rfl
  · rintro rfl
    fun_induction decode units with
    | case1 => exact .nil
    | case2 u => exact .cons (by simp) .nil
    | case3 u v rest hpair ih =>
      obtain ⟨hhigh, hlow⟩ : isHigh u ∧ isLow v := by simpa using hpair
      simpa [encodeChar_pair hhigh hlow] using Spells.char (pair u v) ih
    | case4 u v rest hpair ih => exact .cons (by simpa using hpair) ih

theorem spells_encode (text : List Char) : Spells (encode text) text :=
  spells_iff.2 (decode_encode text)

/-! ## Units in bytes -/

/-- The two bytes of a unit, the low one first. -/
def bytes (u : UInt16) : Bytes := [Bytes.low u, Bytes.high u]

/-- Bytes are the whole units in them and at most one byte more. -/
theorem units_eq_iff {bs : Bytes} {us : List UInt16} :
    units bs = us ↔ ∃ odd : Bytes, odd.length ≤ 1 ∧ bs = us.flatMap bytes ++ odd := by
  constructor
  · rintro rfl
    fun_induction units bs with
    | case1 low high rest ih =>
      obtain ⟨odd, hodd, hrest⟩ := ih
      refine ⟨odd, hodd, ?_⟩
      rw [List.flatMap_cons, bytes, Bytes.low_word, Bytes.high_word, List.append_assoc, ← hrest]
      rfl
    | case2 bs hshort =>
      refine ⟨bs, ?_, rfl⟩
      match bs with
      | [] | [_] => simp
      | low :: high :: rest => exact absurd rfl (hshort low high rest)
  · rintro ⟨odd, hodd, rfl⟩
    induction us with
    | nil =>
      match odd with
      | [] | [_] => rfl
    | cons u us ih =>
      rw [List.flatMap_cons, List.append_assoc, bytes, List.cons_append, List.cons_append,
        List.nil_append, units, Bytes.word_low_high, ih]

end Text.Utf16

namespace DeviceText

open Text

/-- What `z`, the record at index 0, gives as the language to ask for. -/
def language (z : Bytes) : UInt16 :=
  if 4 ≤ z.length ∧ z.getD 1 0 = 3 ∧ 4 ≤ z.getD 0 0 then
    .ofNat ((z.getD 2 0).toNat + 256 * (z.getD 3 0).toNat)
  else 0x0409

/-- `d` is no record of a text: it has no two bytes, or its kind is another, or its own length does
not count these two. -/
def Malformed (d : Bytes) : Prop :=
  d.length < 2 ∨ d.getD 1 0 ≠ 3 ∨ d.getD 0 0 < 2

/-- After its first two bytes, `d` has these units up to its own length or its end, and at most one
byte more. -/
def Carries (d : Bytes) (units : List UInt16) : Prop :=
  ∃ odd : Bytes, odd.length ≤ 1 ∧
    (d.take (d.getD 0 0).toNat).drop 2 = units.flatMap Utf16.bytes ++ odd

instance (d : Bytes) : Decidable (Malformed d) :=
  inferInstanceAs (Decidable (_ ∨ _ ∨ _))

theorem firstLanguage?_getD (z : Bytes) : (firstLanguage? z).getD defaultLanguage = language z := by
  match z with
  | [] | [_] | [_, _] | [_, _, _] => rfl
  | length :: k :: low :: high :: rest =>
    have hlong : 4 ≤ (length :: k :: low :: high :: rest).length := by simp
    have hword : Bytes.word low high = .ofNat (low.toNat + 256 * high.toNat) := by
      rw [← Bytes.toNat_word, UInt16.ofNat_toNat]
    show (if k = 3 ∧ 4 ≤ length then some (Bytes.word low high) else none).getD 0x0409 =
      if 4 ≤ (length :: k :: low :: high :: rest).length ∧ k = 3 ∧ 4 ≤ length then
        .ofNat (low.toNat + 256 * high.toNat) else 0x0409
    simp only [hlong, true_and, ← hword]
    split_ifs <;> rfl

/-- A record is read up to its own length or its end. -/
theorem decode_eq (d : Bytes) :
    decode d = if Malformed d then .error .protocol else
      .ok (String.ofList (Utf16.decode (Utf16.units ((d.take (d.getD 0 0).toNat).drop 2)))) := by
  match d with
  | [] | [_] => rfl
  | length :: k :: rest =>
    have hmalformed : Malformed (length :: k :: rest) ↔ ¬ (k = kind ∧ 2 ≤ length) := by
      have hlong : ¬ (length :: k :: rest).length < 2 := by simp
      rw [not_and_or, UInt8.not_le]
      exact ⟨fun h => h.resolve_left hlong, .inr⟩
    have hcut : ((length :: k :: rest).take length.toNat).drop 2 = rest.take (length.toNat - 2) :=
      List.drop_take ..
    simp only [decode, hmalformed, ite_not, List.getD_cons_zero, hcut]

/-- Outside of malformed records, the text is what the units write. -/
theorem decode_eq_ok_iff {d : Bytes} {s : String} :
    decode d = .ok s ↔ ¬ Malformed d ∧ ∃ units, Carries d units ∧ Utf16.Spells units s.toList := by
  have hcarries : ∀ us, Carries d us ↔ Utf16.units ((d.take (d.getD 0 0).toNat).drop 2) = us :=
    fun us => Utf16.units_eq_iff.symm
  have htext : ∀ cs : List Char, String.ofList cs = s ↔ cs = s.toList := by
    intro cs
    rw [← String.toList_inj, String.toList_ofList]
  rw [decode_eq]
  split_ifs with hmalformed
  · simp [hmalformed]
  · simp [hmalformed, hcarries, Utf16.spells_iff, htext]

theorem decode_eq_error {d : Bytes} : decode d = .error .protocol ↔ Malformed d := by
  rw [decode_eq]
  split_ifs with hmalformed <;> simp [hmalformed]

/-- The record that hands out units carries them, as long as its length has room for them. -/
theorem carries_encode {units : List UInt16} (hunits : units.length ≤ 126) :
    ¬ Malformed (encode units) ∧ Carries (encode units) units := by
  have hlength : (encode units).length = 2 + 2 * units.length := by
    simp [encode]
    omega
  have hown : ((encode units).getD 0 0).toNat = 2 + 2 * units.length := by
    show (2 + 2 * units.length).toUInt8.toNat = 2 + 2 * units.length
    rw [UInt8.toNat_ofNat', Nat.mod_eq_of_lt (by omega)]
  refine ⟨?_, [], by simp, ?_⟩
  · rintro (hshort | hkind | hown')
    · omega
    · exact hkind rfl
    · rw [UInt8.lt_iff_toNat_lt, hown] at hown'
      have htwo : UInt8.toNat 2 = 2 := rfl
      omega
  · rw [hown, ← hlength, List.take_length, List.append_nil]
    rfl

end DeviceText

/-! ## Two requests through one buffer -/

/-- What has been written to the start of a buffer is there, as far as there is room for it. -/
theorem Bytes.take_overwrite {buffer data : Bytes} {count : ℕ} (hdata : count ≤ data.length)
    (hroom : count ≤ buffer.length) : (overwrite buffer data).take count = data.take count := by
  rw [overwrite, List.take_append_of_le_length, List.take_take, min_eq_left hroom]
  rw [List.length_take]
  exact le_min hroom hdata

/-- The kernel would answer a request by these bytes: it counts as many, and they are what it has
written first. -/
def Host.Answers (host : Host) (h : Handle) (request : NodeRequest) (bs : Bytes) : Prop :=
  ∃ reply, (Host.ask h request host).1 = .ok reply ∧ reply.count = bs.length ∧
    reply.data.take reply.count = bs

namespace Handle

open Text

/-- The request for the text at `index` in a language, 255 bytes at most. -/
def textRequest (index : UInt8) (language : UInt16) : NodeRequest :=
  .control 0x80 0x06 (0x0300 + index.toUInt16) language 255 1000

/-- A request for a text brings the bytes of the answer, whatever the buffer held before. -/
theorem controlIn_of_answers {h : Handle} {index : UInt8} {language : UInt16} {buffer bs : Bytes}
    {host : Host} (hbuffer : buffer.length = 255) (hbs : bs.length ≤ 255)
    (hanswers : host.Answers h (textRequest index language) bs) :
    ∃ count received, h.controlIn 0x06 (textValue index) language buffer host =
        (.ok (count, received), (Host.ask h (textRequest index language) host).2) ∧
      received.length = 255 ∧ received.take count = bs := by
  obtain ⟨reply, hask, hcount, hdata⟩ := hanswers
  have hrequest : NodeRequest.control 0x80 0x06
      (textValue index) language buffer.length.toUInt16 controlTimeout =
      textRequest index language := by
    rw [hbuffer]
    rfl
  have hwritten : reply.count ≤ reply.data.length := by
    rw [← hdata, List.length_take] at hcount
    omega
  refine ⟨reply.count, Bytes.overwrite buffer reply.data, ?_, ?_, ?_⟩
  · rw [controlIn, Inventory.bind_apply, hrequest, hask]
    rfl
  · rw [Bytes.length_overwrite, hbuffer]
  · rw [Bytes.take_overwrite hwritten (by omega), hdata]

/-- By the answers to its two requests, a text is what the second one tells. -/
theorem text_of_answers {h : Handle} {index : UInt8} {host : Host} {z d : Bytes}
    (hindex : index ≠ 0) (hz : z.length ≤ 255) (hd : d.length ≤ 255)
    (hlanguages : host.Answers h (textRequest 0 0) z)
    (htext : (Host.ask h (textRequest 0 0) host).2.Answers h
      (textRequest index (DeviceText.language z)) d) :
    h.text index host = (DeviceText.decode d,
      (Host.ask h (textRequest index (DeviceText.language z))
        (Host.ask h (textRequest 0 0) host).2).2) := by
  have hzeros : (List.replicate 255 0 : Bytes).length = 255 := List.length_replicate
  obtain ⟨count, buffer, hfirst, hbuffer, htake⟩ := controlIn_of_answers hzeros hz hlanguages
  obtain ⟨count', buffer', hsecond, -, htake'⟩ := controlIn_of_answers hbuffer hd htext
  rw [text, if_neg hindex]
  simp only [Inventory.bind_apply, hfirst, htake, DeviceText.firstLanguage?_getD, hsecond, htake']
  rfl

/-- There is no text at index 0 and no request for it. Any other text takes two requests, for the
languages and for the text in the first language of the answer `z`, and the answer `d` to the second
one alone decides what the text is: none with a protocol error if `d` is malformed, and otherwise
what its units write up to its own length or its end. So each text of at most 126 units comes back
from the record that hands it out, and half a pair without the other half is one replacement
character between its neighbours. -/
theorem text_told (h : Handle) (host : Host) :
    h.text 0 host = (.ok "", host) ∧
    ∀ (index : UInt8) (z d : Bytes), index ≠ 0 → z.length ≤ 255 → d.length ≤ 255 →
      host.Answers h (textRequest 0 0) z →
      (Host.ask h (textRequest 0 0) host).2.Answers h
        (textRequest index (DeviceText.language z)) d →
      (h.text index host).2 =
        (Host.ask h (textRequest index (DeviceText.language z))
          (Host.ask h (textRequest 0 0) host).2).2 ∧
      (h.text index host).1 = DeviceText.decode d ∧
      ((h.text index host).1 = .error .protocol ↔ DeviceText.Malformed d) ∧
      (¬ DeviceText.Malformed d → ∃ s, (h.text index host).1 = .ok s) ∧
      (∀ s : String, (h.text index host).1 = .ok s ↔
        ¬ DeviceText.Malformed d ∧ ∃ units, DeviceText.Carries d units ∧
          Utf16.Spells units s.toList) ∧
      (∀ s : String, (Utf16.encode s.toList).length ≤ 126 →
        d = DeviceText.encode (Utf16.encode s.toList) → (h.text index host).1 = .ok s) ∧
      ∀ (before after : String) (us vs : List UInt16) (u : UInt16), ¬ DeviceText.Malformed d →
        DeviceText.Carries d (us ++ u :: vs) → Utf16.Lone us u vs → Utf16.Spells us before.toList →
        Utf16.Spells vs after.toList →
        (h.text index host).1 = .ok (before ++ "\uFFFD" ++ after) := by
  refine ⟨text_zero h host, fun index z d hindex hz hd hlanguages htext => ?_⟩
  rw [text_of_answers hindex hz hd hlanguages htext]
  refine ⟨rfl, rfl, DeviceText.decode_eq_error, fun hwell => ?_,
    fun s => DeviceText.decode_eq_ok_iff, ?_, ?_⟩
  · rw [DeviceText.decode_eq, if_neg hwell]
    exact ⟨_, rfl⟩
  · rintro s hlength rfl
    obtain ⟨hwell, hcarries⟩ := DeviceText.carries_encode hlength
    exact DeviceText.decode_eq_ok_iff.2 ⟨hwell, _, hcarries, Utf16.spells_encode _⟩
  · intro before after us vs u hwell hcarries hlone hbefore hafter
    refine DeviceText.decode_eq_ok_iff.2 ⟨hwell, _, hcarries, Utf16.spells_iff.2 ?_⟩
    rw [Utf16.decode_append_lone hlone, Utf16.spells_iff.1 hbefore, Utf16.spells_iff.1 hafter,
      String.toList_append, String.toList_append, List.append_assoc]
    rfl

end Handle

/-! ## A device with German texts -/

/-- A kernel behind which a device has two texts in German. The second one has half a pair between
its letters. -/
def germanKernel : Kernel where
  answer _ _ _ request :=
    match request with
    | .control _ _ value index _ _ =>
      if value = 0x0300 then .ok ⟨4, [4, 3, 0x07, 0x04]⟩
      else if value = 0x0301 ∧ index = 0x0407 then
        .ok ⟨18, DeviceText.encode (Text.Utf16.encode "Gerät 𝄞".toList)⟩
      else if value = 0x0302 ∧ index = 0x0407 then .ok ⟨8, DeviceText.encode [0x41, 0xd834, 0x42]⟩
      else .error .protocol
    | _ => .ok ⟨0, []⟩
  delays _ _ _ _ := false

/-- A host with the German device. -/
def germanHost : Host := { oneNode with kernel := germanKernel }

namespace Handle

/-- Both German texts are read. -/
theorem text_told_german :
    ((⟨nodeOne, 0, 0⟩ : Handle).text 1 germanHost).1 = .ok "Gerät 𝄞" ∧
    ((⟨nodeOne, 0, 0⟩ : Handle).text 2 germanHost).1 = .ok "A\uFFFDB" := by
  obtain ⟨-, htold⟩ := text_told ⟨nodeOne, 0, 0⟩ germanHost
  have hlanguages : germanHost.Answers ⟨nodeOne, 0, 0⟩ (textRequest 0 0) [4, 3, 0x07, 0x04] :=
    ⟨⟨4, [4, 3, 0x07, 0x04]⟩, rfl, by decide, rfl⟩
  constructor
  · obtain ⟨-, -, -, -, -, htext, -⟩ := htold 1 [4, 3, 0x07, 0x04]
      (DeviceText.encode (Text.Utf16.encode "Gerät 𝄞".toList)) (by decide) (by decide)
        (by decide +kernel) hlanguages
      ⟨_, rfl, by decide +kernel, by decide +kernel⟩
    exact htext "Gerät 𝄞" (by decide +kernel) rfl
  · obtain ⟨-, -, -, -, -, -, hlone⟩ :=
      htold 2 [4, 3, 0x07, 0x04] (DeviceText.encode [0x41, 0xd834, 0x42])
      (by decide) (by decide) (by decide) hlanguages ⟨_, rfl, by decide, by decide +kernel⟩
    have hhalf : Text.Utf16.Lone [0x41] 0xd834 [0x42] := by
      refine ⟨.inl (by decide), fun hlow => absurd hlow (by decide), ?_⟩
      rintro - v ⟨⟩
      decide
    exact hlone "A" "B" [0x41] [0x42] 0xd834 (by decide)
      ⟨[], by decide, by decide⟩ hhalf (.char 'A' .nil)
      (.char 'B' .nil)

end Handle

end UsbAccess
