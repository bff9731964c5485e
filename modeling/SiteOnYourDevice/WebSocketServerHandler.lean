import Mathlib.Data.List.GetD
import SiteOnYourDevice.WebSocketFrame

namespace SiteOnYourDevice
open WebSocketFrame
set_option relaxedAutoImplicit false
set_option autoImplicit true

namespace WebSocketServerHandler

def BUF_LEN : Nat := 0xFFFF

inductive wsFrameType
  | WS_EMPTY_FRAME | WS_ERROR_FRAME | WS_INCOMPLETE_FRAME | WS_TEXT_FRAME | WS_BINARY_FRAME
  | WS_PING_FRAME | WS_PONG_FRAME | WS_OPENING_FRAME | WS_CLOSING_FRAME
deriving DecidableEq

def wsFrameType.value : wsFrameType → UInt8
  | WS_EMPTY_FRAME => 0xF0
  | WS_ERROR_FRAME => 0xF1
  | WS_INCOMPLETE_FRAME => 0xF2
  | WS_TEXT_FRAME => 0x01
  | WS_BINARY_FRAME => 0x02
  | WS_PING_FRAME => 0x09
  | WS_PONG_FRAME => 0x0A
  | WS_OPENING_FRAME => 0xF3
  | WS_CLOSING_FRAME => 0x08

/-- The types that come as the opcode of a frame. -/
def opcodes : List wsFrameType :=
  [.WS_TEXT_FRAME, .WS_BINARY_FRAME, .WS_CLOSING_FRAME, .WS_PING_FRAME, .WS_PONG_FRAME]

/-- The length of the payload, the number of the bytes it takes besides, and the type. -/
def getPayloadLength (inputFrame : List UInt8) (frameType : wsFrameType) :
    Nat × Nat × wsFrameType :=
  let inputLength := inputFrame.length
  let payloadLength := (inputFrame.getD 1 0 &&& 0x7F).toNat
  if (payloadLength = 0x7E ∧ inputLength < 4) ∨ (payloadLength = 0x7F ∧ inputLength < 10) then
    (0, 0, .WS_INCOMPLETE_FRAME)
  else if payloadLength = 0x7F ∧ inputFrame.getD 3 0 &&& 0x80 ≠ 0 then (0, 0, .WS_ERROR_FRAME)
  else if payloadLength = 0x7E then
    -- `ntohs` of the two bytes
    (ofBigEndian [inputFrame.getD 2 0, inputFrame.getD 3 0], 2, frameType)
  else if payloadLength = 0x7F then (0, 0, .WS_ERROR_FRAME)
  else (payloadLength, 0, frameType)

/-- The loop that unmasks the bytes from the `i`-th one on, in place. -/
def unmask (maskingKey dataPtr : Nat) : Nat → Nat → List UInt8 → List UInt8
  | 0, _, inputFrame => inputFrame
  | n + 1, i, inputFrame =>
    unmask maskingKey dataPtr n (i + 1) (inputFrame.set (dataPtr + i)
      (inputFrame.getD (dataPtr + i) 0 ^^^ inputFrame.getD (maskingKey + i % 4) 0))

/-- The type of a frame and its data; the data is empty when `dataPtr` stays null. -/
def wsParseInputFrame (inputFrame : List UInt8) : wsFrameType × List UInt8 :=
  let inputLength := inputFrame.length
  if inputLength < 2 then (.WS_INCOMPLETE_FRAME, [])
  else if inputFrame.getD 0 0 &&& 0x70 ≠ 0x0 then (.WS_ERROR_FRAME, [])
  else if inputFrame.getD 0 0 &&& 0x80 ≠ 0x80 then (.WS_ERROR_FRAME, [])
  else if inputFrame.getD 1 0 &&& 0x80 ≠ 0x80 then (.WS_ERROR_FRAME, [])
  else
    match opcodes.find? fun type => type.value = inputFrame.getD 0 0 &&& 0x0F with
    | none => (.WS_ERROR_FRAME, [])
    | some opcode =>
      match getPayloadLength inputFrame opcode with
      | (payloadLength, payloadFieldExtraBytes, frameType) =>
        if 0 < payloadLength then
          if inputLength < payloadLength + 6 + payloadFieldExtraBytes then
            (.WS_INCOMPLETE_FRAME, [])
          else
            let dataPtr := 2 + payloadFieldExtraBytes + 4
            let frame := unmask (2 + payloadFieldExtraBytes) dataPtr payloadLength 0 inputFrame
            (frameType, (frame.drop dataPtr).take payloadLength)
        else (frameType, [])

/-- The bytes of `outFrame`, a buffer of `BUF_LEN` bytes; `none` when they are more. A length that
is over 16 bits is left at the end of the buffer. -/
def wsMakeFrame (data : List UInt8) (frameType : wsFrameType) : Option (List UInt8) :=
  let dataLength := data.length
  let first := 0x80 ||| frameType.value
  if dataLength ≤ 125 then some (first :: UInt8.ofNat dataLength :: data)
  else if dataLength ≤ 0xFFFF then
    -- `htons` of the length
    let outFrame := first :: 126 :: bigEndian 2 dataLength ++ data
    if outFrame.length ≤ BUF_LEN then some outFrame else none
  else none

/-- What a read leads to; `overflow` is a write behind the end of `odata`. -/
inductive Reply
  | http2 | write (odata : List UInt8) | writeAndClose (odata : List UInt8) | close | nothing
  | overflow
deriving DecidableEq

def processReceived (request : List UInt8) : Reply :=
  match wsParseInputFrame request with
  | (frame_type, data) =>
    if frame_type = .WS_ERROR_FRAME then .http2
    else if frame_type = .WS_INCOMPLETE_FRAME ∧ request.length = BUF_LEN then
      (wsMakeFrame [] .WS_CLOSING_FRAME).elim .overflow .writeAndClose
    else if frame_type = .WS_CLOSING_FRAME then .close
    else if frame_type = .WS_TEXT_FRAME then
      (wsMakeFrame data .WS_TEXT_FRAME).elim .overflow .write
    else if frame_type = .WS_BINARY_FRAME then
      (wsMakeFrame data .WS_BINARY_FRAME).elim .overflow .write
    else .nothing

/-- The final frame of a client, masked, and of the server, unmasked. -/
def finalFrame (opcode : wsFrameType) (key : Option MaskingKey) (payload : List UInt8) : WireFrame :=
  .final opcode.value key payload

variable {opcode : wsFrameType} {key : MaskingKey} {payload : List UInt8}

theorem unmask_eq (header : List UInt8) (key : MaskingKey) (done rest : List UInt8) :
    unmask header.length (header.length + 4) rest.length done.length
        (header ++ key.bytes ++ done ++ rest) =
      header ++ key.bytes ++ done ++ maskFrom (fun a k => a ^^^ k) key.byte done.length rest := by
  induction rest generalizing done with
  | nil => rfl
  | cons b rest ih =>
    have hlength : header.length + 4 + done.length = (header ++ key.bytes ++ done).length := by
      rw [List.length_append, List.length_append]
      rfl
    have hbyte : (header ++ key.bytes ++ done ++ b :: rest).getD
        (header.length + 4 + done.length) 0 = b := by
      rw [hlength, List.getD_append_right _ _ _ _ (Nat.le_refl _), Nat.sub_self, List.getD_cons_zero]
    have hkey : (header ++ key.bytes ++ done ++ b :: rest).getD (header.length + done.length % 4) 0 =
        key.byte done.length := by
      have hlt : done.length % 4 < key.bytes.length := Nat.mod_lt _ (by decide)
      rw [List.append_assoc, List.append_assoc, List.getD_append_right _ _ _ _ (Nat.le_add_right _ _),
        Nat.add_sub_cancel_left, List.getD_append _ _ _ _ hlt, MaskingKey.byte]
    have hset : ∀ c, (header ++ key.bytes ++ done ++ b :: rest).set
        (header.length + 4 + done.length) c = header ++ key.bytes ++ (done ++ [c]) ++ rest := by
      intro c
      rw [hlength, List.set_append_right _ _ (Nat.le_refl _), Nat.sub_self, List.set_cons_zero,
        ← List.append_assoc, List.append_assoc _ [c]]
      rfl
    rw [List.length_cons, unmask, hbyte, hkey, hset]
    have hnext := ih (done ++ [b ^^^ key.byte done.length])
    rw [List.length_append, List.length_singleton] at hnext
    rw [hnext, maskFrom, ← List.append_assoc, List.append_assoc _ [_]]
    rfl

/-- What lies behind a header and a key is the payload again after the loop. -/
theorem unmask_payload (header : List UInt8) (key : MaskingKey) (payload : List UInt8) :
    ((unmask header.length (header.length + 4) payload.length 0
      (header ++ key.bytes ++ key.mask payload)).drop (header.length + 4)).take payload.length =
      payload := by
  have hloop := unmask_eq header key [] (key.mask payload)
  rw [List.append_nil, key.length_mask, List.length_nil] at hloop
  have hlength : (header ++ key.bytes).length = header.length + 4 := List.length_append
  have hunmasked : maskFrom (fun a k => a ^^^ k) key.byte 0 (key.mask payload) = payload :=
    key.mask_mask payload
  rw [hloop, hunmasked, List.drop_left' hlength, List.take_length]

theorem first_byte (ho : opcode ∈ opcodes) (key : Option MaskingKey) (payload : List UInt8) :
    (finalFrame opcode key payload).firstByte = 0x80 ||| opcode.value := by
  simp only [opcodes, List.mem_cons, List.not_mem_nil, or_false] at ho
  simp only [WireFrame.firstByte, finalFrame, WireFrame.final]
  rcases ho with rfl | rfl | rfl | rfl | rfl <;> decide

/-- The checks of the first byte pass, and find its opcode. -/
theorem first_byte_checks (ho : opcode ∈ opcodes) :
    (0x80 ||| opcode.value) &&& 0x70 = 0x0 ∧ (0x80 ||| opcode.value) &&& 0x80 = 0x80 ∧
      (opcodes.find? fun type => type.value = (0x80 ||| opcode.value) &&& 0x0F) = some opcode := by
  simp only [opcodes, List.mem_cons, List.not_mem_nil, or_false] at ho
  rcases ho with rfl | rfl | rfl | rfl | rfl <;> decide

theorem second_byte_checks {bits : Nat} (h : bits < 128) :
    UInt8.ofNat (true.toNat * 128 + bits) &&& 0x80 = 0x80 ∧
      (UInt8.ofNat (true.toNat * 128 + bits) &&& 0x7F).toNat = bits := by
  decide +revert

/-- The bytes of a masked frame up to its key. -/
def header (opcode : wsFrameType) (n : Nat) : List UInt8 :=
  (0x80 ||| opcode.value) :: UInt8.ofNat (true.toNat * 128 + (lengthField n).1) :: (lengthField n).2

theorem encode_eq (ho : opcode ∈ opcodes) (key : MaskingKey) (payload : List UInt8) :
    (finalFrame opcode (some key) payload).encode =
      header opcode payload.length ++ key.bytes ++ key.mask payload := by
  rw [WireFrame.encode, first_byte ho, List.append_assoc]
  rfl

theorem getPayloadLength_header {n : Nat} (hn : n < 2 ^ 16) (opcode frameType : wsFrameType)
    (rest : List UInt8) :
    getPayloadLength (header opcode n ++ rest) frameType =
      (n, (lengthField n).2.length, frameType) := by
  have hbits : (lengthField n).1 < 128 := (lengthField_spec (by omega)).1
  have hsecond : ((header opcode n ++ rest).getD 1 0 &&& 0x7F).toNat = (lengthField n).1 :=
    (second_byte_checks hbits).2
  have hlength : (header opcode n ++ rest).length = 2 + (lengthField n).2.length + rest.length := by
    rw [List.length_append, header, List.length_cons, List.length_cons]
    omega
  rw [getPayloadLength, hsecond, hlength]
  by_cases hshort : n ≤ 125
  · have hfield : lengthField n = (n, []) := if_pos hshort
    simp only [hfield]
    rw [if_neg (by omega), if_neg (by omega), if_neg (by omega), if_neg (by omega)]
    rfl
  · have hfield : lengthField n = (126, bigEndian 2 n) := by
      rw [lengthField, if_neg hshort, if_pos hn]
    have hbytes : ofBigEndian [(header opcode n ++ rest).getD 2 0,
        (header opcode n ++ rest).getD 3 0] = n := by
      have hmod := ofBigEndian_bigEndian 2 n
      rw [Nat.mod_eq_of_lt (by omega)] at hmod
      rw [header, hfield]
      exact hmod
    simp only [hfield, length_bigEndian]
    rw [if_neg (by omega), if_neg (by omega), if_true, hbytes]

/-- A masked frame with a length of at most 16 bits is parsed to its type and its payload. -/
theorem wsParseInputFrame_encode (ho : opcode ∈ opcodes) (hn : payload.length < 2 ^ 16) :
    wsParseInputFrame (finalFrame opcode (some key) payload).encode = (opcode, payload) := by
  obtain ⟨h₇, h₈, hfind⟩ := first_byte_checks ho
  have hbits : (lengthField payload.length).1 < 128 := (lengthField_spec (by omega)).1
  obtain ⟨hmask, _⟩ := second_byte_checks hbits
  have hget := getPayloadLength_header hn opcode opcode (key.bytes ++ key.mask payload)
  rw [← List.append_assoc] at hget
  have hheader : (header opcode payload.length).length =
      2 + (lengthField payload.length).2.length := by
    rw [header, List.length_cons, List.length_cons]
    omega
  have hlength : (header opcode payload.length ++ key.bytes ++ key.mask payload).length =
      payload.length + 6 + (lengthField payload.length).2.length := by
    rw [List.length_append, List.length_append, hheader, key.length_mask]
    have hkey : key.bytes.length = 4 := rfl
    omega
  have h₀ : (header opcode payload.length ++ key.bytes ++ key.mask payload).getD 0 0 =
      0x80 ||| opcode.value := rfl
  have h₁ : (header opcode payload.length ++ key.bytes ++ key.mask payload).getD 1 0 =
      UInt8.ofNat (true.toNat * 128 + (lengthField payload.length).1) := rfl
  have hdata := unmask_payload (header opcode payload.length) key payload
  rw [hheader] at hdata
  rw [encode_eq ho, wsParseInputFrame]
  simp only [hlength, h₀, h₁, h₇, h₈, hmask, hfind, hget, ne_eq, not_true_eq_false, if_false]
  rw [if_neg (by omega)]
  split
  · rw [if_neg (by omega), hdata]
  · rename_i hzero
    rw [List.eq_nil_of_length_eq_zero (Nat.eq_zero_of_not_pos hzero)]

theorem wsMakeFrame_eq (ho : opcode ∈ opcodes) (payload : List UInt8)
    (hn : payload.length + 4 ≤ BUF_LEN) :
    wsMakeFrame payload opcode = some (finalFrame opcode none payload).encode ∧
      (finalFrame opcode none payload).encode.length ≤ BUF_LEN := by
  have hencode : (finalFrame opcode none payload).encode =
      (0x80 ||| opcode.value) :: UInt8.ofNat (lengthField payload.length).1 ::
        (lengthField payload.length).2 ++ payload := by
    rw [WireFrame.encode, first_byte ho, WireFrame.secondByte]
    simp only [finalFrame, WireFrame.final, Option.isSome_none, Bool.toNat_false, Nat.zero_mul,
      Nat.zero_add]
  rw [hencode, wsMakeFrame]
  rw [BUF_LEN] at hn ⊢
  by_cases hshort : payload.length ≤ 125
  · have hfield : lengthField payload.length = (payload.length, []) := if_pos hshort
    rw [hfield, if_pos hshort]
    refine ⟨rfl, ?_⟩
    simp only [List.length_append, List.length_cons, List.length_nil]
    omega
  · have hfield : lengthField payload.length = (126, bigEndian 2 payload.length) := by
      rw [lengthField, if_neg hshort, if_pos (by omega)]
    have hlength : ((0x80 ||| opcode.value) :: 126 :: bigEndian 2 payload.length ++ payload).length ≤
        0xFFFF := by
      simp only [List.length_append, List.length_cons, length_bigEndian]
      omega
    rw [hfield, if_neg hshort, if_pos (by omega)]
    simp only [if_pos hlength]
    exact ⟨rfl, hlength⟩

theorem processReceived_data (ho : opcode = .WS_TEXT_FRAME ∨ opcode = .WS_BINARY_FRAME)
    (key : MaskingKey) (hn : payload.length + 4 ≤ BUF_LEN) :
    processReceived (finalFrame opcode (some key) payload).encode =
      .write (finalFrame opcode none payload).encode := by
  have hmem : opcode ∈ opcodes := by
    rcases ho with rfl | rfl <;> decide
  have hparse : wsParseInputFrame (finalFrame opcode (some key) payload).encode =
      (opcode, payload) := by
    apply wsParseInputFrame_encode hmem
    rw [BUF_LEN] at hn
    omega
  obtain ⟨hmake, _⟩ := wsMakeFrame_eq hmem payload hn
  rw [processReceived, hparse]
  rcases ho with rfl | rfl
  · simp only [reduceCtorEq, if_false, false_and, if_true, hmake, Option.elim_some]
  · simp only [reduceCtorEq, if_false, false_and, if_true, hmake, Option.elim_some]

/-- The frame that comes back for a final masked frame of text or of bytes, read in one buffer, is
final and unmasked, with the same opcode and payload. -/
theorem processReceived_echo (opcode : wsFrameType)
    (ho : opcode = .WS_TEXT_FRAME ∨ opcode = .WS_BINARY_FRAME) (key : MaskingKey)
    (payload : List UInt8)
    (hn : (finalFrame opcode (some key) payload).encode.length ≤ 4096) :
    ∃ odata, processReceived (finalFrame opcode (some key) payload).encode = .write odata ∧
      WireFrame.decode odata = some (finalFrame opcode none payload) ∧ odata.length ≤ BUF_LEN := by
  have hmem : opcode ∈ opcodes := by
    rcases ho with rfl | rfl <;> decide
  have hpayload : payload.length ≤ 4096 := by
    rw [encode_eq hmem, List.length_append, key.length_mask] at hn
    omega
  have hfits : payload.length + 4 ≤ BUF_LEN := by
    rw [BUF_LEN]
    omega
  refine ⟨(finalFrame opcode none payload).encode, processReceived_data ho key hfits, ?_,
    (wsMakeFrame_eq hmem payload hfits).2⟩
  apply WireFrame.decode_encode
  show payload.length < 2 ^ 64
  omega

theorem processReceived_echo_text :
    ∃ odata, processReceived (finalFrame .WS_TEXT_FRAME (some ⟨1, 2, 3, 4⟩)
        [0x48, 0x65, 0x6C, 0x6C, 0x6F]).encode = .write odata ∧
      WireFrame.decode odata = some (finalFrame .WS_TEXT_FRAME none [0x48, 0x65, 0x6C, 0x6C, 0x6F]) ∧
      odata.length ≤ BUF_LEN := by
  apply processReceived_echo
  · exact .inl rfl
  · decide

end WebSocketServerHandler

end SiteOnYourDevice
