import SiteOnYourDevice.BufferAccess
import SiteOnYourDevice.WebSocketServerHandler

namespace SiteOnYourDevice
open WebSocketFrame BufferAccess
set_option relaxedAutoImplicit false
set_option autoImplicit true

namespace WebSocketServerHandler

/-- `getPayloadLength` on the buffer: the length, the number of the bytes it takes besides, and the
type. -/
def getPayloadLengthAt (inputLength : Nat) (frameType : wsFrameType) :
    Access UInt8 (Nat × Nat × wsFrameType) := do
  let payloadLength := ((← readAt 1) &&& 0x7F).toNat
  if (payloadLength = 0x7E ∧ inputLength < 4) ∨ (payloadLength = 0x7F ∧ inputLength < 10) then
    pure (0, 0, .WS_INCOMPLETE_FRAME)
  else if payloadLength = 0x7F then do
    -- a length of 64 bits is an error, with the highest bit set and without it
    let _ ← readAt 3
    pure (0, 0, .WS_ERROR_FRAME)
  else if payloadLength = 0x7E then do
    -- `memcpy` of two bytes
    let high ← readAt 2
    let low ← readAt 3
    pure (ofBigEndian [high, low], 2, frameType)
  else pure (payloadLength, 0, frameType)

/-- The loop that unmasks the bytes from the `i`-th one on. -/
def unmaskAt (maskingKey dataPtr : Nat) : Nat → Nat → Access UInt8 Unit
  | 0, _ => pure ()
  | n + 1, i => do
    let byte ← readAt (dataPtr + i)
    let key ← readAt (maskingKey + i % 4)
    writeAt (dataPtr + i) (byte ^^^ key)
    unmaskAt maskingKey dataPtr n (i + 1)

/-- `wsParseInputFrame` on the buffer that was read, in place: the type, and the index and the
length of the data when they are set. -/
def wsParseInputFrameAt (inputLength : Nat) : Access UInt8 (wsFrameType × Option (Nat × Nat)) := do
  if inputLength < 2 then pure (.WS_INCOMPLETE_FRAME, none)
  else do
    if (← readAt 0) &&& 0x70 ≠ 0x0 then pure (.WS_ERROR_FRAME, none)
    else do
      if (← readAt 0) &&& 0x80 ≠ 0x80 then pure (.WS_ERROR_FRAME, none)
      else do
        if (← readAt 1) &&& 0x80 ≠ 0x80 then pure (.WS_ERROR_FRAME, none)
        else do
          let first ← readAt 0
          match opcodes.find? fun type => type.value = first &&& 0x0F with
          | none => pure (.WS_ERROR_FRAME, none)
          | some opcode => do
            let (payloadLength, payloadFieldExtraBytes, frameType) ←
              getPayloadLengthAt inputLength opcode
            if 0 < payloadLength then do
              if inputLength < payloadLength + 6 + payloadFieldExtraBytes then
                pure (.WS_INCOMPLETE_FRAME, none)
              else do
                unmaskAt (2 + payloadFieldExtraBytes) (2 + payloadFieldExtraBytes + 4)
                  payloadLength 0
                pure (frameType, some (2 + payloadFieldExtraBytes + 4, payloadLength))
            else pure (frameType, none)

/-- The indices of a reported payload. -/
def InRange : Option (Nat × Nat) → Nat → Prop
  | none, _ => False
  | some (dataPtr, dataLength), i => dataPtr ≤ i ∧ i < dataPtr + dataLength

/-- The bytes of a reported payload. -/
def dataOf : Option (Nat × Nat) → List UInt8 → List UInt8
  | none, _ => []
  | some (dataPtr, dataLength), buffer => (buffer.drop dataPtr).take dataLength

variable {b : List UInt8} {W : Nat → Prop}

theorem readAt_getD (hi : i < b.length) :
    Safe b W (fun a b' => b = b' ∧ a = b.getD i 0) (readAt i b) := by
  apply (Safe.readAt hi).mono
  rintro a _ ⟨rfl, ha⟩
  refine ⟨rfl, ?_⟩
  rw [List.getD_eq_getElem?_getD, ha]
  rfl

/-- The loop reads the key and the payload, and writes the payload. -/
theorem unmaskAt_safe {maskingKey dataPtr : Nat} (hkey : maskingKey + 4 ≤ b.length)
    (hdata : dataPtr + (i + n) ≤ b.length) :
    Safe b (fun j => dataPtr ≤ j ∧ j < dataPtr + (i + n))
      (fun _ b' => b' = unmask maskingKey dataPtr n i b) (unmaskAt maskingKey dataPtr n i b) := by
  induction n generalizing i b with
  | zero => exact Safe.pure rfl
  | succ n ih =>
    rw [unmaskAt]
    apply (readAt_getD (by omega)).bind
    rintro _ _ _ ⟨rfl, rfl⟩
    apply (readAt_getD (by omega)).bind
    rintro _ _ _ ⟨rfl, rfl⟩
    apply (Safe.writeAt (by omega) ⟨by omega, by omega⟩ _).bind
    rintro _ _ hl rfl
    have hn := ih (i := i + 1) (by rw [hl]; exact hkey) (by rw [hl]; omega)
    rw [Nat.add_right_comm] at hn
    exact hn

theorem getPayloadLengthAt_safe (hb : 2 ≤ b.length) (frameType : wsFrameType) :
    Safe b W (fun x b' => b = b' ∧ x = getPayloadLength b frameType)
      (getPayloadLengthAt b.length frameType b) := by
  rw [getPayloadLengthAt]
  apply (readAt_getD (by omega)).bind
  rintro _ _ _ ⟨rfl, rfl⟩
  simp only [getPayloadLength]
  generalize (b.getD 1 0 &&& 0x7F).toNat = payloadLength
  by_cases hshort : (payloadLength = 0x7E ∧ b.length < 4) ∨ (payloadLength = 0x7F ∧ b.length < 10)
  · rw [if_pos hshort, if_pos hshort]
    exact Safe.pure ⟨rfl, rfl⟩
  rw [if_neg hshort, if_neg hshort]
  by_cases h64 : payloadLength = 0x7F
  · have hne : payloadLength ≠ 0x7E := by omega
    rw [if_pos h64, if_neg hne, if_pos h64, ite_self]
    apply (readAt_getD (by omega)).bind
    rintro _ _ _ ⟨rfl, _⟩
    exact Safe.pure ⟨rfl, rfl⟩
  · rw [if_neg h64, if_neg fun h => h64 h.1, if_neg h64]
    by_cases h16 : payloadLength = 0x7E
    · rw [if_pos h16, if_pos h16]
      apply (readAt_getD (by omega)).bind
      rintro _ _ _ ⟨rfl, rfl⟩
      apply (readAt_getD (by omega)).bind
      rintro _ _ _ ⟨rfl, rfl⟩
      exact Safe.pure ⟨rfl, rfl⟩
    · rw [if_neg h16, if_neg h16]
      exact Safe.pure ⟨rfl, rfl⟩

/-- A part of the parser that ran in place: it comes to `X`, with the data where it reports it, and
without data when it finds no frame. -/
structure InPlace (b : List UInt8) (X : wsFrameType × List UInt8)
    (r : Accessed UInt8 (wsFrameType × Option (Nat × Nat))) (frameType : wsFrameType)
    (range : Option (Nat × Nat)) : Prop where
  safe : Safe b (InRange range) (fun x b' => x = (frameType, range) ∧ X = (frameType, dataOf range b'))
    r
  inside : ∀ i, InRange range i → i < b.length
  untouched : frameType = .WS_ERROR_FRAME ∨ frameType = .WS_INCOMPLETE_FRAME → range = none

theorem InPlace.pure (b : List UInt8) (frameType : wsFrameType) :
    InPlace b (frameType, []) ((Pure.pure (frameType, none) : Access UInt8 _) b) frameType none :=
  ⟨Safe.pure ⟨rfl, rfl⟩, fun _ h => h.elim, fun _ => rfl⟩

/-- Behind a part that only reads. -/
theorem InPlace.bind {m : Access UInt8 β} {f : β → Access UInt8 (wsFrameType × Option (Nat × Nat))}
    {X : wsFrameType × List UInt8} (hm : Safe b (fun _ => False) (fun x b' => b = b' ∧ x = a) (m b))
    (hf : ∃ frameType range, InPlace b X (f a b) frameType range) :
    ∃ frameType range, InPlace b X ((m >>= f) b) frameType range := by
  obtain ⟨frameType, range, h⟩ := hf
  refine ⟨frameType, range, ?_, h.inside, h.untouched⟩
  apply (hm.weaken fun _ => False.elim).bind
  rintro _ _ _ ⟨rfl, rfl⟩
  exact h.safe

/-- The part behind the length. -/
theorem payload_inPlace (b : List UInt8) (frameType : wsFrameType) (n extra : Nat)
    (ht : n ≠ 0 → frameType ∈ opcodes) :
    ∃ type range, InPlace b
      (if 0 < n then
        if b.length < n + 6 + extra then (.WS_INCOMPLETE_FRAME, [])
        else
          (frameType, ((unmask (2 + extra) (2 + extra + 4) n 0 b).drop (2 + extra + 4)).take n)
      else (frameType, []))
      ((if 0 < n then do
          if b.length < n + 6 + extra then Pure.pure (.WS_INCOMPLETE_FRAME, none)
          else do
            unmaskAt (2 + extra) (2 + extra + 4) n 0
            Pure.pure (frameType, some (2 + extra + 4, n))
        else Pure.pure (frameType, none) :
          Access UInt8 (wsFrameType × Option (Nat × Nat))) b) type range := by
  by_cases hn : 0 < n
  · rw [if_pos hn, if_pos hn]
    by_cases hshort : b.length < n + 6 + extra
    · rw [if_pos hshort, if_pos hshort]
      exact ⟨_, _, InPlace.pure b _⟩
    · rw [if_neg hshort, if_neg hshort]
      refine ⟨frameType, some (2 + extra + 4, n), ?_, ?_, ?_⟩
      · have hkey : (2 + extra) + 4 ≤ b.length := by omega
        have hdata : (2 + extra + 4) + (0 + n) ≤ b.length := by omega
        have hloop := unmaskAt_safe hkey hdata
        rw [Nat.zero_add] at hloop
        apply hloop.bind
        rintro _ _ _ rfl
        exact Safe.pure ⟨rfl, rfl⟩
      · rintro i ⟨_, hi⟩
        omega
      · intro he
        have hmem := ht hn.ne'
        rcases he with rfl | rfl
        · exact absurd hmem (by decide)
        · exact absurd hmem (by decide)
  · rw [if_neg hn, if_neg hn]
    exact ⟨_, _, InPlace.pure b _⟩

theorem getPayloadLength_type {n extra : Nat} {frameType type : wsFrameType}
    (h : getPayloadLength b frameType = (n, extra, type)) (hn : n ≠ 0) : type = frameType := by
  rw [getPayloadLength] at h
  split at h
  · cases h
    exact absurd rfl hn
  split at h
  · cases h
    exact absurd rfl hn
  split at h
  · cases h
    rfl
  split at h
  · cases h
    exact absurd rfl hn
  · cases h
    rfl

theorem wsParseInputFrameAt_inPlace (b : List UInt8) :
    ∃ frameType range,
      InPlace b (wsParseInputFrame b) (wsParseInputFrameAt b.length b) frameType range := by
  rw [wsParseInputFrame, wsParseInputFrameAt]
  by_cases hb : b.length < 2
  · rw [if_pos hb, if_pos hb]
    exact ⟨_, _, InPlace.pure b _⟩
  rw [if_neg hb, if_neg hb]
  apply InPlace.bind (readAt_getD (i := 0) (by omega))
  by_cases hext : b.getD 0 0 &&& 0x70 ≠ 0x0
  · rw [if_pos hext, if_pos hext]
    exact ⟨_, _, InPlace.pure b _⟩
  rw [if_neg hext, if_neg hext]
  apply InPlace.bind (readAt_getD (i := 0) (by omega))
  by_cases hfin : b.getD 0 0 &&& 0x80 ≠ 0x80
  · rw [if_pos hfin, if_pos hfin]
    exact ⟨_, _, InPlace.pure b _⟩
  rw [if_neg hfin, if_neg hfin]
  apply InPlace.bind (readAt_getD (i := 1) (by omega))
  by_cases hmask : b.getD 1 0 &&& 0x80 ≠ 0x80
  · rw [if_pos hmask, if_pos hmask]
    exact ⟨_, _, InPlace.pure b _⟩
  rw [if_neg hmask, if_neg hmask]
  apply InPlace.bind (readAt_getD (i := 0) (by omega))
  cases hfind : opcodes.find? fun type => type.value = b.getD 0 0 &&& 0x0F with
  | none => exact ⟨_, _, InPlace.pure b _⟩
  | some opcode =>
    apply InPlace.bind (getPayloadLengthAt_safe (by omega) opcode)
    dsimp only
    generalize hget : getPayloadLength b opcode = got
    obtain ⟨n, extra, frameType⟩ := got
    apply payload_inPlace
    intro hn
    rw [getPayloadLength_type hget hn]
    exact List.mem_of_find?_eq_some hfind

/-- HTTP gets to see what is no frame. -/
theorem type_of_http2 (h : processReceived b = .http2) :
    (wsParseInputFrame b).1 = .WS_ERROR_FRAME := by
  have helim : ∀ (odata : Option (List UInt8)) (f : List UInt8 → Reply), (∀ x, f x ≠ .http2) →
      odata.elim .overflow f ≠ .http2 := by
    intro odata f hf
    cases odata with
    | none => simp
    | some x => exact hf x
  by_contra hne
  rw [processReceived] at h
  simp only [if_neg hne] at h
  split at h
  · exact helim _ _ (by simp) h
  split at h
  · cases h
  split at h
  · exact helim _ _ (by simp) h
  split at h
  · exact helim _ _ (by simp) h
  · cases h

/-- What the parser does to the buffer of a read: the type and the payload that it reports, what it
reads and writes, and what the buffer holds then. -/
structure InBounds (inputFrame : List UInt8)
    (r : Accessed UInt8 (wsFrameType × Option (Nat × Nat))) (frameType : wsFrameType)
    (range : Option (Nat × Nat)) : Prop where
  value : r.value = some (frameType, range)
  reads : ∀ i ∈ r.reads, i < inputFrame.length
  writes : ∀ i ∈ r.writes, InRange range i
  inside : ∀ i, InRange range i → i < inputFrame.length
  frame : ∀ i, ¬ InRange range i → r.buffer[i]? = inputFrame[i]?
  untouched : frameType = .WS_ERROR_FRAME ∨ frameType = .WS_INCOMPLETE_FRAME →
    r.buffer = inputFrame
  http2 : processReceived inputFrame = .http2 → r.buffer = inputFrame
  parsed : wsParseInputFrame inputFrame = (frameType, dataOf range r.buffer)

/-- The parser reads inside the buffer and writes the payload that it reports, which lies inside;
what is no frame or no whole one, and what HTTP gets to see, is left as it was received. -/
theorem wsParseInputFrame_inBounds (inputFrame : List UInt8) :
    ∃ frameType range, InBounds inputFrame (wsParseInputFrameAt inputFrame.length inputFrame)
      frameType range := by
  obtain ⟨frameType, range, h⟩ := wsParseInputFrameAt_inPlace inputFrame
  obtain ⟨_, hvalue, rfl, hparsed⟩ := h.safe.value
  have huntouched : frameType = .WS_ERROR_FRAME ∨ frameType = .WS_INCOMPLETE_FRAME →
      (wsParseInputFrameAt inputFrame.length inputFrame).buffer = inputFrame := by
    intro he
    obtain rfl := h.untouched he
    exact h.safe.unchanged.1
  refine ⟨frameType, range, hvalue, h.safe.reads, fun i hi => (h.safe.writes i hi).2, h.inside,
    h.safe.frame, huntouched, ?_, hparsed⟩
  intro hhttp
  apply huntouched
  left
  have htype := type_of_http2 hhttp
  rw [hparsed] at htype
  exact htype

end WebSocketServerHandler

end SiteOnYourDevice
