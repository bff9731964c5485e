import SiteOnYourDevice.WebSocketServerHandler

namespace SiteOnYourDevice
open WebSocketFrame
set_option relaxedAutoImplicit false
set_option autoImplicit true

namespace WebSocketServerHandler

def BUF_SIZE : Nat := 4096

/-- A frame of a client: final, masked, with an opcode the handler knows, and not larger than its
buffer. -/
structure ClientFrame where
  opcode : wsFrameType
  key : MaskingKey
  payload : List UInt8
  known : opcode ∈ opcodes
  size : (finalFrame opcode (some key) payload).encode.length ≤ BUF_SIZE

def ClientFrame.text (f : ClientFrame) : List UInt8 :=
  (finalFrame f.opcode (some f.key) f.payload).encode

/-- The frame that a client waits for: an echo of its data, a pong for its ping. -/
def ClientFrame.answer (f : ClientFrame) : Option (List UInt8) :=
  match f.opcode with
  | .WS_TEXT_FRAME | .WS_BINARY_FRAME => some (finalFrame f.opcode none f.payload).encode
  | .WS_PING_FRAME => some (finalFrame .WS_PONG_FRAME none f.payload).encode
  | _ => none

/-- The frames up to the first close frame, that one included. -/
def upToClose : List ClientFrame → List ClientFrame
  | [] => []
  | f :: fs => if f.opcode = .WS_CLOSING_FRAME then [f] else f :: upToClose fs

/-- The connection is closed and deleted. -/
def Reply.ends : Reply → Bool
  | .writeAndClose _ | .close => true
  | _ => false

/-- The frame that is written. -/
def Reply.frame : Reply → Option (List UInt8)
  | .write odata | .writeAndClose odata => some odata
  | _ => none

/-- The reads that are processed: none after the one that ends the connection. -/
def processed : List (List UInt8) → List (List UInt8)
  | [] => []
  | r :: rs => if (processReceived r).ends then [r] else r :: processed rs

/-- The length of the frame that a read begins with, as its header tells it. -/
def frameLength (read : List UInt8) : Nat :=
  let (payloadLength, payloadFieldExtraBytes, _) := getPayloadLength read .WS_EMPTY_FRAME
  2 + payloadFieldExtraBytes + 4 + payloadLength

/-- The reads are pieces of the stream of the frames. -/
structure Segments (frames : List ClientFrame) (reads : List (List UInt8)) : Prop where
  flatten : reads.flatten = (frames.map ClientFrame.text).flatten
  pieces : ∀ r ∈ reads, r ≠ [] ∧ r.length ≤ BUF_SIZE

/-- What a stream of frames leads to: the answers to the frames before the first close frame, in
order; a read is never more or less than the frame it begins with, so that nothing is dropped; and
no read gets to the `DNOTREACHED`. -/
structure StreamLaw (frames : List ClientFrame) (reads : List (List UInt8)) : Prop where
  written : ((processed reads).map processReceived).filterMap Reply.frame =
    (upToClose frames).filterMap ClientFrame.answer
  nothing_dropped : ∀ r ∈ processed reads, frameLength r = r.length
  reached : ∀ r ∈ processed reads, processReceived r ≠ .nothing

/-- Up to the first close frame every read is one frame, and none of these is a ping or a pong. -/
structure OneByOne (frames : List ClientFrame) (reads : List (List UInt8)) : Prop where
  reads : (upToClose frames).map ClientFrame.text <+: reads
  opcodes : ∀ f ∈ upToClose frames, f.opcode ≠ .WS_PING_FRAME ∧ f.opcode ≠ .WS_PONG_FRAME

variable {f : ClientFrame} {fs frames : List ClientFrame} {r : List UInt8}
  {rs reads : List (List UInt8)}

theorem ClientFrame.length_payload (f : ClientFrame) : f.payload.length ≤ BUF_SIZE := by
  have hsize := f.size
  rw [encode_eq f.known, List.length_append, f.key.length_mask] at hsize
  omega

theorem length_header (opcode : wsFrameType) (n : Nat) :
    (header opcode n).length = 2 + (lengthField n).2.length := by
  rw [header, List.length_cons, List.length_cons]
  omega

theorem ClientFrame.length_text (f : ClientFrame) :
    f.text.length = (header f.opcode f.payload.length).length + 4 + f.payload.length := by
  have hkey : f.key.bytes.length = 4 := rfl
  rw [text, encode_eq f.known, List.length_append, List.length_append, f.key.length_mask, hkey]

theorem ClientFrame.header_prefix (f : ClientFrame) :
    header f.opcode f.payload.length <+: f.text := by
  rw [text, encode_eq f.known, List.append_assoc]
  exact List.prefix_append _ _

theorem frameLength_header {n : Nat} (hn : n < 2 ^ 16) (opcode : wsFrameType) (rest : List UInt8) :
    frameLength (header opcode n ++ rest) = (header opcode n).length + 4 + n := by
  rw [frameLength, getPayloadLength_header hn, length_header]

/-- A read that ends inside a header gets to the `DNOTREACHED`. -/
theorem processReceived_short {opcode : wsFrameType} {n : Nat} (ho : opcode ∈ opcodes)
    (hn : n < 2 ^ 16) (hr : r <+: header opcode n) (hlt : r.length < (header opcode n).length) :
    processReceived r = .nothing := by
  have hlong : (header opcode n).length ≤ 4 := by
    rw [length_header, lengthField]
    split
    · exact Nat.le_add_left 2 2
    · rw [length_bigEndian]
  have hparse : wsParseInputFrame r = (.WS_INCOMPLETE_FRAME, []) := by
    rcases r with _ | ⟨b₀, _ | ⟨b₁, t⟩⟩
    · rfl
    · rfl
    · obtain ⟨hb₀, hr⟩ := List.cons_prefix_cons.1 hr
      obtain ⟨hb₁, _⟩ := List.cons_prefix_cons.1 hr
      have hfield : lengthField n = (126, bigEndian 2 n) := by
        rw [lengthField, if_neg, if_pos hn]
        intro hshort
        rw [length_header, lengthField, if_pos hshort] at hlt
        exact absurd hlt (by simp)
      obtain ⟨h₇, h₈, hfind⟩ := first_byte_checks ho
      obtain ⟨hmask, hbits⟩ := second_byte_checks (show 126 < 128 by decide)
      rw [hfield] at hb₁
      have h₀ : (b₀ :: b₁ :: t).getD 0 0 = 0x80 ||| opcode.value := hb₀
      have h₁ : (b₀ :: b₁ :: t).getD 1 0 = UInt8.ofNat (true.toNat * 128 + 126) := hb₁
      have hlt4 : (b₀ :: b₁ :: t).length < 4 := by omega
      have hget : getPayloadLength (b₀ :: b₁ :: t) opcode = (0, 0, .WS_INCOMPLETE_FRAME) := by
        rw [getPayloadLength, h₁, hbits]
        exact if_pos (.inl ⟨rfl, hlt4⟩)
      rw [wsParseInputFrame]
      simp only [h₀, h₁, h₇, h₈, hmask, hfind, hget, ne_eq, not_true_eq_false, if_false]
      exact if_neg (by simp)
  rw [processReceived, hparse]
  have hne : r.length ≠ BUF_LEN := by
    rw [BUF_LEN]
    omega
  simp [hne]

/-- A first read that is not answered by the `DNOTREACHED`, and that is as long as the frame it
begins with, is the first frame. -/
theorem first_read_eq (hseg : Segments (f :: fs) (r :: rs)) (hlen : frameLength r = r.length)
    (hne : processReceived r ≠ .nothing) : r = f.text := by
  have hn : f.payload.length < 2 ^ 16 := by
    have hle := f.length_payload
    rw [BUF_SIZE] at hle
    omega
  have hr : r <+: (r :: rs).flatten := List.prefix_append r rs.flatten
  have hf : f.text <+: (r :: rs).flatten := by
    rw [hseg.flatten]
    exact List.prefix_append f.text _
  have hh : header f.opcode f.payload.length <+: (r :: rs).flatten := f.header_prefix.trans hf
  by_cases hlt : r.length < (header f.opcode f.payload.length).length
  · have hpre := List.prefix_of_prefix_length_le hr hh hlt.le
    exact absurd (processReceived_short f.known hn hpre hlt) hne
  · obtain ⟨rest, rfl⟩ := List.prefix_of_prefix_length_le hh hr (not_lt.1 hlt)
    rw [frameLength_header hn, ← f.length_text] at hlen
    exact (List.prefix_of_prefix_length_le hr hf hlen.ge).eq_of_length hlen.symm

theorem processReceived_text (f : ClientFrame) :
    processReceived f.text =
      match f.opcode with
      | .WS_TEXT_FRAME | .WS_BINARY_FRAME => .write (finalFrame f.opcode none f.payload).encode
      | .WS_CLOSING_FRAME => .close
      | _ => .nothing := by
  obtain ⟨opcode, key, payload, ho, hsize⟩ := f
  have hle : payload.length ≤ BUF_SIZE := ClientFrame.length_payload ⟨opcode, key, payload, ho, hsize⟩
  have hfits : payload.length + 4 ≤ BUF_LEN := by
    rw [BUF_SIZE] at hle
    rw [BUF_LEN]
    omega
  have hparse : wsParseInputFrame (finalFrame opcode (some key) payload).encode =
      (opcode, payload) := by
    apply wsParseInputFrame_encode ho
    rw [BUF_SIZE] at hle
    omega
  simp only [opcodes, List.mem_cons, List.not_mem_nil, or_false] at ho
  rcases ho with rfl | rfl | rfl | rfl | rfl
  · exact processReceived_data (.inl rfl) key hfits
  · exact processReceived_data (.inr rfl) key hfits
  · rw [ClientFrame.text, processReceived, hparse]
    rfl
  · rw [ClientFrame.text, processReceived, hparse]
    rfl
  · rw [ClientFrame.text, processReceived, hparse]
    rfl

theorem frameLength_text (f : ClientFrame) : frameLength f.text = f.text.length := by
  obtain ⟨rest, hrest⟩ := f.header_prefix
  have hn : f.payload.length < 2 ^ 16 := by
    have hle := f.length_payload
    rw [BUF_SIZE] at hle
    omega
  rw [f.length_text, ← hrest, frameLength_header hn]

theorem ClientFrame.text_ne_nil (f : ClientFrame) : f.text ≠ [] := by
  rw [text, WireFrame.encode]
  exact List.cons_ne_nil _ _

theorem Segments.tail (h : Segments (f :: fs) (f.text :: rs)) : Segments fs rs :=
  ⟨List.append_cancel_left h.flatten, fun r hr => h.pieces r (List.mem_cons_of_mem _ hr)⟩

theorem Segments.nil (h : Segments [] reads) : reads = [] := by
  cases reads with
  | nil => rfl
  | cons r rs =>
    obtain ⟨hnil, _⟩ := List.append_eq_nil_iff.1 h.flatten
    exact absurd hnil (h.pieces r List.mem_cons_self).1

theorem Segments.ne_nil (h : Segments (f :: fs) reads) : reads ≠ [] := by
  rintro rfl
  exact f.text_ne_nil (List.append_eq_nil_iff.1 h.flatten.symm).1

theorem processed_of_ends (h : (processReceived r).ends = true) : processed (r :: rs) = [r] := by
  rw [processed, if_pos h]

theorem processed_of_stays (h : (processReceived r).ends = false) :
    processed (r :: rs) = r :: processed rs := by
  rw [processed, h]
  rfl

theorem upToClose_close (h : f.opcode = .WS_CLOSING_FRAME) : upToClose (f :: fs) = [f] := by
  rw [upToClose, if_pos h]

theorem upToClose_other (h : f.opcode ≠ .WS_CLOSING_FRAME) :
    upToClose (f :: fs) = f :: upToClose fs := by
  rw [upToClose, if_neg h]

/-- The law of a stream that begins with the echo of one frame is that of the rest. -/
theorem streamLaw_echo {odata : List UInt8} (hp : processReceived f.text = .write odata)
    (ha : f.answer = some odata) (hc : f.opcode ≠ .WS_CLOSING_FRAME) :
    StreamLaw (f :: fs) (f.text :: rs) ↔ StreamLaw fs rs := by
  have hread : processed (f.text :: rs) = f.text :: processed rs := by
    apply processed_of_stays
    rw [hp]
    rfl
  have hframe : (processReceived f.text).frame = some odata := by
    rw [hp]
    rfl
  constructor
  · intro h
    have hw := h.written
    rw [hread, upToClose_other hc, List.map_cons, List.filterMap_cons_some hframe,
      List.filterMap_cons_some ha] at hw
    have hd := h.nothing_dropped
    have hr := h.reached
    rw [hread] at hd hr
    exact ⟨(List.cons.inj hw).2, fun r hm => hd r (List.mem_cons_of_mem _ hm),
      fun r hm => hr r (List.mem_cons_of_mem _ hm)⟩
  · intro h
    refine ⟨?_, ?_, ?_⟩
    · rw [hread, upToClose_other hc, List.map_cons, List.filterMap_cons_some hframe,
        List.filterMap_cons_some ha, h.written]
    · rw [hread]
      exact List.forall_mem_cons.2 ⟨frameLength_text f, h.nothing_dropped⟩
    · rw [hread]
      refine List.forall_mem_cons.2 ⟨?_, h.reached⟩
      rw [hp]
      exact Reply.noConfusion

theorem streamLaw_close (hc : f.opcode = .WS_CLOSING_FRAME) :
    StreamLaw (f :: fs) (f.text :: rs) := by
  have hp : processReceived f.text = .close := by
    rw [processReceived_text, hc]
  have hread : processed (f.text :: rs) = [f.text] := by
    apply processed_of_ends
    rw [hp]
    rfl
  refine ⟨?_, ?_, ?_⟩
  · have ha : f.answer = none := by
      rw [ClientFrame.answer, hc]
    rw [hread, upToClose_close hc, List.filterMap_cons_none ha, List.map_singleton, hp]
    rfl
  · rw [hread]
    exact List.forall_mem_singleton.2 (frameLength_text f)
  · rw [hread]
    refine List.forall_mem_singleton.2 ?_
    rw [hp]
    exact Reply.noConfusion

theorem not_streamLaw_control (hc : f.opcode = .WS_PING_FRAME ∨ f.opcode = .WS_PONG_FRAME) :
    ¬ StreamLaw (f :: fs) (f.text :: rs) := by
  have hp : processReceived f.text = .nothing := by
    rw [processReceived_text]
    rcases hc with hc | hc <;> rw [hc]
  intro h
  have hread : processed (f.text :: rs) = f.text :: processed rs := by
    apply processed_of_stays
    rw [hp]
    rfl
  have hr := h.reached
  rw [hread] at hr
  exact hr f.text List.mem_cons_self hp

/-- What the law says of a first frame that comes in one read, and of what follows. -/
theorem streamLaw_cons_iff :
    StreamLaw (f :: fs) (f.text :: rs) ↔ f.opcode ≠ .WS_PING_FRAME ∧ f.opcode ≠ .WS_PONG_FRAME ∧
      (f.opcode = .WS_CLOSING_FRAME ∨ StreamLaw fs rs) := by
  have ho := f.known
  simp only [opcodes, List.mem_cons, List.not_mem_nil, or_false] at ho
  rcases ho with ho | ho | ho | ho | ho
  · have hp := processReceived_text f
    rw [ho] at hp
    rw [streamLaw_echo hp (by rw [ClientFrame.answer, ho]) (by rw [ho]; decide)]
    simp [ho]
  · have hp := processReceived_text f
    rw [ho] at hp
    rw [streamLaw_echo hp (by rw [ClientFrame.answer, ho]) (by rw [ho]; decide)]
    simp [ho]
  · simp [ho, streamLaw_close ho]
  · simp [ho, not_streamLaw_control (.inl ho)]
  · simp [ho, not_streamLaw_control (.inr ho)]

theorem oneByOne_cons_iff :
    OneByOne (f :: fs) (r :: rs) ↔ r = f.text ∧ f.opcode ≠ .WS_PING_FRAME ∧
      f.opcode ≠ .WS_PONG_FRAME ∧ (f.opcode = .WS_CLOSING_FRAME ∨ OneByOne fs rs) := by
  by_cases hc : f.opcode = .WS_CLOSING_FRAME
  · constructor
    · intro h
      have hr := h.reads
      have ho := h.opcodes
      rw [upToClose_close hc] at hr ho
      obtain ⟨hr, _⟩ := List.cons_prefix_cons.1 hr
      obtain ⟨hping, hpong⟩ := ho f (List.mem_singleton_self f)
      exact ⟨hr.symm, hping, hpong, .inl hc⟩
    · rintro ⟨rfl, hping, hpong, _⟩
      refine ⟨?_, ?_⟩
      · rw [upToClose_close hc]
        exact List.cons_prefix_cons.2 ⟨rfl, List.nil_prefix⟩
      · rw [upToClose_close hc]
        exact List.forall_mem_singleton.2 ⟨hping, hpong⟩
  · constructor
    · intro h
      have hr := h.reads
      have ho := h.opcodes
      rw [upToClose_other hc] at hr ho
      obtain ⟨hr, hrs⟩ := List.cons_prefix_cons.1 hr
      obtain ⟨⟨hping, hpong⟩, ho⟩ := List.forall_mem_cons.1 ho
      exact ⟨hr.symm, hping, hpong, .inr ⟨hrs, ho⟩⟩
    · rintro ⟨rfl, hping, hpong, hclose | h⟩
      · exact absurd hclose hc
      · refine ⟨?_, ?_⟩
        · rw [upToClose_other hc]
          exact List.cons_prefix_cons.2 ⟨rfl, h.reads⟩
        · rw [upToClose_other hc]
          exact List.forall_mem_cons.2 ⟨⟨hping, hpong⟩, h.opcodes⟩

/-- The law holds exactly of the streams that come in one frame a read, without pings and pongs. -/
theorem streamLaw_iff (hseg : Segments frames reads) :
    StreamLaw frames reads ↔ OneByOne frames reads := by
  induction frames generalizing reads with
  | nil =>
    rw [hseg.nil]
    constructor
    · exact fun _ => ⟨List.nil_prefix, nofun⟩
    · exact fun _ => ⟨rfl, nofun, nofun⟩
  | cons f fs ih =>
    cases reads with
    | nil => exact absurd rfl hseg.ne_nil
    | cons r rs =>
      by_cases hr : r = f.text
      · subst hr
        rw [streamLaw_cons_iff, oneByOne_cons_iff, ih hseg.tail]
        simp
      · rw [oneByOne_cons_iff]
        constructor
        · intro h
          have hmem : r ∈ processed (r :: rs) := by
            rw [processed]
            split <;> exact List.mem_cons_self
          exact absurd (first_read_eq hseg (h.nothing_dropped r hmem) (h.reached r hmem)) hr
        · exact fun h => absurd h.1 hr

def pingFrame : ClientFrame :=
  ⟨.WS_PING_FRAME, ⟨1, 2, 3, 4⟩, [], by decide, by decide⟩

def textFrame : ClientFrame :=
  ⟨.WS_TEXT_FRAME, ⟨1, 2, 3, 4⟩, [0x48, 0x69], by decide, by decide⟩

def binaryFrame : ClientFrame :=
  ⟨.WS_BINARY_FRAME, ⟨5, 6, 7, 8⟩, [0, 0xff, 1], by decide, by decide⟩

def closeFrame : ClientFrame :=
  ⟨.WS_CLOSING_FRAME, ⟨1, 2, 3, 4⟩, [], by decide, by decide⟩

/-- Frames one by one until a close frame, and behind it a ping in two pieces. -/
theorem streamLaw_closed :
    StreamLaw [textFrame, binaryFrame, closeFrame, pingFrame]
      [textFrame.text, binaryFrame.text, closeFrame.text, pingFrame.text.take 2,
        pingFrame.text.drop 2] := by
  apply (streamLaw_iff _).2
  · exact ⟨⟨[pingFrame.text.take 2, pingFrame.text.drop 2], rfl⟩, by decide⟩
  · exact ⟨by decide, by decide⟩

/-- A ping that comes in one read is not answered. -/
theorem not_streamLaw_ping :
    Segments [pingFrame] [pingFrame.text] ∧ ¬ StreamLaw [pingFrame] [pingFrame.text] := by
  refine ⟨⟨rfl, by decide⟩, ?_⟩
  intro h
  exact absurd h.written (by decide)

end WebSocketServerHandler

end SiteOnYourDevice
