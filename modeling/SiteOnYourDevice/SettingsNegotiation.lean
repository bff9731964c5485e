import SiteOnYourDevice.DispatchTable
import SiteOnYourDevice.StreamTable

namespace SiteOnYourDevice
set_option relaxedAutoImplicit false
set_option autoImplicit true

namespace Http2Client

/-- `isSettingNegotiated`; `none` when its `CHECK` fails or a null stream is used. -/
def isSettingNegotiated (c : Http2Client) : Option Bool :=
  (c.findStreamByStreamID 0).bind fun
    | none => some false
    | some settings =>
      if settings.type = .HTTP2_SETTINGS then some settings.negotiated_ else none

/-- The place in `streams_` of the stream of a frame: the first one with its number, or the end. -/
def place (c : Http2Client) (frame : frame_base) : Nat :=
  c.streams_.findIdx fun stream => stream.any (·.sid = frame.stream_id)

/-- `stream->processFrame(frame)` for the stream at a place. -/
def receive (c : Http2Client) (place : Nat) (frame : frame_base) : Option Http2Client :=
  c.streams_[place]?.bind fun stream =>
    (IStream.processFrame stream frame).map fun (stream', w) =>
      { c with streams_ := c.streams_.set place stream' }.Write w

/-- The body of the loop of `processFrames`, with the place of the stream that gets the frame. -/
def deliver (c : Http2Client) (frame : frame_base) : Option (Nat × Http2Client) :=
  (c.findStreamByStreamID frame.stream_id).bind fun found =>
    let c' := if found.isSome then c else
      { c with streams_ := c.streams_ ++ [IStream.createStream frame] }
    (c'.receive (c.place frame) frame).map (c.place frame, ·)

/-- The loop, with every frame and the place it went to. -/
def deliverAll (c : Http2Client) :
    List frame_base → Option (List (Nat × frame_base) × Http2Client)
  | [] => some ([], c)
  | frame :: frames =>
    (c.deliver frame).bind fun (place, c') =>
      (c'.deliverAll frames).map fun (log, c'') => ((place, frame) :: log, c'')

/-- The numbers of the streams. -/
def sids (c : Http2Client) : List (Option Nat) := c.streams_.map (Option.map IStream.sid)

end Http2Client

/-- A frame that acknowledges the settings of the connection. -/
def frame_base.AcksSettings (f : frame_base) : Prop :=
  f.stream_id = 0 ∧ f.type = .HTTP2_SETTINGS ∧ f.flags &&& HTTP2_FLAG_ACK ≠ 0

namespace Http2Client

/-- A client that has processed some frames: its streams have different numbers, every frame went
once, to the stream with its number, and the state of the negotiation is defined. -/
structure Negotiated (frames : List frame_base) (log : List (Nat × frame_base))
    (c : Http2Client) : Prop where
  distinct : c.sids.Nodup
  once : log.map Prod.snd = frames
  own : ∀ d ∈ log, c.sids[d.1]? = some (some d.2.stream_id)
  negotiated : ∃ b, c.isSettingNegotiated = some b ∧
    (b = true ↔ ∃ f ∈ frames, f.AcksSettings)

/-- A scan passes streams that are not null and do not fit. -/
def Passed (p : IStream → Bool) (stream : Option IStream) : Prop :=
  ∃ s, stream = some s ∧ p s = false

theorem find_cases {p : IStream → Bool} {streams : List (Option IStream)} {found : Option IStream}
    (h : IStream.find p streams = some found) :
    (found = none ∧ ∀ stream ∈ streams, Passed p stream) ∨
      ∃ pre s suf, found = some s ∧ streams = pre ++ some s :: suf ∧ p s = true ∧
        ∀ stream ∈ pre, Passed p stream := by
  induction streams with
  | nil =>
    cases h
    exact .inl ⟨rfl, fun _ hmem => absurd hmem List.not_mem_nil⟩
  | cons stream streams ih =>
    cases stream with
    | none => cases h
    | some s =>
      rw [IStream.find] at h
      cases hs : p s with
      | true =>
        rw [hs, if_pos rfl] at h
        cases h
        exact .inr ⟨[], s, streams, rfl, rfl, hs, fun _ hmem => absurd hmem List.not_mem_nil⟩
      | false =>
        rw [hs, if_neg Bool.false_ne_true] at h
        have hpassed : Passed p (some s) := ⟨s, rfl, hs⟩
        rcases ih h with ⟨rfl, hall⟩ | ⟨pre, s', suf, rfl, rfl, hs', hpre⟩
        · exact .inl ⟨rfl, List.forall_mem_cons.2 ⟨hpassed, hall⟩⟩
        · exact .inr ⟨some s :: pre, s', suf, rfl, rfl, hs', List.forall_mem_cons.2 ⟨hpassed, hpre⟩⟩

theorem findIdx_passed {p : IStream → Bool} {pre : List (Option IStream)}
    (h : ∀ stream ∈ pre, Passed p stream) (suf : List (Option IStream)) :
    (pre ++ suf).findIdx (Option.any p) = suf.findIdx (Option.any p) + pre.length := by
  induction pre with
  | nil => rfl
  | cons stream pre ih =>
    rw [List.forall_mem_cons] at h
    obtain ⟨⟨s, rfl, hs⟩, hpre⟩ := h
    rw [List.cons_append, List.findIdx_cons, Option.any_some, hs, cond_false, ih hpre]
    rfl

theorem replace_passed {p : IStream → Bool} {pre : List (Option IStream)} {s : IStream}
    (h : ∀ stream ∈ pre, Passed p stream) (hs : p s = true) (s' : Option IStream)
    (suf : List (Option IStream)) :
    IStream.replace p s' (pre ++ some s :: suf) = pre ++ s' :: suf := by
  induction pre with
  | nil => rw [List.nil_append, List.nil_append, IStream.replace, if_pos hs]
  | cons stream pre ih =>
    rw [List.forall_mem_cons] at h
    obtain ⟨⟨d, rfl, hd⟩, hpre⟩ := h
    rw [List.cons_append, List.cons_append, IStream.replace, hd, if_neg Bool.false_ne_true,
      ih hpre]

/-- The place is only looked at. -/
theorem deliver_eq (c : Http2Client) (frame : frame_base) :
    (c.deliver frame).map Prod.snd = c.processFrame frame := by
  rw [deliver, processFrame, findStreamByStreamID]
  cases hf : IStream.find (·.sid = frame.stream_id) c.streams_ with
  | none => rfl
  | some found =>
    rw [Option.bind_some, Option.bind_some]
    rcases find_cases hf with ⟨rfl, hall⟩ | ⟨pre, s, suf, rfl, hstreams, hs, hpre⟩
    · have hplace : c.place frame = c.streams_.length := by
        have h := findIdx_passed hall []
        rw [List.append_nil, List.findIdx_nil, Nat.zero_add] at h
        exact h
      simp only [Option.isSome_none, Bool.false_eq_true, if_false, hplace, receive,
        List.getElem?_append_right (Nat.le_refl _), Nat.sub_self, List.getElem?_cons_zero,
        Option.bind_some, Option.map_map]
      cases IStream.processFrame (IStream.createStream frame) frame with
      | none => rfl
      | some out =>
        simp only [Option.map_some, Function.comp, List.set_append_right _ _ (Nat.le_refl _),
          Nat.sub_self, List.set_cons_zero]
    · have hplace : c.place frame = pre.length := by
        have h := findIdx_passed hpre (some s :: suf)
        rw [← hstreams, List.findIdx_cons, Option.any_some, hs, cond_true, Nat.zero_add] at h
        exact h
      simp only [Option.isSome_some, if_true, hplace, receive, hstreams,
        List.getElem?_append_right (Nat.le_refl _), Nat.sub_self, List.getElem?_cons_zero,
        Option.bind_some, Option.map_map]
      cases IStream.processFrame (some s) frame with
      | none => rfl
      | some out =>
        simp only [Option.map_some, Function.comp, List.set_append_right _ _ (Nat.le_refl _),
          Nat.sub_self, List.set_cons_zero, replace_passed hpre hs]

theorem deliverAll_eq (c : Http2Client) (frames : List frame_base) :
    (c.deliverAll frames).map Prod.snd = c.processFrames frames := by
  induction frames generalizing c with
  | nil => rfl
  | cons frame frames ih =>
    rw [deliverAll, processFrames, ← deliver_eq]
    cases c.deliver frame with
    | none => rfl
    | some out =>
      rw [Option.bind_some, Option.map_some, Option.bind_some, ← ih, Option.map_map]
      rfl

/-- The streams as cells that are addressed by the numbers of frames. -/
def streamTable : DispatchTable IStream frame_base Nat where
  key := IStream.sid
  address := frame_base.stream_id
  create frame := ⟨frame.type, frame.stream_id, false⟩
  step s frame := (s.processFrameImpl frame).1
  key_create _ := rfl
  key_step s frame := congrArg Prod.fst (Option.some.inj (processFrameImpl_key s frame))

variable {c : Http2Client} {streams : List IStream} {frame : frame_base} {frames : List frame_base}

theorem find_streams (p : IStream → Bool) (streams : List IStream) :
    IStream.find p (streams.map some) = some (streams.find? p) := by
  have hnone : none ∉ streams.map some := by simp
  rw [find_eq hnone, List.filterMap_map]
  exact congrArg (fun l => some (List.find? p l)) List.filterMap_some

theorem place_streams (hc : c.streams_ = streams.map some) (frame : frame_base) :
    c.place frame = streamTable.place streams frame := by
  rw [place, hc]
  clear hc
  induction streams with
  | nil => rfl
  | cons s streams ih =>
    rw [List.map_cons, List.findIdx_cons, ih, Option.any_some, DispatchTable.place]
    by_cases h : s.sid = frame.stream_id
    · have hkey : streamTable.key s = streamTable.address frame := h
      rw [decide_eq_true h, cond_true, if_pos hkey]
    · have hkey : ¬ streamTable.key s = streamTable.address frame := h
      rw [decide_eq_false h, cond_false, if_neg hkey]

/-- A frame on streams that are not null is dispatched. -/
theorem deliver_streams (hc : c.streams_ = streams.map some) (hv : frame.IsValid = true)
    (ho : frame.type.opens = true) :
    ∃ c', c.deliver frame = some (streamTable.place streams frame, c') ∧
      c'.streams_ = (streamTable.dispatch streams frame).map some := by
  have hfind : c.findStreamByStreamID frame.stream_id =
      some (streamTable.cell streams frame.stream_id) := by
    rw [findStreamByStreamID, hc]
    exact find_streams _ _
  rw [deliver, hfind, place_streams hc, Option.bind_some]
  cases hcell : streamTable.cell streams frame.stream_id with
  | none =>
    obtain ⟨hlast, hnew⟩ := DispatchTable.dispatch_new hcell
    have hplace : streamTable.place streams frame = (streams.map some).length :=
      hlast.trans (List.length_map _).symm
    rw [hnew, hplace]
    simp only [Option.isSome_none, Bool.false_eq_true, if_false, receive, hc,
      List.getElem?_append_right (Nat.le_refl _), Nat.sub_self, List.getElem?_cons_zero,
      Option.bind_some, createStream_eq hv, if_pos ho, IStream.processFrame, if_pos hv,
      Option.map_some, List.set_append_right _ _ (Nat.le_refl _), List.set_cons_zero]
    refine ⟨_, rfl, ?_⟩
    rw [List.map_append]
    rfl
  | some s =>
    obtain ⟨hget, hset⟩ := DispatchTable.dispatch_known hcell
    simp only [Option.isSome_some, if_true, receive, hc, List.getElem?_map, hget, Option.map_some,
      Option.bind_some, IStream.processFrame, if_pos hv, ← hset]
    refine ⟨_, rfl, ?_⟩
    rw [List.map_set]
    rfl

/-- By induction over the frames: the loop dispatches each of them. -/
theorem deliverAll_streams (hc : c.streams_ = streams.map some)
    (hv : ∀ f ∈ frames, f.IsValid = true) (ho : ∀ f ∈ frames, f.type.opens = true) :
    ∃ c', c.deliverAll frames = some (streamTable.log streams frames, c') ∧
      c'.streams_ = (frames.foldl streamTable.dispatch streams).map some := by
  induction frames generalizing c streams with
  | nil => exact ⟨c, rfl, hc⟩
  | cons frame frames ih =>
    rw [List.forall_mem_cons] at hv ho
    obtain ⟨c', hdeliver, hc'⟩ := deliver_streams hc hv.1 ho.1
    obtain ⟨c'', hall, hc''⟩ := ih hc' hv.2 ho.2
    refine ⟨c'', ?_, hc''⟩
    simp only [deliverAll, hdeliver, Option.bind_some, hall, Option.map_some, DispatchTable.log]

/-- A stream of settings remembers that they were acknowledged. -/
theorem processFrameImpl_negotiated {s : IStream} (hs : s.type = .HTTP2_SETTINGS)
    (frame : frame_base) :
    (s.processFrameImpl frame).1.negotiated_ = true ↔ s.negotiated_ = true ∨
      (frame.type = .HTTP2_SETTINGS ∧ frame.flags &&& HTTP2_FLAG_ACK ≠ 0) := by
  simp only [IStream.processFrameImpl, hs]
  split
  · rename_i ht
    simp only [Bool.or_eq_true, decide_eq_true_eq, ht, true_and]
  · rename_i ht
    simp only [ht, false_and, or_false]
    split
    · rfl
    · rfl

/-- By induction over the frames of a stream: its class is that of its first frame. -/
theorem foldl_feed (s : IStream) (frames : List frame_base) :
    ∃ s', frames.foldl streamTable.feed (some s) = some s' ∧ s'.type = s.type ∧
      (s.type = .HTTP2_SETTINGS → (s'.negotiated_ = true ↔ s.negotiated_ = true ∨
        ∃ f ∈ frames, f.type = .HTTP2_SETTINGS ∧ f.flags &&& HTTP2_FLAG_ACK ≠ 0)) := by
  induction frames generalizing s with
  | nil =>
    refine ⟨s, rfl, rfl, fun _ => ⟨.inl, ?_⟩⟩
    rintro (h | ⟨f, hf, _⟩)
    · exact h
    · cases hf
  | cons frame frames ih =>
    have htype : (s.processFrameImpl frame).1.type = s.type :=
      congrArg Prod.snd (Option.some.inj (processFrameImpl_key s frame))
    obtain ⟨s', hfold, htype', hnegotiated⟩ := ih (s.processFrameImpl frame).1
    refine ⟨s', hfold, htype'.trans htype, fun hs => ?_⟩
    rw [hnegotiated (htype.trans hs), processFrameImpl_negotiated hs, or_assoc]
    simp only [List.exists_mem_cons_iff]

/-- What the client knows of its settings, by the first frame of stream 0. -/
theorem isSettingNegotiated_iff
    (hc : c.streams_ = (frames.foldl streamTable.dispatch []).map some) :
    (∃ b, c.isSettingNegotiated = some b ∧ (b = true ↔ ∃ f ∈ frames, f.AcksSettings)) ↔
      ∀ f ∈ frames.find? (·.stream_id = 0), f.type = .HTTP2_SETTINGS := by
  have hcell : streamTable.cell (frames.foldl streamTable.dispatch []) 0 =
      (frames.filter (·.stream_id = 0)).foldl streamTable.feed none :=
    DispatchTable.cell_run [] frames 0
  have hfind : c.findStreamByStreamID 0 =
      some (streamTable.cell (frames.foldl streamTable.dispatch []) 0) := by
    rw [findStreamByStreamID, hc]
    exact find_streams _ _
  have hacks : (∃ f ∈ frames, f.AcksSettings) ↔ ∃ f ∈ frames.filter (·.stream_id = 0),
      f.type = .HTTP2_SETTINGS ∧ f.flags &&& HTTP2_FLAG_ACK ≠ 0 := by
    simp only [frame_base.AcksSettings, List.mem_filter, decide_eq_true_eq, and_assoc]
  rw [isSettingNegotiated, hfind, Option.bind_some, hcell, hacks, ← List.head?_filter]
  cases frames.filter (·.stream_id = 0) with
  | nil =>
    have hno : ¬ ∃ f ∈ ([] : List frame_base),
        f.type = .HTTP2_SETTINGS ∧ f.flags &&& HTTP2_FLAG_ACK ≠ 0 := by
      rintro ⟨f, hf, _⟩
      cases hf
    constructor
    · intro _ f hf
      cases hf
    · intro _
      exact ⟨false, rfl, fun h => Bool.noConfusion h, fun h => absurd h hno⟩
  | cons f rest =>
    obtain ⟨s, hfold, htype, hnegotiated⟩ := foldl_feed (streamTable.create f) (f :: rest)
    have hfold' : (f :: rest).foldl streamTable.feed none = some s := hfold
    rw [hfold', List.head?_cons]
    constructor
    · rintro ⟨b, hb, _⟩ g hg
      cases hg
      by_contra hne
      have hclass : ¬ s.type = .HTTP2_SETTINGS := fun h => hne (htype.symm.trans h)
      dsimp only at hb
      rw [if_neg hclass] at hb
      cases hb
    · intro h
      have hsettings : f.type = .HTTP2_SETTINGS := h f rfl
      refine ⟨s.negotiated_, if_pos (htype.trans hsettings), ?_⟩
      rw [hnegotiated hsettings]
      exact or_iff_right Bool.false_ne_true

/-- After any frames with streams of their own everything but the negotiation is as it should. -/
theorem negotiated_new (hv : ∀ f ∈ frames, f.IsValid = true)
    (ho : ∀ f ∈ frames, f.type.opens = true) :
    ∃ log c, new.processFrames frames = some c ∧ new.deliverAll frames = some (log, c) ∧
      (Negotiated frames log c ↔
        ∀ f ∈ frames.find? (·.stream_id = 0), f.type = .HTTP2_SETTINGS) := by
  have hnew : new.streams_ = ([] : List IStream).map some := rfl
  obtain ⟨c, hall, hc⟩ := deliverAll_streams hnew hv ho
  have hprocess := deliverAll_eq new frames
  rw [hall, Option.map_some] at hprocess
  have hsids : c.sids = ((frames.foldl streamTable.dispatch []).map streamTable.key).map some := by
    rw [sids, hc, List.map_map, List.map_map]
    rfl
  refine ⟨streamTable.log [] frames, c, hprocess.symm, hall, ?_⟩
  rw [← isSettingNegotiated_iff hc]
  constructor
  · exact Negotiated.negotiated
  · intro hnegotiated
    refine ⟨?_, DispatchTable.log_events [] frames, ?_, hnegotiated⟩
    · have hnodup := DispatchTable.nodup_run (T := streamTable) (t := []) List.nodup_nil frames
      rw [hsids]
      exact hnodup.map (Option.some_injective _)
    · intro d hd
      rw [hsids, List.getElem?_map, DispatchTable.log_place [] frames d hd, Option.map_some]
      rfl

/-- The negotiation is defined all along when the first frame of stream 0 is `SETTINGS`. -/
theorem negotiated_iff (hv : ∀ f ∈ frames, f.IsValid = true)
    (ho : ∀ f ∈ frames, f.type.opens = true) :
    (∀ done, done <+: frames → ∃ log c, new.processFrames done = some c ∧
        new.deliverAll done = some (log, c) ∧ Negotiated done log c) ↔
      ∀ f ∈ frames.find? (·.stream_id = 0), f.type = .HTTP2_SETTINGS := by
  constructor
  · intro h
    obtain ⟨log, c, _, hall, hdone⟩ := h frames (List.prefix_refl _)
    obtain ⟨log', c', _, hall', hiff⟩ := negotiated_new hv ho
    rw [hall] at hall'
    cases hall'
    exact hiff.1 hdone
  · rintro h done ⟨rest, rfl⟩
    have hv' : ∀ f ∈ done, f.IsValid = true := fun f hf => hv f (List.mem_append_left _ hf)
    have ho' : ∀ f ∈ done, f.type.opens = true := fun f hf => ho f (List.mem_append_left _ hf)
    obtain ⟨log, c, hprocess, hall, hiff⟩ := negotiated_new hv' ho'
    refine ⟨log, c, hprocess, hall, hiff.2 fun f hf => h f ?_⟩
    rw [List.find?_append, hf]
    rfl

/-- Settings, a request, and the acknowledgement. -/
def settingsAcked : List frame_base :=
  [⟨.HTTP2_SETTINGS, 0, 0, [], true⟩, ⟨.HTTP2_HEADERS, 4, 1, [], true⟩,
    ⟨.HTTP2_SETTINGS, HTTP2_FLAG_ACK, 0, [], true⟩]

theorem negotiated_iff_settingsAcked :
    ((∀ f ∈ settingsAcked, f.IsValid = true) ∧ ∀ f ∈ settingsAcked, f.type.opens = true) ∧
      ∀ done, done <+: settingsAcked → ∃ log c, new.processFrames done = some c ∧
        new.deliverAll done = some (log, c) ∧ Negotiated done log c :=
  ⟨⟨by decide, by decide⟩, (negotiated_iff (by decide) (by decide)).2 (by decide)⟩

/-- A first frame on stream 0 that has another type fails the `CHECK`. -/
theorem not_negotiated_priority :
    ¬ ∃ log c, new.processFrames [⟨.HTTP2_PRIORITY, 0, 0, [], true⟩] = some c ∧
      new.deliverAll [⟨.HTTP2_PRIORITY, 0, 0, [], true⟩] = some (log, c) ∧
      Negotiated [⟨.HTTP2_PRIORITY, 0, 0, [], true⟩] log c := by
  rintro ⟨log, c, hprocess, _, hnegotiated⟩
  obtain ⟨b, hb, _⟩ := hnegotiated.negotiated
  cases hprocess
  cases hb

end Http2Client

end SiteOnYourDevice
