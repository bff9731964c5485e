import SiteOnYourDevice.HttpClient
import SiteOnYourDevice.KeyedTable
import SiteOnYourDevice.Transition

namespace SiteOnYourDevice
open Transition KeyedTable
set_option relaxedAutoImplicit false
set_option autoImplicit true

/-- The types of the frames that `createStream` makes a stream for. -/
def frame_t.opens : frame_t → Bool
  | .HTTP2_DATA | .HTTP2_HEADERS | .HTTP2_PRIORITY | .HTTP2_SETTINGS => true
  | _ => false

/-- What a frame says of the stream it opens. -/
def frame_base.key (frame : frame_base) : Nat × frame_t := (frame.stream_id, frame.type)

namespace Http2Client

/-- The number and the type of a stream. -/
def streamKey (s : Option IStream) : Option (Nat × frame_t) := s.map fun s => (s.sid, s.type)

/-- The streams that are not null, by their numbers and types. -/
def table (c : Http2Client) : List (Nat × frame_t) :=
  c.streams_.filterMap streamKey

def NullFree (c : Http2Client) : Prop := none ∉ c.streams_

variable {c c' : Http2Client} {frame : frame_base} {p : IStream → Bool}

theorem createStream_eq (hv : frame.IsValid = true) :
    IStream.createStream frame =
      if frame.type.opens then some ⟨frame.type, frame.stream_id, false⟩ else none := by
  rw [IStream.createStream, if_pos hv]
  cases frame.type <;> rfl

theorem find_eq {streams : List (Option IStream)} (h : none ∉ streams) :
    IStream.find p streams = some ((streams.filterMap id).find? p) := by
  induction streams with
  | nil => rfl
  | cons s streams ih =>
    rw [List.mem_cons, not_or] at h
    cases s with
    | none => exact absurd rfl h.1
    | some s =>
      rw [IStream.find]
      cases hp : p s with
      | true => simp only [List.filterMap_cons, id, List.find?_cons, hp, if_true]
      | false =>
        simp only [List.filterMap_cons, id, List.find?_cons, hp, Bool.false_eq_true, if_false]
        exact ih h.2

theorem processFrameImpl_key (s : IStream) (frame : frame_base) :
    streamKey (some (s.processFrameImpl frame).1) = streamKey (some s) := by
  rw [IStream.processFrameImpl]
  split
  · split
    · rfl
    · split <;> rfl
  · rfl
  · rfl

/-- A scan that finds nothing has met every stream of the table. -/
theorem find_table {streams : List (Option IStream)} (h : none ∉ streams) (sid : Nat) :
    (IStream.find (·.sid = sid) streams = some none ↔
        sid ∉ (streams.filterMap streamKey).map Prod.fst) ∧
      ∀ s, IStream.find (·.sid = sid) streams = some (some s) →
        s.sid = sid ∧ sid ∈ (streams.filterMap streamKey).map Prod.fst := by
  have hkeys : (streams.filterMap streamKey).map Prod.fst =
      (streams.filterMap id).map IStream.sid := by
    rw [List.map_filterMap, List.map_filterMap]
    congr 1
    funext s
    cases s <;> rfl
  rw [find_eq h, hkeys]
  constructor
  · simp only [Option.some.injEq, List.find?_eq_none, decide_eq_true_eq, List.mem_map, not_exists,
      not_and]
  · intro s hs
    have hfound := Option.some.inj hs
    have hsid : s.sid = sid := by
      have hp := List.find?_some hfound
      exact of_decide_eq_true hp
    exact ⟨hsid, List.mem_map.2 ⟨s, List.mem_of_find?_eq_some hfound, hsid⟩⟩

/-- The table is the same, with the stream that the scan found in another state. -/
theorem replace_table {streams : List (Option IStream)} {s s' : IStream} (h : none ∉ streams)
    (hf : IStream.find p streams = some (some s))
    (hk : streamKey (some s') = streamKey (some s)) :
    none ∉ IStream.replace p (some s') streams ∧
      (IStream.replace p (some s') streams).filterMap streamKey = streams.filterMap streamKey := by
  induction streams with
  | nil => cases hf
  | cons d streams ih =>
    rw [List.mem_cons, not_or] at h
    cases d with
    | none => exact absurd rfl h.1
    | some d =>
      rw [IStream.find] at hf
      rw [IStream.replace]
      split at hf
      · rename_i hp
        cases hf
        rw [if_pos hp, List.mem_cons, not_or]
        refine ⟨⟨nofun, h.2⟩, ?_⟩
        rw [List.filterMap_cons, List.filterMap_cons, hk]
      · rename_i hp
        obtain ⟨hnot, htab⟩ := ih h.2 hf
        rw [if_neg hp, List.mem_cons, not_or]
        refine ⟨⟨nofun, hnot⟩, ?_⟩
        rw [List.filterMap_cons, List.filterMap_cons, htab]

/-- A frame of a known stream, or one that opens its stream, changes the table as it should. -/
theorem processFrame_table (hn : NullFree c) (hv : frame.IsValid = true)
    (ho : frame.stream_id ∈ c.table.map Prod.fst ∨ frame.type.opens = true) :
    ∃ c', c.processFrame frame = some c' ∧ NullFree c' ∧
      c'.table = insertNew c.table frame.key := by
  obtain ⟨hnone, hsome⟩ := find_table hn frame.stream_id
  rw [processFrame, findStreamByStreamID]
  cases hf : IStream.find (·.sid = frame.stream_id) c.streams_ with
  | none =>
    rw [find_eq hn] at hf
    cases hf
  | some found =>
    cases found with
    | some s =>
      obtain ⟨hsid, hmem⟩ := hsome s hf
      obtain ⟨hn', htab⟩ := replace_table hn hf (processFrameImpl_key s frame)
      rw [insertNew_known hmem]
      simp only [Option.bind_some, IStream.processFrame, if_pos hv, Option.map_some]
      exact ⟨_, rfl, hn', htab⟩
    | none =>
      have hnew := hnone.1 hf
      have hopens := ho.resolve_left hnew
      rw [insertNew_new hnew]
      simp only [Option.bind_some, createStream_eq hv, if_pos hopens, IStream.processFrame,
        if_pos hv, Option.map_some]
      refine ⟨_, rfl, ?_, ?_⟩
      · intro hmem
        rcases List.mem_append.1 hmem with hmem | hmem
        · exact hn hmem
        · cases List.mem_singleton.1 hmem
      · simp only [Write, table, List.filterMap_append, List.filterMap_cons, List.filterMap_nil,
          processFrameImpl_key]
        rfl

/-- Any other frame is processed by a null stream. -/
theorem processFrame_null (hn : NullFree c) (hv : frame.IsValid = true)
    (hnew : frame.stream_id ∉ c.table.map Prod.fst) (hopens : frame.type.opens = false) :
    c.processFrame frame = none := by
  have hf := (find_table hn frame.stream_id).1.2 hnew
  rw [processFrame, findStreamByStreamID, hf]
  simp only [Option.bind_some, createStream_eq hv, hopens, Bool.false_eq_true, if_false,
    IStream.processFrame, if_pos hv, Option.map_none]

/-- A frame of a number that no earlier frame has opens a stream. -/
def OpensStreams (frames : List frame_base) : Prop :=
  ∀ pre frame suf, frames = pre ++ frame :: suf → (∀ f ∈ pre, f.stream_id ≠ frame.stream_id) →
    frame.type.opens = true

/-- A stream type that has frames of its own. -/
def Opens (e : Nat × frame_t) : Prop := e.2.opens = true

theorem opensStreams_iff (frames : List frame_base) :
    OpensStreams frames ↔ FirstsFrom Opens [] (frames.map frame_base.key) := by
  rw [firstsFrom_iff]
  constructor
  · intro h pre e suf hsplit _ hpre
    obtain ⟨pre', rest, rfl, rfl, hrest⟩ := List.map_eq_append_iff.1 hsplit
    obtain ⟨frame, suf', rfl, rfl, rfl⟩ := List.map_eq_cons_iff.1 hrest
    apply h pre' frame suf' rfl
    intro f hf heq
    apply hpre
    rw [List.map_map]
    exact List.mem_map.2 ⟨f, hf, heq⟩
  · intro h pre frame suf hsplit hpre
    apply h (pre.map frame_base.key) frame.key (suf.map frame_base.key) _ List.not_mem_nil
    · rw [List.map_map]
      intro hmem
      obtain ⟨f, hf, heq⟩ := List.mem_map.1 hmem
      exact hpre f hf heq
    · rw [hsplit, List.map_append, List.map_cons]

/-- The frames of a batch meet no null stream exactly when each of them is of a known stream or
opens its own. -/
theorem processFrames_table {frames : List frame_base} (hn : NullFree c)
    (hv : ∀ f ∈ frames, f.IsValid = true) :
    (FirstsFrom Opens c.table (frames.map frame_base.key) →
      ∃ c', c.processFrames frames = some c' ∧ NullFree c' ∧
        c'.table = (frames.map frame_base.key).foldl insertNew c.table) ∧
    (¬ FirstsFrom Opens c.table (frames.map frame_base.key) → c.processFrames frames = none) := by
  induction frames generalizing c with
  | nil => exact ⟨fun _ => ⟨c, rfl, hn, rfl⟩, fun h => absurd trivial h⟩
  | cons frame frames ih =>
    have hvf := hv frame List.mem_cons_self
    have hvr : ∀ f ∈ frames, f.IsValid = true := fun f hf => hv f (List.mem_cons_of_mem _ hf)
    rw [processFrames, List.map_cons, FirstsFrom]
    by_cases ho : frame.stream_id ∈ c.table.map Prod.fst ∨ frame.type.opens = true
    · obtain ⟨c', hc', hn', htab⟩ := processFrame_table hn hvf ho
      have hfirst : frame.key.1 ∉ c.table.map Prod.fst → Opens frame.key :=
        fun hnew => ho.resolve_left hnew
      have hrest := ih hn' hvr
      rw [hc', Option.bind_some, List.foldl_cons, ← htab]
      refine ⟨fun h => hrest.1 h.2, fun h => hrest.2 fun hr => h ⟨hfirst, hr⟩⟩
    · rw [not_or, Bool.not_eq_true] at ho
      rw [processFrame_null hn hvf ho.1 ho.2]
      refine ⟨fun h => ?_, fun _ => rfl⟩
      have hopens : frame.type.opens = true := h.1 ho.1
      rw [ho.2] at hopens
      cases hopens

theorem batches_table {batches : List (List frame_base)} (hn : NullFree c)
    (hv : ∀ batch ∈ batches, ∀ f ∈ batch, f.IsValid = true) :
    ((∃ c', run processFrames c batches = some c') ∧ Always processFrames NullFree c batches) ↔
      FirstsFrom Opens c.table (batches.flatten.map frame_base.key) := by
  induction batches generalizing c with
  | nil => exact ⟨fun _ => trivial, fun _ => ⟨⟨c, rfl⟩, hn, trivial⟩⟩
  | cons batch batches ih =>
    have hvb := hv batch List.mem_cons_self
    have hvr : ∀ b ∈ batches, ∀ f ∈ b, f.IsValid = true :=
      fun b hb => hv b (List.mem_cons_of_mem _ hb)
    obtain ⟨hok, hnull⟩ := processFrames_table hn hvb
    rw [List.flatten_cons, List.map_append, firstsFrom_append]
    by_cases hf : FirstsFrom Opens c.table (batch.map frame_base.key)
    · obtain ⟨c₁, hc₁, hn₁, htab⟩ := hok hf
      have hiff := ih hn₁ hvr
      rw [htab] at hiff
      rw [run_cons hc₁, ← hiff]
      constructor
      · rintro ⟨hr, _, ha⟩
        obtain ⟨_, ha'⟩ := ha c₁ hc₁
        exact ⟨hf, hr, hn₁, ha'⟩
      · rintro ⟨_, hr, _, ha⟩
        exact ⟨hr, hn, Along.cons hc₁ hn₁ ha⟩
    · rw [run, hnull hf]
      constructor
      · rintro ⟨⟨_, h⟩, _⟩
        cases h
      · intro h
        exact absurd h.1 hf

/-- On a connection that receives batches of valid frames, no null stream is stored or used exactly
when the first frame of every stream is one that opens a stream. -/
theorem nullFree_iff (batches : List (List frame_base))
    (hv : ∀ batch ∈ batches, ∀ f ∈ batch, f.IsValid = true) :
    ((∃ c', run processFrames new batches = some c') ∧
        Always processFrames NullFree new batches) ↔
      OpensStreams batches.flatten := by
  rw [opensStreams_iff]
  exact batches_table List.not_mem_nil hv

/-- `PING` on a connection that has no stream of its number. -/
def pingFirst : List (List frame_base) := [[⟨.HTTP2_PING, 0, 0, [], true⟩]]

theorem pingFirst_null :
    ¬ ((∃ c', run processFrames new pingFirst = some c') ∧
        Always processFrames NullFree new pingFirst) := by
  intro ⟨⟨c', hc'⟩, _⟩
  cases hc'

/-- `SETTINGS` and then `PING`, both of the stream 0. -/
def settingsFirst : List (List frame_base) :=
  [[⟨.HTTP2_SETTINGS, 0, 0, [], true⟩], [⟨.HTTP2_PING, 0, 0, [], true⟩]]

theorem nullFree_iff_settingsFirst :
    ((∃ c', run processFrames new settingsFirst = some c') ∧
        Always processFrames NullFree new settingsFirst) ↔
      OpensStreams settingsFirst.flatten := by
  apply nullFree_iff
  decide

end Http2Client

end SiteOnYourDevice
