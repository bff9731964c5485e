import SiteOnYourDevice.HttpServerHost
import SiteOnYourDevice.Transition

namespace SiteOnYourDevice
open CString Transition
set_option relaxedAutoImplicit false
set_option autoImplicit true

def BUF_SIZE : Nat := 4096

/-- The outcome of a `Write`: how many bytes were taken, and whether it reported an error. -/
structure WriteOutcome where
  accepted : Nat
  err : Bool

/-- A `Write` of a relay: the bytes `source` sent go to `dest`. -/
structure Relayed where
  dest : ClientId
  source : ClientId
  data : Str
deriving DecidableEq

/-- A `RelayHandler` and its loop. `clients_` are the connections registered in the loop,
`deleted` the ones that were closed and deleted, `queue` the callbacks of `setClient` that wait
for the loop, each with the request it holds and the client it came with. -/
structure RelayHandler where
  client_primary_ : Option ClientId
  client_device_ : Option ClientId
  request_ : ClientId × Str
  clients_ : List ClientId
  deleted : List ClientId
  queue : List (ClientId × Str)
  next : ClientId
  sent : List Relayed
  notreached : Bool

namespace RelayHandler

/-- The handler of a new loop, for the first client and its request. -/
def init (request : Str) : RelayHandler := ⟨none, none, (0, request), [], [], [], 1, [], false⟩

def readyForRequest (s : RelayHandler) : Bool :=
  s.client_primary_.isNone && s.client_device_.isSome

def setClient (client : ClientId) (request : Str) (s : RelayHandler) : RelayHandler :=
  match s.client_primary_ with
  | some _ => s
  | none => { s with client_primary_ := some client, queue := s.queue ++ [(client, request)] }

/-- `Accepted` in one piece. Before it calls `setClient` the other thread may add a request, for
which see `RelayLoop.accepted`. -/
def Accepted (client : ClientId) (s : RelayHandler) : RelayHandler :=
  if s.client_primary_ = some client then s
  else if s.client_device_ = none then
    { s with client_device_ := some client }.setClient s.request_.1 s.request_.2
  else s

/-- The registration of a device, up to the call of `setClient` in `Accepted`. -/
def acceptDevice (client : ClientId) (s : RelayHandler) : RelayHandler :=
  { s with clients_ := s.clients_ ++ [client], client_device_ := some client }

def RegisterClient (client : ClientId) (s : RelayHandler) : RelayHandler :=
  { s with clients_ := s.clients_ ++ [client] }.Accepted client

def Closed (client : ClientId) (s : RelayHandler) : RelayHandler :=
  if s.client_primary_ = some client then { s with client_primary_ := none }
  else if s.client_device_ = some client then { s with client_device_ := none }
  else s

/-- `Close` and `delete` of a registered connection. -/
def closeClient (client : ClientId) (s : RelayHandler) : RelayHandler :=
  let s' := s.Closed client
  { s' with clients_ := s'.clients_.filter (· ≠ client), deleted := client :: s'.deleted }

/-- `none` for a write to a deleted connection. -/
def Write (dest source : ClientId) (data : Str) (w : WriteOutcome) (s : RelayHandler) :
    Option RelayHandler :=
  if dest ∈ s.deleted then none
  else some { s with sent := s.sent ++ [⟨dest, source, data.take w.accepted⟩] }

/-- The next callback in the loop. It registers what is the primary client by then: `none` when
there is none, or a deleted one. -/
def runCallback (w : WriteOutcome) (s : RelayHandler) : Option RelayHandler :=
  match s.queue, s.client_primary_ with
  | (source, request) :: queue, some client =>
    if client ∈ s.deleted then none
    else
      let s' := { s with queue }.RegisterClient client
      match s'.client_device_ with
      | none => some s'
      | some device => if request = [] then some s' else s'.Write device source request w
  | _, _ => none

def DataReceived (client : ClientId) (buff : Str) (w : WriteOutcome) (s : RelayHandler) :
    Option RelayHandler :=
  if buff = [] then some (s.closeClient client)
  else if s.client_primary_ = some client then
    match s.client_device_ with
    | some device => s.Write device client buff w
    | none => some s
  else if s.client_device_ = some client then
    match s.client_primary_ with
    | some primary =>
      (s.Write primary client buff w).map fun s' => if w.err then s'.closeClient client else s'
    | none => some s
  else some { s with notreached := true }

/-- A connection accepted by the loop, a request handed over with its client, a queued callback,
and a read on a registered connection (an empty one ends it). -/
inductive Event
  | accept
  | addRequest (request : Str)
  | runCallback (w : WriteOutcome)
  | dataReceived (client : ClientId) (buff : Str) (w : WriteOutcome)

/-- The number `next` is taken. -/
def numbered (s : RelayHandler) : RelayHandler := { s with next := s.next + 1 }

def step (s : RelayHandler) : Event → Option RelayHandler
  | .accept => some (s.numbered.RegisterClient s.next)
  | .addRequest request => some (s.numbered.setClient s.next request)
  | .runCallback w => s.runCallback w
  | .dataReceived client buff w =>
    if client ∈ s.clients_ ∧ buff.length ≤ BUF_SIZE then s.DataReceived client buff w else none

/-- Both pointers are null or live, every registered connection is one of them, and no data came
from any other one. -/
structure Live (s : RelayHandler) : Prop where
  primary : ∀ c, s.client_primary_ = some c → c ∉ s.deleted
  device : ∀ c, s.client_device_ = some c → c ∉ s.deleted
  registered : ∀ c ∈ s.clients_, s.client_primary_ = some c ∨ s.client_device_ = some c
  reached : s.notreached = false

/-- A connection is accepted while the device is missing, and not after the first client has been
deleted with no other one in its place. -/
def AcceptedInTurn (s : RelayHandler) : Event → Prop
  | .accept =>
    s.client_device_ = none ∧ (s.client_primary_ = none → s.request_.1 ∉ s.deleted)
  | _ => True

/-- Connections have numbers below `next`, and no connection is both client and device. -/
structure Numbered (s : RelayHandler) : Prop where
  primary : ∀ c, s.client_primary_ = some c → c < s.next
  device : ∀ c, s.client_device_ = some c → c < s.next
  deleted : ∀ c ∈ s.deleted, c < s.next
  request : s.request_.1 < s.next
  apart : ∀ c, s.client_primary_ = some c → s.client_device_ ≠ some c

/-- What a read does, by the connection it is on. A failed write to the client ends the
connection of the device. -/
inductive Received (s : RelayHandler) (c : ClientId) (buff : Str) (w : WriteOutcome) :
    RelayHandler → Prop
  | closed (hb : buff = []) : Received s c buff w (s.closeClient c)
  | toDevice {s' : RelayHandler} {device : ClientId} (hb : buff ≠ [])
    (hp : s.client_primary_ = some c) (hd : s.client_device_ = some device)
    (hw : s.Write device c buff w = some s') : Received s c buff w s'
  | toClient {s' : RelayHandler} {primary : ClientId} (hb : buff ≠ [])
    (hd : s.client_device_ = some c) (hp : s.client_primary_ = some primary)
    (hw : s.Write primary c buff w = some s') (he : w.err = false) : Received s c buff w s'
  | clientLost {s' : RelayHandler} {primary : ClientId} (hb : buff ≠ [])
    (hd : s.client_device_ = some c) (hp : s.client_primary_ = some primary)
    (hw : s.Write primary c buff w = some s') (he : w.err = true) :
    Received s c buff w (s'.closeClient c)
  | alone (hb : buff ≠ []) (h : s.client_primary_ = some c ∧ s.client_device_ = none ∨
    s.client_device_ = some c ∧ s.client_primary_ = none) : Received s c buff w s
  | notreached (hb : buff ≠ []) (hp : s.client_primary_ ≠ some c)
    (hd : s.client_device_ ≠ some c) : Received s c buff w { s with notreached := true }

variable {s s' : RelayHandler} {c d : ClientId} {r buff : Str} {w : WriteOutcome}

theorem Write_eq {data : Str} (h : s.Write d c data w = some s') :
    d ∉ s.deleted ∧ s' = { s with sent := s.sent ++ [⟨d, c, data.take w.accepted⟩] } := by
  rw [Write] at h
  split at h
  · cases h
  · rename_i hd
    cases h
    exact ⟨hd, rfl⟩

theorem DataReceived_received (hs : s.DataReceived c buff w = some s') :
    Received s c buff w s' := by
  simp only [DataReceived] at hs
  split at hs
  · rename_i hb
    cases hs
    exact .closed hb
  rename_i hb
  split at hs
  · rename_i hp
    split at hs
    · rename_i device hd
      exact .toDevice hb hp hd hs
    · rename_i hd
      cases hs
      exact .alone hb (.inl ⟨hp, hd⟩)
  rename_i hp
  split at hs
  · rename_i hd
    split at hs
    · rename_i primary hprim
      obtain ⟨t, ht, rfl⟩ := Option.map_eq_some_iff.1 hs
      split
      · rename_i he
        exact .clientLost hb hd hprim ht he
      · rename_i he
        exact .toClient hb hd hprim ht (Bool.eq_false_iff.2 he)
    · rename_i hprim
      cases hs
      exact .alone hb (.inr ⟨hd, hprim⟩)
  · rename_i hd
    cases hs
    exact .notreached hb hp hd

theorem step_received (hs : step s (.dataReceived c buff w) = some s') :
    c ∈ s.clients_ ∧ Received s c buff w s' := by
  simp only [step] at hs
  split at hs
  · rename_i hc
    exact ⟨hc.1, DataReceived_received hs⟩
  · cases hs

theorem setClient_none (h : s.client_primary_ = none) (c : ClientId) (r : Str) :
    s.setClient c r = { s with client_primary_ := some c, queue := s.queue ++ [(c, r)] } := by
  simp only [setClient, h]

theorem setClient_some (h : s.client_primary_ = some d) (c : ClientId) (r : Str) :
    s.setClient c r = s := by
  simp only [setClient, h]

theorem RegisterClient_primary (h : s.client_primary_ = some c) :
    s.RegisterClient c = { s with clients_ := s.clients_ ++ [c] } := by
  rw [RegisterClient, Accepted, if_pos h]

theorem RegisterClient_device (hp : s.client_primary_ ≠ some c) (hd : s.client_device_ = none) :
    s.RegisterClient c = { s with
      clients_ := s.clients_ ++ [c]
      client_device_ := some c }.setClient s.request_.1 s.request_.2 := by
  rw [RegisterClient, Accepted, if_neg hp, if_pos hd]

theorem RegisterClient_extra (hp : s.client_primary_ ≠ some c) (hd : s.client_device_ ≠ none) :
    s.RegisterClient c = { s with clients_ := s.clients_ ++ [c] } := by
  rw [RegisterClient, Accepted, if_neg hp, if_neg hd]

theorem Closed_primary (h : s.client_primary_ = some c) :
    s.Closed c = { s with client_primary_ := none } := by
  rw [Closed, if_pos h]

theorem Closed_device (hp : s.client_primary_ ≠ some c) (hd : s.client_device_ = some c) :
    s.Closed c = { s with client_device_ := none } := by
  rw [Closed, if_neg hp, if_pos hd]

theorem Closed_extra (hp : s.client_primary_ ≠ some c) (hd : s.client_device_ ≠ some c) :
    s.Closed c = s := by
  rw [Closed, if_neg hp, if_neg hd]

theorem runCallback_eq (h : s.runCallback w = some s') :
    ∃ source request queue client sent, s.queue = (source, request) :: queue ∧
      s.client_primary_ = some client ∧ client ∉ s.deleted ∧
      s' = { s with
        queue := queue
        clients_ := s.clients_ ++ [client]
        sent := s.sent ++ sent } ∧
      ∀ m ∈ sent, m.source = source ∧ s.client_device_ = some m.dest := by
  simp only [runCallback] at h
  split at h
  · rename_i source request queue client hq hp
    split at h
    · cases h
    · rename_i hlive
      have hreg := RegisterClient_primary (s := { s with queue }) hp
      rw [hreg] at h
      refine ⟨source, request, queue, client, ?_⟩
      split at h
      · cases h
        refine ⟨[], hq, hp, hlive, by rw [List.append_nil], ?_⟩
        intro m hm
        cases hm
      · rename_i device hdev
        split at h
        · cases h
          refine ⟨[], hq, hp, hlive, by rw [List.append_nil], ?_⟩
          intro m hm
          cases hm
        · obtain ⟨_, rfl⟩ := Write_eq h
          refine ⟨[⟨device, source, _⟩], hq, hp, hlive, rfl, ?_⟩
          intro m hm
          rw [List.mem_singleton.1 hm]
          exact ⟨rfl, hdev⟩
  · cases h

theorem Live.setClient (hl : Live s) (hc : s.client_primary_ = none → c ∉ s.deleted) :
    Live (s.setClient c r) := by
  cases hp : s.client_primary_ with
  | some p =>
    rw [setClient_some hp]
    exact hl
  | none =>
    rw [setClient_none hp]
    refine ⟨?_, hl.device, ?_, hl.reached⟩
    · intro d hd
      cases hd
      exact hc hp
    · intro d hd
      obtain h | h := hl.registered d hd
      · rw [hp] at h
        cases h
      · exact .inr h

theorem Numbered.setClient (hn : Numbered s) (hc : c < s.next)
    (hd : s.client_device_ ≠ some c) : Numbered (s.setClient c r) := by
  cases hp : s.client_primary_ with
  | some p =>
    rw [setClient_some hp]
    exact hn
  | none =>
    rw [setClient_none hp]
    refine ⟨?_, hn.device, hn.deleted, hn.request, ?_⟩
    · intro d hd
      cases hd
      exact hc
    · intro e he
      cases he
      exact hd

theorem Live.numbered (hl : Live s) : Live s.numbered :=
  ⟨hl.primary, hl.device, hl.registered, hl.reached⟩

theorem Numbered.numbered (hn : Numbered s) : Numbered s.numbered :=
  ⟨fun c hc => Nat.lt_succ_of_lt (hn.primary c hc), fun c hc => Nat.lt_succ_of_lt (hn.device c hc),
    fun c hc => Nat.lt_succ_of_lt (hn.deleted c hc), Nat.lt_succ_of_lt hn.request, hn.apart⟩

theorem Numbered.closeClient (hn : Numbered s) (hc : c < s.next) :
    Numbered (s.closeClient c) := by
  have hdel : ∀ d ∈ c :: s.deleted, d < s.next := by
    intro d hd
    rcases List.mem_cons.1 hd with rfl | hd
    · exact hc
    · exact hn.deleted d hd
  by_cases hp : s.client_primary_ = some c
  · rw [RelayHandler.closeClient, Closed_primary hp]
    refine ⟨?_, hn.device, hdel, hn.request, ?_⟩
    · intro d hd
      cases hd
    · intro d hd
      cases hd
  by_cases hd : s.client_device_ = some c
  · rw [RelayHandler.closeClient, Closed_device hp hd]
    refine ⟨hn.primary, ?_, hdel, hn.request, ?_⟩
    · intro d hd
      cases hd
    · intro d _ hd
      cases hd
  · rw [RelayHandler.closeClient, Closed_extra hp hd]
    exact ⟨hn.primary, hn.device, hdel, hn.request, hn.apart⟩

theorem Live.closeClient (hl : Live s) (hn : Numbered s) (hc : c ∈ s.clients_) :
    Live (s.closeClient c) := by
  by_cases hp : s.client_primary_ = some c
  · have hd : s.client_device_ ≠ some c := hn.apart c hp
    rw [RelayHandler.closeClient, Closed_primary hp]
    refine ⟨?_, ?_, ?_, hl.reached⟩
    · intro d hd
      cases hd
    · intro d hdev hmem
      rcases List.mem_cons.1 hmem with rfl | hmem
      · exact hd hdev
      · exact hl.device d hdev hmem
    · intro d hmem
      obtain ⟨hin, hne⟩ := List.mem_filter.1 hmem
      obtain h | h := hl.registered d hin
      · rw [hp] at h
        cases h
        exact absurd rfl (of_decide_eq_true hne)
      · exact .inr h
  · have hd : s.client_device_ = some c := (hl.registered c hc).resolve_left hp
    rw [RelayHandler.closeClient, Closed_device hp hd]
    refine ⟨?_, ?_, ?_, hl.reached⟩
    · intro d hprim hmem
      rcases List.mem_cons.1 hmem with rfl | hmem
      · exact hp hprim
      · exact hl.primary d hprim hmem
    · intro d hd
      cases hd
    · intro d hmem
      obtain ⟨hin, hne⟩ := List.mem_filter.1 hmem
      obtain h | h := hl.registered d hin
      · exact .inl h
      · rw [hd] at h
        cases h
        exact absurd rfl (of_decide_eq_true hne)

theorem closeClient_ok (hl : Live s) (hn : Numbered s) (hc : c ∈ s.clients_) :
    Live (s.closeClient c) ∧ Numbered (s.closeClient c) := by
  have hlt : c < s.next := by
    obtain h | h := hl.registered c hc
    · exact hn.primary c h
    · exact hn.device c h
  exact ⟨hl.closeClient hn hc, hn.closeClient hlt⟩

theorem Received.ok (h : Received s c buff w s') (hl : Live s) (hn : Numbered s)
    (hc : c ∈ s.clients_) : Live s' ∧ Numbered s' := by
  have hwrite : ∀ dest t, s.Write dest c buff w = some t →
      Live t ∧ Numbered t ∧ c ∈ t.clients_ := by
    intro dest t ht
    obtain ⟨_, rfl⟩ := Write_eq ht
    exact ⟨⟨hl.primary, hl.device, hl.registered, hl.reached⟩,
      ⟨hn.primary, hn.device, hn.deleted, hn.request, hn.apart⟩, hc⟩
  cases h with
  | closed hb => exact closeClient_ok hl hn hc
  | toDevice _ _ _ hw | toClient _ _ _ hw =>
    obtain ⟨hl', hn', _⟩ := hwrite _ _ hw
    exact ⟨hl', hn'⟩
  | clientLost _ _ _ hw _ =>
    obtain ⟨hl', hn', hc'⟩ := hwrite _ _ hw
    exact closeClient_ok hl' hn' hc'
  | alone => exact ⟨hl, hn⟩
  | notreached _ hp hd => exact absurd (hl.registered c hc) (not_or.2 ⟨hp, hd⟩)

/-- Accepting a connection keeps the pointers live exactly when it is the turn of a device. -/
theorem accept_live_iff (hl : Live s) (hn : Numbered s) :
    Live (s.numbered.RegisterClient s.next) ↔ AcceptedInTurn s .accept := by
  have hfresh : s.client_primary_ ≠ some s.next := fun h => (hn.primary _ h).ne rfl
  have hnew : s.next ∉ s.deleted := fun h => (hn.deleted _ h).ne rfl
  by_cases hd : s.client_device_ = none
  · rw [RegisterClient_device (s := s.numbered) hfresh hd]
    constructor
    · intro h
      refine ⟨hd, fun hp => ?_⟩
      rw [setClient_none] at h
      · exact h.primary _ rfl
      · exact hp
    · intro h
      have hdev : Live { s.numbered with
          clients_ := s.clients_ ++ [s.next]
          client_device_ := some s.next } := by
        refine ⟨hl.primary, ?_, ?_, hl.reached⟩
        · intro c hc
          cases hc
          exact hnew
        · intro c hc
          rcases List.mem_append.1 hc with hc | hc
          · obtain h | h := hl.registered c hc
            · exact .inl h
            · rw [hd] at h
              cases h
          · exact .inr (congrArg some (List.mem_singleton.1 hc).symm)
      exact hdev.setClient h.2
  · rw [RegisterClient_extra (s := s.numbered) hfresh hd]
    constructor
    · intro h
      obtain h | h := h.registered s.next (List.mem_append_right _ (List.mem_singleton_self _))
      · exact absurd h hfresh
      · exact absurd (hn.device _ h) (Nat.lt_irrefl _)
    · intro h
      exact absurd h.1 hd

theorem accept_numbered (hn : Numbered s) :
    Numbered (s.numbered.RegisterClient s.next) := by
  have hfresh : s.client_primary_ ≠ some s.next := fun h => (hn.primary _ h).ne rfl
  obtain ⟨hp, hd, hdel, hreq, hapart⟩ := hn.numbered
  by_cases hdev : s.client_device_ = none
  · rw [RegisterClient_device (s := s.numbered) hfresh hdev]
    apply Numbered.setClient
    · refine ⟨hp, ?_, hdel, hreq, ?_⟩
      · intro c hc
        cases hc
        exact Nat.lt_succ_self _
      · intro c hc he
        cases he
        exact hfresh hc
    · exact Nat.lt_succ_of_lt hn.request
    · intro he
      exact hn.request.ne (Option.some.inj he).symm
  · rw [RegisterClient_extra (s := s.numbered) hfresh hdev]
    exact ⟨hp, hd, hdel, hreq, hapart⟩

theorem step_live_iff {e : Event} (hl : Live s) (hn : Numbered s) (hs : step s e = some s') :
    (Live s' ↔ AcceptedInTurn s e) ∧ Numbered s' := by
  cases e with
  | accept =>
    cases hs
    exact ⟨accept_live_iff hl hn, accept_numbered hn⟩
  | addRequest request =>
    cases hs
    have hlive : Live (s.numbered.setClient s.next request) :=
      hl.numbered.setClient fun _ h => (hn.deleted _ h).ne rfl
    refine ⟨⟨fun _ => trivial, fun _ => hlive⟩, ?_⟩
    exact hn.numbered.setClient (Nat.lt_succ_self _) fun h => (hn.device _ h).ne rfl
  | runCallback w =>
    obtain ⟨source, request, queue, client, sent, _, hp, _, rfl, _⟩ := runCallback_eq hs
    have hlive : Live { s with
        queue := queue
        clients_ := s.clients_ ++ [client]
        sent := s.sent ++ sent } := by
      refine ⟨hl.primary, hl.device, ?_, hl.reached⟩
      intro c hc
      rcases List.mem_append.1 hc with hc | hc
      · exact hl.registered c hc
      · rw [List.mem_singleton.1 hc]
        exact .inl hp
    exact ⟨⟨fun _ => trivial, fun _ => hlive⟩, hn.primary, hn.device, hn.deleted, hn.request,
      hn.apart⟩
  | dataReceived client buff w =>
    obtain ⟨hc, hr⟩ := step_received hs
    obtain ⟨hl', hn'⟩ := hr.ok hl hn hc
    exact ⟨⟨fun _ => trivial, fun _ => hl'⟩, hn'⟩

/-- The pointers of a relay are about live connections along a run, and `NOTREACHED` is not
reached, exactly when every connection is accepted in its turn. -/
theorem always_live_iff (request : Str) (es : List Event) :
    Always step Live (init request) es ↔
      Along step (fun s e _ => AcceptedInTurn s e) (init request) es := by
  have hinit : Live (init request) ∧ Numbered (init request) := by
    refine ⟨⟨?_, ?_, ?_, rfl⟩, ⟨?_, ?_, ?_, Nat.zero_lt_one, ?_⟩⟩ <;>
      · intro c hc
        cases hc
  apply always_iff_along (I := Numbered) hinit.1 hinit.2
  intro s e s' hl hn hs
  obtain ⟨hiff, hn'⟩ := step_live_iff hl hn hs
  exact ⟨hiff, fun _ => hn'⟩

/-- A second connection while the device is there, and data from it. -/
def extraConnection : List Event :=
  [.accept, .accept, .dataReceived 2 ['x'] ⟨1, false⟩]

theorem not_always_live_extraConnection : ¬ Always step Live (init ['r']) extraConnection := by
  intro h
  have hrun : (run step (init ['r']) extraConnection).map (fun s => s.notreached) = some true := by
    decide
  obtain ⟨s, hs, he⟩ := Option.map_eq_some_iff.1 hrun
  have hl := (h.at_end hs).reached
  rw [he] at hl
  cases hl

end RelayHandler

end SiteOnYourDevice
