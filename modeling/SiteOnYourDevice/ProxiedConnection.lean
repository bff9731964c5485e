import SiteOnYourDevice.HttpCallbacks
import SiteOnYourDevice.RelayReuse

namespace SiteOnYourDevice
open CString Transition
set_option relaxedAutoImplicit false
set_option autoImplicit true

/-- What the proxy takes from the libraries of HTTP and of URLs. -/
structure ProxyTypes (ρ Upath : Type) where
  parse_http_request : Str → Except HttpError ρ
  protocol : ρ → http_protocols
  path : ρ → Upath
  setPath : Upath → ρ → ρ
  GetHpath : Upath → Str
  GetFileName : Upath → Str
  SetPath : Str → Upath → Upath
  ConvertToBytes : ρ → Str

/-- A relay loop that serves nobody and has a device: what a run of the loop can lead to. `peers`
are the devices that its connections come from, by their `InnerTcpServerClient`; other connections
come from none. -/
structure ReadyLoop where
  hand : RelayHandler
  peers : ClientId → Option ClientId
  owned : hand.QueueOwned
  sources : ∀ m ∈ hand.sent, m.source < hand.next
  ready : hand.readyForRequest = true

/-- What a read on a connection of the proxy finds: the registry, and the loop of the device that
is ready, if there is one. -/
structure ProxyLookup where
  registry : HttpServerHost
  readyLoop : Option ReadyLoop

/-- A connection of the proxy: read by `HttpInnerServerHandlerHost`, or closed after it was sent
some pages, or the client with that number in a relay loop of an `InnerTcpServerClient`. -/
inductive ProxyClient
  | http
  | closed (pages : List HttpWritten)
  | relayed (innerConnection : ClientId) (hand : RelayHandler) (peers : ClientId → Option ClientId)
    (client : ClientId)

/-- A read on the connection, with what it finds when the proxy reads it and what the write takes
when the relay does; any other event of the relay loop, and whose connection it accepts. -/
inductive ProxyClientEvent
  | data (buff : Str) (look : ProxyLookup) (w : WriteOutcome)
  | relay (peer : Option ClientId) (e : RelayHandler.Event)

/-- Where a request is taken: to a device, as these bytes, or nowhere, with a page for its
client. -/
inductive Route
  | device (innerConnection : Option ClientId) (request : Str)
  | page (written : HttpWritten)
deriving DecidableEq

namespace ProxyClient
variable {ρ Upath : Type} (http : ProxyTypes ρ Upath)

def notRegistered (hpath : Str) : Str :=
  "Not registered host(".toList ++ hpath ++
    (") or it is offline(if it is your host, please build server installer" ++
      "(button in your profile page) and run it on your device!).").toList

/-- `send_error` and `Close`; `none` when the `CHECK` of the protocol fails. -/
def refuse (protocol : http_protocols) (status : Nat) (text : Str) : Option ProxyClient :=
  (Http2Client.new.send_error_text protocol status none (some text) false).map fun c =>
    .closed c.written

/-- `chrequest`: the path loses its host part. -/
def fileRequest (hrequest : ρ) : ρ :=
  let path := http.path hrequest
  http.setPath (http.SetPath (http.GetFileName path) path) hrequest

/-- `addHttpRelayClient`: a ready loop takes the client, or a new one is made for it. -/
def addHttpRelayClient (innerConnection : ClientId) (readyLoop : Option ReadyLoop)
    (request : Str) : ProxyClient :=
  match readyLoop with
  | some l =>
    .relayed innerConnection (l.hand.numbered.setClient l.hand.next request)
      (Function.update l.peers l.hand.next none) l.hand.next
  | none => .relayed innerConnection (.init request) (fun _ => none) 0

def processHttpRequest (look : ProxyLookup) (hrequest : ρ) : Option ProxyClient :=
  let hpath := http.GetHpath (http.path hrequest)
  match look.registry.findInnerConnectionByHost hpath with
  | none => refuse (http.protocol hrequest) HS_NOT_FOUND (notRegistered hpath)
  | some innerConnection =>
    some (addHttpRelayClient innerConnection look.readyLoop
      (http.ConvertToBytes (fileRequest http hrequest)))

def DataReceived (buff : Str) (look : ProxyLookup) : Option ProxyClient :=
  if buff = [] then some (.closed [])
  else
    match http.parse_http_request buff with
    | .error (status, text) => refuse .HP_1_1 status text
    | .ok hrequest => processHttpRequest http look hrequest

/-- A read of the relay loop on the connection itself. -/
def ReadsOn (client : ClientId) : RelayHandler.Event → Prop
  | .dataReceived c _ _ => c = client
  | _ => False

instance (client : ClientId) : DecidablePred (ReadsOn client)
  | .dataReceived c _ _ => inferInstanceAs (Decidable (c = client))
  | .accept | .addRequest _ | .runCallback _ => inferInstanceAs (Decidable False)

/-- The number `next` is taken by the connection of a peer, or by a client of the proxy. -/
def takePeer (peers : ClientId → Option ClientId) (next : ClientId) (peer : Option ClientId) :
    RelayHandler.Event → ClientId → Option ClientId
  | .accept => Function.update peers next peer
  | .addRequest _ => Function.update peers next none
  | .runCallback _ | .dataReceived _ _ _ => peers

def step : ProxyClient → ProxyClientEvent → Option ProxyClient
  | .http, .data buff look _ =>
    if buff.length ≤ BUF_SIZE then DataReceived http buff look else none
  | .relayed d hand peers client, .data buff _ w =>
    (hand.step (.dataReceived client buff w)).map fun hand => .relayed d hand peers client
  | .relayed d hand peers client, .relay peer e =>
    if ReadsOn client e then none
    else (hand.step e).map fun hand' => .relayed d hand' (takePeer peers hand.next peer e) client
  | _, _ => none

/-- What was written of the connection: the device that the write went to, if it was one, and the
bytes. -/
def delivered : ProxyClient → List (Option ClientId × Str)
  | .relayed _ hand peers client =>
    (hand.sent.filter (·.source = client)).map fun m => (peers m.dest, m.data)
  | _ => []

/-- What the client was sent by the proxy itself. -/
def pages : ProxyClient → List HttpWritten
  | .closed pages => pages
  | _ => []

/-- What has become of the requests of the connection. -/
def routes (s : ProxyClient) : List Route :=
  (s.delivered.map fun p => .device p.1 p.2) ++ s.pages.map .page

/-- The buffers that were read on the connection, with what there was to be found. -/
def reads (es : List ProxyClientEvent) : List (Str × ProxyLookup) :=
  es.filterMap fun
    | .data buff look _ => if buff = [] then none else some (buff, look)
    | .relay _ _ => none

/-- Where a request belongs: to the device of its own host with its path rewritten, or to a 404. -/
def ownRoute (look : ProxyLookup) (request : ρ) : Route :=
  let hpath := http.GetHpath (http.path request)
  match look.registry.findInnerConnectionByHost hpath with
  | some d => .device (some d) (http.ConvertToBytes (fileRequest http request))
  | none => .page (.text HS_NOT_FOUND none (some (notRegistered hpath)) false)

def ownRouteOf (p : Str × ProxyLookup) : Option Route :=
  (http.parse_http_request p.1).toOption.map (ownRoute http p.2)

/-- What has become of the requests is where they belong. -/
def OwnRoutes (es : List ProxyClientEvent) (s : ProxyClient) : Prop :=
  s.routes = (reads es).filterMap (ownRouteOf http)

/-- A request that may follow on a connection of the device: it is for this device, and its own
rewriting leaves it as it was sent. -/
def Unrewritten (innerConnection : Option ClientId) (buff : Str) (look : ProxyLookup) : Prop :=
  ∀ request, http.parse_http_request buff = .ok request →
    look.registry.findInnerConnectionByHost (http.GetHpath (http.path request)) =
        innerConnection ∧
      http.ConvertToBytes (fileRequest http request) = buff

/-- The relay has a connection of its device, and writes take all they are given. -/
def Calm : ProxyClient → ProxyClientEvent → Prop
  | .relayed d hand peers _, .data buff _ w =>
    hand.client_device_.bind peers = some d ∧ buff.length ≤ w.accepted
  | .relayed d hand peers _, .relay _ (.runCallback w) =>
    hand.client_device_.bind peers = some d ∧ ∀ q ∈ hand.queue, q.2.length ≤ w.accepted
  | _, _ => True

end ProxyClient

namespace RelayHandler

/-- The bytes of each write that the client is the source of. -/
def sentBy (c : ClientId) (s : RelayHandler) : List Str :=
  (s.sent.filter (·.source = c)).map (·.data)

/-- How far a client with a request has come in its loop: it waits for its callback, it is served,
or it is gone. The last argument is what was read from it since. -/
inductive Carried (c : ClientId) (request : Str) (s : RelayHandler) : List Str → Prop
  | waits (hnew : c ∉ s.clients_) (hq : ∀ q ∈ s.queue, q.1 = c → q.2 = request)
    (hr : s.request_.1 = c → s.request_.2 = request) (hsent : s.sentBy c = []) :
    Carried c request s []
  | served {rs : List Str} (hc : c ∈ s.clients_) (hp : s.client_primary_ = some c)
    (hsent : s.sentBy c = request :: rs) : Carried c request s rs
  | gone {rs : List Str} (hc : c ∉ s.clients_) (hdel : c ∈ s.deleted)
    (hsent : s.sentBy c = request :: rs) : Carried c request s rs

variable {s s' t : RelayHandler} {c d source : ClientId} {e : Event} {request buff data : Str}
  {w : WriteOutcome} {rs : List Str}

theorem sentBy_of_sent (h : s'.sent = s.sent) : s'.sentBy c = s.sentBy c := by
  rw [sentBy, h]
  rfl

theorem sentBy_write (hs : s.Write d source data w = some s') :
    s'.sentBy c = s.sentBy c ++ if source = c then [data.take w.accepted] else [] := by
  obtain ⟨_, rfl⟩ := Write_eq hs
  simp only [sentBy, List.filter_append, List.map_append]
  congr 1
  by_cases h : source = c
  · simp [h]
  · simp [h]

theorem Carried.keep (h : Carried c request s rs) (hclients : c ∈ s'.clients_ ↔ c ∈ s.clients_)
    (hdel : s.deleted ⊆ s'.deleted) (hr : s'.request_ = s.request_)
    (hq : ∀ q ∈ s'.queue, q ∈ s.queue ∨ q = s.request_ ∨ q.1 ≠ c)
    (hp : s.client_primary_ = some c → c ∈ s.clients_ → s'.client_primary_ = some c)
    (hsent : s'.sentBy c = s.sentBy c) : Carried c request s' rs := by
  cases h with
  | waits hnew hqueue hreq hnone =>
    refine .waits (fun hc => hnew (hclients.1 hc)) ?_ (by rwa [hr]) (hsent.trans hnone)
    intro q hmem hqc
    obtain hold | rfl | hne := hq q hmem
    · exact hqueue q hold hqc
    · exact hreq hqc
    · exact absurd hqc hne
  | served hc hprim hone => exact .served (hclients.2 hc) (hp hprim hc) (hsent.trans hone)
  | gone hc hdeleted hone =>
    exact .gone (fun h => hc (hclients.1 h)) (hdel hdeleted) (hsent.trans hone)

theorem Carried.closeClient (h : Carried c request s rs) (hne : d ≠ c) :
    Carried c request (s.closeClient d) rs := by
  have hclients : (s.closeClient d).clients_ = s.clients_.filter (· ≠ d) := by
    rw [RelayHandler.closeClient, Closed]
    split
    · rfl
    · split <;> rfl
  have hqueue : (s.closeClient d).queue = s.queue ∧ (s.closeClient d).request_ = s.request_ ∧
      (s.closeClient d).deleted = d :: s.deleted := by
    rw [RelayHandler.closeClient, Closed]
    split
    · exact ⟨rfl, rfl, rfl⟩
    · split <;> exact ⟨rfl, rfl, rfl⟩
  obtain ⟨hq, hr, hdel⟩ := hqueue
  apply h.keep
  · simp [hclients, Ne.symm hne]
  · rw [hdel]
    exact List.subset_cons_self _ _
  · exact hr
  · intro q hmem
    exact .inl (hq ▸ hmem)
  · intro hp _
    rw [closeClient_primary_of_ne]
    · exact hp
    · rw [hp]
      exact fun he => hne (Option.some.inj he).symm
  · exact sentBy_of_sent closeClient_sent

theorem Carried.write (h : Carried c request s rs) (hs : s.Write d source data w = some s')
    (hne : source ≠ c) : Carried c request s' rs := by
  have hsent := sentBy_write (c := c) hs
  rw [if_neg hne, List.append_nil] at hsent
  obtain ⟨_, rfl⟩ := Write_eq hs
  exact h.keep Iff.rfl (fun _ hd => hd) rfl (fun q hq => .inl hq) (fun hp _ => hp) hsent

theorem Carried.received (h : Carried c request s rs) (hne : source ≠ c)
    (hr : Received s source buff w s') : Carried c request s' rs := by
  cases hr with
  | closed hb => exact h.closeClient hne
  | toDevice _ _ _ hw | toClient _ _ _ hw => exact h.write hw hne
  | clientLost _ _ _ hw => exact (h.write hw hne).closeClient hne
  | alone => exact h
  | notreached =>
    exact h.keep Iff.rfl (fun _ hd => hd) rfl (fun q hq => .inl hq) (fun hp _ => hp) rfl

theorem Carried.accept (h : Carried c request s rs) (ho : QueueOwned s) (hc : c < s.next) :
    Carried c request (s.numbered.RegisterClient s.next) rs := by
  have hfresh : s.client_primary_ ≠ some s.next := fun hp => (ho.primary _ hp).ne rfl
  have hclients : c ∈ s.clients_ ++ [s.next] ↔ c ∈ s.clients_ := by
    simp [hc.ne]
  by_cases hd : s.client_device_ = none
  · rw [RegisterClient_device (s := s.numbered) hfresh hd]
    cases hp : s.client_primary_ with
    | some p =>
      rw [setClient_some]
      · exact h.keep hclients (fun _ hd => hd) rfl (fun q hq => .inl hq) (fun hp _ => hp) rfl
      · exact hp
    | none =>
      rw [setClient_none]
      · refine h.keep hclients (fun _ hd => hd) rfl ?_ ?_ rfl
        · intro q hq
          obtain hq | hq := List.mem_append.1 hq
          · exact .inl hq
          · exact .inr (.inl (List.mem_singleton.1 hq))
        · intro hprim
          rw [hp] at hprim
          cases hprim
      · exact hp
  · rw [RegisterClient_extra (s := s.numbered) hfresh hd]
    exact h.keep hclients (fun _ hd => hd) rfl (fun q hq => .inl hq) (fun hp _ => hp) rfl

theorem Carried.addRequest (h : Carried c request s rs) (hc : c < s.next) (r : Str) :
    Carried c request (s.numbered.setClient s.next r) rs := by
  cases hp : s.client_primary_ with
  | some p =>
    rw [setClient_some (s := s.numbered) hp]
    exact h.keep Iff.rfl (fun _ hd => hd) rfl (fun q hq => .inl hq) (fun hp _ => hp) rfl
  | none =>
    rw [setClient_none (s := s.numbered) hp]
    refine h.keep Iff.rfl (fun _ hd => hd) rfl ?_ ?_ rfl
    · intro q hq
      obtain hq | hq := List.mem_append.1 hq
      · exact .inl hq
      · rw [List.mem_singleton.1 hq]
        exact .inr (.inr hc.ne')
    · intro hprim
      rw [hp] at hprim
      cases hprim

/-- The callback of a queued request writes it to the device, and registers its client. -/
theorem runCallback_device (ho : QueueOwned s) (hs : s.runCallback w = some s')
    (hd : s.client_device_ = some d) :
    ∃ source r queue, s.queue = (source, r) :: queue ∧ s.client_primary_ = some source ∧
      source ∉ s.deleted ∧
      s' = { s with
        queue := queue
        clients_ := s.clients_ ++ [source]
        sent := s.sent ++ if r = [] then [] else [⟨d, source, r.take w.accepted⟩] } := by
  simp only [runCallback] at hs
  split at hs
  · rename_i source r queue client hq hp
    have hsource : s.client_primary_ = some source :=
      (ho.queue (source, r) (hq ▸ List.mem_cons_self)).1
    obtain rfl : client = source := Option.some.inj (hp.symm.trans hsource)
    split at hs
    · cases hs
    · rename_i hlive
      rw [RegisterClient_primary (s := { s with queue }) hp] at hs
      simp only [hd] at hs
      refine ⟨client, r, queue, hq, hp, hlive, ?_⟩
      split at hs
      · rename_i hr
        cases hs
        simp only [hd, if_pos hr, List.append_nil]
      · rename_i hr
        obtain ⟨_, rfl⟩ := Write_eq hs
        simp only [hd, if_neg hr]
  · cases hs

theorem Carried.runCallback (h : Carried c request s rs) (ho : QueueOwned s)
    (hs : s.runCallback w = some s') (hne : request ≠ []) (hd : s.client_device_ ≠ none)
    (hw : ∀ q ∈ s.queue, q.2.length ≤ w.accepted) : Carried c request s' rs := by
  obtain ⟨d, hd⟩ := Option.ne_none_iff_exists'.1 hd
  obtain ⟨source, r, queue, hq, hp, hlive, hs'⟩ := runCallback_device ho hs hd
  have hmem : (source, r) ∈ s.queue := hq ▸ List.mem_cons_self
  have hreg := (ho.queue _ hmem).2
  by_cases hsource : source = c
  · subst hsource
    cases h with
    | waits hnew hqueue hreq hnone =>
      obtain rfl : r = request := hqueue _ hmem rfl
      have htake : r.take w.accepted = r := List.take_of_length_le (hw _ hmem)
      subst hs'
      apply Carried.served
      · exact List.mem_append_right _ (List.mem_singleton_self _)
      · exact hp
      · simp only [sentBy, if_neg hne, List.filter_append, List.map_append, htake] at hnone ⊢
        rw [hnone]
        simp
    | served hc => exact absurd hc hreg
    | gone _ hdel => exact absurd hdel hlive
  · subst hs'
    refine h.keep ?_ (fun _ hd => hd) rfl ?_ (fun hp _ => hp) ?_
    · simp [Ne.symm hsource]
    · intro q hmem'
      exact .inl (hq ▸ List.mem_cons_of_mem _ hmem')
    · by_cases hr : r = []
      · simp [sentBy, hr]
      · simp [sentBy, hr, hsource]

/-- A read on the client itself is written to the device as it is. -/
theorem Carried.read (h : Carried c request s rs) (ho : QueueOwned s)
    (hs : s.step (.dataReceived c buff w) = some s') (hd : s.client_device_ ≠ none)
    (hw : buff.length ≤ w.accepted) :
    Carried c request s' (rs ++ if buff = [] then [] else [buff]) := by
  obtain ⟨d, hd⟩ := Option.ne_none_iff_exists'.1 hd
  obtain ⟨hc, hr⟩ := step_received hs
  cases h with
  | waits hnew => exact absurd hc hnew
  | gone hc' => exact absurd hc hc'
  | served _ hp hsent =>
    cases hr with
    | closed hb =>
      rw [if_pos hb, List.append_nil]
      rw [RelayHandler.closeClient, Closed_primary hp]
      apply Carried.gone
      · simp
      · exact List.mem_cons_self
      · exact hsent
    | @toDevice _ device hb _ hdev hwrite =>
      have htake : buff.take w.accepted = buff := List.take_of_length_le hw
      have hsent' := sentBy_write (c := c) hwrite
      rw [if_pos rfl, htake, hsent] at hsent'
      obtain ⟨_, rfl⟩ := Write_eq hwrite
      rw [if_neg hb]
      exact .served hc hp hsent'
    | toClient _ hdev | clientLost _ hdev => exact absurd hdev (ho.apart c hp)
    | alone _ halone =>
      rw [hp, hd] at halone
      rcases halone with ⟨_, hnone⟩ | ⟨_, hnone⟩
      · cases hnone
      · cases hnone
    | notreached _ hprim => exact absurd hp hprim

theorem step_sources (ho : QueueOwned s) (hs : s.step e = some s')
    (h : ∀ m ∈ s.sent, m.source < s.next) : ∀ m ∈ s'.sent, m.source < s'.next := by
  have hnext := step_next hs
  have hkeep : s'.sent = s.sent → ∀ m ∈ s'.sent, m.source < s'.next := by
    intro hsent m hm
    rw [hsent] at hm
    exact (h m hm).trans_le hnext
  have hwrite : ∀ {t : RelayHandler} {c d : ClientId} {buff : Str} {w : WriteOutcome},
      s.Write d c buff w = some t → s'.sent = t.sent → c < s.next →
        ∀ m ∈ s'.sent, m.source < s'.next := by
    intro t c d buff w hw hsent hc m hm
    obtain ⟨_, rfl⟩ := Write_eq hw
    rw [hsent] at hm
    obtain hm | hm := List.mem_append.1 hm
    · exact (h m hm).trans_le hnext
    · rw [List.mem_singleton.1 hm]
      exact hc.trans_le hnext
  cases e with
  | accept =>
    cases hs
    apply hkeep
    rw [RegisterClient, Accepted]
    split
    · rfl
    · split
      · rw [RelayHandler.setClient]
        split <;> rfl
      · rfl
  | addRequest r =>
    cases hs
    apply hkeep
    rw [RelayHandler.setClient]
    split <;> rfl
  | runCallback w =>
    obtain ⟨source, r, queue, client, sent, hq, hp, _, hs', hsent⟩ := runCallback_eq hs
    have hsource := (ho.queue (source, r) (hq ▸ List.mem_cons_self)).1
    subst hs'
    intro m hm
    obtain hm | hm := List.mem_append.1 hm
    · exact h m hm
    · rw [(hsent m hm).1]
      exact ho.primary _ hsource
  | dataReceived c buff w =>
    obtain ⟨hc, hr⟩ := step_received hs
    have hlt := ho.registered c hc
    cases hr with
    | closed => exact hkeep closeClient_sent
    | toDevice _ _ _ hw | toClient _ _ _ hw => exact hwrite hw rfl hlt
    | clientLost _ _ _ hw => exact hwrite hw closeClient_sent hlt
    | alone | notreached => exact hkeep rfl

end RelayHandler

theorem ReadyLoop.of_run {request : Str} {es : List RelayHandler.Event} {hand : RelayHandler}
    (hr : run RelayHandler.step (.init request) es = some hand)
    (hready : hand.readyForRequest = true) (peers : ClientId → Option ClientId) :
    ∃ l : ReadyLoop, l.hand = hand ∧ l.peers = peers := by
  have hinv : Always RelayHandler.step
      (fun s => s.QueueOwned ∧ ∀ m ∈ s.sent, m.source < s.next) (.init request) es := by
    have hinit := (RelayNet.owned_init request).loop
    refine ⟨⟨hinit, nofun⟩, ?_⟩
    apply along_of_invariant (I := fun s => s.QueueOwned ∧ ∀ m ∈ s.sent, m.source < s.next)
      ⟨hinit, nofun⟩
    intro t e t' ⟨ho, hsources⟩ he
    have hnew := And.intro (ho.step he) (RelayHandler.step_sources ho he hsources)
    exact ⟨hnew, hnew⟩
  obtain ⟨ho, hsources⟩ := hinv.at_end hr
  exact ⟨⟨hand, peers, ho, hsources, hready⟩, rfl, rfl⟩

namespace ProxyClient
open RelayHandler
variable {ρ Upath : Type} {http : ProxyTypes ρ Upath} {s s' t : ProxyClient} {d : ClientId}
  {request : Str} {rs : List Str} {e : ProxyClientEvent}

/-- What was written of the client went to a connection of the device. -/
def SentTo (d : ClientId) (c : ClientId) (hand : RelayHandler)
    (peers : ClientId → Option ClientId) : Prop :=
  ∀ m ∈ hand.sent, m.source = c → m.dest < hand.next ∧ peers m.dest = some d

/-- The connection is in a loop of the device `d`, which it gave the request and then what was
read. -/
def Follows (d : ClientId) (request : Str) (rs : List Str) : ProxyClient → Prop
  | .relayed d' hand peers c =>
    d' = d ∧ QueueOwned hand ∧ c < hand.next ∧ Carried c request hand rs ∧ SentTo d c hand peers
  | _ => False

theorem follows_addHttpRelayClient (readyLoop : Option ReadyLoop) :
    Follows d request [] (addHttpRelayClient d readyLoop request) := by
  cases readyLoop with
  | none =>
    exact ⟨rfl, (RelayNet.owned_init request).loop, Nat.zero_lt_one,
      .waits List.not_mem_nil nofun (fun _ => rfl) rfl, nofun⟩
  | some l =>
    have hadd : l.hand.step (.addRequest request) =
        some (l.hand.numbered.setClient l.hand.next request) := rfl
    have hprim : l.hand.client_primary_ = none := by
      have hready := l.ready
      rw [readyForRequest, Bool.and_eq_true] at hready
      exact Option.isNone_iff_eq_none.1 hready.1
    refine ⟨rfl, l.owned.step hadd, ?_, ?_, ?_⟩
    · rw [setClient_next]
      exact Nat.lt_succ_self _
    · rw [setClient_none (s := l.hand.numbered) hprim]
      apply Carried.waits
      · exact fun hc => (l.owned.registered _ hc).ne rfl
      · intro q hq _
        obtain hq | hq := List.mem_append.1 hq
        · exact absurd (l.owned.queue_nil hprim ▸ hq) List.not_mem_nil
        · rw [List.mem_singleton.1 hq]
      · exact fun hr => absurd hr l.owned.request.ne
      · simp only [sentBy, List.map_eq_nil_iff, List.filter_eq_nil_iff, decide_eq_true_eq]
        exact fun m hm => (l.sources m hm).ne
    · rw [setClient_none (s := l.hand.numbered) hprim]
      exact fun m hm hsource => absurd hsource (l.sources m hm).ne

theorem reads_cons (e : ProxyClientEvent) (es : List ProxyClientEvent) :
    reads (e :: es) = reads [e] ++ reads es :=
  List.filterMap_append (l := [e])

theorem takePeer_of_lt {peers : ClientId → Option ClientId} {next c : ClientId} (hc : c < next)
    (peer : Option ClientId) (e : RelayHandler.Event) : takePeer peers next peer e c = peers c := by
  cases e with
  | accept | addRequest => exact Function.update_of_ne hc.ne _ _
  | runCallback | dataReceived => rfl

/-- Only the callback and a read on the client write in its name, and they write to the device. -/
theorem step_dest {hand hand' : RelayHandler} {c : ClientId} {e : RelayHandler.Event}
    (hs : hand.step e = some hand') (hread : ReadsOn c e → hand.client_device_ ≠ some c) :
    ∀ m ∈ hand'.sent, m.source = c → m ∈ hand.sent ∨
      hand.client_device_ = some m.dest ∧ (ReadsOn c e ∨ ∃ w, e = .runCallback w) := by
  cases e with
  | accept =>
    cases hs
    intro m hm _
    rw [RegisterClient, Accepted] at hm
    split at hm
    · exact .inl hm
    · split at hm
      · rw [RelayHandler.setClient] at hm
        split at hm <;> exact .inl hm
      · exact .inl hm
  | addRequest r =>
    cases hs
    intro m hm _
    rw [RelayHandler.setClient] at hm
    split at hm <;> exact .inl hm
  | runCallback w =>
    obtain ⟨source, r, queue, client, sent, _, _, _, rfl, hsent⟩ := runCallback_eq hs
    intro m hm _
    obtain hm | hm := List.mem_append.1 hm
    · exact .inl hm
    · exact .inr ⟨(hsent m hm).2, .inr ⟨w, rfl⟩⟩
  | dataReceived source buff w =>
    have hwrite : ∀ {dest : ClientId} {t : RelayHandler},
        hand.Write dest source buff w = some t → hand'.sent = t.sent →
        (source = c → hand.client_device_ = some dest) →
        ∀ m ∈ hand'.sent, m.source = c → m ∈ hand.sent ∨
          hand.client_device_ = some m.dest ∧
            (source = c ∨ ∃ w', Event.dataReceived source buff w = .runCallback w') := by
      intro dest t hw hsent hdest m hm hsource
      obtain ⟨_, rfl⟩ := Write_eq hw
      rw [hsent] at hm
      obtain hm | hm := List.mem_append.1 hm
      · exact .inl hm
      · rw [List.mem_singleton.1 hm] at hsource ⊢
        exact .inr ⟨hdest hsource, .inl hsource⟩
    obtain ⟨_, hr⟩ := step_received hs
    cases hr with
    | closed => exact fun m hm _ => .inl (closeClient_sent ▸ hm)
    | toDevice _ _ hd hw => exact hwrite hw rfl fun _ => hd
    | toClient _ hd _ hw => exact hwrite hw rfl fun hc => absurd (hc ▸ hd) (hread hc)
    | clientLost _ hd _ hw =>
      exact hwrite hw closeClient_sent fun hc => absurd (hc ▸ hd) (hread hc)
    | alone | notreached => exact fun m hm _ => .inl hm

theorem SentTo.step {hand hand' : RelayHandler} {peers : ClientId → Option ClientId} {c : ClientId}
    {e : RelayHandler.Event} (h : SentTo d c hand peers) (ho : QueueOwned hand)
    (hs : hand.step e = some hand') (peer : Option ClientId)
    (hread : ReadsOn c e → hand.client_device_ ≠ some c)
    (hdev : (ReadsOn c e ∨ ∃ w, e = .runCallback w) → hand.client_device_.bind peers = some d) :
    SentTo d c hand' (takePeer peers hand.next peer e) := by
  intro m hm hsource
  have hnext := step_next hs
  obtain hold | ⟨hd, hwrites⟩ := step_dest hs hread m hm hsource
  · obtain ⟨hlt, hpeer⟩ := h m hold hsource
    rw [takePeer_of_lt hlt]
    exact ⟨hlt.trans_le hnext, hpeer⟩
  · have hlt := ho.device _ hd
    have hpeer := hdev hwrites
    rw [hd] at hpeer
    rw [takePeer_of_lt hlt]
    exact ⟨hlt.trans_le hnext, hpeer⟩

theorem calm_device {hand : RelayHandler} {peers : ClientId → Option ClientId}
    (h : hand.client_device_.bind peers = some d) : hand.client_device_ ≠ none := by
  intro hnone
  rw [hnone] at h
  cases h

theorem Follows.step (h : Follows d request rs s) (hne : request ≠ []) (hcalm : Calm s e)
    (hs : step http s e = some s') :
    Follows d request (rs ++ (reads [e]).map Prod.fst) s' := by
  cases s with
  | http => exact h.elim
  | closed pages => exact h.elim
  | relayed d' hand peers c =>
    obtain ⟨rfl, ho, hc, hcarried, hsent⟩ := h
    cases e with
    | data buff look w =>
      obtain ⟨hand', hstep, rfl⟩ := Option.map_eq_some_iff.1 hs
      have hreads : (reads [.data buff look w]).map Prod.fst =
          if buff = [] then [] else [buff] := by
        by_cases hb : buff = []
        · simp [reads, hb]
        · simp [reads, hb]
      have hprim : ReadsOn c (.dataReceived c buff w) → hand.client_device_ ≠ some c := by
        intro _
        have hmem := (step_received hstep).1
        cases hcarried with
        | waits hnew => exact absurd hmem hnew
        | served _ hp => exact ho.apart c hp
        | gone hnew => exact absurd hmem hnew
      rw [hreads]
      exact ⟨rfl, ho.step hstep, hc.trans_le (step_next hstep),
        hcarried.read ho hstep (calm_device hcalm.1) hcalm.2,
        hsent.step ho hstep none hprim fun _ => hcalm.1⟩
    | relay peer e =>
      simp only [ProxyClient.step] at hs
      split at hs
      · cases hs
      rename_i hread
      obtain ⟨hand', hstep, rfl⟩ := Option.map_eq_some_iff.1 hs
      have hsame : Carried c request hand' rs := by
        cases e with
        | accept =>
          cases hstep
          exact hcarried.accept ho hc
        | addRequest r =>
          cases hstep
          exact hcarried.addRequest hc r
        | runCallback w =>
          exact hcarried.runCallback ho hstep hne (calm_device hcalm.1) hcalm.2
        | dataReceived source buff w =>
          exact hcarried.received hread (step_received hstep).2
      have hdev : (ReadsOn c e ∨ ∃ w, e = .runCallback w) →
          hand.client_device_.bind peers = some d' := by
        rintro (hr | ⟨w, rfl⟩)
        · exact absurd hr hread
        · exact hcalm.1
      have hreads : (reads [.relay peer e]).map Prod.fst = [] := rfl
      rw [hreads, List.append_nil]
      exact ⟨rfl, ho.step hstep, hc.trans_le (step_next hstep), hsame,
        hsent.step ho hstep peer (fun hr => absurd hr hread) hdev⟩

theorem Follows.run {es : List ProxyClientEvent} (h : Follows d request rs s)
    (hne : request ≠ [])
    (hcalm : Along (ProxyClient.step http) (fun t e _ => Calm t e) s es)
    (hr : Transition.run (ProxyClient.step http) s es = some t) :
    Follows d request (rs ++ (reads es).map Prod.fst) t := by
  induction es generalizing s rs with
  | nil =>
    cases hr
    rw [show (reads []).map Prod.fst = [] from rfl, List.append_nil]
    exact h
  | cons e es ih =>
    obtain ⟨s', hs', hrest⟩ := Option.bind_eq_some_iff.1 hr
    obtain ⟨hnow, hlater⟩ := hcalm s' hs'
    rw [reads_cons, List.map_append, ← List.append_assoc]
    exact ih (h.step hne hnow hs') hlater hrest

/-- The callback of the connection has not been run. -/
def Waiting : ProxyClient → Prop
  | .relayed _ hand _ c => c ∉ hand.clients_
  | _ => False

instance : DecidablePred Waiting
  | .relayed _ hand _ c => inferInstanceAs (Decidable (c ∉ hand.clients_))
  | .http | .closed _ => inferInstanceAs (Decidable False)

/-- What has been delivered of a connection in a loop: nothing before its callback, and then the
request and all that was read. -/
theorem Follows.delivered (h : Follows d request rs t) :
    Waiting t ∧ t.delivered = [] ∧ rs = [] ∨
      t.delivered = (request :: rs).map fun data => (some d, data) := by
  cases t with
  | http => exact h.elim
  | closed pages => exact h.elim
  | relayed d' hand peers c =>
    obtain ⟨rfl, _, _, hcarried, hsentTo⟩ := h
    have hdelivered : ProxyClient.delivered (.relayed d' hand peers c) =
        (hand.sentBy c).map fun data => (some d', data) := by
      rw [ProxyClient.delivered, sentBy, List.map_map]
      apply List.map_congr_left
      intro m hm
      obtain ⟨hm, hsource⟩ := List.mem_filter.1 hm
      exact Prod.ext (hsentTo m hm (of_decide_eq_true hsource)).2 rfl
    rw [hdelivered]
    cases hcarried with
    | waits hnew _ _ hsent =>
      rw [hsent]
      exact .inl ⟨hnew, rfl, rfl⟩
    | served _ _ hsent | gone _ _ hsent =>
      rw [hsent]
      exact .inr rfl

theorem Follows.routes (h : Follows d request rs t) (hw : ¬ Waiting t) :
    t.routes = (request :: rs).map fun data => .device (some d) data := by
  have hpages : t.pages = [] := by
    cases t with
    | http => exact h.elim
    | closed pages => exact h.elim
    | relayed => rfl
  obtain ⟨hwait, _⟩ | hdelivered := h.delivered
  · exact absurd hwait hw
  · rw [ProxyClient.routes, hpages, hdelivered, List.map_nil, List.append_nil, List.map_map]
    rfl

theorem refuse_eq {protocol : http_protocols} {status : Nat} {text : Str}
    (h : refuse protocol status text = some s) :
    s = .closed [.text status none (some text) false] := by
  obtain ⟨c, hc, rfl⟩ := Option.map_eq_some_iff.1 h
  rw [Http2Client.send_error_text] at hc
  split at hc
  · cases hc
  · cases hc
    rfl

theorem run_closed {pages : List HttpWritten} {es : List ProxyClientEvent}
    (h : run (step http) (.closed pages) es = some t) : t = .closed pages ∧ es = [] := by
  cases es with
  | nil => exact ⟨(Option.some.inj h).symm, rfl⟩
  | cons e es => cases h

/-- The routes of a connection whose first request is of a registered host: the rewritten request,
and everything behind it unchanged. -/
theorem routes_registered {buff : Str} {look : ProxyLookup} {w : WriteOutcome}
    {es : List ProxyClientEvent} {first : ρ} (hbytes : ∀ r, http.ConvertToBytes r ≠ [])
    (hb : buff ≠ []) (hp : http.parse_http_request buff = .ok first)
    (hd : look.registry.findInnerConnectionByHost (http.GetHpath (http.path first)) = some d)
    (hcalm : Along (step http) (fun t e _ => Calm t e) .http (.data buff look w :: es))
    (hr : run (step http) .http (.data buff look w :: es) = some t) (hw : ¬ Waiting t) :
    t.routes = .device (some d) (http.ConvertToBytes (fileRequest http first)) ::
      (reads es).map fun p => .device (some d) p.1 := by
  obtain ⟨s, hs, hrest⟩ := Option.bind_eq_some_iff.1 hr
  have hlater := (hcalm s hs).2
  simp only [step, DataReceived, if_neg hb, hp, processHttpRequest, hd] at hs
  split at hs
  · cases hs
    have hfollows := (follows_addHttpRelayClient look.readyLoop).run (hbytes _) hlater hrest
    rw [hfollows.routes hw, List.map_cons, List.nil_append, List.map_map]
    rfl
  · cases hs

/-- A first request of a host that is not registered is the only one. -/
theorem routes_refused {buff : Str} {look : ProxyLookup} {w : WriteOutcome}
    {es : List ProxyClientEvent} {first : ρ} (hb : buff ≠ [])
    (hp : http.parse_http_request buff = .ok first)
    (hd : look.registry.findInnerConnectionByHost (http.GetHpath (http.path first)) = none)
    (hr : run (step http) .http (.data buff look w :: es) = some t) :
    t.routes = [ownRoute http look first] ∧ es = [] := by
  obtain ⟨s, hs, hrest⟩ := Option.bind_eq_some_iff.1 hr
  simp only [step, DataReceived, if_neg hb, hp, processHttpRequest, hd] at hs
  split at hs
  · obtain rfl := refuse_eq hs
    obtain ⟨rfl, rfl⟩ := run_closed hrest
    refine ⟨?_, rfl⟩
    simp only [ownRoute, hd]
    rfl
  · cases hs

/-- A later request is where it belongs exactly when it belongs to the device of the first one, as
it was sent. -/
theorem ownRoute_eq_iff {look : ProxyLookup} {r : ρ} {buff : Str} :
    ownRoute http look r = .device (some d) buff ↔
      look.registry.findInnerConnectionByHost (http.GetHpath (http.path r)) = some d ∧
        http.ConvertToBytes (fileRequest http r) = buff := by
  simp only [ownRoute]
  split
  · rename_i d' hd
    rw [hd]
    simp only [Route.device.injEq, Option.some.injEq]
  · rename_i hd
    rw [hd]
    exact ⟨nofun, nofun⟩

theorem map_eq_filterMap_iff {α β : Type*} {l : List α} {f : α → β} {g : α → Option β}
    (hg : ∀ a ∈ l, g a ≠ none) : l.map f = l.filterMap g ↔ ∀ a ∈ l, g a = some (f a) := by
  induction l with
  | nil => exact ⟨fun _ => nofun, fun _ => rfl⟩
  | cons a l ih =>
    obtain ⟨b, hb⟩ := Option.ne_none_iff_exists'.1 (hg a List.mem_cons_self)
    have hrest := ih fun x hx => hg x (List.mem_cons_of_mem a hx)
    rw [List.map_cons, List.filterMap_cons_some hb, List.cons_eq_cons, hrest, List.forall_mem_cons,
      hb, Option.some.injEq, @eq_comm _ (f a)]

/-- The requests of a connection, all of them complete, are where they belong exactly when each one
behind the first is for the same device and is not changed by its rewriting; that is when there is
no other one, or their paths have no host in them. -/
theorem ownRoutes_iff {buff : Str} {look : ProxyLookup} {w : WriteOutcome}
    {es : List ProxyClientEvent} (hbytes : ∀ r, http.ConvertToBytes r ≠ []) (hb : buff ≠ [])
    (hcomplete : ∀ p ∈ reads (.data buff look w :: es), ∃ request,
      http.parse_http_request p.1 = .ok request)
    (hcalm : Along (step http) (fun t e _ => Calm t e) .http (.data buff look w :: es))
    (hr : run (step http) .http (.data buff look w :: es) = some t) (hw : ¬ Waiting t) :
    OwnRoutes http (.data buff look w :: es) t ↔
      ∀ first, http.parse_http_request buff = .ok first → ∀ p ∈ reads es,
        Unrewritten http
          (look.registry.findInnerConnectionByHost (http.GetHpath (http.path first))) p.1 p.2 := by
  have hreads : reads (.data buff look w :: es) = (buff, look) :: reads es := by
    rw [reads_cons]
    simp [reads, hb]
  rw [hreads] at hcomplete
  obtain ⟨first, hp⟩ := hcomplete _ List.mem_cons_self
  have hcond : (∀ first, http.parse_http_request buff = .ok first → ∀ p ∈ reads es,
        Unrewritten http
          (look.registry.findInnerConnectionByHost (http.GetHpath (http.path first))) p.1 p.2) ↔
      ∀ p ∈ reads es, Unrewritten http
        (look.registry.findInnerConnectionByHost (http.GetHpath (http.path first))) p.1 p.2 :=
    ⟨fun h => h first hp, fun h f hf => by cases hp.symm.trans hf; exact h⟩
  have hfirst : ownRouteOf http (buff, look) = some (ownRoute http look first) := by
    rw [ownRouteOf, hp]
    rfl
  rw [hcond, OwnRoutes, hreads, List.filterMap_cons_some hfirst]
  cases hd : look.registry.findInnerConnectionByHost (http.GetHpath (http.path first)) with
  | none =>
    obtain ⟨hroutes, rfl⟩ := routes_refused hb hp hd hr
    rw [hroutes]
    exact ⟨fun _ => nofun, fun _ => rfl⟩
  | some d =>
    have hown : ownRoute http look first =
        .device (some d) (http.ConvertToBytes (fileRequest http first)) :=
      ownRoute_eq_iff.2 ⟨hd, rfl⟩
    have hlater : ∀ p ∈ reads es, ownRouteOf http p ≠ none := by
      intro p hmem
      obtain ⟨request, hrequest⟩ := hcomplete p (List.mem_cons_of_mem _ hmem)
      rw [ownRouteOf, hrequest]
      exact Option.some_ne_none _
    rw [routes_registered hbytes hb hp hd hcalm hr hw, hown, List.cons_eq_cons,
      and_iff_right rfl, map_eq_filterMap_iff hlater]
    apply forall₂_congr
    intro p hmem
    obtain ⟨request, hrequest⟩ := hcomplete p (List.mem_cons_of_mem _ hmem)
    have hsome : ownRouteOf http p = some (ownRoute http p.2 request) := by
      rw [ownRouteOf, hrequest]
      rfl
    rw [hsome, Option.some.injEq, ownRoute_eq_iff, Unrewritten]
    exact ⟨fun h r hr => by cases hrequest.symm.trans hr; exact h, fun h => h request hrequest⟩

end ProxyClient

namespace ProxyClient

/-- Requests that are a path alone: the host, a slash and the file. -/
def pathTypes : ProxyTypes (Str × Str) (Str × Str) where
  parse_http_request buff :=
    match strchr '/' buff with
    | none => .error (400, [])
    | some (host, file) => .ok (host, file.tail)
  protocol _ := .HP_1_1
  path := id
  setPath path _ := path
  GetHpath path := path.1
  GetFileName path := path.2
  SetPath file _ := ([], file)
  ConvertToBytes request := request.1 ++ '/' :: request.2

/-- Two devices are registered. -/
def twoDevices : ProxyLookup where
  registry := {
    clients := fun _ => some .empty
    accepted := 2
    connections_ := fun host =>
      if host = "one".toList then some 0 else if host = "two".toList then some 1 else none }
  readyLoop := none

/-- The first device is registered, under no name as well. -/
def noHost : ProxyLookup :=
  { twoDevices with registry := { twoDevices.registry with
      connections_ := fun host => if host = "one".toList ∨ host = [] then some 0 else none } }

/-- A request for the first device, and behind it one for the second. -/
def twoTargets : List ProxyClientEvent :=
  [.data "one/a".toList twoDevices ⟨0, false⟩, .relay (some 0) .accept,
    .relay none (.runCallback ⟨2, false⟩), .data "two/b".toList twoDevices ⟨5, false⟩]

/-- The second request names a registered device, and is delivered to the first one. -/
theorem not_ownRoutes_twoTargets :
    ∃ t, run (step pathTypes) .http twoTargets = some t ∧
      t.routes = [.device (some 0) "/a".toList, .device (some 0) "two/b".toList] ∧
      ¬ OwnRoutes pathTypes twoTargets t := by
  refine ⟨_, rfl, by decide, ?_⟩
  intro h
  have hsecond : Route.device (some 0) "two/b".toList = .device (some 1) "/b".toList :=
    (List.cons.inj (List.cons.inj h).2).1
  exact absurd hsecond (by decide)

/-- Behind a request for the first device, one that names no host, as it is after the rewriting;
the device is registered for that as well. -/
def samePath : List ProxyClientEvent :=
  [.data "one/a".toList noHost ⟨0, false⟩, .relay (some 0) .accept,
    .relay none (.runCallback ⟨2, false⟩), .data "/b".toList noHost ⟨2, false⟩]

theorem along_calm_samePath :
    Along (step pathTypes) (fun t e _ => Calm t e) .http samePath := by
  apply Along.cons rfl trivial
  apply Along.cons rfl trivial
  apply Along.cons rfl (And.intro (by decide) (by decide))
  apply Along.cons rfl (And.intro (by decide) (by decide))
  trivial

theorem ownRoutes_iff_samePath : ∃ t, run (step pathTypes) .http samePath = some t ∧
    OwnRoutes pathTypes samePath t := by
  obtain ⟨t, ht⟩ : ∃ t, run (step pathTypes) .http samePath = some t := ⟨_, rfl⟩
  refine ⟨t, ht, ?_⟩
  have hcomplete : ∀ p ∈ reads samePath, ∃ request,
      pathTypes.parse_http_request p.1 = .ok request := by
    intro p hp
    obtain rfl | rfl := List.mem_pair.1 hp
    · exact ⟨_, rfl⟩
    · exact ⟨_, rfl⟩
  have hserved : ¬ Waiting t := by
    cases ht
    decide
  apply (ownRoutes_iff (by intro r; simp [pathTypes]) (by decide) hcomplete along_calm_samePath ht
    hserved).2
  intro first hfirst p hp request hrequest
  obtain rfl := List.mem_singleton.1 hp
  cases hfirst
  cases hrequest
  exact ⟨rfl, rfl⟩

end ProxyClient

end SiteOnYourDevice
