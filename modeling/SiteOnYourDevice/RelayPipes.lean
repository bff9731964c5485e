import SiteOnYourDevice.BytePipe
import SiteOnYourDevice.HttpInnerServerHandler
import SiteOnYourDevice.RelayAnswers

namespace SiteOnYourDevice
open CString Transition BytePipe
set_option relaxedAutoImplicit false
set_option autoImplicit true

namespace RelayHandler

/-- The bytes that `dest` took of those of `source`. -/
def passed (source dest : ClientId) (s : RelayHandler) : Str :=
  (s.sent.filter fun m => m.source = source ∧ m.dest = dest).flatMap (·.data)

/-- The reads on one connection, each with what the write after it took. -/
def readsOn (c : ClientId) (es : List Event) : List (Transfer Char) :=
  es.filterMap fun
    | .dataReceived client buff w => if client = c then some ⟨buff, w.accepted⟩ else none
    | _ => none

/-- Neither of the two connections ends, and no write reports an error. -/
def StaysOpen (p d : ClientId) : Event → Prop
  | .dataReceived c buff w => c = p ∨ c = d → buff ≠ [] ∧ w.err = false
  | _ => True

/-- A client and a device that a relay connects. -/
structure Connected (p d : ClientId) (s : RelayHandler) : Prop extends QueueOwned s where
  client : s.client_primary_ = some p
  client_read : p ∈ s.clients_
  device_ : s.client_device_ = some d

variable {s s' t : RelayHandler} {p d c : ClientId} {e : Event} {buff : Str} {w : WriteOutcome}

theorem Connected.ne (h : Connected p d s) : p ≠ d := by
  rintro rfl
  exact h.apart p h.client h.device_

theorem Connected.queue_nil (h : Connected p d s) : s.queue = [] := by
  apply List.eq_nil_iff_forall_not_mem.2
  intro q hq
  obtain ⟨hp, hmem⟩ := h.queue q hq
  rw [h.client] at hp
  exact hmem (Option.some.inj hp ▸ h.client_read)

theorem passed_write (hs : s.Write d c buff w = some s') (a b : ClientId) :
    s'.passed a b = s.passed a b ++ if c = a ∧ d = b then buff.take w.accepted else [] := by
  obtain ⟨_, rfl⟩ := Write_eq hs
  simp only [passed, List.filter_append, List.flatMap_append]
  congr 1
  by_cases h : c = a ∧ d = b
  · simp [h]
  · simp [h]

theorem passed_of_sent (h : s'.sent = s.sent) (a b : ClientId) :
    s'.passed a b = s.passed a b := by
  rw [passed, h]
  rfl

theorem taken_readsOn (a : ClientId) :
    taken (readsOn a [.dataReceived c buff w]) = if c = a then buff.take w.accepted else [] := by
  by_cases h : c = a
  · simp [readsOn, h, Transfer.taken]
  · simp [readsOn, h]

/-- A connection that is neither end leaves the relay alone. -/
theorem Connected.closeClient (h : Connected p d s) (hc : c ∈ s.clients_) (hp : p ≠ c)
    (hd : d ≠ c) : Connected p d (s.closeClient c) := by
  have hclosed : s.Closed c = s := by
    apply Closed_extra
    · exact fun he => hp (Option.some.inj (h.client.symm.trans he))
    · exact fun he => hd (Option.some.inj (h.device_.symm.trans he))
  have howned := h.toQueueOwned.closeClient hc
  rw [RelayHandler.closeClient, hclosed] at howned ⊢
  exact ⟨howned, h.client, List.mem_filter.2 ⟨h.client_read, decide_eq_true hp⟩, h.device_⟩

/-- A read is written to the other end, when it is on one of the two. -/
theorem Connected.received (h : Connected p d s) (ho : StaysOpen p d (.dataReceived c buff w))
    (hc : c ∈ s.clients_) (hr : Received s c buff w s') :
    Connected p d s' ∧
      s'.passed p d = s.passed p d ++ taken (readsOn p [.dataReceived c buff w]) ∧
      s'.passed d p = s.passed d p ++ taken (readsOn d [.dataReceived c buff w]) := by
  have hne := h.ne
  have howned := h.toQueueOwned.received hc hr
  rw [taken_readsOn, taken_readsOn]
  cases hr with
  | closed hb =>
    have hp : p ≠ c := fun hp => (ho (.inl hp.symm)).1 hb
    have hd : d ≠ c := fun hd => (ho (.inr hd.symm)).1 hb
    rw [if_neg hp.symm, if_neg hd.symm, List.append_nil, List.append_nil]
    exact ⟨h.closeClient hc hp hd, passed_of_sent closeClient_sent p d,
      passed_of_sent closeClient_sent d p⟩
  | @toDevice _ device _ hprim hdev hw =>
    cases h.client.symm.trans hprim
    cases h.device_.symm.trans hdev
    simp only [passed_write hw, hne, hne.symm, and_self, if_true, if_false, List.append_nil]
    obtain ⟨_, rfl⟩ := Write_eq hw
    exact ⟨⟨howned, h.client, h.client_read, h.device_⟩, trivial⟩
  | @toClient _ primary _ hdev hprim hw he =>
    cases h.client.symm.trans hprim
    cases h.device_.symm.trans hdev
    simp only [passed_write hw, hne, hne.symm, and_self, if_true, if_false, List.append_nil]
    obtain ⟨_, rfl⟩ := Write_eq hw
    exact ⟨⟨howned, h.client, h.client_read, h.device_⟩, trivial⟩
  | clientLost _ hdev _ _ he =>
    have herr := (ho (.inr (Option.some.inj (hdev.symm.trans h.device_)))).2
    rw [he] at herr
    cases herr
  | alone _ halone =>
    rw [h.client, h.device_] at halone
    rcases halone with ⟨_, hnone⟩ | ⟨_, hnone⟩
    · cases hnone
    · cases hnone
  | notreached _ hprim hdev =>
    have hp : c ≠ p := fun hp => hprim (hp ▸ h.client)
    have hd : c ≠ d := fun hd => hdev (hd ▸ h.device_)
    rw [if_neg hp, if_neg hd, List.append_nil, List.append_nil]
    exact ⟨⟨howned, h.client, h.client_read, h.device_⟩, rfl, rfl⟩

/-- What one step passes from one connection to another: a read on the first one, when the two are
the ends of the relay. -/
theorem Connected.step (h : Connected p d s) (ho : StaysOpen p d e)
    (hs : step s e = some s') :
    Connected p d s' ∧
      s'.passed p d = s.passed p d ++ taken (readsOn p [e]) ∧
      s'.passed d p = s.passed d p ++ taken (readsOn d [e]) := by
  cases e with
  | accept =>
    have howned := h.toQueueOwned.step hs
    cases hs
    have hfresh : s.client_primary_ ≠ some s.next := fun hp => (h.primary _ hp).ne rfl
    have hdev : s.client_device_ ≠ none := by
      rw [h.device_]
      exact Option.some_ne_none d
    rw [RegisterClient_extra (s := s.numbered) hfresh hdev] at howned ⊢
    exact ⟨⟨howned, h.client, List.mem_append_left _ h.client_read, h.device_⟩,
      (List.append_nil _).symm, (List.append_nil _).symm⟩
  | addRequest request =>
    have howned := h.toQueueOwned.step hs
    cases hs
    rw [setClient_some (s := s.numbered) h.client] at howned ⊢
    exact ⟨⟨howned, h.client, h.client_read, h.device_⟩, (List.append_nil _).symm,
      (List.append_nil _).symm⟩
  | runCallback w =>
    obtain ⟨_, _, _, _, _, hq, _⟩ := runCallback_eq hs
    rw [h.queue_nil] at hq
    cases hq
  | dataReceived c buff w =>
    obtain ⟨hc, hr⟩ := step_received hs
    exact h.received ho hc hr

theorem readsOn_cons (c : ClientId) (e : Event) (es : List Event) :
    readsOn c (e :: es) = readsOn c [e] ++ readsOn c es :=
  List.filterMap_append (l := [e])

theorem Connected.run {es : List Event} (h : Connected p d s) (ho : ∀ e ∈ es, StaysOpen p d e)
    (hr : run RelayHandler.step s es = some t) :
    t.passed p d = s.passed p d ++ taken (readsOn p es) ∧
      t.passed d p = s.passed d p ++ taken (readsOn d es) := by
  induction es generalizing s with
  | nil =>
    cases hr
    exact ⟨(List.append_nil _).symm, (List.append_nil _).symm⟩
  | cons e es ih =>
    obtain ⟨s', hs', hrest⟩ := Option.bind_eq_some_iff.1 hr
    obtain ⟨hconn, hto, hfrom⟩ := h.step (ho e List.mem_cons_self) hs'
    obtain ⟨ihto, ihfrom⟩ := ih hconn (fun e he => ho e (List.mem_cons_of_mem _ he)) hrest
    rw [readsOn_cons p, readsOn_cons d, taken_append, taken_append, ihto, ihfrom, hto, hfrom,
      List.append_assoc, List.append_assoc]
    exact ⟨rfl, rfl⟩

/-- Each end took exactly what was read from the other one, in order and without gaps. -/
def Lossless (p d : ClientId) (es : List Event) (s t : RelayHandler) : Prop :=
  t.passed p d = s.passed p d ++ offered (readsOn p es) ∧
    t.passed d p = s.passed d p ++ offered (readsOn d es)

/-- No write after a read on one of the two took less than the whole buffer. -/
def NoShortWrite (p d : ClientId) (es : List Event) : Prop :=
  (∀ r ∈ readsOn p es, r.Whole) ∧ ∀ r ∈ readsOn d es, r.Whole

theorem Connected.lossless_iff {es : List Event} (h : Connected p d s)
    (ho : ∀ e ∈ es, StaysOpen p d e) (hr : Transition.run RelayHandler.step s es = some t) :
    Lossless p d es s t ↔ NoShortWrite p d es := by
  obtain ⟨hto, hfrom⟩ := h.run ho hr
  rw [Lossless, NoShortWrite, hto, hfrom, List.append_cancel_left_eq, List.append_cancel_left_eq,
    taken_eq_offered_iff, taken_eq_offered_iff]

theorem owned_run {request : Str} {es : List Event}
    (hr : run RelayHandler.step (init request) es = some s) : QueueOwned s := by
  have halong : Always RelayHandler.step QueueOwned (init request) es := by
    refine ⟨(RelayNet.owned_init request).loop, ?_⟩
    apply along_of_invariant (I := QueueOwned) (RelayNet.owned_init request).loop
    intro t e t' ht he
    exact ⟨ht.step he, ht.step he⟩
  exact halong.at_end hr

end RelayHandler

namespace RelayClientEx

/-- What the client of the relay was given of the bytes of the external host. -/
def returned (s : RelayClientEx) : Str :=
  s.client.written.flatMap fun
    | .raw data => data
    | _ => []

def relayReads (es : List ReadEvent) : List (Transfer Char) :=
  es.filterMap fun
    | .data buff ext => some ⟨buff, ext.accepted⟩
    | .proxyData _ _ => none

def proxyReads (es : List ReadEvent) : List (Transfer Char) :=
  es.filterMap fun
    | .data _ _ => none
    | .proxyData buff accepted => some ⟨buff, accepted⟩

/-- The external host can be reached, nothing ends and no write reports an error. -/
def StaysOpen : ReadEvent → Prop
  | .data buff ext => buff ≠ [] ∧ ext.connect = none ∧ ext.write = none
  | .proxyData buff _ => buff ≠ []

def Lossless (es : List ReadEvent) (s t : RelayClientEx) : Prop :=
  t.forwarded = s.forwarded ++ offered (relayReads es) ∧
    t.returned = s.returned ++ offered (proxyReads es)

def NoShortWrite (es : List ReadEvent) : Prop :=
  (∀ r ∈ relayReads es, r.Whole) ∧ ∀ r ∈ proxyReads es, r.Whole

variable {ρ : Type*} {net : NetTypes} {http : HttpTypes ρ} {h : HttpServerHandler ρ}
  {s : RelayClientEx} {client : IoClient ρ} {e : ReadEvent}

theorem returned_Write (s : RelayClientEx) (data : Str) :
    { s with client := s.client.Write [.raw data] }.returned = s.returned ++ data := by
  simp [returned, Http2Client.Write]

theorem step_passes (hv : net.IsValid s.external_host_ = true) (ho : StaysOpen e)
    (hs : Http2ClientServerHandler.step net http h (.RelayClientEx s) e = some client) :
    ∃ s', client = .RelayClientEx s' ∧ s'.external_host_ = s.external_host_ ∧
      s'.forwarded = s.forwarded ++ taken (relayReads [e]) ∧
      s'.returned = s.returned ++ taken (proxyReads [e]) := by
  cases e with
  | data buff ext =>
    obtain ⟨hb, hconnect, hwrite⟩ := ho
    simp only [Http2ClientServerHandler.step] at hs
    split at hs
    · obtain rfl := Option.some.inj hs
      have hnone : (if s.eclient_ then none else ext.connect) = none := by
        rw [hconnect, ite_self]
      simp only [Http2ClientServerHandler.DataReceived,
        Http2ClientServerHandler.relayExDataReceived, if_neg hb, hv, if_true, hnone, hwrite]
      exact ⟨_, rfl, rfl, congrArg _ (List.append_nil _).symm, (List.append_nil _).symm⟩
    · cases hs
  | proxyData buff accepted =>
    simp only [Http2ClientServerHandler.step] at hs
    split at hs
    · obtain rfl := Option.some.inj hs
      rw [Http2ClientServerHandler.proxyDataReceived, if_neg ho]
      refine ⟨_, rfl, rfl, (List.append_nil _).symm, ?_⟩
      rw [returned_Write]
      exact congrArg _ (List.append_nil _).symm
    · cases hs

theorem relayReads_cons (e : ReadEvent) (es : List ReadEvent) :
    relayReads (e :: es) = relayReads [e] ++ relayReads es :=
  List.filterMap_append (l := [e])

theorem proxyReads_cons (e : ReadEvent) (es : List ReadEvent) :
    proxyReads (e :: es) = proxyReads [e] ++ proxyReads es :=
  List.filterMap_append (l := [e])

theorem run_passes {es : List ReadEvent} (hv : net.IsValid s.external_host_ = true)
    (ho : ∀ e ∈ es, StaysOpen e)
    (hr : run (Http2ClientServerHandler.step net http h) (.RelayClientEx s) es = some client) :
    ∃ s', client = .RelayClientEx s' ∧ s'.forwarded = s.forwarded ++ taken (relayReads es) ∧
      s'.returned = s.returned ++ taken (proxyReads es) := by
  induction es generalizing s with
  | nil =>
    cases hr
    exact ⟨s, rfl, (List.append_nil _).symm, (List.append_nil _).symm⟩
  | cons e es ih =>
    obtain ⟨c, hs', hrest⟩ := Option.bind_eq_some_iff.1 hr
    obtain ⟨s', rfl, hhost, hto, hfrom⟩ := step_passes hv (ho e List.mem_cons_self) hs'
    obtain ⟨t, ht, ihto, ihfrom⟩ :=
      ih (hhost ▸ hv) (fun e he => ho e (List.mem_cons_of_mem _ he)) hrest
    refine ⟨t, ht, ?_, ?_⟩
    · rw [relayReads_cons, taken_append, ihto, hto, List.append_assoc]
    · rw [proxyReads_cons, taken_append, ihfrom, hfrom, List.append_assoc]

end RelayClientEx

section Pipes
variable {ρ : Type*} (net : NetTypes) (http : HttpTypes ρ) (h : HttpServerHandler ρ)

/-- Both kinds of relay are loss-free in both directions exactly as long as no write is short:
nobody looks at how much of a buffer was taken. -/
theorem relays_lossless_iff {request : Str} {es₀ es : List RelayHandler.Event}
    {s t : RelayHandler} {p d : ClientId} {reads : List ReadEvent} {x : RelayClientEx}
    {client : IoClient ρ}
    (hreach : run RelayHandler.step (.init request) es₀ = some s)
    (hp : s.client_primary_ = some p) (hmem : p ∈ s.clients_) (hd : s.client_device_ = some d)
    (ho : ∀ e ∈ es, RelayHandler.StaysOpen p d e) (hr : run RelayHandler.step s es = some t)
    (hv : net.IsValid x.external_host_ = true) (hox : ∀ e ∈ reads, RelayClientEx.StaysOpen e)
    (hrx : run (Http2ClientServerHandler.step net http h) (.RelayClientEx x) reads =
      some client) :
    (RelayHandler.Lossless p d es s t ↔ RelayHandler.NoShortWrite p d es) ∧
      ∃ y, client = .RelayClientEx y ∧
        (RelayClientEx.Lossless reads x y ↔ RelayClientEx.NoShortWrite reads) := by
  have hconn : RelayHandler.Connected p d s := ⟨RelayHandler.owned_run hreach, hp, hmem, hd⟩
  refine ⟨hconn.lossless_iff ho hr, ?_⟩
  obtain ⟨y, hy, hto, hfrom⟩ := RelayClientEx.run_passes hv hox hrx
  refine ⟨y, hy, ?_⟩
  rw [RelayClientEx.Lossless, RelayClientEx.NoShortWrite, hto, hfrom, List.append_cancel_left_eq,
    List.append_cancel_left_eq, taken_eq_offered_iff, taken_eq_offered_iff]

end Pipes

/-- The relay of client 0 and device 1, after the first request. -/
def pairedHandler : RelayHandler :=
  ⟨some 0, some 1, (0, ['r']), [1, 0], [], [], 2, [⟨1, 0, ['r']⟩], false⟩

theorem pairedHandler_reached : run RelayHandler.step (.init ['r']) [.accept, .runCallback ⟨1, false⟩] =
    some pairedHandler := rfl

/-- A relay in front of an external host. -/
def outward : RelayClientEx := ⟨.new, .opened, ⟨"localhost".toList, 80⟩, false, [], []⟩

def bothWays : List RelayHandler.Event :=
  [.dataReceived 0 ['a', 'b'] ⟨2, false⟩, .dataReceived 1 ['c', 'd'] ⟨2, false⟩]

def outAndBack : List ReadEvent := [.data ['a'] ⟨none, 1, none⟩, .proxyData ['b'] 1]

theorem relays_lossless_iff_whole :
    ∃ t y, run RelayHandler.step pairedHandler bothWays = some t ∧
      run (Http2ClientServerHandler.step .plain .plain ⟨fun _ => none, fun _ _ _ => none, none⟩)
        (.RelayClientEx outward) outAndBack = some (.RelayClientEx y) ∧
      RelayHandler.Lossless 0 1 bothWays pairedHandler t ∧
      RelayClientEx.Lossless outAndBack outward y := by
  obtain ⟨t, ht⟩ : ∃ t, run RelayHandler.step pairedHandler bothWays = some t := ⟨_, rfl⟩
  obtain ⟨client, hc⟩ : ∃ client,
      run (Http2ClientServerHandler.step .plain .plain ⟨fun _ => none, fun _ _ _ => none, none⟩)
        (.RelayClientEx outward) outAndBack = some client := ⟨_, rfl⟩
  obtain ⟨hrelay, y, rfl, hex⟩ := relays_lossless_iff _ _ _ pairedHandler_reached (p := 0) (d := 1)
    rfl (by decide) rfl (by simp [bothWays, RelayHandler.StaysOpen]) ht rfl
    (by simp [outAndBack, RelayClientEx.StaysOpen]) hc
  refine ⟨t, y, ht, hc, hrelay.2 ?_, hex.2 ?_⟩
  · simp [bothWays, RelayHandler.NoShortWrite, RelayHandler.readsOn, Transfer.Whole]
  · simp [outAndBack, RelayClientEx.NoShortWrite, RelayClientEx.relayReads,
      RelayClientEx.proxyReads, Transfer.Whole]

def shortWrite : List RelayHandler.Event :=
  [.dataReceived 0 ['a', 'b'] ⟨1, false⟩, .dataReceived 0 ['c', 'd'] ⟨2, false⟩]

/-- The device takes one byte of a buffer of two, and then the next buffer: a byte is gone. -/
theorem not_lossless_shortWrite :
    (∀ e ∈ shortWrite, RelayHandler.StaysOpen 0 1 e) ∧
      ∃ t, run RelayHandler.step pairedHandler shortWrite = some t ∧
        ¬ RelayHandler.Lossless 0 1 shortWrite pairedHandler t := by
  constructor
  · simp [shortWrite, RelayHandler.StaysOpen]
  · refine ⟨_, rfl, ?_⟩
    intro h
    exact absurd h.1 (by decide)

end SiteOnYourDevice
