import SiteOnYourDevice.RelayHandler

namespace SiteOnYourDevice
open CString Transition
set_option relaxedAutoImplicit false
set_option autoImplicit true

/-- A byte on its way, with the client it came from or, on the way back, the client it answers. -/
structure Tagged where
  client : ClientId
  byte : Char
deriving DecidableEq

/-- A byte that reached the client `dest`, sent by the device in answer to bytes of `answers`. -/
structure Delivered where
  dest : ClientId
  answers : ClientId
  byte : Char
deriving DecidableEq

/-- A relay with the two directions of its device connection. `answering` are the clients whose
bytes the device has read and may still answer. -/
structure RelayNet where
  loop : RelayHandler
  toDevice : List Tagged
  answering : List ClientId
  fromDevice : List Tagged
  delivered : List Delivered

namespace RelayNet

def init (request : Str) : RelayNet := ⟨.init request, [], [], [], []⟩

/-- What a step of the loop sent. -/
def newlySent (s s' : RelayHandler) : List Relayed := s'.sent.drop s.sent.length

/-- The network after a step of the loop: a device connection that ended or is new has nothing
under way, one that stays gets what was written to it. -/
def follow (x : RelayNet) (loop' : RelayHandler) : RelayNet :=
  if loop'.client_device_ = x.loop.client_device_ then
    { x with
      loop := loop'
      toDevice := x.toDevice ++ ((newlySent x.loop loop').filter fun m =>
        loop'.client_device_ = some m.dest).flatMap fun m => m.data.map (⟨m.source, ·⟩) }
  else
    { loop := loop'
      toDevice := []
      answering := []
      fromDevice := []
      delivered := x.delivered }

/-- The bytes of a read of `bytes` from the device that were written to a client. -/
def deliver (bytes : List Tagged) (sent : List Relayed) : List Delivered :=
  sent.flatMap fun m => (bytes.zip m.data).map fun t => ⟨m.dest, t.1.client, t.2⟩

/-- A step of the loop other than a read of data from the device; the device reads, sends bytes in
answer to a client, or is done with one; the loop reads from the device. -/
inductive Event
  | loop (e : RelayHandler.Event)
  | deviceReads (n : Nat)
  | deviceSends (client : ClientId) (data : Str)
  | deviceDone (client : ClientId)
  | deviceData (n : Nat) (w : WriteOutcome)

/-- A read of data on the device connection. -/
def FromDevice (s : RelayHandler) : RelayHandler.Event → Prop
  | .dataReceived client buff _ => s.client_device_ = some client ∧ buff ≠ []
  | _ => False

instance (s : RelayHandler) : DecidablePred (FromDevice s)
  | .dataReceived _ _ _ => inferInstanceAs (Decidable (_ ∧ _))
  | .accept | .addRequest _ | .runCallback _ => inferInstanceAs (Decidable False)

def step (x : RelayNet) : Event → Option RelayNet
  | .loop e => if FromDevice x.loop e then none else (RelayHandler.step x.loop e).map x.follow
  | .deviceReads n =>
    some { x with
      toDevice := x.toDevice.drop n
      answering := x.answering ++ (x.toDevice.take n).map Tagged.client }
  | .deviceSends client data =>
    if client ∈ x.answering then
      some { x with fromDevice := x.fromDevice ++ data.map (⟨client, ·⟩) }
    else none
  | .deviceDone client => some { x with answering := x.answering.filter (· ≠ client) }
  | .deviceData n w =>
    match x.loop.client_device_ with
    | none => none
    | some device =>
      let bytes := x.fromDevice.take n
      if bytes = [] then none
      else
        (RelayHandler.step x.loop (.dataReceived device (bytes.map Tagged.byte) w)).map fun loop' =>
          { x with
            fromDevice := x.fromDevice.drop n
            delivered := x.delivered ++ deliver bytes (newlySent x.loop loop') }.follow loop'

/-- Every byte a client got answers bytes of this client. -/
def NoLeak (x : RelayNet) : Prop := ∀ d ∈ x.delivered, d.answers = d.dest

/-- A client is attached only while the device owes no answer: nothing is on its way in either
direction and the device is done with what it has read. -/
def AttachedWhenIdle (x : RelayNet) : Event → Prop
  | .loop (.addRequest _) =>
    x.loop.client_primary_ = none → x.toDevice = [] ∧ x.answering = [] ∧ x.fromDevice = []
  | _ => True

end RelayNet

namespace RelayHandler

/-- A queued request is the primary client's own, which is not registered before it is run, and
the first client is primary for as long as it is registered. -/
structure QueueOwned (s : RelayHandler) : Prop extends Numbered s where
  registered : ∀ c ∈ s.clients_, c < s.next
  queue : ∀ q ∈ s.queue, s.client_primary_ = some q.1 ∧ q.1 ∉ s.clients_
  single : s.queue.length ≤ 1
  first : s.request_.1 ∈ s.clients_ → s.client_primary_ = some s.request_.1

variable {s s' : RelayHandler} {c d : ClientId} {r buff : Str} {w : WriteOutcome}

theorem QueueOwned.queue_nil (h : QueueOwned s) (hp : s.client_primary_ = none) :
    s.queue = [] := by
  apply List.eq_nil_iff_forall_not_mem.2
  intro q hq
  obtain ⟨hq, _⟩ := h.queue q hq
  rw [hp] at hq
  cases hq

theorem QueueOwned.numbered (h : QueueOwned s) : QueueOwned s.numbered :=
  ⟨h.toNumbered.numbered, fun c hc => Nat.lt_succ_of_lt (h.registered c hc), h.queue, h.single,
    h.first⟩

theorem QueueOwned.setClient (h : QueueOwned s) (hc : c < s.next)
    (hd : s.client_device_ ≠ some c) (hnew : s.client_primary_ = none → c ∉ s.clients_) :
    QueueOwned (s.setClient c r) := by
  have hn : Numbered (s.setClient c r) := h.toNumbered.setClient hc hd
  cases hp : s.client_primary_ with
  | some p =>
    rw [setClient_some hp]
    exact h
  | none =>
    rw [setClient_none hp, h.queue_nil hp] at *
    refine ⟨hn, h.registered, ?_, Nat.le_refl _, ?_⟩
    · intro q hq
      rw [List.mem_singleton.1 hq]
      exact ⟨rfl, hnew hp⟩
    · intro hf
      have hsome := h.first hf
      rw [hp] at hsome
      cases hsome

/-- What a registered connection adds to the connections, whatever becomes of it. -/
theorem QueueOwned.registers (h : QueueOwned s) :
    (∀ c ∈ s.clients_ ++ [s.next], c < s.next + 1) ∧
      (∀ q ∈ s.queue, s.client_primary_ = some q.1 ∧ q.1 ∉ s.clients_ ++ [s.next]) ∧
      (s.request_.1 ∈ s.clients_ ++ [s.next] → s.client_primary_ = some s.request_.1) := by
  have hold : ∀ c ≠ s.next, c ∈ s.clients_ ++ [s.next] → c ∈ s.clients_ := by
    intro c hne hc
    rcases List.mem_append.1 hc with hc | hc
    · exact hc
    · exact absurd (List.mem_singleton.1 hc) hne
  refine ⟨?_, ?_, fun hf => h.first (hold _ h.request.ne hf)⟩
  · intro c hc
    rcases List.mem_append.1 hc with hc | hc
    · exact Nat.lt_succ_of_lt (h.registered c hc)
    · rw [List.mem_singleton.1 hc]
      exact Nat.lt_succ_self _
  · intro q hq
    obtain ⟨hp, hnot⟩ := h.queue q hq
    exact ⟨hp, fun hmem => hnot (hold _ (h.primary _ hp).ne hmem)⟩

theorem QueueOwned.acceptDevice (h : QueueOwned s) :
    QueueOwned (s.numbered.acceptDevice s.next) := by
  have hfresh : s.client_primary_ ≠ some s.next := fun hp => (h.primary _ hp).ne rfl
  obtain ⟨hreg, hq, hfirst⟩ := h.registers
  refine ⟨⟨h.numbered.primary, ?_, h.numbered.deleted, h.numbered.request, ?_⟩, hreg, hq, h.single,
    hfirst⟩
  · intro c hc
    cases hc
    exact Nat.lt_succ_self _
  · intro c hc he
    cases he
    exact hfresh hc

theorem QueueOwned.accept (h : QueueOwned s) :
    QueueOwned (s.numbered.RegisterClient s.next) := by
  have hfresh : s.client_primary_ ≠ some s.next := fun hp => (h.primary _ hp).ne rfl
  obtain ⟨hreg, hq, hfirst⟩ := h.registers
  by_cases hd : s.client_device_ = none
  · rw [RegisterClient_device (s := s.numbered) hfresh hd]
    apply h.acceptDevice.setClient
    · exact Nat.lt_succ_of_lt h.request
    · intro he
      exact h.request.ne (Option.some.inj he).symm
    · intro hp hf
      have hsome := hfirst hf
      rw [show s.client_primary_ = none from hp] at hsome
      cases hsome
  · rw [RegisterClient_extra (s := s.numbered) hfresh hd]
    obtain ⟨hp, hdev, hdel, hreq, hapart⟩ := h.toNumbered.numbered
    exact ⟨⟨hp, hdev, hdel, hreq, hapart⟩, hreg, hq, h.single, hfirst⟩

theorem QueueOwned.closeClient (h : QueueOwned s) (hc : c ∈ s.clients_) :
    QueueOwned (s.closeClient c) := by
  have hn : Numbered (s.closeClient c) := h.toNumbered.closeClient (h.registered c hc)
  have hq : ∀ q ∈ s.queue, s.client_primary_ = some q.1 ∧ q.1 ∉ s.clients_.filter (· ≠ c) := by
    intro q hq
    obtain ⟨hp, hnot⟩ := h.queue q hq
    exact ⟨hp, fun hmem => hnot (List.mem_filter.1 hmem).1⟩
  have hreg : ∀ d ∈ s.clients_.filter (· ≠ c), d < s.next := by
    intro d hd
    exact h.registered d (List.mem_filter.1 hd).1
  by_cases hp : s.client_primary_ = some c
  · rw [RelayHandler.closeClient, Closed_primary hp] at *
    refine ⟨hn, hreg, ?_, h.single, ?_⟩
    · intro q hmem
      -- the primary client's callback has run, or it would not be registered
      obtain ⟨hpq, hnot⟩ := h.queue q hmem
      rw [hp] at hpq
      cases hpq
      exact absurd hc hnot
    · intro hf
      obtain ⟨hf, hne⟩ := List.mem_filter.1 hf
      have hsome := h.first hf
      rw [hp] at hsome
      cases hsome
      exact absurd rfl (of_decide_eq_true hne)
  have hkeep : (s.closeClient c).client_primary_ = s.client_primary_ ∧
      (s.closeClient c).clients_ = s.clients_.filter (· ≠ c) ∧
      (s.closeClient c).queue = s.queue ∧ (s.closeClient c).next = s.next ∧
      (s.closeClient c).request_ = s.request_ := by
    by_cases hd : s.client_device_ = some c
    · rw [RelayHandler.closeClient, Closed_device hp hd]
      exact ⟨rfl, rfl, rfl, rfl, rfl⟩
    · rw [RelayHandler.closeClient, Closed_extra hp hd]
      exact ⟨rfl, rfl, rfl, rfl, rfl⟩
  obtain ⟨hpe, hce, hqe, hne, hre⟩ := hkeep
  refine ⟨hn, ?_, ?_, ?_, ?_⟩
  · rw [hce, hne]
    exact hreg
  · rw [hqe, hce, hpe]
    exact hq
  · rw [hqe]
    exact h.single
  · rw [hce, hre, hpe]
    intro hf
    exact h.first (List.mem_filter.1 hf).1

theorem QueueOwned.write (h : QueueOwned s) {dest source : ClientId}
    (hs : s.Write dest source buff w = some s') : QueueOwned s' := by
  obtain ⟨_, rfl⟩ := Write_eq hs
  exact ⟨⟨h.primary, h.device, h.deleted, h.request, h.apart⟩, h.registered, h.queue, h.single,
    h.first⟩

theorem QueueOwned.runCallback (h : QueueOwned s) (hs : s.runCallback w = some s') :
    QueueOwned s' := by
  obtain ⟨source, request, queue, client, sent, hq, hp, _, rfl, _⟩ := runCallback_eq hs
  have hqueue : queue = [] := by
    have := h.single
    rw [hq] at this
    exact List.eq_nil_of_length_eq_zero (Nat.le_zero.1 (Nat.le_of_succ_le_succ this))
  subst hqueue
  refine ⟨⟨h.primary, h.device, h.deleted, h.request, h.apart⟩, ?_, ?_, Nat.zero_le _, ?_⟩
  · intro c hc
    rcases List.mem_append.1 hc with hc | hc
    · exact h.registered c hc
    · rw [List.mem_singleton.1 hc]
      exact h.primary _ hp
  · intro q hq
    cases hq
  · intro hf
    rcases List.mem_append.1 hf with hf | hf
    · exact h.first hf
    · rw [← List.mem_singleton.1 hf] at hp
      exact hp

theorem QueueOwned.received (h : QueueOwned s) (hc : c ∈ s.clients_)
    (hr : Received s c buff w s') : QueueOwned s' := by
  cases hr with
  | closed hb => exact h.closeClient hc
  | toDevice _ _ _ hw | toClient _ _ _ hw => exact h.write hw
  | clientLost _ _ _ hw =>
    obtain ⟨_, rfl⟩ := Write_eq hw
    exact (h.write hw).closeClient hc
  | alone => exact h
  | notreached =>
    exact ⟨⟨h.primary, h.device, h.deleted, h.request, h.apart⟩, h.registered, h.queue, h.single,
      h.first⟩

theorem QueueOwned.step {e : Event} (h : QueueOwned s) (hs : step s e = some s') :
    QueueOwned s' := by
  cases e with
  | accept =>
    cases hs
    exact h.accept
  | addRequest request =>
    cases hs
    apply h.numbered.setClient (Nat.lt_succ_self _)
    · intro hd
      exact (h.device _ hd).ne rfl
    · intro _ hmem
      exact (h.registered _ hmem).ne rfl
  | runCallback w => exact h.runCallback hs
  | dataReceived client buff w =>
    obtain ⟨hc, hr⟩ := step_received hs
    exact h.received hc hr

theorem sent_none {P : Relayed → Prop} (hs : s'.sent = s.sent) :
    ∃ sent, s'.sent = s.sent ++ sent ∧ ∀ m ∈ sent, P m := by
  refine ⟨[], by rw [hs, List.append_nil], ?_⟩
  intro m hm
  cases hm

theorem closeClient_sent : (s.closeClient c).sent = s.sent := by
  simp only [closeClient, Closed]
  split
  · rfl
  · split <;> rfl

theorem closeClient_primary_of_ne (hp : s.client_primary_ ≠ some c) :
    (s.closeClient c).client_primary_ = s.client_primary_ := by
  simp only [closeClient, Closed, if_neg hp]
  split <;> rfl

theorem closeClient_primary (h : (s.closeClient c).client_primary_ = some d) :
    s.client_primary_ = some d := by
  simp only [closeClient, Closed] at h
  split at h
  · cases h
  · split at h <;> exact h

/-- Away from data of the device a step sends bytes of the primary client only, and gives a device
that stays no client, except by a new request. -/
theorem step_sent {e : Event} (h : QueueOwned s) (hs : step s e = some s')
    (he : ¬ RelayNet.FromDevice s e) :
    (∃ sent, s'.sent = s.sent ++ sent ∧ ∀ m ∈ sent, s.client_primary_ = some m.source) ∧
      ∀ p, s'.client_primary_ = some p → s'.client_device_ = s.client_device_ →
        s.client_primary_ = some p ∨ ∃ r, e = .addRequest r ∧ s.client_primary_ = none := by
  cases e with
  | accept =>
    cases hs
    have hfresh : s.client_primary_ ≠ some s.next := fun hp => (h.primary _ hp).ne rfl
    by_cases hd : s.client_device_ = none
    · rw [RegisterClient_device (s := s.numbered) hfresh hd]
      constructor
      · apply sent_none
        simp only [RelayHandler.setClient]
        split <;> rfl
      · intro p _ hdev
        simp only [RelayHandler.setClient] at hdev
        split at hdev <;>
          · rw [hd] at hdev
            cases hdev
    · rw [RegisterClient_extra (s := s.numbered) hfresh hd]
      exact ⟨sent_none rfl, fun p hp _ => .inl hp⟩
  | addRequest request =>
    cases hs
    cases hp : s.client_primary_ with
    | some p =>
      rw [setClient_some (s := s.numbered) hp]
      refine ⟨sent_none rfl, fun q hq _ => .inl ?_⟩
      rw [← hp]
      exact hq
    | none =>
      rw [setClient_none (s := s.numbered) hp]
      exact ⟨sent_none rfl, fun _ _ _ => .inr ⟨request, rfl, rfl⟩⟩
  | runCallback w =>
    obtain ⟨source, request, queue, client, sent, hq, _, _, rfl, hsent⟩ := runCallback_eq hs
    have hsource : s.client_primary_ = some source :=
      (h.queue (source, request) (hq ▸ List.mem_cons_self)).1
    refine ⟨⟨sent, rfl, ?_⟩, fun p hp _ => .inl hp⟩
    intro m hm
    rw [(hsent m hm).1]
    exact hsource
  | dataReceived client buff w =>
    obtain ⟨_, hr⟩ := step_received hs
    cases hr with
    | closed hb => exact ⟨sent_none closeClient_sent, fun p hp _ => .inl (closeClient_primary hp)⟩
    | toDevice _ hprim _ hw =>
      obtain ⟨_, rfl⟩ := Write_eq hw
      refine ⟨⟨_, rfl, ?_⟩, fun p hp _ => .inl hp⟩
      intro m hm
      rw [List.mem_singleton.1 hm]
      exact hprim
    | toClient hb hdev | clientLost hb hdev => exact absurd ⟨hdev, hb⟩ he
    | alone | notreached => exact ⟨sent_none rfl, fun p hp _ => .inl hp⟩

theorem step_fromDevice (h : QueueOwned s) (hd : s.client_device_ = some d) (hb : buff ≠ [])
    (hs : step s (.dataReceived d buff w) = some s') :
    (∃ sent, s'.sent = s.sent ++ sent ∧ ∀ m ∈ sent, s.client_primary_ = some m.dest) ∧
      s'.client_primary_ = s.client_primary_ := by
  have hp : s.client_primary_ ≠ some d := fun hp => h.apart d hp hd
  obtain ⟨_, hr⟩ := step_received hs
  cases hr with
  | closed hnil => exact absurd hnil hb
  | toDevice _ hprim => exact absurd hprim hp
  | toClient _ _ hprim hw =>
    obtain ⟨_, rfl⟩ := Write_eq hw
    refine ⟨⟨_, rfl, ?_⟩, rfl⟩
    intro m hm
    rw [List.mem_singleton.1 hm]
    exact hprim
  | clientLost _ _ hprim hw =>
    obtain ⟨_, rfl⟩ := Write_eq hw
    refine ⟨⟨_, closeClient_sent, ?_⟩, closeClient_primary_of_ne hp⟩
    intro m hm
    rw [List.mem_singleton.1 hm]
    exact hprim
  | alone => exact ⟨sent_none rfl, rfl⟩
  | notreached _ _ hdev => exact absurd hd hdev

end RelayHandler

namespace RelayNet

/-- All that is under way on the device connection is about one client. -/
structure OwnedBy (x : RelayNet) (p : ClientId) : Prop where
  toDevice : ∀ t ∈ x.toDevice, t.client = p
  answering : ∀ c ∈ x.answering, c = p
  fromDevice : ∀ t ∈ x.fromDevice, t.client = p

/-- All that is under way is about the primary client, and nothing leaked so far. -/
structure Owned (x : RelayNet) : Prop where
  loop : x.loop.QueueOwned
  primary : ∀ p, x.loop.client_primary_ = some p → OwnedBy x p
  noLeak : NoLeak x

variable {x x' : RelayNet} {loop' : RelayHandler} {p : ClientId} {sent : List Relayed}

theorem OwnedBy.of_idle (hto : x.toDevice = []) (hans : x.answering = [])
    (hfrom : x.fromDevice = []) : OwnedBy x p := by
  constructor
  · rw [hto]
    exact fun t ht => absurd ht List.not_mem_nil
  · rw [hans]
    exact fun c hc => absurd hc List.not_mem_nil
  · rw [hfrom]
    exact fun t ht => absurd ht List.not_mem_nil

@[simp] theorem follow_loop : (x.follow loop').loop = loop' := by
  rw [follow]
  split <;> rfl

@[simp] theorem follow_delivered : (x.follow loop').delivered = x.delivered := by
  rw [follow]
  split <;> rfl

theorem newlySent_eq {s s' : RelayHandler} (h : s'.sent = s.sent ++ sent) :
    newlySent s s' = sent := by
  rw [newlySent, h, List.drop_left]

theorem OwnedBy.follow (hsent : loop'.sent = x.loop.sent ++ sent)
    (hx : loop'.client_device_ = x.loop.client_device_ → OwnedBy x p)
    (hsource : ∀ m ∈ sent, loop'.client_device_ = some m.dest → m.source = p) :
    OwnedBy (x.follow loop') p := by
  rw [RelayNet.follow, newlySent_eq hsent]
  split
  · rename_i hdev
    obtain ⟨hto, hans, hfrom⟩ := hx hdev
    refine ⟨?_, hans, hfrom⟩
    intro t ht
    rcases List.mem_append.1 ht with ht | ht
    · exact hto t ht
    · obtain ⟨m, hm, ht⟩ := List.mem_flatMap.1 ht
      obtain ⟨hm, hdest⟩ := List.mem_filter.1 hm
      obtain ⟨ch, _, rfl⟩ := List.mem_map.1 ht
      exact hsource m hm (of_decide_eq_true hdest)
  · exact .of_idle rfl rfl rfl

theorem mem_deliver {bytes : List Tagged} {d : Delivered} (h : d ∈ deliver bytes sent) :
    (∃ m ∈ sent, d.dest = m.dest) ∧ ∃ b ∈ bytes, d.answers = b.client := by
  obtain ⟨m, hm, hd⟩ := List.mem_flatMap.1 h
  obtain ⟨⟨b, ch⟩, hz, rfl⟩ := List.mem_map.1 hd
  exact ⟨⟨m, hm, rfl⟩, b, (List.of_mem_zip hz).1, rfl⟩

theorem owned_loop {e : RelayHandler.Event} (hx : Owned x)
    (hs : step x (.loop e) = some x') (hidle : AttachedWhenIdle x (.loop e)) : Owned x' := by
  simp only [step] at hs
  split at hs
  · cases hs
  rename_i he
  obtain ⟨loop', hloop, rfl⟩ := Option.map_eq_some_iff.1 hs
  obtain ⟨⟨sent, hsent, hsource⟩, hgiven⟩ := RelayHandler.step_sent hx.loop hloop he
  refine ⟨?_, ?_, ?_⟩
  · rw [follow_loop]
    exact hx.loop.step hloop
  · rw [follow_loop]
    intro p hp
    by_cases hdev : loop'.client_device_ = x.loop.client_device_
    · rcases hgiven p hp hdev with hprim | ⟨r, rfl, hnone⟩
      · apply OwnedBy.follow hsent (fun _ => hx.primary p hprim)
        intro m hm _
        have := hsource m hm
        rw [hprim] at this
        exact (Option.some.inj this).symm
      · obtain ⟨hto, hans, hfrom⟩ := hidle hnone
        apply OwnedBy.follow hsent
        · intro _
          exact .of_idle hto hans hfrom
        · intro m hm _
          have := hsource m hm
          rw [hnone] at this
          cases this
    · rw [follow, if_neg hdev]
      exact .of_idle rfl rfl rfl
  · intro d hd
    rw [follow_delivered] at hd
    exact hx.noLeak d hd

/-- What is read on the device connection is written to the client, which is not the device. -/
theorem deviceData_eq {n : Nat} {w : WriteOutcome} (h : RelayHandler.QueueOwned x.loop)
    (hs : step x (.deviceData n w) = some x') :
    ∃ device buff loop' sent, RelayHandler.step x.loop (.dataReceived device buff w) = some loop' ∧
      loop'.sent = x.loop.sent ++ sent ∧ loop'.client_primary_ = x.loop.client_primary_ ∧
        (∀ m ∈ sent, x.loop.client_primary_ = some m.dest ∧
          loop'.client_device_ ≠ some m.dest) ∧
        x' = { x with
          fromDevice := x.fromDevice.drop n
          delivered := x.delivered ++ deliver (x.fromDevice.take n) sent }.follow loop' := by
  simp only [step] at hs
  split at hs
  · cases hs
  rename_i device hd
  split at hs
  · cases hs
  rename_i hne
  obtain ⟨loop', hloop, rfl⟩ := Option.map_eq_some_iff.1 hs
  have hb : (x.fromDevice.take n).map Tagged.byte ≠ [] := by
    rw [ne_eq, List.map_eq_nil_iff]
    exact hne
  obtain ⟨⟨sent, hsent, hdest⟩, hprim⟩ := RelayHandler.step_fromDevice h hd hb hloop
  rw [newlySent_eq hsent]
  refine ⟨device, _, loop', sent, hloop, hsent, hprim, ?_, rfl⟩
  intro m hm
  exact ⟨hdest m hm, (h.step hloop).apart m.dest (hprim.trans (hdest m hm))⟩

theorem owned_deviceData {n : Nat} {w : WriteOutcome} (hx : Owned x)
    (hs : step x (.deviceData n w) = some x') : Owned x' := by
  obtain ⟨_, _, loop', sent, hloop, hsent, hprim, hdest, rfl⟩ := deviceData_eq hx.loop hs
  refine ⟨?_, ?_, ?_⟩
  · rw [follow_loop]
    exact hx.loop.step hloop
  · rw [follow_loop, hprim]
    intro p hp
    obtain ⟨hto, hans, hfrom⟩ := hx.primary p hp
    apply OwnedBy.follow (x := { x with
      fromDevice := x.fromDevice.drop n
      delivered := x.delivered ++ deliver (x.fromDevice.take n) sent }) hsent
    · intro _
      exact ⟨hto, hans, fun t ht => hfrom t (List.mem_of_mem_drop ht)⟩
    · intro m hm hdev
      exact absurd hdev (hdest m hm).2
  · intro d hmem
    rw [follow_delivered] at hmem
    rcases List.mem_append.1 hmem with hmem | hmem
    · exact hx.noLeak d hmem
    · obtain ⟨⟨m, hm, hdm⟩, b, hbm, hdb⟩ := mem_deliver hmem
      have hpm := (hx.primary m.dest (hdest m hm).1).fromDevice b (List.mem_of_mem_take hbm)
      rw [hdb, hpm, hdm]

theorem owned_step {e : Event} (hx : Owned x) (hs : step x e = some x')
    (hidle : AttachedWhenIdle x e) : Owned x' := by
  cases e with
  | loop e => exact owned_loop hx hs hidle
  | deviceReads n =>
    cases hs
    refine ⟨hx.loop, ?_, hx.noLeak⟩
    intro p hp
    obtain ⟨hto, hans, hfrom⟩ := hx.primary p hp
    refine ⟨fun t ht => hto t (List.mem_of_mem_drop ht), ?_, hfrom⟩
    intro c hc
    rcases List.mem_append.1 hc with hc | hc
    · exact hans c hc
    · obtain ⟨t, ht, rfl⟩ := List.mem_map.1 hc
      exact hto t (List.mem_of_mem_take ht)
  | deviceSends client data =>
    simp only [step] at hs
    split at hs
    · rename_i hc
      cases hs
      refine ⟨hx.loop, ?_, hx.noLeak⟩
      intro p hp
      obtain ⟨hto, hans, hfrom⟩ := hx.primary p hp
      refine ⟨hto, hans, ?_⟩
      intro t ht
      rcases List.mem_append.1 ht with ht | ht
      · exact hfrom t ht
      · obtain ⟨ch, _, rfl⟩ := List.mem_map.1 ht
        exact hans client hc
    · cases hs
  | deviceDone client =>
    cases hs
    refine ⟨hx.loop, ?_, hx.noLeak⟩
    intro p hp
    obtain ⟨hto, hans, hfrom⟩ := hx.primary p hp
    exact ⟨hto, fun c hc => hans c (List.mem_filter.1 hc).1, hfrom⟩
  | deviceData n w => exact owned_deviceData hx hs

theorem owned_init (request : Str) : Owned (init request) := by
  refine ⟨⟨⟨?_, ?_, ?_, Nat.zero_lt_one, ?_⟩, ?_, ?_, Nat.zero_le _, ?_⟩, ?_, ?_⟩
  case refine_7 =>
    intro hf
    cases hf
  all_goals
    intro c hc
    cases hc

/-- No client gets an answer to another one in a run that attaches clients to an idle device. -/
theorem always_noLeak (request : Str) (es : List Event)
    (h : Along step (fun x e _ => AttachedWhenIdle x e) (init request) es) :
    Always step NoLeak (init request) es := by
  apply h.always (I := Owned) (owned_init request) (fun _ hx => hx.noLeak) ?_
  intro x e x' hx hs hidle
  exact owned_step hx hs hidle

/-- The device answers the first client, which closes; when it is done the next client is attached
and answered. -/
def answeredInTurn : List Event :=
  [.loop .accept, .loop (.runCallback ⟨1, false⟩), .deviceReads 1, .deviceSends 0 ['x'],
    .deviceData 1 ⟨1, false⟩, .deviceDone 0, .loop (.dataReceived 0 [] ⟨0, false⟩),
    .loop (.addRequest ['s']), .loop (.runCallback ⟨1, false⟩), .deviceReads 1,
    .deviceSends 2 ['y'], .deviceData 1 ⟨1, false⟩]

theorem always_noLeak_answeredInTurn :
    Always step NoLeak (init ['r']) answeredInTurn ∧
      (run step (init ['r']) answeredInTurn).map (fun x => x.delivered) =
        some [⟨0, 0, 'x'⟩, ⟨2, 2, 'y'⟩] := by
  constructor
  · apply always_noLeak
    -- the seven steps before the next client is attached
    iterate 7 apply Along.cons rfl trivial
    apply Along.cons rfl
    · exact fun _ => ⟨rfl, rfl, rfl⟩
    iterate 4 apply Along.cons rfl trivial
    trivial
  · decide

/-- The first client closes before its answer is there, and the next one is attached. -/
def answerInFlight : List Event :=
  [.loop .accept, .loop (.runCallback ⟨1, false⟩), .deviceReads 1,
    .loop (.dataReceived 0 [] ⟨0, false⟩), .loop (.addRequest ['s']),
    .loop (.runCallback ⟨1, false⟩), .deviceSends 0 ['x'], .deviceData 1 ⟨1, false⟩]

theorem not_always_noLeak_answerInFlight :
    ¬ Always step NoLeak (init ['r']) answerInFlight := by
  intro h
  have hrun : (run step (init ['r']) answerInFlight).map (fun x => x.delivered) =
      some [⟨2, 0, 'x'⟩] := by
    decide
  obtain ⟨x, hx, hd⟩ := Option.map_eq_some_iff.1 hrun
  have hleak := h.at_end hx ⟨2, 0, 'x'⟩ (hd ▸ List.mem_singleton_self _)
  cases hleak

end RelayNet

end SiteOnYourDevice
