import SiteOnYourDevice.RelayLoops
import SiteOnYourDevice.RelayAnswers

namespace SiteOnYourDevice
open CString Transition
set_option relaxedAutoImplicit false
set_option autoImplicit true

namespace RelayHandler

/-- The next callback is for a deleted client, and will never be run. -/
def Stuck (s : RelayHandler) : Prop := ∃ q ∈ s.queue, q.1 ∈ s.deleted

/-- A device has been accepted, and with it the first client. -/
def Begun (s : RelayHandler) : Prop :=
  s.client_primary_ = some s.request_.1 ∨ s.request_.1 ∈ s.deleted

/-- A non-empty request was written to a device connection. -/
def Written (s : RelayHandler) (p : ClientId × Str) : Prop :=
  p.2 ≠ [] ∧ ∃ device, ⟨device, p.1, p.2⟩ ∈ s.sent

/-- Where a client that was handed to a loop is. -/
inductive Placed (s : RelayHandler) (skipped : List (ClientId × Str)) (p : ClientId × Str) : Prop
  | waits (h : s = init p.2) (hc : p.1 = 0)
  | queued (h : p ∈ s.queue)
  | served (hreg : p.1 ∈ s.clients_) (h : Written s p)
  | skipped (hreg : p.1 ∈ s.clients_) (h : p ∈ skipped)
  | closed (h : p.1 ∈ s.deleted)
  | stuck (h : Stuck s)

variable {s s' t : RelayHandler} {c d : ClientId} {r buff : Str} {w : WriteOutcome}
  {p : ClientId × Str} {skipped : List (ClientId × Str)}

/-- What a read can do: it closes connections and writes, and queues nothing. -/
structure Reads (s s' : RelayHandler) : Prop where
  queue : s.queue ⊆ s'.queue
  request : s'.request_ = s.request_
  deleted : s.deleted ⊆ s'.deleted
  sent : s.sent ⊆ s'.sent
  clients : ∀ d ∈ s.clients_, d ∈ s'.clients_ ∨ d ∈ s'.deleted
  primary : ∀ d, s.client_primary_ = some d → s'.client_primary_ = some d ∨ d ∈ s'.deleted
  noPrimary : s.client_primary_ = none → s'.client_primary_ = none

theorem Reads.refl (s : RelayHandler) : Reads s s :=
  ⟨fun _ h => h, rfl, fun _ h => h, fun _ h => h, fun _ h => .inl h, fun _ h => .inl h, fun h => h⟩

theorem Reads.trans (h : Reads s t) (h' : Reads t s') : Reads s s' where
  queue := fun _ hq => h'.queue (h.queue hq)
  request := h'.request.trans h.request
  deleted := fun _ hd => h'.deleted (h.deleted hd)
  sent := fun _ hm => h'.sent (h.sent hm)
  clients := by
    intro d hd
    obtain hd | hd := h.clients d hd
    · exact h'.clients d hd
    · exact .inr (h'.deleted hd)
  primary := by
    intro d hd
    obtain hd | hd := h.primary d hd
    · exact h'.primary d hd
    · exact .inr (h'.deleted hd)
  noPrimary := fun hp => h'.noPrimary (h.noPrimary hp)

theorem reads_write {dest : ClientId} (h : s.Write dest c buff w = some s') : Reads s s' := by
  obtain ⟨_, rfl⟩ := Write_eq h
  exact ⟨fun _ h => h, rfl, fun _ h => h, List.subset_append_left _ _, fun _ h => .inl h,
    fun _ h => .inl h,
    fun h => h⟩

theorem reads_closeClient (s : RelayHandler) (c : ClientId) : Reads s (s.closeClient c) := by
  have hclients : ∀ d ∈ s.clients_, d ∈ s.clients_.filter (· ≠ c) ∨ d ∈ c :: s.deleted := by
    intro d hd
    by_cases hdc : d = c
    · exact .inr (hdc ▸ List.mem_cons_self)
    · exact .inl (List.mem_filter.2 ⟨hd, decide_eq_true hdc⟩)
  by_cases hp : s.client_primary_ = some c
  · rw [closeClient, Closed_primary hp]
    refine ⟨fun _ h => h, rfl, List.subset_cons_self _ _, fun _ h => h, hclients, ?_, fun _ => rfl⟩
    intro d hd
    cases hp.symm.trans hd
    exact .inr List.mem_cons_self
  by_cases hd : s.client_device_ = some c
  · rw [closeClient, Closed_device hp hd]
    exact ⟨fun _ h => h, rfl, List.subset_cons_self _ _, fun _ h => h, hclients, fun _ h => .inl h,
      fun h => h⟩
  · rw [closeClient, Closed_extra hp hd]
    exact ⟨fun _ h => h, rfl, List.subset_cons_self _ _, fun _ h => h, hclients, fun _ h => .inl h,
      fun h => h⟩

theorem Received.reads (h : Received s c buff w s') : Reads s s' := by
  cases h with
  | closed hb => exact reads_closeClient s c
  | toDevice _ _ _ hw | toClient _ _ _ hw => exact reads_write hw
  | clientLost _ _ _ hw => exact (reads_write hw).trans (reads_closeClient _ c)
  | alone => exact .refl s
  | notreached =>
    exact ⟨fun _ h => h, rfl, fun _ h => h, fun _ h => h, fun _ h => .inl h, fun _ h => .inl h,
      fun h => h⟩

/-- What `Accepted` can do: the first client is set as the primary one, or the pointers stay. -/
structure Accepts (s s' : RelayHandler) : Prop where
  request : s'.request_ = s.request_
  deleted : s.deleted ⊆ s'.deleted
  sent : s.sent ⊆ s'.sent
  clients : s.clients_ ⊆ s'.clients_
  queue : s.queue ⊆ s'.queue
  primary : s'.client_primary_ = s.client_primary_ ∨
    s.client_primary_ = none ∧ s'.client_primary_ = some s.request_.1 ∧ s.request_ ∈ s'.queue

theorem accepts_accept (hn : Numbered s) : Accepts s (s.numbered.RegisterClient s.next) := by
  have hfresh : s.client_primary_ ≠ some s.next := fun h => (hn.primary _ h).ne rfl
  by_cases hd : s.client_device_ = none
  · rw [RegisterClient_device (s := s.numbered) hfresh hd]
    cases hp : s.client_primary_ with
    | some c =>
      rw [setClient_some]
      · exact ⟨rfl, fun _ h => h, fun _ h => h, List.subset_append_left _ _, fun _ h => h, .inl rfl⟩
      · exact hp
    | none =>
      rw [setClient_none]
      · exact ⟨rfl, fun _ h => h, fun _ h => h, List.subset_append_left _ _,
          List.subset_append_left _ _,
          .inr ⟨hp, rfl, List.mem_append_right _ (List.mem_singleton_self _)⟩⟩
      · exact hp
  · rw [RegisterClient_extra (s := s.numbered) hfresh hd]
    exact ⟨rfl, fun _ h => h, fun _ h => h, List.subset_append_left _ _, fun _ h => h, .inl rfl⟩

theorem Written.mono (h : Written s p) (hs : s.sent ⊆ s'.sent) : Written s' p := by
  obtain ⟨hne, device, hm⟩ := h
  exact ⟨hne, device, hs hm⟩

theorem Stuck.mono (h : Stuck s) (hq : s.queue ⊆ s'.queue) (hd : s.deleted ⊆ s'.deleted) :
    Stuck s' := by
  obtain ⟨q, hmem, hdel⟩ := h
  exact ⟨q, hq hmem, hd hdel⟩

theorem Stuck.runCallback (h : Stuck s) (ho : QueueOwned s) : s.runCallback w = none := by
  obtain ⟨q, hmem, hdel⟩ := h
  obtain ⟨hp, _⟩ := ho.queue q hmem
  simp only [RelayHandler.runCallback, hp]
  split
  · rename_i client _ hcl
    cases hcl
    exact if_pos hdel
  · rfl

theorem Reads.placed (h : Reads s s') (hne : s.clients_ ≠ []) (hp : Placed s skipped p) :
    Placed s' skipped p := by
  have hreg : p.1 ∈ s.clients_ → p.1 ∈ s'.clients_ ∨ p.1 ∈ s'.deleted := h.clients p.1
  cases hp with
  | waits hs hc =>
    rw [hs] at hne
    exact absurd rfl hne
  | queued hq => exact .queued (h.queue hq)
  | served hin hw =>
    obtain hin | hdel := hreg hin
    · exact .served hin (hw.mono h.sent)
    · exact .closed hdel
  | skipped hin hsk =>
    obtain hin | hdel := hreg hin
    · exact .skipped hin hsk
    · exact .closed hdel
  | closed hdel => exact .closed (h.deleted hdel)
  | stuck hst => exact .stuck (hst.mono h.queue h.deleted)

theorem begun_init (h : Begun (init r)) : False := by
  obtain h | h := h
  · cases h
  · cases h

/-- In a loop that has begun, what only adds leaves every client in its place. -/
theorem Placed.mono (hp : Placed s skipped p) (hb : Begun s) (hq : s.queue ⊆ t.queue)
    (hc : s.clients_ ⊆ t.clients_) (hd : s.deleted ⊆ t.deleted) (hs : s.sent ⊆ t.sent) :
    Placed t skipped p := by
  cases hp with
  | waits h hz => exact (begun_init (h ▸ hb)).elim
  | queued h => exact .queued (hq h)
  | served hin hw => exact .served (hc hin) (hw.mono hs)
  | skipped hin hsk => exact .skipped (hc hin) hsk
  | closed h => exact .closed (hd h)
  | stuck h => exact .stuck (h.mono hq hd)

theorem placed_accept (hn : Numbered s) (hp : Placed s skipped p) :
    Placed (s.numbered.RegisterClient s.next) skipped p := by
  have h := accepts_accept hn
  cases hp with
  | waits hs hc =>
    subst hs
    apply Placed.queued
    obtain ⟨c, r⟩ := p
    cases hc
    exact List.mem_singleton_self _
  | queued hq => exact .queued (h.queue hq)
  | served hin hw => exact .served (h.clients hin) (hw.mono h.sent)
  | skipped hin hsk => exact .skipped (h.clients hin) hsk
  | closed hd => exact .closed (h.deleted hd)
  | stuck hst => exact .stuck (hst.mono h.queue h.deleted)

theorem runCallback_writes {queue : List (ClientId × Str)} (hq : s.queue = (c, r) :: queue)
    (hd : s.client_device_ = some d) (hr : r ≠ []) (hs : s.runCallback w = some s') :
    ⟨d, c, r.take w.accepted⟩ ∈ s'.sent := by
  obtain ⟨_, _, _, client, _, _, hp, hlive, _⟩ := runCallback_eq hs
  simp only [runCallback, hq, hp, if_neg hlive] at hs
  rw [RegisterClient_primary (c := client) rfl] at hs
  simp only [hd, if_neg hr] at hs
  obtain ⟨_, rfl⟩ := Write_eq hs
  exact List.mem_append_right _ (List.mem_singleton_self _)

/-- A callback registers its client, and writes the whole request or is noted. -/
theorem placed_runCallback {l : RelayLoop} (ho : QueueOwned s)
    (hs : s.runCallback w = some s') (hp : Placed s l.skipped p) :
    Placed s' (l.skippedBy s (.runCallback w)) p := by
  have hmono : l.skipped ⊆ l.skippedBy s (.runCallback w) := by
    simp only [RelayLoop.skippedBy]
    split
    · exact fun _ h => h
    · split
      · exact fun _ h => h
      · exact List.subset_append_left _ _
  obtain ⟨source, request, queue, client, sent, hq, hprim, hlive, rfl, _⟩ := runCallback_eq hs
  cases hp with
  | waits h hc =>
    subst h
    cases hq
  | queued hmem =>
    have hqueue : queue = [] := by
      have := ho.single
      rw [hq] at this
      exact List.eq_nil_of_length_eq_zero (Nat.le_zero.1 (Nat.le_of_succ_le_succ this))
    have hpeq : p = (source, request) := by
      rw [hq, hqueue] at hmem
      exact List.mem_singleton.1 hmem
    have hclient : client = source := by
      have hown := (ho.queue p hmem).1
      rw [hprim, hpeq] at hown
      exact Option.some.inj hown
    subst hpeq hclient
    have hin : client ∈ s.clients_ ++ [client] :=
      List.mem_append_right _ (List.mem_singleton_self _)
    simp only [RelayLoop.skippedBy, hq]
    split
    · rename_i hall
      simp only [RelayLoop.writesAll, Bool.and_eq_true, decide_eq_true_eq,
        Option.isSome_iff_exists] at hall
      obtain ⟨⟨⟨device, hd⟩, hne⟩, hlen⟩ := hall
      have hw := runCallback_writes hq hd hne hs
      rw [List.take_of_length_le hlen] at hw
      exact .served hin ⟨hne, device, hw⟩
    · exact .skipped hin (List.mem_append_right _ (List.mem_singleton_self _))
  | served hin hw =>
    exact .served (List.mem_append_left _ hin) (hw.mono (List.subset_append_left _ _))
  | skipped hin hsk => exact .skipped (List.mem_append_left _ hin) (hmono hsk)
  | closed hd => exact .closed hd
  | stuck hst =>
    rw [hst.runCallback ho] at hs
    cases hs

/-- A loop that was found ready: its primary pointer is null still, or is a deleted client. -/
structure Found (s : RelayHandler) : Prop where
  begun : Begun s
  free : s.client_primary_ = none ∨ Stuck s

theorem addRequest_eq (s : RelayHandler) (r : Str) :
    (s.client_primary_ = none ∧ s.numbered.setClient s.next r =
      { s.numbered with
        client_primary_ := some s.next
        queue := s.queue ++ [(s.next, r)] }) ∨
    s.client_primary_ ≠ none ∧ s.numbered.setClient s.next r = s.numbered := by
  cases hp : s.client_primary_ with
  | none => exact .inl ⟨rfl, setClient_none (s := s.numbered) hp _ _⟩
  | some c => exact .inr ⟨nofun, setClient_some (s := s.numbered) hp _ _⟩

theorem Found.placed (hf : Found s) (hp : Placed s skipped p) :
    Placed (s.numbered.setClient s.next r) skipped p := by
  obtain ⟨_, h⟩ | ⟨_, h⟩ := addRequest_eq s r
  · rw [h]
    exact hp.mono hf.begun (List.subset_append_left _ _) (fun _ h => h) (fun _ h => h) fun _ h => h
  · rw [h]
    exact hp.mono hf.begun (fun _ h => h) (fun _ h => h) (fun _ h => h) fun _ h => h

/-- The new client of a ready loop is queued, unless the loop has lost its place to a deleted one
in the meantime. -/
theorem Found.placed_new (hf : Found s) :
    Placed (s.numbered.setClient s.next r) skipped (s.next, r) := by
  obtain ⟨_, h⟩ | ⟨hne, h⟩ := addRequest_eq s r
  · rw [h]
    exact .queued (List.mem_append_right _ (List.mem_singleton_self _))
  · rw [h]
    obtain hnone | hst := hf.free
    · exact absurd hnone hne
    · exact .stuck (hst.mono (fun _ h => h) fun _ h => h)

theorem Begun.addRequest (hb : Begun s) : Begun (s.numbered.setClient s.next r) := by
  obtain ⟨hnone, h⟩ | ⟨_, h⟩ := addRequest_eq s r
  · rw [h]
    obtain hp | hd := hb
    · rw [hnone] at hp
      cases hp
    · exact .inr hd
  · rw [h]
    exact hb

theorem begun_accept (hn : Numbered s) (hb : s = init r ∨ Begun s) :
    Begun (s.numbered.RegisterClient s.next) := by
  have h := accepts_accept hn
  obtain rfl | hb := hb
  · exact .inl rfl
  · rw [Begun, h.request]
    obtain hp | hd := hb
    · obtain hsame | ⟨hnone, _⟩ := h.primary
      · exact .inl (hsame.trans hp)
      · rw [hnone] at hp
        cases hp
    · exact .inr (h.deleted hd)

theorem Reads.begun (h : Reads s s') (hb : Begun s) : Begun s' := by
  rw [Begun, h.request]
  obtain hp | hd := hb
  · exact h.primary _ hp
  · exact .inr (h.deleted hd)

/-- Once the loop has begun, its own events leave a null primary pointer null, or set it to the
first client, which is deleted by then. -/
theorem Found.step {e : Event} (hf : Found s) (ho : QueueOwned s) (hne : ∀ r, e ≠ .addRequest r)
    (hs : step s e = some s') : Found s' := by
  obtain ⟨hb, hfree⟩ := hf
  cases e with
  | accept =>
    cases hs
    have h := accepts_accept ho.toNumbered
    refine ⟨begun_accept (r := []) ho.toNumbered (.inr hb), ?_⟩
    obtain hnone | hst := hfree
    · obtain hsame | ⟨_, _, hq⟩ := h.primary
      · exact .inl (hsame.trans hnone)
      · obtain hp | hd := hb
        · rw [hnone] at hp
          cases hp
        · exact .inr ⟨s.request_, hq, h.deleted hd⟩
    · exact .inr (hst.mono h.queue h.deleted)
  | addRequest r => exact absurd rfl (hne r)
  | runCallback w =>
    obtain hnone | hst := hfree
    · obtain ⟨_, _, _, _, _, _, hp, _⟩ := runCallback_eq hs
      rw [hnone] at hp
      cases hp
    · have hno := hst.runCallback (w := w) ho
      rw [RelayHandler.step, hno] at hs
      cases hs
  | dataReceived client buff w =>
    obtain ⟨_, hr⟩ := step_received hs
    refine ⟨hr.reads.begun hb, ?_⟩
    obtain hnone | hst := hfree
    · exact .inl (hr.reads.noPrimary hnone)
    · exact .inr (hst.mono hr.reads.queue hr.reads.deleted)

/-- An event of the loop keeps every client it was handed in its place, or moves it on. -/
theorem placed_step {e : Event} {l : RelayLoop} (ho : QueueOwned s) (hne : ∀ r, e ≠ .addRequest r)
    (hs : step s e = some s') (hp : Placed s l.skipped p) :
    Placed s' (l.skippedBy s e) p := by
  cases e with
  | accept =>
    cases hs
    exact placed_accept ho.toNumbered hp
  | addRequest r => exact absurd rfl (hne r)
  | runCallback w => exact placed_runCallback ho hs hp
  | dataReceived client buff w =>
    obtain ⟨hc, hr⟩ := step_received hs
    exact hr.reads.placed (List.ne_nil_of_mem hc) hp

theorem begun_step {e : Event} (ho : QueueOwned s) (hne : ∀ r, e ≠ .addRequest r)
    (hs : step s e = some s') (hb : s = init r ∨ Begun s) : Begun s' := by
  cases e with
  | accept =>
    cases hs
    exact begun_accept ho.toNumbered hb
  | addRequest r => exact absurd rfl (hne r)
  | runCallback w =>
    obtain ⟨_, _, _, _, _, hq, _, _, rfl, _⟩ := runCallback_eq hs
    obtain rfl | hb := hb
    · cases hq
    · exact hb
  | dataReceived client buff w =>
    obtain ⟨hc, hr⟩ := step_received hs
    obtain rfl | hb := hb
    · cases hc
    · exact hr.reads.begun hb

/-- The first device has been registered, and the first client is still to be set. -/
def first (r : Str) : RelayHandler := (init r).numbered.acceptDevice 1

/-- In a new loop there is the first client only. -/
theorem placed_init (hp : Placed (init r) skipped p) : p = (0, r) := by
  obtain ⟨c, r'⟩ := p
  cases hp with
  | waits h hc =>
    have hr : r = r' := congrArg (fun s => s.request_.2) h
    subst hr
    rw [show c = 0 from hc]
  | queued h => cases h
  | served hin => cases hin
  | skipped hin => cases hin
  | closed h => cases h
  | stuck h =>
    obtain ⟨_, hq, _⟩ := h
    cases hq

/-- The second half of `Accepted` sets the first client, or finds a client. -/
theorem setFirst_eq (s : RelayHandler) :
    (s.client_primary_ = none ∧ s.setClient s.request_.1 s.request_.2 =
      { s with client_primary_ := some s.request_.1, queue := s.queue ++ [s.request_] }) ∨
    s.client_primary_ ≠ none ∧ s.setClient s.request_.1 s.request_.2 = s := by
  cases hp : s.client_primary_ with
  | none => exact .inl ⟨rfl, setClient_none hp _ _⟩
  | some c => exact .inr ⟨Option.some_ne_none c, setClient_some hp _ _⟩

theorem QueueOwned.setFirst (ho : QueueOwned s) (hd : s.client_device_ ≠ some s.request_.1) :
    QueueOwned (s.setClient s.request_.1 s.request_.2) := by
  apply ho.setClient ho.request hd
  intro hp hin
  rw [ho.first hin] at hp
  cases hp

theorem Begun.setFirst (hb : Begun s) : Begun (s.setClient s.request_.1 s.request_.2) := by
  obtain ⟨_, h⟩ | ⟨_, h⟩ := setFirst_eq s
  · rw [h]
    exact .inl rfl
  · rw [h]
    exact hb

theorem Placed.setFirst (hp : Placed s skipped p) (hb : Begun s) :
    Placed (s.setClient s.request_.1 s.request_.2) skipped p := by
  obtain ⟨_, h⟩ | ⟨_, h⟩ := setFirst_eq s
  · rw [h]
    exact hp.mono hb (List.subset_append_left _ _) (fun _ h => h) (fun _ h => h) fun _ h => h
  · rwa [h]

theorem Found.setFirst (hf : Found s) : Found (s.setClient s.request_.1 s.request_.2) := by
  refine ⟨hf.begun.setFirst, ?_⟩
  obtain ⟨hnone, h⟩ | ⟨hne, h⟩ := setFirst_eq s
  · rw [h]
    right
    obtain hp | hd := hf.begun
    · rw [hnone] at hp
      cases hp
    · exact ⟨s.request_, List.mem_append_right _ (List.mem_singleton_self _), hd⟩
  · rw [h]
    exact .inr (hf.free.resolve_left hne)

theorem Begun.acceptDevice (hb : Begun s) : Begun (s.numbered.acceptDevice s.next) := hb

theorem Placed.acceptDevice (hp : Placed s skipped p) (hb : Begun s) :
    Placed (s.numbered.acceptDevice s.next) skipped p :=
  hp.mono hb (fun _ h => h) (List.subset_append_left _ _) (fun _ h => h) fun _ h => h

theorem Found.acceptDevice (hf : Found s) : Found (s.numbered.acceptDevice s.next) :=
  ⟨hf.begun, hf.free⟩

theorem owned_initial (r : Str) : QueueOwned (init r) := (RelayNet.owned_init r).loop

end RelayHandler

namespace RelayLoop

/-- Where the clients of a loop are that was not found ready too early. -/
inductive Orderly (l : RelayLoop) (hand : RelayHandler) : Prop
  | begun (hb : hand = .init l.request ∨ hand.Begun)
    (hp : ∀ p ∈ l.handed, hand.Placed l.skipped p)
  | first (ha : l.accepting = true) (hh : hand = .first l.request)
    (hp : ∀ p ∈ l.handed, p = (0, l.request))

/-- The loop was given only the client it was made for before it runs, and every client it was
given has its place. -/
structure Holds (l : RelayLoop) : Prop where
  consistent : l.Consistent
  owned : ∀ hand, l.controller.handler_ = some hand → hand.QueueOwned
  device : l.accepting = true → ∀ hand, l.controller.handler_ = some hand →
    hand.client_device_ ≠ some hand.request_.1
  starting : l.controller.exec ≠ .running → l.handed = [(0, l.request)]
  orderly : l.raced = false → ∀ hand, l.controller.handler_ = some hand → l.Orderly hand

/-- The loop has started, or ended, is not in the middle of `Accepted` and has no callback to
run. -/
def Quiet (l : RelayLoop) : Prop :=
  (l.controller.exec = .running ∨ l.controller.exec = .returned) ∧ l.accepting = false ∧
    ∀ hand, l.controller.handler_ = some hand → hand.queue = []

/-- The client was closed and deleted. -/
def Closed (l : RelayLoop) (p : ClientId × Str) : Prop :=
  ∃ hand, l.controller.handler_ = some hand ∧ p.1 ∈ hand.deleted

/-- The client is registered in the loop. -/
def Registered (l : RelayLoop) (p : ClientId × Str) : Prop :=
  ∃ hand, l.controller.handler_ = some hand ∧ p.1 ∈ hand.clients_

/-- The client's request is not empty and was written to a device connection. -/
def Written (l : RelayLoop) (p : ClientId × Str) : Prop :=
  ∃ hand, l.controller.handler_ = some hand ∧ hand.Written p

/-- It is the first client of a loop in which nothing has happened: no device has connected. -/
def Waits (l : RelayLoop) (p : ClientId × Str) : Prop :=
  p.1 = 0 ∧ l.controller.handler_ = some (.init p.2)

variable {l l' : RelayLoop} {request : Str} {p : ClientId × Str}

theorem holds_new (request : Str) : (new request).Holds :=
  ⟨consistent_new request, nofun, nofun, fun _ => rfl, nofun⟩

theorem Holds.execStep {e : ExecEvent} (h : l.Holds) (hs : l.execStep e = some l') :
    l'.Holds := by
  have hrun := execStep_not_running hs
  have hc := h.consistent.execStep hs
  have hhanded := h.starting hrun
  have hinit : ∀ hand, l'.controller.handler_ = some hand → hand = .init l.request :=
    fun _ hh => h.consistent.execStep_handler hs hh
  rw [RelayLoop.execStep] at hs
  split at hs
  · cases hs
  obtain ⟨controller, hstep, rfl⟩ := Option.map_eq_some_iff.1 hs
  refine ⟨hc, ?_, ?_, fun _ => hhanded, ?_⟩
  · intro hand hh
    rw [hinit hand hh]
    exact RelayHandler.owned_initial l.request
  · intro _ hand hh
    rw [hinit hand hh]
    intro hd
    cases hd
  · intro _ hand hh
    refine .begun (.inl (hinit hand hh)) ?_
    intro p hp
    rw [hinit hand hh]
    rw [show l.handed = _ from hhanded] at hp
    rw [List.mem_singleton.1 hp]
    exact .waits rfl rfl

/-- A loop that is not in the middle of `Accepted` has begun, or is new. -/
theorem Orderly.of_not_accepting {hand : RelayHandler} (h : l.Orderly hand)
    (ha : l.accepting = false) : (hand = .init l.request ∨ hand.Begun) ∧
      ∀ p ∈ l.handed, hand.Placed l.skipped p := by
  cases h with
  | begun hb hp => exact ⟨hb, hp⟩
  | first hacc => cases hacc.symm.trans ha

theorem Holds.accept {hand : RelayHandler} (h : l.Holds) (ha : l.accepting = false)
    (hrun : l.controller.exec = .running) (hh : l.controller.handler_ = some hand) :
    (l.accept hand).Holds := by
  have ho := h.owned hand hh
  rw [RelayLoop.accept]
  split
  · refine ⟨consistent_running hrun rfl, ?_, ?_, fun hn => absurd hrun hn, ?_⟩
    · rintro _ ⟨⟩
      exact ho.acceptDevice
    · rintro _ _ ⟨⟩ he
      exact ho.request.ne (Option.some.inj he).symm
    · rintro hr _ ⟨⟩
      obtain ⟨hb, hp⟩ := (h.orderly hr hand hh).of_not_accepting ha
      obtain rfl | hb := hb
      · exact .first rfl rfl fun p hmem => RelayHandler.placed_init (hp p hmem)
      · exact .begun (.inr hb.acceptDevice) fun p hmem => (hp p hmem).acceptDevice hb
  · refine ⟨consistent_running hrun rfl, ?_, ?_, fun hn => absurd hrun hn, ?_⟩
    · rintro _ ⟨⟩
      exact ho.accept
    · intro hacc
      cases hacc.symm.trans ha
    · rintro hr _ ⟨⟩
      obtain ⟨hb, hp⟩ := (h.orderly hr hand hh).of_not_accepting ha
      exact .begun (.inr (RelayHandler.begun_accept ho.toNumbered hb))
        fun p hmem => RelayHandler.placed_accept ho.toNumbered (hp p hmem)

theorem Holds.relayStep {e : RelayHandler.Event} (h : l.Holds) (hs : l.relayStep e = some l') :
    l'.Holds := by
  obtain ⟨hand, ha, hpc, hh, ⟨_, rfl⟩ | ⟨hand', hne, hstep, rfl⟩⟩ := relayStep_eq hs
  · exact h.accept ha hpc hh
  · have ho := h.owned hand hh
    refine ⟨consistent_running hpc rfl, ?_, ?_, fun hn => absurd hpc hn, ?_⟩
    · rintro _ ⟨⟩
      exact ho.step hstep
    · intro hacc
      cases hacc.symm.trans ha
    · rintro hr _ ⟨⟩
      obtain ⟨hb, hp⟩ := (h.orderly hr hand hh).of_not_accepting ha
      exact .begun (.inr (RelayHandler.begun_step ho hne hstep hb))
        fun p hmem => RelayHandler.placed_step ho hne hstep (hp p hmem)

/-- The rest of `Accepted` queues the first client of a loop that was not raced. -/
theorem Holds.accepted (h : l.Holds) (hs : l.accepted = some l') : l'.Holds := by
  obtain ⟨hand, ha, hpc, hh, rfl⟩ := accepted_eq hs
  have ho := h.owned hand hh
  refine ⟨consistent_running hpc rfl, ?_, ?_, fun hn => absurd hpc hn, ?_⟩
  · rintro _ ⟨⟩
    exact ho.setFirst (h.device ha hand hh)
  · intro hacc
    cases hacc
  · rintro hr _ ⟨⟩
    have hqueued : ∀ t : RelayHandler, (0, l.request) ∈ t.queue →
        (∀ p ∈ l.handed, p = (0, l.request)) → ∀ p ∈ l.handed, t.Placed l.skipped p := by
      intro t ht hp p hmem
      rw [hp p hmem]
      exact .queued ht
    cases h.orderly hr hand hh with
    | begun hb hp =>
      obtain rfl | hb := hb
      · exact .begun (.inr (.inl rfl)) (hqueued _ (List.mem_singleton_self _)
          fun p hmem => RelayHandler.placed_init (hp p hmem))
      · exact .begun (.inr hb.setFirst) fun p hmem => (hp p hmem).setFirst hb
    | first _ hfirst hp =>
      subst hfirst
      exact .begun (.inr (.inl rfl)) (hqueued _ (List.mem_singleton_self _) hp)

/-- A loop that is found ready has begun, or is raced. -/
theorem Holds.found {hand : RelayHandler} (h : l.Holds)
    (hh : l.controller.handler_ = some hand) (hready : hand.readyForRequest = true) :
    l.found.Holds ∧ (l.found.raced = false → hand.Found) := by
  have hraced : l.found.raced = false → l.raced = false ∧ l.racing = false :=
    fun hr => Bool.or_eq_false_iff.1 hr
  refine ⟨⟨h.consistent, h.owned, h.device, h.starting, ?_⟩, ?_⟩
  · intro hr hand hh
    cases h.orderly (hraced hr).1 hand hh with
    | begun hb hp => exact .begun hb hp
    | first ha hfirst hp => exact .first ha hfirst hp
  · intro hr
    rw [RelayHandler.readyForRequest, Bool.and_eq_true, Option.isNone_iff_eq_none] at hready
    cases h.orderly (hraced hr).1 hand hh with
    | begun hb hp =>
      obtain rfl | hb := hb
      · cases hready.2
      · exact ⟨hb, .inl hready.1⟩
    | first ha hfirst hp =>
      have hrace := (hraced hr).2
      subst hfirst
      rw [racing, ha, hh] at hrace
      cases hrace

theorem Holds.addRequest (h : l.Holds) (hrun : l.controller.exec = .running)
    (hf : l.raced = false → ∀ hand, l.controller.handler_ = some hand → hand.Found)
    (hs : l.addRequest request = some l') : l'.Holds := by
  have hc := Consistent.addRequest hrun hs
  obtain ⟨hand, hh, rfl⟩ := Option.map_eq_some_iff.1 hs
  have ho : RelayHandler.QueueOwned (hand.numbered.setClient hand.next request) :=
    (h.owned hand hh).step (e := .addRequest request) rfl
  refine ⟨hc, ?_, ?_, fun hn => absurd hrun hn, ?_⟩
  · rintro _ ⟨⟩
    exact ho
  · rintro ha _ ⟨⟩
    have hd := h.device ha hand hh
    obtain ⟨_, h⟩ | ⟨_, h⟩ := RelayHandler.addRequest_eq hand request
    · rw [h]
      exact hd
    · rw [h]
      exact hd
  · rintro hr _ ⟨⟩
    have hfound := hf hr hand hh
    have hp : ∀ p ∈ l.handed, hand.Placed l.skipped p := by
      cases h.orderly hr hand hh with
      | begun hb hp => exact hp
      | first _ hfirst =>
        subst hfirst
        obtain hb | hb := hfound.begun
        · cases hb
        · cases hb
    refine .begun (.inr hfound.begun.addRequest) ?_
    intro p hmem
    rcases List.mem_append.1 hmem with hmem | hmem
    · exact hfound.placed (hp p hmem)
    · rw [List.mem_singleton.1 hmem]
      exact hfound.placed_new

/-- In a loop that has nothing to do, every client is closed, registered, or waits for a device. -/
theorem Holds.settled (h : l.Holds) (hq : l.Quiet) (hrun : l.controller.exec = .running)
    (hr : l.raced = false) (hp : p ∈ l.handed) :
    l.Closed p ∨ l.Registered p ∧ (l.Written p ∨ p ∈ l.skipped) ∨ l.Waits p := by
  have hsome : l.controller.handler_.isSome = true := by
    rw [h.consistent.handler_iff]
    exact .inr (.inr (.inr hrun))
  obtain ⟨hand, hh⟩ := Option.isSome_iff_exists.1 hsome
  have hnil := hq.2.2 hand hh
  cases ((h.orderly hr hand hh).of_not_accepting hq.2.1).2 p hp with
  | waits hi hc => exact .inr (.inr ⟨hc, hi ▸ hh⟩)
  | queued hmem =>
    rw [hnil] at hmem
    cases hmem
  | served hin hw => exact .inr (.inl ⟨⟨hand, hh, hin⟩, .inl ⟨hand, hh, hw⟩⟩)
  | skipped hin hsk => exact .inr (.inl ⟨⟨hand, hh, hin⟩, .inr hsk⟩)
  | closed hd => exact .inl ⟨hand, hh, hd⟩
  | stuck hst =>
    obtain ⟨q, hmem, _⟩ := hst
    rw [hnil] at hmem
    cases hmem

end RelayLoop

namespace RelayLoops

def loops (s : RelayLoops) : List RelayLoop := s.relays_http_ ++ s.relays_websockets_

/-- No callback is queued, and no relay thread is still starting or in the middle of `Accepted`. -/
def Quiescent (s : RelayLoops) : Prop := ∀ l ∈ s.loops, l.Quiet

/-- In a quiescent state every client that was handed over is closed, or registered with its
request written. -/
def ServedOrClosed (s : RelayLoops) : Prop :=
  s.Quiescent → ∀ l ∈ s.loops, ∀ p ∈ l.handed, l.Closed p ∨ l.Registered p ∧ l.Written p

/-- In a quiescent state every client that was handed to a loop which did not fail to start, and was
not found ready before its first client was set, is closed, or registered with its request written
or skipped, or waits for the device. -/
def Settled (s : RelayLoops) : Prop :=
  s.Quiescent → ∀ l ∈ s.loops, l.controller.exec ≠ .returned → l.raced = false → ∀ p ∈ l.handed,
    l.Closed p ∨ l.Registered p ∧ (l.Written p ∨ p ∈ l.skipped) ∨ l.Waits p

/-- Every loop holds the clients it was given, and the one found ready has begun. -/
structure Held (s : RelayLoops) : Prop extends Consistent s where
  holds : ∀ l ∈ s.loops, l.Holds
  ready : ∀ i request l hand, s.call = some (.add i request) → s.relays_http_[i]? = some l →
    l.controller.handler_ = some hand → l.raced = false → hand.Found

variable {s s' : RelayLoops} {request : Str} {i : Nat}

/-- While no loop has been found, there is nothing to know about one. -/
theorem held_of_call (hc : Consistent s) (hh : ∀ l ∈ s.loops, l.Holds)
    (hcall : ∀ i request, s.call ≠ some (.add i request)) : Held s :=
  ⟨hc, hh, fun i request _ _ h => absurd h (hcall i request)⟩

theorem held_init : Held init := by
  apply held_of_call consistent_init
  · intro l hl
    cases hl
  · intro i request h
    cases h

theorem Held.settled (h : Held s) : Settled s := by
  intro hq l hl hne hr p hp
  obtain hrun | hret := (hq l hl).1
  · exact (h.holds l hl).settled (hq l hl) hrun hr hp
  · exact absurd hret hne

theorem mem_loops {l : RelayLoop} :
    l ∈ s.loops ↔ l ∈ s.relays_http_ ∨ l ∈ s.relays_websockets_ := List.mem_append

/-- A step of one loop that keeps what it holds, and what was found of it, keeps the others too. -/
theorem Held.update {f : RelayLoop → Option RelayLoop} {ref : RelayRef} (h : Held s)
    (hc : Consistent s')
    (hf : ∀ l l', l.Holds → f l = some l' → l'.Holds)
    (hfound : ∀ l l' hand', l.Holds → f l = some l' → l'.controller.handler_ = some hand' →
      l.controller.exec = .running → l'.raced = false →
      (l.raced = false → ∀ hand, l.controller.handler_ = some hand → hand.Found) → hand'.Found)
    (hs : s.update f ref = some s') : Held s' := by
  obtain ⟨l, l', hl', ⟨i, hl, rfl⟩ | ⟨i, hl, rfl⟩⟩ := update_eq hs
  · have hin : l ∈ s.loops := mem_loops.2 (.inl (List.mem_of_getElem? hl))
    have hold := h.holds l hin
    refine ⟨hc, ?_, ?_⟩
    · intro k hk
      obtain hk | hk := mem_loops.1 hk
      · obtain hk | rfl := List.mem_or_eq_of_mem_set hk
        · exact h.holds k (mem_loops.2 (.inl hk))
        · exact hf l k hold hl'
      · exact h.holds k (mem_loops.2 (.inr hk))
    · intro j request k hand hcall hk hh hr
      by_cases hij : i = j
      · subst hij
        have hlt : i < s.relays_http_.length := (List.getElem?_eq_some_iff.1 hl).1
        obtain ⟨l₀, hl₀, hrun⟩ := h.found i request hcall
        cases hl.symm.trans hl₀
        cases (List.getElem?_set_self hlt).symm.trans hk
        exact hfound l l' hand hold hl' hh hrun hr
          fun hr hand' hh' => h.ready i request l hand' hcall hl hh' hr
      · exact h.ready j request k hand hcall ((List.getElem?_set_ne hij).symm.trans hk) hh hr
  · have hin : l ∈ s.loops := mem_loops.2 (.inr (List.mem_of_getElem? hl))
    have hold := h.holds l hin
    refine ⟨hc, ?_, h.ready⟩
    intro k hk
    obtain hk | hk := mem_loops.1 hk
    · exact h.holds k (mem_loops.2 (.inl hk))
    · obtain hk | rfl := List.mem_or_eq_of_mem_set hk
      · exact h.holds k (mem_loops.2 (.inr hk))
      · exact hf l k hold hl'

theorem Held.handle {e : RelayLoopsEvent} (h : Held s) (hs : s.handle e = some s') :
    Held s' := by
  have hc := h.toConsistent.handle hs
  cases e with
  | addHttpRelayClient request =>
    obtain ⟨_, rfl⟩ := addHttpRelayClient_eq hs
    apply held_of_call hc h.holds
    intro i r h
    cases h
  | readyForRequest =>
    obtain ⟨i, request, l, _, hl, ⟨rfl, _⟩ | ⟨rfl, _⟩ | ⟨rfl, hand, hh, hr, _⟩⟩ :=
      askNext_eq h.toConsistent hs
    · exact ⟨hc, h.holds, h.ready⟩
    · apply held_of_call hc h.holds
      intro j r h
      cases h
    · have hlt : i < s.relays_http_.length := (List.getElem?_eq_some_iff.1 hl).1
      have hold := h.holds l (mem_loops.2 (.inl (List.mem_of_getElem? hl)))
      obtain ⟨hfound, hready⟩ := hold.found hh hr
      refine ⟨hc, ?_, ?_⟩
      · intro k hk
        obtain hk | hk := mem_loops.1 hk
        · obtain hk | rfl := List.mem_or_eq_of_mem_set hk
          · exact h.holds k (mem_loops.2 (.inl hk))
          · exact hfound
        · exact h.holds k (mem_loops.2 (.inr hk))
      · intro j r k hand' hcall hk hh' hraced
        cases hcall
        cases (List.getElem?_set_self hlt).symm.trans hk
        cases hh.symm.trans hh'
        exact hready hraced
  | addRequest =>
    obtain ⟨i, request, l, l', hcall, hl, hrun, hl', rfl⟩ := addFound_eq h.toConsistent hs
    have hin : l ∈ s.loops := mem_loops.2 (.inl (List.mem_of_getElem? hl))
    apply held_of_call hc _ (fun j r h => by cases h)
    intro k hk
    obtain hk | hk := mem_loops.1 hk
    · obtain hk | rfl := List.mem_or_eq_of_mem_set hk
      · exact h.holds k (mem_loops.2 (.inl hk))
      · exact (h.holds l hin).addRequest hrun
          (fun hr hand hh => h.ready i request l hand hcall hl hh hr) hl'
    · exact h.holds k (mem_loops.2 (.inr hk))
  | newHttpRelayLoop =>
    obtain ⟨_, _, rfl⟩ := newHttpRelayLoop_eq hs
    apply held_of_call hc _ (fun j r h => by cases h)
    intro k hk
    obtain hk | hk := mem_loops.1 hk
    · rcases List.mem_append.1 hk with hk | hk
      · exact h.holds k (mem_loops.2 (.inl hk))
      · rw [List.mem_singleton.1 hk]
        exact RelayLoop.holds_new _
    · exact h.holds k (mem_loops.2 (.inr hk))
  | addWebsocketRelayClient request =>
    cases hs
    refine ⟨hc, ?_, h.ready⟩
    intro k hk
    obtain hk | hk := mem_loops.1 hk
    · exact h.holds k (mem_loops.2 (.inl hk))
    · rcases List.mem_append.1 hk with hk | hk
      · exact h.holds k (mem_loops.2 (.inr hk))
      · rw [List.mem_singleton.1 hk]
        exact RelayLoop.holds_new _
  | exec ref e =>
    apply h.update hc (fun l l' hl hs => hl.execStep hs) _ hs
    intro l l' hand' _ hs _ hrun
    exact absurd hrun (RelayLoop.execStep_not_running hs)
  | relay ref e =>
    apply h.update hc (fun l l' hl hs => hl.relayStep hs) _ hs
    intro l l' hand' hl hs hh' _ hr hfound
    obtain ⟨hand, ha, _, hh, ⟨_, rfl⟩ | ⟨hand'', hne, hstep, rfl⟩⟩ := RelayLoop.relayStep_eq hs
    · have hold := hfound ((l.accept_controller hand).2.2.symm.trans hr) hand hh
      rw [RelayLoop.accept] at hh'
      split at hh'
      · cases hh'
        exact hold.acceptDevice
      · cases hh'
        exact hold.step (e := .accept) (hl.owned hand hh) (fun _ he => by cases he) rfl
    · cases hh'
      exact (hfound hr hand hh).step (hl.owned hand hh) hne hstep
  | accepted ref =>
    apply h.update hc (fun l l' hl hs => hl.accepted hs) _ hs
    intro l l' hand' hl hs hh' _ hr hfound
    obtain ⟨hand, _, _, hh, rfl⟩ := RelayLoop.accepted_eq hs
    cases hh'
    exact (hfound hr hand hh).setFirst

/-- Along every run, whatever the order of the threads, a quiescent state has every client in one
of its places. -/
theorem always_settled (es : List RelayLoopsEvent) : Always step Settled init es := by
  refine ⟨held_init.settled, ?_⟩
  apply along_of_invariant (I := Held) held_init
  intro s e s' h hs
  have h' := h.handle (step_handle hs).2
  exact ⟨h'.settled, h'⟩

/-- The thread of a loop runs through its start-up. -/
def starts (ref : RelayRef) : List RelayLoopsEvent :=
  [.exec ref .CreateHandler, .exec ref .assignHandler, .exec ref (.CreateServer true),
    .exec ref .assignLoop, .exec ref .Exec]

/-- A loop that has started, and to which no device has connected yet. -/
def startedAlone : List RelayLoopsEvent :=
  .addWebsocketRelayClient ['r'] :: starts (.websocket 0)

/-- A loop that fails to start. -/
def startFails : List RelayLoopsEvent :=
  [.addHttpRelayClient ['r'], .newHttpRelayLoop, .exec (.http 0) .CreateHandler,
    .exec (.http 0) .assignHandler, .exec (.http 0) (.CreateServer false)]

/-- The device connects and leaves again before the callback of the first client runs. -/
def deviceGone : List RelayLoopsEvent :=
  startedAlone ++ [.relay (.websocket 0) .accept, .accepted (.websocket 0),
    .relay (.websocket 0) (.dataReceived 1 [] ⟨0, false⟩),
    .relay (.websocket 0) (.runCallback ⟨1, false⟩)]

/-- The `Write` of the callback takes nothing of the request. -/
def shortWrite : List RelayLoopsEvent :=
  startedAlone ++ [.relay (.websocket 0) .accept, .accepted (.websocket 0),
    .relay (.websocket 0) (.runCallback ⟨0, false⟩)]

/-- The request is empty. -/
def emptyRequest : List RelayLoopsEvent :=
  .addWebsocketRelayClient [] :: starts (.websocket 0) ++
    [.relay (.websocket 0) .accept, .accepted (.websocket 0),
      .relay (.websocket 0) (.runCallback ⟨0, false⟩)]

/-- Another request is added between the registration of the device and the first client. -/
def addedInAccepted : List RelayLoopsEvent :=
  [.addHttpRelayClient ['r'], .newHttpRelayLoop] ++ starts (.http 0) ++
    [.relay (.http 0) .accept, .addHttpRelayClient ['s'], .readyForRequest, .addRequest,
      .accepted (.http 0), .relay (.http 0) (.runCallback ⟨1, false⟩)]

/-- The other request is added when the first client has been set. -/
def addedTooLate : List RelayLoopsEvent :=
  [.addHttpRelayClient ['r'], .newHttpRelayLoop] ++ starts (.http 0) ++
    [.relay (.http 0) .accept, .addHttpRelayClient ['s'], .readyForRequest, .accepted (.http 0),
      .addRequest, .relay (.http 0) (.runCallback ⟨1, false⟩)]

/-- After `addedInAccepted` the same again, with the next device and a third request. -/
def laterClient : List RelayLoopsEvent :=
  addedInAccepted ++ [.relay (.http 0) (.dataReceived 2 [] ⟨0, false⟩),
    .addHttpRelayClient ['t'], .readyForRequest,
    .relay (.http 0) (.dataReceived 1 [] ⟨0, false⟩), .relay (.http 0) .accept,
    .accepted (.http 0), .addRequest, .relay (.http 0) (.runCallback ⟨1, false⟩)]

/-- A loop with nothing to do has not served a client that it has neither closed nor registered, or
of whose request it has not written the whole. -/
theorem not_servedOrClosed {l : RelayLoop} {p : ClientId × Str} (hl : s.loops = [l])
    (hpc : l.controller.exec = .running ∨ l.controller.exec = .returned)
    (ha : l.accepting = false)
    (hh : ∀ hand, l.controller.handler_ = some hand →
      hand.queue = [] ∧ p.1 ∉ hand.deleted ∧ (p.1 ∉ hand.clients_ ∨ ¬ hand.Written p))
    (hp : p ∈ l.handed) : ¬ ServedOrClosed s := by
  intro h
  have hquiet : s.Quiescent := by
    intro k hk
    rw [hl] at hk
    rw [List.mem_singleton.1 hk]
    exact ⟨hpc, ha, fun hand hand_eq => (hh hand hand_eq).1⟩
  obtain ⟨hand, hand_eq, hdel⟩ | ⟨⟨hand, hand_eq, hreg⟩, hand', hand_eq', hw⟩ :=
    h hquiet l (hl ▸ List.mem_singleton_self l) p hp
  · exact (hh hand hand_eq).2.1 hdel
  · cases hand_eq.symm.trans hand_eq'
    obtain hnot | hnot := (hh hand hand_eq).2.2
    · exact hnot hreg
    · exact hnot hw

/-- No loop has to be at fault: while the device has not connected the first client is neither
served nor closed. It is never served when the start fails, the device is gone, the `Write` is
short, there is nothing to write, or another request is added in `Accepted`; nor is that request
when it is added too late, and a later one of the same loop. -/
theorem not_always_servedOrClosed :
    ¬ Always step ServedOrClosed init startedAlone ∧
      ¬ Always step ServedOrClosed init startFails ∧
      ¬ Always step ServedOrClosed init deviceGone ∧
      ¬ Always step ServedOrClosed init shortWrite ∧
      ¬ Always step ServedOrClosed init emptyRequest ∧
      ¬ Always step ServedOrClosed init addedInAccepted ∧
      ¬ Always step ServedOrClosed init addedTooLate ∧
      ¬ Always step ServedOrClosed init laterClient := by
  have hnotin : (0 : ClientId) ∉ [1] := by decide
  refine ⟨fun h => ?_, fun h => ?_, fun h => ?_, fun h => ?_, fun h => ?_, fun h => ?_, fun h => ?_,
    fun h => ?_⟩
  · apply not_servedOrClosed rfl (.inl rfl) rfl ?_ (List.mem_singleton_self (0, ['r']))
      (h.at_end rfl)
    rintro _ ⟨⟩
    exact ⟨rfl, List.not_mem_nil, .inl List.not_mem_nil⟩
  · apply not_servedOrClosed rfl (.inr rfl) rfl ?_ (List.mem_singleton_self (0, ['r']))
      (h.at_end rfl)
    rintro _ ⟨⟩
  · apply not_servedOrClosed rfl (.inl rfl) rfl ?_ (List.mem_singleton_self (0, ['r']))
      (h.at_end rfl)
    rintro _ ⟨⟩
    exact ⟨rfl, hnotin, .inr fun ⟨_, _, hw⟩ => List.not_mem_nil hw⟩
  · apply not_servedOrClosed rfl (.inl rfl) rfl ?_ (List.mem_singleton_self (0, ['r']))
      (h.at_end rfl)
    rintro _ ⟨⟩
    refine ⟨rfl, List.not_mem_nil, .inr ?_⟩
    rintro ⟨_, device, hw⟩
    cases List.mem_singleton.1 hw
  · apply not_servedOrClosed rfl (.inl rfl) rfl ?_ (List.mem_singleton_self (0, []))
      (h.at_end rfl)
    rintro _ ⟨⟩
    exact ⟨rfl, List.not_mem_nil, .inr fun ⟨hne, _⟩ => hne rfl⟩
  · apply not_servedOrClosed rfl (.inl rfl) rfl ?_ (List.mem_cons_self (a := (0, ['r'])))
      (h.at_end rfl)
    rintro _ ⟨⟩
    exact ⟨rfl, List.not_mem_nil, .inl (by decide)⟩
  · apply not_servedOrClosed (p := (2, ['s'])) rfl (.inl rfl) rfl ?_ (by decide) (h.at_end rfl)
    rintro _ ⟨⟩
    exact ⟨rfl, List.not_mem_nil, .inl (by decide)⟩
  · apply not_servedOrClosed (p := (4, ['t'])) rfl (.inl rfl) rfl ?_ (by decide) (h.at_end rfl)
    rintro _ ⟨⟩
    exact ⟨rfl, by decide, .inl (by decide)⟩

end RelayLoops

end SiteOnYourDevice
