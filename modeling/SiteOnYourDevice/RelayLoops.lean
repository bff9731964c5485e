import SiteOnYourDevice.LoopController
import SiteOnYourDevice.RelayHandler

namespace SiteOnYourDevice
open CString Transition
set_option relaxedAutoImplicit false
set_option autoImplicit true

/-- An `IInnerRelayLoop`, for the first client and its request. `handed` are the clients it was
given, by their numbers in the loop, and `skipped` those whose callback ran and did not write the
whole of a request. It is `accepting` while its thread is in `Accepted` before `setClient`, and
`raced` when the other thread found it ready there, before its first client was set. -/
structure RelayLoop where
  request : Str
  controller : LoopController RelayHandler
  handed : List (ClientId × Str)
  skipped : List (ClientId × Str)
  accepting : Bool
  raced : Bool

namespace RelayLoop

/-- A new loop, with its thread started. -/
def new (request : Str) : RelayLoop :=
  ⟨request, ⟨none, false, .entered⟩, [(0, request)], [], false, false⟩

/-- Nothing stops a relay loop while its device connection is there. -/
def execStep (e : ExecEvent) (l : RelayLoop) : Option RelayLoop :=
  if e = .execReturns then none
  else
    (l.controller.execStep (some (.init l.request)) e).map fun controller => { l with controller }

def setHandler (hand : RelayHandler) (l : RelayLoop) : RelayLoop :=
  { l with controller := { l.controller with handler_ := some hand } }

/-- `none` when the `CHECK` of the handler fails. -/
def readyForRequest (l : RelayLoop) : Option Bool :=
  l.controller.handler_.map RelayHandler.readyForRequest

/-- `none` when the `CHECK` of the handler fails. -/
def addRequest (request : Str) (l : RelayLoop) : Option RelayLoop :=
  l.controller.handler_.map fun hand =>
    { l.setHandler (hand.numbered.setClient hand.next request) with
      handed := l.handed ++ [(hand.next, request)] }

/-- Whether a callback writes the whole of its request to a device. -/
def writesAll (hand : RelayHandler) (request : Str) (w : WriteOutcome) : Bool :=
  hand.client_device_.isSome && request ≠ [] && request.length ≤ w.accepted

/-- The callbacks that did not write their request, after the next one. -/
def skippedBy (hand : RelayHandler) (l : RelayLoop) : RelayHandler.Event → List (ClientId × Str)
  | .runCallback w =>
    match hand.queue with
    | [] => l.skipped
    | q :: _ => if writesAll hand q.2 w then l.skipped else l.skipped ++ [q]
  | _ => l.skipped

/-- `Accepted` for a new connection; for a device up to the call of `setClient`. -/
def accept (hand : RelayHandler) (l : RelayLoop) : RelayLoop :=
  if hand.client_device_ = none then
    { l.setHandler (hand.numbered.acceptDevice hand.next) with accepting := true }
  else l.setHandler (hand.numbered.RegisterClient hand.next)

/-- The rest of `Accepted`: `setClient` with the first client. -/
def accepted (l : RelayLoop) : Option RelayLoop :=
  match l.accepting, l.controller.exec, l.controller.handler_ with
  | true, .running, some hand =>
    some { l.setHandler (hand.setClient hand.request_.1 hand.request_.2) with accepting := false }
  | _, _, _ => none

/-- In the middle of `Accepted`, and the first client is still to be set. -/
def racing (l : RelayLoop) : Bool :=
  l.accepting && l.controller.handler_.any fun hand =>
    hand.client_primary_ ≠ some hand.request_.1 && hand.request_.1 ∉ hand.deleted

/-- A loop that has been found ready. -/
def found (l : RelayLoop) : RelayLoop := { l with raced := l.raced || l.racing }

/-- An event of a loop that runs and is not in the middle of `Accepted`; requests are added by the
other thread alone. -/
def relayStep (e : RelayHandler.Event) (l : RelayLoop) : Option RelayLoop :=
  match e, l.accepting, l.controller.exec, l.controller.handler_ with
  | .addRequest _, _, _, _ => none
  | .accept, false, .running, some hand => some (l.accept hand)
  | e, false, .running, some hand =>
    (RelayHandler.step hand e).map fun hand' =>
      { l.setHandler hand' with skipped := l.skippedBy hand e }
  | _, _, _, _ => none

end RelayLoop

/-- Where the HTTP thread is in `addHttpRelayClient`: before the test of a loop, or before it adds
the request to the loop it found. -/
inductive HttpCall
  | scan (i : Nat) (request : Str)
  | add (i : Nat) (request : Str)
deriving DecidableEq

/-- The relay loops of an `InnerTcpServerClient`. -/
structure RelayLoops where
  relays_http_ : List RelayLoop
  relays_websockets_ : List RelayLoop
  call : Option HttpCall
  checkFailed : Bool

inductive RelayRef
  | http (i : Nat)
  | websocket (i : Nat)

/-- The steps of `addHttpRelayClient`, `addWebsocketRelayClient`, and the steps of the loops and of
their threads. -/
inductive RelayLoopsEvent
  | addHttpRelayClient (request : Str)
  | readyForRequest | addRequest | newHttpRelayLoop
  | addWebsocketRelayClient (request : Str)
  | exec (ref : RelayRef) (e : ExecEvent)
  | relay (ref : RelayRef) (e : RelayHandler.Event)
  | accepted (ref : RelayRef)

namespace RelayLoops

def init : RelayLoops := ⟨[], [], none, false⟩

def update (f : RelayLoop → Option RelayLoop) (s : RelayLoops) : RelayRef → Option RelayLoops
  | .http i =>
    s.relays_http_[i]?.bind fun l => (f l).map fun l' =>
      { s with relays_http_ := s.relays_http_.set i l' }
  | .websocket i =>
    s.relays_websockets_[i]?.bind fun l => (f l).map fun l' =>
      { s with relays_websockets_ := s.relays_websockets_.set i l' }

/-- The `CHECK` that fails ends the process. -/
def fail (s : RelayLoops) : RelayLoops := { s with checkFailed := true }

/-- `readyForRequest` of the next loop. -/
def askNext (s : RelayLoops) : Option RelayLoops :=
  match s.call with
  | some (.scan i request) =>
    s.relays_http_[i]?.map fun l =>
      match l.readyForRequest with
      | none => s.fail
      | some true =>
        { s with call := some (.add i request), relays_http_ := s.relays_http_.set i l.found }
      | some false => { s with call := some (.scan (i + 1) request) }
  | _ => none

/-- `addRequest` of the loop that was found. -/
def addFound (s : RelayLoops) : Option RelayLoops :=
  match s.call with
  | some (.add i request) =>
    s.relays_http_[i]?.map fun l =>
      match l.addRequest request with
      | none => s.fail
      | some l' => { s with relays_http_ := s.relays_http_.set i l', call := none }
  | _ => none

def handle (s : RelayLoops) : RelayLoopsEvent → Option RelayLoops
  | .addHttpRelayClient request =>
    if s.call = none then some { s with call := some (.scan 0 request) } else none
  | .readyForRequest => s.askNext
  | .addRequest => s.addFound
  | .newHttpRelayLoop =>
    match s.call with
    | some (.scan i request) =>
      if i = s.relays_http_.length then
        some { s with relays_http_ := s.relays_http_ ++ [.new request], call := none }
      else none
    | _ => none
  | .addWebsocketRelayClient request =>
    some { s with relays_websockets_ := s.relays_websockets_ ++ [.new request] }
  | .exec ref e => s.update (RelayLoop.execStep e) ref
  | .relay ref e => s.update (RelayLoop.relayStep e) ref
  | .accepted ref => s.update RelayLoop.accepted ref

def step (s : RelayLoops) (e : RelayLoopsEvent) : Option RelayLoops :=
  if s.checkFailed then none else s.handle e

/-- The loop that is asked has its handler: its thread has assigned it, and has not failed to make
a server. -/
def AskedBuilt (s : RelayLoops) : RelayLoopsEvent → Prop
  | .readyForRequest => ∀ i request l, s.call = some (.scan i request) →
      s.relays_http_[i]? = some l →
      l.controller.exec = .handlerAssigned ∨ l.controller.WillRun
  | _ => True

end RelayLoops

namespace RelayLoop

/-- The handler at each place of the thread: a loop that ended did so in its start-up, and before
it runs nothing has happened to its handler. -/
def Consistent (l : RelayLoop) : Prop :=
  match l.controller.exec with
  | .created | .entered | .returned => l.controller.handler_ = none
  | .handlerCreated hand => l.controller.handler_ = none ∧ hand = .init l.request
  | .handlerAssigned | .serverCreated | .loopAssigned =>
    l.controller.handler_ = some (.init l.request)
  | .running => l.controller.handler_.isSome = true

variable {l l' : RelayLoop} {hand : RelayHandler} {request : Str}

theorem consistent_new (request : Str) : Consistent (new request) := rfl

theorem Consistent.handler_iff (hc : Consistent l) :
    l.controller.handler_.isSome = true ↔
      l.controller.exec = .handlerAssigned ∨ l.controller.WillRun := by
  rw [Consistent] at hc
  rw [LoopController.WillRun]
  split at hc <;> rename_i hpc <;> simp only [hc, hpc, Option.isSome_none, Option.isSome_some,
    reduceCtorEq, or_self, or_true, true_or, Bool.false_eq_true]

/-- A handler in which nothing can have happened is as it was made. -/
theorem Consistent.unchanged (hc : Consistent l) (hnot : l.controller.exec ≠ .running)
    (hh : l.controller.handler_ = some hand) : hand = .init l.request := by
  rw [Consistent] at hc
  split at hc <;> rename_i hpc
  · cases hc.symm.trans hh
  · cases hc.symm.trans hh
  · cases hc.symm.trans hh
  · cases hc.1.symm.trans hh
  · exact (Option.some.inj (hc.symm.trans hh)).symm
  · exact (Option.some.inj (hc.symm.trans hh)).symm
  · exact (Option.some.inj (hc.symm.trans hh)).symm
  · exact absurd hpc hnot

theorem execStep_not_running {e : ExecEvent} (hs : l.execStep e = some l') :
    l.controller.exec ≠ .running := by
  intro hrun
  rw [execStep] at hs
  split at hs
  · cases hs
  rename_i hne
  obtain ⟨controller, hstep, _⟩ := Option.map_eq_some_iff.1 hs
  cases LoopController.execStep_change hstep with
  | returns hpc => exact hne rfl
  | created _ hpc | noHandler hpc | assigned _ hpc | server hpc | noServer hpc | loop hpc
  | runs hpc => cases hpc.symm.trans hrun

/-- The handler that a thread leaves to its loop is as it was made. -/
theorem Consistent.execStep_handler {e : ExecEvent} (hc : Consistent l)
    (hs : l.execStep e = some l') (hh : l'.controller.handler_ = some hand) :
    hand = .init l.request := by
  have hnot := execStep_not_running hs
  rw [RelayLoop.execStep] at hs
  split at hs
  · cases hs
  obtain ⟨controller, hstep, rfl⟩ := Option.map_eq_some_iff.1 hs
  have hold : l.controller.handler_ = some hand → hand = .init l.request := hc.unchanged hnot
  cases LoopController.execStep_change hstep with
  | assigned hand' hpc =>
    cases hh
    simp only [Consistent, hpc] at hc
    exact hc.2
  | noServer hpc => cases hh
  | created _ hpc | noHandler hpc | server hpc | loop hpc | runs hpc | returns hpc => exact hold hh

theorem Consistent.execStep {e : ExecEvent} (hc : Consistent l) (hs : l.execStep e = some l') :
    Consistent l' := by
  rw [RelayLoop.execStep] at hs
  split at hs
  · cases hs
  rename_i hne
  obtain ⟨controller, hstep, rfl⟩ := Option.map_eq_some_iff.1 hs
  rw [Consistent] at hc
  cases LoopController.execStep_change hstep with
  | created hand hpc hcreate =>
    simp only [hpc] at hc
    cases hcreate
    exact ⟨hc, rfl⟩
  | noHandler hpc hcreate => cases hcreate
  | assigned hand hpc =>
    simp only [hpc] at hc
    exact congrArg some hc.2
  | server hpc =>
    simp only [hpc] at hc
    exact hc
  | noServer hpc => exact rfl
  | loop hpc =>
    simp only [hpc] at hc
    exact hc
  | runs hpc =>
    simp only [hpc] at hc
    exact Option.isSome_of_eq_some hc
  | returns hpc => exact absurd rfl hne

theorem relayStep_eq {e : RelayHandler.Event} (hs : l.relayStep e = some l') :
    ∃ hand, l.accepting = false ∧ l.controller.exec = .running ∧
      l.controller.handler_ = some hand ∧
      (e = .accept ∧ l' = l.accept hand ∨
        ∃ hand', (∀ r, e ≠ .addRequest r) ∧ RelayHandler.step hand e = some hand' ∧
          l' = { l.setHandler hand' with skipped := l.skippedBy hand e }) := by
  simp only [relayStep] at hs
  split at hs
  · cases hs
  · rename_i hand ha hpc hh
    cases hs
    exact ⟨hand, ha, hpc, hh, .inl ⟨rfl, rfl⟩⟩
  · rename_i hand hne _ ha hpc hh
    obtain ⟨hand', hstep, rfl⟩ := Option.map_eq_some_iff.1 hs
    exact ⟨hand, ha, hpc, hh, .inr ⟨hand', hne, hstep, rfl⟩⟩
  · cases hs

/-- What `accept` leaves is a handler, and the loop still runs. -/
theorem accept_controller (l : RelayLoop) (hand : RelayHandler) :
    (l.accept hand).controller.exec = l.controller.exec ∧
      (l.accept hand).controller.handler_.isSome = true ∧
      (l.accept hand).raced = l.raced := by
  rw [accept]
  split <;> exact ⟨rfl, rfl, rfl⟩

theorem consistent_running (hrun : l.controller.exec = .running)
    (hh : l.controller.handler_.isSome = true) : Consistent l := by
  simp only [Consistent, hrun]
  exact hh

theorem Consistent.relayStep {e : RelayHandler.Event} (hs : l.relayStep e = some l') :
    Consistent l' ∧ l'.controller.exec = .running := by
  obtain ⟨hand, _, hpc, _, ⟨_, rfl⟩ | ⟨hand', _, _, rfl⟩⟩ := relayStep_eq hs
  · obtain ⟨hexec, hsome, _⟩ := accept_controller l hand
    exact ⟨consistent_running (hexec.trans hpc) hsome, hexec.trans hpc⟩
  · exact ⟨consistent_running hpc rfl, hpc⟩

theorem accepted_eq (hs : l.accepted = some l') :
    ∃ hand, l.accepting = true ∧ l.controller.exec = .running ∧
      l.controller.handler_ = some hand ∧
      l' = { l.setHandler (hand.setClient hand.request_.1 hand.request_.2) with
        accepting := false } := by
  rw [accepted] at hs
  split at hs
  · rename_i hand ha hpc hh
    cases hs
    exact ⟨hand, ha, hpc, hh, rfl⟩
  · cases hs

theorem Consistent.accepted (hs : l.accepted = some l') :
    Consistent l' ∧ l'.controller.exec = .running := by
  obtain ⟨hand, _, hpc, _, rfl⟩ := accepted_eq hs
  exact ⟨consistent_running hpc rfl, hpc⟩

theorem Consistent.addRequest (hrun : l.controller.exec = .running)
    (hs : l.addRequest request = some l') : Consistent l' := by
  obtain ⟨hand, _, rfl⟩ := Option.map_eq_some_iff.1 hs
  exact consistent_running hrun rfl

theorem init_not_ready (request : Str) : (RelayHandler.init request).readyForRequest = false := rfl

end RelayLoop

namespace RelayLoops

/-- Every loop is consistent, and one that was found ready runs. -/
structure Consistent (s : RelayLoops) : Prop where
  http : ∀ l ∈ s.relays_http_, l.Consistent
  websockets : ∀ l ∈ s.relays_websockets_, l.Consistent
  found : ∀ i request, s.call = some (.add i request) →
    ∃ l, s.relays_http_[i]? = some l ∧ l.controller.exec = .running

variable {s s' : RelayLoops} {l : RelayLoop} {request : Str} {i : Nat}

theorem step_handle {e : RelayLoopsEvent} (hs : step s e = some s') :
    s.checkFailed = false ∧ s.handle e = some s' := by
  rw [step] at hs
  split at hs
  · cases hs
  · rename_i hf
    exact ⟨Bool.eq_false_iff.2 hf, hs⟩

theorem update_eq {f : RelayLoop → Option RelayLoop} {ref : RelayRef}
    (hs : s.update f ref = some s') :
    ∃ l l', f l = some l' ∧
      ((∃ i, s.relays_http_[i]? = some l ∧
          s' = { s with relays_http_ := s.relays_http_.set i l' }) ∨
        ∃ i, s.relays_websockets_[i]? = some l ∧
          s' = { s with relays_websockets_ := s.relays_websockets_.set i l' }) := by
  cases ref with
  | http i =>
    obtain ⟨l, hl, hs⟩ := Option.bind_eq_some_iff.1 hs
    obtain ⟨l', hf, rfl⟩ := Option.map_eq_some_iff.1 hs
    exact ⟨l, l', hf, .inl ⟨i, hl, rfl⟩⟩
  | websocket i =>
    obtain ⟨l, hl, hs⟩ := Option.bind_eq_some_iff.1 hs
    obtain ⟨l', hf, rfl⟩ := Option.map_eq_some_iff.1 hs
    exact ⟨l, l', hf, .inr ⟨i, hl, rfl⟩⟩

/-- A step of one loop that keeps it consistent, and running if it was, keeps the others too. -/
theorem Consistent.update {f : RelayLoop → Option RelayLoop} {ref : RelayRef} (hc : Consistent s)
    (hf : ∀ l l', l.Consistent → f l = some l' →
      l'.Consistent ∧ (l.controller.exec = .running → l'.controller.exec = .running))
    (hs : s.update f ref = some s') : Consistent s' := by
  obtain ⟨l, l', hl', h | h⟩ := update_eq hs
  · obtain ⟨i, hl, rfl⟩ := h
    obtain ⟨hcl, hrun⟩ := hf l l' (hc.http l (List.mem_of_getElem? hl)) hl'
    refine ⟨?_, hc.websockets, ?_⟩
    · intro k hk
      obtain hk | rfl := List.mem_or_eq_of_mem_set hk
      · exact hc.http k hk
      · exact hcl
    · intro j request hcall
      obtain ⟨k, hk, hkrun⟩ := hc.found j request hcall
      by_cases hij : i = j
      · subst hij
        cases hl.symm.trans hk
        have hlt : i < s.relays_http_.length := (List.getElem?_eq_some_iff.1 hl).1
        exact ⟨l', List.getElem?_set_self hlt, hrun hkrun⟩
      · exact ⟨k, (List.getElem?_set_ne hij).trans hk, hkrun⟩
  · obtain ⟨i, hl, rfl⟩ := h
    obtain ⟨hcl, _⟩ := hf l l' (hc.websockets l (List.mem_of_getElem? hl)) hl'
    refine ⟨hc.http, ?_, hc.found⟩
    intro k hk
    obtain hk | rfl := List.mem_or_eq_of_mem_set hk
    · exact hc.websockets k hk
    · exact hcl

/-- Asking a loop ends the process exactly when its handler is not there. -/
theorem askNext_eq (hc : Consistent s) (hs : s.askNext = some s') :
    ∃ i request l, s.call = some (.scan i request) ∧ s.relays_http_[i]? = some l ∧
      (s' = s.fail ∧ l.controller.handler_ = none ∨
        s' = { s with call := some (.scan (i + 1) request) } ∧
          l.controller.handler_.isSome = true ∨
        s' = { s with call := some (.add i request), relays_http_ := s.relays_http_.set i l.found } ∧
          ∃ hand, l.controller.handler_ = some hand ∧ hand.readyForRequest = true ∧
            l.controller.exec = .running) := by
  rw [askNext] at hs
  split at hs
  · rename_i i request hcall
    obtain ⟨l, hl, rfl⟩ := Option.map_eq_some_iff.1 hs
    refine ⟨i, request, l, hcall, hl, ?_⟩
    cases hh : l.controller.handler_ with
    | none =>
      simp only [RelayLoop.readyForRequest, hh, Option.map_none]
      exact .inl ⟨trivial, trivial⟩
    | some hand =>
      simp only [RelayLoop.readyForRequest, hh, Option.map_some]
      cases hr : hand.readyForRequest with
      | false => exact .inr (.inl ⟨rfl, rfl⟩)
      | true =>
        refine .inr (.inr ⟨rfl, hand, rfl, hr, ?_⟩)
        by_contra hnot
        rw [(hc.http l (List.mem_of_getElem? hl)).unchanged hnot hh,
          RelayLoop.init_not_ready] at hr
        cases hr
  · cases hs

theorem addFound_eq (hc : Consistent s) (hs : s.addFound = some s') :
    ∃ i request l l', s.call = some (.add i request) ∧ s.relays_http_[i]? = some l ∧
      l.controller.exec = .running ∧ l.addRequest request = some l' ∧
      s' = { s with relays_http_ := s.relays_http_.set i l', call := none } := by
  rw [addFound] at hs
  split at hs
  · rename_i i request hcall
    obtain ⟨l, hl, rfl⟩ := Option.map_eq_some_iff.1 hs
    obtain ⟨k, hk, hrun⟩ := hc.found i request hcall
    cases hl.symm.trans hk
    have hsome := (hc.http l (List.mem_of_getElem? hl)).handler_iff.2 (.inr (.inr (.inr hrun)))
    obtain ⟨hand, hh⟩ := Option.isSome_iff_exists.1 hsome
    obtain ⟨l', hl'⟩ : ∃ l', l.addRequest request = some l' := by
      rw [RelayLoop.addRequest, hh]
      exact ⟨_, rfl⟩
    exact ⟨i, request, l, l', hcall, hl, hrun, hl', by rw [hl']⟩
  · cases hs

theorem addHttpRelayClient_eq {request : Str}
    (hs : s.handle (.addHttpRelayClient request) = some s') :
    s.call = none ∧ s' = { s with call := some (.scan 0 request) } := by
  rw [handle] at hs
  split at hs
  · rename_i hcall
    cases hs
    exact ⟨hcall, rfl⟩
  · cases hs

/-- A loop is made when every one there is has been asked. -/
theorem newHttpRelayLoop_eq (hs : s.handle .newHttpRelayLoop = some s') :
    ∃ request, s.call = some (.scan s.relays_http_.length request) ∧
      s' = { s with relays_http_ := s.relays_http_ ++ [.new request], call := none } := by
  rw [handle] at hs
  split at hs
  · rename_i i request hcall
    split at hs
    · rename_i hi
      cases hs
      exact ⟨request, hi ▸ hcall, rfl⟩
    · cases hs
  · cases hs

theorem consistent_push {ls : List RelayLoop} (h : ∀ l ∈ ls, l.Consistent) (request : Str) :
    ∀ l ∈ ls ++ [.new request], l.Consistent := by
  intro l hl
  rcases List.mem_append.1 hl with hl | hl
  · exact h l hl
  · rw [List.mem_singleton.1 hl]
    exact RelayLoop.consistent_new request

theorem Consistent.handle {e : RelayLoopsEvent} (hc : Consistent s) (hs : s.handle e = some s') :
    Consistent s' := by
  have hcall : ∀ j r, Consistent { s with call := some (.scan j r) } := by
    intro j r
    refine ⟨hc.http, hc.websockets, ?_⟩
    intro i request h
    cases h
  cases e with
  | addHttpRelayClient request =>
    obtain ⟨_, rfl⟩ := addHttpRelayClient_eq hs
    exact hcall 0 request
  | readyForRequest =>
    obtain ⟨i, request, l, _, hl, ⟨rfl, _⟩ | ⟨rfl, _⟩ | ⟨rfl, _, _, _, hrun⟩⟩ := askNext_eq hc hs
    · exact ⟨hc.http, hc.websockets, hc.found⟩
    · exact hcall _ _
    · have hlt : i < s.relays_http_.length := (List.getElem?_eq_some_iff.1 hl).1
      refine ⟨?_, hc.websockets, ?_⟩
      · intro k hk
        obtain hk | rfl := List.mem_or_eq_of_mem_set hk
        · exact hc.http k hk
        · exact hc.http l (List.mem_of_getElem? hl)
      · intro j r h
        cases h
        exact ⟨l.found, List.getElem?_set_self hlt, hrun⟩
  | addRequest =>
    obtain ⟨i, request, l, l', _, hl, hrun, hl', rfl⟩ := addFound_eq hc hs
    refine ⟨?_, hc.websockets, ?_⟩
    · intro k hk
      obtain hk | rfl := List.mem_or_eq_of_mem_set hk
      · exact hc.http k hk
      · exact RelayLoop.Consistent.addRequest hrun hl'
    · intro j r h
      cases h
  | newHttpRelayLoop =>
    obtain ⟨request, _, rfl⟩ := newHttpRelayLoop_eq hs
    refine ⟨consistent_push hc.http request, hc.websockets, ?_⟩
    intro j r h
    cases h
  | addWebsocketRelayClient request =>
    cases hs
    exact ⟨hc.http, consistent_push hc.websockets _, hc.found⟩
  | exec ref e =>
    apply hc.update _ hs
    intro l l' hl hs
    exact ⟨hl.execStep hs, fun hrun => absurd hrun (RelayLoop.execStep_not_running hs)⟩
  | relay ref e =>
    apply hc.update _ hs
    intro l l' _ hs
    obtain ⟨hl', hrun⟩ := RelayLoop.Consistent.relayStep hs
    exact ⟨hl', fun _ => hrun⟩
  | accepted ref =>
    apply hc.update _ hs
    intro l l' _ hs
    obtain ⟨hl', hrun⟩ := RelayLoop.Consistent.accepted hs
    exact ⟨hl', fun _ => hrun⟩

theorem update_checkFailed {f : RelayLoop → Option RelayLoop} {ref : RelayRef}
    (hs : s.update f ref = some s') : s'.checkFailed = s.checkFailed := by
  obtain ⟨_, _, _, h | h⟩ := update_eq hs
  · obtain ⟨_, _, rfl⟩ := h
    rfl
  · obtain ⟨_, _, rfl⟩ := h
    rfl

theorem step_checkFailed_iff {e : RelayLoopsEvent} (hc : Consistent s) (hs : step s e = some s') :
    s'.checkFailed = false ↔ AskedBuilt s e := by
  obtain ⟨hok, hs⟩ := step_handle hs
  cases e with
  | readyForRequest =>
    obtain ⟨i, request, l, hcall, hl, h⟩ := askNext_eq hc hs
    have hiff := (hc.http l (List.mem_of_getElem? hl)).handler_iff
    have hasked : AskedBuilt s .readyForRequest ↔ l.controller.handler_.isSome = true := by
      rw [hiff]
      constructor
      · intro ha
        exact ha i request l hcall hl
      · intro hb j r k hj hk
        cases hcall.symm.trans hj
        cases hl.symm.trans hk
        exact hb
    rw [hasked]
    obtain ⟨rfl, hnone⟩ | ⟨rfl, hsome⟩ | ⟨rfl, hand, hh, _⟩ := h
    · rw [hnone]
      exact ⟨nofun, nofun⟩
    · exact ⟨fun _ => hsome, fun _ => hok⟩
    · rw [hh]
      exact ⟨fun _ => rfl, fun _ => hok⟩
  | addHttpRelayClient request =>
    obtain ⟨_, rfl⟩ := addHttpRelayClient_eq hs
    exact ⟨fun _ => trivial, fun _ => hok⟩
  | addRequest =>
    obtain ⟨_, _, _, _, _, _, _, _, rfl⟩ := addFound_eq hc hs
    exact ⟨fun _ => trivial, fun _ => hok⟩
  | newHttpRelayLoop =>
    obtain ⟨_, _, rfl⟩ := newHttpRelayLoop_eq hs
    exact ⟨fun _ => trivial, fun _ => hok⟩
  | addWebsocketRelayClient request =>
    cases hs
    exact ⟨fun _ => trivial, fun _ => hok⟩
  | exec ref e =>
    rw [update_checkFailed hs]
    exact ⟨fun _ => trivial, fun _ => hok⟩
  | relay ref e =>
    rw [update_checkFailed hs]
    exact ⟨fun _ => trivial, fun _ => hok⟩
  | accepted ref =>
    rw [update_checkFailed hs]
    exact ⟨fun _ => trivial, fun _ => hok⟩

theorem consistent_init : Consistent init := by
  apply Consistent.mk
  · exact List.forall_mem_nil _
  · exact List.forall_mem_nil _
  · intro i request hcall
    cases hcall

/-- Along a run, no `CHECK` of a relay's handler fails exactly when every loop that is asked has
its handler. -/
theorem always_check_iff (es : List RelayLoopsEvent) :
    Always step (fun s => s.checkFailed = false) init es ↔
      Along step (fun s e _ => AskedBuilt s e) init es := by
  have hinit : init.checkFailed = false := rfl
  apply always_iff_along (Q := fun s => s.checkFailed = false) (I := Consistent) hinit
    consistent_init
  intro s e s' _ hc hs
  exact ⟨step_checkFailed_iff hc hs, fun _ => hc.handle (step_handle hs).2⟩

/-- A second request before the thread of the first loop has built its handler. -/
def secondRequestAtOnce : List RelayLoopsEvent :=
  [.addHttpRelayClient ['r'], .newHttpRelayLoop, .addHttpRelayClient ['s'], .readyForRequest]

theorem not_always_check_secondRequestAtOnce :
    ¬ Always step (fun s => s.checkFailed = false) init secondRequestAtOnce := by
  intro h
  have hrun : (run step init secondRequestAtOnce).map (fun s => s.checkFailed) = some true := by
    decide
  obtain ⟨s, hs, he⟩ := Option.map_eq_some_iff.1 hrun
  have hok := h.at_end hs
  rw [he] at hok
  cases hok

end RelayLoops

end SiteOnYourDevice
