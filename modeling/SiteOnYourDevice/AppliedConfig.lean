import SiteOnYourDevice.NetworkController
import SiteOnYourDevice.SetConfig

namespace SiteOnYourDevice
open CString JsonC Transition
set_option relaxedAutoImplicit false
set_option autoImplicit true

variable {Url : Type}

/-- How many steps of `exec` there can still be. -/
def ExecPc.left : ExecPc η → Nat
  | .created => 7
  | .entered => 6
  | .handlerCreated _ => 5
  | .handlerAssigned => 4
  | .serverCreated => 3
  | .loopAssigned => 2
  | .running => 1
  | .returned => 0

/-- How many steps of `stop` and `join` there can still be. -/
def ControlPc.left : ControlPc → Nat
  | .created => 4
  | .started => 3
  | .stopping => 2
  | .joining => 1
  | .joined => 0

theorem LoopController.execStep_left {create : Option η} {s s' : LoopController η} {e : ExecEvent}
    (h : s.execStep create e = some s') : s'.exec.left < s.exec.left ∧ s'.exec ≠ .created := by
  cases execStep_change h with
  | created _ hpc | noHandler hpc | assigned _ hpc | server hpc | noServer hpc | loop hpc
  | runs hpc | returns hpc => simp [hpc, ExecPc.left]

namespace ControlledLoop
variable {create : Option η} {hand : η} {s s' : ControlledLoop η}

def left (s : ControlledLoop η) : Nat := s.loop.exec.left + s.control.left

/-- `stop` was called, or will be, for a loop that is there; or the loop has ended. -/
def Stops (s : ControlledLoop η) : Prop :=
  match s.control with
  | .created => False
  | .started => s.loop.loop_ = true ∨ s.loop.exec = .returned
  | .joining => s.stopped = true ∨ s.loop.exec = .returned
  | .stopping | .joined => True

/-- `stop` finds no loop, or has found none, and the thread is still at work. -/
def Misses (s : ControlledLoop η) : Prop :=
  s.stopped = false ∧ s.loop.exec ≠ .returned ∧
    (s.control = .started ∧ s.loop.loop_ = false ∨ s.control = .joining)

theorem step_left {e : ControlEvent} (hne : s.loop.exec ≠ .created)
    (hs : s.step create e = some s') : s'.left < s.left := by
  cases step_change hs with
  | start hc hl => exact absurd (LoopController.start_eq hl).1 hne
  | exec e hl =>
    have hlt := (LoopController.execStep_left hl).1
    exact Nat.add_lt_add_right hlt _
  | assigned hc | unassigned hc | Stop hc | join hc => simp [left, hc, ControlPc.left]

theorem step_entered {e : ControlEvent} (hne : s.loop.exec ≠ .created)
    (hs : s.step create e = some s') : s'.loop.exec ≠ .created := by
  cases step_change hs with
  | start hc hl => exact absurd (LoopController.start_eq hl).1 hne
  | exec e hl => exact (LoopController.execStep_left hl).2
  | assigned | unassigned | Stop | join => exact hne

/-- A loop that was found is not lost, and one that has ended does nothing more. -/
theorem Stops.step {e : ControlEvent} (h : s.Stops) (hs : s.step create e = some s') :
    s'.Stops := by
  have hexec : ∀ {loop : LoopController η} {e : ExecEvent}, s.loop.execStep create e = some loop →
      s.loop.exec ≠ .returned ∧ (s.loop.loop_ = true → loop.loop_ = true) := by
    intro loop e hl
    cases LoopController.execStep_change hl with
    | created _ hpc | noHandler hpc | assigned _ hpc | server hpc | noServer hpc | loop hpc
    | runs hpc | returns hpc => simp [hpc]
  cases step_change hs with
  | start hc hl => simp [Stops, hc] at h
  | exec e hl =>
    obtain ⟨hne, hloop⟩ := hexec hl
    revert h
    cases hc : s.control <;> simp [Stops, hc, hne] <;> tauto
  | assigned | Stop | join => simp [Stops]
  | unassigned hc hl =>
    simp only [Stops, hc, hl, Bool.false_eq_true, false_or] at h
    exact .inr h

/-- A thread at work has a next step, which is not the end of `exec` before `Exec` runs. -/
theorem exists_exec (hne : s.loop.exec ≠ .created) (hret : s.loop.exec ≠ .returned) :
    ∃ e loop, s.loop.execStep (some hand) e = some loop ∧
      (s.loop.exec ≠ .running → e ≠ .execReturns ∧ loop.exec ≠ .returned) := by
  obtain ⟨⟨handler_, loop_, exec⟩, control, stopped⟩ := s
  cases exec with
  | created => exact absurd rfl hne
  | returned => exact absurd rfl hret
  | entered => exact ⟨.CreateHandler, _, rfl, by simp⟩
  | handlerCreated h => exact ⟨.assignHandler, _, rfl, by simp⟩
  | handlerAssigned => exact ⟨.CreateServer true, _, rfl, by simp⟩
  | serverCreated => exact ⟨.assignLoop, _, rfl, by simp⟩
  | loopAssigned => exact ⟨.Exec, _, rfl, by simp⟩
  | running => exact ⟨.execReturns, _, rfl, by simp⟩

end ControlledLoop

namespace NetworkController
variable (net : NetTypes) (checker : IHttpAuthObserver)

/-- The `Exec` of a loop that was not told to stop does not return. -/
def Endless (s : NetworkController) : NetworkEvent → Bool
  | .server .execReturns => s.server_.all (!·.thread.stopped)
  | _ => false

/-- A step of a thread while `handleEvent` has not come to its end. -/
def handlingStep (s : NetworkController) (e : NetworkEvent) : Option NetworkController :=
  match s.main with
  | .disconnecting _ => if s.Endless e then none else step net checker s e
  | _ => none

/-- The event has been handled, and there is a server, newly made and started. -/
def StartsServer (s : NetworkController) : Prop :=
  s.main = .waiting ∧ s.server_ = some (.new s.auth_checker_)

/-- The handling of a `ConfigChangedEvent` comes to its end in every case, with a new server. -/
def Applies (config : HttpConfig) (s : NetworkController) : Prop :=
  ∃ t, step net checker s (.configChanged config) = some t ∧
    Inevitable (handlingStep net checker) StartsServer t

/-- The thread of a server, if there is one, is past its start-up. -/
def StartedUp (s : NetworkController) : Prop :=
  ∀ server, s.server_ = some server →
    server.thread.loop.loop_ = true ∨ server.thread.loop.exec = .returned

/-- Outside `disConnect` nobody has begun to stop the server. -/
structure Unstopped (s : NetworkController) : Prop where
  entered : ∀ server, s.server_ = some server → server.thread.loop.exec ≠ .created
  waiting : s.main = .waiting → ∀ server, s.server_ = some server →
    server.thread.control = .started ∧ server.thread.stopped = false

variable {net} {checker} {s s' : NetworkController} {config : HttpConfig}

/-- What `connect` makes of no server. -/
theorem connect_server {server : ServerController} (hnone : s.server_ = none)
    (h : (s.connect net).server_ = some server) : server = .new s.auth_checker_ := by
  simp only [NetworkController.connect, hnone] at h
  split at h
  · exact (Option.some.inj h).symm
  · cases hnone.symm.trans h

theorem Unstopped.connect (hnone : s.server_ = none) :
    Unstopped { s.connect net with main := .waiting } := by
  refine ⟨?_, ?_⟩
  · intro server h
    rw [connect_server hnone h]
    intro hn
    cases hn
  · intro _ server h
    rw [connect_server hnone h]
    exact ⟨rfl, rfl⟩

/-- A step of the server's thread or of `stop`; of `stop` there is none outside `disConnect`. -/
theorem Unstopped.serverStep {server server' : ServerController} {e : ControlEvent}
    (h : Unstopped s) (hs : s.server_ = some server) (hstep : server.step e = some server')
    (he : s.main = .waiting → ∃ e', e = .exec e') : Unstopped { s with server_ := some server' } := by
  obtain ⟨thread, ht, rfl⟩ := Option.map_eq_some_iff.1 hstep
  have hentered := h.entered server hs
  refine ⟨?_, ?_⟩
  · rintro _ ⟨⟩
    cases ControlledLoop.step_change ht with
    | start hc hl => exact absurd (LoopController.start_eq hl).1 hentered
    | exec e hl => exact (LoopController.execStep_left hl).2
    | assigned | unassigned | Stop | join => exact hentered
  · rintro hmain _ ⟨⟩
    obtain ⟨e', rfl⟩ := he hmain
    obtain ⟨loop, _, rfl⟩ := Option.map_eq_some_iff.1 ht
    exact h.waiting hmain server hs

theorem Unstopped.step {e : NetworkEvent} (h : Unstopped s) (hearly : Early s)
    (hs : NetworkController.step net checker s e = some s') : Unstopped s' := by
  cases step_change hs with
  | construct config hmain hpc => exact ⟨h.entered, fun hw => by cases hw⟩
  | connect hmain => exact Unstopped.connect (hearly.server (.inr hmain))
  | configChanged config hmain => exact ⟨h.entered, fun hw => by cases hw⟩
  | disConnect e config hmain he hsrv hstep =>
    exact h.serverStep hsrv hstep fun hw => by cases hmain.symm.trans hw
  | reconnect config hmain hjoined =>
    have hc := @Unstopped.connect net
      { s with server_ := none, config_ := config, main := .waiting } rfl
    rw [connect_eq] at hc ⊢
    exact hc
  | inner e hstep =>
    rw [NetworkController.innerStep] at hstep
    split at hstep
    · cases hstep
    · obtain ⟨inner, _, rfl⟩ := Option.map_eq_some_iff.1 hstep
      split
      · exact ⟨h.entered, h.waiting⟩
      · exact ⟨h.entered, h.waiting⟩
  | server e hsrv hstep => exact h.serverStep hsrv hstep fun _ => ⟨e, rfl⟩

/-- In every state that is reached. -/
theorem unstopped_of_run {c : HttpConfig} {es : List NetworkEvent}
    (hr : run (NetworkController.step net checker) (init c) es = some s) : Unstopped s := by
  have hinit : Early (init c) ∧ Unstopped (init c) := by
    refine ⟨early_init c, ?_, ?_⟩
    · intro server h
      cases h
    · intro h
      cases h
  have ha : Always (NetworkController.step net checker) (fun s => Early s ∧ Unstopped s) (init c)
      es := by
    refine ⟨hinit, along_of_invariant (I := fun s => Early s ∧ Unstopped s) hinit ?_⟩
    intro s e s' ⟨hearly, h⟩ hs
    have hnext : Early s' ∧ Unstopped s' := ⟨hearly.step hs, h.step hearly hs⟩
    exact ⟨hnext, hnext⟩
  exact (ha.at_end hr).2

/-- A step of the handling is a step of the inner thread, of the server's thread or of `stop`, or it
is the last one. -/
theorem handlingStep_change {e : NetworkEvent} (hs : handlingStep net checker s e = some s') :
    ∃ config, s.main = .disconnecting config ∧
      ((∃ e', s.innerStep checker e' = some s') ∨
      (∃ server server' e', s.server_ = some server ∧ server.step e' = some server' ∧
        s' = { s with server_ := some server' } ∧
        (e' = .exec .execReturns → server.thread.stopped = true)) ∨
      s.disconnected = true ∧ s' = NetworkController.connect net
        { s with server_ := none, config_ := config, main := .waiting }) := by
  rw [handlingStep] at hs
  split at hs
  · rename_i config hmain
    refine ⟨config, hmain, ?_⟩
    split at hs
    · cases hs
    rename_i hend
    cases step_change hs with
    | construct _ hm | connect hm | configChanged _ hm => cases hmain.symm.trans hm
    | disConnect e config' hm he hsrv hstep =>
      refine .inr (.inl ⟨_, _, e, hsrv, hstep, rfl, ?_⟩)
      rintro rfl
      simp at he
    | reconnect config' hm hjoined =>
      cases hmain.symm.trans hm
      exact .inr (.inr ⟨hjoined, rfl⟩)
    | inner e hstep => exact .inl ⟨e, hstep⟩
    | server e hsrv hstep =>
      refine .inr (.inl ⟨_, _, .exec e, hsrv, hstep, rfl, ?_⟩)
      intro he
      cases he
      simpa [Endless, hsrv] using hend
  · cases hs

theorem innerStep_left {e : ExecEvent} (h : s.innerStep checker e = some s') :
    s'.main = s.main ∧ s'.server_ = s.server_ ∧ s'.inner.exec.left < s.inner.exec.left := by
  rw [NetworkController.innerStep] at h
  split at h
  · cases h
  obtain ⟨inner, hin, rfl⟩ := Option.map_eq_some_iff.1 h
  have hlt := (LoopController.execStep_left hin).1
  split
  · exact ⟨rfl, rfl, hlt⟩
  · exact ⟨rfl, rfl, hlt⟩

/-- In `disConnect` for `config`, with a server that the handling can stop. -/
structure CanStop (config : HttpConfig) (s : NetworkController) : Prop where
  main : s.main = .disconnecting config
  server : ∀ server, s.server_ = some server →
    server.thread.loop.exec ≠ .created ∧ server.thread.Stops

/-- How many steps of the threads there can be until the handling ends. -/
def left (s : NetworkController) : Nat :=
  s.inner.exec.left + s.server_.elim 0 (·.thread.left)

theorem handlingStep_eq (hmain : s.main = .disconnecting config) {e : NetworkEvent}
    (he : s.Endless e = false) : handlingStep net checker s e = step net checker s e := by
  simp [handlingStep, hmain, he]

theorem handlingStep_disConnect {server server' : ServerController} {e : ControlEvent}
    (hmain : s.main = .disconnecting config) (hsrv : s.server_ = some server)
    (he : e = .testLoop ∨ e = .Stop ∨ e = .join) (hstep : server.step e = some server') :
    handlingStep net checker s (.disConnect e) = some { s with server_ := some server' } := by
  rw [handlingStep_eq hmain rfl]
  obtain rfl | rfl | rfl := he <;>
    simp only [step, hmain, stopServer, hsrv, hstep, Option.bind_some, Option.map_some]

theorem handlingStep_server {server : ServerController} {loop : LoopController _} {e : ExecEvent}
    (hmain : s.main = .disconnecting config) (hsrv : s.server_ = some server)
    (hstep : server.thread.loop.execStep server.CreateHandler e = some loop)
    (htold : e = .execReturns → server.thread.stopped = true) :
    handlingStep net checker s (.server e) =
      some { s with server_ := some { server with thread := { server.thread with loop } } } := by
  have hend : s.Endless (.server e) = false := by
    cases e with
    | execReturns => simp [Endless, hsrv, htold rfl]
    | CreateHandler | assignHandler | CreateServer _ | assignLoop | Exec => rfl
  rw [handlingStep_eq hmain hend]
  simp only [step, hsrv, ServerController.step, ControlledLoop.step, hstep, Option.bind_some,
    Option.map_some]

/-- Until it ends, the handling can go on. -/
theorem CanStop.exists_step (h : CanStop config s) :
    ∃ e s', handlingStep net checker s e = some s' := by
  obtain ⟨hmain, hserver⟩ := h
  have hreconnect : s.disconnected = true → ∃ e s', handlingStep net checker s e = some s' := by
    intro hd
    refine ⟨.reconnect, NetworkController.connect net
      { s with server_ := none, config_ := config, main := .waiting }, ?_⟩
    rw [handlingStep_eq hmain rfl]
    simp only [step, hmain, hd, if_true]
  cases hs : s.server_ with
  | none => exact hreconnect (by simp [disconnected, hs])
  | some server =>
    obtain ⟨hne, hstops⟩ := hserver server hs
    have hcontrol : ∀ e, e = .testLoop ∨ e = .Stop ∨ e = .join → (server.step e).isSome = true →
        ∃ e s', handlingStep net checker s e = some s' := by
      intro e he hsome
      obtain ⟨server', hstep⟩ := Option.isSome_iff_exists.1 hsome
      exact ⟨_, _, handlingStep_disConnect hmain hs he hstep⟩
    rw [ControlledLoop.Stops] at hstops
    split at hstops
    · exact hstops.elim
    · rename_i hc
      exact hcontrol .testLoop (by simp) (by simp [ServerController.step, ControlledLoop.step, hc])
    · rename_i hc
      by_cases hret : server.thread.loop.exec = .returned
      · exact hcontrol .join (by simp)
          (by simp [ServerController.step, ControlledLoop.step, hc, hret])
      · obtain ⟨e, loop, hloop, _⟩ := ControlledLoop.exists_exec hne hret
        exact ⟨_, _, handlingStep_server hmain hs hloop fun _ => hstops.resolve_right hret⟩
    · rename_i hc
      exact hcontrol .Stop (by simp) (by simp [ServerController.step, ControlledLoop.step, hc])
    · rename_i hc
      exact hreconnect (by simp [disconnected, hs, hc])

/-- A step of the handling is its last one, or leaves fewer of them. -/
theorem CanStop.step (h : CanStop config s) (hmakes : makesServer net config = true)
    {e : NetworkEvent} (hs : handlingStep net checker s e = some s') :
    StartsServer s' ∨ CanStop config s' ∧ s'.left < s.left := by
  obtain ⟨hmain, hserver⟩ := h
  obtain ⟨config', hm, hchange⟩ := handlingStep_change hs
  cases hmain.symm.trans hm
  obtain ⟨e', hinner⟩ | ⟨server, server', e', hsrv, hstep, rfl, _⟩ | ⟨_, rfl⟩ := hchange
  · obtain ⟨hm', hs', hlt⟩ := innerStep_left hinner
    refine .inr ⟨⟨hm'.trans hmain, hs' ▸ hserver⟩, ?_⟩
    simp only [left, hs']
    exact Nat.add_lt_add_right hlt _
  · obtain ⟨hne, hstops⟩ := hserver server hsrv
    obtain ⟨thread, ht, rfl⟩ := Option.map_eq_some_iff.1 hstep
    refine .inr ⟨⟨hmain, ?_⟩, ?_⟩
    · rintro _ ⟨⟩
      exact ⟨ControlledLoop.step_entered hne ht, hstops.step ht⟩
    · simp only [left, hsrv, Option.elim]
      exact Nat.add_lt_add_left (ControlledLoop.step_left hne ht) _
  · left
    simp [StartsServer, NetworkController.connect, hmakes]

/-- In `disConnect` for `config`, with a server whose loop `stop` misses. -/
def MissesLoop (config : HttpConfig) (s : NetworkController) : Prop :=
  s.main = .disconnecting config ∧ ∃ server, s.server_ = some server ∧
    server.thread.loop.exec ≠ .created ∧ server.thread.Misses

/-- The handling can go on so that `join` waits without end. -/
theorem MissesLoop.step (h : MissesLoop config s) {e : NetworkEvent}
    (hs : handlingStep net checker s e = some s') :
    ∃ e s', handlingStep net checker s e = some s' ∧ MissesLoop config s' := by
  obtain ⟨hmain, server, hsrv, hne, huntold, hret, hc⟩ := h
  obtain ⟨hc, hnoloop⟩ | hc := hc
  · have htest : server.step .testLoop =
        some { server with thread := { server.thread with control := .joining } } := by
      simp [ServerController.step, ControlledLoop.step, hc, hnoloop]
    exact ⟨_, _, handlingStep_disConnect hmain hsrv (.inl rfl) htest, hmain, _, rfl, hne, huntold,
      hret, .inr rfl⟩
  by_cases hrun : server.thread.loop.exec = .running
  · obtain ⟨config', hm, hchange⟩ := handlingStep_change hs
    obtain ⟨e', hinner⟩ | ⟨server', server'', e', hsrv', hstep, _, htold⟩ | ⟨hd, _⟩ := hchange
    · obtain ⟨hm', hs', _⟩ := innerStep_left hinner
      exact ⟨e, s', hs, hm'.trans hmain, server, hs'.trans hsrv, hne, huntold, hret, .inr hc⟩
    · cases hsrv.symm.trans hsrv'
      obtain ⟨thread, ht, _⟩ := Option.map_eq_some_iff.1 hstep
      -- of a loop that runs only the end of `Exec` is left
      have hreturns : e' = .exec .execReturns := by
        cases ControlledLoop.step_change ht with
        | start hc' | assigned hc' | unassigned hc' | Stop hc' => cases hc.symm.trans hc'
        | join _ hpc => exact absurd hpc hret
        | exec e hl =>
          cases LoopController.execStep_change hl with
          | returns => rfl
          | created _ hpc | noHandler hpc | assigned _ hpc | server hpc | noServer hpc | loop hpc
          | runs hpc => cases hrun.symm.trans hpc
      cases huntold.symm.trans (htold hreturns)
    · simp [disconnected, hsrv, hc] at hd
  · obtain ⟨e', loop, hloop, hgoes⟩ := ControlledLoop.exists_exec hne hret
    obtain ⟨hne', hret'⟩ := hgoes hrun
    exact ⟨_, _, handlingStep_server hmain hsrv hloop fun h => absurd h hne', hmain, _, rfl,
      (LoopController.execStep_left hloop).2, huntold, hret', .inr hc⟩

/-- Where no server is made, the handling does not end with one. -/
def NoServer (config : HttpConfig) (s : NetworkController) : Prop :=
  s.main = .disconnecting config ∨ s.main = .waiting ∧ s.server_ = none

theorem NoServer.step (hmakes : makesServer net config = false) {e : NetworkEvent}
    (h : NoServer config s) (hs : handlingStep net checker s e = some s') : NoServer config s' := by
  obtain ⟨config', hm, hchange⟩ := handlingStep_change hs
  have hmain : s.main = .disconnecting config := by
    obtain h | ⟨h, _⟩ := h
    · exact h
    · cases h.symm.trans hm
  cases hmain.symm.trans hm
  obtain ⟨e', hinner⟩ | ⟨server, server', e', hsrv, _, rfl, _⟩ | ⟨_, rfl⟩ := hchange
  · exact .inl ((innerStep_left hinner).1.trans hmain)
  · exact .inl hmain
  · refine .inr ?_
    simp [NetworkController.connect, hmakes]

/-- A configuration is applied exactly when a server is made for it and the thread of the old one is
past its start-up. -/
theorem Unstopped.applies_iff (h : Unstopped s) (hmain : s.main = .waiting) :
    Applies net checker config s ↔ makesServer net config = true ∧ StartedUp s := by
  have hstep : NetworkController.step net checker s (.configChanged config) =
      some { s with main := .disconnecting config } := by
    simp only [NetworkController.step, hmain]
  simp only [Applies, hstep, Option.some.injEq, exists_eq_left']
  constructor
  · intro hin
    constructor
    · by_contra hmakes
      rw [Bool.not_eq_true] at hmakes
      obtain ⟨t, hno, hw, hsrv⟩ := hin.exists (I := NoServer config) (.inl rfl)
        fun s e s' hno hs => hno.step hmakes hs
      obtain hd | ⟨_, hnone⟩ := hno
      · cases hd.symm.trans hw
      · cases hnone.symm.trans hsrv
    · intro server hsrv
      by_contra hnot
      rw [not_or, Bool.not_eq_true] at hnot
      obtain ⟨hnoloop, hret⟩ := hnot
      obtain ⟨hc, huntold⟩ := h.waiting hmain server hsrv
      refine not_inevitable (I := MissesLoop config) ?_ ?_ ?_ hin
      · exact ⟨rfl, server, hsrv, h.entered server hsrv, huntold, hret, .inl ⟨hc, hnoloop⟩⟩
      · intro t hmiss hstarts
        cases hmiss.1.symm.trans hstarts.1
      · intro t e t' hmiss hs
        exact hmiss.step hs
  · rintro ⟨hmakes, hup⟩
    refine inevitable_of_measure (I := CanStop config) left ⟨rfl, ?_⟩
      (fun t ht => ht.exists_step) fun t e t' ht hs => ht.step hmakes hs
    intro server hsrv
    refine ⟨h.entered server hsrv, ?_⟩
    rw [ControlledLoop.Stops, (h.waiting hmain server hsrv).1]
    exact hup server hsrv

end NetworkController

/-- A value gives the first server type, or the second one and a valid external host. -/
def Appliable (types : CommonTypes Url) (json : Texts) (m : Memory) (config_json : json_object) :
    Prop :=
  http_server_t.ofInt (typeNumber json m config_json) = .FASTO_SERVER ∨
    http_server_t.ofInt (typeNumber json m config_json) = .EXTERNAL_SERVER ∧
      types.IsValid (readField json config_json EXTERNAL_HOST_SETTING_LABEL
        (fun v => types.hostAndPort (json.get_string v)) ⟨[], 0⟩) = true

namespace InnerServerHandler
open NetworkController
variable {types : CommonTypes Url} {json : Texts} {env : DeviceEnv} {config_json : json_object}
variable {new : NumberedConfig Url} {m : Memory} {id : cmd_seq_t} {s : InnerServerHandler Url}
variable {command config_json_str : Str} {args : List Str} {checker : IHttpAuthObserver}
variable {t : NetworkController} {c : HttpConfig} {es : List NetworkEvent}

/-- A server is made for a configuration that was read exactly when the value was appliable. -/
theorem makesServer_read {old : DeviceConfig Url}
    (hread : old.ofJson types json (env.over m) config_json = some new.toDeviceConfig)
    (hn : new.number = typeNumber json m config_json) :
    makesServer types.toNetTypes new.toHttpConfig = true ↔ Appliable types json m config_json := by
  obtain ⟨_, _, hread⟩ := Option.bind_eq_some_iff.1 hread
  obtain ⟨_, _, hc⟩ := Option.map_eq_some_iff.1 hread
  have hhost : new.external_host = readField json config_json EXTERNAL_HOST_SETTING_LABEL
      (fun v => types.hostAndPort (json.get_string v)) ⟨[], 0⟩ := by
    rw [← hc]
  rw [makesServer, new.server_type_eq, hn, hhost, Appliable]
  split <;> simp [*]

/-- In a state that waits for an event, the one of an acknowledged configuration is handled to its
end with a new server, whatever the threads do, exactly when the value was appliable and the thread
of the old server is past its start-up; neither was looked at before the answer. -/
theorem applied_iff
    (hcommand : IS_EQUAL_COMMAND command SERVER_PLEASE_SET_CONFIG_COMMAND = true)
    (hparse : (json.json_tokener_parse (cstr config_json_str)).toOption = some config_json)
    (hack : s.Acknowledges types json env m id (command :: config_json_str :: args) config_json new)
    (hrun : run (step types.toNetTypes checker) (init c) es = some t) (hmain : t.main = .waiting) :
    Applies types.toNetTypes checker new.toHttpConfig t ↔
      Appliable types json m config_json ∧ t.StartedUp := by
  obtain ⟨⟨hread, hn⟩, _⟩ := (acknowledges_iff hcommand hparse).1 hack
  rw [(unstopped_of_run hrun).applies_iff hmain, makesServer_read hread hn]

/-- The checker of `siteDevice`. -/
def siteChecker : IHttpAuthObserver := HttpAuthObserver .plain fun _ => siteConfig.toHttpConfig

/-- The controller of `siteDevice` connects and its server runs. -/
def siteStartUp : List NetworkEvent :=
  [.construct siteConfig.toHttpConfig, .inner .CreateHandler, .connect, .server .CreateHandler,
    .server .assignHandler, .server (.CreateServer true), .server .assignLoop, .server .Exec]

theorem applied_iff_siteConfig :
    ∃ t, run (step twoHosts.toNetTypes siteChecker) (init siteConfig.toHttpConfig) siteStartUp =
        some t ∧
      (Applies twoHosts.toNetTypes siteChecker siteNumbered.toHttpConfig t ↔
        Appliable twoHosts siteTexts ⟨false, 0⟩ (siteConfig.toJson twoHosts) ∧ t.StartedUp) := by
  have hrun : run (step twoHosts.toNetTypes siteChecker) (init siteConfig.toHttpConfig)
      siteStartUp = some _ := rfl
  refine ⟨_, hrun, ?_⟩
  have hack : siteDevice.Acknowledges twoHosts siteTexts calmDevice ⟨false, 0⟩ "7".toList
      ["plz_set_config".toList, siteText] (siteConfig.toJson twoHosts) siteNumbered :=
    ⟨by rfl, rfl⟩
  exact applied_iff (by decide) rfl hack hrun rfl

/-- A value with a server type of no enumerator. -/
def typeTwo : json_object :=
  .object [(LOCAL_HOST_SETTING_LABEL, .string "localhost:80".toList),
    (SERVER_TYPE_SETTING_LABEL, .int 2)]

def typeTwoText : Str := "\x7b \"local_host\": \"localhost:80\", \"server_type\": 2 \x7d".toList

def typeTwoTexts : Texts := .of (fun _ => typeTwo) fun _ => typeTwoText

/-- The configuration that is posted for `typeTwo`. -/
def typeTwoPosted : NumberedConfig Str :=
  { hostOnlyPosted with server_type := .ofInt 2, number := 2, server_type_eq := rfl }

/-- One way for a server type of no enumerator, and one for a `stop` before the loop is assigned. -/
theorem not_applied_typeTwo :
    (¬ ∀ new t,
      siteDevice.Acknowledges twoHosts typeTwoTexts calmDevice ⟨false, 0⟩ "7".toList
        ["plz_set_config".toList, typeTwoText] typeTwo new →
      run (step twoHosts.toNetTypes siteChecker) (init siteConfig.toHttpConfig) siteStartUp =
        some t →
      Applies twoHosts.toNetTypes siteChecker new.toHttpConfig t) ∧
    ¬ ∀ new t,
      siteDevice.Acknowledges twoHosts siteTexts calmDevice ⟨false, 0⟩ "7".toList
        ["plz_set_config".toList, siteText] (siteConfig.toJson twoHosts) new →
      run (step twoHosts.toNetTypes siteChecker) (init siteConfig.toHttpConfig)
        (siteStartUp.take 5) = some t →
      Applies twoHosts.toNetTypes siteChecker new.toHttpConfig t := by
  constructor
  · intro h
    have hrun : run (step twoHosts.toNetTypes siteChecker) (init siteConfig.toHttpConfig)
        siteStartUp = some _ := rfl
    have happlies := h typeTwoPosted _ ⟨by rfl, rfl⟩ hrun
    rw [(unstopped_of_run hrun).applies_iff rfl] at happlies
    exact absurd happlies.1 (by decide)
  · intro h
    have hrun : run (step twoHosts.toNetTypes siteChecker) (init siteConfig.toHttpConfig)
        (siteStartUp.take 5) = some _ := rfl
    have happlies := h siteNumbered _ ⟨by rfl, rfl⟩ hrun
    rw [(unstopped_of_run hrun).applies_iff rfl] at happlies
    obtain hloop | hret := happlies.2 _ rfl
    · cases hloop
    · cases hret

end InnerServerHandler

end SiteOnYourDevice
