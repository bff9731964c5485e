import SiteOnYourDevice.LoopController
import SiteOnYourDevice.HttpServerHandler

namespace SiteOnYourDevice
open Transition
set_option relaxedAutoImplicit false
set_option autoImplicit true

/-- A `LocalHttpServerController` or `ExternalHttpServerController`. Of the handler its thread
builds, what `setAuthChecker` was given. -/
structure ServerController where
  auth_checker_ : Option IHttpAuthObserver
  thread : ControlledLoop (Option IHttpAuthObserver)

namespace ServerController

/-- A new controller, started. -/
def new (auth_checker : Option IHttpAuthObserver) : ServerController :=
  ⟨auth_checker, ⟨{ LoopController.init with exec := .entered }, .started, false⟩⟩

/-- `ServerControllerBase::CreateHandler` passes the checker on, null or not. -/
def CreateHandler (s : ServerController) : Option (Option IHttpAuthObserver) :=
  some s.auth_checker_

def step (s : ServerController) (e : ControlEvent) : Option ServerController :=
  (s.thread.step s.CreateHandler e).map fun thread => { s with thread }

/-- The handler was built, with the checker `checker`. -/
def Built (s : ServerController) (checker : Option IHttpAuthObserver) : Prop :=
  s.thread.loop.Built checker

/-- Every handler that was built has the controller's own checker. -/
def PassesOn (s : ServerController) : Prop := ∀ checker, s.Built checker → checker = s.auth_checker_

variable {s s' : ServerController}

theorem passesOn_new (auth_checker : Option IHttpAuthObserver) : (new auth_checker).PassesOn := by
  intro checker hb
  obtain hb | hb := hb
  · cases hb
  · cases hb

theorem PassesOn.step {e : ControlEvent} (h : s.PassesOn) (hs : s.step e = some s') :
    s'.PassesOn ∧ s'.auth_checker_ = s.auth_checker_ := by
  obtain ⟨thread, ht, rfl⟩ := Option.map_eq_some_iff.1 hs
  refine ⟨?_, rfl⟩
  intro checker hb
  obtain hc | hb := ControlledLoop.step_built ht hb
  · exact (Option.some.inj hc).symm
  · exact h checker hb

end ServerController

/-- Where the main thread is: before the constructor has ended, before `connect`, waiting for an
event, or in `disConnect` for a new configuration. -/
inductive MainPc
  | created | constructed | waiting
  | disconnecting (config : HttpConfig)

/-- The controller of a device and its two threads: `inner` is the thread of the controller
itself. -/
structure NetworkController where
  auth_checker_ : Option IHttpAuthObserver
  server_ : Option ServerController
  config_ : HttpConfig
  main : MainPc
  inner : LoopController Unit

inductive NetworkEvent
  | construct (config : HttpConfig)
  | connect
  | configChanged (config : HttpConfig)
  | disConnect (e : ControlEvent)
  | reconnect
  | inner (e : ExecEvent)
  | server (e : ExecEvent)

namespace NetworkController
variable (net : NetTypes) (checker : IHttpAuthObserver)

def init (config : HttpConfig) : NetworkController := ⟨none, none, config, .created, .init⟩

/-- Whether `connect` makes a server; a type without a server is `NOTREACHED`. -/
def makesServer (config : HttpConfig) : Bool :=
  if config.server_type = .FASTO_SERVER then true
  else config.server_type = .EXTERNAL_SERVER && net.IsValid config.external_host

def connect (s : NetworkController) : NetworkController :=
  match s.server_ with
  | some _ => s
  | none =>
    if makesServer net s.config_ then { s with server_ := some (.new s.auth_checker_) } else s

/-- The steps of `stop` and `join` in `disConnect`; a null server has none. -/
def stopServer (e : ControlEvent) (s : NetworkController) : Option NetworkController :=
  match e with
  | .testLoop | .Stop | .join =>
    s.server_.bind fun server => (server.step e).map fun server => { s with server_ := some server }
  | _ => none

/-- `disConnect` is over when there was no server, or its thread has been joined. -/
def disconnected (s : NetworkController) : Bool :=
  s.server_.all (·.thread.control = .joined)

/-- A step of the inner thread. Its `CreateHandler` makes the checker before it returns the
handler, and its `CreateServer` always makes a server. -/
def innerStep (e : ExecEvent) (s : NetworkController) : Option NetworkController :=
  if e = .CreateServer false then none
  else
    (s.inner.execStep (some ()) e).map fun inner =>
      if e = .CreateHandler then { s with inner, auth_checker_ := some checker }
      else { s with inner }

def step (s : NetworkController) : NetworkEvent → Option NetworkController
  | .construct config =>
    match s.main with
    | .created =>
      s.inner.start.map fun inner => { s with config_ := config, main := .constructed, inner }
    | _ => none
  | .connect =>
    match s.main with
    | .constructed => some { s.connect net with main := .waiting }
    | _ => none
  | .configChanged config =>
    match s.main with
    | .waiting => some { s with main := .disconnecting config }
    | _ => none
  | .disConnect e =>
    match s.main with
    | .disconnecting _ => s.stopServer e
    | _ => none
  | .reconnect =>
    match s.main with
    | .disconnecting config =>
      if s.disconnected then
        some (connect net { s with server_ := none, config_ := config, main := .waiting })
      else none
    | _ => none
  | .inner e => s.innerStep checker e
  | .server e =>
    s.server_.bind fun server =>
      (server.step (.exec e)).map fun server => { s with server_ := some server }

/-- A handler that was built has a checker. -/
def Checked (s : NetworkController) : Prop :=
  ∀ server built, s.server_ = some server → server.Built built → built ≠ none

/-- A server is made after the inner thread has run `CreateHandler`. -/
def ConnectsLate (s : NetworkController) : NetworkEvent → Prop
  | .connect => makesServer net s.config_ = true → s.inner.exec ≠ .entered
  | .reconnect => ∀ config, s.main = .disconnecting config → makesServer net config = true →
      s.inner.exec ≠ .entered
  | _ => True

/-- The inner thread leaves a checker behind, and a server has the one it was made with. -/
structure Guarded (s : NetworkController) : Prop where
  checker : s.inner.exec = .created ∨ s.inner.exec = .entered ∨ s.auth_checker_ ≠ none
  started : s.inner.exec = .created → s.main = .created
  server : ∀ server, s.server_ = some server → server.auth_checker_ ≠ none ∧ server.PassesOn

/-- What a step does, by its event. -/
inductive Change (s : NetworkController) : NetworkEvent → NetworkController → Prop
  | construct (config : HttpConfig) (hmain : s.main = .created) (hpc : s.inner.exec = .created) :
    Change s (.construct config)
      { s with config_ := config, main := .constructed, inner := { s.inner with exec := .entered } }
  | connect (hmain : s.main = .constructed) :
    Change s .connect { s.connect net with main := .waiting }
  | configChanged (config : HttpConfig) (hmain : s.main = .waiting) :
    Change s (.configChanged config) { s with main := .disconnecting config }
  | disConnect {server server' : ServerController} (e : ControlEvent) (config : HttpConfig)
    (hmain : s.main = .disconnecting config) (he : e = .testLoop ∨ e = .Stop ∨ e = .join)
    (hsrv : s.server_ = some server) (hstep : server.step e = some server') :
    Change s (.disConnect e) { s with server_ := some server' }
  | reconnect (config : HttpConfig) (hmain : s.main = .disconnecting config)
    (hjoined : s.disconnected = true) :
    Change s .reconnect
      (connect net { s with server_ := none, config_ := config, main := .waiting })
  | inner {s' : NetworkController} (e : ExecEvent) (hstep : s.innerStep checker e = some s') :
    Change s (.inner e) s'
  | server {server server' : ServerController} (e : ExecEvent) (hsrv : s.server_ = some server)
    (hstep : server.step (.exec e) = some server') :
    Change s (.server e) { s with server_ := some server' }

variable {net} {checker} {s s' : NetworkController}

theorem step_change {e : NetworkEvent} (hs : step net checker s e = some s') :
    Change net checker s e s' := by
  cases e with
  | construct config =>
    simp only [step] at hs
    split at hs
    · rename_i hmain
      obtain ⟨inner, hin, rfl⟩ := Option.map_eq_some_iff.1 hs
      obtain ⟨hpc, rfl⟩ := LoopController.start_eq hin
      exact .construct config hmain hpc
    · cases hs
  | connect =>
    simp only [step] at hs
    split at hs
    · rename_i hmain
      cases hs
      exact .connect hmain
    · cases hs
  | configChanged config =>
    simp only [step] at hs
    split at hs
    · rename_i hmain
      cases hs
      exact .configChanged config hmain
    · cases hs
  | disConnect e =>
    simp only [step] at hs
    split at hs
    · rename_i config hmain
      cases e with
      | testLoop | Stop | join =>
        obtain ⟨server, hsrv, hs⟩ := Option.bind_eq_some_iff.1 hs
        obtain ⟨server', hstep, rfl⟩ := Option.map_eq_some_iff.1 hs
        exact .disConnect _ config hmain (by simp) hsrv hstep
      | start | exec _ => cases hs
    · cases hs
  | reconnect =>
    simp only [step] at hs
    split at hs
    · rename_i config hmain
      split at hs
      · rename_i hjoined
        cases hs
        exact .reconnect config hmain hjoined
      · cases hs
    · cases hs
  | inner e => exact .inner e hs
  | server e =>
    obtain ⟨server, hsrv, hs⟩ := Option.bind_eq_some_iff.1 hs
    obtain ⟨server', hstep, rfl⟩ := Option.map_eq_some_iff.1 hs
    exact .server e hsrv hstep

theorem guarded_init (config : HttpConfig) : Guarded (init config) :=
  ⟨.inl rfl, fun _ => rfl, nofun⟩

theorem Guarded.checked (h : Guarded s) : Checked s := by
  intro server built hs hb
  obtain ⟨hne, hp⟩ := h.server server hs
  rw [hp built hb]
  exact hne

theorem connect_eq (net : NetTypes) (s : NetworkController) :
    s.connect net = { s with server_ := (s.connect net).server_ } := by
  rw [NetworkController.connect]
  split
  · rfl
  · split <;> rfl

/-- A server that is made when the inner thread is past `CreateHandler` has a checker. -/
theorem Guarded.connect (h : Guarded s) (hc : s.inner.exec ≠ .created)
    (hlate : makesServer net s.config_ = true → s.inner.exec ≠ .entered) :
    Guarded (s.connect net) := by
  rw [NetworkController.connect]
  split
  · exact h
  split
  · rename_i hmakes
    refine ⟨h.checker, h.started, ?_⟩
    intro server hs
    cases hs
    obtain hpc | hpc | hne := h.checker
    · exact absurd hpc hc
    · exact absurd hpc (hlate hmakes)
    · exact ⟨hne, ServerController.passesOn_new _⟩
  · exact h

theorem Guarded.main (h : Guarded s) {pc : MainPc} (hc : s.inner.exec ≠ .created) :
    Guarded { s with main := pc } :=
  ⟨h.checker, fun hpc => absurd hpc hc, h.server⟩

/-- A step of the server's thread or of `stop` leaves its checker. -/
theorem Guarded.serverStep {server server' : ServerController} {e : ControlEvent} (h : Guarded s)
    (hs : s.server_ = some server) (he : server.step e = some server') :
    Guarded { s with server_ := some server' } := by
  obtain ⟨hne, hp⟩ := h.server server hs
  obtain ⟨hp', heq⟩ := hp.step he
  refine ⟨h.checker, h.started, ?_⟩
  intro server'' hs''
  cases hs''
  exact ⟨heq ▸ hne, hp'⟩

theorem Guarded.innerStep {e : ExecEvent} (h : Guarded s) (hs : s.innerStep checker e = some s') :
    Guarded s' := by
  rw [NetworkController.innerStep] at hs
  split at hs
  · cases hs
  obtain ⟨inner, hin, rfl⟩ := Option.map_eq_some_iff.1 hs
  have hnot : inner.exec ≠ .created := by
    cases LoopController.execStep_change hin <;> exact nofun
  split
  · exact ⟨.inr (.inr nofun), fun hpc => absurd hpc hnot, h.server⟩
  · rename_i he
    refine ⟨?_, fun hpc => absurd hpc hnot, h.server⟩
    obtain hpc | hpc | hne := h.checker
    · cases LoopController.execStep_change hin with
      | created _ hpc' | noHandler hpc' | assigned _ hpc' | server hpc' | noServer hpc'
      | loop hpc' | runs hpc' | returns hpc' => cases hpc.symm.trans hpc'
    · cases LoopController.execStep_change hin with
      | created | noHandler => exact absurd rfl he
      | assigned _ hpc' | server hpc' | noServer hpc' | loop hpc' | runs hpc' | returns hpc' =>
        cases hpc.symm.trans hpc'
    · exact .inr (.inr hne)

theorem Guarded.step {e : NetworkEvent} (h : Guarded s) (hlate : ConnectsLate net s e)
    (hs : step net checker s e = some s') : Guarded s' := by
  have hstarted : s.main ≠ .created → s.inner.exec ≠ .created := mt h.started
  cases step_change hs with
  | construct config hmain hpc => exact ⟨.inr (.inl rfl), nofun, h.server⟩
  | connect hmain =>
    have hc : s.inner.exec ≠ .created := hstarted (by rw [hmain]; exact nofun)
    apply (h.connect hc hlate).main
    rwa [connect_eq]
  | configChanged config hmain => exact h.main (hstarted (by rw [hmain]; exact nofun))
  | disConnect e config hmain he hsrv hstep => exact h.serverStep hsrv hstep
  | reconnect config hmain hjoined =>
    have hc : s.inner.exec ≠ .created := hstarted (by rw [hmain]; exact nofun)
    apply Guarded.connect
    · exact ⟨h.checker, fun hpc => absurd hpc hc, nofun⟩
    · exact hc
    · exact hlate config hmain
  | inner e hstep => exact h.innerStep hstep
  | server e hsrv hstep => exact h.serverStep hsrv hstep

/-- Along a run in which every server is made after the inner thread has run `CreateHandler`, no
handler is built without a checker. -/
theorem always_checked (net : NetTypes) (checker : IHttpAuthObserver) (config : HttpConfig)
    (es : List NetworkEvent)
    (h : Along (step net checker) (fun s e _ => ConnectsLate net s e) (init config) es) :
    Always (step net checker) Checked (init config) es := by
  apply h.always (I := Guarded) (guarded_init config) (fun _ hg => hg.checked)
  intro s e s' hg hs hlate
  exact hg.step hlate hs

def localConfig : HttpConfig :=
  ⟨⟨"localhost".toList, 8080⟩, "login".toList, "password".toList, true, ⟨[], 0⟩, .FASTO_SERVER⟩

/-- `connect` after the inner thread has made the checker. -/
def connectLater : List NetworkEvent :=
  [.construct localConfig, .inner .CreateHandler, .connect, .server .CreateHandler]

theorem always_checked_connectLater :
    Always (step .plain (HttpAuthObserver .plain fun _ => localConfig)) Checked
      (init localConfig) connectLater := by
  apply always_checked
  apply Along.cons rfl trivial
  apply Along.cons rfl trivial
  apply Along.cons rfl fun _ => nofun
  apply Along.cons rfl trivial
  trivial

/-- Before the inner thread has run `CreateHandler` there is no checker, and before the first
`connect` there is no server. -/
structure Early (s : NetworkController) : Prop where
  checker : s.inner.exec = .created ∨ s.inner.exec = .entered → s.auth_checker_ = none
  server : s.main = .created ∨ s.main = .constructed → s.server_ = none

theorem early_init (config : HttpConfig) : Early (init config) := ⟨fun _ => rfl, fun _ => rfl⟩

theorem Early.innerStep {e : ExecEvent} (h : Early s) (hs : s.innerStep checker e = some s') :
    Early s' := by
  rw [NetworkController.innerStep] at hs
  split at hs
  · cases hs
  obtain ⟨inner, hin, rfl⟩ := Option.map_eq_some_iff.1 hs
  have hnot : ¬ (inner.exec = .created ∨ inner.exec = .entered) := by
    cases LoopController.execStep_change hin <;> exact nofun
  split
  · exact ⟨fun hpc => absurd hpc hnot, h.server⟩
  · exact ⟨fun hpc => absurd hpc hnot, h.server⟩

theorem Early.serverStep {server : ServerController} (h : Early s) (server' : ServerController)
    (hs : s.server_ = some server) : Early { s with server_ := some server' } := by
  refine ⟨h.checker, ?_⟩
  intro hmain
  have hnone := h.server hmain
  rw [hs] at hnone
  cases hnone

theorem Early.step {e : NetworkEvent} (h : Early s) (hs : step net checker s e = some s') :
    Early s' := by
  cases step_change hs with
  | construct config hmain hpc =>
    exact ⟨fun _ => h.checker (.inl hpc), fun _ => h.server (.inl hmain)⟩
  | connect hmain =>
    rw [connect_eq]
    exact ⟨h.checker, nofun⟩
  | configChanged config hmain => exact ⟨h.checker, nofun⟩
  | disConnect e config hmain he hsrv hstep => exact h.serverStep _ hsrv
  | reconnect config hmain hjoined =>
    rw [connect_eq]
    exact ⟨h.checker, nofun⟩
  | inner e hstep => exact h.innerStep hstep
  | server e hsrv hstep => exact h.serverStep _ hsrv

/-- A server that is made too early builds its handler without a checker, so no weaker condition
on `connect` would do. -/
theorem early_unchecked (config : HttpConfig) (es : List NetworkEvent) {e : NetworkEvent}
    (hr : run (step net checker) (init config) es = some s)
    (hearly : ¬ ConnectsLate net s e) (hs : step net checker s e = some s') :
    ∃ t, step net checker s' (.server .CreateHandler) = some t ∧ ¬ Checked t := by
  have hg : Early s := by
    have ha : Always (step net checker) Early (init config) es := by
      refine ⟨early_init config, ?_⟩
      apply along_of_invariant (I := Early) (early_init config)
      intro s e s' h hs
      exact ⟨h.step hs, h.step hs⟩
    exact ha.at_end hr
  -- whichever of the two makes the server, it gets the null checker
  have hnew : ∀ t : NetworkController, t.server_ = some (.new none) →
      ∃ u, step net checker t (.server .CreateHandler) = some u ∧ ¬ Checked u := by
    intro t ht
    refine ⟨_, by simp only [step, ht]; rfl, ?_⟩
    intro hch
    exact hch _ none rfl (.inl rfl) rfl
  apply hnew
  cases step_change hs with
  | connect hmain =>
    obtain ⟨hmakes, hpc⟩ := Classical.not_imp.1 hearly
    have hnone := hg.server (.inr hmain)
    have hch := hg.checker (.inr (not_not.1 hpc))
    simp only [connect, hnone, hmakes, hch, if_true]
  | reconnect config' hmain hjoined =>
    simp only [ConnectsLate, hmain, MainPc.disconnecting.injEq, forall_eq'] at hearly
    obtain ⟨hmakes, hpc⟩ := Classical.not_imp.1 hearly
    have hch := hg.checker (.inr (not_not.1 hpc))
    simp only [connect, hmakes, hch, if_true]
  | construct | configChanged | disConnect | inner | server => exact absurd trivial hearly

/-- `connect` at once after the constructor, before the inner thread has run. -/
def connectAtOnce : List NetworkEvent :=
  [.construct localConfig, .connect, .server .CreateHandler]

theorem not_always_checked_connectAtOnce :
    ¬ Always (step .plain (HttpAuthObserver .plain fun _ => localConfig)) Checked
      (init localConfig) connectAtOnce := by
  intro h
  exact h.at_end rfl _ none rfl (.inl rfl) rfl

end NetworkController

end SiteOnYourDevice
