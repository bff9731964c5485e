import SiteOnYourDevice.Transition

namespace SiteOnYourDevice
open Transition
set_option relaxedAutoImplicit false
set_option autoImplicit true

/-- Where the thread of a loop is in `exec`; what `CreateHandler` returned is not in `handler_`
before it is assigned. -/
inductive ExecPc (η : Type*)
  | created | entered
  | handlerCreated (h : η)
  | handlerAssigned | serverCreated | loopAssigned | running | returned
deriving DecidableEq

/-- The steps of `exec`, the outcome of `CreateServer` included. -/
inductive ExecEvent
  | CreateHandler | assignHandler
  | CreateServer (created : Bool)
  | assignLoop | Exec | execReturns
deriving DecidableEq

/-- An `ILoopController`; `loop_` tells whether the pointer is assigned. -/
structure LoopController (η : Type*) where
  handler_ : Option η
  loop_ : Bool
  exec : ExecPc η
deriving DecidableEq

namespace LoopController
variable {η : Type*}

def init : LoopController η := ⟨none, false, .created⟩

/-- The thread is started. -/
def start (s : LoopController η) : Option (LoopController η) :=
  match s.exec with
  | .created => some { s with exec := .entered }
  | _ => none

/-- A step of `exec`, for what `CreateHandler` returns. The handler of a server that is not made is
deleted and reset. -/
def execStep (create : Option η) (s : LoopController η) : ExecEvent → Option (LoopController η)
  | .CreateHandler =>
    match s.exec with
    | .entered =>
      match create with
      | some h => some { s with exec := .handlerCreated h }
      | none => some { s with exec := .returned }
    | _ => none
  | .assignHandler =>
    match s.exec with
    | .handlerCreated h => some { s with handler_ := some h, exec := .handlerAssigned }
    | _ => none
  | .CreateServer created =>
    match s.exec with
    | .handlerAssigned =>
      if created then some { s with exec := .serverCreated }
      else some { s with handler_ := none, exec := .returned }
    | _ => none
  | .assignLoop =>
    match s.exec with
    | .serverCreated => some { s with loop_ := true, exec := .loopAssigned }
    | _ => none
  | .Exec =>
    match s.exec with
    | .loopAssigned => some { s with exec := .running }
    | _ => none
  | .execReturns =>
    match s.exec with
    | .running => some { s with exec := .returned }
    | _ => none

/-- `Exec` is running, or nothing can keep it from running. -/
def WillRun (s : LoopController η) : Prop :=
  s.exec = .serverCreated ∨ s.exec = .loopAssigned ∨ s.exec = .running

/-- Which pointers are assigned at which place: a loop that ended still has both, one that did not
start has none. -/
def Assigned (s : LoopController η) : Prop :=
  match s.exec with
  | .created | .entered | .handlerCreated _ => s.handler_ = none ∧ s.loop_ = false
  | .handlerAssigned | .serverCreated => s.handler_.isSome = true ∧ s.loop_ = false
  | .loopAssigned | .running => s.handler_.isSome = true ∧ s.loop_ = true
  | .returned => s.handler_.isSome = s.loop_

/-- The handler `h` was built, and is there. -/
def Built (s : LoopController η) (h : η) : Prop := s.exec = .handlerCreated h ∨ s.handler_ = some h

variable {create : Option η} {s s' : LoopController η}

/-- What a step of `exec` does, by the places it can start from. -/
inductive ExecChange (create : Option η) (s : LoopController η) :
    ExecEvent → LoopController η → Prop
  | created (hand : η) (hpc : s.exec = .entered) (hc : create = some hand) :
    ExecChange create s .CreateHandler { s with exec := .handlerCreated hand }
  | noHandler (hpc : s.exec = .entered) (hc : create = none) :
    ExecChange create s .CreateHandler { s with exec := .returned }
  | assigned (hand : η) (hpc : s.exec = .handlerCreated hand) :
    ExecChange create s .assignHandler
      { s with handler_ := some hand, exec := .handlerAssigned }
  | server (hpc : s.exec = .handlerAssigned) :
    ExecChange create s (.CreateServer true) { s with exec := .serverCreated }
  | noServer (hpc : s.exec = .handlerAssigned) :
    ExecChange create s (.CreateServer false) { s with handler_ := none, exec := .returned }
  | loop (hpc : s.exec = .serverCreated) :
    ExecChange create s .assignLoop { s with loop_ := true, exec := .loopAssigned }
  | runs (hpc : s.exec = .loopAssigned) : ExecChange create s .Exec { s with exec := .running }
  | returns (hpc : s.exec = .running) :
    ExecChange create s .execReturns { s with exec := .returned }

theorem execStep_change {e : ExecEvent} (h : s.execStep create e = some s') :
    ExecChange create s e s' := by
  cases e with
  | CreateHandler =>
    simp only [execStep] at h
    split at h
    · rename_i hpc
      split at h
      · rename_i hand
        cases h
        exact .created hand hpc rfl
      · cases h
        exact .noHandler hpc rfl
    · cases h
  | assignHandler =>
    simp only [execStep] at h
    split at h
    · rename_i hand hpc
      cases h
      exact .assigned hand hpc
    · cases h
  | CreateServer created =>
    simp only [execStep] at h
    split at h
    · rename_i hpc
      cases created with
      | true =>
        cases h
        exact .server hpc
      | false =>
        cases h
        exact .noServer hpc
    · cases h
  | assignLoop =>
    simp only [execStep] at h
    split at h
    · rename_i hpc
      cases h
      exact .loop hpc
    · cases h
  | Exec =>
    simp only [execStep] at h
    split at h
    · rename_i hpc
      cases h
      exact .runs hpc
    · cases h
  | execReturns =>
    simp only [execStep] at h
    split at h
    · rename_i hpc
      cases h
      exact .returns hpc
    · cases h

theorem start_eq (h : s.start = some s') : s.exec = .created ∧ s' = { s with exec := .entered } := by
  simp only [start] at h
  split at h
  · rename_i hpc
    cases h
    exact ⟨hpc, rfl⟩
  · cases h

theorem execStep_built {e : ExecEvent} {h : η} (hs : s.execStep create e = some s')
    (hb : s'.Built h) : create = some h ∨ s.Built h := by
  cases execStep_change hs with
  | created hand hpc hc =>
    obtain hb | hb := hb
    · cases hb
      exact .inl hc
    · exact .inr (.inr hb)
  | assigned hand hpc =>
    obtain hb | hb := hb
    · cases hb
    · cases hb
      exact .inr (.inl hpc)
  | noServer hpc =>
    obtain hb | hb := hb
    · cases hb
    · cases hb
  | noHandler | server | loop | runs | returns =>
    obtain hb | hb := hb
    · cases hb
    · exact .inr (.inr hb)

theorem start_built {h : η} (hs : s.start = some s') (hb : s'.Built h) : s.Built h := by
  obtain ⟨_, rfl⟩ := start_eq hs
  obtain hb | hb := hb
  · cases hb
  · exact .inr hb

theorem assigned_init : Assigned (init : LoopController η) := ⟨rfl, rfl⟩

theorem Assigned.start (ha : Assigned s) (h : s.start = some s') : Assigned s' := by
  obtain ⟨hpc, rfl⟩ := start_eq h
  simp only [Assigned, hpc] at ha
  exact ha

theorem Assigned.execStep {e : ExecEvent} (ha : Assigned s) (h : s.execStep create e = some s') :
    Assigned s' := by
  cases execStep_change h with
  | created hand hpc hc =>
    simp only [Assigned, hpc] at ha
    exact ha
  | noHandler hpc hc =>
    simp only [Assigned, hpc] at ha
    obtain ⟨hhand, hloop⟩ := ha
    simp only [Assigned, hhand, hloop, Option.isSome_none]
  | assigned hand hpc =>
    simp only [Assigned, hpc] at ha
    exact ⟨rfl, ha.2⟩
  | server hpc =>
    simp only [Assigned, hpc] at ha
    exact ha
  | noServer hpc =>
    simp only [Assigned, hpc] at ha
    exact ha.2.symm
  | loop hpc =>
    simp only [Assigned, hpc] at ha
    exact ⟨ha.1, rfl⟩
  | runs hpc =>
    simp only [Assigned, hpc] at ha
    exact ha
  | returns hpc =>
    simp only [Assigned, hpc] at ha
    exact ha.1.trans ha.2.symm

end LoopController

/-- Where the controlling thread is: `stop` has found `loop_` assigned, or it waits in `join`. -/
inductive ControlPc
  | created | started | stopping | joining | joined
deriving DecidableEq

/-- A loop and the thread that starts and stops it. `stopped` tells whether `Stop` was called. -/
structure ControlledLoop (η : Type*) where
  loop : LoopController η
  control : ControlPc
  stopped : Bool
deriving DecidableEq

/-- `start`, a step of the other thread, and the three steps of `stop`. -/
inductive ControlEvent
  | start
  | exec (e : ExecEvent)
  | testLoop | Stop | join
deriving DecidableEq

namespace ControlledLoop
variable {η : Type*}

def init : ControlledLoop η := ⟨.init, .created, false⟩

def step (create : Option η) (s : ControlledLoop η) : ControlEvent → Option (ControlledLoop η)
  | .start =>
    if s.control = .created then
      s.loop.start.map fun loop => { s with loop, control := .started }
    else none
  | .exec e => (s.loop.execStep create e).map fun loop => { s with loop }
  | .testLoop =>
    if s.control = .started then
      some { s with control := if s.loop.loop_ then .stopping else .joining }
    else none
  | .Stop =>
    if s.control = .stopping then some { s with control := .joining, stopped := true } else none
  | .join =>
    match s.control, s.loop.exec with
    | .joining, .returned => some { s with control := .joined }
    | _, _ => none

/-- In `join`, for a loop that runs or will run and was not told to stop. -/
def WaitsUntold (s : ControlledLoop η) : Prop :=
  s.control = .joining ∧ s.stopped = false ∧ s.loop.WillRun

/-- `stop` does not test `loop_` between `CreateServer` and the assignment, and no server is made
after it has found none. -/
def StopsInTime (s : ControlledLoop η) : ControlEvent → Prop
  | .testLoop => s.loop.exec ≠ .serverCreated
  | .exec (.CreateServer true) => s.control = .joining → s.stopped = true
  | _ => True

/-- `Stop` is called in `stop` alone, and the pointers are the ones of their places. -/
structure Ordered (s : ControlledLoop η) : Prop where
  assigned : s.loop.Assigned
  untold : s.control = .created ∨ s.control = .started → s.stopped = false

/-- What a step does, by its event. -/
inductive Change (create : Option η) (s : ControlledLoop η) :
    ControlEvent → ControlledLoop η → Prop
  | start {loop : LoopController η} (hc : s.control = .created)
    (hl : s.loop.start = some loop) : Change create s .start { s with loop, control := .started }
  | exec {loop : LoopController η} (e : ExecEvent) (hl : s.loop.execStep create e = some loop) :
    Change create s (.exec e) { s with loop }
  | assigned (hc : s.control = .started) (hl : s.loop.loop_ = true) :
    Change create s .testLoop { s with control := .stopping }
  | unassigned (hc : s.control = .started) (hl : s.loop.loop_ = false) :
    Change create s .testLoop { s with control := .joining }
  | Stop (hc : s.control = .stopping) :
    Change create s .Stop { s with control := .joining, stopped := true }
  | join (hc : s.control = .joining) (hpc : s.loop.exec = .returned) :
    Change create s .join { s with control := .joined }

variable {create : Option η} {s s' : ControlledLoop η}

theorem step_change {e : ControlEvent} (hs : step create s e = some s') :
    Change create s e s' := by
  cases e with
  | start =>
    simp only [step] at hs
    split at hs
    · rename_i hc
      obtain ⟨loop, hl, rfl⟩ := Option.map_eq_some_iff.1 hs
      exact .start hc hl
    · cases hs
  | exec e =>
    obtain ⟨loop, hl, rfl⟩ := Option.map_eq_some_iff.1 hs
    exact .exec e hl
  | testLoop =>
    simp only [step] at hs
    split at hs
    · rename_i hc
      cases hs
      cases hl : s.loop.loop_ with
      | true => exact .assigned hc hl
      | false => exact .unassigned hc hl
    · cases hs
  | Stop =>
    simp only [step] at hs
    split at hs
    · rename_i hc
      cases hs
      exact .Stop hc
    · cases hs
  | join =>
    simp only [step] at hs
    split at hs
    · rename_i hc hpc
      cases hs
      exact .join hc hpc
    · cases hs

/-- Only `CreateServer` makes a loop one that will run. -/
theorem execStep_willRun {l l' : LoopController η} {e : ExecEvent}
    (h : l.execStep create e = some l') (hw : l'.WillRun) :
    l.WillRun ∨ e = .CreateServer true := by
  cases LoopController.execStep_change h with
  | created | noHandler | assigned | noServer | returns =>
    simp only [LoopController.WillRun, reduceCtorEq, or_self] at hw
  | server hpc => exact .inr rfl
  | loop hpc => exact .inl (.inl hpc)
  | runs hpc => exact .inl (.inr (.inl hpc))

theorem ordered_init : Ordered (init : ControlledLoop η) :=
  ⟨LoopController.assigned_init, fun _ => rfl⟩

theorem Ordered.step {e : ControlEvent} (ho : Ordered s) (hs : step create s e = some s') :
    Ordered s' := by
  cases step_change hs with
  | start hc hl => exact ⟨ho.assigned.start hl, fun _ => ho.untold (.inl hc)⟩
  | exec e hl => exact ⟨ho.assigned.execStep hl, ho.untold⟩
  | assigned | unassigned | Stop | join =>
    refine ⟨ho.assigned, ?_⟩
    intro hc
    simp only [reduceCtorEq, or_self] at hc

/-- Before `loop_` is assigned, a loop that will run is the one whose server has just been made. -/
theorem willRun_unassigned {l : LoopController η} (ha : l.Assigned) (hl : l.loop_ = false) :
    l.WillRun ↔ l.exec = .serverCreated := by
  constructor
  · intro hw
    obtain h | h | h := hw
    · exact h
    · simp only [LoopController.Assigned, h, hl, Bool.false_eq_true, and_false] at ha
    · simp only [LoopController.Assigned, h, hl, Bool.false_eq_true, and_false] at ha
  · intro h
    exact .inl h

theorem step_waits_iff {e : ControlEvent} (ho : Ordered s) (hw : ¬ WaitsUntold s)
    (hs : step create s e = some s') : ¬ WaitsUntold s' ↔ StopsInTime s e := by
  cases step_change hs with
  | start hc hl =>
    simp only [WaitsUntold, StopsInTime, reduceCtorEq, false_and, not_false_eq_true]
  | exec e hl =>
    rename_i loop
    by_cases he : e = .CreateServer true
    · subst he
      have hrun : loop.WillRun := by
        cases LoopController.execStep_change hl with
        | server hpc => exact .inl rfl
      constructor
      · intro hw' hc
        cases hst : s.stopped with
        | true => rfl
        | false => exact absurd ⟨hc, hst, hrun⟩ hw'
      · intro hin ⟨hc, hst, _⟩
        cases hst.symm.trans (hin hc)
    · have hin : StopsInTime s (.exec e) := by
        cases e with
        | CreateServer created =>
          cases created with
          | true => exact absurd rfl he
          | false => trivial
        | CreateHandler | assignHandler | assignLoop | Exec | execReturns => trivial
      refine ⟨fun _ => hin, ?_⟩
      intro _ ⟨hc, hst, hrun⟩
      exact hw ⟨hc, hst, (execStep_willRun hl hrun).resolve_right he⟩
  | assigned hc hl =>
    have hne : s.loop.exec ≠ .serverCreated := by
      intro h
      have ha := ho.assigned
      simp only [LoopController.Assigned, h, hl, Bool.true_eq_false, and_false] at ha
    refine ⟨fun _ => hne, ?_⟩
    rintro _ ⟨⟨⟩, _⟩
  | unassigned hc hl =>
    simp only [WaitsUntold, StopsInTime, true_and, ho.untold (.inr hc),
      willRun_unassigned ho.assigned hl, ne_eq]
  | Stop hc =>
    simp only [WaitsUntold, StopsInTime, Bool.true_eq_false, false_and, and_false,
      not_false_eq_true]
  | join hc hpc =>
    simp only [WaitsUntold, StopsInTime, reduceCtorEq, false_and, not_false_eq_true]

theorem step_built {e : ControlEvent} {h : η} (hs : step create s e = some s')
    (hb : s'.loop.Built h) : create = some h ∨ s.loop.Built h := by
  cases step_change hs with
  | start hc hl => exact .inr (LoopController.start_built hl hb)
  | exec e hl => exact LoopController.execStep_built hl hb
  | assigned | unassigned | Stop | join => exact .inr hb

/-- Along a run, `join` never waits for a loop that was not told to stop exactly when `stop` looks
at `loop_` in time. -/
theorem always_not_waits_iff (create : Option η) (es : List ControlEvent) :
    Always (step create) (fun s => ¬ WaitsUntold s) init es ↔
      Along (step create) (fun s e _ => StopsInTime s e) init es := by
  have hinit : ¬ WaitsUntold (init : ControlledLoop η) := by
    intro ⟨hc, _⟩
    cases hc
  apply always_iff_along (I := Ordered) hinit ordered_init
  intro s e s' hw ho hs
  exact ⟨step_waits_iff ho hw hs, fun _ => ho.step hs⟩

/-- `stop` at once after `start`, before the thread has made its server. -/
def stopAtOnce : List ControlEvent :=
  [.start, .testLoop, .exec .CreateHandler, .exec .assignHandler, .exec (.CreateServer true),
    .exec .assignLoop, .exec .Exec]

theorem not_always_told_stopAtOnce :
    ¬ Always (step (some ())) (fun s => ¬ WaitsUntold s) init stopAtOnce := by
  intro h
  have hrun : run (step (some ())) init stopAtOnce =
      some ⟨⟨some (), true, .running⟩, .joining, false⟩ := by
    decide
  exact h.at_end hrun ⟨rfl, rfl, .inr (.inr rfl)⟩

end ControlledLoop

end SiteOnYourDevice
