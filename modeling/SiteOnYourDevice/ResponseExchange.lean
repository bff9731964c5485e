import SiteOnYourDevice.PendingRequests
import Mathlib.Data.List.Nodup
import Mathlib.Data.List.Perm.Basic

namespace SiteOnYourDevice
open CString Sds Transition InnerServerHandlerHost
set_option relaxedAutoImplicit false
set_option autoImplicit true

/-- The inner server with its devices: the requests that were written to a device and have no
response yet, and the responses so far, each as the text that is published for it. -/
structure Exchange where
  server : InnerServerHandlerHost
  outstanding : List RequestCallback
  answers : List Str

namespace Exchange

def init : Exchange := ⟨.init, [], []⟩

/-- A step of the server on its own, or the arrival of the response to an outstanding request. -/
inductive Event
  | server (e : InnerServerHandlerHost.Event)
  | answer (rc : RequestCallback) (read : Str) (env : Env)

/-- The read in which the response to `rc` arrives. -/
def arrival (rc : RequestCallback) (read : Str) (env : Env) : InnerServerHandlerHost.Event :=
  .dataReceived rc.fclient read env

/-- The frame is a response with the id of the request and at least one argument. -/
def Answers (f : Received) (rc : RequestCallback) : Prop :=
  f.seq = RESPONCE_COMMAND ∧ f.id = rc.request_id_ ∧ f.argv.getD [] ≠ []

instance (f : Received) (rc : RequestCallback) : Decidable (Answers f rc) :=
  inferInstanceAs (Decidable (_ ∧ _ ∧ _))

def step (net : NetTypes) (x : Exchange) : Event → Option Exchange
  | .server e =>
    (InnerServerHandlerHost.step net x.server e).map fun s' =>
      { x with
        server := s'
        outstanding := x.outstanding ++
          if x.server.listener = none then s'.listener.toList else [] }
  | .answer rc read env =>
    match received (arrival rc read env) with
    | none => none
    | some f =>
      if rc ∈ x.outstanding ∧ Answers f rc then
        (InnerServerHandlerHost.step net x.server (arrival rc read env)).map fun s' =>
          { server := s'
            outstanding := x.outstanding.erase rc
            answers := x.answers ++ [joined f.id (f.argv.getD [])] }
      else none

/-- The outputs published for requests, in order. -/
def outputs (s : InnerServerHandlerHost) : List Str :=
  s.commands_out.filterMap fun p => p.answers.map fun _ => p.msg

/-- As many outputs as responses, counting repetitions. -/
def Balanced (x : Exchange) : Prop := (outputs x.server).Perm x.answers

/-- A response matches one pending request, any other frame none. -/
def MatchesOne (x : Exchange) : Event → Prop
  | .server e => ∀ f, received e = some f → x.server.matched f = []
  | .answer rc read env =>
    ∀ f, received (arrival rc read env) = some f → (x.server.matched f).length = 1

variable {net : NetTypes} {s s' : InnerServerHandlerHost} {x x' : Exchange}

theorem outputs_same (h : SameRequests s s') : outputs s' = outputs s := by
  rw [outputs, outputs, h.commands_out]

theorem outputs_processRequest (s : InnerServerHandlerHost) (f : Received) :
    outputs (s.processRequest f.id f.argv) =
      outputs s ++ List.replicate (s.matched f).length (joined f.id (f.argv.getD [])) := by
  have hmap : (s.matched f).map (fun rc => joined rc.request_id_ (f.argv.getD [])) =
      List.replicate (s.matched f).length (joined f.id (f.argv.getD [])) := by
    rw [← List.map_const']
    apply List.map_congr_left
    intro rc hrc
    rw [(mem_matched.1 hrc).2]
  rw [outputs, outputs, processRequest_eq, List.filterMap_append, ← hmap]
  congr 1
  rw [List.filterMap_map]
  exact congrFun List.filterMap_eq_map' _

theorem outputs_handled (h : Handled s s') : outputs s' = outputs s := by
  cases h with
  | answered ws msg =>
    rw [outputs, List.filterMap_append]
    exact List.append_nil _
  | forwarded id fclient data _ => rfl

/-- A frame publishes the same text for each request it matches. -/
theorem outputs_frame {e : InnerServerHandlerHost.Event} {f : Received}
    (hs : InnerServerHandlerHost.step net s e = some s') (hr : received e = some f) :
    outputs s' =
      outputs s ++ List.replicate (s.matched f).length (joined f.id (f.argv.getD [])) :=
  (outputs_same (frame_same hs hr)).trans (outputs_processRequest s f)

theorem outputs_no_frame {e : InnerServerHandlerHost.Event}
    (hs : InnerServerHandlerHost.step net s e = some s') (hr : received e = none) :
    outputs s' = outputs s := by
  cases step_requests hs with
  | frame f' hr' hsame =>
    rw [hr] at hr'
    cases hr'
  | quiet _ hsame => exact outputs_same hsame
  | message _ _ hh => exact outputs_handled hh
  | subscribe _ rc _ he =>
    rw [he]
    rfl

theorem step_answer {rc : RequestCallback} {read : Str} {env : Env}
    (hs : step net x (.answer rc read env) = some x') :
    ∃ f, received (arrival rc read env) = some f ∧ rc ∈ x.outstanding ∧ Answers f rc ∧
      InnerServerHandlerHost.step net x.server (arrival rc read env) = some x'.server ∧
      x'.outstanding = x.outstanding.erase rc ∧
      x'.answers = x.answers ++ [joined f.id (f.argv.getD [])] := by
  simp only [step] at hs
  split at hs
  · cases hs
  · rename_i f hf
    split at hs
    · rename_i hrc
      obtain ⟨s', hs', rfl⟩ := Option.map_eq_some_iff.1 hs
      exact ⟨f, hf, hrc.1, hrc.2, hs', rfl, rfl⟩
    · cases hs

theorem step_server {e : InnerServerHandlerHost.Event} (hs : step net x (.server e) = some x') :
    InnerServerHandlerHost.step net x.server e = some x'.server ∧
      x'.outstanding = x.outstanding ++
        (if x.server.listener = none then x'.server.listener.toList else []) ∧
      x'.answers = x.answers := by
  obtain ⟨s', hs', rfl⟩ := Option.map_eq_some_iff.1 hs
  exact ⟨hs', rfl, rfl⟩

theorem balanced_step {e : Event} (hb : Balanced x) (hs : step net x e = some x') :
    Balanced x' ↔ MatchesOne x e := by
  cases e with
  | server e =>
    obtain ⟨hs', _, hans⟩ := step_server hs
    rw [Balanced, hans]
    cases hr : received e with
    | none =>
      rw [outputs_no_frame hs' hr]
      refine ⟨fun _ f hf => ?_, fun _ => hb⟩
      rw [hr] at hf
      cases hf
    | some f =>
      rw [outputs_frame hs' hr]
      constructor
      · intro hp f' hf'
        have hlen := hp.length_eq.trans hb.length_eq.symm
        rw [List.length_append, List.length_replicate] at hlen
        obtain rfl : f = f' := Option.some.inj (hr.symm.trans hf')
        apply List.eq_nil_of_length_eq_zero
        omega
      · intro hm
        rw [hm f hr, List.length_nil, List.replicate_zero, List.append_nil]
        exact hb
  | answer rc read env =>
    obtain ⟨f, hr, _, _, hs', _, hans⟩ := step_answer hs
    rw [Balanced, hans, outputs_frame hs' hr]
    constructor
    · intro hp f' hf'
      have hlen := hp.length_eq
      have hbal := hb.length_eq
      simp only [List.length_append, List.length_replicate, List.length_singleton] at hlen
      obtain rfl : f = f' := Option.some.inj (hr.symm.trans hf')
      omega
    · intro hm
      rw [hm f hr]
      exact hb.append_right _

/-- The outputs published for requests are the responses of the devices, counting repetitions,
in every state of a run exactly when each response matches one pending request on its arrival
and no other frame matches any. -/
theorem always_balanced_iff (net : NetTypes) (es : List Event) :
    Always (step net) Balanced init es ↔
      Along (step net) (fun x e _ => MatchesOne x e) init es := by
  have hinit : Balanced init := List.Perm.refl []
  apply always_iff_along (I := fun _ => True) hinit trivial
  intro x e x' hb _ hs
  exact ⟨balanced_step hb hs, fun _ => trivial⟩

/-- Two requests with one id for one device; its responses come one after the other. -/
def sameId : List Event :=
  [.server (.accepted .calm),
    .server (.dataReceived 0 "1 00000000 ok who_are_you u:p:one:80\r\n".toList .calm),
    .server (.handleMessage "one 7 ping".toList .calm), .server .subscribeRequest,
    .server (.handleMessage "one 7 plz_config".toList .calm), .server .subscribeRequest,
    .answer ⟨"7".toList, 0, 2⟩ "1 7 ok ping pong\r\n".toList .calm]

theorem not_always_balanced_sameId : ¬ Always (step .plain) Balanced init sameId := by
  intro h
  have hrun : (run (step .plain) init sameId).map (fun x => (outputs x.server, x.answers)) =
      some (["7 ok ping pong".toList, "7 ok ping pong".toList], ["7 ok ping pong".toList]) := by
    decide
  obtain ⟨x, hx, he⟩ := Option.map_eq_some_iff.1 hrun
  obtain ⟨hout, hans⟩ := Prod.mk.inj he
  have hb := (h.at_end hx).length_eq
  rw [hout, hans] at hb
  cases hb

/-- A response is published, for its own request and no other, by the step that receives it, and
its request is not pending afterwards nor about to be. -/
def PublishedAtOnce (x : Exchange) (e : Event) (x' : Exchange) : Prop :=
  match e with
  | .server _ => True
  | .answer rc _ _ =>
    ∃ msg, x'.answers = x.answers ++ [msg] ∧ published x.server x'.server = [⟨msg, some rc⟩] ∧
      rc ∉ x'.server.subscribed_requests_ ∧ x'.server.listener ≠ some rc

/-- When a response arrives its request is the one pending request with its id. -/
def PendingAlone (x : Exchange) : Event → Prop
  | .server _ => True
  | .answer rc _ _ =>
    (x.server.subscribed_requests_.filter fun r => rc.request_id_ = r.request_id_) = [rc]

/-- Every callback stands for a write that was made, the one the listener holds for a later one
than those of the pending requests. -/
structure Ordered (s : InnerServerHandlerHost) : Prop where
  pending : ∀ rc ∈ s.subscribed_requests_, rc.written < s.writes.length
  held : ∀ rc, s.listener = some rc → rc.written < s.writes.length
  later : ∀ rc ∈ s.subscribed_requests_, ∀ r, s.listener = some r → rc.written < r.written

theorem Ordered.same (h : Ordered s) (hs : SameRequests s s') : Ordered s' := by
  have hlen := hs.writes.length_le
  refine ⟨?_, ?_, ?_⟩
  · intro rc hrc
    rw [hs.subscribed] at hrc
    exact (h.pending rc hrc).trans_le hlen
  · intro rc hrc
    rw [hs.listener] at hrc
    exact (h.held rc hrc).trans_le hlen
  · intro rc hrc r hr
    rw [hs.subscribed] at hrc
    rw [hs.listener] at hr
    exact h.later rc hrc r hr

theorem Ordered.processRequest (h : Ordered s) (f : Received) :
    Ordered (s.processRequest f.id f.argv) := by
  rw [processRequest_eq]
  refine ⟨?_, h.held, ?_⟩
  · intro rc hrc
    exact h.pending rc (List.mem_of_mem_filter hrc)
  · intro rc hrc r hr
    exact h.later rc (List.mem_of_mem_filter hrc) r hr

theorem Ordered.step {e : InnerServerHandlerHost.Event} (h : Ordered s)
    (hs : InnerServerHandlerHost.step net s e = some s') : Ordered s' := by
  cases step_requests hs with
  | quiet _ hsame => exact h.same hsame
  | frame f _ hsame => exact (h.processRequest f).same hsame
  | message _ hl hh =>
    cases hh with
    | answered ws msg =>
      have hsame : SameRequests s { s with writes := s.writes ++ ws } :=
        ⟨rfl, rfl, rfl, List.prefix_append _ _⟩
      obtain ⟨hp, hh, hlt⟩ := h.same hsame
      exact ⟨hp, hh, hlt⟩
    | forwarded id fclient data _ =>
      refine ⟨?_, ?_, ?_⟩
      · intro rc hrc
        have := h.pending rc hrc
        simp only [List.length_append, List.length_singleton]
        omega
      · intro rc hrc
        cases hrc
        simp only [List.length_append, List.length_singleton]
        omega
      · intro rc hrc r hr
        cases hr
        exact h.pending rc hrc
  | subscribe _ rc hl he =>
    subst he
    refine ⟨?_, ?_, ?_⟩
    · intro r hr
      rcases List.mem_append.1 hr with hr | hr
      · exact h.pending r hr
      · rw [List.mem_singleton.1 hr]
        exact h.held rc hl
    · intro r hr
      cases hr
    · intro r _ r' hr'
      cases hr'

theorem ordered_step {e : Event} (h : Ordered x.server) (hs : step net x e = some x') :
    Ordered x'.server := by
  cases e with
  | server e => exact h.step (step_server hs).1
  | answer rc read env =>
    obtain ⟨f, _, _, _, hs', _, _⟩ := step_answer hs
    exact h.step hs'

theorem publishedAtOnce_step {e : Event} (ho : Ordered x.server) (hs : step net x e = some x') :
    PublishedAtOnce x e x' ↔ PendingAlone x e := by
  cases e with
  | server e => exact Iff.rfl
  | answer rc read env =>
    obtain ⟨f, hr, _, ⟨_, hid, _⟩, hs', _, hans⟩ := step_answer hs
    have hframe := frame_same hs' hr
    have hpub := hframe.published_eq x.server
    rw [published_processRequest] at hpub
    have hmatched : x.server.matched f =
        x.server.subscribed_requests_.filter fun r => rc.request_id_ = r.request_id_ := by
      rw [matched, hid]
    simp only [PublishedAtOnce, PendingAlone, hpub, ← hmatched]
    constructor
    · rintro ⟨msg, _, hp, _⟩
      obtain ⟨r, hr, hp⟩ := List.map_eq_singleton_iff.1 hp
      cases hp
      exact hr
    · intro hm
      have hrc : rc ∈ x.server.matched f := hm ▸ List.mem_singleton_self rc
      obtain ⟨hin, _⟩ := mem_matched.1 hrc
      refine ⟨_, hans, ?_, ?_, ?_⟩
      · rw [hm, List.map_singleton, hid]
      · rw [hframe.subscribed, subscribed_processRequest, List.mem_filter]
        intro hmem
        exact of_decide_eq_true hmem.2 hid
      · intro hl
        rw [hframe.listener, processRequest_eq] at hl
        exact absurd (ho.later rc hin rc hl) (Nat.lt_irrefl _)

/-- Along a run every response is published on its arrival, once and for its own request, exactly
when at each arrival the request has been subscribed and no other pending one has its id. -/
theorem along_publishedAtOnce_iff (net : NetTypes) (es : List Event) :
    Along (step net) PublishedAtOnce init es ↔
      Along (step net) (fun x e _ => PendingAlone x e) init es := by
  have hinit : Ordered init.server := by
    refine ⟨?_, ?_, ?_⟩
    · intro rc hrc
      cases hrc
    · intro rc hrc
      cases hrc
    · intro rc hrc
      cases hrc
  apply along_congr_of_invariant (I := fun x => Ordered x.server) hinit
  intro x e x' ho hs
  exact ⟨publishedAtOnce_step ho hs, ordered_step ho hs⟩

/-- No request gets the id of a pending one, no frame but a response matches a pending request,
and no response arrives before its request is subscribed. -/
def Orderly (x : Exchange) (e : Event) (x' : Exchange) : Prop :=
  match e with
  | .server e =>
    (∀ f, received e = some f → x.server.matched f = []) ∧
      (x.server.listener = none → ∀ rc, x'.server.listener = some rc →
        ∀ r ∈ x.server.subscribed_requests_, rc.request_id_ ≠ r.request_id_)
  | .answer rc _ _ => x.server.listener ≠ some rc

/-- The callbacks the server has or is about to have. -/
def waiting (s : InnerServerHandlerHost) : List RequestCallback :=
  s.subscribed_requests_ ++ s.listener.toList

/-- The requests without a response are the ones waited for, all with different ids. -/
structure Tracked (x : Exchange) : Prop where
  perm : x.outstanding.Perm (waiting x.server)
  nodup : ((waiting x.server).map fun rc => rc.request_id_).Nodup

theorem waiting_same (h : SameRequests s s') : waiting s' = waiting s := by
  rw [waiting, waiting, h.subscribed, h.listener]

theorem filter_id_eq_singleton {l : List RequestCallback} {rc : RequestCallback}
    (hn : (l.map fun r => r.request_id_).Nodup) (hrc : rc ∈ l) :
    (l.filter fun r => rc.request_id_ = r.request_id_) = [rc] ∧
      (l.filter fun r => rc.request_id_ ≠ r.request_id_) = l.erase rc := by
  have hinj : ∀ r ∈ l, rc.request_id_ = r.request_id_ ↔ r = rc := by
    intro r hr
    constructor
    · intro he
      exact (List.inj_on_of_nodup_map hn hrc hr he).symm
    · rintro rfl
      rfl
  have hl : l.Nodup := hn.of_map
  constructor
  · have hfilter : (l.filter fun r => rc.request_id_ = r.request_id_) = l.filter (· = rc) := by
      apply List.filter_congr
      intro r hr
      rw [decide_eq_decide]
      exact hinj r hr
    rw [hfilter, List.filter_eq, List.count_eq_one_of_mem hl hrc]
    rfl
  · rw [hl.erase_eq_filter]
    apply List.filter_congr
    intro r hr
    rw [bne, Bool.beq_eq_decide_eq, ← decide_not, decide_eq_decide, Ne, hinj r hr]

/-- Nothing changes when the callbacks waited for stay and no new one is listened for. -/
theorem Tracked.kept (ht : Tracked x)
    (hout : x'.outstanding = x.outstanding ++
      (if x.server.listener = none then x'.server.listener.toList else []))
    (hw : waiting x'.server = waiting x.server)
    (hl : x.server.listener = none → x'.server.listener = none) : Tracked x' := by
  have hsame : x'.outstanding = x.outstanding := by
    rw [hout]
    split
    · rename_i hn
      rw [hl hn]
      exact List.append_nil _
    · exact List.append_nil _
  exact ⟨by rw [hsame, hw]; exact ht.perm, by rw [hw]; exact ht.nodup⟩

/-- A new callback with an id that no pending request has joins both lists. -/
theorem Tracked.listened (ht : Tracked x)
    (hout : x'.outstanding = x.outstanding ++
      (if x.server.listener = none then x'.server.listener.toList else []))
    (hl : x.server.listener = none)
    (hsub : x'.server.subscribed_requests_ = x.server.subscribed_requests_)
    (hnew : ∀ rc, x'.server.listener = some rc →
      ∀ r ∈ x.server.subscribed_requests_, rc.request_id_ ≠ r.request_id_) : Tracked x' := by
  have hw : waiting x.server = x.server.subscribed_requests_ := by
    rw [waiting, hl]
    exact List.append_nil _
  have hw' : waiting x'.server =
      x.server.subscribed_requests_ ++ x'.server.listener.toList := by
    rw [waiting, hsub]
  obtain ⟨hperm, hnodup⟩ := ht
  rw [hw] at hperm hnodup
  rw [if_pos hl] at hout
  refine ⟨?_, ?_⟩
  · rw [hout, hw']
    exact hperm.append_right _
  · rw [hw']
    cases hl' : x'.server.listener with
    | none =>
      rw [Option.toList_none, List.append_nil]
      exact hnodup
    | some rc =>
      rw [Option.toList_some, List.map_append, List.nodup_append]
      refine ⟨hnodup, List.nodup_singleton _, ?_⟩
      intro a ha b hb hab
      obtain ⟨r, hr, rfl⟩ := List.mem_map.1 ha
      rw [List.map_singleton, List.mem_singleton] at hb
      exact hnew rc hl' r hr (hb.symm.trans hab.symm)

/-- A step of the server alone adds a request to both lists or to none. -/
theorem tracked_server {e : InnerServerHandlerHost.Event} (ht : Tracked x)
    (hs : step net x (.server e) = some x') (ho : Orderly x (.server e) x') : Tracked x' := by
  obtain ⟨hs', hout, _⟩ := step_server hs
  cases step_requests hs' with
  | quiet _ hsame =>
    apply ht.kept hout (waiting_same hsame)
    rw [hsame.listener]
    exact id
  | frame f hr hsame =>
    have hsub : (x.server.processRequest f.id f.argv).subscribed_requests_ =
        x.server.subscribed_requests_ := by
      rw [subscribed_processRequest, List.filter_eq_self]
      intro rc hrc
      rw [decide_eq_true_iff]
      intro hid
      have hm := mem_matched.2 ⟨hrc, hid⟩
      rw [ho.1 f hr] at hm
      cases hm
    have hlis : (x.server.processRequest f.id f.argv).listener = x.server.listener := by
      rw [processRequest_eq]
    apply ht.kept hout
    · rw [waiting_same hsame, waiting, waiting, hsub, hlis]
    · rw [hsame.listener, hlis]
      exact id
  | message _ hl hh =>
    exact ht.listened hout hl hh.subscribed (ho.2 hl)
  | subscribe _ rc hl he =>
    have hw : waiting x'.server = waiting x.server := by
      rw [he, waiting, waiting, hl]
      exact List.append_nil _
    apply ht.kept hout hw
    intro hn
    rw [hl] at hn
    cases hn

theorem tracked_answer {rc : RequestCallback} {read : Str} {env : Env} (ht : Tracked x)
    (hs : step net x (.answer rc read env) = some x') (ho : Orderly x (.answer rc read env) x') :
    Tracked x' ∧ PendingAlone x (.answer rc read env) := by
  obtain ⟨f, hr, hrc, ⟨_, hid, _⟩, hs', hout, _⟩ := step_answer hs
  have hin : rc ∈ x.server.subscribed_requests_ := by
    rcases List.mem_append.1 (ht.perm.mem_iff.1 hrc) with hin | hl
    · exact hin
    · exact absurd (Option.mem_toList.1 hl) ho
  have hframe : SameRequests (x.server.processRequest f.id f.argv) x'.server :=
    frame_same hs' hr
  have hsubmap : (x.server.subscribed_requests_.map fun r => r.request_id_).Nodup := by
    have hn := ht.nodup
    rw [waiting, List.map_append] at hn
    exact hn.of_append_left
  obtain ⟨hone, hrest⟩ := filter_id_eq_singleton hsubmap hin
  have hw : waiting x'.server = (waiting x.server).erase rc := by
    rw [waiting_same hframe, waiting, waiting, List.erase_append_left _ hin, ← hrest,
      subscribed_processRequest, hid, processRequest_eq]
  refine ⟨⟨?_, ?_⟩, hone⟩
  · rw [hout, hw]
    exact ht.perm.erase rc
  · rw [hw]
    exact ht.nodup.sublist (List.erase_sublist.map _)

/-- In orderly runs the outputs are the responses and each is published on its arrival. -/
theorem orderly_run (net : NetTypes) (es : List Event) (h : Along (step net) Orderly init es) :
    Always (step net) Balanced init es ∧ Along (step net) PublishedAtOnce init es := by
  have hinit : Tracked init := ⟨List.Perm.refl [], List.nodup_nil⟩
  have hboth : Along (step net) (fun x e _ => MatchesOne x e ∧ PendingAlone x e) init es := by
    apply h.imp (I := Tracked) hinit ?_
    intro x e x' ht hs ho
    cases e with
    | server e => exact ⟨⟨ho.1, trivial⟩, tracked_server ht hs ho⟩
    | answer rc read env =>
      obtain ⟨ht', ha⟩ := tracked_answer ht hs ho
      refine ⟨⟨?_, ha⟩, ht'⟩
      intro f hf
      obtain ⟨f', hf', _, ⟨_, hid, _⟩, _⟩ := step_answer hs
      obtain rfl : f = f' := Option.some.inj (hf.symm.trans hf')
      rw [matched, hid, ha]
      rfl
  constructor
  · apply (always_balanced_iff net es).2
    exact hboth.mono fun _ _ _ hb => hb.1
  · apply (along_publishedAtOnce_iff net es).2
    exact hboth.mono fun _ _ _ hb => hb.2

/-- A request that is written and not subscribed yet when its response arrives. -/
def writtenOnly : List Event :=
  [.server (.accepted .calm),
    .server (.dataReceived 0 "1 00000000 ok who_are_you u:p:one:80\r\n".toList .calm),
    .server (.handleMessage "one 7 ping".toList .calm)]

theorem not_along_publishedAtOnce_writtenOnly :
    ¬ Along (step .plain) PublishedAtOnce init
      (writtenOnly ++ [.answer ⟨"7".toList, 0, 2⟩ "1 7 ok ping pong\r\n".toList .calm]) := by
  intro h
  have hafter : (run (step .plain) init (writtenOnly ++
      [.answer ⟨"7".toList, 0, 2⟩ "1 7 ok ping pong\r\n".toList .calm])).map
      (fun x => x.server.commands_out) = some [] := by
    decide
  obtain ⟨x', hx', he'⟩ := Option.map_eq_some_iff.1 hafter
  obtain ⟨x, _, _, msg, _, hpub, _⟩ := h.at_end hx'
  rw [published, he', List.drop_nil] at hpub
  cases hpub

end Exchange

end SiteOnYourDevice
