import SiteOnYourDevice.InnerServerHandlerHost

namespace SiteOnYourDevice
open CString Sds Transition
set_option relaxedAutoImplicit false
set_option autoImplicit true

/-- A frame as `processRequest` gets it, and what is known of it by then. -/
structure Received where
  client : ClientId
  seq : cmd_id_t
  id : cmd_seq_t
  argv : Option (List Str)
deriving DecidableEq

namespace InnerServerHandlerHost
open InnerServerCommandSeqParser

/-- The frame a step receives, if it is one whose id can be read. -/
def received : Event → Option Received
  | .dataReceived c read _ =>
    match scanCommand read with
    | .command seq id cmd _ => some ⟨c, seq, id, sdssplitargs cmd⟩
    | .malformed _ => none
  | _ => none

/-- The pending requests a frame matches. -/
def matched (s : InnerServerHandlerHost) (f : Received) : List RequestCallback :=
  s.subscribed_requests_.filter fun rc => f.id = rc.request_id_

/-- What a step published. -/
def published (s s' : InnerServerHandlerHost) : List Published :=
  s'.commands_out.drop s.commands_out.length

/-- A step that leaves the requests alone; it may have written something. -/
structure SameRequests (s s' : InnerServerHandlerHost) : Prop where
  subscribed : s'.subscribed_requests_ = s.subscribed_requests_
  commands_out : s'.commands_out = s.commands_out
  listener : s'.listener = s.listener
  writes : s.writes <+: s'.writes

theorem SameRequests.refl (s : InnerServerHandlerHost) : SameRequests s s :=
  ⟨rfl, rfl, rfl, List.prefix_rfl⟩

theorem SameRequests.trans (h : SameRequests s t) (h' : SameRequests t u) : SameRequests s u :=
  ⟨h'.subscribed.trans h.subscribed, h'.commands_out.trans h.commands_out,
    h'.listener.trans h.listener, h.writes.trans h'.writes⟩

variable {net : NetTypes} {env : Env} {s s' : InnerServerHandlerHost} {c : ClientId}
  {id : cmd_seq_t} {data : Str} {fmt : Fmt}

theorem Write_same (s : InnerServerHandlerHost) : SameRequests s (s.Write env c data).2 :=
  ⟨rfl, rfl, rfl, List.prefix_append _ _⟩

theorem writeRequest_same (s : InnerServerHandlerHost) :
    SameRequests s (s.writeRequest env c fmt).2 :=
  ⟨rfl, rfl, rfl, List.prefix_append _ _⟩

theorem closeClient_same (s : InnerServerHandlerHost) : SameRequests s (s.closeClient net c) := by
  simp only [closeClient]
  split
  · exact ⟨rfl, rfl, rfl, List.prefix_rfl⟩
  · split <;> exact ⟨rfl, rfl, rfl, List.prefix_rfl⟩

theorem failWith_same (s : InnerServerHandlerHost) :
    SameRequests s (s.failWith net env c id fmt) :=
  (Write_same s).trans (closeClient_same _)

theorem writeApprove_same (h : s.writeApprove env c id fmt = (a, t)) : SameRequests s t := by
  obtain rfl : (s.writeApprove env c id fmt).2 = t := congrArg Prod.snd h
  exact Write_same s

theorem handlePong_same (args : List Str) (s : InnerServerHandlerHost) :
    SameRequests s (s.handlePong net env c id args) := by
  cases args with
  | nil => exact Write_same s
  | cons w args =>
    simp only [handlePong]
    split
    · rename_i ht
      exact (writeApprove_same ht).trans (closeClient_same _)
    · rename_i ht
      exact writeApprove_same ht

theorem handleWhoAreYou_same (str : Str) (s : InnerServerHandlerHost) :
    SameRequests s (s.handleWhoAreYou net env c id str) := by
  simp only [handleWhoAreYou]
  split
  · split
    · split
      · exact failWith_same s
      · split
        · rename_i ht
          exact (writeApprove_same ht).trans (failWith_same _)
        · rename_i ht
          have h := writeApprove_same ht
          exact ⟨h.subscribed, h.commands_out, h.listener, h.writes⟩
    · exact failWith_same s
  · exact failWith_same s

theorem handleInnerResponceCommand_same (argv : List Str) (s : InnerServerHandlerHost) :
    SameRequests s (s.handleInnerResponceCommand net env c id argv) := by
  match argv with
  | [] | [_] => exact .refl s
  | state :: command :: args =>
    simp only [handleInnerResponceCommand]
    split
    · split
      · exact handlePong_same args s
      · split
        · cases args with
          | nil => exact Write_same s
          | cons str args => exact handleWhoAreYou_same str s
        · exact .refl s
    · exact .refl s

theorem handleInnerRequestCommand_same (argv : List Str) (s : InnerServerHandlerHost) :
    SameRequests s (s.handleInnerRequestCommand env c id argv) := by
  cases argv with
  | nil => exact .refl s
  | cons command argv =>
    simp only [handleInnerRequestCommand]
    split
    · exact Write_same s
    · exact .refl s

theorem callHandler_same (cmd : Command) (s : InnerServerHandlerHost) :
    SameRequests s ((seqParser net env c).callHandler cmd s) := by
  simp only [callHandler]
  split
  · exact handleInnerRequestCommand_same cmd.argv s
  · split
    · exact handleInnerResponceCommand_same cmd.argv s
    · split <;> exact .refl s

theorem refuse_same (buff : Str) (s : InnerServerHandlerHost) :
    SameRequests s ((seqParser net env c).refuse id buff s) :=
  (Write_same s).trans (closeClient_same _)

theorem pingClients_same (cs : List ClientId) (s : InnerServerHandlerHost) :
    SameRequests s (cs.foldl (pingClient net env) s) := by
  induction cs generalizing s with
  | nil => exact .refl s
  | cons c cs ih =>
    have hw : SameRequests s (s.writeRequest env c PING_COMMAND_REQ).2 := writeRequest_same s
    have hp : SameRequests s (s.pingClient net env c) := by
      simp only [pingClient]
      split
      · rename_i ht
        rw [ht] at hw
        exact hw.trans (closeClient_same _)
      · rename_i ht
        rw [ht] at hw
        exact hw
    exact hp.trans (ih _)

/-- The callbacks are all that a frame does to the requests; a read without a frame does nothing
to them. -/
theorem DataReceived_same (net : NetTypes) (c : ClientId) (read : Str) (env : Env)
    (s : InnerServerHandlerHost) :
    SameRequests
      (match received (.dataReceived c read env) with
        | some f => s.processRequest f.id f.argv
        | none => s)
      ((seqParser net env c).DataReceived read s) := by
  by_cases hr : read = []
  · subst hr
    exact closeClient_same s
  rw [DataReceived, if_neg hr, handleInnerDataReceived]
  simp only [received]
  cases scanCommand read with
  | malformed buff =>
    have hid : SameRequests s ((seqParser net env c).next_id s).2 :=
      ⟨rfl, rfl, rfl, List.prefix_rfl⟩
    exact hid.trans (refuse_same buff _)
  | command seq id cmd buff =>
    simp only
    cases sdssplitargs cmd with
    | none => exact refuse_same buff _
    | some argv => exact callHandler_same ⟨seq, id, argv⟩ _

/-- What a step does to the requests. -/
inductive RequestStep (s : InnerServerHandlerHost) (e : Event) (s' : InnerServerHandlerHost) : Prop
  | quiet (hr : received e = none) (hs : SameRequests s s')
  | frame (f : Received) (hr : received e = some f)
      (hs : SameRequests (s.processRequest f.id f.argv) s')
  | message (hr : received e = none) (hl : s.listener = none) (hh : Handled s s')
  | subscribe (hr : received e = none) (rc : RequestCallback) (hl : s.listener = some rc)
      (hs : s' = { s with listener := none }.subscribeRequest rc)

theorem step_requests (hs : step net s e = some s') : RequestStep s e s' := by
  cases e with
  | accepted env =>
    cases hs
    exact .quiet rfl ⟨rfl, rfl, rfl, List.prefix_append _ _⟩
  | dataReceived c read env =>
    simp only [step] at hs
    split at hs
    · cases hs
      have h := DataReceived_same net c read env s
      cases hr : received (.dataReceived c read env) with
      | none =>
        rw [hr] at h
        exact .quiet hr h
      | some f =>
        rw [hr] at h
        exact .frame f hr h
    · cases hs
  | timerEmited env =>
    cases hs
    exact .quiet rfl (pingClients_same _ s)
  | handleMessage msg env =>
    simp only [step] at hs
    split at hs
    · rename_i hl
      exact .message rfl hl (handleMessage_cases hs)
    · cases hs
  | subscribeRequest =>
    obtain ⟨rc, hl, rfl⟩ := Option.map_eq_some_iff.1 hs
    exact .subscribe rfl rc hl rfl

theorem frame_same {e : Event} {f : Received} (hs : step net s e = some s')
    (hr : received e = some f) : SameRequests (s.processRequest f.id f.argv) s' := by
  cases step_requests hs with
  | frame f' hr' hsame =>
    rw [hr] at hr'
    cases hr'
    exact hsame
  | quiet hr' | message hr' | subscribe hr' =>
    rw [hr] at hr'
    cases hr'

theorem SameRequests.published_eq (h : SameRequests t s') (s : InnerServerHandlerHost) :
    published s s' = published s t := by
  rw [published, published, h.commands_out]

theorem published_processRequest (s : InnerServerHandlerHost) (f : Received) :
    published s (s.processRequest f.id f.argv) =
      (s.matched f).map fun rc => ⟨joined rc.request_id_ (f.argv.getD []), some rc⟩ := by
  rw [published, processRequest_eq, List.drop_left]
  rfl

theorem subscribed_processRequest (s : InnerServerHandlerHost) (f : Received) :
    (s.processRequest f.id f.argv).subscribed_requests_ =
      s.subscribed_requests_.filter fun rc => f.id ≠ rc.request_id_ := by
  rw [processRequest_eq]

theorem mem_matched {f : Received} {rc : RequestCallback} :
    rc ∈ s.matched f ↔ rc ∈ s.subscribed_requests_ ∧ f.id = rc.request_id_ := by
  rw [matched, List.mem_filter, decide_eq_true_iff]

/-- Only a frame that matches it publishes for a request or ends its wait. -/
theorem RequestStep.mem_matched {e : Event} (h : RequestStep s e s') {rc : RequestCallback}
    (hrc : rc ∈ s.subscribed_requests_ ∧ rc ∉ s'.subscribed_requests_ ∨
      ∃ msg, ⟨msg, some rc⟩ ∈ published s s') :
    ∃ f, received e = some f ∧ rc ∈ s.matched f := by
  cases h with
  | quiet _ hs =>
    rw [hs.published_eq, hs.subscribed, published, List.drop_length] at hrc
    obtain ⟨hin, hout⟩ | ⟨_, hm⟩ := hrc
    · exact absurd hin hout
    · cases hm
  | frame f hr hs =>
    refine ⟨f, hr, ?_⟩
    rw [hs.published_eq, hs.subscribed, published_processRequest, subscribed_processRequest] at hrc
    obtain ⟨hin, hout⟩ | ⟨_, hm⟩ := hrc
    · by_contra hnm
      apply hout
      rw [List.mem_filter, decide_eq_true_iff]
      exact ⟨hin, fun he => hnm (InnerServerHandlerHost.mem_matched.2 ⟨hin, he⟩)⟩
    · obtain ⟨rc', hrc', he⟩ := List.mem_map.1 hm
      cases he
      exact hrc'
  | message _ _ hh =>
    cases hh with
    | answered ws msg =>
      rw [published, List.drop_left] at hrc
      obtain ⟨hin, hout⟩ | ⟨_, hm⟩ := hrc
      · exact absurd hin hout
      · cases List.mem_singleton.1 hm
    | forwarded id fclient data _ =>
      rw [published, List.drop_length] at hrc
      obtain ⟨hin, hout⟩ | ⟨_, hm⟩ := hrc
      · exact absurd hin hout
      · cases hm
  | subscribe _ rc' _ hs =>
    subst hs
    obtain ⟨hin, hout⟩ | ⟨_, hm⟩ := hrc
    · exact absurd (List.mem_append_left _ hin) hout
    · rw [published, subscribeRequest, List.drop_length] at hm
      cases hm

/-- A step publishes for a request, or ends its wait, only with a response that carries its id
and comes from the connection it was written to. -/
def OnlyAddressee (s : InnerServerHandlerHost) (e : Event) (s' : InnerServerHandlerHost) : Prop :=
  ∀ rc, rc ∈ s.subscribed_requests_ ∧ rc ∉ s'.subscribed_requests_ ∨
      (∃ msg, ⟨msg, some rc⟩ ∈ published s s') →
    ∃ f, received e = some f ∧ f.seq = RESPONCE_COMMAND ∧ f.id = rc.request_id_ ∧
      f.client = rc.fclient

/-- A received frame that carries the id of a pending request is a response from the connection
the request was written to. -/
def PendingIdAnswered (s : InnerServerHandlerHost) (e : Event) : Prop :=
  ∀ f, received e = some f → ∀ rc ∈ s.subscribed_requests_, f.id = rc.request_id_ →
    f.seq = RESPONCE_COMMAND ∧ f.client = rc.fclient

theorem onlyAddressee_step {e : Event} (hs : step net s e = some s') :
    OnlyAddressee s e s' ↔ PendingIdAnswered s e := by
  have hstep := step_requests hs
  constructor
  · intro h f hr rc hrc hid
    have hpub : ∃ msg, ⟨msg, some rc⟩ ∈ published s s' := by
      rw [(frame_same hs hr).published_eq, published_processRequest]
      exact ⟨_, List.mem_map.2 ⟨rc, mem_matched.2 ⟨hrc, hid⟩, rfl⟩⟩
    obtain ⟨f', hr', hseq, _, hc⟩ := h rc (.inr hpub)
    rw [hr] at hr'
    cases hr'
    exact ⟨hseq, hc⟩
  · intro h rc hrc
    obtain ⟨f, hr, hm⟩ := hstep.mem_matched hrc
    obtain ⟨hin, hid⟩ := mem_matched.1 hm
    obtain ⟨hseq, hc⟩ := h f hr rc hin hid
    exact ⟨f, hr, hseq, hid, hc⟩

/-- Only the addressed device answers, along a run, exactly when every frame that carries the id
of a pending request is a response from that device. -/
theorem along_onlyAddressee_iff (net : NetTypes) (es : List Event) :
    Along (step net) OnlyAddressee init es ↔
      Along (step net) (fun s e _ => PendingIdAnswered s e) init es :=
  along_congr fun _ _ _ hs => onlyAddressee_step hs

/-- Two devices, a request with the id `7` for the first of them, and a ping request of the second
one that carries the id `7` too. -/
def strangerPing : List Event :=
  [.accepted .calm, .accepted .calm,
    .dataReceived 0 "1 00000000 ok who_are_you u:p:one:80\r\n".toList .calm,
    .handleMessage "one 7 plz_system_info".toList .calm, .subscribeRequest]

theorem not_along_onlyAddressee_strangerPing :
    ¬ Along (step .plain) OnlyAddressee init
      (strangerPing ++ [.dataReceived 1 "0 7 ping \r\n".toList .calm]) := by
  intro h
  have hbefore : (run (step .plain) init strangerPing).map (fun s => s.commands_out) =
      some [] := by
    decide
  have hafter : (run (step .plain) init
      (strangerPing ++ [.dataReceived 1 "0 7 ping \r\n".toList .calm])).map
      (fun s => s.commands_out) = some [⟨"7 ping".toList, some ⟨"7".toList, 0, 3⟩⟩] := by
    decide
  obtain ⟨t', ht', he'⟩ := Option.map_eq_some_iff.1 hafter
  obtain ⟨t, ht, _, ha⟩ := h.at_end ht'
  rw [ht] at hbefore
  have he : t.commands_out = [] := Option.some.inj hbefore
  have hpub : (⟨"7 ping".toList, some ⟨"7".toList, 0, 3⟩⟩ : Published) ∈ published t t' := by
    rw [published, he, he']
    exact List.mem_singleton_self _
  obtain ⟨f, hf, hseq, _⟩ := ha _ (.inr ⟨_, hpub⟩)
  obtain rfl : (⟨1, 0, "7".toList, some ["ping".toList]⟩ : Received) = f := by
    apply Option.some.inj (Eq.trans ?_ hf)
    decide
  exact absurd hseq (by decide)

end InnerServerHandlerHost

end SiteOnYourDevice
