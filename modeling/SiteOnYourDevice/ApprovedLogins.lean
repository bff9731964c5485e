import SiteOnYourDevice.SaidCommands
import SiteOnYourDevice.DeviceLogins

namespace SiteOnYourDevice
open CString Sds
set_option relaxedAutoImplicit false
set_option autoImplicit true

variable {id : cmd_seq_t} {COMMAND : Str}

namespace InnerServerHandlerHost
variable {net : NetTypes} {env : Env} {s s' t : InnerServerHandlerHost} {c : ClientId}
  {P Q : Written → Prop}

/-- Every write of a call that succeeded meets `P`. -/
def Sends (P : Written → Prop) (s s' : InnerServerHandlerHost) : Prop :=
  ∃ ws, s'.writes = s.writes ++ ws ∧ ∀ w ∈ ws, w.error = none → P w

theorem Sends.of_eq (h : s'.writes = s.writes) : Sends P s s' :=
  ⟨[], by rw [h, List.append_nil], fun _ hw => absurd hw List.not_mem_nil⟩

theorem Sends.write {data : Str} (h : env.writeError s.writes.length = none → P ⟨c, data, none⟩) :
    Sends P s (s.Write env c data).2 := by
  refine ⟨[⟨c, data, env.writeError s.writes.length⟩], rfl, ?_⟩
  intro w hw herr
  obtain rfl := List.mem_singleton.1 hw
  have herr : env.writeError s.writes.length = none := herr
  rw [herr]
  exact h herr

theorem Sends.trans (h : Sends P s t) (h' : Sends P t s') : Sends P s s' := by
  obtain ⟨ws, hws, hP⟩ := h
  obtain ⟨ws', hws', hP'⟩ := h'
  refine ⟨ws ++ ws', by rw [hws', hws, List.append_assoc], ?_⟩
  intro w hw
  rw [List.mem_append] at hw
  exact hw.elim (hP w) (hP' w)

theorem Sends.then_eq (h : Sends P s t) (ht : s'.writes = t.writes) : Sends P s s' :=
  h.trans (.of_eq ht)

theorem Sends.mono (h : Sends P s s') (hPQ : ∀ w, P w → Q w) : Sends Q s s' := by
  obtain ⟨ws, hws, hP⟩ := h
  exact ⟨ws, hws, fun w hw herr => hPQ w (hP w hw herr)⟩

theorem Sends.mem_sent (h : Sends P s s') {w : Written} (hw : w ∈ s.sent s') : P w := by
  obtain ⟨ws, hws, hP⟩ := h
  rw [sent_of_writes hws, List.mem_filter] at hw
  exact hP w hw.1 (of_decide_eq_true hw.2)

/-- No approval of a login. -/
def NoApproval (w : Written) : Prop := ¬ SaysOk APPROVE_COMMAND SERVER_WHO_ARE_YOU_COMMAND w.data

theorem isWord_who_are_you : IsWord SERVER_WHO_ARE_YOU_COMMAND := .of_all (by decide) (by decide)

theorem isWord_ping : IsWord PING_COMMAND := .of_all (by decide) (by decide)

section Handlers
variable {id : cmd_seq_t} (hid : ' ' ∉ id)
include hid

theorem noApproval_fail (cause : Str) :
    NoApproval ⟨c, (make_approve_responce id
      (SERVER_WHO_ARE_YOU_COMMAND_APPROVE_FAIL_1S cause)).cmd_, none⟩ :=
  not_saysOk_fail (.inr (.inr rfl)) hid isWord_who_are_you cause _ _

theorem noApproval_ping (CMD_FMT : Str) :
    NoApproval ⟨c, (make_approve_responce id
      (GENEATATE_SUCCESS_FMT PING_COMMAND CMD_FMT)).cmd_, none⟩ :=
  not_saysOk_success (.inr (.inr rfl)) hid isWord_ping CMD_FMT (.inr (by decide))

theorem failWith_noApproval (cause : Str) :
    Sends NoApproval s (s.failWith net env c id
      (SERVER_WHO_ARE_YOU_COMMAND_APPROVE_FAIL_1S cause)) :=
  (Sends.write fun _ => noApproval_fail hid cause).then_eq closeClient_writes

theorem handlePong_noApproval (args : List Str) :
    Sends NoApproval s (s.handlePong net env c id args) := by
  fun_cases handlePong net env c id args s with
  | case1 => exact .write fun _ => noApproval_ping hid _
  | case2 pong args err t ht =>
    obtain rfl : _ = t := congrArg Prod.snd ht
    exact (Sends.write fun _ => noApproval_ping hid _).then_eq closeClient_writes
  | case3 pong args t ht =>
    obtain rfl : _ = t := congrArg Prod.snd ht
    exact .write fun _ => noApproval_ping hid _

/-- A login that is not admitted is not approved. -/
theorem handleWhoAreYou_noApproval {uauthstr : Str}
    (ha : ¬ Admits net env s ((userAuthInfoOfString net (cstr uauthstr)).getD .empty)) :
    Sends NoApproval s (s.handleWhoAreYou net env c id uauthstr) := by
  fun_cases handleWhoAreYou net env c id uauthstr s with
  | case1 | case4 | case5 => exact failWith_noApproval hid _
  | case2 uauth _ _ _ err t ht =>
    obtain ⟨herr, rfl⟩ := Prod.mk.inj ht
    have happrove : Sends NoApproval s (s.writeApprove env c id
        SERVER_WHO_ARE_YOU_COMMAND_APPROVE_SUCCESS).2 := by
      apply Sends.write
      intro hnone
      rw [hnone] at herr
      cases herr
    exact happrove.trans (failWith_noApproval hid _)
  | case3 uauth hv hfind hhost t ht => exact absurd ⟨hv, hfind, hhost, congrArg Prod.fst ht⟩ ha

theorem handleInnerResponceCommand_noApproval {argv : List Str}
    (ha : ∀ user, IsWhoAreYou net RESPONCE_COMMAND argv user → ¬ Admits net env s user) :
    Sends NoApproval s (s.handleInnerResponceCommand net env c id argv) := by
  fun_cases handleInnerResponceCommand net env c id argv s with
  | case1 state command args => exact handlePong_noApproval hid args
  | case2 => exact .write fun _ => noApproval_fail hid _
  | case3 state command hstate _ hcommand uauthstr args =>
    apply handleWhoAreYou_noApproval hid
    exact ha _ ⟨state, command, uauthstr, args, rfl, rfl, ⟨hstate, hcommand⟩, rfl⟩
  | case4 | case5 | case6 => exact .of_eq rfl

omit hid in
theorem handleInnerRequestCommand_noApproval (argv : List Str) :
    Sends NoApproval s (s.handleInnerRequestCommand env c id argv) := by
  fun_cases handleInnerRequestCommand env c id argv s with
  | case1 | case3 => exact .of_eq rfl
  | case2 =>
    have htext := (framed_success PING_COMMAND "pong".toList).make_responce id
    exact .write fun _ => htext.not_saysOk (.inr (.inl rfl)) (by decide)

theorem callHandler_noApproval {seq : cmd_id_t} {argv : List Str}
    (ha : ∀ user, IsWhoAreYou net seq argv user → ¬ Admits net env s user) :
    Sends NoApproval s ((seqParser net env c).callHandler ⟨seq, id, argv⟩ s) := by
  rw [InnerServerCommandSeqParser.callHandler]
  split
  · exact handleInnerRequestCommand_noApproval argv
  split
  · rename_i hseq
    subst hseq
    exact handleInnerResponceCommand_noApproval hid ha
  split
  · exact .of_eq rfl
  · exact .of_eq rfl

omit hid in
theorem refuse_noApproval (buff : Str) :
    Sends NoApproval s ((seqParser net env c).refuse id buff s) := by
  have htext := (framed_fail STATE_COMMAND buff).make_responce id
  have hwrite : Sends NoApproval s
      (s.Write env c (make_responce id (STATE_COMMAND_RESP_FAIL_1S buff)).cmd_).2 :=
    .write fun _ => htext.not_saysOk (.inr (.inl rfl)) (by decide)
  exact hwrite.then_eq closeClient_writes

end Handlers

/-- A read that does not carry an admitted info is not answered with an approval of it. -/
theorem DataReceived_noApproval {read : Str}
    (ha : ∀ user, whoAreYouInfo net read = some user → ¬ Admits net env s user) :
    Sends NoApproval s ((seqParser net env c).DataReceived read s) := by
  rw [InnerServerCommandSeqParser.DataReceived]
  split
  · exact .of_eq closeClient_writes
  cases hscan : scanCommand read with
  | malformed buff =>
    rw [InnerServerCommandSeqParser.handleInnerDataReceived_malformed hscan]
    have hid : Sends NoApproval s ((seqParser net env c).next_id s).2 := .of_eq rfl
    exact hid.trans (refuse_noApproval buff)
  | command seq id cmd buff =>
    have hid := scanCommand_id_plain hscan
    cases hargv : sdssplitargs cmd with
    | none =>
      have hcalled : Sends NoApproval s (s.processRequest id none) := .of_eq processRequest_writes
      simp only [InnerServerCommandSeqParser.handleInnerDataReceived, hscan, hargv]
      exact hcalled.trans (refuse_noApproval buff)
    | some argv =>
      have hcalled : Sends NoApproval s (s.processRequest id (some argv)) :=
        .of_eq processRequest_writes
      rw [InnerServerCommandSeqParser.handleInnerDataReceived_command hscan hargv]
      apply hcalled.trans
      apply callHandler_noApproval hid
      intro user hu hadmits
      rw [Admits.of_processRequest] at hadmits
      exact ha user ((whoAreYouInfo_eq_some hscan hargv).2 hu) hadmits

theorem writeRequest_noApproval (env : Env) (CMD CMD_FMT : Str) :
    Sends NoApproval s (s.writeRequest env c (GENERATE_FMT CMD CMD_FMT)).2 := by
  have htext : ∃ p, (make_request (GENERATE_FMT CMD CMD_FMT) s.id_).1.cmd_ =
      buffText (CID_FMT REQUEST_COMMAND ++ ' ' :: p) := by
    simp only [make_request, GENERATE_FMT, List.append_assoc, List.cons_append]
    exact ⟨_, rfl⟩
  obtain ⟨p, hp⟩ := htext
  have hwrite : Sends NoApproval { s with id_ := (next_id s.id_).2 }
      (s.writeRequest env c (GENERATE_FMT CMD CMD_FMT)).2 := by
    apply Sends.write
    intro _
    rw [NoApproval, hp]
    exact not_saysOk_of_type (.inl rfl) (by decide) p
  exact hwrite

theorem pingClient_noApproval (s : InnerServerHandlerHost) (c : ClientId) :
    Sends NoApproval s (s.pingClient net env c) := by
  have hwrite : Sends NoApproval s (s.writeRequest env c PING_COMMAND_REQ).2 :=
    writeRequest_noApproval _ PING_COMMAND []
  rw [pingClient]
  split
  · rename_i err t ht
    rw [ht] at hwrite
    exact hwrite.then_eq closeClient_writes
  · rename_i t ht
    rw [ht] at hwrite
    exact hwrite

theorem pingClients_noApproval (cs : List ClientId) (s : InnerServerHandlerHost) :
    Sends NoApproval s (cs.foldl (pingClient net env) s) := by
  induction cs generalizing s with
  | nil => exact .of_eq rfl
  | cons c cs ih => exact (pingClient_noApproval s c).trans (ih _)

theorem handleMessage_noApproval {msg : Str} (h : s.handleMessage env msg = some s') :
    Sends NoApproval s s' := by
  rw [handleMessage] at h
  split at h
  · cases h
    exact .of_eq rfl
  rename_i host space _
  simp only at h
  split at h
  · split at h
    · cases h
      exact .of_eq rfl
    split at h
    · obtain ⟨msg', rfl⟩ := publishFail_eq h
      exact .of_eq rfl
    rename_i fclient _
    split at h
    · have hwrite : Sends NoApproval s (s.Write env fclient (forwarded env space.tail)).2 :=
        .write fun _ => not_saysOk_forwarded env space.tail
      split at h
      · rename_i err t ht
        rw [ht] at hwrite
        obtain ⟨msg', rfl⟩ := publishFail_eq h
        exact hwrite.then_eq rfl
      · rename_i t ht
        rw [ht] at hwrite
        cases h
        exact hwrite.then_eq rfl
    · cases h
  · cases h
    exact .of_eq rfl

theorem DataReceived_writes (net : NetTypes) (env : Env) (c : ClientId) (read : Str)
    (s : InnerServerHandlerHost) :
    s.writes <+: ((seqParser net env c).DataReceived read s).writes := by
  have hsame := (DataReceived_same net c read env s).writes
  split at hsame
  · rw [processRequest_writes] at hsame
    exact hsame
  · exact hsame

/-- An approval of a login goes with the registration of its connection. -/
def Vouched (net : NetTypes) (e : Event) (s s' : InnerServerHandlerHost) (w : Written) : Prop :=
  SaysOk APPROVE_COMMAND SERVER_WHO_ARE_YOU_COMMAND w.data →
    ∃ read env user, e = .dataReceived w.client read env ∧ whoAreYouInfo net read = some user ∧
      Admits net env s user ∧ Registers w.client user s s'

theorem step_vouched {e : Event} (hs : step net s e = some s') :
    Sends (Vouched net e s s') s s' := by
  have hnone : Sends NoApproval s s' → Sends (Vouched net e s s') s s' :=
    fun h => h.mono fun w hw hsaid => absurd hsaid hw
  cases e with
  | accepted env =>
    cases hs
    have hwrite := writeRequest_noApproval env SERVER_WHO_ARE_YOU_COMMAND []
      (s := { s with parent_ := s.parent_.accept }) (c := s.parent_.accepted)
    exact hnone hwrite
  | dataReceived c read env =>
    rw [step, Option.ite_none_right_eq_some] at hs
    obtain ⟨_, hs⟩ := hs
    cases hs
    obtain ⟨user, hinfo, ha, hr⟩ | ⟨hn, _⟩ := DataReceived_logs net env c read s
    · obtain ⟨ws, hws⟩ := DataReceived_writes net env c read s
      refine ⟨ws, hws.symm, ?_⟩
      intro w hw herr _
      have hsent : w ∈ s.sent ((seqParser net env c).DataReceived read s) := by
        rw [sent_of_writes hws.symm, List.mem_filter]
        exact ⟨hw, decide_eq_true herr⟩
      rw [(DataReceived_paid net env c read s).1 w hsent]
      exact ⟨read, env, user, rfl, hinfo, ha, hr⟩
    · exact hnone (DataReceived_noApproval hn)
  | timerEmited env =>
    cases hs
    exact hnone (pingClients_noApproval _ s)
  | handleMessage msg env =>
    rw [step, Option.ite_none_right_eq_some] at hs
    exact hnone (handleMessage_noApproval hs.2)
  | subscribeRequest =>
    obtain ⟨rc, _, rfl⟩ := Option.map_eq_some_iff.1 hs
    exact hnone (.of_eq rfl)

end InnerServerHandlerHost

end SiteOnYourDevice
