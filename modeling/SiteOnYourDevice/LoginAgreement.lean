import SiteOnYourDevice.ApprovedLogins

namespace SiteOnYourDevice
open CString Sds JsonC Transition
set_option relaxedAutoImplicit false
set_option autoImplicit true

variable {id : cmd_seq_t} {data read : Str}

/-- A server that takes a login from this text takes that of `info`. -/
def Introduces (net : NetTypes) (info : UserAuthInfo) (data : Str) : Prop :=
  ∀ user, InnerServerHandlerHost.whoAreYouInfo net data = some user → user.isValid net = true →
    user = info

theorem whoAreYouInfo_frame {net : NetTypes} {user : UserAuthInfo}
    (h : InnerServerHandlerHost.whoAreYouInfo net data = some user) :
    ∃ id state command str args,
      frameOf data = some ⟨RESPONCE_COMMAND, id, state :: command :: str :: args⟩ ∧
      IS_EQUAL_COMMAND state SUCCESS_COMMAND = true ∧
      IS_EQUAL_COMMAND command SERVER_WHO_ARE_YOU_COMMAND = true ∧
      (userAuthInfoOfString net (cstr str)).getD .empty = user := by
  cases hscan : scanCommand data with
  | malformed buff =>
    rw [InnerServerHandlerHost.whoAreYouInfo, hscan] at h
    cases h
  | command seq id cmd buff =>
    cases hargv : sdssplitargs cmd with
    | none =>
      simp only [InnerServerHandlerHost.whoAreYouInfo, hscan, hargv] at h
      cases h
    | some argv =>
      rw [InnerServerHandlerHost.whoAreYouInfo_eq_some hscan hargv] at h
      obtain ⟨state, command, str, args, rfl, rfl, ⟨hstate, hcommand⟩, hinfo⟩ := h
      refine ⟨id, state, command, str, args, ?_, hstate, hcommand, hinfo⟩
      rw [frameOf_command hscan, hargv]
      rfl

theorem introduces_of_not_saysOk {net : NetTypes} {info : UserAuthInfo}
    (h : ¬ SaysOk RESPONCE_COMMAND SERVER_WHO_ARE_YOU_COMMAND data) : Introduces net info data := by
  intro user hu _
  obtain ⟨id, state, command, str, args, hf, hstate, hcommand, _⟩ := whoAreYouInfo_frame hu
  exact absurd ⟨id, state, command, _, hf, hstate, hcommand⟩ h

namespace InnerServerHandler
variable {Url : Type} {types : CommonTypes Url} {json : Texts} {env : DeviceEnv}
  {s s' t : InnerServerHandler Url} {info : UserAuthInfo} {email : JsString}

/-- The answer to `who_are_you` introduces the device, as far as it can be read. -/
theorem introduces_login (h : PlainLogin types email s) (hid : ReadId id) :
    Introduces types.toNetTypes s.authInfo (make_responce id
      (CLIENT_WHO_ARE_YOU_COMMAND_RESP_SUCCSESS_1S (authStr types s.authInfo))).cmd_ := by
  intro user hu hv
  have htext : (make_responce id
      (CLIENT_WHO_ARE_YOU_COMMAND_RESP_SUCCSESS_1S (authStr types s.authInfo))).cmd_ =
      buffText (builtText RESPONCE_COMMAND id
        (successRest SERVER_WHO_ARE_YOU_COMMAND (authStr types s.authInfo))) := by
    rw [← GENEATATE_SUCCESS_FMT_eq]
    rfl
  rw [htext] at hu
  obtain ⟨id', state, command, str, args, hf, _, _, rfl⟩ := whoAreYouInfo_frame hu
  by_cases hl : (builtText RESPONCE_COMMAND id (successRest SERVER_WHO_ARE_YOU_COMMAND
      (authStr types s.authInfo))).length ≤ MAX_COMMAND_SIZE - 1
  · rw [(h.fitting hl).buffText_eq (.inr (.inl rfl)) hid, h.frame hid hl] at hf
    cases hf
    rw [h.read, Option.getD_some]
  · obtain ⟨hcr, hnul⟩ := h.rest_clean
    obtain ⟨d, _, _, hline, hfree, hend⟩ := builtText_eq hcr hnul (.inr (.inl rfl)) hid
    rw [hline] at hf hl
    rw [frameOf_cut hfree hend (Nat.lt_of_not_le hl)] at hf
    cases hf

/-- A call that writes nothing a server could take for another login, and does not tell that the
device is connected. -/
structure Replies (net : NetTypes) (s s' : InnerServerHandler Url) : Prop where
  config_ : s'.config_ = s.config_
  writes : ∃ ws, s'.writes = s.writes ++ ws ∧ ∀ w ∈ ws, Introduces net s.authInfo w.1
  events : ∀ info, .InnerClientConnectedEvent info ∈ s'.events →
    .InnerClientConnectedEvent info ∈ s.events

variable {net : NetTypes}

theorem Replies.of_eq (hc : s'.config_ = s.config_) (hw : s'.writes = s.writes)
    (he : s'.events = s.events) : Replies net s s' :=
  ⟨hc, ⟨[], by rw [hw, List.append_nil], fun _ h => absurd h List.not_mem_nil⟩,
    fun _ h => he ▸ h⟩

theorem Replies.trans (h : Replies net s t) (h' : Replies net t s') : Replies net s s' := by
  obtain ⟨ws, hws, hP⟩ := h.writes
  obtain ⟨ws', hws', hP'⟩ := h'.writes
  have hinfo : t.authInfo = s.authInfo := congrArg (·.authInfo) h.config_
  refine ⟨h'.config_.trans h.config_, ⟨ws ++ ws', by rw [hws', hws, List.append_assoc], ?_⟩, ?_⟩
  · intro w hw
    rw [List.mem_append] at hw
    rw [hinfo] at hP'
    exact hw.elim (hP w) (hP' w)
  · intro info hi
    exact h.events info (h'.events info hi)

theorem Replies.write {data : Str} (h : Introduces net s.authInfo data) :
    Replies net s (s.Write env data).2 := by
  refine ⟨rfl, ⟨[(data, env.writeError s.writes.length)], rfl, ?_⟩, fun _ hi => hi⟩
  intro w hw
  obtain rfl := List.mem_singleton.1 hw
  exact h

theorem Replies.post {event : PostedEvent Url} (h : ∀ info, event ≠ .InnerClientConnectedEvent info) :
    Replies net s (s.PostEvent event) := by
  refine ⟨rfl, ⟨[], (List.append_nil _).symm, fun _ hw => absurd hw List.not_mem_nil⟩, ?_⟩
  intro info hi
  obtain hi | hi := List.mem_append.1 hi
  · exact hi
  · exact absurd (List.mem_singleton.1 hi).symm (h info)

theorem close_replies (s : InnerServerHandler Url) : Replies net s s.Close := by
  rw [Close]
  split
  · have hclosed : Replies net s { s with inner_connection_ := false } := .of_eq rfl rfl rfl
    exact hclosed.trans (.post fun _ h => by cases h)
  · exact .of_eq rfl rfl rfl

/-- The next word of a success, that is no login. -/
def Plainly (CMD : Str) : Prop := IsWord CMD ∧ ¬ SERVER_WHO_ARE_YOU_COMMAND <+: CMD

section Requests
variable (hid : ' ' ∉ id)
include hid

theorem respond_success {CMD : Str} (h : Plainly CMD) (CMD_FMT : Str) :
    Replies net s (s.respond env id (GENEATATE_SUCCESS_FMT CMD CMD_FMT)) :=
  .write (introduces_of_not_saysOk
    (not_saysOk_success (.inr (.inl rfl)) hid h.1 CMD_FMT (.inr h.2)))

theorem respond_fail {CMD : Str} (h : Plainly CMD) (CMD_FMT : Str) :
    Replies net s (s.respond env id (GENEATATE_FAIL_FMT CMD CMD_FMT)) :=
  .write (introduces_of_not_saysOk (not_saysOk_fail (.inr (.inl rfl)) hid h.1 CMD_FMT _ _))

theorem handleConnectHttp_replies (args : List Str) :
    Replies net s (s.handleConnectHttp types env id args) := by
  have hword : Plainly SERVER_PLEASE_CONNECT_HTTP_COMMAND :=
    ⟨.of_all (by decide) (by decide), by decide⟩
  fun_cases handleConnectHttp types env id args s with
  | case1 => exact respond_fail hid hword _
  | case2 hostandport args hc hl err t ht =>
    obtain rfl : _ = t := congrArg Prod.snd ht
    exact respond_success hid hword _
  | case3 hostandport args hc hl t ht =>
    obtain rfl : _ = t := congrArg Prod.snd ht
    exact (respond_success hid hword _).trans (.of_eq rfl rfl rfl)
  | case4 => exact respond_fail hid hword _
  | case5 => exact respond_fail hid hword _

theorem handleConnectWebsocket_replies (args : List Str) :
    Replies net s (s.handleConnectWebsocket types env id args) := by
  have hword : Plainly SERVER_PLEASE_CONNECT_WEBSOCKET_COMMAND :=
    ⟨.of_all (by decide) (by decide), by decide⟩
  have hrelay : ∀ relay CMD_FMT, Replies net s ((s.registerRelay relay).respond env id
      (GENEATATE_SUCCESS_FMT SERVER_PLEASE_CONNECT_WEBSOCKET_COMMAND CMD_FMT)) := by
    intro relay CMD_FMT
    have hgiven : Replies net s (s.registerRelay relay) := .of_eq rfl rfl rfl
    exact hgiven.trans (respond_success hid hword CMD_FMT)
  fun_cases handleConnectWebsocket types env id args s with
  | case1 | case3 => exact hrelay _ _
  | case2 | case4 | case5 | case6 | case7 => exact respond_fail hid hword _

theorem handleSetConfig_replies (args : List Str)
    (h : s.handleSetConfig types json env id args = some s') : Replies net s s' := by
  have hword : Plainly SERVER_PLEASE_SET_CONFIG_COMMAND :=
    ⟨.of_all (by decide) (by decide), by decide⟩
  cases args with
  | nil =>
    cases h
    exact respond_fail hid hword _
  | cons config_json_str args =>
  rw [handleSetConfig] at h
  split at h
  · cases h
    exact respond_fail hid hword _
  obtain ⟨new_config, _, rfl⟩ := Option.map_eq_some_iff.1 h
  split
  · exact (respond_success hid hword []).trans (.post fun _ he => by cases he)
  · exact respond_fail hid hword _

end Requests

theorem handleInnerRequestCommand_replies {argv : List Str} (hl : PlainLogin types email s)
    (hid : ReadId id) (h : s.handleInnerRequestCommand types json env id argv = some s') :
    Replies types.toNetTypes s s' := by
  have hn := hid.no_blank
  revert h
  fun_cases handleInnerRequestCommand types json env id argv s with
  | case1 =>
    rintro ⟨⟩
    exact .of_eq rfl rfl rfl
  | case2 command args h =>
    rintro ⟨⟩
    exact respond_success hn ⟨.of_all (by decide) (by decide), by decide⟩ _
  | case3 command args _ h =>
    rintro ⟨⟩
    exact .write (introduces_login hl hid)
  | case4 command args _ _ h =>
    rintro ⟨⟩
    exact handleConnectHttp_replies hn args
  | case5 command args _ _ _ h =>
    rintro ⟨⟩
    exact handleConnectWebsocket_replies hn args
  | case6 command args _ _ _ _ h =>
    rintro ⟨⟩
    exact respond_success hn ⟨.of_all (by decide) (by decide), by decide⟩ _
  | case7 command args _ _ _ _ _ h =>
    rintro ⟨⟩
    exact respond_success hn ⟨.of_all (by decide) (by decide), by decide⟩ _
  | case8 command args _ _ _ _ _ _ h => exact handleSetConfig_replies hn args
  | case9 command args =>
    rintro ⟨⟩
    exact .of_eq rfl rfl rfl

theorem handleInnerResponceCommand_replies (argv : List Str) :
    Replies net s (s.handleInnerResponceCommand env id argv) := by
  have happrove : ∀ CMD_FMT, Replies net s (s.Write env (make_approve_responce id
      (GENEATATE_SUCCESS_FMT PING_COMMAND CMD_FMT)).cmd_).2 := by
    intro CMD_FMT
    have htext := (framed_success PING_COMMAND CMD_FMT).make_approve_responce id
    exact .write (introduces_of_not_saysOk (htext.not_saysOk (.inr (.inr rfl)) (by decide)))
  fun_cases handleInnerResponceCommand env id argv s with
  | case1 | case2 => exact happrove _
  | case3 | case4 | case5 => exact .of_eq rfl rfl rfl

/-- The device tells that it is connected only when it reads an approval of its login. -/
theorem handleInnerApproveCommand_replies (argv : List Str) :
    Replies net s (s.handleInnerApproveCommand id argv) ∨
      (∃ state command args, argv = state :: command :: args ∧
        IS_EQUAL_COMMAND state SUCCESS_COMMAND = true ∧
        IS_EQUAL_COMMAND command SERVER_WHO_ARE_YOU_COMMAND = true) ∧
      s.handleInnerApproveCommand id argv = s.PostEvent (.InnerClientConnectedEvent s.authInfo) := by
  fun_cases handleInnerApproveCommand id argv s with
  | case2 command okrespcommand args hok _ hwho =>
    exact .inr ⟨⟨command, okrespcommand, args, rfl, hok, hwho⟩, rfl⟩
  | case1 | case3 | case4 | case5 => exact .inl (.of_eq rfl rfl rfl)

theorem refuse_replies (hid : ' ' ∉ id) (buff : Str)
    (h : (seqParser types json env).refuse id buff (some s) = some s') : Replies net s s' := by
  have hword : Plainly STATE_COMMAND := ⟨.of_all (by decide) (by decide), by decide⟩
  have hrefused := Option.some.inj h
  rw [← hrefused]
  exact (respond_fail hid hword buff).trans (close_replies _)

/-- What a device does with a read. -/
theorem DataReceived_replies (hl : PlainLogin types email s)
    (h : (seqParser types json env).DataReceived read (some s) = some s') :
    Replies types.toNetTypes s s' ∨ SaysOk APPROVE_COMMAND SERVER_WHO_ARE_YOU_COMMAND read ∧
      s' = s.PostEvent (.InnerClientConnectedEvent s.authInfo) := by
  rw [InnerServerCommandSeqParser.DataReceived] at h
  split at h
  · cases h
    exact .inl (close_replies s)
  cases hscan : scanCommand read with
  | malformed buff =>
    rw [InnerServerCommandSeqParser.handleInnerDataReceived_malformed hscan] at h
    have hcounted : Replies types.toNetTypes s { s with id_ := (next_id s.id_).2 } :=
      .of_eq rfl rfl rfl
    exact .inl (hcounted.trans (refuse_replies (hexEncode_plain _) buff h))
  | command seq id cmd buff =>
    have hid := readId_of_scanCommand hscan
    cases hargv : sdssplitargs cmd with
    | none =>
      simp only [InnerServerCommandSeqParser.handleInnerDataReceived, hscan, hargv] at h
      exact .inl (refuse_replies hid.no_blank buff h)
    | some argv =>
      rw [InnerServerCommandSeqParser.handleInnerDataReceived_command hscan hargv,
        InnerServerCommandSeqParser.dispatch, InnerServerCommandSeqParser.callHandler] at h
      split at h
      · exact .inl (handleInnerRequestCommand_replies hl hid h)
      split at h
      · cases h
        exact .inl (handleInnerResponceCommand_replies argv)
      split at h
      · rename_i hseq
        obtain rfl : seq = APPROVE_COMMAND := hseq
        cases h
        obtain hr | ⟨⟨state, command, args, rfl, hok, hwho⟩, hpost⟩ :=
          handleInnerApproveCommand_replies argv
        · exact .inl hr
        · refine .inr ⟨⟨id, state, command, args, ?_, hok, hwho⟩, hpost⟩
          rw [frameOf_command hscan, hargv]
          rfl
      · cases h
        exact .inl (.of_eq rfl rfl rfl)

end InnerServerHandler

namespace DeviceLink
variable {Url : Type} {types : CommonTypes Url} {json : Texts} {c : ClientId}
  {l l' : DeviceLink Url} {info : UserAuthInfo} {email : JsString}

/-- The step in which the server gives the host of `info` to the connection `c`: the store knows
`info`, and the host had no connection. -/
def Admitting (c : ClientId) (info : UserAuthInfo) (l : DeviceLink Url) (e : LinkTurn)
    (l' : DeviceLink Url) : Prop :=
  ∃ env, e = .hostReads env ∧ env.findUser info = true ∧
    l.host.parent_.findInnerConnectionByHost info.host.host = none ∧
    l'.host.parent_.findInnerConnectionByHost info.host.host = some c ∧
    l'.host.parent_.clients c = some info

/-- What the device and the texts on their way say is so, when it has been admitted. -/
structure Agrees (types : CommonTypes Url) (email : JsString) (info : UserAuthInfo)
    (admitted : Prop) (l : DeviceLink Url) : Prop where
  login : PlainLogin types email l.device
  authInfo : l.device.authInfo = info
  toHost : ∀ data ∈ l.toHost, Introduces types.toNetTypes info data
  toDevice : ∀ data ∈ l.toDevice, SaysOk APPROVE_COMMAND SERVER_WHO_ARE_YOU_COMMAND data → admitted
  events : ∀ i, .InnerClientConnectedEvent i ∈ l.device.events → i = info ∧ admitted

theorem Agrees.mono {A B : Prop} (h : Agrees types email info A l) (hAB : A → B) :
    Agrees types email info B l :=
  ⟨h.login, h.authInfo, h.toHost, fun data hd hs => hAB (h.toDevice data hd hs),
    fun i hi => (h.events i hi).imp_right hAB⟩

theorem mem_arriving {s s' : InnerServerHandlerHost} {data : Str} {P : Written → Prop}
    (hP : InnerServerHandlerHost.Sends P s s') (hd : data ∈ arriving c s s') :
    ∃ w, w.client = c ∧ w.data = data ∧ P w := by
  obtain ⟨w, hw, rfl⟩ := List.mem_map.1 hd
  rw [List.mem_filter] at hw
  exact ⟨w, of_decide_eq_true hw.2, rfl, hP.mem_sent hw.1⟩

/-- A step of the server adds texts for the device; one that approves a login goes with a
registration. -/
theorem Agrees.withHost {A B : Prop} {host : InnerServerHandlerHost}
    {e : InnerServerHandlerHost.Event} (h : Agrees types email info A l)
    (hs : InnerServerHandlerHost.step types.toNetTypes l.host e = some host)
    (hB : ∀ read env user, e = .dataReceived c read env →
      InnerServerHandlerHost.whoAreYouInfo types.toNetTypes read = some user →
      l.host.Admits types.toNetTypes env user → l.host.Registers c user host → B) :
    Agrees types email info (A ∨ B) (l.withHost c host) := by
  refine ⟨h.login, h.authInfo, h.toHost, ?_, fun i hi => (h.events i hi).imp_right .inl⟩
  intro data hd hsaid
  obtain hd | hd := List.mem_append.1 hd
  · exact .inl (h.toDevice data hd hsaid)
  · obtain ⟨w, rfl, rfl, hw⟩ := mem_arriving (InnerServerHandlerHost.step_vouched hs) hd
    obtain ⟨read, env, user, he, hinfo, ha, hr⟩ := hw hsaid
    exact .inr (hB read env user he hinfo ha hr)

theorem Agrees.step {A : Prop} {e : LinkTurn} (h : Agrees types email info A l)
    (hs : step types json c l e = some l') :
    Agrees types email info (A ∨ Admitting c info l e l') l' := by
  cases e with
  | host e =>
    rw [DeviceLink.step, Option.ite_none_left_eq_some] at hs
    obtain ⟨hr, hs⟩ := hs
    obtain ⟨host, hhost, rfl⟩ := Option.map_eq_some_iff.1 hs
    apply h.withHost hhost
    rintro read env user rfl
    simp [readsFrom] at hr
  | deviceReads denv =>
    rw [DeviceLink.step] at hs
    split at hs
    · cases hs
    rename_i read toDevice hto
    obtain ⟨device, hd, rfl⟩ := Option.map_eq_some_iff.1 hs
    rw [deviceRead, Option.ite_none_right_eq_some] at hd
    have hrest : ∀ data ∈ toDevice, SaysOk APPROVE_COMMAND SERVER_WHO_ARE_YOU_COMMAND data → A :=
      fun data hm => h.toDevice data (hto ▸ List.mem_cons_of_mem read hm)
    apply Agrees.mono (A := A) _ .inl
    obtain hr | ⟨hsaid, rfl⟩ := InnerServerHandler.DataReceived_replies h.login hd.2
    · have hinfo : device.authInfo = l.device.authInfo := congrArg (·.authInfo) hr.config_
      obtain ⟨ws, hws, hP⟩ := hr.writes
      refine ⟨?_, hinfo.trans h.authInfo, ?_, hrest, fun i hi => h.events i (hr.events i hi)⟩
      · have hl := h.login
        exact ⟨hinfo ▸ hl.account, hl.no_quote, hl.nul_free⟩
      · intro data hd
        obtain hd | hd := List.mem_append.1 hd
        · exact h.toHost data hd
        · rw [InnerServerHandler.sent_of_writes hws] at hd
          obtain ⟨w, hw, rfl⟩ := List.mem_map.1 hd
          rw [h.authInfo] at hP
          exact hP w (List.mem_of_mem_filter hw)
    · have hA : A := h.toDevice read (hto ▸ List.mem_cons_self) hsaid
      have hsent : l.device.sent (l.device.PostEvent
          (.InnerClientConnectedEvent l.device.authInfo)) = [] :=
        InnerServerHandler.sent_of_writes (List.append_nil _).symm
      refine ⟨⟨h.login.account, h.login.no_quote, h.login.nul_free⟩, h.authInfo, ?_, hrest, ?_⟩
      · rw [hsent, List.append_nil]
        exact h.toHost
      · intro i hi
        obtain hi | hi := List.mem_append.1 hi
        · exact h.events i hi
        · cases List.mem_singleton.1 hi
          exact ⟨h.authInfo, hA⟩
  | hostReads env =>
    rw [DeviceLink.step] at hs
    split at hs
    · cases hs
    rename_i read toHost hto
    obtain ⟨host, hhost, rfl⟩ := Option.map_eq_some_iff.1 hs
    have hrest : Agrees types email info A { l with toHost } :=
      ⟨h.login, h.authInfo, fun data hm => h.toHost data (hto ▸ List.mem_cons_of_mem read hm),
        h.toDevice, h.events⟩
    apply hrest.withHost hhost
    rintro read' env' user he hinfo ha hr
    cases he
    obtain rfl := h.toHost read (hto ▸ List.mem_cons_self) user hinfo ha.1
    refine ⟨env, rfl, ha.2.1, ha.2.2.1, ?_, ?_⟩
    · have hself : (l.host.parent_.registerInnerConnectionByUser user c).connections_
          user.host.host = some c := HttpServerHost.register_connections_self
      rw [← hr.parent_] at hself
      exact hself
    · have hself : (l.host.parent_.registerInnerConnectionByUser user c).clients c = some user :=
        HttpServerHost.register_clients_self
      rw [← hr.parent_] at hself
      exact hself

/-- A device that says that it is connected has been admitted: in that step of the run the store
knew its account, and its host got this connection, whatever the pages, the pings and the other
devices did in between. -/
theorem connected_admitted (hl : PlainLogin types email l.device) (hhost : l.toHost = [])
    (hdevice : l.toDevice = [])
    (hevents : ∀ i, .InnerClientConnectedEvent i ∉ l.device.events) {es : List LinkTurn}
    (hr : run (step types json c) l es = some l')
    (hi : .InnerClientConnectedEvent info ∈ l'.device.events) :
    info = l.device.authInfo ∧ Happens (step types json c) (Admitting c info) l es := by
  have hstart : Agrees types email l.device.authInfo False l := by
    refine ⟨hl, rfl, ?_, ?_, fun i hi => absurd hi (hevents i)⟩
    · rw [hhost]
      exact fun data hd => absurd hd List.not_mem_nil
    · rw [hdevice]
      exact fun data hd => absurd hd List.not_mem_nil
  have hend := happens_of_invariant (I := Agrees types email l.device.authInfo)
    (P := Admitting c l.device.authInfo) (fun A B u hAB h => h.mono hAB) hstart
    (fun B u e u' h hs => h.step hs) hr
  obtain ⟨rfl, hB⟩ := hend.events info hi
  exact ⟨rfl, hB.resolve_left id⟩

open InnerServerHandler in
theorem logged_in_mike : ∃ l', run (step twoHosts siteTexts 0) mikeLink
      [.host (.accepted .calm), .deviceReads calmDevice, .hostReads .calm,
        .deviceReads calmDevice] = some l' ∧
    l'.device.events = [.InnerClientConnectedEvent (accountDevice "mike@mail.com").authInfo] := by
  have h : (run (step twoHosts siteTexts 0) mikeLink
      [.host (.accepted .calm), .deviceReads calmDevice, .hostReads .calm,
        .deviceReads calmDevice]).map (·.device.events) =
      some [.InnerClientConnectedEvent (accountDevice "mike@mail.com").authInfo] := by
    rfl
  obtain ⟨l', hr, he⟩ := Option.map_eq_some_iff.1 h
  exact ⟨l', hr, he⟩

open InnerServerHandler in
theorem connected_admitted_mike :
    Happens (step twoHosts siteTexts 0) (Admitting 0 (accountDevice "mike@mail.com").authInfo)
      mikeLink [.host (.accepted .calm), .deviceReads calmDevice, .hostReads .calm,
        .deviceReads calmDevice] := by
  obtain ⟨l', hr, he⟩ := logged_in_mike
  have hi : .InnerClientConnectedEvent (accountDevice "mike@mail.com").authInfo ∈
      l'.device.events := he ▸ List.mem_singleton_self _
  exact (connected_admitted arrives_mikeLink.login.toPlainLogin rfl rfl
    (fun _ h => absurd h List.not_mem_nil) hr hi).2

end DeviceLink

end SiteOnYourDevice
