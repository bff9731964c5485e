import SiteOnYourDevice.InnerServerHandlerHost

namespace SiteOnYourDevice
open CString Sds Transition
set_option relaxedAutoImplicit false
set_option autoImplicit true

variable {net : NetTypes} {env : Env}

namespace HttpServerHost

/-- A connection with a valid info is the one stored under the host it names. -/
structure Owned (net : NetTypes) (s : HttpServerHost) : Prop where
  info : ∀ c hinf, s.clients c = some hinf → hinf.isValid net = true →
    s.connections_ hinf.host.host = some c
  fresh : ∀ c, s.accepted ≤ c → s.clients c = none

variable {s : HttpServerHost} {hinf : UserAuthInfo} {host : Str}

theorem Owned.init : Owned net .init := by
  apply Owned.mk
  · intro c hinf hc
    cases hc
  · intro c _
    rfl

theorem Owned.live_lt (h : Owned net s) (hc : s.clients c = some hinf) : c < s.accepted := by
  by_contra hle
  rw [h.fresh c (not_lt.1 hle)] at hc
  cases hc

theorem Owned.accept (h : Owned net s) : Owned net s.accept := by
  apply Owned.mk
  · intro c hinf hc hv
    by_cases hca : c = s.accepted
    · subst hca
      rw [accept_clients_self] at hc
      obtain rfl := Option.some.inj hc
      rw [UserAuthInfo.empty_invalid] at hv
      cases hv
    · rw [accept_clients_of_ne hca] at hc
      exact h.info c hinf hc hv
  · intro c hc
    have hlt : s.accepted < c := hc
    rw [accept_clients_of_ne hlt.ne', h.fresh c hlt.le]

theorem Owned.close_entry (h : Owned net s) (hd : s.connections_ host = some d) (hne : c ≠ d) :
    (s.close net c).connections_ host = some d := by
  rw [close_connections_of_ne, hd]
  rintro hinf hc hv rfl
  rw [h.info c hinf hc hv] at hd
  exact hne (Option.some.inj hd)

theorem Owned.close (h : Owned net s) (c : ClientId) : Owned net (s.close net c) := by
  apply Owned.mk
  · intro d hinf hd hv
    have hne : d ≠ c := by
      rintro rfl
      rw [close_clients_self] at hd
      cases hd
    rw [close_clients_of_ne hne] at hd
    exact h.close_entry (h.info d hinf hd hv) hne.symm
  · intro d hd
    rw [close_accepted] at hd
    by_cases hne : d = c
    · rw [hne, close_clients_self]
    · rw [close_clients_of_ne hne, h.fresh d hd]

/-- A connection may take a host that no connection has, also in place of another one. -/
theorem Owned.register (h : Owned net s) {hinf user : UserAuthInfo} (hc : s.clients c = some hinf)
    (hfree : s.connections_ user.host.host = none) :
    Owned net (s.registerInnerConnectionByUser user c) := by
  apply Owned.mk
  · intro d hinf' hd hv
    by_cases hne : d = c
    · subst hne
      rw [register_clients_self] at hd
      obtain rfl := Option.some.inj hd
      exact register_connections_self
    · rw [register_clients_of_ne hne] at hd
      have hdc := h.info d hinf' hd hv
      have hhost : hinf'.host.host ≠ user.host.host := by
        intro he
        rw [he, hfree] at hdc
        cases hdc
      rw [register_connections_of_ne hhost, hdc]
  · intro d hd
    have hlt : c < d := (h.live_lt hc).trans_le hd
    rw [register_clients_of_ne hlt.ne', h.fresh d hd]

/-- The two copies of the relation agree: an entry points to a live connection whose info is
valid and names its host, and a connection with a valid info has the entry of its host. -/
structure Linked (net : NetTypes) (s : HttpServerHost) : Prop where
  entry : ∀ host c, s.connections_ host = some c →
    ∃ hinf, s.clients c = some hinf ∧ hinf.host.host = host ∧ hinf.isValid net = true
  info : ∀ c hinf, s.clients c = some hinf → hinf.isValid net = true →
    s.connections_ hinf.host.host = some c
  fresh : ∀ c, s.accepted ≤ c → s.clients c = none

theorem Linked.sound (h : Linked net s) : s.Sound := by
  intro host c hc
  obtain ⟨hinf, hcl, hhost, _⟩ := h.entry host c hc
  exact ⟨hinf, hcl, hhost⟩

theorem Linked.owned (h : Linked net s) : Owned net s := ⟨h.info, h.fresh⟩

theorem Owned.linked (h : Owned net s) (hentry : ∀ host c, s.connections_ host = some c →
    ∃ hinf, s.clients c = some hinf ∧ hinf.host.host = host ∧ hinf.isValid net = true) :
    Linked net s :=
  ⟨hentry, h.info, h.fresh⟩

theorem Linked.init : Linked net .init := by
  apply Owned.init.linked
  intro host c hc
  cases hc

theorem Linked.accept (h : Linked net s) : Linked net s.accept := by
  apply h.owned.accept.linked
  intro host c hc
  obtain ⟨hinf, hcl, hrest⟩ := h.entry host c hc
  have hne : c ≠ s.accepted := (h.owned.live_lt hcl).ne
  exact ⟨hinf, (accept_clients_of_ne hne).trans hcl, hrest⟩

theorem Linked.close (h : Linked net s) (c : ClientId) : Linked net (s.close net c) := by
  apply (h.owned.close c).linked
  intro host d hd
  by_cases hhost : ∃ hinf, s.clients c = some hinf ∧ hinf.isValid net = true ∧
      hinf.host.host = host
  · obtain ⟨hinf, hc, hv, rfl⟩ := hhost
    rw [close_connections_self hc hv] at hd
    cases hd
  · rw [close_connections_of_ne fun hinf hc hv he => hhost ⟨hinf, hc, hv, he⟩] at hd
    obtain ⟨hinf, hcl, he, hv⟩ := h.entry host d hd
    have hne : d ≠ c := by
      rintro rfl
      exact hhost ⟨hinf, hcl, hv, he⟩
    exact ⟨hinf, (close_clients_of_ne hne).trans hcl, he, hv⟩

/-- A connection without a valid info may take a host that no connection has. -/
theorem Linked.register (h : Linked net s) {hinf user : UserAuthInfo}
    (hc : s.clients c = some hinf) (hinv : ¬ hinf.isValid net = true)
    (hu : user.isValid net = true) (hfree : s.connections_ user.host.host = none) :
    Linked net (s.registerInnerConnectionByUser user c) := by
  apply (h.owned.register hc hfree).linked
  intro host d hd
  by_cases hhost : host = user.host.host
  · subst hhost
    rw [register_connections_self] at hd
    obtain rfl := Option.some.inj hd
    exact ⟨user, register_clients_self, rfl, hu⟩
  · rw [register_connections_of_ne hhost] at hd
    obtain ⟨hinf', hcl, he, hv⟩ := h.entry host d hd
    have hne : d ≠ c := by
      rintro rfl
      rw [hc] at hcl
      exact hinv (Option.some.inj hcl ▸ hv)
    exact ⟨hinf', (register_clients_of_ne hne).trans hcl, he, hv⟩

/-- A connection that has a host and takes another one leaves its first entry behind. -/
theorem Linked.not_sound_register (h : Linked net s) {hinf user : UserAuthInfo}
    (hc : s.clients c = some hinf) (hv : hinf.isValid net = true)
    (hfree : s.connections_ user.host.host = none) :
    ¬ (s.registerInnerConnectionByUser user c).Sound := by
  intro hs
  have hold := h.info c hinf hc hv
  have hne : hinf.host.host ≠ user.host.host := by
    intro he
    rw [he, hfree] at hold
    cases hold
  obtain ⟨hinf', hc', he⟩ := hs _ c ((register_connections_of_ne hne).trans hold)
  rw [register_clients_self] at hc'
  obtain rfl := Option.some.inj hc'
  exact hne he.symm

end HttpServerHost

namespace InnerServerHandlerHost
open InnerServerCommandSeqParser HttpServerHost

/-- The info in the text of an `ok who_are_you` response frame. -/
def whoAreYouInfo (net : NetTypes) (read : Str) : Option UserAuthInfo :=
  match scanCommand read with
  | .command seq _ cmd _ =>
    match sdssplitargs cmd with
    | some (state_command :: command :: uauthstr :: _) =>
      if seq = RESPONCE_COMMAND ∧ IS_EQUAL_COMMAND state_command SUCCESS_COMMAND ∧
          IS_EQUAL_COMMAND command SERVER_WHO_ARE_YOU_COMMAND then
        some ((userAuthInfoOfString net (cstr uauthstr)).getD .empty)
      else none
    | _ => none
  | .malformed _ => none

/-- The checks between the info and its registration: it is valid, the store knows the user, no
connection has the host, and the approval can be written. -/
def Admits (net : NetTypes) (env : Env) (s : InnerServerHandlerHost) (user : UserAuthInfo) : Prop :=
  user.isValid net = true ∧ env.findUser user = true ∧
    s.parent_.findInnerConnectionByHost user.host.host = none ∧
    env.writeError s.writes.length = none

/-- An accepted `ok who_are_you` on a connection that has a host already. -/
def Reauthenticates (net : NetTypes) (s : InnerServerHandlerHost) (e : Event) : Prop :=
  ∃ c read env hinf user, e = .dataReceived c read env ∧ s.parent_.clients c = some hinf ∧
    hinf.isValid net = true ∧ whoAreYouInfo net read = some user ∧ Admits net env s user

/-- What most steps do to the registry: nothing, or the close of a connection. -/
inductive Quiet (net : NetTypes) (h : HttpServerHost) : HttpServerHost → Prop
  | same : Quiet net h h
  | closed (c : ClientId) : Quiet net h (h.close net c)

theorem Quiet.linked (hq : Quiet net h h') (hl : Linked net h) : Linked net h' := by
  cases hq with
  | same => exact hl
  | closed c => exact hl.close c

theorem Quiet.of_eq (h : h' = h'') : Quiet net h'' h' := h ▸ .same

theorem Quiet.of_close (h : h' = h''.close net c) : Quiet net h'' h' := h ▸ .closed c

/-- What the end of a connection puts on the channel of the clients' states. -/
def farewell (net : NetTypes) (h : HttpServerHost) (c : ClientId) : List Str :=
  match h.clients c with
  | none => []
  | some hinf =>
    if hinf.isValid net then [SERVER_NOTIFY_CLIENT_DISCONNECTED_1S hinf.host.host] else []

/-- A part of a step leaves the registry and its channel as they are, or ends the connection `c`
in both. -/
inductive Ends (net : NetTypes) (c : ClientId) (s s' : InnerServerHandlerHost) : Prop
  | same (hp : s'.parent_ = s.parent_) (hm : s'.clients_state = s.clients_state)
  | closed (hp : s'.parent_ = s.parent_.close net c)
      (hm : s'.clients_state = s.clients_state ++ farewell net s.parent_ c)

theorem Ends.quiet (h : Ends net c s s') : Quiet net s.parent_ s'.parent_ := by
  cases h with
  | same hp => exact .of_eq hp
  | closed hp => exact .of_close hp

theorem closeClient_clients_state (s : InnerServerHandlerHost) (c : ClientId) :
    (s.closeClient net c).clients_state = s.clients_state ++ farewell net s.parent_ c := by
  cases hc : s.parent_.clients c with
  | none => simp only [closeClient, farewell, hc, List.append_nil]
  | some hinf =>
    by_cases hv : hinf.isValid net = true
    · simp only [closeClient, farewell, unRegisterInnerConnectionByHost, hc, hv, if_true,
        publish_clients_state]
    · simp only [closeClient, farewell, unRegisterInnerConnectionByHost, hc, hv, if_false,
        Bool.false_eq_true, List.append_nil]

theorem Ends.closeClient {t : InnerServerHandlerHost} (c : ClientId) (hp : t.parent_ = s.parent_)
    (hm : t.clients_state = s.clients_state) : Ends net c s (t.closeClient net c) := by
  apply Ends.closed
  · rw [closeClient_parent_, hp]
  · rw [closeClient_clients_state, hm, hp]

theorem failWith_ends (c : ClientId) (id : cmd_seq_t) (fmt : Fmt) (s : InnerServerHandlerHost) :
    Ends net c s (s.failWith net env c id fmt) := .closeClient c rfl rfl

theorem handlePong_ends (c : ClientId) (id : cmd_seq_t) (args : List Str)
    (s : InnerServerHandlerHost) : Ends net c s (s.handlePong net env c id args) := by
  cases args with
  | nil => exact .same rfl rfl
  | cons w args =>
    simp only [handlePong]
    split
    · rename_i err t ht
      obtain rfl : (s.writeApprove env c id PING_COMMAND_APPROVE_SUCCESS).2 = t :=
        congrArg Prod.snd ht
      exact .closeClient c rfl rfl
    · rename_i t ht
      obtain rfl : (s.writeApprove env c id PING_COMMAND_APPROVE_SUCCESS).2 = t :=
        congrArg Prod.snd ht
      exact .same rfl rfl

/-- What the registration of a connection does to the registry and its channel. -/
structure Registers (c : ClientId) (user : UserAuthInfo) (s s' : InnerServerHandlerHost) :
    Prop where
  parent_ : s'.parent_ = s.parent_.registerInnerConnectionByUser user c
  clients_state : s'.clients_state =
    s.clients_state ++ [SERVER_NOTIFY_CLIENT_CONNECTED_1S user.host.host]

/-- A `who_are_you` that is admitted registers its connection, any other one ends it. -/
theorem handleWhoAreYou_cases (net : NetTypes) (env : Env) (c : ClientId) (id : cmd_seq_t)
    (str : Str) (s : InnerServerHandlerHost) :
    let user := (userAuthInfoOfString net (cstr str)).getD .empty
    Admits net env s user ∧ Registers c user s (s.handleWhoAreYou net env c id str) ∨
    ¬ Admits net env s user ∧ Ends net c s (s.handleWhoAreYou net env c id str) := by
  intro user
  rcases hw : s.writeApprove env c id SERVER_WHO_ARE_YOU_COMMAND_APPROVE_SUCCESS with ⟨err, t⟩
  have herr : env.writeError s.writes.length = err := congrArg Prod.fst hw
  have hp : t.parent_ = s.parent_ := (congrArg (fun x => x.2.parent_) hw).symm
  have hm : t.clients_state = s.clients_state := (congrArg (fun x => x.2.clients_state) hw).symm
  by_cases hv : user.isValid net = true
  · by_cases hf : env.findUser user = true
    · cases hh : s.parent_.findInnerConnectionByHost user.host.host with
      | some d =>
        right
        constructor
        · intro ha
          rw [ha.2.2.1] at hh
          cases hh
        · simp only [handleWhoAreYou, user, hv, hf, hh, if_true]
          exact failWith_ends c id _ s
      | none =>
        cases err with
        | some err =>
          right
          constructor
          · intro ha
            rw [ha.2.2.2] at herr
            cases herr
          · simp only [handleWhoAreYou, user, hv, hf, hh, if_true, hw]
            exact .closeClient c hp hm
        | none =>
          left
          constructor
          · exact ⟨hv, hf, hh, herr⟩
          · simp only [handleWhoAreYou, user, hv, hf, hh, if_true, hw]
            exact ⟨congrArg (·.registerInnerConnectionByUser user c) hp, congrArg (· ++ _) hm⟩
    · right
      constructor
      · intro ha
        exact hf ha.2.1
      · simp only [handleWhoAreYou, user, hv, hf, if_true, if_false, Bool.false_eq_true]
        exact failWith_ends c id _ s
  · right
    constructor
    · intro ha
      exact hv ha.1
    · simp only [handleWhoAreYou, user, hv, if_false, Bool.false_eq_true]
      exact failWith_ends c id _ s

/-- A response that is no `ok who_are_you` with an info leaves the registry or ends its
connection. -/
theorem handleInnerResponceCommand_ends (c : ClientId) (id : cmd_seq_t) (argv : List Str)
    (s : InnerServerHandlerHost)
    (h : ∀ state command str args, argv = state :: command :: str :: args →
      ¬ (IS_EQUAL_COMMAND state SUCCESS_COMMAND ∧
        IS_EQUAL_COMMAND command SERVER_WHO_ARE_YOU_COMMAND)) :
    Ends net c s (s.handleInnerResponceCommand net env c id argv) := by
  match argv with
  | [] | [_] => exact .same rfl rfl
  | state :: command :: args =>
    simp only [handleInnerResponceCommand]
    split
    · rename_i hs
      split
      · exact handlePong_ends c id args s
      · split
        · rename_i hw
          cases args with
          | nil => exact .same rfl rfl
          | cons str args => exact absurd ⟨hs, hw⟩ (h state command str args rfl)
        · exact .same rfl rfl
    · exact .same rfl rfl

theorem handleInnerRequestCommand_ends (c : ClientId) (id : cmd_seq_t) (argv : List Str)
    (s : InnerServerHandlerHost) :
    Ends net c s (s.handleInnerRequestCommand env c id argv) := by
  cases argv with
  | nil => exact .same rfl rfl
  | cons w argv =>
    simp only [handleInnerRequestCommand]
    split <;> exact .same rfl rfl

/-- A handler call for a response `ok who_are_you` that carries the info `user`. -/
def IsWhoAreYou (net : NetTypes) (seq : cmd_id_t) (argv : List Str) (user : UserAuthInfo) : Prop :=
  ∃ state command str args, argv = state :: command :: str :: args ∧ seq = RESPONCE_COMMAND ∧
    (IS_EQUAL_COMMAND state SUCCESS_COMMAND ∧
      IS_EQUAL_COMMAND command SERVER_WHO_ARE_YOU_COMMAND) ∧
    (userAuthInfoOfString net (cstr str)).getD .empty = user

theorem whoAreYouInfo_eq_some {read : Str} {seq : cmd_id_t} {id : cmd_seq_t} {cmd buff : Str}
    {argv : List Str} {user : UserAuthInfo} (hscan : scanCommand read = .command seq id cmd buff)
    (hargv : sdssplitargs cmd = some argv) :
    whoAreYouInfo net read = some user ↔ IsWhoAreYou net seq argv user := by
  simp only [whoAreYouInfo, hscan, hargv, IsWhoAreYou]
  match argv with
  | [] | [_] | [_, _] => simp
  | state :: command :: str :: args => simp [and_assoc]

/-- What a call for the connection `c` does to the registry, by the infos `P` it may carry: an
admitted one registers the connection, without one it is left alone or ended. -/
def Logs (net : NetTypes) (env : Env) (c : ClientId) (P : UserAuthInfo → Prop)
    (s s' : InnerServerHandlerHost) : Prop :=
  (∃ user, P user ∧ Admits net env s user ∧ Registers c user s s') ∨
    (∀ user, P user → ¬ Admits net env s user) ∧ Ends net c s s'

theorem responce_logs (net : NetTypes) (env : Env) (c : ClientId) (id : cmd_seq_t)
    (argv : List Str) (t : InnerServerHandlerHost) :
    Logs net env c (IsWhoAreYou net RESPONCE_COMMAND argv) t
      (t.handleInnerResponceCommand net env c id argv) := by
  by_cases hinfo : ∃ state command str args, argv = state :: command :: str :: args ∧
      (IS_EQUAL_COMMAND state SUCCESS_COMMAND ∧
        IS_EQUAL_COMMAND command SERVER_WHO_ARE_YOU_COMMAND)
  · obtain ⟨state, command, str, args, rfl, hs, hc⟩ := hinfo
    have hping : IS_EQUAL_COMMAND command PING_COMMAND = false :=
      IS_EQUAL_COMMAND_other hc (by decide) (by decide)
    have hhandler : t.handleInnerResponceCommand net env c id
        (state :: command :: str :: args) = t.handleWhoAreYou net env c id str := by
      simp only [handleInnerResponceCommand, hs, hping, hc, if_true, Bool.false_eq_true, if_false]
    rw [hhandler]
    obtain ⟨ha, hr⟩ | ⟨hn, he⟩ := handleWhoAreYou_cases net env c id str t
    · exact .inl ⟨_, ⟨state, command, str, args, rfl, rfl, ⟨hs, hc⟩, rfl⟩, ha, hr⟩
    · right
      constructor
      · rintro user ⟨_, _, _, _, he, _, _, rfl⟩
        cases he
        exact hn
      · exact he
  · right
    constructor
    · rintro user ⟨state, command, str, args, he, _, hsc, _⟩
      exact absurd ⟨state, command, str, args, he, hsc⟩ hinfo
    · apply handleInnerResponceCommand_ends
      intro state command str args he hsc
      exact hinfo ⟨state, command, str, args, he, hsc⟩

theorem callHandler_logs (net : NetTypes) (env : Env) (c : ClientId) (seq : cmd_id_t)
    (id : cmd_seq_t) (argv : List Str) (t : InnerServerHandlerHost) :
    Logs net env c (IsWhoAreYou net seq argv) t
      ((seqParser net env c).callHandler ⟨seq, id, argv⟩ t) := by
  by_cases hresp : seq = RESPONCE_COMMAND
  · subst hresp
    exact responce_logs net env c id argv t
  · right
    constructor
    · rintro user ⟨_, _, _, _, _, hseq, _⟩
      exact absurd hseq hresp
    by_cases hreq : seq = REQUEST_COMMAND
    · subst hreq
      exact handleInnerRequestCommand_ends c id argv t
    · simp only [callHandler, if_neg hreq, if_neg hresp]
      split <;> exact .same rfl rfl

theorem refuse_ends (env : Env) (c : ClientId) (id : cmd_seq_t) (buff : Str)
    (hp : t.parent_ = s.parent_) (hm : t.clients_state = s.clients_state) :
    Ends net c s ((seqParser net env c).refuse id buff t) := .closeClient c hp hm

@[simp] theorem processRequest_clients_state (id : cmd_seq_t) (argv : Option (List Str))
    (s : InnerServerHandlerHost) : (s.processRequest id argv).clients_state = s.clients_state := by
  rw [processRequest_eq]

/-- The callbacks of `processRequest` leave what the calls after it look at. -/
theorem Logs.of_processRequest {id : cmd_seq_t} {argv : Option (List Str)}
    {P : UserAuthInfo → Prop} (h : Logs net env c P (s.processRequest id argv) s') :
    Logs net env c P s s' := by
  have hadmits : ∀ user,
      Admits net env (s.processRequest id argv) user ↔ Admits net env s user := by
    intro user
    rw [Admits, Admits, processRequest_parent_, processRequest_writes]
  obtain ⟨user, hP, ha, hr⟩ | ⟨hn, he⟩ := h
  · left
    obtain ⟨hp, hm⟩ := hr
    rw [processRequest_parent_] at hp
    rw [processRequest_clients_state] at hm
    exact ⟨user, hP, (hadmits user).1 ha, hp, hm⟩
  · right
    constructor
    · intro user hP ha
      exact hn user hP ((hadmits user).2 ha)
    · cases he with
      | same hp hm =>
        exact .same (hp.trans processRequest_parent_)
          (hm.trans (processRequest_clients_state id argv s))
      | closed hp hm =>
        rw [processRequest_parent_] at hp hm
        rw [processRequest_clients_state] at hm
        exact .closed hp hm

/-- A read that carries an admitted info registers its connection; any other one leaves the
registry or ends the connection. -/
theorem DataReceived_logs (net : NetTypes) (env : Env) (c : ClientId) (read : Str)
    (s : InnerServerHandlerHost) :
    Logs net env c (fun user => whoAreYouInfo net read = some user) s
      ((seqParser net env c).DataReceived read s) := by
  by_cases hr : read = []
  · subst hr
    right
    constructor
    · intro user hu
      cases hu
    · exact .closeClient c rfl rfl
  cases hscan : scanCommand read with
  | malformed buff =>
    right
    rw [DataReceived, if_neg hr, handleInnerDataReceived_malformed hscan, whoAreYouInfo, hscan]
    constructor
    · intro user hu
      cases hu
    · exact refuse_ends env c _ buff rfl rfl
  | command seq id cmd buff =>
    cases hargv : sdssplitargs cmd with
    | none =>
      right
      simp only [DataReceived, if_neg hr, handleInnerDataReceived, whoAreYouInfo, hscan, hargv]
      constructor
      · intro user hu
        cases hu
      · exact refuse_ends env c id buff processRequest_parent_
          (processRequest_clients_state id none s)
    | some argv =>
      rw [DataReceived, if_neg hr, handleInnerDataReceived_command hscan hargv]
      simp only [whoAreYouInfo_eq_some hscan hargv, dispatch]
      exact (callHandler_logs net env c seq id argv _).of_processRequest

theorem pingClient_ends (s : InnerServerHandlerHost) (c : ClientId) :
    Ends net c s (s.pingClient net env c) := by
  simp only [pingClient]
  split
  · rename_i err t ht
    obtain rfl : (s.writeRequest env c PING_COMMAND_REQ).2 = t := congrArg Prod.snd ht
    exact .closeClient c rfl rfl
  · rename_i t ht
    obtain rfl : (s.writeRequest env c PING_COMMAND_REQ).2 = t := congrArg Prod.snd ht
    exact .same rfl rfl

theorem pingClients_linked (cs : List ClientId) (h : Linked net s.parent_) :
    Linked net (cs.foldl (pingClient net env) s).parent_ := by
  induction cs generalizing s with
  | nil => exact h
  | cons c cs ih => exact ih ((pingClient_ends s c).quiet.linked h)

/-- What a step does to the registry and its channel; the listener thread leaves both alone. -/
inductive RegistryStep (net : NetTypes) (s : InnerServerHandlerHost) :
    Event → InnerServerHandlerHost → Prop
  | accepted (env : Env) (hp : s'.parent_ = s.parent_.accept)
      (hm : s'.clients_state = s.clients_state) : RegistryStep net s (.accepted env) s'
  | dataReceived (c : ClientId) (read : Str) (env : Env) (hinf : UserAuthInfo)
      (hc : s.parent_.clients c = some hinf)
      (h : Logs net env c (fun user => whoAreYouInfo net read = some user) s s') :
      RegistryStep net s (.dataReceived c read env) s'
  | timerEmited (env : Env) : RegistryStep net s (.timerEmited env) (s.TimerEmited net env)
  | handleMessage (msg : Str) (env : Env) (hp : s'.parent_ = s.parent_)
      (hm : s'.clients_state = s.clients_state) : RegistryStep net s (.handleMessage msg env) s'
  | subscribeRequest (hp : s'.parent_ = s.parent_) (hm : s'.clients_state = s.clients_state) :
      RegistryStep net s .subscribeRequest s'

theorem step_registry (hs : step net s e = some s') : RegistryStep net s e s' := by
  cases e with
  | accepted env =>
    cases hs
    exact .accepted env rfl rfl
  | dataReceived c read env =>
    simp only [step] at hs
    split at hs
    · rename_i hlive
      cases hs
      obtain ⟨hinf, hc⟩ := Option.isSome_iff_exists.1 hlive.1
      exact .dataReceived c read env hinf hc (DataReceived_logs net env c read s)
    · cases hs
  | timerEmited env =>
    cases hs
    exact .timerEmited env
  | handleMessage msg env =>
    simp only [step] at hs
    split at hs
    · cases handleMessage_cases hs <;> exact .handleMessage msg env rfl rfl
    · cases hs
  | subscribeRequest =>
    obtain ⟨rc, _, rfl⟩ := Option.map_eq_some_iff.1 hs
    exact .subscribeRequest rfl rfl

theorem step_linked (hl : Linked net s.parent_) (hs : step net s e = some s')
    (hn : ¬ Reauthenticates net s e) : Linked net s'.parent_ := by
  cases step_registry hs with
  | accepted env hp =>
    rw [hp]
    exact hl.accept
  | dataReceived c read env hinf hc h =>
    obtain ⟨user, hinfo, ha, hr⟩ | ⟨_, he⟩ := h
    · rw [hr.parent_]
      exact hl.register hc (fun hv => hn ⟨c, read, env, hinf, user, rfl, hc, hv, hinfo, ha⟩)
        ha.1 ha.2.2.1
    · exact he.quiet.linked hl
  | timerEmited env => exact pingClients_linked _ hl
  | handleMessage msg env hp =>
    rw [hp]
    exact hl
  | subscribeRequest hp =>
    rw [hp]
    exact hl

/-- When a connection takes a second host the entry of its first one names no host of it. -/
theorem step_not_sound (hl : Linked net s.parent_) (hs : step net s e = some s')
    (hr : Reauthenticates net s e) : ¬ s'.parent_.Sound := by
  obtain ⟨c, read, env, hinf, user, rfl, hc, hv, hinfo, ha⟩ := hr
  cases step_registry hs with
  | dataReceived _ _ _ _ _ h =>
    obtain ⟨user', hinfo', _, hreg⟩ | ⟨hno, _⟩ := h
    · rw [hinfo] at hinfo'
      cases hinfo'
      rw [hreg.parent_]
      exact hl.not_sound_register hc hv ha.2.2.1
    · exact absurd ha (hno user hinfo)

/-- The registry never dangles along a run exactly when no connection that has a host is
accepted for another one. -/
theorem always_sound_iff (net : NetTypes) (es : List Event) :
    Always (step net) (fun s => s.parent_.Sound) init es ↔
      Along (step net) (fun s e _ => ¬ Reauthenticates net s e) init es := by
  have hinit : Linked net (init : InnerServerHandlerHost).parent_ := Linked.init
  apply always_iff_along (I := fun s : InnerServerHandlerHost => Linked net s.parent_)
    hinit.sound hinit
  intro s e s' _ hl hs
  have hlinked : ¬ Reauthenticates net s e → Linked net s'.parent_ := step_linked hl hs
  exact ⟨⟨fun hsound hr => step_not_sound hl hs hr hsound, fun hn => (hlinked hn).sound⟩, hlinked⟩

/-- A run in which one connection answers `who_are_you` for two hosts. -/
def twoHosts : List Event :=
  [.accepted .calm, .dataReceived 0 "1 00000000 ok who_are_you u:p:one:80\r\n".toList .calm,
    .dataReceived 0 "1 00000000 ok who_are_you u:p:two:80\r\n".toList .calm]

/-- After it the entry of the first host points to a connection with the name of the second. -/
theorem not_always_sound_twoHosts :
    ¬ Always (step .plain) (fun s => s.parent_.Sound) init twoHosts := by
  intro h
  have hrun : (run (step .plain) init twoHosts).map
      (fun s => (s.parent_.connections_ "one".toList, s.parent_.clients 0)) =
      some (some 0, some ⟨"u".toList, "p".toList, ⟨"two".toList, 80⟩⟩) := by
    decide
  obtain ⟨s, hs, he⟩ := Option.map_eq_some_iff.1 hrun
  obtain ⟨hone, htwo⟩ := Prod.mk.inj he
  obtain ⟨hinf, hc, hhost⟩ := h.at_end hs _ _ hone
  rw [htwo] at hc
  cases hc
  exact absurd hhost (by decide)

end InnerServerHandlerHost

end SiteOnYourDevice
