import SiteOnYourDevice.HostRegistry

namespace SiteOnYourDevice
open CString Sds Transition
set_option relaxedAutoImplicit false
set_option autoImplicit true

variable {net : NetTypes} {env : Env}

/-- A message for a device, taken apart. -/
structure Message where
  host : Str
  rest : Str
  id : cmd_seq_t
  cmd : Str
deriving DecidableEq

namespace InnerServerHandlerHost
open InnerServerCommandSeqParser HttpServerHost

/-- `handleMessage` before its lookup: a text to publish, or the parts of the message. -/
def scanMessage (msg : Str) : Str ⊕ Message :=
  match strchr ' ' (cstr msg) with
  | none => .inl ("UNKNOWN COMMAND: ".toList ++ cstr msg)
  | some (host, space) =>
    let rest := space.tail
    match strtoul (buffText (CID_FMT REQUEST_COMMAND ++ ' ' :: rest ++ END_OF_COMMAND)) with
    | (_, ' ' :: star_seq) =>
      match strchr ' ' star_seq with
      | none => .inl ("PROBLEM EXTRACTING ID: ".toList ++ rest)
      | some (id, cmd) => .inr ⟨host, rest, id, cmd⟩
    | _ => .inl ("PROBLEM EXTRACTING SEQUENCE: ".toList ++ rest)

/-- `handleMessage` from its `Write` on. -/
def writeMessage (env : Env) (fclient : ClientId) (m : Message) (s : InnerServerHandlerHost) :
    Option InnerServerHandlerHost :=
  match s.Write env fclient (forwarded env m.rest) with
  | (some _, s) => s.publishFail CAUSE_NOT_HANDLED m.id m.cmd
  | (none, s') => some { s' with listener := some ⟨m.id, fclient, s.writes.length⟩ }

/-- `handleMessage` is its lookup and its write, when the connection it finds is not deleted. -/
theorem handleMessage_eq (env : Env) (msg : Str) (s : InnerServerHandlerHost) :
    s.handleMessage env msg =
      match scanMessage msg with
      | .inl resp => some (s.publish_command_out resp)
      | .inr m =>
        match s.parent_.findInnerConnectionByHost m.host with
        | none => s.publishFail CAUSE_NOT_CONNECTED m.id m.cmd
        | some fclient =>
          if (s.parent_.clients fclient).isSome then s.writeMessage env fclient m else none := by
  fun_cases scanMessage msg with
  | case1 hsp => simp only [handleMessage, hsp]
  | case2 host space hsp rest n star hstar hid =>
    simp only [handleMessage, hsp]
    rw [hstar]
    simp only [hid, rest]
  | case3 host space hsp rest n star hstar id cmd hid =>
    simp only [handleMessage, hsp]
    rw [hstar]
    simp only [hid]
    rfl
  | case4 host space hsp rest hother =>
    simp only [handleMessage, hsp]
    split
    · rename_i n star hstar
      exact (hother n star hstar).elim
    · rfl

/-- The reads that end their connection: none at all, a frame that cannot be read, a pong whose
approval cannot be written, and an `ok who_are_you` that is not admitted. -/
def EndsConnection (net : NetTypes) (env : Env) (s : InnerServerHandlerHost) (read : Str) : Prop :=
  read = [] ∨
    match scanCommand read with
    | .malformed _ => True
    | .command seq _ cmd _ =>
      match sdssplitargs cmd with
      | none => True
      | some argv =>
        (∃ state command pong args, argv = state :: command :: pong :: args ∧
          seq = RESPONCE_COMMAND ∧ IS_EQUAL_COMMAND state SUCCESS_COMMAND ∧
          IS_EQUAL_COMMAND command PING_COMMAND ∧ env.writeError s.writes.length ≠ none) ∨
        ∃ user, IsWhoAreYou net seq argv user ∧ ¬ Admits net env s user

variable {s s' : InnerServerHandlerHost} {c : ClientId}

theorem handlePong_live (hc : (s.parent_.clients c).isSome = true) {id : cmd_seq_t}
    {args : List Str} (h : args ≠ [] → env.writeError s.writes.length = none) :
    ((s.handlePong net env c id args).parent_.clients c).isSome = true := by
  cases args with
  | nil => exact hc
  | cons w args =>
    have hw : (s.writeApprove env c id PING_COMMAND_APPROVE_SUCCESS).1 = none :=
      h (List.cons_ne_nil w args)
    simp only [handlePong]
    split
    · rename_i err t ht
      rw [ht] at hw
      cases hw
    · rename_i t ht
      obtain rfl : (s.writeApprove env c id PING_COMMAND_APPROVE_SUCCESS).2 = t :=
        congrArg Prod.snd ht
      exact hc

theorem Registers.live {user : UserAuthInfo} (h : Registers c user s s') :
    (s'.parent_.clients c).isSome = true := by
  rw [h.parent_, register_clients_self]
  rfl

theorem responce_live (hc : (s.parent_.clients c).isSome = true) {id : cmd_seq_t}
    {argv : List Str}
    (hpong : ∀ state command pong args, argv = state :: command :: pong :: args →
      IS_EQUAL_COMMAND state SUCCESS_COMMAND → IS_EQUAL_COMMAND command PING_COMMAND →
      env.writeError s.writes.length = none)
    (hadmits : ∀ user, IsWhoAreYou net RESPONCE_COMMAND argv user → Admits net env s user) :
    ((s.handleInnerResponceCommand net env c id argv).parent_.clients c).isSome = true := by
  match argv with
  | [] | [_] => exact hc
  | state :: command :: args =>
    simp only [handleInnerResponceCommand]
    split
    · rename_i hs
      split
      · rename_i hping
        apply handlePong_live hc
        intro hne
        obtain ⟨pong, args, rfl⟩ := List.exists_cons_of_ne_nil hne
        exact hpong state command pong args rfl hs hping
      · split
        · rename_i hw
          cases args with
          | nil => exact hc
          | cons str args =>
            have ha := hadmits _ ⟨state, command, str, args, rfl, rfl, ⟨hs, hw⟩, rfl⟩
            obtain ⟨_, hr⟩ | ⟨hn, _⟩ := handleWhoAreYou_cases net env c id str s
            · exact hr.live
            · exact absurd ha hn
        · exact hc
    · exact hc

theorem request_live (hc : (s.parent_.clients c).isSome = true) {id : cmd_seq_t}
    {argv : List Str} :
    ((s.handleInnerRequestCommand env c id argv).parent_.clients c).isSome = true := by
  cases argv with
  | nil => exact hc
  | cons w argv =>
    simp only [handleInnerRequestCommand]
    split <;> exact hc

theorem DataReceived_live {read : Str} (hc : (s.parent_.clients c).isSome = true)
    (hn : ¬ EndsConnection net env s read) :
    (((seqParser net env c).DataReceived read s).parent_.clients c).isSome = true := by
  rw [EndsConnection, not_or] at hn
  obtain ⟨hr, hn⟩ := hn
  cases hscan : scanCommand read with
  | malformed buff =>
    rw [hscan] at hn
    exact absurd trivial hn
  | command seq id cmd buff =>
    cases hargv : sdssplitargs cmd with
    | none =>
      simp only [hscan, hargv] at hn
      exact absurd trivial hn
    | some argv =>
      simp only [hscan, hargv, not_or, not_exists, not_and, not_not] at hn
      obtain ⟨hpong, hadmits⟩ := hn
      rw [DataReceived, if_neg hr, handleInnerDataReceived_command hscan hargv, dispatch]
      have hc' : ((s.processRequest id (some argv)).parent_.clients c).isSome = true := by
        rw [processRequest_parent_]
        exact hc
      by_cases hresp : seq = RESPONCE_COMMAND
      · subst hresp
        apply responce_live hc'
        · intro state command pong args he hs hp
          rw [processRequest_writes]
          exact hpong state command pong args he rfl hs hp
        · intro user hu
          have ha := hadmits user hu
          rw [Admits, processRequest_parent_, processRequest_writes]
          exact ha
      · by_cases hreq : seq = REQUEST_COMMAND
        · subst hreq
          exact request_live hc'
        · simp only [callHandler, if_neg hreq, if_neg hresp]
          split <;> exact hc'

theorem pingClient_live (hc : (s.parent_.clients c).isSome = true)
    (h : env.writeError s.writes.length = none) :
    ((s.pingClient net env c).parent_.clients c).isSome = true := by
  have hw : (s.writeRequest env c PING_COMMAND_REQ).1 = none := h
  simp only [pingClient]
  split
  · rename_i err t ht
    rw [ht] at hw
    cases hw
  · rename_i t ht
    obtain rfl : (s.writeRequest env c PING_COMMAND_REQ).2 = t := congrArg Prod.snd ht
    exact hc

end InnerServerHandlerHost

/-- What a thread holds between the lookup of a connection and its use, and the connections that
were deleted meanwhile. -/
structure Lookup (α : Type) where
  client : ClientId
  rest : α
  deleted : List ClientId

namespace Lookup

def delete (c : ClientId) (l : Lookup α) : Lookup α := { l with deleted := l.deleted ++ [c] }

/-- The connection is neither deleted nor about to be. -/
structure Alive (deleting : Option ClientId) (l : Lookup α) : Prop where
  kept : l.client ∉ l.deleted
  stays : deleting ≠ some l.client

theorem Alive.delete {l : Lookup α} (h : l.Alive (some c)) : (l.delete c).Alive none := by
  apply Alive.mk
  · intro hm
    obtain hm | hm := List.mem_append.1 hm
    · exact h.kept hm
    · exact h.stays (congrArg some (List.mem_singleton.1 hm).symm)
  · exact nofun

end Lookup

/-- The server with the HTTP proxy thread, the Redis listener thread and the inner loop.
`deleting` is a connection between its `Close` and its `delete`; `relays` are the requests given
to connections. -/
structure ServerThreads where
  host : InnerServerHandlerHost
  deleting : Option ClientId
  proxy : Option (Lookup Str)
  redis : Option (Lookup Message)
  relays : List (ClientId × Str)

namespace ServerThreads
open InnerServerHandlerHost InnerServerCommandSeqParser HttpServerHost

def init : ServerThreads := ⟨.init, none, none, none, []⟩

/-- The steps of the three threads. A callback of the inner loop runs up to the `delete` of its
connection, if it closes it; the ping timer is one step for each connection. -/
inductive Event
  | accepted (env : Env)
  | dataReceived (c : ClientId) (read : Str) (env : Env)
  | pingClient (c : ClientId) (env : Env)
  | delete
  | processHttpRequest (hpath request : Str)
  | addHttpRelayClient
  | handleMessage (msg : Str)
  | Write (env : Env)
  | subscribeRequest

/-- The end of a callback about `c`. -/
def callback (c : ClientId) (host : InnerServerHandlerHost) (s : ServerThreads) : ServerThreads :=
  if (host.parent_.clients c).isSome then { s with host := host }
  else { s with host := host, deleting := some c }

def step (net : NetTypes) (s : ServerThreads) : Event → Option ServerThreads
  | .accepted env => if s.deleting = none then some { s with host := s.host.Accepted env } else none
  | .dataReceived c read env =>
    if s.deleting = none ∧ (s.host.parent_.clients c).isSome ∧ read.length ≤ MAX_COMMAND_SIZE then
      some (s.callback c ((seqParser net env c).DataReceived read s.host))
    else none
  | .pingClient c env =>
    if s.deleting = none ∧ (s.host.parent_.clients c).isSome then
      some (s.callback c (s.host.pingClient net env c))
    else none
  | .delete =>
    s.deleting.map fun c =>
      { s with
        deleting := none
        proxy := s.proxy.map (·.delete c)
        redis := s.redis.map (·.delete c) }
  | .processHttpRequest hpath request =>
    if s.proxy.isNone then
      some { s with
        proxy := (s.host.parent_.findInnerConnectionByHost hpath).map fun c => ⟨c, request, []⟩ }
    else none
  | .addHttpRelayClient =>
    s.proxy.map fun l => { s with proxy := none, relays := s.relays ++ [(l.client, l.rest)] }
  | .handleMessage msg =>
    if s.redis.isNone ∧ s.host.listener = none then
      match scanMessage msg with
      | .inl resp => some { s with host := s.host.publish_command_out resp }
      | .inr m =>
        match s.host.parent_.findInnerConnectionByHost m.host with
        | none => (s.host.publishFail CAUSE_NOT_CONNECTED m.id m.cmd).map fun host =>
            { s with host := host }
        | some fclient => some { s with redis := some ⟨fclient, m, []⟩ }
    else none
  | .Write env =>
    s.redis.bind fun l => (s.host.writeMessage env l.client l.rest).map fun host =>
      { s with host := host, redis := none }
  | .subscribeRequest =>
    (InnerServerHandlerHost.step net s.host .subscribeRequest).map fun host =>
      { s with host := host }

/-- A looked-up connection is used only when it was not deleted since its lookup. -/
def UsedAlive (s : ServerThreads) (e : Event) (_ : ServerThreads) : Prop :=
  match e with
  | .addHttpRelayClient => ∀ l, s.proxy = some l → l.client ∉ l.deleted
  | .Write _ => ∀ l, s.redis = some l → l.client ∉ l.deleted
  | _ => True

/-- A thread has looked `c` up and not used it yet. -/
def Holds (s : ServerThreads) (c : ClientId) : Prop :=
  (∃ l, s.proxy = some l ∧ l.client = c) ∨ ∃ l, s.redis = some l ∧ l.client = c

/-- The inner loop reads no reason to end a connection that a thread holds, and no thread finds a
connection that is closed and not yet deleted. -/
def KeepsHeld (net : NetTypes) (s : ServerThreads) (e : Event) : Prop :=
  match e with
  | .dataReceived c read env => s.Holds c → ¬ EndsConnection net env s.host read
  | .pingClient c env => s.Holds c → env.writeError s.host.writes.length = none
  | .processHttpRequest hpath _ =>
    ∀ c, s.deleting = some c → s.host.parent_.findInnerConnectionByHost hpath ≠ some c
  | .handleMessage msg =>
    ∀ c, s.deleting = some c → ∀ m, scanMessage msg = .inr m →
      s.host.parent_.findInnerConnectionByHost m.host ≠ some c
  | _ => True

/-- Whatever a thread holds is alive. -/
structure Safe (s : ServerThreads) : Prop where
  proxy : ∀ l, s.proxy = some l → l.Alive s.deleting
  redis : ∀ l, s.redis = some l → l.Alive s.deleting

/-- No thread is between two of its steps. -/
def idle (host : InnerServerHandlerHost) : ServerThreads := ⟨host, none, none, none, []⟩

/-- A callback comes to its end with the deletion of its connection, if it closed it. -/
theorem run_callback (net : NetTypes) (c : ClientId) (host host' : InnerServerHandlerHost) :
    ∃ es, run (step net) ((idle host).callback c host') es = some (idle host') := by
  rw [callback]
  split
  · exact ⟨[], rfl⟩
  · exact ⟨[.delete], rfl⟩

theorem run_pings {cs : List ClientId} {s : InnerServerHandlerHost} (hd : cs.Nodup)
    (hl : ∀ c ∈ cs, (s.parent_.clients c).isSome = true) :
    ∃ es, run (step net) (idle s) es =
      some (idle (cs.foldl (InnerServerHandlerHost.pingClient net env) s)) := by
  induction cs generalizing s with
  | nil => exact ⟨[], rfl⟩
  | cons c cs ih =>
    obtain ⟨hc, hd⟩ := List.nodup_cons.1 hd
    obtain ⟨hlc, hl⟩ := List.forall_mem_cons.1 hl
    have hping : step net (idle s) (.pingClient c env) =
        some ((idle s).callback c (s.pingClient net env c)) := if_pos ⟨rfl, hlc⟩
    obtain ⟨es, hes⟩ := run_callback net c s (s.pingClient net env c)
    have hrest : ∀ d ∈ cs, ((s.pingClient net env c).parent_.clients d).isSome = true := by
      intro d hdc
      have hne : d ≠ c := fun he => hc (he ▸ hdc)
      have he : Ends net c s (s.pingClient net env c) := pingClient_ends s c
      cases he with
      | same hp =>
        rw [hp]
        exact hl d hdc
      | closed hp =>
        rw [hp, close_clients_of_ne hne]
        exact hl d hdc
    obtain ⟨fs, hfs⟩ := ih hd hrest
    refine ⟨.pingClient c env :: (es ++ fs), ?_⟩
    rw [run_cons hping, run_append, hes]
    exact hfs

/-- A message that is handled at once is handled by these steps. -/
theorem run_handleMessage {s s' : InnerServerHandlerHost} {env : Env} {msg : Str}
    (hl : s.listener = none) (hs : s.handleMessage env msg = some s') :
    ∃ es, run (step net) (idle s) es = some (idle s') := by
  have hstep : step net (idle s) (.handleMessage msg) = _ := if_pos ⟨rfl, hl⟩
  rw [handleMessage_eq] at hs
  split at hs
  · rename_i resp hm
    cases hs
    simp only [hm] at hstep
    exact ⟨[.handleMessage msg], by rw [run_cons hstep]; rfl⟩
  · rename_i m hm
    simp only [hm] at hstep
    cases hf : s.parent_.findInnerConnectionByHost m.host with
    | none =>
      simp only [hf] at hs
      have hf' : (idle s).host.parent_.findInnerConnectionByHost m.host = none := hf
      simp only [hf'] at hstep
      refine ⟨[.handleMessage msg], ?_⟩
      rw [run, hstep]
      have hpub : (idle s).host.publishFail CAUSE_NOT_CONNECTED m.id m.cmd = some s' := hs
      rw [hpub]
      rfl
    | some fclient =>
      simp only [hf] at hs
      have hf' : (idle s).host.parent_.findInnerConnectionByHost m.host = some fclient := hf
      simp only [hf'] at hstep
      split at hs
      · refine ⟨[.handleMessage msg, .Write env], ?_⟩
        rw [run_cons hstep, run]
        have hw : (idle s).host.writeMessage env fclient m = some s' := hs
        simp only [step, Option.bind_some, hw, Option.map_some]
        rfl
      · cases hs

/-- A step of the server in which no thread interrupts another one is a run of these steps. -/
theorem step_run {s s' : InnerServerHandlerHost} {e : InnerServerHandlerHost.Event}
    (hs : InnerServerHandlerHost.step net s e = some s') :
    ∃ es, run (step net) (idle s) es = some (idle s') := by
  cases e with
  | accepted env =>
    cases hs
    exact ⟨[.accepted env], rfl⟩
  | dataReceived c read env =>
    simp only [InnerServerHandlerHost.step] at hs
    split at hs
    · rename_i hlive
      cases hs
      have hread : step net (idle s) (.dataReceived c read env) =
          some ((idle s).callback c ((seqParser net env c).DataReceived read s)) :=
        if_pos ⟨rfl, hlive⟩
      obtain ⟨es, hes⟩ := run_callback net c s ((seqParser net env c).DataReceived read s)
      refine ⟨.dataReceived c read env :: es, ?_⟩
      rw [run_cons hread, hes]
    · cases hs
  | timerEmited env =>
    cases hs
    apply run_pings (List.nodup_range.filter _)
    intro c hc
    exact (List.mem_filter.1 hc).2
  | handleMessage msg env =>
    simp only [InnerServerHandlerHost.step] at hs
    split at hs
    · rename_i hl
      exact run_handleMessage hl hs
    · cases hs
  | subscribeRequest =>
    refine ⟨[.subscribeRequest], ?_⟩
    have hstep : InnerServerHandlerHost.step net (idle s).host .subscribeRequest = some s' := hs
    rw [run, step, hstep]
    rfl

variable {s s' : ServerThreads}

theorem Safe.init : Safe init := ⟨nofun, nofun⟩

theorem Safe.usedAlive (h : s.Safe) (e : Event) (s' : ServerThreads) : UsedAlive s e s' := by
  cases e with
  | addHttpRelayClient => exact fun l hl => (h.proxy l hl).kept
  | Write env => exact fun l hl => (h.redis l hl).kept
  | _ => trivial

/-- A step that leaves the lookups and the deletion alone. -/
theorem Safe.same (h : s.Safe) (hd : s'.deleting = s.deleting) (hp : s'.proxy = s.proxy)
    (hr : s'.redis = s.redis) : s'.Safe := by
  apply Safe.mk
  · rw [hd, hp]
    exact h.proxy
  · rw [hd, hr]
    exact h.redis

/-- A callback that leaves its connection, or one that no thread holds, is safe. -/
theorem Safe.callback {host : InnerServerHandlerHost} (h : s.Safe)
    (hc : s.Holds c → (host.parent_.clients c).isSome = true) : (s.callback c host).Safe := by
  rw [ServerThreads.callback]
  split
  · exact h.same rfl rfl rfl
  · rename_i hdead
    have hne : ¬ s.Holds c := fun hh => hdead (hc hh)
    apply Safe.mk
    · intro l hl
      refine ⟨(h.proxy l hl).kept, ?_⟩
      rintro ⟨⟩
      exact hne (.inl ⟨l, hl, rfl⟩)
    · intro l hl
      refine ⟨(h.redis l hl).kept, ?_⟩
      rintro ⟨⟩
      exact hne (.inr ⟨l, hl, rfl⟩)

theorem Safe.delete (h : s.Safe) (hc : s.deleting = some c) :
    Safe { s with
      deleting := none
      proxy := s.proxy.map (·.delete c)
      redis := s.redis.map (·.delete c) } := by
  apply Safe.mk
  · intro l hl
    obtain ⟨l', hl', rfl⟩ := Option.map_eq_some_iff.1 hl
    exact (hc ▸ h.proxy l' hl').delete
  · intro l hl
    obtain ⟨l', hl', rfl⟩ := Option.map_eq_some_iff.1 hl
    exact (hc ▸ h.redis l' hl').delete

theorem step_safe (h : s.Safe) (hs : step net s e = some s') (hk : KeepsHeld net s e) :
    s'.Safe := by
  cases e with
  | accepted env =>
    simp only [step] at hs
    split at hs
    · cases hs
      exact h.same rfl rfl rfl
    · cases hs
  | dataReceived c read env =>
    simp only [step] at hs
    split at hs
    · rename_i hlive
      cases hs
      exact h.callback fun hh => DataReceived_live hlive.2.1 (hk hh)
    · cases hs
  | pingClient c env =>
    simp only [step] at hs
    split at hs
    · rename_i hlive
      cases hs
      exact h.callback fun hh => pingClient_live hlive.2 (hk hh)
    · cases hs
  | delete =>
    obtain ⟨c, hc, rfl⟩ := Option.map_eq_some_iff.1 hs
    exact h.delete hc
  | processHttpRequest hpath request =>
    simp only [step] at hs
    split at hs
    · cases hs
      apply Safe.mk
      · intro l hl
        obtain ⟨c, hc, rfl⟩ := Option.map_eq_some_iff.1 hl
        exact ⟨List.not_mem_nil, fun hd => hk c hd hc⟩
      · exact h.redis
    · cases hs
  | addHttpRelayClient =>
    obtain ⟨l, _, rfl⟩ := Option.map_eq_some_iff.1 hs
    exact ⟨nofun, h.redis⟩
  | handleMessage msg =>
    simp only [step] at hs
    split at hs
    · split at hs
      · cases hs
        exact h.same rfl rfl rfl
      · rename_i m hm
        split at hs
        · obtain ⟨host, _, rfl⟩ := Option.map_eq_some_iff.1 hs
          exact h.same rfl rfl rfl
        · rename_i fclient hf
          cases hs
          apply Safe.mk
          · exact h.proxy
          · rintro l ⟨⟩
            exact ⟨List.not_mem_nil, fun hd => hk fclient hd m hm hf⟩
    · cases hs
  | Write env =>
    obtain ⟨l, _, hs⟩ := Option.bind_eq_some_iff.1 hs
    obtain ⟨host, _, rfl⟩ := Option.map_eq_some_iff.1 hs
    exact ⟨h.proxy, nofun⟩
  | subscribeRequest =>
    obtain ⟨host, _, rfl⟩ := Option.map_eq_some_iff.1 hs
    exact h.same rfl rfl rfl

/-- Along every run that ends no connection a thread holds, the looked-up connections are alive
when they are used. -/
theorem along_usedAlive (net : NetTypes) (es : List Event)
    (h : Along (step net) (fun s e _ => KeepsHeld net s e) init es) :
    Along (step net) UsedAlive init es := by
  apply h.imp (I := Safe) Safe.init
  intro s e s' hsafe hs hk
  exact ⟨hsafe.usedAlive e s', step_safe hsafe hs hk⟩

def whoAreYouOne : Str := "1 00000000 ok who_are_you u:p:one:80\r\n".toList

def whoAreYouTwo : Str := "1 00000000 ok who_are_you v:p:two:80\r\n".toList

/-- A request is proxied to the device `one`; meanwhile the device `two` comes in, and its connection
ends and is deleted. -/
def proxied : List Event :=
  [.accepted .calm, .dataReceived 0 whoAreYouOne .calm,
    .processHttpRequest "one".toList "GET / HTTP/1.1".toList, .accepted .calm,
    .dataReceived 1 whoAreYouTwo .calm, .dataReceived 1 [] .calm, .delete, .addHttpRelayClient]

theorem not_holds {s : ServerThreads} (hproxy : s.proxy.map (·.client) = some c)
    (hredis : s.redis = none) (hne : c ≠ c') : ¬ s.Holds c' := by
  rintro (⟨l, hl, rfl⟩ | ⟨l, hl, _⟩)
  · rw [hl] at hproxy
    exact hne (Option.some.inj hproxy).symm
  · rw [hredis] at hl
    cases hl

theorem along_usedAlive_proxied : Along (step .plain) UsedAlive init proxied := by
  apply along_usedAlive
  intro s₁ hs₁
  obtain rfl : _ = s₁ := Option.some.inj hs₁
  refine ⟨trivial, ?_⟩
  intro s₂ hs₂
  simp only [step] at hs₂
  rw [if_pos (by decide)] at hs₂
  obtain rfl : _ = s₂ := Option.some.inj hs₂
  refine ⟨?_, ?_⟩
  · rintro (⟨l, hl, _⟩ | ⟨l, hl, _⟩) <;> cases hl
  intro s₃ hs₃
  simp only [step] at hs₃
  rw [if_pos (by decide)] at hs₃
  obtain rfl : _ = s₃ := Option.some.inj hs₃
  refine ⟨?_, ?_⟩
  · intro c hc
    have hnone : (callback 0 ((seqParser .plain .calm 0).DataReceived whoAreYouOne
        (init.host.Accepted .calm)) { init with host := init.host.Accepted .calm }).deleting =
        none := by
      decide
    rw [hnone] at hc
    cases hc
  intro s₄ hs₄
  simp only [step] at hs₄
  rw [if_pos (by decide)] at hs₄
  obtain rfl : _ = s₄ := Option.some.inj hs₄
  refine ⟨trivial, ?_⟩
  intro s₅ hs₅
  simp only [step] at hs₅
  rw [if_pos (by decide)] at hs₅
  obtain rfl : _ = s₅ := Option.some.inj hs₅
  refine ⟨fun h => absurd h (not_holds (by decide) (by decide) Nat.zero_ne_one), ?_⟩
  intro s₆ hs₆
  simp only [step] at hs₆
  rw [if_pos (by decide)] at hs₆
  obtain rfl : _ = s₆ := Option.some.inj hs₆
  refine ⟨fun h => absurd h (not_holds (by decide) (by decide) Nat.zero_ne_one), ?_⟩
  intro s₇ _
  exact ⟨trivial, fun s₈ _ => ⟨trivial, trivial⟩⟩

/-- The same while the connection of the device reaches its end. -/
def proxiedTooLate : List Event :=
  [.accepted .calm, .dataReceived 0 whoAreYouOne .calm,
    .processHttpRequest "one".toList "GET / HTTP/1.1".toList, .dataReceived 0 [] .calm, .delete]

theorem not_along_usedAlive_proxiedTooLate :
    ¬ Along (step .plain) UsedAlive init (proxiedTooLate ++ [.addHttpRelayClient]) := by
  intro h
  have hrun : ((run (step .plain) init proxiedTooLate).bind fun s =>
      (step .plain s .addHttpRelayClient).map fun _ => s.proxy.map fun l => (l.client, l.deleted)) =
      some (some (0, [0])) := by
    decide
  obtain ⟨s, s', hs, hs', hl⟩ := exists_step hrun
  obtain ⟨l, hl, hd⟩ := Option.map_eq_some_iff.1 hl
  apply h.at_step hs hs' l hl
  obtain ⟨hc, hds⟩ := Prod.mk.inj hd
  rw [hc, hds]
  exact List.mem_singleton_self 0

end ServerThreads

end SiteOnYourDevice
