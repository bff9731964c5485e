import SiteOnYourDevice.HostRegistry
import Mathlib.Data.List.Chain

namespace SiteOnYourDevice
open CString Sds Transition
set_option relaxedAutoImplicit false
set_option autoImplicit true

variable {net : NetTypes} {env : Env}

/-- Two signals in turn, the first one at the start; the flag tells which of them came last. -/
inductive Alternating (up down : α) : Bool → List α → Prop
  | nil : Alternating up down false []
  | up (h : Alternating up down false l) : Alternating up down true (l ++ [up])
  | down (h : Alternating up down true l) : Alternating up down false (l ++ [down])

namespace Alternating
variable {up down : α} {b : Bool}

theorem getLast (h : Alternating up down b l) :
    l.getLast? = some (if b then up else down) ∨ b = false ∧ l = [] := by
  cases h with
  | nil => exact .inr ⟨rfl, rfl⟩
  | up => exact .inl (List.getLast?_concat ..)
  | down => exact .inl (List.getLast?_concat ..)

theorem head (h : Alternating up down b l) (hm : l.head? = some m) : m = up := by
  induction h with
  | nil => cases hm
  | @up l h ih =>
    cases l with
    | nil => exact (Option.some.inj hm).symm
    | cons => exact ih hm
  | @down l h ih =>
    cases l with
    | nil =>
      obtain hl | ⟨hb, _⟩ := h.getLast
      · cases hl
      · cases hb
    | cons => exact ih hm

theorem getLast_up (h : Alternating up down b l) (hne : up ≠ down) :
    l.getLast? = some up ↔ b = true := by
  obtain hl | ⟨rfl, rfl⟩ := h.getLast
  · cases b with
    | false => simp [hl, hne.symm]
    | true => simp [hl]
  · simp

theorem chain (h : Alternating up down b l) (hne : up ≠ down) : l.IsChain (· ≠ ·) := by
  induction h with
  | nil => exact List.isChain_nil
  | up h ih =>
    apply ih.append (List.isChain_singleton _)
    intro x hx y hy
    obtain rfl : _ = y := Option.some.inj hy
    obtain hl | ⟨_, rfl⟩ := h.getLast
    · rw [hl] at hx
      obtain rfl : _ = x := Option.some.inj hx
      exact hne.symm
    · cases hx
  | down h ih =>
    apply ih.append (List.isChain_singleton _)
    intro x hx y hy
    obtain rfl : _ = y := Option.some.inj hy
    obtain hl | ⟨hb, _⟩ := h.getLast
    · rw [hl] at hx
      obtain rfl : _ = x := Option.some.inj hx
      exact hne
    · cases hb

end Alternating

namespace HttpServerHost
variable {s : HttpServerHost} {host : Str}

theorem close_connections_sub (h : (s.close net c).connections_ host = some d) :
    s.connections_ host = some d := by
  by_cases hhost : ∃ hinf, s.clients c = some hinf ∧ hinf.isValid net = true ∧
      hinf.host.host = host
  · obtain ⟨hinf, hc, hv, rfl⟩ := hhost
    rw [close_connections_self hc hv] at h
    cases h
  · rwa [close_connections_of_ne fun hinf hc hv he => hhost ⟨hinf, hc, hv, he⟩] at h

end HttpServerHost

namespace InnerServerHandlerHost
open InnerServerCommandSeqParser HttpServerHost

/-- The registries a step goes through: each ping of the timer may end its connection, any other
step changes the registry once. -/
def registries (net : NetTypes) (s : InnerServerHandlerHost) : Event → List HttpServerHost
  | .timerEmited env =>
    (((List.range s.parent_.accepted).filter fun c => (s.parent_.clients c).isSome).scanl
      (pingClient net env) s).map (·.parent_)
  | e => s.parent_ :: (step net s e).toList.map (·.parent_)

/-- What one call of a step may do to the entries: a host enters with the `ok who_are_you` of a
user that is valid and known, and leaves with the close of its own connection. -/
structure Guards (net : NetTypes) (e : Event) (h h' : HttpServerHost) : Prop where
  enters : ∀ host c, h.connections_ host = none → h'.connections_ host = some c →
    ∃ read env user, e = .dataReceived c read env ∧ whoAreYouInfo net read = some user ∧
      user.isValid net = true ∧ user.host.host = host ∧ env.findUser user = true
  keeps : ∀ host c, h.connections_ host = some c →
    h'.connections_ host = some c ∨ h'.connections_ host = none ∧ h' = h.close net c

variable {h h' : HttpServerHost} {s s' : InnerServerHandlerHost} {e : Event} {c : ClientId}

theorem Guards.same (he : h'.connections_ = h.connections_) : Guards net e h h' := by
  apply Guards.mk
  · intro host c hn hc
    rw [he, hn] at hc
    cases hc
  · intro host c hc
    exact .inl (by rw [he, hc])

theorem Guards.close (ho : Owned net h) (c : ClientId) : Guards net e h (h.close net c) := by
  apply Guards.mk
  · intro host d hn hd
    rw [close_connections_sub hd] at hn
    cases hn
  · intro host d hd
    by_cases hcd : c = d
    · subst hcd
      cases hc : (h.close net c).connections_ host with
      | none => exact .inr ⟨rfl, rfl⟩
      | some d =>
        rw [close_connections_sub hc] at hd
        exact .inl hd
    · exact .inl (ho.close_entry hd hcd)

theorem Guards.register {read : Str} {user : UserAuthInfo}
    (hinfo : whoAreYouInfo net read = some user) (ha : Admits net env s user) :
    Guards net (.dataReceived c read env) s.parent_
      (s.parent_.registerInnerConnectionByUser user c) := by
  apply Guards.mk
  · intro host d hn hd
    by_cases hhost : host = user.host.host
    · subst hhost
      rw [register_connections_self] at hd
      cases hd
      exact ⟨read, env, user, rfl, hinfo, ha.1, rfl, ha.2.1⟩
    · rw [register_connections_of_ne hhost, hn] at hd
      cases hd
  · intro host d hd
    have hne : host ≠ user.host.host := by
      rintro rfl
      have hfree : s.parent_.connections_ user.host.host = none := ha.2.2.1
      rw [hfree] at hd
      cases hd
    exact .inl ((register_connections_of_ne hne).trans hd)

theorem Ends.guards (h : Ends net c s s') (ho : Owned net s.parent_) :
    Guards net e s.parent_ s'.parent_ := by
  cases h with
  | same hp => exact .same (congrArg _ hp)
  | closed hp =>
    rw [hp]
    exact .close ho c

theorem Ends.owned (h : Ends net c s s') (ho : Owned net s.parent_) : Owned net s'.parent_ := by
  cases h with
  | same hp =>
    rw [hp]
    exact ho
  | closed hp =>
    rw [hp]
    exact ho.close c

theorem pingClients_owned (cs : List ClientId) (ho : Owned net s.parent_) :
    Owned net (cs.foldl (pingClient net env) s).parent_ := by
  induction cs generalizing s with
  | nil => exact ho
  | cons c cs ih => exact ih ((pingClient_ends s c).owned ho)

theorem pingClients_guards (cs : List ClientId) (ho : Owned net s.parent_) :
    ((cs.scanl (pingClient net env) s).map (·.parent_)).IsChain (Guards net e) := by
  induction cs generalizing s with
  | nil => exact List.isChain_singleton _
  | cons c cs ih =>
    have hping : Ends net c s (s.pingClient net env c) := pingClient_ends s c
    have hrest := ih (hping.owned ho)
    rw [List.scanl_cons, List.map_cons]
    cases cs with
    | nil => exact List.isChain_pair.2 (hping.guards ho)
    | cons d cs =>
      rw [List.scanl_cons, List.map_cons] at hrest ⊢
      exact List.isChain_cons_cons.2 ⟨hping.guards ho, hrest⟩

theorem pingClients_getLast (cs : List ClientId) (s : InnerServerHandlerHost) :
    (cs.scanl (pingClient net env) s).getLast? = some (cs.foldl (pingClient net env) s) := by
  induction cs generalizing s with
  | nil => rfl
  | cons c cs ih =>
    rw [List.scanl_cons, List.getLast?_cons, ih]
    rfl

theorem step_owned (ho : Owned net s.parent_) (hs : step net s e = some s') :
    Owned net s'.parent_ := by
  cases step_registry hs with
  | accepted env hp =>
    rw [hp]
    exact ho.accept
  | dataReceived c read env hinf hc h =>
    obtain ⟨user, _, ha, hr⟩ | ⟨_, he⟩ := h
    · rw [hr.parent_]
      exact ho.register hc ha.2.2.1
    · exact he.owned ho
  | timerEmited env => exact pingClients_owned _ ho
  | handleMessage msg env hp | subscribeRequest hp =>
    rw [hp]
    exact ho

/-- Every call that a step makes is guarded, and what the last one leaves is the new registry. -/
def Guarded (net : NetTypes) (s : InnerServerHandlerHost) (e : Event)
    (s' : InnerServerHandlerHost) : Prop :=
  (registries net s e).IsChain (Guards net e) ∧ (registries net s e).getLast? = some s'.parent_

theorem step_guarded (ho : Owned net s.parent_) (hs : step net s e = some s') :
    Guarded net s e s' := by
  have hone (hr : registries net s e = s.parent_ :: (step net s e).toList.map (·.parent_))
      (hg : Guards net e s.parent_ s'.parent_) : Guarded net s e s' := by
    rw [hs] at hr
    rw [Guarded, hr]
    exact ⟨List.isChain_pair.2 hg, rfl⟩
  cases step_registry hs with
  | accepted env hp =>
    apply hone rfl
    rw [hp]
    exact .same rfl
  | dataReceived c read env hinf hc h =>
    apply hone rfl
    obtain ⟨user, hinfo, ha, hr⟩ | ⟨_, he⟩ := h
    · rw [hr.parent_]
      exact .register hinfo ha
    · exact he.guards ho
  | timerEmited env =>
    constructor
    · exact pingClients_guards _ ho
    · rw [registries, List.getLast?_map, pingClients_getLast]
      rfl
  | handleMessage msg env hp | subscribeRequest hp =>
    apply hone rfl
    rw [hp]
    exact .same rfl

/-- Along every run of the host a registered host is one that logged in, and stays registered for
its connection until that very connection is closed. -/
theorem along_guarded (net : NetTypes) (es : List Event) :
    Along (step net) (Guarded net) init es := by
  have hinit : Owned net (init : InnerServerHandlerHost).parent_ := Owned.init
  apply along_of_invariant (I := fun s : InnerServerHandlerHost => Owned net s.parent_) hinit
  intro s e s' ho hs
  exact ⟨step_guarded ho hs, step_owned ho hs⟩

/-- The messages about a host on the channel of the clients' states. -/
def messagesAbout (host : Str) (msgs : List Str) : List Str :=
  msgs.filter fun m =>
    m = SERVER_NOTIFY_CLIENT_CONNECTED_1S host || m = SERVER_NOTIFY_CLIENT_DISCONNECTED_1S host

/-- What is told about a host: it connects first, never connects or disconnects twice in a row,
and is registered exactly while its last message says so. -/
structure Notified (s : InnerServerHandlerHost) (host : Str) : Prop where
  first : ∀ m, (messagesAbout host s.clients_state).head? = some m →
    m = SERVER_NOTIFY_CLIENT_CONNECTED_1S host
  alternate : (messagesAbout host s.clients_state).IsChain (· ≠ ·)
  last : (messagesAbout host s.clients_state).getLast? =
    some (SERVER_NOTIFY_CLIENT_CONNECTED_1S host) ↔ (s.parent_.connections_ host).isSome = true

theorem connected_inj
    (h : SERVER_NOTIFY_CLIENT_CONNECTED_1S a = SERVER_NOTIFY_CLIENT_CONNECTED_1S b) : a = b :=
  List.append_cancel_right h

theorem disconnected_inj
    (h : SERVER_NOTIFY_CLIENT_DISCONNECTED_1S a = SERVER_NOTIFY_CLIENT_DISCONNECTED_1S b) : a = b :=
  List.append_cancel_right h

/-- The two texts differ, also for two hosts: behind ` connected` stands a blank. -/
theorem connected_ne_disconnected (a b : Str) :
    SERVER_NOTIFY_CLIENT_CONNECTED_1S a ≠ SERVER_NOTIFY_CLIENT_DISCONNECTED_1S b := by
  intro h
  have hs : SERVER_NOTIFY_CLIENT_DISCONNECTED_1S b =
      (b ++ " dis".toList) ++ "connected".toList := by
    rw [SERVER_NOTIFY_CLIENT_DISCONNECTED_1S, List.append_assoc]
    rfl
  have hc : SERVER_NOTIFY_CLIENT_CONNECTED_1S a = (a ++ [' ']) ++ "connected".toList := by
    rw [SERVER_NOTIFY_CLIENT_CONNECTED_1S, List.append_assoc]
    rfl
  rw [hs, hc] at h
  have hl := congrArg List.getLast? (List.append_cancel_right h)
  rw [List.getLast?_append, List.getLast?_append] at hl
  have hblank : ' ' = 's' := Option.some.inj hl
  exact absurd hblank (by decide)

theorem messagesAbout_append (host : Str) (ms ns : List Str) :
    messagesAbout host (ms ++ ns) = messagesAbout host ms ++ messagesAbout host ns :=
  List.filter_append ..

theorem messagesAbout_connected (host h : Str) :
    messagesAbout host [SERVER_NOTIFY_CLIENT_CONNECTED_1S h] =
      if h = host then [SERVER_NOTIFY_CLIENT_CONNECTED_1S host] else [] := by
  by_cases hh : h = host
  · subst hh
    simp [messagesAbout]
  · have hne : SERVER_NOTIFY_CLIENT_CONNECTED_1S h ≠ SERVER_NOTIFY_CLIENT_CONNECTED_1S host :=
      fun he => hh (connected_inj he)
    simp [messagesAbout, hh, hne, connected_ne_disconnected]

theorem messagesAbout_disconnected (host h : Str) :
    messagesAbout host [SERVER_NOTIFY_CLIENT_DISCONNECTED_1S h] =
      if h = host then [SERVER_NOTIFY_CLIENT_DISCONNECTED_1S host] else [] := by
  by_cases hh : h = host
  · subst hh
    simp [messagesAbout]
  · have hne : SERVER_NOTIFY_CLIENT_DISCONNECTED_1S h ≠
        SERVER_NOTIFY_CLIENT_DISCONNECTED_1S host := fun he => hh (disconnected_inj he)
    simp [messagesAbout, hh, hne, (connected_ne_disconnected host h).symm]

variable {host : Str}

/-- The channel and the registry are in step about a host. -/
def InStep (host : Str) (s : InnerServerHandlerHost) : Prop :=
  Alternating (SERVER_NOTIFY_CLIENT_CONNECTED_1S host) (SERVER_NOTIFY_CLIENT_DISCONNECTED_1S host)
    (s.parent_.connections_ host).isSome (messagesAbout host s.clients_state)

theorem InStep.notified (h : InStep host s) : Notified s host := by
  have hne := connected_ne_disconnected host host
  exact ⟨fun m hm => h.head hm, h.chain hne, h.getLast_up hne⟩

theorem InStep.same (h : InStep host s) (hp : s'.parent_.connections_ = s.parent_.connections_)
    (hm : s'.clients_state = s.clients_state) : InStep host s' := by
  rw [InStep, hp, hm]
  exact h

/-- A close tells about the host whose entry it erases, and about no other one. -/
theorem InStep.ends (h : InStep host s) (ho : Owned net s.parent_) (he : Ends net c s s') :
    InStep host s' := by
  cases he with
  | same hp hm => exact h.same (congrArg _ hp) hm
  | closed hp hm =>
    rw [InStep, hp, hm, messagesAbout_append]
    by_cases hhost : ∃ hinf, s.parent_.clients c = some hinf ∧ hinf.isValid net = true ∧
        hinf.host.host = host
    · obtain ⟨hinf, hc, hv, rfl⟩ := hhost
      rw [InStep, ho.info c hinf hc hv] at h
      rw [close_connections_self hc hv]
      simp only [farewell, hc, hv, if_true, messagesAbout_disconnected]
      exact h.down
    · rw [close_connections_of_ne fun hinf hc hv he => hhost ⟨hinf, hc, hv, he⟩]
      have hno : messagesAbout host (farewell net s.parent_ c) = [] := by
        rw [farewell]
        split
        · rfl
        · rename_i hinf hc
          split
          · rename_i hv
            rw [messagesAbout_disconnected, if_neg fun he => hhost ⟨hinf, hc, hv, he⟩]
          · rfl
      rw [hno, List.append_nil]
      exact h

theorem InStep.registers {user : UserAuthInfo} (h : InStep host s)
    (hfree : s.parent_.connections_ user.host.host = none) (hr : Registers c user s s') :
    InStep host s' := by
  rw [InStep, hr.parent_, hr.clients_state, messagesAbout_append, messagesAbout_connected]
  by_cases hhost : user.host.host = host
  · subst hhost
    rw [InStep, hfree] at h
    rw [register_connections_self, if_pos rfl]
    exact h.up
  · rw [register_connections_of_ne (Ne.symm hhost), if_neg hhost, List.append_nil]
    exact h

theorem pingClients_inStep (cs : List ClientId) (ho : Owned net s.parent_) (h : InStep host s) :
    InStep host (cs.foldl (pingClient net env) s) := by
  induction cs generalizing s with
  | nil => exact h
  | cons c cs ih =>
    have he : Ends net c s (s.pingClient net env c) := pingClient_ends s c
    exact ih (he.owned ho) (h.ends ho he)

theorem step_inStep (ho : Owned net s.parent_) (h : InStep host s) (hs : step net s e = some s') :
    InStep host s' := by
  cases step_registry hs with
  | accepted env hp hm => exact h.same (by rw [hp]; rfl) hm
  | dataReceived c read env hinf hc hl =>
    obtain ⟨user, _, ha, hr⟩ | ⟨_, he⟩ := hl
    · exact h.registers ha.2.2.1 hr
    · exact h.ends ho he
  | timerEmited env => exact pingClients_inStep _ ho h
  | handleMessage msg env hp hm | subscribeRequest hp hm => exact h.same (congrArg _ hp) hm

/-- In every reachable state what was told about a host alternates, and ends with its connection
exactly while the host is registered. -/
theorem always_notified (net : NetTypes) (es : List Event) :
    Always (step net) (fun s => ∀ host, Notified s host) init es := by
  have hinit : Owned net (init : InnerServerHandlerHost).parent_ := Owned.init
  have htold : ∀ host, InStep host (init : InnerServerHandlerHost) := fun host => .nil
  have hrun : Along (step net) (fun _ _ s' => ∀ host, Notified s' host) init es := by
    apply along_of_invariant
      (I := fun s : InnerServerHandlerHost => Owned net s.parent_ ∧ ∀ host, InStep host s)
      ⟨hinit, htold⟩
    intro s e s' ⟨ho, hi⟩ hs
    have hi' : ∀ host, InStep host s' := fun host => step_inStep ho (hi host) hs
    exact ⟨fun host => (hi' host).notified, step_owned ho hs, hi'⟩
  exact ⟨fun host => (htold host).notified, hrun⟩

end InnerServerHandlerHost

end SiteOnYourDevice
