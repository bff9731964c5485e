import SiteOnYourDevice.HttpInnerServerHandler
import SiteOnYourDevice.HttpServerHost
import SiteOnYourDevice.PartialInverse

namespace SiteOnYourDevice
open CString Transition PartialInverse
set_option relaxedAutoImplicit false
set_option autoImplicit true

/-- A `RelayClientEx` in its loop, with the pointer to its `ProxyRelayClient`. -/
structure LoopRelay where
  client : Http2Client
  external_host_ : HostAndPort
  eclient_ : Option ClientId
  forwarded : Str
  received : List Str

structure ProxyRelayClient where
  relay_ : ClientId

/-- The connections of a loop of `Http2ClientServerHandler` that are not deleted. The numbers from
`next` on are free. -/
structure ProxyLoop where
  relays : ClientId → Option LoopRelay
  proxies : ClientId → Option ProxyRelayClient
  next : ClientId
  aborted : Bool

/-- A relay connection is registered for an external host, and reads on either side; an empty one
closes the connection. -/
inductive ProxyEvent
  | register (isAuth : Bool) (external_host : HostAndPort)
  | relayData (r : ClientId) (buff : Str) (ext : ExternalOutcome)
  | proxyData (p : ClientId) (buff : Str) (accepted : Nat)

namespace ProxyLoop

def init : ProxyLoop := ⟨fun _ => none, fun _ => none, 0, false⟩

def setRelay (r : ClientId) (rclient : LoopRelay) (s : ProxyLoop) : ProxyLoop :=
  { s with relays := Function.update s.relays r (some rclient) }

/-- `none` for a deleted relay. -/
def setEclient (r : ClientId) (client : Option ClientId) (s : ProxyLoop) : Option ProxyLoop :=
  (s.relays r).map fun rclient => s.setRelay r { rclient with eclient_ := client }

def Closed (client : ClientId) (s : ProxyLoop) : Option ProxyLoop :=
  match s.proxies client with
  | some prclient => s.setEclient prclient.relay_ none
  | none => some s

/-- `Close` and `delete`. -/
def closeClient (client : ClientId) (s : ProxyLoop) : Option ProxyLoop :=
  (s.Closed client).map fun s' =>
    { s' with
      relays := Function.update s'.relays client none
      proxies := Function.update s'.proxies client none }

def send_internal_error (r : ClientId) (rclient : LoopRelay) (protocol : http_protocols)
    (text : Str) (s : ProxyLoop) : ProxyLoop :=
  match rclient.client.send_error protocol HS_INTERNAL_ERROR none (some text) false with
  | none => { s.setRelay r rclient with aborted := true }
  | some client => s.setRelay r { rclient with client }

/-- The `Write` of a buffer to the proxy connection; `none` for a deleted one. -/
def forward (r : ClientId) (rclient : LoopRelay) (eclient : ClientId) (protocol : http_protocols)
    (buff : Str) (ext : ExternalOutcome) (s : ProxyLoop) : Option ProxyLoop :=
  (s.proxies eclient).map fun _ =>
    let rclient := { rclient with forwarded := rclient.forwarded ++ buff.take ext.accepted }
    match ext.write with
    | none => s.setRelay r rclient
    | some error_text => s.send_internal_error r rclient protocol error_text

/-- A new `ProxyRelayClient` of the relay `r`, under the number `next`. -/
def connectProxy (r : ClientId) (s : ProxyLoop) : ProxyLoop :=
  { s with proxies := Function.update s.proxies s.next (some ⟨r⟩), next := s.next + 1 }

variable {ρ : Type*} (net : NetTypes) (http : HttpTypes ρ)

def relayExDataReceived (r : ClientId) (buff : Str) (ext : ExternalOutcome) (s : ProxyLoop) :
    Option ProxyLoop :=
  (s.relays r).bind fun rclient =>
    if buff = [] then s.closeClient r
    else
      let rclient := { rclient with received := rclient.received ++ [buff] }
      let protocol : http_protocols :=
        if http.is_preface_data buff then .HP_2_0
        else if http.is_frame_header_data buff then .HP_2_0
        else .HP_1_1
      if net.IsValid rclient.external_host_ then
        match rclient.eclient_ with
        | some eclient => s.forward r rclient eclient protocol buff ext
        | none =>
          match ext.connect with
          | some error_text => some (s.send_internal_error r rclient protocol error_text)
          | none =>
            (s.connectProxy r).forward r { rclient with eclient_ := some s.next } s.next protocol
              buff ext
      else some (s.send_internal_error r rclient protocol "Invalid external host!".toList)

/-- `none` for a deleted relay. -/
def proxyDataReceived (p : ClientId) (buff : Str) (accepted : Nat) (s : ProxyLoop) :
    Option ProxyLoop :=
  (s.proxies p).bind fun prclient =>
    if buff = [] then s.closeClient p
    else
      (s.relays prclient.relay_).map fun rclient =>
        s.setRelay prclient.relay_
          { rclient with client := rclient.client.Write [.raw (buff.take accepted)] }

def handle (s : ProxyLoop) : ProxyEvent → Option ProxyLoop
  | .register isAuth external_host =>
    some { s.setRelay s.next ⟨Http2Client.new.setIsAuthenticated isAuth, external_host, none, [], []⟩
      with next := s.next + 1 }
  | .relayData r buff ext =>
    if buff.length ≤ Http2ClientServerHandler.BUF_SIZE then
      s.relayExDataReceived net http r buff ext
    else none
  | .proxyData p buff accepted =>
    if buff.length ≤ Http2ClientServerHandler.BUF_SIZE then s.proxyDataReceived p buff accepted
    else none

/-- `none` as well when a deleted connection is used. -/
def step (s : ProxyLoop) (e : ProxyEvent) : Option ProxyLoop :=
  if s.aborted then none else s.handle net http e

/-- The pointer of a live relay. -/
def eclient (s : ProxyLoop) (r : ClientId) : Option ClientId := (s.relays r).bind (·.eclient_)

/-- The pointer of a live proxy connection. -/
def relay (s : ProxyLoop) (p : ClientId) : Option ClientId := (s.proxies p).map (·.relay_)

/-- Live connections that point to each other. -/
structure Paired (s : ProxyLoop) : Prop where
  relay : ∀ p prclient, s.proxies p = some prclient →
    ∃ rclient, s.relays prclient.relay_ = some rclient ∧ rclient.eclient_ = some p
  eclient : ∀ r rclient e, s.relays r = some rclient → rclient.eclient_ = some e →
    ∃ eclient, s.proxies e = some eclient ∧ eclient.relay_ = r

/-- The numbers from `next` on are not in use, and no number is used twice. -/
structure Numbered (s : ProxyLoop) : Prop where
  relays : ∀ c, s.next ≤ c → s.relays c = none
  proxies : ∀ c, s.next ≤ c → s.proxies c = none
  apart : ∀ c, s.relays c = none ∨ s.proxies c = none

/-- No relay is closed while it has a proxy connection. -/
def ClosesAlone (s : ProxyLoop) : ProxyEvent → Prop
  | .relayData r buff _ => buff = [] → s.eclient r = none
  | _ => True

/-- What an event is for the relay `r`: a read on it, one on its proxy connection, or nothing. -/
def readOf (s : ProxyLoop) (r : ClientId) : ProxyEvent → Option ReadEvent
  | .register _ _ => none
  | .relayData r' buff ext => if r' = r then some (.data buff ext) else none
  | .proxyData p buff accepted =>
    if s.relay p = some r then some (.proxyData buff accepted) else none

variable {net} {http} {s s' : ProxyLoop} {r p c : ClientId}

@[simp] theorem setRelay_relays_self {rclient : LoopRelay} :
    (s.setRelay r rclient).relays r = some rclient :=
  Function.update_self ..

@[simp] theorem setRelay_relays_of_ne {rclient : LoopRelay} (h : c ≠ r) :
    (s.setRelay r rclient).relays c = s.relays c :=
  Function.update_of_ne h ..

@[simp] theorem connectProxy_proxies_of_ne (h : c ≠ s.next) :
    (s.connectProxy r).proxies c = s.proxies c :=
  Function.update_of_ne h ..

theorem paired_iff : Paired s ↔ Inverse s.eclient s.relay := by
  constructor
  · intro h r p
    constructor
    · intro hr
      obtain ⟨rclient, hlive, he⟩ := Option.bind_eq_some_iff.1 hr
      obtain ⟨eclient, hp, hrelay⟩ := h.eclient r rclient p hlive he
      exact Option.map_eq_some_iff.2 ⟨eclient, hp, hrelay⟩
    · intro hp
      obtain ⟨prclient, hlive, rfl⟩ := Option.map_eq_some_iff.1 hp
      obtain ⟨rclient, hr, he⟩ := h.relay p prclient hlive
      exact Option.bind_eq_some_iff.2 ⟨rclient, hr, he⟩
  · intro h
    constructor
    · intro p prclient hp
      exact Option.bind_eq_some_iff.1 ((h _ p).2 (Option.map_eq_some_iff.2 ⟨prclient, hp, rfl⟩))
    · intro r rclient e hr he
      exact Option.map_eq_some_iff.1 ((h r e).1 (Option.bind_eq_some_iff.2 ⟨rclient, hr, he⟩))

/-- What a step does to the table: a relay is added, a relay is written to, it gets a proxy
connection, or a connection is closed. -/
inductive Change (s : ProxyLoop) : ProxyEvent → ProxyLoop → Prop
  | register (isAuth : Bool) (external_host : HostAndPort) (rclient : LoopRelay)
      (he : rclient.eclient_ = none) :
    Change s (.register isAuth external_host)
      { s.setRelay s.next rclient with next := s.next + 1 }
  | write {e : ProxyEvent} (r : ClientId) (rclient rclient' : LoopRelay) (aborted : Bool)
      (hr : s.relays r = some rclient) (he : rclient'.eclient_ = rclient.eclient_)
      (hread : s.readOf r e ≠ none) (ha : ClosesAlone s e) :
    Change s e { s.setRelay r rclient' with aborted }
  | connect {e : ProxyEvent} (r : ClientId) (rclient rclient' : LoopRelay) (aborted : Bool)
      (hr : s.relays r = some rclient) (hnone : rclient.eclient_ = none)
      (he : rclient'.eclient_ = some s.next) (hread : s.readOf r e ≠ none)
      (ha : ClosesAlone s e) :
    Change s e { (s.connectProxy r).setRelay r rclient' with aborted }
  | closeRelay (r : ClientId) (ext : ExternalOutcome) (rclient : LoopRelay) {s' : ProxyLoop}
      (hr : s.relays r = some rclient) (hc : s.closeClient r = some s') :
    Change s (.relayData r [] ext) s'
  | closeProxy (p : ClientId) (accepted : Nat) (prclient : ProxyRelayClient)
      {s' : ProxyLoop} (hp : s.proxies p = some prclient) (hc : s.closeClient p = some s') :
    Change s (.proxyData p [] accepted) s'

theorem send_internal_error_eq (r : ClientId) (rclient : LoopRelay) (protocol : http_protocols)
    (text : Str) (s : ProxyLoop) :
    ∃ client aborted, s.send_internal_error r rclient protocol text =
      { s.setRelay r { rclient with client } with aborted } := by
  rw [send_internal_error]
  split
  · exact ⟨rclient.client, true, rfl⟩
  · rename_i client _
    exact ⟨client, s.aborted, rfl⟩

theorem forward_eq {rclient : LoopRelay} {e : ClientId} {protocol : http_protocols} {buff : Str}
    {ext : ExternalOutcome} (h : s.forward r rclient e protocol buff ext = some s') :
    ∃ rclient' aborted, rclient'.eclient_ = rclient.eclient_ ∧
      s' = { s.setRelay r rclient' with aborted } := by
  obtain ⟨_, _, rfl⟩ := Option.map_eq_some_iff.1 h
  let sent := { rclient with forwarded := rclient.forwarded ++ buff.take ext.accepted }
  simp only
  split
  · exact ⟨sent, s.aborted, rfl, rfl⟩
  · rename_i error_text _
    obtain ⟨client, aborted, he⟩ := send_internal_error_eq r sent protocol error_text s
    exact ⟨{ sent with client }, aborted, rfl, he⟩

theorem relayExDataReceived_change {buff : Str} {ext : ExternalOutcome}
    (h : s.relayExDataReceived net http r buff ext = some s') :
    Change s (.relayData r buff ext) s' := by
  obtain ⟨rclient, hr, hread⟩ := Option.bind_eq_some_iff.1 h
  by_cases hb : buff = []
  · subst hb
    rw [if_pos rfl] at hread
    exact .closeRelay r ext rclient hr hread
  have ha : ClosesAlone s (.relayData r buff ext) := fun hnil => absurd hnil hb
  rw [if_neg hb] at hread
  simp only at hread
  generalize (if http.is_preface_data buff = true then http_protocols.HP_2_0
    else if http.is_frame_header_data buff = true then .HP_2_0 else .HP_1_1) = protocol at hread
  have hr' : s.readOf r (.relayData r buff ext) ≠ none := by
    simp only [readOf, ↓reduceIte, ne_eq, reduceCtorEq, not_false_eq_true]
  have herror : ∀ text, Change s (.relayData r buff ext) (s.send_internal_error r
      { rclient with received := rclient.received ++ [buff] } protocol text) := by
    intro text
    obtain ⟨client, aborted, he⟩ := send_internal_error_eq r
      { rclient with received := rclient.received ++ [buff] } protocol text s
    rw [he]
    exact .write r rclient _ aborted hr rfl hr' ha
  split at hread
  · split at hread
    · obtain ⟨rclient', aborted, he, rfl⟩ := forward_eq hread
      exact .write r rclient rclient' aborted hr he hr' ha
    · rename_i hnone
      split at hread
      · cases hread
        exact herror _
      · obtain ⟨rclient', aborted, he, rfl⟩ := forward_eq hread
        exact .connect r rclient rclient' aborted hr hnone he hr' ha
  · cases hread
    exact herror _

theorem proxyDataReceived_change {buff : Str} {accepted : Nat}
    (h : s.proxyDataReceived p buff accepted = some s') :
    Change s (.proxyData p buff accepted) s' := by
  obtain ⟨prclient, hp, hread⟩ := Option.bind_eq_some_iff.1 h
  by_cases hb : buff = []
  · subst hb
    rw [if_pos rfl] at hread
    exact .closeProxy p accepted prclient hp hread
  · rw [if_neg hb] at hread
    obtain ⟨rclient, hr, rfl⟩ := Option.map_eq_some_iff.1 hread
    have hr' : s.readOf prclient.relay_ (.proxyData p buff accepted) ≠ none := by
      simp only [readOf, relay, hp, Option.map_some, ↓reduceIte, ne_eq, reduceCtorEq,
        not_false_eq_true]
    exact .write prclient.relay_ rclient _ s.aborted hr rfl hr' trivial

theorem step_handle {e : ProxyEvent} (h : step net http s e = some s') :
    s.aborted = false ∧ s.handle net http e = some s' := by
  cases ha : s.aborted with
  | false =>
    rw [step, ha] at h
    exact ⟨rfl, h⟩
  | true =>
    rw [step, ha] at h
    cases h

theorem step_change {e : ProxyEvent} (h : step net http s e = some s') : Change s e s' := by
  replace h := (step_handle h).2
  cases e with
  | register isAuth external_host =>
    cases h
    exact .register isAuth external_host _ rfl
  | relayData r buff ext =>
    simp only [handle] at h
    split at h
    · exact relayExDataReceived_change h
    · cases h
  | proxyData p buff accepted =>
    simp only [handle] at h
    split at h
    · exact proxyDataReceived_change h
    · cases h

theorem eclient_setRelay (s : ProxyLoop) (r : ClientId) (rclient : LoopRelay) :
    (s.setRelay r rclient).eclient = Function.update s.eclient r rclient.eclient_ := by
  funext c
  by_cases hc : c = r
  · subst hc
    simp only [eclient, setRelay, Function.update_self, Option.bind_some]
  · simp only [eclient, setRelay, Function.update_of_ne hc]

theorem eclient_clear (s : ProxyLoop) (r : ClientId) :
    eclient { s with relays := Function.update s.relays r none } =
      Function.update s.eclient r none := by
  funext c
  by_cases hc : c = r
  · subst hc
    simp only [eclient, Function.update_self, Option.bind_none]
  · simp only [eclient, Function.update_of_ne hc]

theorem relay_update (s : ProxyLoop) (p : ClientId) (prclient : Option ProxyRelayClient) :
    relay { s with proxies := Function.update s.proxies p prclient } =
      Function.update s.relay p (prclient.map (·.relay_)) := by
  funext c
  by_cases hc : c = p
  · subst hc
    simp only [relay, Function.update_self]
  · simp only [relay, Function.update_of_ne hc]

theorem eclient_of_relays {rclient : LoopRelay} (h : s.relays r = some rclient) :
    s.eclient r = rclient.eclient_ := by
  rw [eclient, h]
  rfl

theorem eclient_write {rclient rclient' : LoopRelay} (h : s.relays r = some rclient)
    (he : rclient'.eclient_ = rclient.eclient_) : (s.setRelay r rclient').eclient = s.eclient := by
  rw [eclient_setRelay, he, ← eclient_of_relays h, Function.update_eq_self]

/-- The end of a relay clears its own pointer, and leaves the one of its proxy connection. -/
theorem closeRelay_pointers {rclient : LoopRelay} (hn : Numbered s)
    (hr : s.relays r = some rclient) (h : s.closeClient r = some s') :
    s'.eclient = Function.update s.eclient r none ∧ s'.relay = s.relay := by
  have hp : s.proxies r = none := by
    obtain h | h := hn.apart r
    · rw [hr] at h
      cases h
    · exact h
  obtain ⟨t, ht, rfl⟩ := Option.map_eq_some_iff.1 h
  rw [Closed, hp] at ht
  cases ht
  have hsame : Function.update s.proxies r none = s.proxies := by
    rw [← hp, Function.update_eq_self]
  rw [hsame]
  exact ⟨eclient_clear s r, rfl⟩

/-- The end of a proxy connection clears the pointers of both sides. -/
theorem closeProxy_pointers {prclient : ProxyRelayClient} (hn : Numbered s)
    (hp : s.proxies p = some prclient) (h : s.closeClient p = some s') :
    s'.eclient = Function.update s.eclient prclient.relay_ none ∧
      s'.relay = Function.update s.relay p none := by
  have hr : s.relays p = none := by
    obtain h | h := hn.apart p
    · exact h
    · rw [hp] at h
      cases h
  obtain ⟨t, ht, rfl⟩ := Option.map_eq_some_iff.1 h
  simp only [Closed, hp, setEclient] at ht
  obtain ⟨rclient, hlive, rfl⟩ := Option.map_eq_some_iff.1 ht
  have hne : p ≠ prclient.relay_ := by
    intro heq
    rw [heq, hlive] at hr
    cases hr
  constructor
  · have hsame : Function.update (s.setRelay prclient.relay_
        { rclient with eclient_ := none }).relays p none =
        (s.setRelay prclient.relay_ { rclient with eclient_ := none }).relays := by
      rw [Function.update_eq_self_iff, setRelay_relays_of_ne hne, hr]
    rw [hsame]
    exact eclient_setRelay s prclient.relay_ _
  · exact relay_update s p none

theorem Change.paired_iff {e : ProxyEvent} (hc : Change s e s') (hn : Numbered s)
    (h : Paired s) : Paired s' ↔ ClosesAlone s e := by
  rw [ProxyLoop.paired_iff] at h ⊢
  cases hc with
  | register isAuth external_host rclient he =>
    refine ⟨fun _ => trivial, fun _ => ?_⟩
    have hsame : (s.setRelay s.next rclient).eclient = s.eclient := by
      rw [eclient_setRelay, he, Function.update_eq_self_iff, eclient,
        hn.relays s.next (Nat.le_refl _)]
      rfl
    show Inverse (s.setRelay s.next rclient).eclient s.relay
    rwa [hsame]
  | write r rclient rclient' aborted hr he hread ha =>
    refine ⟨fun _ => ha, fun _ => ?_⟩
    show Inverse (s.setRelay r rclient').eclient s.relay
    rwa [eclient_write hr he]
  | connect r rclient rclient' aborted hr hnone he hread ha =>
    refine ⟨fun _ => ha, fun _ => ?_⟩
    show Inverse (s.setRelay r rclient').eclient (s.connectProxy r).relay
    rw [eclient_setRelay, he]
    have hrelay : (s.connectProxy r).relay = Function.update s.relay s.next (some r) :=
      relay_update s s.next (some ⟨r⟩)
    rw [hrelay]
    apply h.link
    · rw [eclient_of_relays hr, hnone]
    · rw [relay, hn.proxies s.next (Nat.le_refl _)]
      rfl
  | closeRelay r ext rclient hr hcl =>
    obtain ⟨he, hrel⟩ := closeRelay_pointers hn hr hcl
    rw [he, hrel, h.clear_iff]
    exact ⟨fun hnone _ => hnone, fun ha => ha rfl⟩
  | closeProxy p accepted prclient hp hcl =>
    obtain ⟨he, hrel⟩ := closeProxy_pointers hn hp hcl
    rw [he, hrel]
    refine ⟨fun _ => trivial, fun _ => ?_⟩
    apply h.unlink
    rw [relay, hp]
    rfl

theorem Numbered.setRelay {rclient : LoopRelay} (hn : Numbered s)
    (hr : s.relays r = some rclient) (rclient' : LoopRelay) : Numbered (s.setRelay r rclient') := by
  have hne : ∀ c, s.relays c = none → c ≠ r := by
    intro c hc heq
    rw [heq, hr] at hc
    cases hc
  have hkeep : ∀ c, s.relays c = none → (s.setRelay r rclient').relays c = none := by
    intro c hc
    rwa [setRelay_relays_of_ne (hne c hc)]
  exact ⟨fun c hc => hkeep c (hn.relays c hc), hn.proxies,
    fun c => (hn.apart c).imp_left (hkeep c)⟩

theorem Numbered.connectProxy (hn : Numbered s) : Numbered (s.connectProxy r) := by
  have hkeep : ∀ c, c ≠ s.next → s.proxies c = none → (s.connectProxy r).proxies c = none := by
    intro c hc hnone
    rwa [connectProxy_proxies_of_ne hc]
  refine ⟨fun c hc => hn.relays c (Nat.le_of_succ_le hc),
    fun c hc => hkeep c (Nat.ne_of_gt hc) (hn.proxies c (Nat.le_of_succ_le hc)), ?_⟩
  intro c
  by_cases hc : c = s.next
  · subst hc
    exact .inl (hn.relays s.next (Nat.le_refl _))
  · exact (hn.apart c).imp_right (hkeep c hc)

theorem Numbered.closeClient (hn : Numbered s) (h : s.closeClient c = some s') : Numbered s' := by
  have hclear : ∀ t : ProxyLoop, Numbered t → Numbered { t with
      relays := Function.update t.relays c none
      proxies := Function.update t.proxies c none } := by
    intro t ht
    have hkeep : ∀ (α : Type) (f : ClientId → Option α) d, f d = none →
        Function.update f c none d = none := by
      intro α f d hd
      by_cases hdc : d = c
      · rw [hdc, Function.update_self]
      · rwa [Function.update_of_ne hdc]
    exact ⟨fun d hd => hkeep _ _ d (ht.relays d hd), fun d hd => hkeep _ _ d (ht.proxies d hd),
      fun d => (ht.apart d).imp (hkeep _ _ d) (hkeep _ _ d)⟩
  obtain ⟨t, ht, rfl⟩ := Option.map_eq_some_iff.1 h
  apply hclear
  rw [Closed] at ht
  split at ht
  · obtain ⟨rclient, hr, rfl⟩ := Option.map_eq_some_iff.1 ht
    exact hn.setRelay hr _
  · cases ht
    exact hn

theorem Change.numbered {e : ProxyEvent} (hc : Change s e s') (hn : Numbered s) :
    Numbered s' := by
  cases hc with
  | register isAuth external_host rclient he =>
    have hkeep : ∀ c, c ≠ s.next → s.relays c = none →
        (s.setRelay s.next rclient).relays c = none := by
      intro c hc hnone
      rwa [setRelay_relays_of_ne hc]
    refine ⟨fun c hc => hkeep c (Nat.ne_of_gt hc) (hn.relays c (Nat.le_of_succ_le hc)),
      fun c hc => hn.proxies c (Nat.le_of_succ_le hc), ?_⟩
    intro c
    by_cases hc : c = s.next
    · subst hc
      exact .inr (hn.proxies s.next (Nat.le_refl _))
    · exact (hn.apart c).imp_left (hkeep c hc)
  | write r rclient rclient' aborted hr he hread ha =>
    obtain ⟨hrel, hpr, hap⟩ := hn.setRelay hr rclient'
    exact ⟨hrel, hpr, hap⟩
  | connect r rclient rclient' aborted hr hnone he hread ha =>
    obtain ⟨hrel, hpr, hap⟩ := hn.connectProxy.setRelay hr rclient'
    exact ⟨hrel, hpr, hap⟩
  | closeRelay r ext rclient hr hcl => exact hn.closeClient hcl
  | closeProxy p accepted prclient hp hcl => exact hn.closeClient hcl

theorem numbered_init : Numbered init :=
  ⟨fun _ _ => rfl, fun _ _ => rfl, fun _ => .inl rfl⟩

theorem paired_init : Paired init := by
  constructor
  · intro p prclient hp
    cases hp
  · intro r rclient e hr
    cases hr

/-- Along a run, relays and proxy connections point to each other exactly when no relay is closed
while it has a proxy connection. -/
theorem always_paired_iff (net : NetTypes) (http : HttpTypes ρ) (es : List ProxyEvent) :
    Always (step net http) Paired init es ↔
      Along (step net http) (fun s e _ => ClosesAlone s e) init es := by
  apply always_iff_along paired_init numbered_init
  intro s e s' hp hn hs
  have hc := step_change hs
  exact ⟨hc.paired_iff hn hp, fun _ => hc.numbered hn⟩

/-- A relay that has connected to its external host is closed. -/
def relayLeavesFirst : List ProxyEvent :=
  [.register true ⟨['h'], 80⟩, .relayData 0 ['x'] ⟨none, 1, none⟩,
    .relayData 0 [] ⟨none, 0, none⟩]

theorem not_always_paired_relayLeavesFirst :
    ¬ Always (step .plain .plain) Paired init relayLeavesFirst := by
  intro h
  have hrun : (run (step .plain .plain) init relayLeavesFirst).map
      (fun s => (s.relay 1, s.eclient 0)) = some (some 0, none) := by
    decide
  obtain ⟨s, hs, he⟩ := Option.map_eq_some_iff.1 hrun
  have hrelay : s.relay 1 = some 0 := congrArg Prod.fst he
  have heclient : s.eclient 0 = none := congrArg Prod.snd he
  have hback := (paired_iff.1 (h.at_end hs) 0 1).2 hrelay
  rw [heclient] at hback
  cases hback

end ProxyLoop

/-- The relay on its own, as a connection that does not see the numbers. -/
def LoopRelay.view (rclient : LoopRelay) (phase : Phase) : RelayClientEx :=
  ⟨rclient.client, phase, rclient.external_host_, rclient.eclient_.isSome, rclient.forwarded,
    rclient.received⟩

namespace ProxyLoop
variable {ρ : Type*} {net : NetTypes} {http : HttpTypes ρ} {h : HttpServerHandler ρ}
  {s s' : ProxyLoop} {r p : ClientId} {rclient : LoopRelay}

/-- `t` is the relay `r` on its own; it need not know of the end of the process. -/
def Views (s : ProxyLoop) (r : ClientId) (t : RelayClientEx) : Prop :=
  match s.relays r with
  | some rclient => ∃ phase, t = rclient.view phase ∧ (s.aborted = false → phase = .opened)
  | none => t.phase = .closed

theorem views_setRelay (s : ProxyLoop) (r : ClientId) (rclient : LoopRelay) :
    Views (s.setRelay r rclient) r (rclient.view .opened) := by
  simp only [Views, setRelay_relays_self]
  exact ⟨.opened, rfl, fun _ => rfl⟩

theorem views_send_internal_error (rclient : LoopRelay) (protocol : http_protocols)
    (text : Str) :
    Views (s.send_internal_error r rclient protocol text) r
      (Http2ClientServerHandler.send_internal_error (rclient.view .opened) protocol text) := by
  rw [send_internal_error, Http2ClientServerHandler.send_internal_error, LoopRelay.view]
  cases hsend : rclient.client.send_error protocol HS_INTERNAL_ERROR none (some text) false with
  | none =>
    simp only [Views, setRelay_relays_self]
    exact ⟨.aborted, rfl, fun h => by cases h⟩
  | some client => exact views_setRelay s r { rclient with client }

theorem views_forward (rclient : LoopRelay) {e : ClientId} {protocol : http_protocols} {buff : Str}
    {ext : ExternalOutcome} (he : rclient.eclient_ = some e)
    (hf : s.forward r rclient e protocol buff ext = some s') :
    Views s' r
      (let t := { rclient.view .opened with
        eclient_ := true
        forwarded := rclient.forwarded ++ buff.take ext.accepted }
      match ext.write with
      | none => t
      | some error_text => Http2ClientServerHandler.send_internal_error t protocol error_text) := by
  obtain ⟨_, _, rfl⟩ := Option.map_eq_some_iff.1 hf
  let sent := { rclient with forwarded := rclient.forwarded ++ buff.take ext.accepted }
  have hsent : { rclient.view .opened with
      eclient_ := true
      forwarded := rclient.forwarded ++ buff.take ext.accepted } = sent.view .opened := by
    simp only [sent, LoopRelay.view, he, Option.isSome_some]
  simp only [hsent]
  split
  · exact views_setRelay s r sent
  · exact views_send_internal_error sent protocol _

theorem views_relayExDataReceived {buff : Str} {ext : ExternalOutcome}
    (hr : s.relays r = some rclient) (hs : s.relayExDataReceived net http r buff ext = some s') :
    Views s' r (Http2ClientServerHandler.relayExDataReceived net http (rclient.view .opened) buff
      ext) := by
  rw [relayExDataReceived, hr, Option.bind_some] at hs
  rw [Http2ClientServerHandler.relayExDataReceived]
  by_cases hb : buff = []
  · rw [if_pos hb] at hs ⊢
    obtain ⟨t, _, rfl⟩ := Option.map_eq_some_iff.1 hs
    simp only [Views, Function.update_self]
  rw [if_neg hb] at hs ⊢
  let got := { rclient with received := rclient.received ++ [buff] }
  have hgot : { rclient.view .opened with received := rclient.received ++ [buff] } =
    got.view .opened := rfl
  simp only [LoopRelay.view] at hs ⊢ hgot
  generalize (if http.is_preface_data buff = true then http_protocols.HP_2_0
    else if http.is_frame_header_data buff = true then .HP_2_0 else .HP_1_1) = protocol at hs ⊢
  by_cases hv : net.IsValid rclient.external_host_ = true
  · simp only [hv, ↓reduceIte] at hs ⊢
    obtain he | ⟨e, he⟩ := Option.eq_none_or_eq_some rclient.eclient_
    · simp only [he, Option.isSome_none] at hs ⊢
      cases hconn : ext.connect with
      | some error_text =>
        simp only [hconn] at hs
        cases hs
        exact views_send_internal_error { got with eclient_ := none } protocol error_text
      | none =>
        simp only [hconn] at hs
        exact views_forward (s := s.connectProxy r) { got with eclient_ := some s.next } rfl hs
    · simp only [he, Option.isSome_some] at hs ⊢
      exact views_forward { got with eclient_ := some e } rfl hs
  · simp only [hv] at hs ⊢
    cases hs
    exact views_send_internal_error got protocol _

theorem Change.frame {e : ProxyEvent} (hc : Change s e s') (hn : Numbered s)
    (hr : s.relays r = some rclient) (hread : s.readOf r e = none) :
    s'.relays r = some rclient := by
  have hother : ∀ r', s.readOf r' e ≠ none → r ≠ r' := by
    intro r' h heq
    exact h (heq ▸ hread)
  cases hc with
  | register isAuth external_host rclient' he =>
    have hne : r ≠ s.next := by
      intro heq
      rw [heq, hn.relays s.next (Nat.le_refl _)] at hr
      cases hr
    exact (setRelay_relays_of_ne hne).trans hr
  | write r' rclient' rclient'' aborted hr' he hread' ha =>
    exact (setRelay_relays_of_ne (hother r' hread')).trans hr
  | connect r' rclient' rclient'' aborted hr' hnone he hread' ha =>
    exact (setRelay_relays_of_ne (s := s.connectProxy r') (hother r' hread')).trans hr
  | closeRelay r' ext rclient' hr' hcl =>
    have hne : r ≠ r' := by
      apply hother
      simp only [readOf, ↓reduceIte, ne_eq, reduceCtorEq, not_false_eq_true]
    have hp : s.proxies r' = none := (hn.apart r').resolve_left fun h => by
      rw [hr'] at h
      cases h
    obtain ⟨t, ht, rfl⟩ := Option.map_eq_some_iff.1 hcl
    rw [Closed, hp] at ht
    cases ht
    exact (Function.update_of_ne hne ..).trans hr
  | closeProxy p accepted prclient hp hcl =>
    have hne : r ≠ prclient.relay_ := by
      apply hother
      simp only [readOf, relay, hp, Option.map_some, ↓reduceIte, ne_eq, reduceCtorEq,
        not_false_eq_true]
    have hrp : r ≠ p := by
      intro heq
      obtain h | h := hn.apart p
      · rw [← heq, hr] at h
        cases h
      · rw [hp] at h
        cases h
    obtain ⟨t, ht, rfl⟩ := Option.map_eq_some_iff.1 hcl
    simp only [Closed, hp, setEclient] at ht
    obtain ⟨rclient', _, rfl⟩ := Option.map_eq_some_iff.1 ht
    exact (Function.update_of_ne hrp ..).trans ((setRelay_relays_of_ne hne).trans hr)

theorem views_proxyDataReceived {buff : Str} {accepted : Nat} (hn : Numbered s)
    (hr : s.relays r = some rclient) (hp : s.relay p = some r)
    (hs : s.proxyDataReceived p buff accepted = some s') :
    Views s' r (Http2ClientServerHandler.proxyDataReceived (rclient.view .opened) buff
      accepted) := by
  obtain ⟨prclient, hlive, rfl⟩ := Option.map_eq_some_iff.1 hp
  rw [proxyDataReceived, hlive, Option.bind_some] at hs
  rw [Http2ClientServerHandler.proxyDataReceived]
  by_cases hb : buff = []
  · rw [if_pos hb] at hs ⊢
    have hne : prclient.relay_ ≠ p := by
      intro heq
      obtain h | h := hn.apart p
      · rw [← heq, hr] at h
        cases h
      · rw [hlive] at h
        cases h
    obtain ⟨t, ht, rfl⟩ := Option.map_eq_some_iff.1 hs
    simp only [Closed, hlive, setEclient, hr, Option.map_some] at ht
    cases ht
    have hlast : (s.setRelay prclient.relay_ { rclient with eclient_ := none }).relays
        prclient.relay_ = some { rclient with eclient_ := none } := setRelay_relays_self
    simp only [Views, Function.update_of_ne hne, hlast]
    exact ⟨.opened, rfl, fun _ => rfl⟩
  · rw [if_neg hb, hr, Option.map_some] at hs
    cases hs
    rw [if_neg hb]
    exact views_setRelay s prclient.relay_
      { rclient with client := rclient.client.Write [.raw (buff.take accepted)] }

/-- What a step of the loop does to a relay, the relay does on its own. -/
theorem step_views {e : ProxyEvent} (hp : Paired s) (hn : Numbered s)
    (hr : s.relays r = some rclient) (hs : step net http s e = some s') :
    match s.readOf r e with
    | none => s'.relays r = some rclient
    | some ev => ∃ t, Http2ClientServerHandler.step net http h
        (.RelayClientEx (rclient.view .opened)) ev = some (.RelayClientEx t) ∧ Views s' r t := by
  cases hread : s.readOf r e with
  | none => exact (step_change hs).frame hn hr hread
  | some ev =>
    replace hs := (step_handle hs).2
    cases e with
    | register isAuth external_host => cases hread
    | relayData r' buff ext =>
      simp only [readOf] at hread
      split at hread
      · rename_i heq
        subst heq
        cases hread
        simp only [handle] at hs
        split at hs
        · rename_i hlen
          refine ⟨_, ?_, views_relayExDataReceived hr hs⟩
          exact if_pos ⟨rfl, hlen⟩
        · cases hs
      · cases hread
    | proxyData p buff accepted =>
      simp only [readOf] at hread
      split at hread
      · rename_i hrel
        cases hread
        simp only [handle] at hs
        split at hs
        · rename_i hlen
          refine ⟨_, ?_, views_proxyDataReceived hn hr hrel hs⟩
          have he : rclient.eclient_ = some p := by
            rw [← eclient_of_relays hr]
            exact (paired_iff.1 hp r p).2 hrel
          have hsome : (rclient.view .opened).eclient_ = true := by
            rw [LoopRelay.view, he]
            rfl
          exact if_pos ⟨rfl, hsome, hlen⟩
        · cases hs
      · cases hread

theorem closeClient_next {c : ClientId} (hcl : s.closeClient c = some s') : s'.next = s.next := by
  obtain ⟨t, ht, rfl⟩ := Option.map_eq_some_iff.1 hcl
  rw [Closed] at ht
  split at ht
  · obtain ⟨rclient, _, rfl⟩ := Option.map_eq_some_iff.1 ht
    rfl
  · cases ht
    rfl

theorem closeClient_closed {c : ClientId} (hr : s.relays r = none)
    (hcl : s.closeClient c = some s') : s'.relays r = none := by
  have hclear : ∀ f : ClientId → Option LoopRelay, f r = none →
      Function.update f c none r = none := by
    intro f hf
    by_cases hc : r = c
    · rw [hc, Function.update_self]
    · rwa [Function.update_of_ne hc]
  obtain ⟨t, ht, rfl⟩ := Option.map_eq_some_iff.1 hcl
  apply hclear
  rw [Closed] at ht
  split at ht
  · obtain ⟨rclient, hlive, rfl⟩ := Option.map_eq_some_iff.1 ht
    rw [setRelay_relays_of_ne, hr]
    intro heq
    rw [← heq, hr] at hlive
    cases hlive
  · cases ht
    exact hr

theorem Change.next_le {e : ProxyEvent} (hc : Change s e s') : s.next ≤ s'.next := by
  cases hc with
  | register | connect => exact Nat.le_succ _
  | write => exact Nat.le_refl _
  | closeRelay r ext rclient hr hcl => exact (closeClient_next hcl).ge
  | closeProxy p accepted prclient hp hcl => exact (closeClient_next hcl).ge

/-- A relay that is closed stays so: its number is not given again. -/
theorem Change.closed {e : ProxyEvent} (hc : Change s e s') (hr : s.relays r = none)
    (hlt : r < s.next) : s'.relays r = none := by
  have hne : ∀ r' rclient', s.relays r' = some rclient' → r ≠ r' := by
    intro r' rclient' h heq
    rw [← heq, hr] at h
    cases h
  cases hc with
  | register isAuth external_host rclient' he => exact (setRelay_relays_of_ne hlt.ne).trans hr
  | write r' rclient' rclient'' aborted hr' he hread ha =>
    exact (setRelay_relays_of_ne (hne r' _ hr')).trans hr
  | connect r' rclient' rclient'' aborted hr' hnone he hread ha =>
    exact (setRelay_relays_of_ne (s := s.connectProxy r') (hne r' _ hr')).trans hr
  | closeRelay r' ext rclient' hr' hcl => exact closeClient_closed hr hcl
  | closeProxy p accepted prclient hp hcl => exact closeClient_closed hr hcl

/-- A run of the loop that keeps the pairs is, for each relay, a run of the relay on its own. -/
theorem run_views {es : List ProxyEvent} {t : RelayClientEx} (h : HttpServerHandler ρ)
    (hp : Paired s) (hn : Numbered s) (hlt : r < s.next) (hv : Views s r t)
    (ha : Along (step net http) (fun s e _ => ClosesAlone s e) s es)
    (hrun : run (step net http) s es = some s') :
    ∃ evs t', run (Http2ClientServerHandler.step net http h) (.RelayClientEx t) evs =
      some (.RelayClientEx t') ∧ Views s' r t' := by
  induction es generalizing s t with
  | nil =>
    cases hrun
    exact ⟨[], t, rfl, hv⟩
  | cons e es ih =>
    obtain ⟨u, hu, hrest⟩ := Option.bind_eq_some_iff.1 hrun
    obtain ⟨halone, ha'⟩ := ha u hu
    have hc := step_change hu
    have hp' := (hc.paired_iff hn hp).2 halone
    have hn' := hc.numbered hn
    have hlt' := hlt.trans_le hc.next_le
    cases hr : s.relays r with
    | none =>
      have hr' := hc.closed hr hlt
      simp only [Views, hr] at hv
      apply ih hp' hn' hlt' _ ha' hrest
      simpa only [Views, hr'] using hv
    | some rclient =>
      simp only [Views, hr] at hv
      obtain ⟨phase, rfl, hphase⟩ := hv
      cases hphase (step_handle hu).1
      have hstep := step_views (h := h) hp hn hr hu
      cases hread : s.readOf r e with
      | none =>
        simp only [hread] at hstep
        apply ih hp' hn' hlt' _ ha' hrest
        simp only [Views, hstep]
        exact ⟨.opened, rfl, fun _ => rfl⟩
      | some ev =>
        simp only [hread] at hstep
        obtain ⟨t₁, ht₁, hv₁⟩ := hstep
        obtain ⟨evs, t', hevs, hv'⟩ := ih hp' hn' hlt' hv₁ ha' hrest
        refine ⟨ev :: evs, t', ?_, hv'⟩
        rw [run_cons ht₁]
        exact hevs

end ProxyLoop

end SiteOnYourDevice
