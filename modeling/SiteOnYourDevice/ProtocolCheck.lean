import SiteOnYourDevice.Http2Answers

namespace SiteOnYourDevice
open CString Transition
set_option relaxedAutoImplicit false
set_option autoImplicit true

namespace ProtocolCheck
open HttpServerHandler ServedClient Http2Answers
open Http2ClientServerHandler (phase relayExDataReceived send_internal_error proxyDataReceived)

variable {ρ : Type*} (net : NetTypes) (http : HttpRequestTypes ρ) (sys : SystemCalls)
  (urls : Str → Option (Option HCTypes)) (authChecker_ : Option IHttpAuthObserver)

/-- A read of frames, which looks at the streams and sends no page. -/
def ReadsFrames (s : ServedClient ρ) (e : ServeEvent) : Prop :=
  ∃ buff ext c frames, e = .data buff ext ∧ s.client.connection = some c ∧
    framesOf http.toHttpTypes buff = some frames

/-- A `CHECK` of the protocol fails: the process ends over what it sends, and there is no stream 0.
With one the process can only end over a null stream. -/
structure CheckFails (s : ServedClient ρ) (e : ServeEvent) (s' : ServedClient ρ) : Prop where
  aborted : phase s'.client = .aborted
  http1 : s.client.hclient.is_http2 = some false
  sends : ¬ ReadsFrames http s e

/-- A request is not answered for HTTP/2, and a `HEADERS` frame is not malformed. -/
def TurnAgrees (s : ServedClient ρ) : Prop :=
  ∀ c, s.client.connection = some c → ∀ head ∈ s.headers_frames.head?, ∃ request,
    http.parse_http2_request head = .ok request ∧ ¬ ForHttp2 http urls authChecker_ c request

/-- A text of HTTP/1 is no request that is answered for HTTP/2, and what an external host is to get
of HTTP/2 gets there. -/
def ReadAgrees (s : ServedClient ρ) (buff : Str) (ext : ExternalOutcome) : Prop :=
  match s.client with
  | .RelayClientEx r => framesOf http.toHttpTypes buff ≠ none →
    net.IsValid r.external_host_ = true ∧ (r.eclient_ = true ∨ ext.connect = none) ∧
      ext.write = none
  | client => framesOf http.toHttpTypes buff = none → ∀ c, client.connection = some c →
    ∀ request, http.parse_http_request buff = .ok request →
      ¬ ForHttp2 http urls authChecker_ c request

/-- Without a stream 0 nothing is to be sent for HTTP/2. -/
def Agrees (s : ServedClient ρ) (e : ServeEvent) : Prop :=
  s.client.hclient.is_http2 = some false →
    match e with
    | .head => TurnAgrees http urls authChecker_ s
    | .data buff ext => buff ≠ [] → ReadAgrees net http urls authChecker_ s buff ext
    | .proxyData _ _ => True

variable {net http sys urls authChecker_} {s s' : ServedClient ρ} {e : ServeEvent}

theorem head_check_iff
    (hs : step net http.toHttpTypes (configured http sys urls authChecker_) s .head = some s')
    (h1 : s.client.hclient.is_http2 = some false) :
    phase s'.client = .aborted ↔ ¬ TurnAgrees http urls authChecker_ s := by
  obtain ⟨c, head, frames, out, hc, hf, _, habort, herror, hok⟩ := head_spec hs
  rw [IoClient.hclient_eq hc] at h1
  have hturn : TurnAgrees http urls authChecker_ s ↔ ∃ request,
      http.parse_http2_request head = .ok request ∧ ¬ ForHttp2 http urls authChecker_ c request := by
    rw [TurnAgrees, hc, hf]
    constructor
    · intro h
      exact h c rfl head rfl
    · intro h c' hc' head' hhead
      cases hc'
      cases hhead
      exact h
  rw [habort, hturn]
  cases hr : http.parse_http2_request head with
  | error error =>
    rw [(herror error hr).none_iff h1]
    constructor
    · intro _ ⟨_, he, _⟩
      cases he
    · intro _
      rfl
  | ok request =>
    rw [(hok request hr).none_iff h1]
    constructor
    · intro hfor ⟨_, he, hnot⟩
      cases he
      exact hnot hfor
    · intro h
      by_contra hnot
      exact h ⟨request, rfl, hnot⟩

/-- A page of a relay in front of an external host fails a `CHECK` exactly when it is for HTTP/2. -/
theorem send_internal_error_aborted {r : RelayClientEx} {protocol : http_protocols} {text : Str}
    (ho : r.phase = .opened) (h1 : r.client.is_http2 = some false) :
    (send_internal_error r protocol text).phase = .aborted ↔ protocol = .HP_2_0 := by
  rw [send_internal_error, Http2Client.send_error_eq, Http2Client.respond_http1 h1]
  by_cases hp : protocol = .HP_2_0
  · rw [if_pos hp]
    exact ⟨fun _ => hp, fun _ => rfl⟩
  · rw [if_neg hp]
    refine ⟨fun h => ?_, fun h => absurd h hp⟩
    simp only [Option.map_some, ho] at h
    cases h

theorem relayEx_protocol (buff : Str) :
    (if http.is_preface_data buff then http_protocols.HP_2_0
      else if http.is_frame_header_data buff then .HP_2_0 else .HP_1_1) = .HP_2_0 ↔
      framesOf http.toHttpTypes buff ≠ none := by
  rw [framesOf]
  split
  · exact iff_of_true rfl (Option.some_ne_none _)
  split
  · exact iff_of_true rfl (Option.some_ne_none _)
  · exact iff_of_false http_protocols.noConfusion (not_not_intro rfl)

theorem relayEx_check_iff {r : RelayClientEx} {buff : Str} {ext : ExternalOutcome} (hb : buff ≠ [])
    (ho : r.phase = .opened) (h1 : r.client.is_http2 = some false) :
    (relayExDataReceived net http.toHttpTypes r buff ext).phase = .aborted ↔
      ¬ (framesOf http.toHttpTypes buff ≠ none →
        net.IsValid r.external_host_ = true ∧ (r.eclient_ = true ∨ ext.connect = none) ∧
          ext.write = none) := by
  have hsend : ∀ (r' : RelayClientEx) text, r'.phase = .opened → r'.client = r.client →
      ((send_internal_error r' (if http.is_preface_data buff then .HP_2_0
          else if http.is_frame_header_data buff then .HP_2_0 else .HP_1_1) text).phase =
        .aborted ↔ framesOf http.toHttpTypes buff ≠ none) := by
    intro r' text ho' hc'
    rw [← relayEx_protocol]
    exact send_internal_error_aborted ho' (by rw [hc']; exact h1)
  simp only [relayExDataReceived, if_neg hb]
  rw [Classical.not_imp]
  cases hv : net.IsValid r.external_host_ with
  | false =>
    rw [if_neg Bool.false_ne_true, hsend]
    · simp only [Bool.false_eq_true, false_and, not_false_eq_true, and_true]
    · exact ho
    · rfl
  | true =>
    rw [if_pos rfl]
    cases hconn : (if r.eclient_ then none else ext.connect) with
    | some error_text =>
      have hnot : ¬ (r.eclient_ = true ∨ ext.connect = none) := by
        split at hconn
        · cases hconn
        · rename_i he
          rw [hconn]
          exact not_or.2 ⟨he, fun h => by cases h⟩
      simp only
      rw [hsend]
      · simp only [hnot, false_and, and_false, not_false_eq_true, and_true]
      · exact ho
      · rfl
    | none =>
      have hyes : r.eclient_ = true ∨ ext.connect = none := by
        split at hconn
        · rename_i he
          exact .inl he
        · exact .inr hconn
      cases ext.write with
      | some error_text =>
        simp only
        rw [hsend]
        · simp only [reduceCtorEq, and_false, not_false_eq_true, and_true]
        · exact ho
        · rfl
      | none => simp only [ho, reduceCtorEq, hyes, and_self, not_true_eq_false, and_false]

theorem readAgrees_connection {c : Connection ρ} {buff : Str} {ext : ExternalOutcome}
    (hc : s.client.connection = some c) :
    ReadAgrees net http urls authChecker_ s buff ext ↔
      (framesOf http.toHttpTypes buff = none → ∀ request,
        http.parse_http_request buff = .ok request →
          ¬ ForHttp2 http urls authChecker_ c request) := by
  rw [ReadAgrees]
  cases hcl : s.client with
  | RelayClientEx r =>
    rw [hcl] at hc
    cases hc
  | RelayClient c' =>
    rw [hcl] at hc
    cases hc
    exact ⟨fun h hf => h hf c rfl, fun h hf c' hc' => by cases hc'; exact h hf⟩
  | Http2Client c' =>
    rw [hcl] at hc
    cases hc
    exact ⟨fun h hf => h hf c rfl, fun h hf c' hc' => by cases hc'; exact h hf⟩

/-- A text of HTTP/1 fails a `CHECK` exactly when its request is answered for HTTP/2. -/
theorem http1_check_iff {c : Connection ρ} {buff : Str} (h1 : c.client.is_http2 = some false) :
    ((configured http sys urls authChecker_).processReceived_http1 http.toHttpTypes c buff).phase =
        .aborted ↔
      ¬ ∀ request, http.parse_http_request buff = .ok request →
        ¬ ForHttp2 http urls authChecker_ c request := by
  obtain ⟨out, ht, herror, hok⟩ := processReceived_http1_took http sys urls authChecker_ c buff
  rw [ht.aborted]
  cases hr : http.parse_http_request buff with
  | error error =>
    rw [(herror error hr).none_iff h1]
    apply iff_of_false http_protocols.noConfusion (not_not_intro ?_)
    intro _ he
    cases he
  | ok request =>
    rw [(hok request hr).none_iff h1]
    constructor
    · intro hfor h
      exact h request rfl hfor
    · intro h
      by_contra hnot
      apply h
      intro request' he
      cases he
      exact hnot

theorem connection_check_iff {c c' : Connection ρ} {buff : Str} {ext : ExternalOutcome}
    (hc : s.client.connection = some c) (h1 : c.client.is_http2 = some false)
    (hc' : c' = ((configured http sys urls authChecker_).readData http.toHttpTypes c buff).1) :
    (c'.phase = .aborted ∧ ¬ ReadsFrames http s (.data buff ext)) ↔
      ¬ (buff ≠ [] → ReadAgrees net http urls authChecker_ s buff ext) := by
  rw [hc', readAgrees_connection hc, Classical.not_imp, readData]
  by_cases hb : buff = []
  · rw [if_pos hb]
    exact iff_of_false (fun h => Phase.noConfusion h.1) (fun h => h.1 hb)
  rw [if_neg hb, and_iff_right hb, Classical.not_imp]
  cases hf : framesOf http.toHttpTypes buff with
  | none =>
    have hreads : ¬ ReadsFrames http s (.data buff ext) := by
      rintro ⟨_, _, _, _, he, _, hf'⟩
      cases he
      rw [hf] at hf'
      cases hf'
    rw [and_iff_left hreads, and_iff_right rfl]
    exact http1_check_iff h1
  | some frames =>
    apply iff_of_false (fun h => h.2 ⟨buff, ext, c, frames, rfl, hc, hf⟩) ?_
    intro h
    cases h.1

theorem external_check_iff {r : RelayClientEx} {buff : Str} {ext : ExternalOutcome}
    (hr : s.client = .RelayClientEx r) (ho : r.phase = .opened)
    (h1 : r.client.is_http2 = some false) :
    ((relayExDataReceived net http.toHttpTypes r buff ext).phase = .aborted ∧
        ¬ ReadsFrames http s (.data buff ext)) ↔
      ¬ (buff ≠ [] → ReadAgrees net http urls authChecker_ s buff ext) := by
  have hreads : ¬ ReadsFrames http s (.data buff ext) := by
    intro ⟨_, _, c, _, _, hc, _⟩
    rw [hr] at hc
    cases hc
  rw [and_iff_left hreads, Classical.not_imp, ReadAgrees, hr]
  by_cases hb : buff = []
  · rw [relayExDataReceived, if_pos hb]
    exact iff_of_false Phase.noConfusion (fun h => h.1 hb)
  · rw [and_iff_right hb]
    exact relayEx_check_iff hb ho h1

theorem data_check_iff {buff : Str} {ext : ExternalOutcome}
    (hs : step net http.toHttpTypes (configured http sys urls authChecker_) s (.data buff ext) =
      some s')
    (h1 : s.client.hclient.is_http2 = some false) :
    (phase s'.client = .aborted ∧ ¬ ReadsFrames http s (.data buff ext)) ↔
      ¬ (buff ≠ [] → ReadAgrees net http urls authChecker_ s buff ext) := by
  simp only [step] at hs
  split at hs
  · rename_i hg
    cases hc : s.client.connection with
    | some c =>
      rw [hc] at hs
      cases hs
      rw [IoClient.hclient_eq hc] at h1
      rw [IoClient.phase_eq (IoClient.connection_withConnection hc _)]
      exact connection_check_iff hc h1 rfl
    | none =>
      rw [hc] at hs
      cases hs
      cases hr : s.client with
      | RelayClient c =>
        rw [hr] at hc
        cases hc
      | Http2Client c =>
        rw [hr] at hc
        cases hc
      | RelayClientEx r =>
        rw [hr] at hg h1
        exact external_check_iff hr hg.1 h1
  · cases hs

/-- A step fails no `CHECK` exactly when it sends nothing for HTTP/2 without a stream 0. -/
theorem check_iff
    (hs : step net http.toHttpTypes (configured http sys urls authChecker_) s e = some s') :
    ¬ CheckFails http s e s' ↔ Agrees net http urls authChecker_ s e := by
  have hfails : ∀ P : Prop, (s.client.hclient.is_http2 = some false →
      ((phase s'.client = .aborted ∧ ¬ ReadsFrames http s e) ↔ ¬ P)) →
      (¬ CheckFails http s e s' ↔ (s.client.hclient.is_http2 = some false → P)) := by
    intro P hP
    constructor
    · intro h h1
      by_contra hnot
      obtain ⟨ha, hr⟩ := (hP h1).2 hnot
      exact h ⟨ha, h1, hr⟩
    · intro h hf
      exact (hP hf.http1).1 ⟨hf.aborted, hf.sends⟩ (h hf.http1)
  apply hfails
  intro h1
  cases e with
  | head =>
    have hreads : ¬ ReadsFrames http s .head := by
      intro ⟨_, _, _, _, he, _⟩
      cases he
    rw [and_iff_left hreads]
    exact head_check_iff hs h1
  | data buff ext => exact data_check_iff hs h1
  | proxyData buff accepted =>
    apply iff_of_false ?_ (not_not_intro trivial)
    intro ⟨ha, _⟩
    obtain ⟨client', hstep, rfl⟩ := Option.map_eq_some_iff.1 hs
    simp only [Http2ClientServerHandler.step] at hstep
    split at hstep
    · rename_i r _
      split at hstep
      · rename_i hg
        cases hstep
        have hphase : (proxyDataReceived r buff accepted).phase = r.phase := by
          rw [proxyDataReceived]
          split <;> rfl
        simp only [phase, hphase, hg.1] at ha
        cases ha
      · cases hstep
    · cases hstep

/-- Along a run no `CHECK` of the protocol fails exactly when nothing is to be sent for HTTP/2 while
there is no stream 0, on a direct connection, a relayed one or one to an external host. -/
theorem along_checks_iff (net : NetTypes) (http : HttpRequestTypes ρ) (sys : SystemCalls)
    (urls : Str → Option (Option HCTypes)) (authChecker_ : Option IHttpAuthObserver)
    (start : ServedClient ρ) (es : List ServeEvent) :
    Along (step net http.toHttpTypes (configured http sys urls authChecker_))
        (fun s e s' => ¬ CheckFails http s e s') start es ↔
      Along (step net http.toHttpTypes (configured http sys urls authChecker_))
        (fun s e _ => Agrees net http urls authChecker_ s e) start es :=
  along_congr fun _ _ _ hs => check_iff hs

/-- A request without the frame that opens the stream 0. -/
def withoutSettings : List ServeEvent := [.data (frameText 1 1 getRoot) ⟨none, 0, none⟩]

theorem not_along_checks_withoutSettings :
    ¬ Along (serve none) (fun s e s' => ¬ CheckFails .plain s e s') (newConnection true)
      (withoutSettings ++ [.head]) := by
  intro h
  have hrun : ((run (serve none) (newConnection true) withoutSettings).bind fun s =>
      (serve none s .head).map fun s' => (s.client.hclient.is_http2, phase s'.client)) =
      some (some false, .aborted) := by decide
  obtain ⟨s, s', hs, hs', heq⟩ := exists_step hrun
  obtain ⟨h1, habort⟩ := Prod.mk.inj heq
  apply h.at_step hs hs'
  refine ⟨habort, h1, ?_⟩
  intro ⟨_, _, _, _, he, _⟩
  cases he

end ProtocolCheck

end SiteOnYourDevice
