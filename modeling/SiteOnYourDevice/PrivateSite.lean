import SiteOnYourDevice.HttpInnerServerHandler

namespace SiteOnYourDevice
open CString Transition
set_option relaxedAutoImplicit false
set_option autoImplicit true

namespace PrivateSite
open Http2ClientServerHandler

variable {ρ : Type*} (net : NetTypes) (http : HttpTypes ρ) (config : HttpConfig)

/-- The bytes the external host of a connection took. -/
def forwarded : IoClient ρ → Str
  | .RelayClientEx s => s.forwarded
  | _ => []

/-- The buffers read on a connection to an external host. -/
def received : IoClient ρ → List Str
  | .RelayClientEx s => s.received
  | _ => []

/-- A private site in front of an external server. -/
def privateExternal (config : HttpConfig) : HttpConfig :=
  { config with is_private_site := true, server_type := .EXTERNAL_SERVER }

/-- A request with the configured login and password is among the buffers. -/
def Authenticated (buffs : List Str) : Prop :=
  ∃ buff ∈ buffs, ∃ request ∈ requestsIn http buff, Carries net http config request

/-- Bytes are forwarded only when a request with the credentials has been received. -/
def PrivateStep (client : IoClient ρ) (_ : ReadEvent) (client' : IoClient ρ) : Prop :=
  forwarded client' ≠ forwarded client → Authenticated net http config (received client')

/-- Until there are credentials the external host takes nothing: it is invalid, it is not
connected and cannot be, or its socket accepts no byte. -/
def Unforwardable : IoClient ρ → ReadEvent → Prop
  | .RelayClientEx s, .data buff ext =>
    Authenticated net http config (s.received ++ [buff]) ∨ net.IsValid s.external_host_ = false ∨
      (s.eclient_ = false ∧ ext.connect ≠ none) ∨ buff.take ext.accepted = []
  | _, _ => True

variable {net http config} {s : RelayClientEx} {buff : Str} {ext : ExternalOutcome}

theorem send_internal_error_frame (s : RelayClientEx) (protocol : http_protocols) (text : Str) :
    (send_internal_error s protocol text).forwarded = s.forwarded ∧
      (send_internal_error s protocol text).received = s.received := by
  rw [send_internal_error]
  split <;> exact ⟨rfl, rfl⟩

theorem relayExDataReceived_received (hb : buff ≠ []) :
    (relayExDataReceived net http s buff ext).received = s.received ++ [buff] := by
  simp only [relayExDataReceived, if_neg hb]
  split
  · split
    · exact (send_internal_error_frame _ _ _).2
    · split
      · rfl
      · exact (send_internal_error_frame _ _ _).2
  · exact (send_internal_error_frame _ _ _).2

/-- A valid external host that is connected takes what it accepts, whatever the flag of the
connection says. -/
theorem relayExDataReceived_forwarded (hb : buff ≠ []) (hv : net.IsValid s.external_host_ = true)
    (hc : s.eclient_ = true ∨ ext.connect = none) :
    (relayExDataReceived net http s buff ext).forwarded =
      s.forwarded ++ buff.take ext.accepted := by
  have hconn : (if s.eclient_ then none else ext.connect) = none := by
    split
    · rfl
    · rename_i he
      exact hc.resolve_left he
  simp only [relayExDataReceived, if_neg hb, if_pos hv, hconn]
  split
  · rfl
  · exact (send_internal_error_frame _ _ _).1

theorem relayExDataReceived_kept
    (h : buff = [] ∨ net.IsValid s.external_host_ = false ∨
      (s.eclient_ = false ∧ ext.connect ≠ none)) :
    (relayExDataReceived net http s buff ext).forwarded = s.forwarded := by
  by_cases hb : buff = []
  · rw [relayExDataReceived, if_pos hb]
  simp only [relayExDataReceived, if_neg hb]
  obtain hv | ⟨he, hc⟩ := h.resolve_left hb
  · rw [if_neg (by rw [hv]; exact Bool.false_ne_true)]
    exact (send_internal_error_frame _ _ _).1
  · split
    · rw [he, if_neg Bool.false_ne_true]
      split
      · exact (send_internal_error_frame _ _ _).1
      · rename_i hn
        exact absurd hn hc
    · exact (send_internal_error_frame _ _ _).1

/-- Whether a read keeps a private site private does not depend on the flag. -/
theorem relayEx_private_iff :
    PrivateStep net http config (.RelayClientEx s) (.data buff ext)
        (.RelayClientEx (relayExDataReceived net http s buff ext)) ↔
      Unforwardable net http config (.RelayClientEx s) (.data buff ext) := by
  have hkept : (relayExDataReceived net http s buff ext).forwarded = s.forwarded →
      PrivateStep net http config (.RelayClientEx s) (.data buff ext)
        (.RelayClientEx (relayExDataReceived net http s buff ext)) :=
    fun hf hne => absurd hf hne
  by_cases hb : buff = []
  · refine ⟨fun _ => ?_, fun _ => hkept (relayExDataReceived_kept (.inl hb))⟩
    rw [hb]
    exact .inr (.inr (.inr List.take_nil))
  have hreceived : (relayExDataReceived net http s buff ext).received = s.received ++ [buff] :=
    relayExDataReceived_received hb
  by_cases hblocked : net.IsValid s.external_host_ = false ∨
      (s.eclient_ = false ∧ ext.connect ≠ none)
  · refine ⟨fun _ => ?_, fun _ => hkept (relayExDataReceived_kept (.inr hblocked))⟩
    obtain hv | hc := hblocked
    · exact .inr (.inl hv)
    · exact .inr (.inr (.inl hc))
  rw [not_or, not_and_or, Bool.not_eq_false, Bool.not_eq_false, not_not] at hblocked
  have hforward : (relayExDataReceived net http s buff ext).forwarded =
      s.forwarded ++ buff.take ext.accepted :=
    relayExDataReceived_forwarded hb hblocked.1 hblocked.2
  constructor
  · intro h
    by_cases ht : buff.take ext.accepted = []
    · exact .inr (.inr (.inr ht))
    · left
      rw [← hreceived]
      apply h
      simp only [forwarded, hforward]
      intro he
      exact ht (List.append_right_eq_self.1 he)
  · intro h hne
    simp only [forwarded, hforward] at hne
    simp only [received, hreceived]
    rcases h with ha | hv | ⟨he, hc⟩ | ht
    · exact ha
    · rw [hv] at hblocked
      exact absurd hblocked.1 Bool.false_ne_true
    · rcases hblocked.2 with he' | hc'
      · rw [he] at he'
        exact absurd he' Bool.false_ne_true
      · exact absurd hc' hc
    · rw [ht, List.append_nil] at hne
      exact absurd rfl hne

theorem private_step_iff {h : HttpServerHandler ρ} {client client' : IoClient ρ} {e : ReadEvent}
    (hs : step net http h client e = some client') :
    PrivateStep net http config client e client' ↔ Unforwardable net http config client e := by
  cases e with
  | proxyData buff accepted =>
    cases client with
    | RelayClient s => cases hs
    | Http2Client s => cases hs
    | RelayClientEx s =>
      simp only [step] at hs
      split at hs
      · cases hs
        have hf : (proxyDataReceived s buff accepted).forwarded = s.forwarded := by
          rw [proxyDataReceived]
          split <;> rfl
        exact ⟨fun _ => trivial, fun _ hne => absurd hf hne⟩
      · cases hs
  | data buff ext =>
    simp only [step] at hs
    split at hs
    · cases hs
      cases client with
      | RelayClient s => exact ⟨fun _ => trivial, fun _ hne => absurd rfl hne⟩
      | Http2Client s => exact ⟨fun _ => trivial, fun _ hne => absurd rfl hne⟩
      | RelayClientEx s => exact relayEx_private_iff
    · cases hs

/-- A private site in front of an external server is private along a run exactly when nothing can be
forwarded until the credentials are there. -/
theorem along_private_iff (net : NetTypes) (http : HttpTypes ρ) (h : HttpServerHandler ρ)
    (config : HttpConfig) (es : List ReadEvent) :
    Along (step net http h) (PrivateStep net http (privateExternal config))
        (relayConnection (privateExternal config)) es ↔
      Along (step net http h)
        (fun client e _ => Unforwardable net http (privateExternal config) client e)
        (relayConnection (privateExternal config)) es :=
  along_congr fun _ _ _ hs => private_step_iff hs

def externalSite : HttpConfig :=
  privateExternal ⟨⟨"one".toList, 80⟩, "u".toList, "p".toList, true, ⟨"ext".toList, 80⟩,
    .EXTERNAL_SERVER⟩

def externalHandler : HttpServerHandler (List Str) :=
  ⟨fun _ => none, fun _ _ _ => some ([], true),
    some (HttpAuthObserver .plain fun _ => externalSite)⟩

/-- A request without credentials, all of which the external host takes. -/
def withoutCredentials : ReadEvent :=
  .data "GET / HTTP/1.1\r\n\r\n".toList ⟨none, 18, none⟩

theorem not_along_private_withoutCredentials :
    ¬ Along (step .plain .plain externalHandler) (PrivateStep .plain .plain externalSite)
      (relayConnection externalSite) [withoutCredentials] := by
  intro h
  have hstep : (step .plain .plain externalHandler (relayConnection externalSite)
      withoutCredentials).map (fun client => (forwarded client, received client)) =
      some ("GET / HTTP/1.1\r\n\r\n".toList, ["GET / HTTP/1.1\r\n\r\n".toList]) := by
    decide
  obtain ⟨client, hs, he⟩ := Option.map_eq_some_iff.1 hstep
  obtain ⟨hf, hr⟩ := Prod.mk.inj he
  have hne : forwarded client ≠ forwarded (relayConnection (ρ := List Str) externalSite) := by
    rw [hf]
    exact List.cons_ne_nil _ _
  obtain ⟨buff, hb, request, hreq, enc, name, password, hfield, _⟩ := (h client hs).1 hne
  rw [hr, List.mem_singleton] at hb
  rw [hb] at hreq
  have hnone : (requestsIn HttpTypes.plain "GET / HTTP/1.1\r\n\r\n".toList).map
      (fun r => HttpTypes.plain.findHeaderByKey r "Authorization".toList false) = [none] := by
    decide
  have hmem := List.mem_map_of_mem
    (f := fun r => HttpTypes.plain.findHeaderByKey r "Authorization".toList false) hreq
  rw [hnone, List.mem_singleton, hfield] at hmem
  cases hmem

end PrivateSite

end SiteOnYourDevice
