import SiteOnYourDevice.RelayAnswers

namespace SiteOnYourDevice
open CString Transition
set_option relaxedAutoImplicit false
set_option autoImplicit true

namespace RelayHandler

/-- The device is registered and live. -/
def DeviceRegistered (s : RelayHandler) : Prop :=
  ∀ d, s.client_device_ = some d → d ∈ s.clients_ ∧ d ∉ s.deleted

variable {s s' : RelayHandler} {c d : ClientId} {r buff : Str} {w : WriteOutcome}

theorem DeviceRegistered.congr (h : DeviceRegistered s)
    (hd : s'.client_device_ = s.client_device_) (hc : s.clients_ ⊆ s'.clients_)
    (hdel : s'.deleted = s.deleted) : DeviceRegistered s' := by
  intro d hdev
  rw [hd] at hdev
  obtain ⟨hin, hnot⟩ := h d hdev
  rw [hdel]
  exact ⟨hc hin, hnot⟩

theorem setClient_next (s : RelayHandler) (c : ClientId) (r : Str) :
    (s.setClient c r).next = s.next := by
  rw [setClient]
  split <;> rfl

theorem RegisterClient_next (s : RelayHandler) (c : ClientId) :
    (s.RegisterClient c).next = s.next := by
  rw [RegisterClient, Accepted]
  split
  · rfl
  split
  · exact setClient_next _ _ _
  · rfl

theorem DeviceRegistered.setClient (h : DeviceRegistered s) :
    DeviceRegistered (s.setClient c r) := by
  cases hp : s.client_primary_ with
  | some p =>
    rw [setClient_some hp]
    exact h
  | none =>
    rw [setClient_none hp]
    exact h.congr rfl (List.Subset.refl _) rfl

theorem DeviceRegistered.accept (h : DeviceRegistered s) (hn : Numbered s) :
    DeviceRegistered (s.numbered.RegisterClient s.next) := by
  have hfresh : s.client_primary_ ≠ some s.next := fun hp => (hn.primary _ hp).ne rfl
  by_cases hd : s.client_device_ = none
  · rw [RegisterClient_device (s := s.numbered) hfresh hd]
    apply DeviceRegistered.setClient
    intro d hdev
    cases hdev
    refine ⟨List.mem_append_right _ (List.mem_singleton_self _), ?_⟩
    intro hmem
    exact (hn.deleted _ hmem).ne rfl
  · rw [RegisterClient_extra (s := s.numbered) hfresh hd]
    exact h.congr rfl (List.subset_append_left _ _) rfl

theorem DeviceRegistered.closeClient (h : DeviceRegistered s) (hn : Numbered s) :
    DeviceRegistered (s.closeClient c) := by
  have hkeep : ∀ t : RelayHandler, t.client_device_ = s.client_device_ →
      s.client_device_ ≠ some c →
      t.clients_ = s.clients_.filter (· ≠ c) → t.deleted = c :: s.deleted →
      DeviceRegistered t := by
    intro t hdev hne hcl hdel d hd
    rw [hdev] at hd
    have hdc : d ≠ c := fun he => hne (he ▸ hd)
    obtain ⟨hin, hnot⟩ := h d hd
    rw [hcl, hdel, List.mem_cons, not_or]
    exact ⟨List.mem_filter.2 ⟨hin, decide_eq_true hdc⟩, hdc, hnot⟩
  by_cases hp : s.client_primary_ = some c
  · rw [RelayHandler.closeClient, Closed_primary hp]
    exact hkeep _ rfl (hn.apart c hp) rfl rfl
  by_cases hd : s.client_device_ = some c
  · rw [RelayHandler.closeClient, Closed_device hp hd]
    intro d hdev
    cases hdev
  · rw [RelayHandler.closeClient, Closed_extra hp hd]
    exact hkeep _ rfl hd rfl rfl

theorem closeClient_next (s : RelayHandler) (c : ClientId) : (s.closeClient c).next = s.next := by
  simp only [closeClient, Closed]
  split
  · rfl
  · split <;> rfl

theorem DeviceRegistered.write {dest source : ClientId} (h : DeviceRegistered s)
    (hs : s.Write dest source buff w = some s') : DeviceRegistered s' := by
  obtain ⟨_, rfl⟩ := Write_eq hs
  exact h.congr rfl (List.Subset.refl _) rfl

theorem DeviceRegistered.received (h : DeviceRegistered s) (hn : Numbered s)
    (hr : Received s c buff w s') : DeviceRegistered s' := by
  cases hr with
  | closed hb => exact h.closeClient hn
  | toDevice _ _ _ hw | toClient _ _ _ hw => exact h.write hw
  | clientLost _ _ _ hw =>
    have hd := h.write hw
    obtain ⟨_, rfl⟩ := Write_eq hw
    exact hd.closeClient ⟨hn.primary, hn.device, hn.deleted, hn.request, hn.apart⟩
  | alone => exact h
  | notreached => exact h.congr rfl (List.Subset.refl _) rfl

theorem Received.next_eq (h : Received s c buff w s') : s'.next = s.next := by
  cases h with
  | closed => exact closeClient_next s c
  | toDevice _ _ _ hw | toClient _ _ _ hw =>
    obtain ⟨_, rfl⟩ := Write_eq hw
    rfl
  | clientLost _ _ _ hw =>
    obtain ⟨_, rfl⟩ := Write_eq hw
    exact closeClient_next _ c
  | alone | notreached => rfl

/-- Numbers are never taken back. -/
theorem step_next {e : Event} (hs : step s e = some s') : s.next ≤ s'.next := by
  cases e with
  | accept =>
    cases hs
    rw [RegisterClient_next]
    exact Nat.le_succ _
  | addRequest request =>
    cases hs
    rw [setClient_next]
    exact Nat.le_succ _
  | runCallback w =>
    obtain ⟨_, _, _, _, _, _, _, _, rfl, _⟩ := runCallback_eq hs
    exact Nat.le_refl _
  | dataReceived client buff w =>
    obtain ⟨_, hr⟩ := step_received hs
    exact hr.next_eq.ge

theorem step_registered {e : Event} (h : DeviceRegistered s) (hn : Numbered s)
    (hs : step s e = some s') : DeviceRegistered s' ∧ s.next ≤ s'.next := by
  refine ⟨?_, step_next hs⟩
  cases e with
  | accept =>
    cases hs
    exact h.accept hn
  | addRequest request =>
    cases hs
    have hnum : DeviceRegistered s.numbered := h.congr rfl (List.Subset.refl _) rfl
    exact hnum.setClient
  | runCallback w =>
    obtain ⟨_, _, _, _, _, _, _, _, rfl, _⟩ := runCallback_eq hs
    exact h.congr rfl (List.subset_append_left _ _) rfl
  | dataReceived client buff w =>
    obtain ⟨_, hr⟩ := step_received hs
    exact h.received hn hr

end RelayHandler

namespace RelayNet

/-- All that is under way is about clients that have been numbered. -/
structure Wired (x : RelayNet) : Prop where
  loop : x.loop.QueueOwned
  device : x.loop.DeviceRegistered
  toDevice : ∀ t ∈ x.toDevice, t.client < x.loop.next
  answering : ∀ c ∈ x.answering, c < x.loop.next
  fromDevice : ∀ t ∈ x.fromDevice, t.client < x.loop.next

variable {x x' : RelayNet} {loop' : RelayHandler} {sent : List Relayed}

theorem Wired.follow (hx : Wired x) (hl : loop'.QueueOwned) (hd : loop'.DeviceRegistered)
    (hn : x.loop.next ≤ loop'.next) (hsent : loop'.sent = x.loop.sent ++ sent)
    (hsource : ∀ m ∈ sent, loop'.client_device_ = some m.dest → m.source < x.loop.next) :
    Wired (x.follow loop') := by
  rw [RelayNet.follow, newlySent_eq hsent]
  split
  · refine ⟨hl, hd, ?_, ?_, ?_⟩
    · intro t ht
      rcases List.mem_append.1 ht with ht | ht
      · exact (hx.toDevice t ht).trans_le hn
      · obtain ⟨m, hm, ht⟩ := List.mem_flatMap.1 ht
        obtain ⟨hm, hdest⟩ := List.mem_filter.1 hm
        obtain ⟨ch, _, rfl⟩ := List.mem_map.1 ht
        exact (hsource m hm (of_decide_eq_true hdest)).trans_le hn
    · intro c hc
      exact (hx.answering c hc).trans_le hn
    · intro t ht
      exact (hx.fromDevice t ht).trans_le hn
  · refine ⟨hl, hd, ?_, ?_, ?_⟩ <;>
      · intro t ht
        cases ht

theorem wired_deviceData {n : Nat} {w : WriteOutcome} (hx : Wired x)
    (hs : step x (.deviceData n w) = some x') : Wired x' := by
  obtain ⟨_, _, loop', sent, hloop, hsent, _, hdest, rfl⟩ := deviceData_eq hx.loop hs
  obtain ⟨hd, hn⟩ := RelayHandler.step_registered hx.device hx.loop.toNumbered hloop
  have hy : Wired { x with
      fromDevice := x.fromDevice.drop n
      delivered := x.delivered ++ deliver (x.fromDevice.take n) sent } :=
    ⟨hx.loop, hx.device, hx.toDevice, hx.answering,
      fun t ht => hx.fromDevice t (List.mem_of_mem_drop ht)⟩
  apply hy.follow (hx.loop.step hloop) hd hn hsent
  intro m hm hmd
  exact absurd hmd (hdest m hm).2

theorem wired_step {e : Event} (hx : Wired x) (hs : step x e = some x') : Wired x' := by
  cases e with
  | loop e =>
    simp only [step] at hs
    split at hs
    · cases hs
    rename_i he
    obtain ⟨loop', hloop, rfl⟩ := Option.map_eq_some_iff.1 hs
    obtain ⟨⟨sent, hsent, hsource⟩, _⟩ := RelayHandler.step_sent hx.loop hloop he
    obtain ⟨hd, hn⟩ := RelayHandler.step_registered hx.device hx.loop.toNumbered hloop
    apply hx.follow (hx.loop.step hloop) hd hn hsent
    intro m hm _
    exact hx.loop.primary _ (hsource m hm)
  | deviceReads n =>
    cases hs
    refine ⟨hx.loop, hx.device, ?_, ?_, hx.fromDevice⟩
    · intro t ht
      exact hx.toDevice t (List.mem_of_mem_drop ht)
    · intro c hc
      rcases List.mem_append.1 hc with hc | hc
      · exact hx.answering c hc
      · obtain ⟨t, ht, rfl⟩ := List.mem_map.1 hc
        exact hx.toDevice t (List.mem_of_mem_take ht)
  | deviceSends client data =>
    simp only [step] at hs
    split at hs
    · rename_i hc
      cases hs
      refine ⟨hx.loop, hx.device, hx.toDevice, hx.answering, ?_⟩
      intro t ht
      rcases List.mem_append.1 ht with ht | ht
      · exact hx.fromDevice t ht
      · obtain ⟨ch, _, rfl⟩ := List.mem_map.1 ht
        exact hx.answering client hc
    · cases hs
  | deviceDone client =>
    cases hs
    refine ⟨hx.loop, hx.device, hx.toDevice, ?_, hx.fromDevice⟩
    intro c hc
    exact hx.answering c (List.mem_filter.1 hc).1
  | deviceData n w => exact wired_deviceData hx hs

theorem wired_init (request : Str) : Wired (init request) := by
  refine ⟨(owned_init request).loop, ?_, ?_, ?_, ?_⟩ <;>
    · intro c hc
      cases hc

theorem reachable_wired (request : Str) (es : List Event)
    (hr : run step (init request) es = some x) : Wired x := by
  have ha : Along step (fun _ _ x' => Wired x') (init request) es := by
    apply along_of_invariant (wired_init request)
    intro y e y' hy hs
    exact ⟨wired_step hy hs, wired_step hy hs⟩
  exact Always.at_end ⟨wired_init request, ha⟩ hr

/-- The loop has a live primary client and a registered device. -/
structure Attached (x : RelayNet) (p d : ClientId) : Prop where
  primary : x.loop.client_primary_ = some p
  device : x.loop.client_device_ = some d
  registered : d ∈ x.loop.clients_
  live : p ∉ x.loop.deleted
  apart : p ≠ d

variable {p d : ClientId}

/-- A byte read from the device is written to the primary client. -/
theorem Attached.step_loop (h : Attached x p d) (b : Char) :
    ∃ loop', RelayHandler.step x.loop (.dataReceived d [b] ⟨1, false⟩) = some loop' ∧
      loop'.sent = x.loop.sent ++ [⟨p, d, [b]⟩] := by
  obtain ⟨hp, hd, hreg, hlive, hne⟩ := h
  have hpd : some p ≠ some d := fun he => hne (Option.some.inj he)
  have hsize : [b].length ≤ BUF_SIZE := by
    rw [List.length_singleton]
    decide
  refine ⟨{ x.loop with sent := x.loop.sent ++ [⟨p, d, [b]⟩] }, ?_, rfl⟩
  simp only [RelayHandler.step, hreg, hsize, and_self, if_true, RelayHandler.DataReceived,
    if_neg (List.cons_ne_nil b []), hp, if_neg hpd, if_pos hd, RelayHandler.Write, if_neg hlive,
    Option.map_some, Bool.false_eq_true, if_false]
  rfl

/-- The next byte from the device goes to the primary client, whoever it answers. -/
theorem Attached.leaks {t : Tagged} {rest : List Tagged} (h : Attached x p d)
    (hf : x.fromDevice = t :: rest) (ht : t.client ≠ p) :
    ∃ y, step x (.deviceData 1 ⟨1, false⟩) = some y ∧ ¬ NoLeak y := by
  obtain ⟨loop', hloop, hsent⟩ := h.step_loop t.byte
  have hstep : step x (.deviceData 1 ⟨1, false⟩) = some ({ x with
      fromDevice := rest
      delivered := x.delivered ++ deliver [t] (newlySent x.loop loop') }.follow loop') := by
    simp only [step, h.device, hf, List.take_succ_cons, List.take_zero, List.map_cons,
      List.map_nil, if_neg (List.cons_ne_nil t []), hloop, Option.map_some, List.drop_succ_cons,
      List.drop_zero]
  refine ⟨_, hstep, ?_⟩
  intro hleak
  have hmem := hleak ⟨p, t.client, t.byte⟩
  rw [follow_delivered, newlySent_eq hsent] at hmem
  exact ht (hmem (List.mem_append_right _ (List.mem_singleton_self _)))

/-- The device answers a client it has read from, and the answer leaks. -/
theorem Attached.leaks_answering {c : ClientId} (h : Attached x p d) (hc : c ∈ x.answering)
    (hf : x.fromDevice = []) (hcp : c ≠ p) :
    ∃ y, run step x [.deviceSends c ['x'], .deviceData 1 ⟨1, false⟩] = some y ∧ ¬ NoLeak y := by
  have hsends : step x (.deviceSends c ['x']) =
      some { x with fromDevice := [⟨c, 'x'⟩] } := by
    simp only [step, if_pos hc, hf]
    rfl
  have h' : Attached { x with fromDevice := [⟨c, 'x'⟩] } p d :=
    ⟨h.primary, h.device, h.registered, h.live, h.apart⟩
  obtain ⟨y, hy, hleak⟩ := h'.leaks rfl hcp
  exact ⟨y, by rw [run_cons hsends, run_cons hy]; rfl, hleak⟩

/-- Whatever is under way for another client can end up with the primary one. -/
theorem Attached.leaks_of_busy (h : Attached x p d) (hto : ∀ t ∈ x.toDevice, t.client ≠ p)
    (hans : ∀ c ∈ x.answering, c ≠ p) (hfrom : ∀ t ∈ x.fromDevice, t.client ≠ p)
    (hbusy : ¬ (x.toDevice = [] ∧ x.answering = [] ∧ x.fromDevice = [])) :
    ∃ es y, run step x es = some y ∧ ¬ NoLeak y := by
  cases hf : x.fromDevice with
  | cons t rest =>
    have ht : t.client ≠ p := hfrom t (hf ▸ List.mem_cons_self)
    obtain ⟨y, hy, hleak⟩ := h.leaks hf ht
    exact ⟨[.deviceData 1 ⟨1, false⟩], y, by rw [run_cons hy]; rfl, hleak⟩
  | nil =>
    cases ha : x.answering with
    | cons c cs =>
      have hc : c ∈ x.answering := ha ▸ List.mem_cons_self
      obtain ⟨y, hy, hleak⟩ := h.leaks_answering hc hf (hans c hc)
      exact ⟨_, y, hy, hleak⟩
    | nil =>
      cases hd : x.toDevice with
      | nil => exact absurd ⟨hd, ha, hf⟩ hbusy
      | cons t rest =>
        have ht : t.client ≠ p := hto t (hd ▸ List.mem_cons_self)
        have hreads : step x (.deviceReads 1) =
            some { x with toDevice := rest, answering := [t.client] } := by
          simp only [step, hd, ha]
          rfl
        have h' : Attached { x with toDevice := rest, answering := [t.client] } p d :=
          ⟨h.primary, h.device, h.registered, h.live, h.apart⟩
        obtain ⟨y, hy, hleak⟩ := h'.leaks_answering (List.mem_singleton_self _) hf ht
        exact ⟨_, y, (run_cons hreads).trans hy, hleak⟩

/-- A step that sends nothing and keeps the device leaves what is under way. -/
theorem follow_quiet (hd : loop'.client_device_ = x.loop.client_device_)
    (hs : loop'.sent = x.loop.sent) : x.follow loop' = { x with loop := loop' } := by
  have hnew : newlySent x.loop loop' = [] := by
    apply newlySent_eq
    rw [hs, List.append_nil]
  rw [follow, if_pos hd, hnew, List.filter_nil, List.flatMap_nil, List.append_nil]

/-- A client attached to a ready loop is its primary client, and finds what is under way. -/
theorem Wired.attach (hx : Wired x) (hready : x.loop.readyForRequest = true) (r : Str) :
    ∃ x' d, step x (.loop (.addRequest r)) = some x' ∧ Attached x' x.loop.next d ∧
      x'.toDevice = x.toDevice ∧ x'.answering = x.answering ∧ x'.fromDevice = x.fromDevice := by
  rw [RelayHandler.readyForRequest, Bool.and_eq_true, Option.isNone_iff_eq_none,
    Option.isSome_iff_exists] at hready
  obtain ⟨hp, d, hd⟩ := hready
  obtain ⟨hreg, _⟩ := hx.device d hd
  obtain ⟨loop', hl⟩ : ∃ loop', x.loop.numbered.setClient x.loop.next r = loop' := ⟨_, rfl⟩
  have hs : step x (.loop (.addRequest r)) = some (x.follow loop') := by
    rw [← hl]
    rfl
  rw [RelayHandler.setClient_none (s := x.loop.numbered) hp] at hl
  subst hl
  refine ⟨_, d, hs, ?_, ?_⟩
  · refine ⟨?_, ?_, ?_, ?_, fun he => (hx.loop.device d hd).ne he.symm⟩ <;> rw [follow_loop]
    · exact hd
    · exact hreg
    · intro hmem
      exact (hx.loop.deleted _ hmem).ne rfl
  · rw [follow_quiet]
    · exact ⟨rfl, rfl, rfl⟩
    · rfl
    · rfl

/-- A client that is attached to a ready loop whose device is not idle can get answers to another
client, so no weaker condition on the attached clients would do. -/
theorem attach_busy_leaks (request r : Str) (es : List Event)
    (hr : run step (init request) es = some x) (hready : x.loop.readyForRequest = true)
    (hbusy : ¬ AttachedWhenIdle x (.loop (.addRequest r))) :
    ∃ fs y, run step (init request) (es ++ .loop (.addRequest r) :: fs) = some y ∧
      ¬ NoLeak y := by
  have hx := reachable_wired request es hr
  obtain ⟨x', d, hs, ha, hto, hans, hfrom⟩ := hx.attach hready r
  have hbusy' : ¬ (x'.toDevice = [] ∧ x'.answering = [] ∧ x'.fromDevice = []) := by
    rw [hto, hans, hfrom]
    exact fun hi => hbusy fun _ => hi
  obtain ⟨fs, y, hy, hleak⟩ := ha.leaks_of_busy
    (fun t ht => (hx.toDevice t (hto ▸ ht)).ne) (fun c hc => (hx.answering c (hans ▸ hc)).ne)
    (fun t ht => (hx.fromDevice t (hfrom ▸ ht)).ne) hbusy'
  refine ⟨fs, y, ?_, hleak⟩
  rw [run_append, hr, Option.bind_some, run_cons hs]
  exact hy

end RelayNet

end SiteOnYourDevice
