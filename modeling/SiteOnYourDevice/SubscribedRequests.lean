import SiteOnYourDevice.InnerServerHandlerHost
import SiteOnYourDevice.RemoveIf

namespace SiteOnYourDevice
open CString RemoveIf
set_option relaxedAutoImplicit false
set_option autoImplicit true

/-- The functions that callbacks hold, on the state `σ` of whoever subscribes them. -/
abbrev callback_t (σ : Type) := cmd_seq_t → Int → Option (List Str) → σ → σ

namespace SubscribedRequests

/-- The `RequestCallback` of the source, for any subscriber; an empty `std::function` is `none`. -/
structure RequestCallback (σ : Type) where
  request_id_ : cmd_seq_t
  cb_ : Option (callback_t σ)

def RequestCallback.execute (req : RequestCallback σ) (argc : Int) (argv : Option (List Str))
    (world : σ) : σ :=
  match req.cb_ with
  | none => world
  | some cb => cb req.request_id_ argc argv world

/-- A callback in the vector. Not in the source: `place`, which call subscribed it. -/
structure Subscribed (σ : Type) where
  req : RequestCallback σ
  place : Nat

/-- One call of `execute`, and which call of `processRequest` made it. -/
structure Execution (σ : Type) where
  callback : Subscribed σ
  place : Nat
  argc : Int
  argv : Option (List Str)

/-- The calls from outside. -/
inductive ParserCall (σ : Type)
  | subscribeRequest (req : RequestCallback σ)
  | processRequest (request_id : cmd_seq_t) (argc : Int) (argv : Option (List Str))

end SubscribedRequests

open SubscribedRequests

/-- The requests of one parser and the state its callbacks act on. Not in the source: the record of
the executions, and the number of calls so far. -/
structure SubscribedRequests (σ : Type) where
  subscribed_requests_ : List (Subscribed σ)
  world : σ
  executed : List (Execution σ)
  calls : Nat

namespace SubscribedRequests
variable {σ : Type}

def init (world : σ) : SubscribedRequests σ := ⟨[], world, [], 0⟩

/-- `exec_reqest`, which gets the callback as a copy. -/
def exec_reqest (request_id : cmd_seq_t) (argc : Int) (argv : Option (List Str))
    (req : Subscribed σ) (s : SubscribedRequests σ) : Bool × SubscribedRequests σ :=
  if request_id = req.req.request_id_ then
    (true, { s with
      world := req.req.execute argc argv s.world
      executed := s.executed ++ [⟨req, s.calls, argc, argv⟩] })
  else (false, s)

def processRequest (request_id : cmd_seq_t) (argc : Int) (argv : Option (List Str))
    (s : SubscribedRequests σ) : SubscribedRequests σ :=
  let r := eraseIf (exec_reqest request_id argc argv) s.subscribed_requests_ s
  { r.2 with subscribed_requests_ := r.1 }

def subscribeRequest (req : RequestCallback σ) (s : SubscribedRequests σ) : SubscribedRequests σ :=
  { s with subscribed_requests_ := s.subscribed_requests_ ++ [⟨req, s.calls⟩] }

def call (s : SubscribedRequests σ) (c : ParserCall σ) : SubscribedRequests σ :=
  let s' := match c with
    | .subscribeRequest req => s.subscribeRequest req
    | .processRequest request_id argc argv => s.processRequest request_id argc argv
  { s' with calls := s.calls + 1 }

/-- A parser after its calls. -/
def after (world : σ) (cs : List (ParserCall σ)) : SubscribedRequests σ :=
  cs.foldl call (init world)

/-- The callbacks that calls subscribe, each with the place of its call. -/
def subscriptions (cs : List (ParserCall σ)) : List (Subscribed σ) :=
  cs.zipIdx.filterMap fun c =>
    match c with
    | (.subscribeRequest req, place) => some ⟨req, place⟩
    | (.processRequest .., _) => none

/-- The callbacks a call of `processRequest` finds. -/
def matched (request_id : cmd_seq_t) (s : SubscribedRequests σ) : List (Subscribed σ) :=
  s.subscribed_requests_.filter fun r => request_id = r.req.request_id_

/-- The executions of an `executed` record as the world saw them. -/
def replay (es : List (Execution σ)) (world : σ) : σ :=
  es.foldl (fun w e => e.callback.req.execute e.argc e.argv w) world

def executedPlaces (s : SubscribedRequests σ) : List Nat := s.executed.map (·.callback.place)

variable {s : SubscribedRequests σ} {world : σ} {cs : List (ParserCall σ)}
  {req : RequestCallback σ} {request_id : cmd_seq_t} {argc : Int} {argv : Option (List Str)}

/-- One run of `exec_reqest` for each callback: those found are executed in their order. -/
theorem foldl_exec_reqest (rs : List (Subscribed σ)) (s : SubscribedRequests σ) :
    rs.foldl (fun s r => { s with
        world := r.req.execute argc argv s.world
        executed := s.executed ++ [⟨r, s.calls, argc, argv⟩] }) s =
      { s with
        world := replay (rs.map fun r => ⟨r, s.calls, argc, argv⟩) s.world
        executed := s.executed ++ rs.map fun r => ⟨r, s.calls, argc, argv⟩ } := by
  induction rs generalizing s with
  | nil => simp [replay]
  | cons r rs ih =>
    rw [List.foldl_cons, ih]
    simp [replay]

theorem processRequest_eq (s : SubscribedRequests σ) :
    s.processRequest request_id argc argv =
      { s with
        subscribed_requests_ := s.subscribed_requests_.filter (request_id ≠ ·.req.request_id_)
        world := replay ((s.matched request_id).map fun r => ⟨r, s.calls, argc, argv⟩) s.world
        executed := s.executed ++
          (s.matched request_id).map fun r => ⟨r, s.calls, argc, argv⟩ } := by
  have htest : ∀ (r : Subscribed σ) (s : SubscribedRequests σ),
      exec_reqest request_id argc argv r s =
        if decide (request_id = r.req.request_id_) then
          (true, { s with
            world := r.req.execute argc argv s.world
            executed := s.executed ++ [⟨r, s.calls, argc, argv⟩] })
        else (false, s) := by
    intro r s
    simp only [exec_reqest, decide_eq_true_eq]
  rw [processRequest, eraseIf_eq_pass, pass_of_test htest, foldl_exec_reqest]
  simp only [matched, decide_not]

/-- An execution belongs to a call of `processRequest` with its id and its arguments, and this call
came after the one that subscribed the callback. -/
def Answers (cs : List (ParserCall σ)) (e : Execution σ) : Prop :=
  cs[e.callback.place]? = some (.subscribeRequest e.callback.req) ∧
    cs[e.place]? = some (.processRequest e.callback.req.request_id_ e.argc e.argv) ∧
    e.callback.place < e.place

/-- Every callback that waits for a call of `processRequest` with its id is executed by this call or
has been before. -/
def Answered (cs : List (ParserCall σ)) (es : List (Execution σ)) : Prop :=
  ∀ r ∈ subscriptions cs, ∀ place argc argv,
    cs[place]? = some (.processRequest r.req.request_id_ argc argv) → r.place < place →
      ∃ e ∈ es, e.callback = r ∧ e.place ≤ place

/-- The books of a parser after the calls `cs`. -/
structure Bookkept (world : σ) (cs : List (ParserCall σ)) (s : SubscribedRequests σ) : Prop where
  calls : s.calls = cs.length
  once : s.executedPlaces.Nodup
  answers : ∀ e ∈ s.executed, Answers cs e
  answered : Answered cs s.executed
  pending : s.subscribed_requests_ =
    (subscriptions cs).filter fun r => r.place ∉ s.executedPlaces
  replayed : s.world = replay s.executed world

theorem mem_subscriptions {r : Subscribed σ} :
    r ∈ subscriptions cs ↔ cs[r.place]? = some (.subscribeRequest r.req) := by
  rw [subscriptions, List.mem_filterMap]
  constructor
  · rintro ⟨⟨c, place⟩, hc, hr⟩
    cases c with
    | subscribeRequest req =>
      cases hr
      exact List.mem_zipIdx_iff_getElem?.1 hc
    | processRequest request_id argc argv => cases hr
  · intro h
    exact ⟨(.subscribeRequest r.req, r.place), List.mem_zipIdx_iff_getElem?.2 h, rfl⟩

theorem eq_of_place {r r' : Subscribed σ} (h : r ∈ subscriptions cs) (h' : r' ∈ subscriptions cs)
    (he : r.place = r'.place) : r = r' := by
  have hr := mem_subscriptions.1 h
  have hr' := mem_subscriptions.1 h'
  rw [he, hr'] at hr
  cases r
  cases r'
  cases he
  cases hr
  rfl

theorem nodup_places_subscriptions (cs : List (ParserCall σ)) :
    ((subscriptions cs).map (·.place)).Nodup := by
  have hsub : ((subscriptions cs).map (·.place)).Sublist (cs.zipIdx.map Prod.snd) := by
    rw [subscriptions]
    induction cs.zipIdx with
    | nil => exact .slnil
    | cons c rest ih =>
      match c with
      | (.subscribeRequest req, place) => exact ih.cons_cons place
      | (.processRequest .., place) => exact ih.cons place
  rw [List.zipIdx_map_snd] at hsub
  exact hsub.nodup List.nodup_range'

theorem subscriptions_concat (cs : List (ParserCall σ)) (c : ParserCall σ) :
    subscriptions (cs ++ [c]) = subscriptions cs ++
      match c with
      | .subscribeRequest req => [⟨req, cs.length⟩]
      | .processRequest .. => [] := by
  rw [subscriptions, List.zipIdx_append, List.filterMap_append]
  cases c <;> simp [subscriptions]

theorem Answers.concat {e : Execution σ} (h : Answers cs e) (c : ParserCall σ) :
    Answers (cs ++ [c]) e := by
  obtain ⟨hsub, hproc, hlt⟩ := h
  have hle := (List.getElem?_eq_some_iff.1 hproc).1
  rw [Answers, List.getElem?_append_left (by omega), List.getElem?_append_left hle]
  exact ⟨hsub, hproc, hlt⟩

theorem Bookkept.place_lt (h : Bookkept world cs s) {place : Nat}
    (hp : place ∈ s.executedPlaces) : place < cs.length := by
  obtain ⟨e, he, rfl⟩ := List.mem_map.1 hp
  exact (List.getElem?_eq_some_iff.1 (h.answers e he).1).1

theorem Bookkept.answered_subscribeRequest (h : Bookkept world cs s) (req : RequestCallback σ) :
    Answered (cs ++ [.subscribeRequest req]) s.executed := by
  intro r hr place argc argv hplace hlt
  rw [subscriptions_concat, List.mem_append] at hr
  -- the last call is none of `processRequest`
  have hold : place < cs.length := by
    apply Nat.lt_of_not_le
    intro hle
    rw [List.getElem?_append_right hle] at hplace
    cases hsub : place - cs.length with
    | zero => simp [hsub] at hplace
    | succ k => simp [hsub] at hplace
  obtain hr | hr := hr
  · rw [List.getElem?_append_left hold] at hplace
    exact h.answered r hr place argc argv hplace hlt
  · cases List.mem_singleton.1 hr
    exact absurd (hlt.trans hold) (Nat.lt_irrefl _)

theorem Bookkept.subscribeRequest (h : Bookkept world cs s) (req : RequestCallback σ) :
    Bookkept world (cs ++ [.subscribeRequest req]) (s.call (.subscribeRequest req)) := by
  refine ⟨?_, h.once, fun e he => (h.answers e he).concat _, h.answered_subscribeRequest req, ?_,
    h.replayed⟩
  · rw [List.length_append, ← h.calls]
    rfl
  · have hnew : cs.length ∉ s.executedPlaces := fun hp => Nat.lt_irrefl _ (h.place_lt hp)
    have hkept : (subscriptions (cs ++ [.subscribeRequest req])).filter
        (fun r => r.place ∉ s.executedPlaces) = s.subscribed_requests_ ++ [⟨req, cs.length⟩] := by
      rw [subscriptions_concat, List.filter_append, ← h.pending]
      simp only [List.filter_cons, hnew, not_false_eq_true, decide_true, if_true, List.filter_nil]
    rw [← h.calls] at hkept
    exact hkept.symm

/-- What a call executes has been subscribed, and has not been executed before. -/
theorem Bookkept.of_matched (h : Bookkept world cs s) {r : Subscribed σ}
    (hr : r ∈ s.matched request_id) :
    r ∈ subscriptions cs ∧ r.place ∉ s.executedPlaces ∧ request_id = r.req.request_id_ := by
  obtain ⟨hin, hid⟩ := List.mem_filter.1 hr
  rw [h.pending, List.mem_filter] at hin
  exact ⟨hin.1, of_decide_eq_true hin.2, of_decide_eq_true hid⟩

theorem executedPlaces_processRequest (s : SubscribedRequests σ) :
    (s.processRequest request_id argc argv).executedPlaces =
      s.executedPlaces ++ (s.matched request_id).map (·.place) := by
  rw [processRequest_eq]
  simp only [executedPlaces, List.map_append, List.map_map]
  rfl

theorem Bookkept.once_processRequest (h : Bookkept world cs s) :
    (s.processRequest request_id argc argv).executedPlaces.Nodup := by
  rw [executedPlaces_processRequest, List.nodup_append]
  have hsub : (s.matched request_id).Sublist (subscriptions cs) := by
    rw [matched, h.pending]
    exact List.filter_sublist.trans List.filter_sublist
  refine ⟨h.once, (nodup_places_subscriptions cs).sublist (hsub.map _), ?_⟩
  intro place hp place' hp'
  obtain ⟨r, hr, rfl⟩ := List.mem_map.1 hp'
  rintro rfl
  exact (h.of_matched hr).2.1 hp

theorem Bookkept.answers_processRequest (h : Bookkept world cs s) {e : Execution σ}
    (he : e ∈ (s.processRequest request_id argc argv).executed) :
    Answers (cs ++ [.processRequest request_id argc argv]) e := by
  rw [processRequest_eq] at he
  obtain he | he := List.mem_append.1 he
  · exact (h.answers e he).concat _
  · obtain ⟨r, hr, rfl⟩ := List.mem_map.1 he
    obtain ⟨hin, _, rfl⟩ := h.of_matched hr
    have hsub := mem_subscriptions.1 hin
    have hlt := (List.getElem?_eq_some_iff.1 hsub).1
    refine ⟨?_, ?_, ?_⟩
    · exact (List.getElem?_append_left hlt).trans hsub
    · simp only [h.calls, List.getElem?_concat_length]
    · simp only [h.calls, hlt]

theorem Bookkept.answered_processRequest (h : Bookkept world cs s) (request_id : cmd_seq_t)
    (argc : Int) (argv : Option (List Str)) :
    Answered (cs ++ [.processRequest request_id argc argv])
      (s.processRequest request_id argc argv).executed := by
  intro r hr place argc' argv' hplace hlt
  rw [subscriptions_concat, List.append_nil] at hr
  rw [processRequest_eq]
  rcases Nat.lt_or_ge place cs.length with hold | hge
  · rw [List.getElem?_append_left hold] at hplace
    obtain ⟨e, he, hcallback⟩ := h.answered r hr place argc' argv' hplace hlt
    exact ⟨e, List.mem_append_left _ he, hcallback⟩
  · have hlast : place = cs.length := by
      have hbound := (List.getElem?_eq_some_iff.1 hplace).1
      rw [List.length_append, List.length_singleton] at hbound
      omega
    rw [hlast, List.getElem?_concat_length] at hplace
    cases hplace
    by_cases hp : r.place ∈ s.executedPlaces
    · obtain ⟨e, he, hsame⟩ := List.mem_map.1 hp
      obtain ⟨hsub, hproc, _⟩ := h.answers e he
      have hle := (List.getElem?_eq_some_iff.1 hproc).1
      exact ⟨e, List.mem_append_left _ he, eq_of_place (mem_subscriptions.2 hsub) hr hsame,
        hlast ▸ hle.le⟩
    · have hmatched : r ∈ s.matched r.req.request_id_ := by
        rw [matched, h.pending]
        exact List.mem_filter.2 ⟨List.mem_filter.2 ⟨hr, decide_eq_true hp⟩, decide_eq_true rfl⟩
      exact ⟨_, List.mem_append_right _ (List.mem_map_of_mem hmatched), rfl,
        (h.calls.trans hlast.symm).le⟩

/-- A subscription stays pending exactly when this call does not execute it either. -/
theorem Bookkept.pending_processRequest (h : Bookkept world cs s) :
    (s.processRequest request_id argc argv).subscribed_requests_ =
      (subscriptions cs).filter fun r =>
        r.place ∉ (s.processRequest request_id argc argv).executedPlaces := by
  have hkept : (s.processRequest request_id argc argv).subscribed_requests_ =
      s.subscribed_requests_.filter (request_id ≠ ·.req.request_id_) := by
    rw [processRequest_eq]
  rw [hkept, executedPlaces_processRequest]
  conv_lhs => rw [h.pending, List.filter_filter]
  apply List.filter_congr
  intro r hr
  rw [← Bool.decide_and, decide_eq_decide, List.mem_append, not_or, and_comm]
  apply and_congr_right
  intro hn
  apply not_congr
  constructor
  · rintro hid
    refine List.mem_map.2 ⟨r, List.mem_filter.2 ⟨?_, decide_eq_true hid⟩, rfl⟩
    rw [h.pending]
    exact List.mem_filter.2 ⟨hr, decide_eq_true hn⟩
  · intro hp
    obtain ⟨r', hr', he⟩ := List.mem_map.1 hp
    obtain ⟨hin, _, hid⟩ := h.of_matched hr'
    rw [hid, eq_of_place hin hr he]

theorem Bookkept.processRequest (h : Bookkept world cs s) (request_id : cmd_seq_t) (argc : Int)
    (argv : Option (List Str)) :
    Bookkept world (cs ++ [.processRequest request_id argc argv])
      (s.call (.processRequest request_id argc argv)) := by
  refine ⟨?_, h.once_processRequest, fun e he => h.answers_processRequest he,
    h.answered_processRequest request_id argc argv, ?_, ?_⟩
  · rw [List.length_append, ← h.calls]
    rfl
  · rw [subscriptions_concat, List.append_nil]
    exact h.pending_processRequest
  · have hw : (s.processRequest request_id argc argv).world =
        replay (s.processRequest request_id argc argv).executed world := by
      rw [processRequest_eq, h.replayed, replay, replay, replay, List.foldl_append]
    exact hw

theorem bookkept_after (world : σ) (cs : List (ParserCall σ)) :
    Bookkept world cs (after world cs) := by
  induction cs using List.reverseRecOn with
  | nil =>
    exact ⟨rfl, List.nodup_nil, fun e he => absurd he List.not_mem_nil,
      fun r hr => absurd hr List.not_mem_nil, rfl, rfl⟩
  | append_singleton cs c ih =>
    rw [after, List.foldl_concat, ← after]
    cases c with
    | subscribeRequest req => exact ih.subscribeRequest req
    | processRequest request_id argc argv => exact ih.processRequest request_id argc argv

/-- Pending requests, whatever is called: each is executed at most once, by a later call with its id
and with the arguments of that call; every such call executes all that still wait for it; those not
executed are left, in the order they came in; and the functions have seen these executions, and no
others. -/
theorem requests_kept (world : σ) (cs : List (ParserCall σ)) :
    (after world cs).executedPlaces.Nodup ∧
      (∀ e ∈ (after world cs).executed, Answers cs e) ∧
      Answered cs (after world cs).executed ∧
      (after world cs).subscribed_requests_ =
        (subscriptions cs).filter (fun r => r.place ∉ (after world cs).executedPlaces) ∧
      (after world cs).world = replay (after world cs).executed world := by
  have h := bookkept_after world cs
  exact ⟨h.once, h.answers, h.answered, h.pending, h.replayed⟩

/-- The callbacks of the inner server: they publish. -/
def ofServer (rc : SiteOnYourDevice.RequestCallback) : RequestCallback (List Published) :=
  ⟨rc.request_id_, some fun request_id _ argv commands_out =>
    commands_out ++ [⟨InnerServerHandlerHost.joined request_id (argv.getD []), some rc⟩]⟩

/-- The inner server has the requests of a parser whose callbacks publish. -/
structure Simulates (server : InnerServerHandlerHost) (s : SubscribedRequests (List Published)) :
    Prop where
  subscribed : s.subscribed_requests_.map (·.req) = server.subscribed_requests_.map ofServer
  commands_out : s.world = server.commands_out

theorem replay_ofServer (rs : List (Subscribed (List Published)))
    (rcs : List SiteOnYourDevice.RequestCallback) (h : rs.map (·.req) = rcs.map ofServer)
    (place : Nat) (argc : Int) (argv : Option (List Str)) (out : List Published) :
    replay (rs.map fun r => ⟨r, place, argc, argv⟩) out = out ++ rcs.map fun rc =>
      ⟨InnerServerHandlerHost.joined rc.request_id_ (argv.getD []), some rc⟩ := by
  induction rcs generalizing rs out with
  | nil =>
    obtain rfl := List.map_eq_nil_iff.1 h
    exact (List.append_nil _).symm
  | cons rc rcs ih =>
    obtain ⟨r, rs, rfl, hr, hrs⟩ := List.map_eq_cons_iff.1 h
    have hone : r.req.execute argc argv out =
        out ++ [⟨InnerServerHandlerHost.joined rc.request_id_ (argv.getD []), some rc⟩] := by
      rw [hr]
      rfl
    have hrest := ih rs hrs (r.req.execute argc argv out)
    rw [hone, List.append_assoc] at hrest
    rw [List.map_cons, replay, List.foldl_cons, hone]
    exact hrest

theorem Simulates.processRequest {server : InnerServerHandlerHost}
    {s : SubscribedRequests (List Published)} (h : Simulates server s) (request_id : cmd_seq_t)
    (argc : Int) (argv : Option (List Str)) :
    Simulates (server.processRequest request_id argv)
      (s.call (.processRequest request_id argc argv)) := by
  have hfilter (q : cmd_seq_t → Bool) :
      (s.subscribed_requests_.filter fun r => q r.req.request_id_).map (·.req) =
        (server.subscribed_requests_.filter fun rc => q rc.request_id_).map ofServer := by
    have hs : s.subscribed_requests_.filter (fun r => q r.req.request_id_) =
        s.subscribed_requests_.filter ((fun r => q r.request_id_) ∘ (·.req)) := rfl
    rw [hs, ← List.filter_map, h.subscribed, List.filter_map]
    rfl
  rw [InnerServerHandlerHost.processRequest_eq]
  refine ⟨?_, ?_⟩
  · rw [call, processRequest_eq]
    exact hfilter fun id => request_id ≠ id
  · rw [call, processRequest_eq]
    exact (replay_ofServer _ _ (hfilter fun id => request_id = id) _ _ _ _).trans
      (congrArg (· ++ _) h.commands_out)

theorem Simulates.subscribeRequest {server : InnerServerHandlerHost}
    {s : SubscribedRequests (List Published)} (h : Simulates server s)
    (rc : SiteOnYourDevice.RequestCallback) :
    Simulates (server.subscribeRequest rc) (s.call (.subscribeRequest (ofServer rc))) := by
  refine ⟨?_, h.commands_out⟩
  rw [InnerServerHandlerHost.subscribeRequest, List.map_append, ← h.subscribed]
  exact List.map_append

end SubscribedRequests

end SiteOnYourDevice
