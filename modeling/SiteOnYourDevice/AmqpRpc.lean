import Mathlib.Data.List.Basic
import SiteOnYourDevice.CString
import SiteOnYourDevice.Transition

namespace SiteOnYourDevice
open CString Transition
set_option relaxedAutoImplicit false
set_option autoImplicit true

/-- An entry of `requests`: the callbacks and the timer of one call of `makeRequest`, which its
number tells from the others. -/
structure RpcRequest where
  number : Nat
  correlationId : Str
deriving DecidableEq

/-- What a property of `requests` is: one of its entries, or something that is inherited and has
neither callback. -/
inductive RpcProperty
  | undefined
  | entry (r : RpcRequest)
  | inherited
deriving DecidableEq

/-- The object `requests`: its own properties, and its prototype, when that is an entry. -/
structure RpcTable where
  own : Str → Option RpcRequest
  proto : Option RpcRequest

namespace RpcTable

def protoKey : Str := "__proto__".toList

def objectKeys : List Str :=
  ["constructor".toList, "__defineGetter__".toList, "__defineSetter__".toList,
    "hasOwnProperty".toList, "__lookupGetter__".toList, "__lookupSetter__".toList,
    "isPrototypeOf".toList, "propertyIsEnumerable".toList, "toString".toList, "valueOf".toList,
    "toLocaleString".toList]

def entryKeys : List Str := ["callback".toList, "status_callback".toList, "timeout".toList]

/-- `key in requests`, and `requests[key]`. -/
def get (t : RpcTable) (key : Str) : RpcProperty :=
  if key = protoKey then
    match t.proto with
    | some r => .entry r
    | none => .inherited
  else
    match t.own key with
    | some r => .entry r
    | none =>
      if objectKeys.contains key || t.proto.isSome && entryKeys.contains key then .inherited
      else .undefined

def set (t : RpcTable) (key : Str) (r : RpcRequest) : RpcTable :=
  if key = protoKey then { t with proto := some r }
  else { t with own := fun k => if k = key then some r else t.own k }

/-- `delete requests[key]`, which takes own properties only. -/
def delete (t : RpcTable) (key : Str) : RpcTable :=
  if key = protoKey then t else { t with own := fun k => if k = key then none else t.own k }

end RpcTable

namespace RpcTable
variable {t : RpcTable} {key id : Str} {r : RpcRequest}

theorem own_set (hid : id ≠ protoKey) :
    (t.set key r).own id = if id = key then some r else t.own id := by
  rw [set]
  split
  · rename_i hkey
    rw [hkey, if_neg hid]
  · rfl

theorem own_delete (hid : id ≠ protoKey) :
    (t.delete key).own id = if id = key then none else t.own id := by
  rw [delete]
  split
  · rename_i hkey
    rw [hkey, if_neg hid]
  · rfl

theorem proto_set : (t.set key r).proto = if key = protoKey then some r else t.proto := by
  rw [set]
  split <;> rfl

theorem proto_delete : (t.delete key).proto = t.proto := by
  rw [delete]
  split <;> rfl

end RpcTable

/-- What an `AmqpRpc` does for a request; `deleted` is the end of the function of its timer. -/
inductive RpcCall
  | made (r : RpcRequest)
  | callback (r : RpcRequest) (outcome : Except Str Str)
  | status_callback (r : RpcRequest) (message : Str)
  | deleted (r : RpcRequest)
deriving DecidableEq

namespace RpcCall

def request : RpcCall → RpcRequest
  | made r | callback r _ | status_callback r _ | deleted r => r

def callback? : RpcCall → Option RpcRequest
  | callback r _ => some r
  | made _ | status_callback _ _ | deleted _ => none

/-- The request whose callbacks a call is to. -/
def called? : RpcCall → Option RpcRequest
  | callback r _ | status_callback r _ => some r
  | made _ | deleted _ => none

def makes (id : Str) : RpcCall → Bool
  | made r => r.correlationId = id
  | callback _ _ | status_callback _ _ | deleted _ => false

/-- What puts an entry under an id, or takes it away. -/
def touches (id : Str) : RpcCall → Bool
  | made r | callback r (.ok _) | deleted r => r.correlationId = id
  | callback _ (.error _) | status_callback _ _ => false

end RpcCall

structure RpcPublication where
  queue_name : Str
  content : Str
  correlationId : Str

/-- `running` is the timer whose function has called back and goes on with `delete`; only this call
back can run in between. The newest call stands first. -/
structure AmqpRpc where
  requests : RpcTable
  response_queue : Option Str
  opening : List RpcPublication
  published : List (RpcPublication × Str)
  armed : List RpcRequest
  running : Option RpcRequest
  made : Nat
  calls : List RpcCall

inductive RpcEvent
  | makeRequest (queue_name correlationId content : Str)
  | queue (i : Nat) (name : Str)
  | message (type correlationId message : Str)
  | timeout (r : RpcRequest)
  | delete

namespace AmqpRpc

def init : AmqpRpc where
  requests := ⟨fun _ => none, none⟩
  response_queue := none
  opening := []
  published := []
  armed := []
  running := none
  made := 0
  calls := []

def responce : Str := "responce".toList

def status : Str := "status".toList

def setupResponseQueue (s : AmqpRpc) (next : RpcPublication) : AmqpRpc :=
  match s.response_queue with
  | some name => { s with published := s.published ++ [(next, name)] }
  | none => { s with opening := s.opening ++ [next] }

def makeRequest (s : AmqpRpc) (queue_name correlationId content : Str) : AmqpRpc :=
  let entry : RpcRequest := ⟨s.made, correlationId⟩
  setupResponseQueue
    { s with
      armed := s.armed ++ [entry]
      requests := s.requests.set correlationId entry
      made := s.made + 1
      calls := .made entry :: s.calls }
    ⟨queue_name, content, correlationId⟩

/-- The callback of `connection.queue`. -/
def queue (s : AmqpRpc) (i : Nat) (name : Str) : Option AmqpRpc :=
  s.opening[i]?.map fun next =>
    { s with
      opening := s.opening.eraseIdx i
      response_queue := some name
      published := s.published ++ [(next, name)] }

/-- The callback of `q.subscribe`. A call of what is no function throws, and calls nothing. -/
def message (s : AmqpRpc) (type correlationId message : Str) : AmqpRpc :=
  match s.requests.get correlationId with
  | .undefined | .inherited => s
  | .entry entry =>
    if type = responce then
      { s with
        armed := s.armed.filter (· ≠ entry)
        requests := s.requests.delete correlationId
        calls := .callback entry (.ok message) :: s.calls }
    else if type = status then
      { s with calls := .status_callback entry message :: s.calls }
    else s

def timeout (s : AmqpRpc) (r : RpcRequest) : AmqpRpc :=
  { s with
    armed := s.armed.filter (· ≠ r)
    running := some r
    calls := .callback r (.error ("timeout ".toList ++ r.correlationId)) :: s.calls }

def delete (s : AmqpRpc) (r : RpcRequest) : AmqpRpc :=
  { s with
    requests := s.requests.delete r.correlationId
    running := none
    calls := .deleted r :: s.calls }

/-- A message comes to a queue that was opened. -/
def step (s : AmqpRpc) : RpcEvent → Option AmqpRpc
  | .makeRequest queue_name correlationId content =>
    some (s.makeRequest queue_name correlationId content)
  | .queue i name => if s.running = none then s.queue i name else none
  | .message type correlationId message =>
    if s.running = none ∧ s.response_queue.isSome then some (s.message type correlationId message)
    else none
  | .timeout r => if s.running = none ∧ r ∈ s.armed then some (s.timeout r) else none
  | .delete => s.running.map s.delete

/-- No request is called, in either way, after its callback. -/
def Once (calls : List RpcCall) : Prop :=
  calls.Pairwise fun later earlier => ∀ r, earlier.callback? = some r → later.called? ≠ some r

/-- A request that has neither been answered nor timed out. -/
structure Pending (calls : List RpcCall) (r : RpcRequest) : Prop where
  made : .made r ∈ calls
  callback : ∀ call ∈ calls, call.callback? ≠ some r

/-- Some pending request gets a response. -/
def Delivers (s : AmqpRpc) (e : RpcEvent) (s' : AmqpRpc) : Prop :=
  ∀ id m, e = .message responce id m → (∃ r, Pending s.calls r ∧ r.correlationId = id) →
    ∃ r, Pending s.calls r ∧ r.correlationId = id ∧ s'.calls = .callback r (.ok m) :: s.calls

def Reports (s : AmqpRpc) (e : RpcEvent) (s' : AmqpRpc) : Prop := Once s'.calls ∧ Delivers s e s'

/-- Under the id of a response, for which a request is pending, nothing was taken away since a request
was put there; the key that is never taken away is that of a pending request. -/
def Open (s : AmqpRpc) : RpcEvent → Prop
  | .message type id _ =>
    if id = RpcTable.protoKey then
      type = responce ∨ type = status →
        ∀ r, s.calls.find? (RpcCall.makes id) = some (.made r) → Pending s.calls r
    else
      type = responce → (∃ r, Pending s.calls r ∧ r.correlationId = id) →
        ∃ r, s.calls.find? (RpcCall.touches id) = some (.made r)
  | .makeRequest _ _ _ | .queue _ _ | .timeout _ | .delete => True

/-- What holds between two events, and while a timer's function runs. -/
structure Invariant (s : AmqpRpc) : Prop where
  once : Once s.calls
  number : ∀ call ∈ s.calls, call.request.number < s.made
  running : ∀ r, s.running = some r → r.number < s.made
  armed : ∀ r, r ∈ s.armed ↔ Pending s.calls r
  own : ∀ id, id ≠ RpcTable.protoKey → ∀ r,
    s.requests.own id = some r ↔ s.calls.find? (RpcCall.touches id) = some (.made r)
  live : ∀ id, id ≠ RpcTable.protoKey → ∀ r, s.requests.own id = some r →
    r ∈ s.armed ∨ s.running = some r
  proto : ∀ r, s.requests.proto = some r ↔
    s.calls.find? (RpcCall.makes RpcTable.protoKey) = some (.made r)

variable {s s' : AmqpRpc} {e : RpcEvent} {calls : List RpcCall} {call : RpcCall} {r r' : RpcRequest}
  {id : Str} {outcome : Except Str Str}

/-- What only the connection sees. -/
structure Untouched (s s' : AmqpRpc) : Prop where
  requests : s'.requests = s.requests
  armed : s'.armed = s.armed
  running : s'.running = s.running
  made : s'.made = s.made
  calls : s'.calls = s.calls

theorem setupResponseQueue_untouched (s : AmqpRpc) (next : RpcPublication) :
    Untouched s (s.setupResponseQueue next) := by
  rw [setupResponseQueue]
  split
  all_goals exact ⟨rfl, rfl, rfl, rfl, rfl⟩

theorem queue_untouched {i : Nat} {name : Str} (hs : s.queue i name = some s') :
    Untouched s s' := by
  obtain ⟨next, _, rfl⟩ := Option.map_eq_some_iff.1 hs
  exact ⟨rfl, rfl, rfl, rfl, rfl⟩

theorem once_cons_of_not_called (h : call.called? = none) : Once (call :: calls) ↔ Once calls := by
  rw [Once, List.pairwise_cons]
  constructor
  · exact fun h => h.2
  · refine fun honce => ⟨fun earlier _ r _ => ?_, honce⟩
    rw [h]
    exact nofun

theorem once_cons_of_called (h : call.called? = some r) :
    Once (call :: calls) ↔ (∀ earlier ∈ calls, earlier.callback? ≠ some r) ∧ Once calls := by
  rw [Once, List.pairwise_cons]
  constructor
  · intro ⟨hcalled, honce⟩
    exact ⟨fun earlier hmem hr => hcalled earlier hmem r hr h, honce⟩
  · intro ⟨hcalled, honce⟩
    refine ⟨fun earlier hmem r' hr' heq => ?_, honce⟩
    cases h.symm.trans heq
    exact hcalled earlier hmem hr'

theorem Pending.once_cons (hr : Pending calls r) (honce : Once calls) (h : call.called? = some r) :
    Once (call :: calls) :=
  (once_cons_of_called h).2 ⟨hr.callback, honce⟩

theorem pending_cons_callback :
    Pending (.callback r' outcome :: calls) r ↔ Pending calls r ∧ r ≠ r' := by
  constructor
  · intro h
    have hmade : .made r ∈ calls := by
      cases h.made with
      | tail _ hmem => exact hmem
    refine ⟨⟨hmade, fun call hmem => h.callback call (List.mem_cons_of_mem _ hmem)⟩, ?_⟩
    intro heq
    exact h.callback _ List.mem_cons_self (congrArg some heq.symm)
  · intro ⟨h, hne⟩
    refine ⟨List.mem_cons_of_mem _ h.made, fun call hmem => ?_⟩
    cases hmem with
    | head => exact fun heq => hne (Option.some.inj heq).symm
    | tail _ hmem => exact h.callback call hmem

theorem pending_cons_of_ne (hmade : call ≠ .made r) (hcallback : call.callback? ≠ some r) :
    Pending (call :: calls) r ↔ Pending calls r := by
  constructor
  · intro h
    have hmem := h.made
    rw [List.mem_cons] at hmem
    refine ⟨hmem.resolve_left hmade.symm, fun call hmem => ?_⟩
    exact h.callback call (List.mem_cons_of_mem _ hmem)
  · intro h
    refine ⟨List.mem_cons_of_mem _ h.made, ?_⟩
    rw [List.forall_mem_cons]
    exact ⟨hcallback, h.callback⟩

theorem pending_cons_status {m : Str} :
    Pending (.status_callback r' m :: calls) r ↔ Pending calls r :=
  pending_cons_of_ne nofun nofun

theorem pending_cons_deleted : Pending (.deleted r' :: calls) r ↔ Pending calls r :=
  pending_cons_of_ne nofun nofun

theorem pending_cons_made (hnew : ∀ call ∈ calls, call.request ≠ r') :
    Pending (.made r' :: calls) r ↔ Pending calls r ∨ r = r' := by
  by_cases heq : r = r'
  · subst heq
    refine ⟨fun _ => .inr rfl, fun _ => ⟨List.mem_cons_self, ?_⟩⟩
    rw [List.forall_mem_cons]
    refine ⟨nofun, fun call hmem hcall => hnew call hmem ?_⟩
    cases call with
    | callback r outcome => exact Option.some.inj hcall
    | made | status_callback | deleted => cases hcall
  · rw [pending_cons_of_ne (fun h => heq (RpcCall.made.inj h).symm) nofun, or_iff_left heq]

theorem correlationId_of_touches (h : calls.find? (RpcCall.touches id) = some (.made r)) :
    r.correlationId = id := by
  simpa [RpcCall.touches] using List.find?_some h

theorem correlationId_of_makes (h : calls.find? (RpcCall.makes id) = some (.made r)) :
    r.correlationId = id := by
  simpa [RpcCall.makes] using List.find?_some h

namespace Invariant

theorem init : Invariant init where
  once := .nil
  number := nofun
  running := nofun
  armed _ := ⟨nofun, fun h => nomatch h.made⟩
  own _ _ _ := ⟨nofun, nofun⟩
  live _ _ _ := nofun
  proto _ := ⟨nofun, nofun⟩

theorem congr (h : Invariant s) (hsame : Untouched s s') : Invariant s' := by
  obtain ⟨_, _, _, _, _, _, _, _⟩ := s'
  obtain ⟨hrequests, harmed, hrunning, hmade, hcalls⟩ := hsame
  cases hrequests
  cases harmed
  cases hrunning
  cases hmade
  cases hcalls
  exact ⟨h.once, h.number, h.running, h.armed, h.own, h.live, h.proto⟩

theorem makeRequest (h : Invariant s) (queue_name id content : Str) :
    Invariant (s.makeRequest queue_name id content) := by
  have hnew : ∀ call ∈ s.calls, call.request ≠ ⟨s.made, id⟩ := by
    intro call hmem heq
    have hlt := h.number call hmem
    rw [heq] at hlt
    exact Nat.lt_irrefl _ hlt
  have hentry : Invariant
      { s with
        armed := s.armed ++ [⟨s.made, id⟩]
        requests := s.requests.set id ⟨s.made, id⟩
        made := s.made + 1
        calls := .made ⟨s.made, id⟩ :: s.calls } := by
    constructor
    · exact (once_cons_of_not_called rfl).2 h.once
    · rw [List.forall_mem_cons]
      exact ⟨Nat.lt_succ_self _, fun call hmem => Nat.lt_succ_of_lt (h.number call hmem)⟩
    · exact fun r hr => Nat.lt_succ_of_lt (h.running r hr)
    · intro r
      rw [pending_cons_made hnew, List.mem_append, List.mem_singleton, h.armed]
    · intro key hkey r
      rw [RpcTable.own_set hkey, List.find?_cons]
      by_cases hid : key = id
      · simp [RpcCall.touches, hid]
      · simpa [RpcCall.touches, hid, Ne.symm hid] using h.own key hkey r
    · intro key hkey r hr
      rw [RpcTable.own_set hkey] at hr
      rw [List.mem_append, List.mem_singleton]
      split at hr
      · exact .inl (.inr (Option.some.inj hr).symm)
      · exact (h.live key hkey r hr).imp_left .inl
    · intro r
      rw [RpcTable.proto_set, List.find?_cons]
      by_cases hid : id = RpcTable.protoKey
      · simp [RpcCall.makes, hid]
      · simpa [RpcCall.makes, hid] using h.proto r
  exact hentry.congr (setupResponseQueue_untouched _ _)

theorem queue (h : Invariant s) {i : Nat} {name : Str} (hs : s.queue i name = some s') :
    Invariant s' :=
  h.congr (queue_untouched hs)

/-- A call that leaves the table alone, and answers no request. -/
theorem status_callback (h : Invariant s) {m : Str} (hr : Pending s.calls r) :
    Invariant { s with calls := .status_callback r m :: s.calls } where
  once := hr.once_cons h.once rfl
  number := by
    rw [List.forall_mem_cons]
    exact ⟨h.number (.made r) hr.made, h.number⟩
  running := h.running
  armed r' := (h.armed r').trans pending_cons_status.symm
  own := h.own
  live := h.live
  proto := h.proto

theorem mem_filter_iff (h : Invariant s) :
    r' ∈ s.armed.filter (· ≠ r) ↔ Pending (.callback r outcome :: s.calls) r' := by
  rw [pending_cons_callback, List.mem_filter, decide_eq_true_iff, h.armed]

theorem callback (h : Invariant s) {m : Str} (hr : Pending s.calls r) (hid : r.correlationId = id) :
    Invariant
      { s with
        armed := s.armed.filter (· ≠ r)
        requests := s.requests.delete id
        calls := .callback r (.ok m) :: s.calls } where
  once := hr.once_cons h.once rfl
  number := by
    rw [List.forall_mem_cons]
    exact ⟨h.number (.made r) hr.made, h.number⟩
  running := h.running
  armed _ := h.mem_filter_iff
  own key hkey r' := by
    rw [RpcTable.own_delete hkey, List.find?_cons]
    by_cases heq : key = id
    · simp [RpcCall.touches, heq, hid]
    · simpa [RpcCall.touches, heq, hid, Ne.symm heq] using h.own key hkey r'
  live key hkey r' hr' := by
    rw [RpcTable.own_delete hkey] at hr'
    split at hr'
    · cases hr'
    · rename_i hne
      refine (h.live key hkey r' hr').imp_left fun hmem => List.mem_filter.2 ⟨hmem, ?_⟩
      rw [decide_eq_true_iff]
      intro heq
      apply hne
      rw [← hid, ← heq, correlationId_of_touches ((h.own key hkey r').1 hr')]
  proto := by
    rw [RpcTable.proto_delete]
    exact h.proto

theorem timeout (h : Invariant s) (hrunning : s.running = none) (hr : r ∈ s.armed) :
    Invariant (s.timeout r) where
  once := ((h.armed r).1 hr).once_cons h.once rfl
  number := by
    rw [AmqpRpc.timeout, List.forall_mem_cons]
    exact ⟨h.number (.made r) ((h.armed r).1 hr).made, h.number⟩
  running r' hr' := by
    cases hr'
    exact h.number (.made r) ((h.armed r).1 hr).made
  armed _ := h.mem_filter_iff
  own := h.own
  live key hkey r' hr' := by
    have hmem : r' ∈ s.armed := by
      apply (h.live key hkey r' hr').resolve_right
      rw [hrunning]
      exact nofun
    by_cases heq : r' = r
    · exact .inr (congrArg some heq.symm)
    · exact .inl (List.mem_filter.2 ⟨hmem, decide_eq_true heq⟩)
  proto := h.proto

theorem delete (h : Invariant s) (hrunning : s.running = some r) : Invariant (s.delete r) where
  once := (once_cons_of_not_called rfl).2 h.once
  number := by
    rw [AmqpRpc.delete, List.forall_mem_cons]
    exact ⟨h.running r hrunning, h.number⟩
  running := nofun
  armed r' := (h.armed r').trans pending_cons_deleted.symm
  own key hkey r' := by
    rw [AmqpRpc.delete, RpcTable.own_delete hkey, List.find?_cons]
    by_cases heq : key = r.correlationId
    · simp [RpcCall.touches, heq]
    · simpa [RpcCall.touches, heq, Ne.symm heq] using h.own key hkey r'
  live key hkey r' hr' := by
    rw [AmqpRpc.delete, RpcTable.own_delete hkey] at hr'
    split at hr'
    · cases hr'
    · rename_i hne
      refine .inl ((h.live key hkey r' hr').resolve_right fun heq => hne ?_)
      cases hrunning.symm.trans heq
      exact (correlationId_of_touches ((h.own key hkey r).1 hr')).symm
  proto := by
    rw [AmqpRpc.delete, RpcTable.proto_delete]
    exact h.proto

theorem pending_of_own (h : Invariant s) (hrunning : s.running = none)
    (hid : id ≠ RpcTable.protoKey) (hr : s.requests.own id = some r) :
    Pending s.calls r ∧ r.correlationId = id := by
  constructor
  · rw [← h.armed]
    apply (h.live id hid r hr).resolve_right
    rw [hrunning]
    exact nofun
  · exact correlationId_of_touches ((h.own id hid r).1 hr)

end Invariant

theorem reports_iff_once (h : ∀ id m, e ≠ .message responce id m) :
    Reports s e s' ↔ Once s'.calls :=
  and_iff_left fun id m he => absurd he (h id m)

/-- A step is right exactly when its event is open, and the invariant goes on. -/
structure Judged (s : AmqpRpc) (e : RpcEvent) (s' : AmqpRpc) : Prop where
  reports_iff : Reports s e s' ↔ Open s e
  invariant : Reports s e s' → Invariant s'

theorem judged_right (hreports : Reports s e s') (hopen : Open s e) (hi : Invariant s') :
    Judged s e s' :=
  ⟨iff_of_true hreports hopen, fun _ => hi⟩

theorem judged_wrong (hreports : ¬ Reports s e s') (hopen : ¬ Open s e) : Judged s e s' :=
  ⟨iff_of_false hreports hopen, fun h => absurd h hreports⟩

/-- A message of another type. -/
theorem judged_other (h : Invariant s) {type : Str} (m : Str)
    (htype : ¬ (type = responce ∨ type = status)) :
    Judged s (.message type id m) (s.message type id m) := by
  have hsame : s.message type id m = s := by
    rw [message]
    split
    · rfl
    · rfl
    · rw [if_neg fun heq => htype (.inl heq), if_neg fun heq => htype (.inr heq)]
  rw [hsame]
  apply judged_right _ _ h
  · refine ⟨h.once, fun id' m' he => ?_⟩
    cases he
    exact absurd (.inl rfl) htype
  · rw [Open]
    split
    · exact fun hopen => absurd hopen htype
    · exact fun hopen => absurd (.inl hopen) htype

/-- A message whose entry is pending. -/
theorem reports_message (h : Invariant s) {type : Str} (m : Str)
    (htype : type = responce ∨ type = status) (hr : Pending s.calls r)
    (hid : r.correlationId = id) (hget : s.requests.get id = .entry r) :
    Reports s (.message type id m) (s.message type id m) ∧ Invariant (s.message type id m) := by
  rw [message, hget]
  by_cases hresponce : type = responce
  · simp only [if_pos hresponce]
    refine ⟨⟨hr.once_cons h.once rfl, fun id' m' he _ => ?_⟩, h.callback hr hid⟩
    cases he
    exact ⟨r, hr, hid, rfl⟩
  · simp only [if_neg hresponce, if_pos (htype.resolve_left hresponce)]
    refine ⟨⟨hr.once_cons h.once rfl, fun id' m' he => ?_⟩, h.status_callback hr⟩
    cases he
    exact absurd rfl hresponce

/-- An entry that is not pending is called a second time. -/
theorem not_once_message {type : Str} (m : Str) (htype : type = responce ∨ type = status)
    (hmade : .made r ∈ s.calls) (hr : ¬ Pending s.calls r) (hget : s.requests.get id = .entry r) :
    ¬ Once (s.message type id m).calls := by
  have hnot (call : RpcCall) (hcall : call.called? = some r) : ¬ Once (call :: s.calls) := by
    rw [once_cons_of_called hcall]
    exact fun h => hr ⟨hmade, h.1⟩
  rw [message, hget]
  by_cases hresponce : type = responce
  · simp only [if_pos hresponce]
    exact hnot _ rfl
  · simp only [if_neg hresponce, if_pos (htype.resolve_left hresponce)]
    exact hnot _ rfl

/-- A message that finds no entry is right exactly when it is no response, or none of its id is
pending. -/
theorem reports_unheard (h : Invariant s) (type m : Str)
    (hget : ∀ r, s.requests.get id ≠ .entry r) :
    s.message type id m = s ∧ (Reports s (.message type id m) s ↔
      (type = responce → ¬ ∃ r, Pending s.calls r ∧ r.correlationId = id)) := by
  have hsame : s.message type id m = s := by
    rw [message]
    split
    · rfl
    · rfl
    · rename_i hentry
      exact absurd hentry (hget _)
  refine ⟨hsame, ?_⟩
  constructor
  · intro hreports htype hpending
    obtain ⟨_, _, _, hcalls⟩ := hreports.2 id m (by rw [htype]) hpending
    exact List.cons_ne_self _ _ hcalls.symm
  · refine fun hnone => ⟨h.once, fun id' m' he hpending => ?_⟩
    cases he
    exact absurd hpending (hnone rfl)

theorem not_pending_of_proto (h : Invariant s) (hproto : s.requests.proto = none) :
    ¬ ∃ r, Pending s.calls r ∧ r.correlationId = RpcTable.protoKey := by
  intro ⟨r, hr, hid⟩
  cases hfind : s.calls.find? (RpcCall.makes RpcTable.protoKey) with
  | none =>
    have hmakes := List.find?_eq_none.1 hfind _ hr.made
    simp [RpcCall.makes, hid] at hmakes
  | some call =>
    have hmakes := List.find?_some hfind
    cases call with
    | made r' =>
      rw [(h.proto r').2 hfind] at hproto
      cases hproto
    | callback | status_callback | deleted => cases hmakes

/-- The prototype is an entry that no message takes away. -/
theorem judged_proto (h : Invariant s) {type : Str} (m : Str)
    (htype : type = responce ∨ type = status) :
    Judged s (.message type RpcTable.protoKey m) (s.message type RpcTable.protoKey m) := by
  cases hproto : s.requests.proto with
  | none =>
    have hget : ∀ r, s.requests.get RpcTable.protoKey ≠ .entry r := by
      rw [RpcTable.get, if_pos rfl, hproto]
      exact nofun
    obtain ⟨hsame, hiff⟩ := reports_unheard h type m hget
    rw [hsame]
    apply judged_right _ _ h
    · exact hiff.2 fun _ => not_pending_of_proto h hproto
    · rw [Open, if_pos rfl]
      intro _ r hr
      rw [← h.proto, hproto] at hr
      cases hr
  | some r =>
    have hfind := (h.proto r).1 hproto
    have hget : s.requests.get RpcTable.protoKey = .entry r := by
      rw [RpcTable.get, if_pos rfl, hproto]
    by_cases hr : Pending s.calls r
    · obtain ⟨hreports, hi⟩ :=
        reports_message h m htype hr (correlationId_of_makes hfind) hget
      apply judged_right hreports _ hi
      rw [Open, if_pos rfl]
      intro _ r' hr'
      cases hfind.symm.trans hr'
      exact hr
    · apply judged_wrong
      · have hnot := not_once_message m htype (List.mem_of_find?_eq_some hfind) hr hget
        exact fun hreports => hnot hreports.1
      · rw [Open, if_pos rfl]
        exact fun hopen => hr (hopen htype r hfind)

theorem judged_own (h : Invariant s) (hrunning : s.running = none) {type : Str} (m : Str)
    (htype : type = responce ∨ type = status) (hid : id ≠ RpcTable.protoKey) :
    Judged s (.message type id m) (s.message type id m) := by
  cases hown : s.requests.own id with
  | some r =>
    obtain ⟨hr, hrid⟩ := h.pending_of_own hrunning hid hown
    have hget : s.requests.get id = .entry r := by
      rw [RpcTable.get, if_neg hid, hown]
    obtain ⟨hreports, hi⟩ := reports_message h m htype hr hrid hget
    apply judged_right hreports _ hi
    rw [Open, if_neg hid]
    exact fun _ _ => ⟨r, (h.own id hid r).1 hown⟩
  | none =>
    have hget : ∀ r, s.requests.get id ≠ .entry r := by
      intro r
      rw [RpcTable.get, if_neg hid, hown]
      simp only
      split <;> exact nofun
    obtain ⟨hsame, hiff⟩ := reports_unheard h type m hget
    rw [hsame]
    refine ⟨?_, fun _ => h⟩
    rw [hiff, Open, if_neg hid]
    constructor
    · exact fun hnone hresponce hpending => absurd hpending (hnone hresponce)
    · intro hopen hresponce hpending
      obtain ⟨r, hr⟩ := hopen hresponce hpending
      rw [← h.own id hid, hown] at hr
      cases hr

theorem judged_step (h : Invariant s) (hs : step s e = some s') : Judged s e s' := by
  -- Only a message can go wrong.
  have hquiet (hne : ∀ type id m, e ≠ .message type id m) (hopen : Open s e) (hi : Invariant s') :
      Judged s e s' :=
    judged_right ((reports_iff_once fun id m => hne responce id m).2 hi.once) hopen hi
  cases e with
  | makeRequest queue_name id content =>
    cases hs
    exact hquiet nofun trivial (h.makeRequest queue_name id content)
  | queue i name =>
    rw [step] at hs
    split at hs
    · exact hquiet nofun trivial (h.queue hs)
    · cases hs
  | message type id m =>
    rw [step] at hs
    split at hs
    · rename_i hpossible
      cases hs
      by_cases htype : type = responce ∨ type = status
      · by_cases hid : id = RpcTable.protoKey
        · subst hid
          exact judged_proto h m htype
        · exact judged_own h hpossible.1 m htype hid
      · exact judged_other h m htype
    · cases hs
  | timeout r =>
    rw [step] at hs
    split at hs
    · rename_i hpossible
      cases hs
      exact hquiet nofun trivial (h.timeout hpossible.1 hpossible.2)
    · cases hs
  | delete =>
    obtain ⟨r, hrunning, rfl⟩ := Option.map_eq_some_iff.1 hs
    exact hquiet nofun trivial (h.delete hrunning)

/-- Along a run, no request is called after its callback, and no response is lost while a request of
its id is pending, exactly when each message finds what was last put under its id. -/
theorem along_reports_iff (es : List RpcEvent) :
    Along step Reports init es ↔ Along step (fun s e _ => Open s e) init es :=
  along_congr_while Invariant.init fun _ _ _ h hs =>
    ⟨(judged_step h hs).reports_iff, (judged_step h hs).invariant⟩

def user : Str := "user@site".toList

def firstRequest : RpcRequest := ⟨0, user⟩

/-- Two builds of one user, and the response to each. -/
def twoBuilds : List RpcEvent :=
  [.makeRequest "linux_64".toList user "first".toList,
    .makeRequest "linux_64".toList user "second".toList,
    .queue 0 "amq.gen-1".toList, .queue 0 "amq.gen-2".toList,
    .message responce user "first.deb".toList, .message responce user "second.deb".toList]

/-- The second response is lost, and the first request has not been called. -/
theorem not_along_reports_twoBuilds : ¬ Along step Reports init twoBuilds := by
  intro h
  have hlast := ((((((h _ rfl).2 _ rfl).2 _ rfl).2 _ rfl).2 _ rfl).2 _ rfl).1.2
  obtain ⟨_, _, _, hcalls⟩ := hlast user _ rfl ⟨firstRequest, ⟨by decide, by decide⟩, rfl⟩
  exact List.cons_ne_self _ _ hcalls.symm

/-- A caller that waits for the end of a request before it makes another one of its id. -/
def Fresh (s : AmqpRpc) : RpcEvent → Prop
  | .makeRequest _ id _ =>
    id ≠ RpcTable.protoKey ∧ (∀ r, Pending s.calls r → r.correlationId ≠ id) ∧
      ∀ r, s.running = some r → r.correlationId ≠ id
  | .queue _ _ | .message _ _ _ | .timeout _ | .delete => True

/-- Each request that is pending has its entry. -/
structure Held (s : AmqpRpc) : Prop where
  invariant : Invariant s
  proto : s.requests.proto = none
  key : ∀ r ∈ s.armed, r.correlationId ≠ RpcTable.protoKey
  own : ∀ r ∈ s.armed, s.requests.own r.correlationId = some r
  running : ∀ r, s.running = some r → ∀ r' ∈ s.armed, r'.correlationId ≠ r.correlationId

theorem Held.init : Held init := ⟨Invariant.init, rfl, nofun, nofun, nofun⟩

theorem Held.open_message (h : Held s) (type id m : Str) : Open s (.message type id m) := by
  rw [Open]
  split
  · rename_i hid
    intro _ r hr
    rw [hid, ← h.invariant.proto, h.proto] at hr
    cases hr
  · rename_i hid
    intro _ ⟨r, hr, hrid⟩
    have hown := h.own r ((h.invariant.armed r).2 hr)
    rw [hrid] at hown
    exact ⟨r, (h.invariant.own id hid r).1 hown⟩

theorem Held.congr (h : Held s) (hsame : Untouched s s') : Held s' := by
  refine ⟨h.invariant.congr hsame, ?_, ?_, ?_, ?_⟩
  · rw [hsame.requests]
    exact h.proto
  · rw [hsame.armed]
    exact h.key
  · rw [hsame.armed, hsame.requests]
    exact h.own
  · rw [hsame.running, hsame.armed]
    exact h.running

theorem Held.makeRequest (h : Held s) {queue_name id content : Str}
    (hfresh : Fresh s (.makeRequest queue_name id content)) :
    Held (s.makeRequest queue_name id content) := by
  obtain ⟨hid, hpending, hrunning⟩ := hfresh
  have hi := h.invariant.makeRequest queue_name id content
  obtain ⟨hrequests, harmed, hran, _, _⟩ := setupResponseQueue_untouched
    { s with
      armed := s.armed ++ [⟨s.made, id⟩]
      requests := s.requests.set id ⟨s.made, id⟩
      made := s.made + 1
      calls := .made ⟨s.made, id⟩ :: s.calls } ⟨queue_name, content, id⟩
  rw [← AmqpRpc.makeRequest] at hrequests harmed hran
  refine ⟨hi, ?_, ?_, ?_, ?_⟩
  · rw [hrequests, RpcTable.proto_set, if_neg hid]
    exact h.proto
  · rw [harmed]
    intro r hr
    obtain hr | hr := List.mem_append.1 hr
    · exact h.key r hr
    · cases List.mem_singleton.1 hr
      exact hid
  · rw [harmed, hrequests]
    intro r hr
    obtain hr | hr := List.mem_append.1 hr
    · rw [RpcTable.own_set (h.key r hr), if_neg (hpending r ((h.invariant.armed r).1 hr))]
      exact h.own r hr
    · cases List.mem_singleton.1 hr
      rw [RpcTable.own_set hid, if_pos rfl]
  · rw [harmed, hran]
    intro r hr r' hr'
    obtain hr' | hr' := List.mem_append.1 hr'
    · exact h.running r hr r' hr'
    · cases List.mem_singleton.1 hr'
      exact (hrunning r hr).symm

theorem Held.message (h : Held s) (type id m : Str) (hi : Invariant (s.message type id m)) :
    Held (s.message type id m) := by
  revert hi
  rw [AmqpRpc.message]
  split
  · exact fun _ => h
  · exact fun _ => h
  · rename_i r hget
    split
    · refine fun hi => ⟨hi, RpcTable.proto_delete.trans h.proto, ?_, ?_, ?_⟩
      · exact fun r' hr' => h.key r' (List.mem_filter.1 hr').1
      · intro r' hr'
        obtain ⟨hmem, hne⟩ := List.mem_filter.1 hr'
        refine (RpcTable.own_delete (h.key r' hmem)).trans ((if_neg fun heq => ?_).trans
          (h.own r' hmem))
        -- Its entry would be the one that was found.
        rw [← heq, RpcTable.get, if_neg (h.key r' hmem), h.own r' hmem] at hget
        exact of_decide_eq_true hne (RpcProperty.entry.inj hget)
      · exact fun r₁ hr₁ r' hr' => h.running r₁ hr₁ r' (List.mem_filter.1 hr').1
    · split
      · exact fun hi => ⟨hi, h.proto, h.key, h.own, h.running⟩
      · exact fun _ => h

theorem Held.timeout (h : Held s) (hi : Invariant (s.timeout r)) (hr : r ∈ s.armed) :
    Held (s.timeout r) where
  invariant := hi
  proto := h.proto
  key r' hr' := h.key r' (List.mem_filter.1 hr').1
  own r' hr' := h.own r' (List.mem_filter.1 hr').1
  running r₁ hr₁ r' hr' heq := by
    cases hr₁
    obtain ⟨hmem, hne⟩ := List.mem_filter.1 hr'
    have hown := h.own r' hmem
    rw [heq, h.own r hr] at hown
    exact of_decide_eq_true hne (Option.some.inj hown).symm

theorem Held.delete (h : Held s) (hrunning : s.running = some r) : Held (s.delete r) where
  invariant := h.invariant.delete hrunning
  proto := RpcTable.proto_delete.trans h.proto
  key := h.key
  own r' hr' := (RpcTable.own_delete (h.key r' hr')).trans
    ((if_neg (h.running r hrunning r' hr')).trans (h.own r' hr'))
  running := nofun

theorem Held.step (h : Held s) (hs : step s e = some s') (hfresh : Fresh s e) :
    Reports s e s' ∧ Held s' := by
  have hopen : Open s e := by
    cases e with
    | message type id m => exact h.open_message type id m
    | makeRequest | queue | timeout | delete => trivial
  obtain ⟨hiff, hinvariant⟩ := judged_step h.invariant hs
  have hreports := hiff.2 hopen
  have hi := hinvariant hreports
  refine ⟨hreports, ?_⟩
  cases e with
  | makeRequest queue_name id content =>
    cases hs
    exact h.makeRequest hfresh
  | queue i name =>
    rw [AmqpRpc.step] at hs
    split at hs
    · exact h.congr (queue_untouched hs)
    · cases hs
  | message type id m =>
    rw [AmqpRpc.step] at hs
    split at hs
    · cases hs
      exact h.message type id m hi
    · cases hs
  | timeout r =>
    rw [AmqpRpc.step] at hs
    split at hs
    · rename_i hpossible
      cases hs
      exact h.timeout hi hpossible.2
    · cases hs
  | delete =>
    obtain ⟨r, hrunning, rfl⟩ := Option.map_eq_some_iff.1 hs
    exact h.delete hrunning

/-- A caller that makes no two requests of one id at a time has each of them reported. -/
theorem along_reports_of_fresh {es : List RpcEvent}
    (h : Along step (fun s e _ => Fresh s e) init es) : Along step Reports init es :=
  h.imp Held.init fun _ _ _ hheld hs hfresh => hheld.step hs hfresh

end AmqpRpc

end SiteOnYourDevice
