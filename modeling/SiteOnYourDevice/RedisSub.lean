import SiteOnYourDevice.CString
import SiteOnYourDevice.Transition

namespace SiteOnYourDevice
open CString Transition
set_option relaxedAutoImplicit false
set_option autoImplicit true

inductive redisReply
  | string (str : Str)
  | array (element : List redisReply)
  | integer (integer : Int)
  | nil
  | status (str : Str)
  | error (str : Str)

namespace redisReply

def element : redisReply → List redisReply
  | .array element => element
  | _ => []

/-- The text of a reply, or NULL. -/
def str : redisReply → Option Str
  | .string str | .status str | .error str => some str
  | .array _ | .integer _ | .nil => none

def len (reply : redisReply) : Nat := (reply.str.getD []).length

def isString : redisReply → Bool
  | .string _ => true
  | _ => false

/-- The test of `listen`, which reads the elements only when there are three. -/
def is_error_reply : redisReply → Bool
  | .array element =>
    element.length ≠ 3 || !element[1]?.any isString || !element[2]?.any isString
  | _ => true

/-- A message of a channel: three elements, the last two of them strings. -/
def IsMessage (reply : redisReply) : Prop :=
  ∃ kind channel message, reply = .array [kind, .string channel, .string message]

theorem isString_iff {reply : redisReply} : reply.isString = true ↔ ∃ str, reply = .string str := by
  cases reply <;> simp [isString]

theorem is_error_reply_eq_false {reply : redisReply} :
    reply.is_error_reply = false ↔ reply.IsMessage := by
  constructor
  · intro h
    cases reply with
    | array element =>
      simp only [is_error_reply, Bool.or_eq_false_iff, decide_eq_false_iff_not, ne_eq, not_not,
        Bool.not_eq_false'] at h
      obtain ⟨⟨hlength, hchannel⟩, hmessage⟩ := h
      obtain ⟨kind, channel, message, rfl⟩ := List.length_eq_three.1 hlength
      obtain ⟨_, rfl⟩ := isString_iff.1 hchannel
      obtain ⟨_, rfl⟩ := isString_iff.1 hmessage
      exact ⟨_, _, _, rfl⟩
    | string | integer | nil | status | error => cases h
  · intro ⟨kind, channel, message, h⟩
    subst h
    rfl

end redisReply

/-- The thread of `RedisSub::listen` waits for a reply, has returned, or has read an element that is
not there. -/
inductive ListenPhase
  | waiting | returned | undefined
deriving DecidableEq

/-- What `listen` does with a reply: it reads an element, or hands over a message, of which a text
may be NULL. -/
inductive ListenAct
  | element (reply : redisReply) (i : Nat)
  | handleMessage (chn : Option Str) (chn_len : Nat) (msg : Option Str) (msg_len : Nat)

structure RedisSub where
  /-- Whether there is one. -/
  handler_ : Bool
  stop_ : Bool
  phase : ListenPhase
  log : List ListenAct

/-- What `redisGetReply` returns, `none` for an error; and `stop`, which another thread calls. -/
inductive ListenEvent
  | redisGetReply (reply : Option redisReply)
  | stop

namespace RedisSub

/-- The head of the loop. -/
def next (s : RedisSub) : RedisSub :=
  { s with phase := if s.stop_ then .returned else .waiting }

/-- `listen` up to the loop: whether Redis can be reached, and whether it answers `SUBSCRIBE`. -/
def listen (handler_ connects subscribes : Bool) : RedisSub :=
  if connects && subscribes then next ⟨handler_, false, .waiting, []⟩
  else ⟨handler_, false, .returned, []⟩

/-- The turn of the loop for a reply. Nothing reads `is_error_reply`. -/
def turn (lreply : redisReply) (s : RedisSub) : RedisSub :=
  match lreply.element[1]?, lreply.element[2]? with
  | some chn, some msg =>
    next { s with
      log := s.log ++ [.element lreply 1, .element lreply 1, .element lreply 2, .element lreply 2]
        ++ if s.handler_ then [.handleMessage chn.str chn.len msg.str msg.len] else [] }
  | some _, none =>
    { s with
      phase := .undefined
      log := s.log ++ [.element lreply 1, .element lreply 1, .element lreply 2] }
  | none, _ => { s with phase := .undefined, log := s.log ++ [.element lreply 1] }

def step (s : RedisSub) : ListenEvent → Option RedisSub
  | .redisGetReply reply =>
    if s.phase = .waiting then
      match reply with
      | some lreply => some (s.turn lreply)
      | none => some { s with phase := .returned }
    else none
  | .stop => some { s with stop_ := true }

/-- A reply that is no message is skipped, and the loop goes on. -/
def Skips (s : RedisSub) (e : ListenEvent) (s' : RedisSub) : Prop :=
  ∀ lreply, e = .redisGetReply (some lreply) → ¬ lreply.IsMessage → s' = s.next

variable {s s' : RedisSub} {lreply : redisReply}

theorem turn_log (s : RedisSub) (lreply : redisReply) :
    ∃ acts, (s.turn lreply).log = s.log ++ .element lreply 1 :: acts := by
  rw [turn]
  split
  · rw [next, List.append_assoc]
    exact ⟨_, rfl⟩
  · exact ⟨_, rfl⟩
  · exact ⟨_, rfl⟩

theorem turn_ne_next : s.turn lreply ≠ s.next := by
  intro h
  obtain ⟨acts, hlog⟩ := turn_log s lreply
  rw [h, next, List.self_eq_append_right] at hlog
  cases hlog

theorem skips_step {e : ListenEvent} (hs : s.step e = some s') :
    Skips s e s' ↔ ∀ lreply, e = .redisGetReply (some lreply) → lreply.is_error_reply = false := by
  constructor
  · intro h lreply he
    subst he
    by_contra hne
    rw [redisReply.is_error_reply_eq_false] at hne
    have hskip := h lreply rfl hne
    simp only [step] at hs
    split at hs
    · cases hs
      exact turn_ne_next hskip
    · cases hs
  · intro h lreply he hne
    exact absurd (redisReply.is_error_reply_eq_false.1 (h lreply he)) hne

/-- Along a run of `listen` only messages are used exactly when only messages arrive. -/
theorem along_skips_iff (handler_ connects subscribes : Bool) (es : List ListenEvent) :
    Along step Skips (listen handler_ connects subscribes) es ↔
      Along step (fun _ e _ => ∀ lreply, e = .redisGetReply (some lreply) →
        lreply.is_error_reply = false) (listen handler_ connects subscribes) es :=
  along_congr fun _ _ _ hs => skips_step hs

/-- The reply to a second `SUBSCRIBE`, with the number of channels for its last element. -/
def subscribed : redisReply :=
  .array [.string "subscribe".toList, .string "COMMANDS_IN".toList, .integer 1]

theorem not_along_skips_subscribed :
    ¬ Along step Skips (listen true true true) [.redisGetReply (some subscribed)] := by
  intro h
  have hne : ¬ subscribed.IsMessage := by
    rw [← redisReply.is_error_reply_eq_false]
    decide
  exact turn_ne_next ((h _ rfl).1 subscribed rfl hne)

/-- The text of the message that an event brings. -/
def text? : ListenEvent → Option Str
  | .redisGetReply (some (.array [_, .string _, .string msg])) => some msg
  | _ => none

/-- The texts that were handed over. -/
def texts (s : RedisSub) : List (Option Str) :=
  s.log.filterMap fun
    | .handleMessage _ _ msg _ => some msg
    | .element _ _ => none

theorem step_texts {e : ListenEvent} (hs : s.step e = some s') (hh : s.handler_ = true)
    (hm : ∀ lreply, e = .redisGetReply (some lreply) → lreply.IsMessage) :
    s'.texts = s.texts ++ (text? e).toList.map some ∧ s'.handler_ = true := by
  cases e with
  | stop =>
    cases hs
    exact ⟨(List.append_nil _).symm, hh⟩
  | redisGetReply reply =>
    simp only [step] at hs
    split at hs
    · cases reply with
      | none =>
        cases hs
        exact ⟨(List.append_nil _).symm, hh⟩
      | some lreply =>
        obtain ⟨kind, channel, message, rfl⟩ := hm lreply rfl
        cases hs
        simp [turn, next, texts, text?, redisReply.element, redisReply.str, hh]
    · cases hs

/-- While only messages arrive, all of them are handed over, in their order. -/
theorem run_texts {es : List ListenEvent} (hr : run step s es = some s') (hh : s.handler_ = true)
    (hm : ∀ lreply, .redisGetReply (some lreply) ∈ es → lreply.IsMessage) :
    s'.texts = s.texts ++ (es.filterMap text?).map some := by
  induction es generalizing s with
  | nil =>
    cases hr
    exact (List.append_nil _).symm
  | cons e es ih =>
    obtain ⟨t, ht, hrest⟩ := Option.bind_eq_some_iff.1 hr
    have hfirst : ∀ lreply, e = .redisGetReply (some lreply) → lreply.IsMessage :=
      fun lreply he => hm lreply (he ▸ List.mem_cons_self)
    obtain ⟨htexts, hhandler⟩ := step_texts ht hh hfirst
    rw [ih hrest hhandler fun lreply hl => hm lreply (List.mem_cons_of_mem _ hl), htexts,
      List.append_assoc, ← List.map_append, List.filterMap_cons]
    cases text? e <;> rfl

end RedisSub

end SiteOnYourDevice
