import SiteOnYourDevice.RedisCommands
import SiteOnYourDevice.RedisSub

namespace SiteOnYourDevice
open CString Transition RedisFormat
set_option relaxedAutoImplicit false
set_option autoImplicit true

namespace ReplyPtr

mutual

/-- A reply that is finished; of an array without elements none can be read, whatever their
number. -/
def toReply : ReplyPtr → redisReply
  | .NULL => .nil
  | .string str => .string str
  | .array element => .array (toReplies element)
  | .unallocated _ => .array []
  | .integer n => .integer n
  | .nil => .nil
  | .status str => .status str
  | .error str => .error str

def toReplies : List ReplyPtr → List redisReply
  | [] => []
  | r :: rs => r.toReply :: toReplies rs

end

end ReplyPtr

mutual

theorem redisReply.toReply_pointer (t : redisReply) : t.pointer.toReply = t := by
  cases t with
  | array element =>
    rw [redisReply.pointer, ReplyPtr.toReply, redisReply.toReplies_pointers element]
  | string | integer | nil | status | error => rfl

theorem redisReply.toReplies_pointers (ts : List redisReply) :
    ReplyPtr.toReplies (redisReply.pointers ts) = ts := by
  cases ts with
  | nil => rfl
  | cons t ts =>
    rw [redisReply.pointers, ReplyPtr.toReplies, t.toReply_pointer,
      redisReply.toReplies_pointers ts]

end

theorem redisReply.pointers_eq_map (ts : List redisReply) :
    redisReply.pointers ts = ts.map redisReply.pointer := by
  induction ts with
  | nil => rfl
  | cons t ts ih => rw [redisReply.pointers, ih, List.map_cons]

/-- The thread of `RedisSub::listen` on its connection. -/
structure ListenLink where
  session : RedisSession
  sub : RedisSub

/-- A turn of the loop, with what the system calls in it return; or `stop` from another thread. -/
inductive ListenTurn
  | redisGetReply (writes : List SocketWrite) (reads : List SocketRead)
  | stop

namespace ListenLink

variable (vsnprintf : Str → VaArg → Str)

/-- `listen` up to the loop, on a connection that has been made. -/
def listen (channel_in : Str) (redis : RedisPeer) : Option ListenLink :=
  (RedisLink.redisCommand vsnprintf (.connected true) "SUBSCRIBE %s".toList [.string channel_in]
    redis.writes redis.reads).map fun out =>
      ⟨⟨out.2, commandText ["SUBSCRIBE".toList, cstr channel_in], out.1.found⟩,
        RedisSub.listen true true !out.1.isNULL⟩

def step (s : ListenLink) : ListenTurn → Option ListenLink
  | .stop => (s.sub.step .stop).map fun sub => { s with sub }
  | .redisGetReply writes reads =>
    if s.sub.phase = .waiting then
      (s.session.link.redisGetReply writes reads).bind fun out =>
        (s.sub.step (.redisGetReply (if out.1 then some out.2.1.toReply else none))).map fun sub =>
          ⟨⟨out.2.2, s.session.asked, s.session.got ++ out.2.1.found⟩, sub⟩
    else none

/-- The buffer of the reader does not outgrow an `int`. -/
def Fits (s : ListenLink) : ListenTurn → ListenLink → Prop
  | .stop, _ => True
  | .redisGetReply _ reads, _ =>
    s.session.link.c.reader.buf.length + RedisLink.incoming reads ≤ INT_MAX

/-- The messages that were handed over: the channel, its length, the text, and its length. -/
def handed (s : ListenLink) : List (Option Str × Nat × Option Str × Nat) :=
  s.sub.log.filterMap fun
    | .handleMessage chn chn_len msg msg_len => some (chn, chn_len, msg, msg_len)
    | .element _ _ => none

end ListenLink

/-- What Redis sends to a subscriber for a channel and a text. -/
def messageReply (p : Str × Str) : redisReply :=
  .array [.string "message".toList, .string p.1, .string p.2]

namespace ListenLink

variable {vsnprintf : Str → VaArg → Str} {s s' : ListenLink} {turns : List ListenTurn}
  {redis : RedisPeer} {channel_in : Str} {t₀ : redisReply} {ps : List (Str × Str)}

/-- The messages that have been read are handed over. -/
structure Hands (ps : List (Str × Str)) (s : ListenLink) : Prop where
  good : s.session.Good
  handler : s.sub.handler_ = true
  phase : s.sub.phase ≠ .undefined
  waiting : s.sub.phase = .waiting → s.session.got ≠ []
  handed : s.handed = (ps.take (s.session.got.length - 1)).map fun p =>
    (some p.1, p.1.length, some p.2, p.2.length)

theorem step_got {turn : ListenTurn} (hs : s.step turn = some s') :
    s.session.got <+: s'.session.got := by
  cases turn with
  | stop =>
    cases hs
    exact List.prefix_rfl
  | redisGetReply writes reads =>
    rw [step] at hs
    split at hs
    · obtain ⟨out, _, hmap⟩ := Option.bind_eq_some_iff.1 hs
      obtain ⟨sub, _, rfl⟩ := Option.map_eq_some_iff.1 hmap
      exact List.prefix_append _ _
    · cases hs

theorem run_got (hr : run step s turns = some s') : s.session.got <+: s'.session.got := by
  induction turns generalizing s with
  | nil =>
    cases hr
    exact List.prefix_rfl
  | cons turn turns ih =>
    obtain ⟨t, ht, hrest⟩ := Option.bind_eq_some_iff.1 hr
    exact (step_got ht).trans (ih hrest)

/-- The command of the subscription has two words, whatever the channel is. -/
theorem listen_eq (vsnprintf : Str → VaArg → Str) (channel_in : Str) (redis : RedisPeer)
    (hc : (commandText ["SUBSCRIBE".toList, cstr channel_in]).length < INT_MAX) :
    listen vsnprintf channel_in redis =
      (((RedisLink.connected true).redisAppendFormattedCommand
        (commandText ["SUBSCRIBE".toList, cstr channel_in])).redisBlockForReply redis.writes
          redis.reads).map fun out =>
        ⟨⟨out.2, commandText ["SUBSCRIBE".toList, cstr channel_in], out.1.found⟩,
          RedisSub.listen true true !out.1.isNULL⟩ := by
  have hfill : fillAll (words "SUBSCRIBE %s".toList) [.string channel_in] =
      some ["SUBSCRIBE".toList, cstr channel_in] := by
    have hwords : words "SUBSCRIBE %s".toList = ["SUBSCRIBE".toList, "%s".toList] := by
      decide +kernel
    rw [hwords, fillAll, fill_plain (by decide), Option.bind_some, fillAll, fill_string]
    rfl
  rw [listen, RedisLink.redisCommand, redisvFormatCommand_eq vsnprintf (by decide +kernel) hfill hc]
  simp only [totlen_eq, List.take_length]

theorem listen_hands (h : listen vsnprintf channel_in redis = some s)
    (hc : (commandText ["SUBSCRIBE".toList, cstr channel_in]).length < INT_MAX)
    (hb : RedisLink.incoming redis.reads ≤ INT_MAX) (ps : List (Str × Str)) : Hands ps s := by
  rw [listen_eq _ _ _ hc] at h
  obtain ⟨⟨reply, link⟩, hcommand, rfl⟩ := Option.map_eq_some_iff.1 h
  obtain ⟨⟨ok, aux, link'⟩, hget, hout⟩ := Option.map_eq_some_iff.1 hcommand
  have hbuf : (RedisLink.connected true).c.reader.buf.length + RedisLink.incoming redis.reads ≤
      INT_MAX := (Nat.le_of_eq (Nat.zero_add _)).trans hb
  have hreturns := RedisLink.redisGetReply_returns ((RedisLink.connected_good true).append
    (commandText ["SUBSCRIBE".toList, cstr channel_in])) hbuf rfl hget
  cases hout
  have hgood := hreturns.good
  rw [List.nil_append] at hgood
  cases ok with
  | true =>
    have hnull : aux.isNULL = false := hreturns.replied rfl
    refine ⟨⟨hgood, hreturns.block⟩, ?_, ?_, ?_, ?_⟩
    · simp [hnull, RedisSub.listen, RedisSub.next]
    · simp [hnull, RedisSub.listen, RedisSub.next]
    · simp [ReplyPtr.found, hnull]
    · simp [handed, ReplyPtr.found, hnull, RedisSub.listen, RedisSub.next]
  | false =>
    obtain ⟨hnull, _⟩ := hreturns.failed rfl
    rw [ReplyPtr.found_of_isNULL hnull] at hgood
    exact ⟨⟨hgood, hreturns.block⟩, rfl, ListenPhase.noConfusion, ListenPhase.noConfusion, rfl⟩

theorem turn_messageReply {sub : RedisSub} (h : sub.handler_ = true) (p : Str × Str) :
    sub.turn (messageReply p) = RedisSub.next { sub with
      log := sub.log ++ [.element (messageReply p) 1, .element (messageReply p) 1,
        .element (messageReply p) 2, .element (messageReply p) 2,
        .handleMessage (some p.1) p.1.length (some p.2) p.2.length] } := by
  simp [RedisSub.turn, messageReply, redisReply.element, redisReply.str, redisReply.len, h]

/-- A message that is read is handed over. -/
theorem step_hands {turn : ListenTurn} (h : Hands ps s) (hs : s.step turn = some s')
    (hf : Fits s turn s')
    (hp : s'.session.got <+: redisReply.pointers (t₀ :: ps.map messageReply)) : Hands ps s' := by
  cases turn with
  | stop =>
    cases hs
    exact ⟨h.good, h.handler, h.phase, h.waiting, h.handed⟩
  | redisGetReply writes reads =>
    rw [step] at hs
    split at hs
    · rename_i hwaiting
      obtain ⟨⟨ok, reply, link⟩, hget, hmap⟩ := Option.bind_eq_some_iff.1 hs
      obtain ⟨sub, hsub, rfl⟩ := Option.map_eq_some_iff.1 hmap
      have hreturns := RedisLink.redisGetReply_returns h.good.link hf h.good.block hget
      cases ok with
      | true =>
        have hnull : reply.isNULL = false := hreturns.replied rfl
        have hgood := hreturns.good
        simp only [if_true, RedisSub.step, hwaiting, Option.some.injEq] at hsub
        simp only [ReplyPtr.found_of_not_isNULL hnull] at hp hgood ⊢
        obtain ⟨first, got, hgot⟩ := List.exists_cons_of_ne_nil (h.waiting hwaiting)
        have hlen : s.session.got.length - 1 = got.length := by
          rw [hgot]
          rfl
        obtain ⟨p, hmessage, hreply⟩ : ∃ p, ps[got.length]? = some p ∧
            reply = (messageReply p).pointer := by
          rw [hgot, List.cons_append, redisReply.pointers, List.cons_prefix_cons,
            redisReply.pointers_eq_map, List.map_map] at hp
          have hat := List.prefix_iff_getElem?.1 hp.2 got.length (by simp)
          rw [List.getElem_append_right (Nat.le_refl _), List.getElem?_map] at hat
          obtain ⟨p, hps, hreply⟩ := Option.map_eq_some_iff.1 hat
          refine ⟨p, hps, ?_⟩
          rw [Function.comp_apply] at hreply
          rw [hreply]
          simp
        have hturn : reply.toReply = messageReply p := by
          rw [hreply, redisReply.toReply_pointer]
        rw [hturn, turn_messageReply h.handler] at hsub
        have hhanded := h.handed
        rw [hlen] at hhanded
        subst hsub
        refine ⟨⟨hgood, hreturns.block.trans h.good.block⟩, h.handler, ?_, fun _ => ?_, ?_⟩
        · rw [RedisSub.next]
          simp only
          split <;> exact ListenPhase.noConfusion
        · exact List.append_ne_nil_of_right_ne_nil _ (List.cons_ne_nil _ _)
        · have htake : ps.take ((s.session.got ++ [reply]).length - 1) =
              ps.take got.length ++ [p] := by
            rw [List.length_append, hgot, List.length_cons, List.length_singleton,
              Nat.add_sub_cancel, List.take_add_one, hmessage]
            rfl
          rw [htake, List.map_append, ← hhanded]
          simp [handed, RedisSub.next]
      | false =>
        obtain ⟨hnull, _⟩ := hreturns.failed rfl
        have hgood := hreturns.good
        simp only [Bool.false_eq_true, if_false, RedisSub.step, hwaiting, if_true] at hsub
        cases hsub
        refine ⟨⟨hgood, hreturns.block.trans h.good.block⟩, h.handler, ListenPhase.noConfusion,
          ListenPhase.noConfusion, ?_⟩
        simp only [ReplyPtr.found_of_isNULL hnull, List.append_nil]
        exact h.handed
    · cases hs

theorem run_good (h : s.session.Good) (hr : run step s turns = some s')
    (hf : Along step Fits s turns) : s'.session.Good := by
  induction turns generalizing s with
  | nil =>
    cases hr
    exact h
  | cons turn turns ih =>
    obtain ⟨t, ht, hrest⟩ := Option.bind_eq_some_iff.1 hr
    obtain ⟨hfits, halong⟩ := hf t ht
    refine ih ?_ hrest halong
    cases turn with
    | stop =>
      cases ht
      exact h
    | redisGetReply writes reads =>
      rw [step] at ht
      split at ht
      · obtain ⟨⟨ok, reply, link⟩, hget, hmap⟩ := Option.bind_eq_some_iff.1 ht
        obtain ⟨sub, _, rfl⟩ := Option.map_eq_some_iff.1 hmap
        have hreturns := RedisLink.redisGetReply_returns h.link hfits h.block hget
        exact ⟨hreturns.good, hreturns.block.trans h.block⟩
      · cases ht

theorem run_hands (h : Hands ps s) (hr : run step s turns = some s')
    (hf : Along step Fits s turns)
    (hp : s'.session.got <+: redisReply.pointers (t₀ :: ps.map messageReply)) : Hands ps s' := by
  induction turns generalizing s with
  | nil =>
    cases hr
    exact h
  | cons turn turns ih =>
    obtain ⟨t, ht, hrest⟩ := Option.bind_eq_some_iff.1 hr
    obtain ⟨hfits, halong⟩ := hf t ht
    exact ih (step_hands h ht hfits ((run_got hrest).trans hp)) hrest halong

/-- While Redis answers the subscription and sends messages, in whichever pieces, those that have been
read are handed over, each of them once and in their order, and no element is read that is not
there. -/
theorem listen_handed (hl : listen vsnprintf channel_in redis = some s)
    (hc : (commandText ["SUBSCRIBE".toList, cstr channel_in]).length < INT_MAX)
    (hb : RedisLink.incoming redis.reads ≤ INT_MAX) (hr : run step s turns = some s')
    (hf : Along step Fits s turns)
    (hts : redisReply.SendableAll 8 (t₀ :: ps.map messageReply))
    (hp : s'.session.link.received <+: redisReply.encodeAll (t₀ :: ps.map messageReply)) :
    s'.handed = ((ps.take (s'.session.got.length - 1)).map fun p =>
        (some p.1, p.1.length, some p.2, p.2.length)) ∧
      s'.sub.phase ≠ .undefined := by
  have hstart := listen_hands hl hc hb ps
  obtain ⟨hgot, _⟩ := (run_good hstart.good hr hf).got_pointers hts hp
  have hands := run_hands hstart hr hf hgot
  exact ⟨hands.handed, hands.phase⟩

/-- The answer to a subscription. -/
def subscription : redisReply :=
  .array [.string "subscribe".toList, .string "IN".toList, .integer 1]

/-- A subscription whose answer comes with the first bytes of a message. -/
def subscribed : RedisPeer :=
  ⟨[.bytes 100], [.bytes (subscription.encode ++ "*3\r\n$7\r\nmess".toList)]⟩

/-- The turn that reads the rest of the message, and the beginning of the next one. -/
def rest : ListenTurn :=
  .redisGetReply [] [.failed .EINTR [],
    .bytes "age\r\n$2\r\nIN\r\n$5\r\nx y z\r\n*3\r\n$7\r\nmessage\r\n$2\r\nI".toList]

def second : ListenTurn := .redisGetReply [] [.bytes "N\r\n$4\r\na".toList, .bytes "\r\nb\r\n".toList]

/-- The two messages of the runs above. -/
def twoMessages : List (Str × Str) :=
  [("IN".toList, "x y z".toList), ("IN".toList, "a\r\nb".toList)]

theorem listen_handed_two : ∃ s s', listen (fun _ _ => []) "IN".toList subscribed = some s ∧
    run step s [rest, second, .stop] = some s' ∧
      s'.handed = [(some "IN".toList, 2, some "x y z".toList, 5),
        (some "IN".toList, 2, some "a\r\nb".toList, 4)] ∧ s'.sub.phase ≠ .undefined := by
  have hc : (commandText ["SUBSCRIBE".toList, cstr "IN".toList]).length < INT_MAX := by
    decide +kernel
  have hs : ((listen (fun _ _ => []) "IN".toList subscribed).bind fun s =>
      (step s rest).bind fun t => (run step t [second, .stop]).map fun s' =>
        (s.session.link.c.reader.buf.length, t.session.link.c.reader.buf.length,
          s'.session.link.received, s'.session.got.length)) =
      some (43, 89, subscription.encode ++ redisReply.encodeAll (twoMessages.map messageReply),
        3) := by
    rw [listen_eq _ _ _ hc]
    decide +kernel
  obtain ⟨s, hl, hbind⟩ := Option.bind_eq_some_iff.1 hs
  obtain ⟨t, ht, hmap⟩ := Option.bind_eq_some_iff.1 hbind
  obtain ⟨s', hr, htuple⟩ := Option.map_eq_some_iff.1 hmap
  obtain ⟨hbuf, htuple⟩ := Prod.mk.inj htuple
  obtain ⟨hbuf', htuple⟩ := Prod.mk.inj htuple
  obtain ⟨hreceived, hgot⟩ := Prod.mk.inj htuple
  have hrun : run step s [rest, second, .stop] = some s' := (run_cons ht).trans hr
  have hf : Along step Fits s [rest, second, .stop] := by
    refine .cons ht ?_ fun _ _ => ⟨?_, fun _ _ => ⟨trivial, trivial⟩⟩
    · change s.session.link.c.reader.buf.length + _ ≤ _
      rw [hbuf]
      decide +kernel
    · change t.session.link.c.reader.buf.length + _ ≤ _
      rw [hbuf']
      decide +kernel
  have hts : redisReply.SendableAll 8 (subscription :: twoMessages.map messageReply) := by
    have hle {n : Nat} (h : n ≤ 100) : n ≤ INT_MAX := h.trans (by decide)
    have hint : (-2 ^ 63 : Int) < 1 ∧ (1 : Int) < 2 ^ 63 := by decide
    have hmessage : ∀ p ∈ twoMessages, (messageReply p).Sendable 8 := by
      intro p hp
      simp only [twoMessages, List.mem_cons, List.not_mem_nil, or_false] at hp
      rcases hp with rfl | rfl
      · exact ⟨hle (by decide), hle (by decide), hle (by decide), hle (by decide), trivial⟩
      · exact ⟨hle (by decide), hle (by decide), hle (by decide), hle (by decide), trivial⟩
    exact ⟨⟨hle (by decide), hle (by decide), hle (by decide), hint, trivial⟩,
      hmessage _ List.mem_cons_self, hmessage _ (List.mem_cons_of_mem _ List.mem_cons_self),
      trivial⟩
  have hhanded := listen_handed hl hc (by decide +kernel) hrun hf hts (by rw [hreceived]; rfl)
  rw [hgot] at hhanded
  exact ⟨s, s', hl, hrun, hhanded⟩

end ListenLink

end SiteOnYourDevice
