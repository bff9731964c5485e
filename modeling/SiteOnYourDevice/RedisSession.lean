import SiteOnYourDevice.RedisContext
import SiteOnYourDevice.ReplyText
import SiteOnYourDevice.Transition

namespace SiteOnYourDevice
open CString StreamReader Transition
set_option relaxedAutoImplicit false
set_option autoImplicit true

namespace ReplyReading

/-- The state before a reply is read. -/
def expects (errstr : Str) : ReadState := awaits errstr (-1) (-1) [] .NULL

/-- A reply that stands in front is ready. -/
theorem ready_encode {t : redisReply} (ht : t.Sendable 8) (errstr u : Str) :
    reader.ready (reader.settle ⟨expects errstr, t.encode ++ u⟩) =
      some (t.pointer, ⟨expects errstr, u⟩) := by
  have hencode := settle_encode t 8 ht errstr (-1) (-1) [] .NULL (Nat.le_refl _) u
  have hrest : reader.settle ⟨⟨none, errstr, [], t.pointer⟩, u⟩ =
      ⟨⟨none, errstr, [], t.pointer⟩, u⟩ := Reader.settle_of_rest rfl
  change reader.ready (reader.settle ⟨awaits errstr (-1) (-1) [] .NULL, t.encode ++ u⟩) = _
  rw [hencode]
  change reader.ready (reader.settle ⟨⟨none, errstr, [], t.pointer⟩, u⟩) = _
  rw [hrest]
  rfl

/-- The texts of replies are read as their objects. -/
theorem results_encodeAll {ts : List redisReply} (hts : redisReply.SendableAll 8 ts)
    (errstr : Str) : reader.results ⟨expects errstr, redisReply.encodeAll ts⟩ =
      (redisReply.pointers ts, ⟨expects errstr, []⟩) := by
  induction ts with
  | nil =>
    have hrest : reader.settle ⟨expects errstr, []⟩ = ⟨expects errstr, []⟩ :=
      Reader.settle_of_rest rfl
    have hready : reader.ready (reader.settle ⟨expects errstr, []⟩) = none := by
      rw [hrest]
      rfl
    exact (Reader.results_of_rest hready).trans (congrArg _ hrest)
  | cons t ts ih =>
    have hready := ready_encode hts.1 errstr (redisReply.encodeAll ts)
    have hresults := Reader.results_of_ready hready
    rw [ih hts.2] at hresults
    exact hresults

/-- A reader that has failed stays as it is. -/
theorem results_of_failed {s : ReplyReading} (h : (reader.settle s).state.err ≠ none) (u : Str) :
    (reader.results (reader.feed s u)).2.state.err ≠ none := by
  have hfeed : reader.feed (reader.settle s) u = reader.settle s := feed_of_failed h u
  have hready : reader.ready (reader.settle s) = none := if_neg fun hs => h hs.1
  have hsettle : reader.settle (reader.feed s u) = reader.settle s := by
    rw [← Reader.settle_feed, hfeed]
    exact Reader.settle_of_rest (Reader.turn_settle s)
  rw [Reader.results_of_rest (by rw [hsettle]; exact hready), hsettle]
  exact h

end ReplyReading

/-- A call on a link: of `redisGetReply`, or with a command before it; and what the system calls
return in it. -/
structure RedisCall where
  cmd : Option Str
  writes : List SocketWrite
  reads : List SocketRead

/-- The commands that have been given, and the replies that have been returned. -/
structure RedisSession where
  link : RedisLink
  asked : Str
  got : List ReplyPtr

namespace RedisSession

def start : RedisSession := ⟨.connected true, [], []⟩

def step (s : RedisSession) (call : RedisCall) : Option RedisSession :=
  ((call.cmd.elim s.link s.link.redisAppendFormattedCommand).redisGetReply call.writes
    call.reads).map fun out => ⟨out.2.2, s.asked ++ call.cmd.getD [], s.got ++ out.2.1.found⟩

/-- The buffer of the reader does not outgrow an `int`. -/
def Fits (s : RedisSession) (call : RedisCall) (_ : RedisSession) : Prop :=
  s.link.c.reader.buf.length + RedisLink.incoming call.reads ≤ INT_MAX

/-- What waits to be written does not outgrow an `int`. -/
def Writes (s : RedisSession) (call : RedisCall) (_ : RedisSession) : Prop :=
  s.link.c.obuf.length + (call.cmd.getD []).length ≤ INT_MAX

structure Good (s : RedisSession) : Prop where
  link : s.link.Good s.got
  block : s.link.c.REDIS_BLOCK = true

/-- The commands are written or wait in the buffer. -/
def Written (s : RedisSession) : Prop := s.link.sent ++ s.link.c.obuf = s.asked

variable {s s' : RedisSession} {call : RedisCall} {calls calls' : List RedisCall}

theorem start_good : start.Good := ⟨RedisLink.connected_good true, rfl⟩

theorem step_good (h : s.Good) (hs : s.step call = some s') (hf : Fits s call s') :
    s'.Good ∧ s'.link.c.reader.buf.length ≤
      s.link.c.reader.buf.length + RedisLink.incoming call.reads := by
  obtain ⟨⟨ok, reply, link⟩, hout, rfl⟩ := Option.map_eq_some_iff.1 hs
  obtain ⟨cmd, writes, reads⟩ := call
  have hlink : (cmd.elim s.link s.link.redisAppendFormattedCommand).Good s.got := by
    cases cmd with
    | none => exact h.link
    | some cmd => exact h.link.append cmd
  have hsame : (cmd.elim s.link s.link.redisAppendFormattedCommand).c.reader = s.link.c.reader := by
    cases cmd <;> rfl
  have hblock : (cmd.elim s.link s.link.redisAppendFormattedCommand).c.REDIS_BLOCK = true := by
    cases cmd <;> exact h.block
  have hreturns := RedisLink.redisGetReply_returns hlink (by rw [hsame]; exact hf) hblock hout
  have hlen := hreturns.length
  rw [hsame] at hlen
  exact ⟨⟨hreturns.good, hreturns.block.trans hblock⟩, hlen⟩

theorem run_good (hs : s.Good) (hr : run step s calls = some s') (hf : Along step Fits s calls) :
    s'.Good := by
  induction calls generalizing s with
  | nil =>
    cases hr
    exact hs
  | cons call calls ih =>
    obtain ⟨t, ht, hrest⟩ := Option.bind_eq_some_iff.1 hr
    obtain ⟨hfits, halong⟩ := hf t ht
    exact ih (step_good hs ht hfits).1 hrest halong

theorem step_written (h : s.Written) (hs : s.step call = some s') (hw : Writes s call s') :
    s'.Written ∧ s'.link.c.obuf.length ≤ s.link.c.obuf.length + (call.cmd.getD []).length := by
  obtain ⟨⟨ok, reply, link⟩, hout, rfl⟩ := Option.map_eq_some_iff.1 hs
  obtain ⟨cmd, writes, reads⟩ := call
  have hobuf : (cmd.elim s.link s.link.redisAppendFormattedCommand).c.obuf =
      s.link.c.obuf ++ cmd.getD [] := by
    cases cmd with
    | none => exact (List.append_nil _).symm
    | some cmd => rfl
  have hsent : (cmd.elim s.link s.link.redisAppendFormattedCommand).sent = s.link.sent := by
    cases cmd <;> rfl
  rw [Writes, ← List.length_append] at hw
  obtain ⟨hwritten, hlen⟩ := RedisLink.redisGetReply_passes (by rw [hobuf]; exact hw) hout
  rw [hobuf] at hwritten hlen
  refine ⟨?_, hlen.trans (Nat.le_of_eq List.length_append)⟩
  rw [hsent, ← List.append_assoc, h] at hwritten
  exact hwritten

theorem run_written (hs : s.Written) (hr : run step s calls = some s')
    (hw : Along step Writes s calls) : s'.Written := by
  induction calls generalizing s with
  | nil =>
    cases hr
    exact hs
  | cons call calls ih =>
    obtain ⟨t, ht, hrest⟩ := Option.bind_eq_some_iff.1 hr
    obtain ⟨hwrites, halong⟩ := hw t ht
    exact ih (step_written hs ht hwrites).1 hrest halong

/-- In a run that reads and writes no more than an `int` counts, every call fits. -/
theorem along_fits (hs : s.Good) (h : s.link.c.reader.buf.length +
    (calls.map fun call => RedisLink.incoming call.reads).sum ≤ INT_MAX) :
    Along step Fits s calls := by
  induction calls generalizing s with
  | nil => trivial
  | cons call calls ih =>
    rw [List.map_cons, List.sum_cons] at h
    intro t ht
    have hfits : Fits s call t := by
      rw [Fits]
      omega
    obtain ⟨hgood, hlen⟩ := step_good hs ht hfits
    exact ⟨hfits, ih hgood (by omega)⟩

theorem along_writes (hs : s.Written)
    (h : s.link.c.obuf.length + (calls.map fun call => (call.cmd.getD []).length).sum ≤ INT_MAX) :
    Along step Writes s calls := by
  induction calls generalizing s with
  | nil => trivial
  | cons call calls ih =>
    rw [List.map_cons, List.sum_cons] at h
    intro t ht
    have hwrites : Writes s call t := by
      rw [Writes]
      omega
    obtain ⟨hwritten, hlen⟩ := step_written hs ht hwrites
    exact ⟨hwrites, ih hwritten (by omega)⟩

/-- The replies of two runs agree as far as the bytes that were read do, in whichever pieces these
came and whatever they are. -/
theorem got_isPrefix {s s' : RedisSession} (hr : run step start calls = some s)
    (hf : Along step Fits start calls) (hr' : run step start calls' = some s')
    (hf' : Along step Fits start calls') (hp : s.link.received <+: s'.link.received)
    (hlen : s.got.length ≤ s'.got.length) : s.got <+: s'.got := by
  obtain ⟨v, hv⟩ := hp
  have hgood := run_good start_good hr hf
  have hgood' := run_good start_good hr' hf'
  have hfirst := hgood.link.reached.isPrefix v
  have hsecond := hgood'.link.reached.isPrefix []
  rw [List.append_nil, ← hv] at hsecond
  exact List.prefix_of_prefix_length_le hfirst hsecond hlen

/-- Two commands, whose replies come in the given pieces: an array in an array, and a number. -/
def transaction (first second : List SocketRead) : List RedisCall :=
  [⟨some "EXEC\r\n".toList, [.bytes 3, .failed .EINTR [], .bytes 6], first⟩,
    ⟨some "INCR n\r\n".toList, [.bytes 8], second⟩]

def transactionReplies : List redisReply :=
  [.array [.array [.status "OK".toList, .nil], .string "hi\r\n".toList], .integer 7]

/-- The first reply, in the pieces that it may come in. -/
def transactionPieces : List SocketRead :=
  [.bytes "*2\r\n*2\r\n+O".toList, .failed .EINTR [], .bytes "K\r\n$-1\r\n$4\r\nhi\r\n\r".toList,
    .bytes "\n:".toList]

/-- The same bytes at once, with the next reply behind them. -/
def transactionWhole : List SocketRead := [.bytes (redisReply.encodeAll transactionReplies)]

theorem got_isPrefix_transaction : ∃ s s',
    run step start (transaction transactionPieces [.bytes "7\r\n".toList]) = some s ∧
      run step start (transaction transactionWhole []) = some s' ∧ s.got <+: s'.got := by
  have hs : (run step start (transaction transactionPieces [.bytes "7\r\n".toList])).map
      (fun s => (s.link.received, s.got.length)) =
        some (redisReply.encodeAll transactionReplies, 2) := by decide +kernel
  have hs' : (run step start (transaction transactionWhole [])).map
      (fun s => (s.link.received, s.got.length)) =
        some (redisReply.encodeAll transactionReplies, 2) := by decide +kernel
  obtain ⟨s, hr, hpair⟩ := Option.map_eq_some_iff.1 hs
  obtain ⟨s', hr', hpair'⟩ := Option.map_eq_some_iff.1 hs'
  obtain ⟨hreceived, hlen⟩ := Prod.mk.inj hpair
  obtain ⟨hreceived', hlen'⟩ := Prod.mk.inj hpair'
  refine ⟨s, s', hr, hr', ?_⟩
  exact got_isPrefix hr (along_fits start_good (by decide +kernel)) hr'
    (along_fits start_good (by decide +kernel)) (by rw [hreceived, hreceived'])
    (by rw [hlen, hlen'])

theorem Good.got_pointers (hgood : s.Good) {ts : List redisReply}
    (hts : redisReply.SendableAll 8 ts) (hp : s.link.received <+: redisReply.encodeAll ts) :
    s.got <+: redisReply.pointers ts ∧ s.link.c.reader.err = none := by
  obtain ⟨v, hv⟩ := hp
  have hresults := ReplyReading.results_encodeAll hts []
  have hfed := (hgood.link.reached.fed v).results_eq
  rw [hv] at hfed
  have hstart : ReplyReading.reader.feed redisReader.create.reading (redisReply.encodeAll ts) =
      ⟨ReplyReading.expects [], redisReply.encodeAll ts⟩ := rfl
  rw [hstart, hresults] at hfed
  refine ⟨?_, ?_⟩
  · rw [(Prod.mk.inj hfed).1]
    exact List.prefix_append _ _
  · by_contra he
    have hrest : ReplyReading.reader.settle s.link.c.reader.reading = s.link.c.reader.reading := by
      apply Reader.settle_of_rest
      apply ReplyReading.turn_of_err
      rw [redisReader.reading_err]
      exact he
    have hfailed := ReplyReading.results_of_failed (s := s.link.c.reader.reading)
      (by rw [hrest, redisReader.reading_err]; exact he) v
    rw [← (Prod.mk.inj hfed).2] at hfailed
    exact hfailed rfl

/-- While a server sends replies, these are returned in their order, and the only errors are those
of the socket. -/
theorem got_replies {ts : List redisReply} (hts : redisReply.SendableAll 8 ts)
    (hr : run step start calls = some s) (hf : Along step Fits start calls)
    (hw : Along step Writes start calls) (hp : s.link.received <+: redisReply.encodeAll ts) :
    s.got <+: redisReply.pointers ts ∧ s.link.sent ++ s.link.c.obuf = s.asked ∧
      s.link.c.err ≠ some .PROTOCOL ∧ s.link.c.err ≠ some .undefined := by
  have hgood := run_good start_good hr hf
  obtain ⟨hgot, herr⟩ := hgood.got_pointers hts hp
  refine ⟨hgot, run_written (s := start) rfl hr hw, ?_, ?_⟩
  · intro hc
    rw [hgood.link.blamed .PROTOCOL hc] at herr
    cases herr
  · intro hc
    rw [hgood.link.blamed .undefined hc] at herr
    cases herr

theorem got_replies_transaction : ∃ s,
    run step start (transaction transactionPieces [.bytes "7\r\n".toList]) = some s ∧
      s.got <+: redisReply.pointers transactionReplies ∧ s.link.sent ++ s.link.c.obuf = s.asked ∧
      s.link.c.err ≠ some .PROTOCOL ∧ s.link.c.err ≠ some .undefined := by
  have hs : (run step start (transaction transactionPieces [.bytes "7\r\n".toList])).map
      (fun s => s.link.received) = some (redisReply.encodeAll transactionReplies) := by
    decide +kernel
  obtain ⟨s, hr, hreceived⟩ := Option.map_eq_some_iff.1 hs
  have hline : ¬ CRLF <:+: "OK".toList := by decide +kernel
  have hts : redisReply.SendableAll 8 transactionReplies := by
    refine ⟨⟨?_, ⟨?_, hline, trivial, trivial⟩, ?_, trivial⟩, ?_, trivial⟩
    · exact Nat.le_of_ble_eq_true rfl
    · exact Nat.le_of_ble_eq_true rfl
    · exact Nat.le_of_ble_eq_true rfl
    · exact ⟨by decide, by decide⟩
  refine ⟨s, hr, ?_⟩
  exact got_replies hts hr (along_fits start_good (by decide +kernel))
    (along_writes rfl (by decide +kernel)) (by rw [hreceived])

end RedisSession

end SiteOnYourDevice
