import SiteOnYourDevice.RedisSession

namespace SiteOnYourDevice
open CString StreamReader Transition
set_option relaxedAutoImplicit false
set_option autoImplicit true

/-- The call is made again, or has moved bytes. -/
def SocketWrite.Harmless : SocketWrite → Prop
  | .bytes _ => True
  | .failed errno _ => errno = .EINTR

def SocketWrite.room : SocketWrite → Nat
  | .bytes room => room
  | .failed _ _ => 0

def SocketRead.Harmless : SocketRead → Prop
  | .bytes buf => buf ≠ []
  | .failed errno _ => errno = .EINTR

namespace redisReader

variable {r : redisReader} {p : ReplyPtr} {t : ReplyReading}

/-- A reply that is ready is returned. -/
theorem GetReply_ready (hs : r.Sound) (hb : r.buf.length ≤ INT_MAX)
    (h : ReplyReading.reader.ready (ReplyReading.reader.settle r.reading) = some (p, t)) :
    ∃ r', r.GetReply = (true, p, r') ∧ r'.reading = t ∧ r'.Sound ∧
      r'.buf.length < 1024 + t.unread.length := by
  have hgets := GetReply_gets hs hb
  have hok := hgets.ok.2 (ReplyReading.ready_eq_some h).1
  have hreply := hgets.reply
  rw [show (ReplyReading.reader.settle r.reading).ready = some (p, t) from h] at hreply
  have hnear := hgets.near hok
  rw [hreply.2] at hnear
  exact ⟨r.GetReply.2.2, Prod.ext hok (Prod.ext hreply.1 rfl), hreply.2, hgets.sound, hnear⟩

/-- While none is, the reader goes on as far as it can. -/
theorem GetReply_starved (hs : r.Sound) (hb : r.buf.length ≤ INT_MAX)
    (he : (ReplyReading.reader.settle r.reading).state.err = none)
    (h : ReplyReading.reader.ready (ReplyReading.reader.settle r.reading) = none) :
    ∃ r', r.GetReply = (true, .NULL, r') ∧ r'.reading = ReplyReading.reader.settle r.reading ∧
      r'.Sound ∧ r'.buf.length ≤ r.buf.length := by
  have hgets := GetReply_gets hs hb
  have hok := hgets.ok.2 he
  have hreply := hgets.reply
  rw [show (ReplyReading.reader.settle r.reading).ready = none from h] at hreply
  exact ⟨r.GetReply.2.2, Prod.ext hok (Prod.ext hreply.1 rfl), hreply.2, hgets.sound, hgets.length⟩

end redisReader

/-- A reader that has failed never has a reply ready. -/
theorem ReplyReading.not_failed_of_ready {s : ReplyReading} {u : Str} {q : ReplyPtr × ReplyReading}
    (h : reader.ready (reader.settle (reader.feed s u)) = some q) :
    (reader.settle s).state.err = none := by
  by_contra he
  have hfeed : reader.feed (reader.settle s) u = reader.settle s := feed_of_failed he u
  have hrest : reader.settle (reader.settle s) = reader.settle s :=
    Reader.settle_of_rest (Reader.turn_settle s)
  rw [← Reader.settle_feed, hfeed, hrest] at h
  exact he (ReplyReading.ready_eq_some h).1

namespace RedisLink

variable {s s' : RedisLink} {writes : List SocketWrite} {reads : List SocketRead}

/-- The buffer is written when the socket takes as many bytes. -/
theorem writeUntilDone_done (he : s.c.err = none) (hint : s.c.obuf.length ≤ INT_MAX)
    (hw : ∀ nwritten ∈ writes, nwritten.Harmless)
    (hlen : s.c.obuf.length ≤ (writes.map SocketWrite.room).sum) :
    s.writeUntilDone writes =
      some (true, { s with c := { s.c with obuf := [] }, sent := s.sent ++ s.c.obuf }) := by
  have hempty {s : RedisLink} (h : ¬ 0 < s.c.obuf.length) :
      s = { s with c := { s.c with obuf := [] }, sent := s.sent ++ s.c.obuf } := by
    obtain ⟨⟨err, errstr, obuf, reader, block, conn⟩, sent, received⟩ := s
    obtain rfl : obuf = [] := List.eq_nil_of_length_eq_zero (Nat.eq_zero_of_not_pos h)
    simp only [List.append_nil]
  induction writes generalizing s with
  | nil =>
    have hnil : ¬ 0 < s.c.obuf.length := Nat.not_lt.2 hlen
    rw [writeUntilDone, redisBufferWrite, if_neg (not_not.2 he), if_neg hnil, ← hempty hnil]
  | cons nwritten writes ih =>
    have hw' : ∀ nwritten ∈ writes, nwritten.Harmless :=
      fun w hmem => hw w (List.mem_cons_of_mem _ hmem)
    by_cases hpos : 0 < s.c.obuf.length
    · rw [writeUntilDone, redisBufferWrite, if_neg (not_not.2 he), if_pos hpos]
      cases nwritten with
      | failed errno strerror =>
        obtain rfl : errno = .EINTR := hw _ List.mem_cons_self
        have hagain : s.c.again .EINTR = true := by simp [redisContext.again]
        simp only [Option.map_some, hagain, if_true]
        rw [if_pos hpos]
        rw [List.map_cons, List.sum_cons, SocketWrite.room, Nat.zero_add] at hlen
        exact ih he hint hw' hlen
      | bytes room =>
        have hmin : min room (min s.c.obuf.length INT_MAX) = min room s.c.obuf.length := by
          rw [Nat.min_eq_left hint]
        simp only [Option.map_some, hmin, unwritten_eq hint (Nat.min_le_right room _)]
        split
        · rename_i hmore
          simp only [List.length_drop] at hmore
          rw [ih (s := { s with
            c := { s.c with obuf := s.c.obuf.drop (min room s.c.obuf.length) }
            sent := s.sent ++ s.c.obuf.take (min room s.c.obuf.length) }) he ?_ hw' ?_]
          · simp only [List.append_assoc, List.take_append_drop]
          · simp only [List.length_drop]
            omega
          · rw [List.map_cons, List.sum_cons, SocketWrite.room] at hlen
            simp only [List.length_drop]
            omega
        · rename_i hdone
          have hdrop : s.c.obuf.drop (min room s.c.obuf.length) = [] :=
            List.eq_nil_of_length_eq_zero (Nat.eq_zero_of_not_pos hdone)
          have htake : s.c.obuf.take (min room s.c.obuf.length) = s.c.obuf :=
            List.take_of_length_le (List.drop_eq_nil_iff.1 hdrop)
          rw [hdrop, htake]
    · rw [writeUntilDone, redisBufferWrite, if_neg (not_not.2 he), if_neg hpos]
      simp only
      rw [if_neg hpos, ← hempty hpos]

/-- The reply that is in what comes in is read, in whichever pieces that comes. -/
theorem readUntilReply_ready {p : ReplyPtr} {t : ReplyReading} (he : s.c.err = none)
    (hs : s.c.reader.Sound) (hb : s.c.reader.buf.length + incoming reads ≤ INT_MAX)
    (hr : ∀ nread ∈ reads, nread.Harmless)
    (hwaits : ReplyReading.reader.ready s.c.reader.reading = none)
    (hrest : ReplyReading.reader.turn s.c.reader.reading = none)
    (hready : ReplyReading.reader.ready (ReplyReading.reader.settle
      (ReplyReading.reader.feed s.c.reader.reading (reads.flatMap SocketRead.buf))) = some (p, t)) :
    ∃ reader received v, s.readUntilReply reads =
        some (true, p, { s with c := { s.c with reader }, received }) ∧ reader.Sound ∧
      ReplyReading.reader.feed reader.reading v = t ∧
      reader.buf.length < 1024 + reader.reading.unread.length := by
  induction reads generalizing s with
  | nil =>
    rw [List.flatMap_nil, ReplyReading.reader.feed_nil, Reader.settle_of_rest hrest, hwaits] at hready
    cases hready
  | cons nread reads ih =>
    have hr' : ∀ nread ∈ reads, nread.Harmless := fun r hmem => hr r (List.mem_cons_of_mem _ hmem)
    have hsum : incoming (nread :: reads) = nread.buf.length + incoming reads := by
      rw [incoming, List.map_cons, List.sum_cons]
      rfl
    rw [hsum] at hb
    have hsettle : ReplyReading.reader.settle s.c.reader.reading = s.c.reader.reading :=
      Reader.settle_of_rest hrest
    have herr : (ReplyReading.reader.settle s.c.reader.reading).state.err = none :=
      ReplyReading.not_failed_of_ready hready
    cases nread with
    | failed errno strerror =>
      obtain rfl : errno = .EINTR := hr _ List.mem_cons_self
      have hagain : s.c.again .EINTR = true := by simp [redisContext.again]
      have hread : s.redisBufferRead (some (.failed .EINTR strerror)) = some (true, s) := by
        rw [redisBufferRead, if_neg (not_not.2 he)]
        simp only [Option.map_some, hagain, if_true]
      obtain ⟨r, hget, hreading, hsound, hlen⟩ := redisReader.GetReply_starved hs (by omega) herr
        (by rw [hsettle]; exact hwaits)
      rw [hsettle] at hreading
      have hb' : r.buf.length + incoming reads ≤ INT_MAX := by omega
      obtain ⟨reader, received, v, hout, hrest'⟩ := ih (s := { s with c := { s.c with reader := r } })
        he hsound hb' hr' (hreading ▸ hwaits) (hreading ▸ hrest) (hreading ▸ hready)
      refine ⟨reader, received, v, ?_, hrest'⟩
      rw [readUntilReply, hread]
      simp only
      rw [redisGetReplyFromReader, hget]
      exact hout
    | bytes buf =>
      have hbuf : buf ≠ [] := hr _ List.mem_cons_self
      rw [hsettle, redisReader.reading_err] at herr
      have hfeed : s.c.reader.Feed buf = (true, { s.c.reader with buf := s.c.reader.buf ++ buf }) :=
        if_pos herr
      have hread : s.redisBufferRead (some (.bytes buf)) = some (true, { s with
          c := { s.c with reader := { s.c.reader with buf := s.c.reader.buf ++ buf } }
          received := s.received ++ buf }) := by
        rw [redisBufferRead, if_neg (not_not.2 he)]
        cases buf with
        | nil => exact absurd rfl hbuf
        | cons b buf => simp only [Option.map_some, hfeed]
      have hreading := redisReader.Feed_reading hs buf
      have hsound := redisReader.Feed_sound hs buf
      have hlen := redisReader.Feed_length s.c.reader buf
      rw [hfeed] at hreading hsound hlen
      change (s.c.reader.buf ++ buf).length ≤ _ at hlen
      change _ + (buf.length + _) ≤ _ at hb
      have hfit : (s.c.reader.buf ++ buf).length + incoming reads ≤ INT_MAX := by omega
      have hfit' : (s.c.reader.buf ++ buf).length ≤ INT_MAX := (Nat.le_add_right _ _).trans hfit
      rw [List.flatMap_cons, ReplyReading.reader.feed_append, ← Reader.settle_feed] at hready
      change ReplyReading.reader.ready (ReplyReading.reader.settle (ReplyReading.reader.feed
        (ReplyReading.reader.settle (s.c.reader.reading.feed buf)) _)) = _ at hready
      rw [← hreading] at hready
      cases hfound : ReplyReading.reader.ready (ReplyReading.reader.settle
          (redisReader.reading { s.c.reader with buf := s.c.reader.buf ++ buf })) with
      | some q =>
        obtain ⟨q, t'⟩ := q
        have hfed := ReplyReading.reader.ready_feed (reads.flatMap SocketRead.buf) hfound
        rw [Reader.settle_of_ready hfed, hfed] at hready
        cases hready
        obtain ⟨r, hget, hreading', hsound', hnear⟩ :=
          redisReader.GetReply_ready hsound hfit' hfound
        have hroot : p.isNULL = false := by
          obtain ⟨herr', hnil, hp, _⟩ := ReplyReading.ready_eq_some hfound
          rw [hp]
          exact ReplyReading.settle_rooted (ReplyReading.begun_rooted _) herr' hnil
        refine ⟨r, s.received ++ buf, reads.flatMap SocketRead.buf, ?_, hsound', ?_, ?_⟩
        · rw [readUntilReply, hread]
          simp only
          rw [redisGetReplyFromReader, hget]
          simp only [hroot, Bool.false_eq_true, if_false]
        · rw [hreading']
        · rw [hreading']
          exact hnear
      | none =>
        have hmore := ReplyReading.not_failed_of_ready
          (s := redisReader.reading { s.c.reader with buf := s.c.reader.buf ++ buf })
          (u := reads.flatMap SocketRead.buf) (by rw [← Reader.settle_feed]; exact hready)
        obtain ⟨r, hget, hreading', hsound', hlen'⟩ :=
          redisReader.GetReply_starved hsound hfit' hmore hfound
        have hb' : r.buf.length + incoming reads ≤ INT_MAX :=
          (Nat.add_le_add_right hlen' _).trans hfit
        obtain ⟨reader, received, v, hout, hrest'⟩ := ih (s := { s with
            c := { s.c with reader := r }, received := s.received ++ buf })
          he hsound' hb' hr' (by rw [hreading']; exact hfound)
          (by rw [hreading']; exact Reader.turn_settle _) (by rw [hreading']; exact hready)
        refine ⟨reader, received, v, ?_, hrest'⟩
        rw [readUntilReply, hread]
        simp only
        rw [redisGetReplyFromReader, hget]
        exact hout

/-- Nothing is to be written, and nothing has been read of the next reply. -/
structure Quiet (s : RedisLink) : Prop where
  err : s.c.err = none
  obuf : s.c.obuf = []
  block : s.c.REDIS_BLOCK = true
  sound : s.c.reader.Sound
  reading : s.c.reader.reading = ⟨ReplyReading.expects [], []⟩
  near : s.c.reader.buf.length < 1024

theorem connected_quiet : (connected true).Quiet :=
  ⟨rfl, rfl, rfl, redisReader.create_sound, rfl, by decide⟩

end RedisLink

/-- A command, what the system calls return while its reply is waited for, and the reply. -/
structure RedisExchange where
  cmd : Str
  writes : List SocketWrite
  reads : List SocketRead
  reply : redisReply

def RedisExchange.call (e : RedisExchange) : RedisCall := ⟨some e.cmd, e.writes, e.reads⟩

/-- The socket takes the command in some pieces, and the reply comes in some pieces. -/
structure RedisExchange.Served (e : RedisExchange) : Prop where
  counted : e.cmd.length < INT_MAX
  writes : ∀ nwritten ∈ e.writes, nwritten.Harmless
  written : e.cmd.length ≤ (e.writes.map SocketWrite.room).sum
  reads : ∀ nread ∈ e.reads, nread.Harmless
  read : e.reads.flatMap SocketRead.buf = e.reply.encode
  sendable : e.reply.Sendable 8
  fits : 1024 + e.reply.encode.length ≤ INT_MAX

theorem redisReply.pointer_isNULL (t : redisReply) : t.pointer.isNULL = false := by
  cases t <;> rfl

theorem ReplyReading.eq_of_feed {s : ReplyReading} {v : Str} (h : reader.feed s v = ⟨expects [], []⟩) :
    s = ⟨expects [], []⟩ := by
  by_cases he : s.state.err = none
  · have hfeed : reader.feed s v = ⟨s.state, s.unread ++ v⟩ := feed_of_err he v
    rw [hfeed] at h
    obtain ⟨state, unread⟩ := s
    obtain ⟨rfl, hunread⟩ := ReplyReading.mk.inj h
    exact congrArg _ (List.append_eq_nil_iff.1 hunread).1
  · have hfeed : reader.feed s v = s := feed_of_failed he v
    rw [← h, hfeed]

namespace RedisLink

theorem incoming_eq (reads : List SocketRead) :
    incoming reads = (reads.flatMap SocketRead.buf).length := List.length_flatMap.symm

variable {s : RedisLink} {e : RedisExchange}

/-- A command that is served gets its reply, and the link is quiet again. -/
theorem redisGetReply_served (h : s.Quiet) (he : e.Served) :
    ∃ s', (s.redisAppendFormattedCommand e.cmd).redisGetReply e.writes e.reads =
        some (true, e.reply.pointer, s') ∧ s'.Quiet ∧ s'.sent = s.sent ++ e.cmd := by
  have hrest : ReplyReading.reader.turn s.c.reader.reading = none := by
    rw [h.reading]
    rfl
  have hsettle : ReplyReading.reader.settle s.c.reader.reading = s.c.reader.reading :=
    Reader.settle_of_rest hrest
  have hwaits : ReplyReading.reader.ready s.c.reader.reading = none := by
    rw [h.reading]
    rfl
  have hnear := h.near
  have hfits := he.fits
  have hbuf : s.c.reader.buf.length ≤ INT_MAX := by omega
  obtain ⟨r, hget, hreading, hsound, hlen⟩ := redisReader.GetReply_starved h.sound hbuf
    (by rw [hsettle, h.reading]; rfl) (by rw [hsettle]; exact hwaits)
  rw [hsettle] at hreading
  let t : RedisLink := { s with c := { s.c with reader := r, obuf := s.c.obuf ++ e.cmd } }
  have hobuf : t.c.obuf = e.cmd := by
    change s.c.obuf ++ e.cmd = _
    rw [h.obuf]
    rfl
  have hwrite := writeUntilDone_done (s := t) h.err (by rw [hobuf]; exact Nat.le_of_lt he.counted) he.writes
    (by rw [hobuf]; exact he.written)
  have hready : ReplyReading.reader.ready (ReplyReading.reader.settle
      (ReplyReading.reader.feed r.reading (e.reads.flatMap SocketRead.buf))) =
        some (e.reply.pointer, ⟨ReplyReading.expects [], []⟩) := by
    rw [he.read, hreading, h.reading]
    have hencode := ReplyReading.ready_encode he.sendable [] []
    rw [List.append_nil] at hencode
    exact hencode
  obtain ⟨reader, received, v, hread, hsound', hfeed, hnear'⟩ := readUntilReply_ready
    (s := { t with c := { t.c with obuf := [] }, sent := t.sent ++ t.c.obuf }) h.err hsound
    (by rw [incoming_eq, he.read]; change r.buf.length + _ ≤ _; omega) he.reads
    (hreading ▸ hwaits) (hreading ▸ hrest) hready
  have hquiet := ReplyReading.eq_of_feed hfeed
  rw [hquiet] at hnear'
  have hfirst : (s.redisAppendFormattedCommand e.cmd).redisGetReplyFromReader =
      (true, .NULL, t) := by
    have hget' : (s.redisAppendFormattedCommand e.cmd).c.reader.GetReply = (true, .NULL, r) := hget
    rw [redisGetReplyFromReader, hget']
    rfl
  have hblocks : (ReplyPtr.NULL.isNULL && t.c.REDIS_BLOCK) = true := h.block
  refine ⟨{ t with c := { t.c with obuf := [], reader }, sent := s.sent ++ t.c.obuf, received }, ?_,
    ⟨h.err, rfl, h.block, hsound', hquiet, hnear'⟩, ?_⟩
  · rw [redisGetReply, hfirst]
    simp only
    rw [if_pos hblocks, hwrite]
    exact hread
  · change s.sent ++ (s.c.obuf ++ e.cmd) = _
    rw [h.obuf]
    rfl

end RedisLink

namespace RedisSession

/-- One command after another, each of them written whole and answered with its own reply. -/
theorem run_exchanges {es : List RedisExchange} (hs : ∀ e ∈ es, e.Served) {s : RedisSession}
    (hq : s.link.Quiet) (hsent : s.link.sent = s.asked) :
    ∃ s', run step s (es.map RedisExchange.call) = some s' ∧
      s'.got = s.got ++ es.map (·.reply.pointer) ∧
      s'.asked = s.asked ++ (es.map RedisExchange.cmd).flatten ∧ s'.link.sent = s'.asked ∧ s'.link.Quiet := by
  induction es generalizing s with
  | nil =>
    refine ⟨s, rfl, (List.append_nil _).symm, (List.append_nil _).symm, hsent, hq⟩
  | cons e es ih =>
    obtain ⟨link, hreply, hquiet, hwritten⟩ :=
      RedisLink.redisGetReply_served hq (hs e List.mem_cons_self)
    have hstep : s.step e.call =
        some ⟨link, s.asked ++ e.cmd, s.got ++ [e.reply.pointer]⟩ := by
      have hfound := ReplyPtr.found_of_not_isNULL e.reply.pointer_isNULL
      rw [step]
      change (RedisLink.redisGetReply (s.link.redisAppendFormattedCommand e.cmd) e.writes
        e.reads).map _ = _
      rw [hreply, Option.map_some, hfound]
      rfl
    obtain ⟨s', hrun, hgot, hasked, hsent', hquiet'⟩ := ih
      (fun e he => hs e (List.mem_cons_of_mem _ he))
      (s := ⟨link, s.asked ++ e.cmd, s.got ++ [e.reply.pointer]⟩) hquiet
      (by rw [hwritten, hsent])
    refine ⟨s', ?_, ?_, ?_, hsent', hquiet'⟩
    · rw [List.map_cons, run_cons hstep, hrun]
    · rw [hgot, List.append_assoc]
      rfl
    · rw [hasked, List.append_assoc]
      rfl

/-- On a new connection the n-th command gets the n-th reply. -/
theorem run_served {es : List RedisExchange} (hs : ∀ e ∈ es, e.Served) :
    ∃ s, run step start (es.map RedisExchange.call) = some s ∧
      s.got = es.map (·.reply.pointer) ∧ s.link.sent = (es.map RedisExchange.cmd).flatten ∧
      s.link.c.obuf = [] ∧ s.link.c.err = none := by
  obtain ⟨s, hrun, hgot, hasked, hsent, hquiet⟩ := run_exchanges hs (s := start)
    RedisLink.connected_quiet rfl
  exact ⟨s, hrun, hgot, hsent.trans hasked, hquiet.obuf, hquiet.err⟩

/-- A command that is written in two pieces, and interrupted once; its reply comes in two. -/
def ping : RedisExchange where
  cmd := "PING\r\n".toList
  writes := [.bytes 4, .failed .EINTR [], .bytes 2]
  reads := [.bytes "+PO".toList, .failed .EINTR [], .bytes "NG\r\n".toList]
  reply := .status "PONG".toList

theorem ping_served : ping.Served where
  counted := by decide +kernel
  writes := by
    intro nwritten h
    simp only [ping, List.mem_cons, List.not_mem_nil, or_false] at h
    rcases h with rfl | rfl | rfl <;> trivial
  written := by decide +kernel
  reads := by
    intro nread h
    simp only [ping, List.mem_cons, List.not_mem_nil, or_false] at h
    rcases h with rfl | rfl | rfl
    · exact List.cons_ne_nil _ _
    · rfl
    · exact List.cons_ne_nil _ _
  read := rfl
  sendable := by
    change ¬ CRLF <:+: "PONG".toList
    decide +kernel
  fits := by decide +kernel

theorem run_served_ping : ∃ s, run step start [ping.call, ping.call] = some s ∧
    s.got = [.status "PONG".toList, .status "PONG".toList] ∧
      s.link.sent = "PING\r\nPING\r\n".toList ∧ s.link.c.obuf = [] ∧ s.link.c.err = none := by
  have hs : ∀ e ∈ [ping, ping], e.Served := by
    intro e he
    simp only [List.mem_cons, List.not_mem_nil, or_false, or_self] at he
    subst he
    exact ping_served
  have hserved := run_served hs
  exact hserved

end RedisSession

end SiteOnYourDevice
