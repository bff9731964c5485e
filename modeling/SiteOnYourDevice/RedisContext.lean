import SiteOnYourDevice.ReplyBuffer
import SiteOnYourDevice.SdsCalls
import Mathlib.Algebra.GroupWithZero.Nat

namespace SiteOnYourDevice
open CString StreamReader
set_option relaxedAutoImplicit false
set_option autoImplicit true

/-- The errors of a context, `REDIS_ERR_*`; `undefined` is that of the reader. -/
inductive ContextErr
  | ERR_RW | OTHER | EOF | PROTOCOL | OOM | undefined
deriving DecidableEq

inductive Errno
  | EAGAIN | EINTR | other
deriving DecidableEq

/-- What `write` does: it takes so many bytes at most, and no more than an `int` counts, or fails,
with the text of the error. -/
inductive SocketWrite
  | bytes (room : Nat)
  | failed (errno : Errno) (strerror : Str)

/-- What `read` returns; no bytes are the end of the stream. -/
inductive SocketRead
  | bytes (buf : Str)
  | failed (errno : Errno) (strerror : Str)

structure redisContext where
  err : Option ContextErr
  errstr : Str
  obuf : Str
  reader : redisReader
  REDIS_BLOCK : Bool
  REDIS_CONNECTED : Bool

/-- A context and its socket: the bytes that have been written to it, and those read from it. -/
structure RedisLink where
  c : redisContext
  sent : Str
  received : Str

def ReaderErr.toContextErr : ReaderErr → ContextErr
  | .PROTOCOL => .PROTOCOL
  | .undefined => .undefined

/-- The conditions under which a call is tried again later. -/
def redisContext.again (c : redisContext) (errno : Errno) : Bool :=
  (errno = .EAGAIN && !c.REDIS_BLOCK) || errno = .EINTR

namespace RedisLink

/-- `__redisSetError`. -/
def redisSetError (s : RedisLink) (type : ContextErr) (str : Str) : RedisLink :=
  { s with c := { s.c with err := some type, errstr := str.take 127 } }

/-- A context that has been connected. -/
def connected (REDIS_BLOCK : Bool) : RedisLink :=
  ⟨⟨none, [], [], .create, REDIS_BLOCK, true⟩, [], []⟩

/-- `redisBufferRead`; `none` when `read` does not return. -/
def redisBufferRead (s : RedisLink) (nread : Option SocketRead) : Option (Bool × RedisLink) :=
  if s.c.err ≠ none then some (false, s)
  else nread.map fun
    | .failed errno strerror =>
      if s.c.again errno then (true, s) else (false, s.redisSetError .ERR_RW strerror)
    | .bytes [] =>
      (false, { s with c := { s.c with REDIS_CONNECTED := false } }.redisSetError .EOF
        "Server closed the connection".toList)
    | .bytes buf =>
      match s.c.reader.Feed buf with
      | (true, reader) => (true, { s with c := { s.c with reader }, received := s.received ++ buf })
      | (false, reader) =>
        (false, { s with c := { s.c with reader } }.redisSetError
          ((reader.err.map ReaderErr.toContextErr).getD .undefined) reader.errstr)

/-- What is left of `obuf` when `nwritten` bytes of it have been written. -/
def unwritten (obuf : Str) (nwritten : Nat) : Str :=
  if nwritten = 0 then obuf
  else if nwritten = toInt obuf.length then []
  else
    let range := Sds.rangeBounds obuf.length nwritten (-1)
    (obuf.drop range.1.toNat).take range.2

/-- `redisBufferWrite`; `none` when `write` does not return. `done` is whether `obuf` is empty. -/
def redisBufferWrite (s : RedisLink) (nwritten : Option SocketWrite) : Option (Bool × RedisLink) :=
  if s.c.err ≠ none then some (false, s)
  else if 0 < s.c.obuf.length then
    nwritten.map fun
      | .failed errno strerror =>
        if s.c.again errno then (true, s) else (false, s.redisSetError .ERR_RW strerror)
      | .bytes room =>
        let nwritten := min room (min s.c.obuf.length INT_MAX)
        (true, { s with
          c := { s.c with obuf := unwritten s.c.obuf nwritten }
          sent := s.sent ++ s.c.obuf.take nwritten })
  else some (true, s)

def redisGetReplyFromReader (s : RedisLink) : Bool × ReplyPtr × RedisLink :=
  match s.c.reader.GetReply with
  | (true, reply, reader) => (true, reply, { s with c := { s.c with reader } })
  | (false, reply, reader) =>
    (false, reply, { s with c := { s.c with reader } }.redisSetError
      ((reader.err.map ReaderErr.toContextErr).getD .undefined) reader.errstr)

/-- The first loop of `redisGetReply`, with what the calls of `write` return. -/
def writeUntilDone (s : RedisLink) : List SocketWrite → Option (Bool × RedisLink)
  | [] => s.redisBufferWrite none
  | nwritten :: writes =>
    match s.redisBufferWrite (some nwritten) with
    | some (true, s) => if 0 < s.c.obuf.length then writeUntilDone s writes else some (true, s)
    | out => out

/-- The second loop, with what the calls of `read` return. -/
def readUntilReply (s : RedisLink) : List SocketRead → Option (Bool × ReplyPtr × RedisLink)
  | [] => (s.redisBufferRead none).map fun out => (out.1, .NULL, out.2)
  | nread :: reads =>
    match s.redisBufferRead (some nread) with
    | some (true, s) =>
      match s.redisGetReplyFromReader with
      | (true, aux, s) => if aux.isNULL then readUntilReply s reads else some (true, aux, s)
      | out => some out
    | out => out.map fun out => (out.1, .NULL, out.2)

/-- `redisGetReply`; `none` when it does not return. -/
def redisGetReply (s : RedisLink) (writes : List SocketWrite) (reads : List SocketRead) :
    Option (Bool × ReplyPtr × RedisLink) :=
  match s.redisGetReplyFromReader with
  | (true, aux, s) =>
    if aux.isNULL && s.c.REDIS_BLOCK then
      match s.writeUntilDone writes with
      | some (true, s) => s.readUntilReply reads
      | out => out.map fun out => (out.1, .NULL, out.2)
    else some (true, aux, s)
  | out => some out

/-- `redisAppendFormattedCommand`. -/
def redisAppendFormattedCommand (s : RedisLink) (cmd : Str) : RedisLink :=
  { s with c := { s.c with obuf := s.c.obuf ++ cmd } }

/-- `__redisBlockForReply`. -/
def redisBlockForReply (s : RedisLink) (writes : List SocketWrite) (reads : List SocketRead) :
    Option (ReplyPtr × RedisLink) :=
  if s.c.REDIS_BLOCK then
    (s.redisGetReply writes reads).map fun out => (if out.1 then out.2.1 else .NULL, out.2.2)
  else some (.NULL, s)

end RedisLink

/-- What a call has found: NULL is no reply. -/
def ReplyPtr.found (reply : ReplyPtr) : List ReplyPtr := if reply.isNULL then [] else [reply]

/-- The bytes that have come in. -/
def SocketRead.buf : SocketRead → Str
  | .bytes buf => buf
  | .failed _ _ => []

theorem ReplyPtr.found_of_isNULL {reply : ReplyPtr} (h : reply.isNULL = true) : reply.found = [] :=
  if_pos h

theorem ReplyPtr.found_of_not_isNULL {reply : ReplyPtr} (h : reply.isNULL = false) :
    reply.found = [reply] := if_neg (Bool.eq_false_iff.1 h)

namespace redisReader

variable {r : redisReader}

theorem Feed_length (r : redisReader) (v : Str) :
    (r.Feed v).2.buf.length ≤ r.buf.length + v.length := by
  rw [Feed]
  split
  · exact Nat.le_of_eq List.length_append
  · exact Nat.le_add_right _ _

theorem Feed_failed {v : Str} {t : redisReader} (h : r.Feed v = (false, t)) : r.err ≠ none ∧ t = r := by
  rw [Feed] at h
  split at h
  · cases h
  · rename_i he
    cases h
    exact ⟨he, rfl⟩

/-- What a call gets is taken from the stream. -/
theorem GetReply_reached (hs : r.Sound) (hb : r.buf.length ≤ INT_MAX)
    {s₀ : ReplyReading} {v : Str} {got : List ReplyPtr}
    (h : ReplyReading.reader.Reached s₀ v got r.reading) :
    ReplyReading.reader.Reached s₀ v (got ++ r.GetReply.2.1.found) r.GetReply.2.2.reading ∧
      (r.GetReply.1 = false → r.GetReply.2.1.isNULL = true) := by
  have hgets := GetReply_gets hs hb
  have hreply := hgets.reply
  cases hready : (ReplyReading.reader.settle r.reading).ready with
  | none =>
    rw [hready] at hreply
    obtain ⟨hnull, hreading⟩ := hreply
    refine ⟨?_, fun _ => by rw [hnull]; rfl⟩
    rw [hnull, hreading, ReplyPtr.found_of_isNULL rfl, List.append_nil]
    exact h.settled
  | some p =>
    rw [hready] at hreply
    obtain ⟨hp, hreading⟩ := hreply
    obtain ⟨he, hr, hp₁, _⟩ := ReplyReading.ready_eq_some hready
    have hroot : p.1.isNULL = false := by
      rw [hp₁]
      exact ReplyReading.settle_rooted (ReplyReading.begun_rooted r.view) he hr
    refine ⟨?_, fun hfalse => ?_⟩
    · rw [hp, hreading, ReplyPtr.found_of_not_isNULL hroot]
      exact h.settled.taken hready
    · rw [hgets.ok.2 he] at hfalse
      cases hfalse

end redisReader

namespace RedisLink

variable {s s' : RedisLink} {got : List ReplyPtr} {writes : List SocketWrite}
  {reads : List SocketRead} {ok : Bool} {reply : ReplyPtr}

/-- The replies are those of what was read, in their order. -/
structure Good (got : List ReplyPtr) (s : RedisLink) : Prop where
  sound : s.c.reader.Sound
  reached : ReplyReading.reader.Reached redisReader.create.reading s.received got s.c.reader.reading
  blamed : ∀ e : ReaderErr, s.c.err = some e.toContextErr → s.c.reader.err = some e

theorem connected_good (REDIS_BLOCK : Bool) : (connected REDIS_BLOCK).Good [] :=
  ⟨redisReader.create_sound, Reader.Reached.start, nofun⟩

theorem Good.append (h : s.Good got) (cmd : Str) : (s.redisAppendFormattedCommand cmd).Good got :=
  ⟨h.sound, h.reached, h.blamed⟩

/-- An error of the socket is none of the reader. -/
theorem not_blamed {type : ContextErr} {P : Prop} (h : type = .ERR_RW ∨ type = .EOF) {e : ReaderErr}
    (he : some type = some e.toContextErr) : P := by
  obtain rfl | rfl := h <;> cases e <;> cases he

/-- An error of the reader is the one that the context gets. -/
theorem blamed_reader {r : redisReader} {e : ReaderErr} (hr : r.err ≠ none)
    (he : some ((r.err.map ReaderErr.toContextErr).getD .undefined) = some e.toContextErr) :
    r.err = some e := by
  cases hcases : r.err with
  | none => exact absurd hcases hr
  | some e' =>
    rw [hcases] at he
    cases e' <;> cases e <;> first | rfl | cases he

theorem redisGetReplyFromReader_good (h : s.Good got) (hb : s.c.reader.buf.length ≤ INT_MAX)
    (hr : s.redisGetReplyFromReader = (ok, reply, s')) :
    s'.Good (got ++ reply.found) ∧ s'.c.reader.buf.length ≤ s.c.reader.buf.length ∧
      s'.c.REDIS_BLOCK = s.c.REDIS_BLOCK ∧
      (ok = false → reply.isNULL = true ∧ s'.c.err ≠ none) := by
  obtain ⟨hreached, hnull⟩ := redisReader.GetReply_reached h.sound hb h.reached
  have hgets := redisReader.GetReply_gets h.sound hb
  have hsound := hgets.sound
  have hlen := hgets.length
  rw [redisGetReplyFromReader] at hr
  split at hr
  · rename_i hget
    cases hr
    rw [hget] at hreached hsound hlen hgets
    have herr : s.c.reader.err = none := by
      by_contra he
      rw [redisReader.GetReply, if_pos he] at hget
      cases hget
    exact ⟨⟨hsound, hreached, fun e hc => absurd (h.blamed e hc) (by
      rw [herr]
      exact fun h => absurd h.symm (Option.some_ne_none _))⟩, hlen, rfl,
      Bool.noConfusion⟩
  · rename_i hget
    cases hr
    rw [hget] at hreached hsound hlen hnull hgets
    exact ⟨⟨hsound, hreached, fun e => blamed_reader (hgets.failed rfl)⟩, hlen, rfl,
      fun _ => ⟨hnull rfl, Option.some_ne_none _⟩⟩

/-- Writing moves bytes from the buffer to the socket. -/
theorem redisBufferWrite_good {nwritten : Option SocketWrite} (h : s.Good got)
    (hw : s.redisBufferWrite nwritten = some (ok, s')) :
    s'.Good got ∧ s'.c.reader = s.c.reader ∧ s'.c.REDIS_BLOCK = s.c.REDIS_BLOCK ∧
      (ok = false → s'.c.err ≠ none) := by
  rw [redisBufferWrite] at hw
  split at hw
  · rename_i he
    cases hw
    exact ⟨h, rfl, rfl, fun _ => he⟩
  · split at hw
    · obtain ⟨outcome, _, ho⟩ := Option.map_eq_some_iff.1 hw
      cases outcome with
      | failed errno strerror =>
        simp only at ho
        split at ho
        · cases ho
          exact ⟨h, rfl, rfl, Bool.noConfusion⟩
        · cases ho
          exact ⟨⟨h.sound, h.reached, fun _ => not_blamed (.inl rfl)⟩, rfl, rfl,
            fun _ => Option.some_ne_none _⟩
      | bytes room =>
        cases ho
        exact ⟨⟨h.sound, h.reached, h.blamed⟩, rfl, rfl, Bool.noConfusion⟩
    · cases hw
      exact ⟨h, rfl, rfl, Bool.noConfusion⟩

theorem writeUntilDone_good (h : s.Good got) (hw : s.writeUntilDone writes = some (ok, s')) :
    s'.Good got ∧ s'.c.reader = s.c.reader ∧ s'.c.REDIS_BLOCK = s.c.REDIS_BLOCK ∧
      (ok = false → s'.c.err ≠ none) ∧ (ok = true → s'.c.obuf = []) := by
  induction writes generalizing s with
  | nil =>
    obtain ⟨hgood, hreader, hblock, hfail⟩ := redisBufferWrite_good h hw
    refine ⟨hgood, hreader, hblock, hfail, ?_⟩
    rintro rfl
    rw [writeUntilDone, redisBufferWrite] at hw
    split at hw
    · cases hw
    · split at hw
      · cases hw
      · rename_i hlen
        cases hw
        exact List.eq_nil_of_length_eq_zero (Nat.eq_zero_of_not_pos hlen)
  | cons nwritten writes ih =>
    rw [writeUntilDone] at hw
    split at hw
    · rename_i t ht
      obtain ⟨hgood, hreader, hblock, hfail⟩ := redisBufferWrite_good h ht
      split at hw
      · obtain ⟨hgood', hreader', hblock', hrest⟩ := ih hgood hw
        exact ⟨hgood', hreader'.trans hreader, hblock'.trans hblock, hrest⟩
      · rename_i hlen
        cases hw
        exact ⟨hgood, hreader, hblock, nofun,
          fun _ => List.eq_nil_of_length_eq_zero (Nat.eq_zero_of_not_pos hlen)⟩
    · rename_i hne
      obtain ⟨hgood, hreader, hblock, hfail⟩ := redisBufferWrite_good h hw
      refine ⟨hgood, hreader, hblock, hfail, ?_⟩
      rintro rfl
      exact absurd hw (hne s')

/-- What has come in is fed to the reader. -/
theorem redisBufferRead_good {nread : Option SocketRead} (h : s.Good got)
    (hr : s.redisBufferRead nread = some (ok, s')) :
    s'.Good got ∧
      s'.c.reader.buf.length ≤ s.c.reader.buf.length + (nread.elim 0 fun r => r.buf.length) ∧
      s'.c.REDIS_BLOCK = s.c.REDIS_BLOCK ∧ (ok = false → s'.c.err ≠ none) := by
  rw [redisBufferRead] at hr
  split at hr
  · rename_i he
    cases hr
    exact ⟨h, Nat.le_add_right _ _, rfl, fun _ => he⟩
  · rename_i he
    have hnone : s.c.err = none := not_not.1 he
    obtain ⟨outcome, rfl, ho⟩ := Option.map_eq_some_iff.1 hr
    cases outcome with
    | failed errno strerror =>
      simp only at ho
      split at ho
      · cases ho
        exact ⟨h, Nat.le_add_right _ _, rfl, nofun⟩
      · cases ho
        exact ⟨⟨h.sound, h.reached, fun _ => not_blamed (.inl rfl)⟩, Nat.le_add_right _ _,
          rfl, fun _ => Option.some_ne_none _⟩
    | bytes buf =>
      cases buf with
      | nil =>
        cases ho
        exact ⟨⟨h.sound, h.reached, fun _ => not_blamed (.inr rfl)⟩, Nat.le_add_right _ _,
          rfl, fun _ => Option.some_ne_none _⟩
      | cons b buf =>
        have hreading := redisReader.Feed_reading h.sound (b :: buf)
        have hsound := redisReader.Feed_sound h.sound (b :: buf)
        have hlen := redisReader.Feed_length s.c.reader (b :: buf)
        simp only at ho
        split at ho
        · rename_i hfeed
          cases ho
          rw [hfeed] at hreading hsound hlen
          refine ⟨⟨hsound, ?_, fun e hc => absurd hc (by simp [hnone])⟩, hlen, rfl, nofun⟩
          rw [hreading]
          exact h.reached.fed _
        · rename_i hfeed
          cases ho
          obtain ⟨herr, hkept⟩ := redisReader.Feed_failed hfeed
          subst hkept
          exact ⟨⟨h.sound, h.reached, fun e => blamed_reader herr⟩, Nat.le_add_right _ _,
            rfl, fun _ => Option.some_ne_none _⟩

/-- What has come in during a call. -/
def incoming (reads : List SocketRead) : Nat := (reads.map fun nread => nread.buf.length).sum

/-- What a call of `redisGetReply` on a blocking context returns: a reply, or an error. -/
structure Returns (got : List ReplyPtr) (s : RedisLink) (reads : List SocketRead) (ok : Bool)
    (reply : ReplyPtr) (s' : RedisLink) : Prop where
  good : s'.Good (got ++ reply.found)
  length : s'.c.reader.buf.length ≤ s.c.reader.buf.length + incoming reads
  block : s'.c.REDIS_BLOCK = s.c.REDIS_BLOCK
  replied : ok = true → reply.isNULL = false
  failed : ok = false → reply.isNULL = true ∧ s'.c.err ≠ none

theorem returns_failed (h : s'.Good got)
    (hlen : s'.c.reader.buf.length ≤ s.c.reader.buf.length + incoming reads)
    (hblock : s'.c.REDIS_BLOCK = s.c.REDIS_BLOCK) (he : s'.c.err ≠ none) :
    Returns got s reads false .NULL s' where
  good := by
    rw [ReplyPtr.found_of_isNULL rfl, List.append_nil]
    exact h
  length := hlen
  block := hblock
  replied := nofun
  failed _ := ⟨rfl, he⟩

theorem readUntilReply_returns (h : s.Good got)
    (hb : s.c.reader.buf.length + incoming reads ≤ INT_MAX)
    (hr : s.readUntilReply reads = some (ok, reply, s')) : Returns got s reads ok reply s' := by
  induction reads generalizing s with
  | nil =>
    obtain ⟨⟨ok', t⟩, hread, ho⟩ := Option.map_eq_some_iff.1 hr
    cases ho
    obtain ⟨hgood, hlen, hblock, hfail⟩ := redisBufferRead_good h hread
    rw [redisBufferRead] at hread
    split at hread
    · cases hread
      exact returns_failed hgood hlen hblock (hfail rfl)
    · cases hread
  | cons nread reads ih =>
    have hsum : incoming (nread :: reads) = nread.buf.length + incoming reads := by
      rw [incoming, List.map_cons, List.sum_cons]
      rfl
    rw [hsum] at hb
    rw [readUntilReply] at hr
    split at hr
    · rename_i t hread
      obtain ⟨hgood, hlen, hblock, _⟩ := redisBufferRead_good h hread
      change _ ≤ _ + nread.buf.length at hlen
      split at hr
      · rename_i aux t' hget
        obtain ⟨hgood', hlen', hblock', _⟩ := redisGetReplyFromReader_good hgood (by omega) hget
        split at hr
        · rename_i hnull
          rw [ReplyPtr.found_of_isNULL hnull, List.append_nil] at hgood'
          obtain ⟨hgood'', hlen'', hblock'', hreplied, hfailed⟩ := ih hgood' (by omega) hr
          exact ⟨hgood'', by omega, hblock''.trans (hblock'.trans hblock), hreplied, hfailed⟩
        · rename_i hnull
          cases hr
          exact ⟨hgood', by omega, hblock'.trans hblock, fun _ => Bool.eq_false_iff.2 hnull, nofun⟩
      · rename_i hne
        obtain ⟨hgood', hlen', hblock', hfail⟩ := redisGetReplyFromReader_good hgood (by omega)
          (Option.some.inj hr)
        refine ⟨hgood', by omega, hblock'.trans hblock, ?_, hfail⟩
        rintro rfl
        exact absurd (Option.some.inj hr) (hne reply s')
    · rename_i hne
      obtain ⟨⟨ok', t⟩, hread, ho⟩ := Option.map_eq_some_iff.1 hr
      cases ho
      obtain ⟨hgood, hlen, hblock, hfail⟩ := redisBufferRead_good h hread
      change t.c.reader.buf.length ≤ _ + nread.buf.length at hlen
      cases ok' with
      | true => exact absurd hread (hne _)
      | false => exact returns_failed hgood (hlen.trans (by omega)) hblock (hfail rfl)

/-- A call returns the next reply of what was read, in whichever pieces that came; or an error is
set. -/
theorem redisGetReply_returns (h : s.Good got)
    (hb : s.c.reader.buf.length + incoming reads ≤ INT_MAX) (hblock : s.c.REDIS_BLOCK = true)
    (hr : s.redisGetReply writes reads = some (ok, reply, s')) :
    Returns got s reads ok reply s' := by
  have hbuf : s.c.reader.buf.length ≤ INT_MAX := (Nat.le_add_right _ _).trans hb
  rw [redisGetReply] at hr
  split at hr
  · rename_i aux t hget
    obtain ⟨hgood, hlen, hblock', _⟩ := redisGetReplyFromReader_good h hbuf hget
    rw [hblock', hblock, Bool.and_true] at hr
    split at hr
    · rename_i hnull
      rw [ReplyPtr.found_of_isNULL hnull, List.append_nil] at hgood
      split at hr
      · rename_i t' hwrite
        obtain ⟨hgood', hreader, hblock'', _⟩ := writeUntilDone_good hgood hwrite
        have hrest := readUntilReply_returns hgood' (by rw [hreader]; omega) hr
        have hlen' := hrest.length
        rw [hreader] at hlen'
        exact ⟨hrest.good, by omega, hrest.block.trans (hblock''.trans hblock'), hrest.replied,
          hrest.failed⟩
      · rename_i hne
        obtain ⟨⟨ok', t'⟩, hwrite, ho⟩ := Option.map_eq_some_iff.1 hr
        cases ho
        obtain ⟨hgood', hreader, hblock'', hfail, _⟩ := writeUntilDone_good hgood hwrite
        cases ok' with
        | true => exact absurd hwrite (hne _)
        | false =>
          exact returns_failed hgood' (by rw [hreader]; omega) (hblock''.trans hblock') (hfail rfl)
    · rename_i hnull
      cases hr
      exact ⟨hgood, by omega, hblock', fun _ => Bool.eq_false_iff.2 hnull, nofun⟩
  · rename_i hne
    obtain ⟨hgood, hlen, hblock', hfail⟩ := redisGetReplyFromReader_good h hbuf (Option.some.inj hr)
    refine ⟨hgood, by omega, hblock', ?_, hfail⟩
    rintro rfl
    exact absurd (Option.some.inj hr) (hne reply s')

theorem unwritten_eq {obuf : Str} {nwritten : Nat} (hlen : obuf.length ≤ INT_MAX)
    (hn : nwritten ≤ obuf.length) : unwritten obuf nwritten = obuf.drop nwritten := by
  simp only [INT_MAX] at hlen
  rw [unwritten]
  split
  · rename_i hzero
    rw [hzero, List.drop_zero]
  · rename_i hpos
    rw [toInt_eq (by omega) (by omega)]
    split
    · exact (List.drop_eq_nil_of_le (by omega)).symm
    · have hrange := (@Sds.rangeBounds_spec obuf nwritten (-1) (by omega) (by constructor <;> omega)
        (by constructor <;> omega)).1
      have htake : ((max ((obuf.length : Int) + -1) 0) + 1).toNat = obuf.length := by omega
      have hdrop : ¬ (nwritten : Int) < 0 := by omega
      refine hrange.trans ?_
      rw [Sds.rangeOf]
      simp only [hdrop, if_false, Int.reduceNeg, Int.reduceLT, if_true, htake, List.take_length,
        Int.toNat_natCast]

/-- Bytes are only moved from the buffer to the socket, in their order. -/
structure Passes (s s' : RedisLink) : Prop where
  written : s'.sent ++ s'.c.obuf = s.sent ++ s.c.obuf
  length : s'.c.obuf.length ≤ s.c.obuf.length

theorem passes_of_eq (hsent : s'.sent = s.sent) (hobuf : s'.c.obuf = s.c.obuf) : Passes s s' :=
  ⟨by rw [hsent, hobuf], Nat.le_of_eq (congrArg _ hobuf)⟩

theorem Passes.trans {s'' : RedisLink} (h : Passes s s') (h' : Passes s' s'') : Passes s s'' :=
  ⟨h'.written.trans h.written, h'.length.trans h.length⟩

theorem redisBufferWrite_passes {nwritten : Option SocketWrite} (hlen : s.c.obuf.length ≤ INT_MAX)
    (hw : s.redisBufferWrite nwritten = some (ok, s')) : Passes s s' := by
  rw [redisBufferWrite] at hw
  split at hw
  · cases hw
    exact passes_of_eq rfl rfl
  · split at hw
    · obtain ⟨outcome, _, ho⟩ := Option.map_eq_some_iff.1 hw
      cases outcome with
      | failed errno strerror =>
        simp only at ho
        split at ho <;> cases ho <;> exact passes_of_eq rfl rfl
      | bytes room =>
        cases ho
        have hn : min room (min s.c.obuf.length INT_MAX) ≤ s.c.obuf.length := by omega
        refine ⟨?_, ?_⟩
        · simp only [unwritten_eq hlen hn, List.append_assoc, List.take_append_drop]
        · simp only [unwritten_eq hlen hn, List.length_drop]
          exact Nat.sub_le _ _
    · cases hw
      exact passes_of_eq rfl rfl

theorem writeUntilDone_passes (hlen : s.c.obuf.length ≤ INT_MAX)
    (hw : s.writeUntilDone writes = some (ok, s')) : Passes s s' := by
  induction writes generalizing s with
  | nil => exact redisBufferWrite_passes hlen hw
  | cons nwritten writes ih =>
    rw [writeUntilDone] at hw
    split at hw
    · rename_i t ht
      have hfirst := redisBufferWrite_passes hlen ht
      split at hw
      · exact hfirst.trans (ih (hfirst.length.trans hlen) hw)
      · cases hw
        exact hfirst
    · exact redisBufferWrite_passes hlen hw

theorem redisBufferRead_passes {nread : Option SocketRead}
    (hr : s.redisBufferRead nread = some (ok, s')) : Passes s s' := by
  rw [redisBufferRead] at hr
  split at hr
  · cases hr
    exact passes_of_eq rfl rfl
  · obtain ⟨outcome, _, ho⟩ := Option.map_eq_some_iff.1 hr
    cases outcome with
    | failed errno strerror =>
      simp only at ho
      split at ho <;> cases ho <;> exact passes_of_eq rfl rfl
    | bytes buf =>
      cases buf with
      | nil =>
        cases ho
        exact passes_of_eq rfl rfl
      | cons b buf =>
        simp only at ho
        split at ho <;> cases ho <;> exact passes_of_eq rfl rfl

theorem redisGetReplyFromReader_passes (hr : s.redisGetReplyFromReader = (ok, reply, s')) :
    Passes s s' := by
  rw [redisGetReplyFromReader] at hr
  split at hr <;> cases hr <;> exact passes_of_eq rfl rfl

theorem readUntilReply_passes (hr : s.readUntilReply reads = some (ok, reply, s')) :
    Passes s s' := by
  induction reads generalizing s with
  | nil =>
    obtain ⟨⟨ok', t⟩, hread, ho⟩ := Option.map_eq_some_iff.1 hr
    cases ho
    exact redisBufferRead_passes hread
  | cons nread reads ih =>
    rw [readUntilReply] at hr
    split at hr
    · rename_i t hread
      have hfirst := redisBufferRead_passes hread
      split at hr
      · rename_i aux t' hget
        have hsecond := hfirst.trans (redisGetReplyFromReader_passes hget)
        split at hr
        · exact hsecond.trans (ih hr)
        · cases hr
          exact hsecond
      · exact hfirst.trans (redisGetReplyFromReader_passes (Option.some.inj hr))
    · obtain ⟨⟨ok', t⟩, hread, ho⟩ := Option.map_eq_some_iff.1 hr
      cases ho
      exact redisBufferRead_passes hread

/-- A call leaves what was written and what waits together. -/
theorem redisGetReply_passes (hlen : s.c.obuf.length ≤ INT_MAX)
    (hr : s.redisGetReply writes reads = some (ok, reply, s')) : Passes s s' := by
  rw [redisGetReply] at hr
  split at hr
  · rename_i aux t hget
    have hfirst := redisGetReplyFromReader_passes hget
    split at hr
    · split at hr
      · rename_i t' hwrite
        exact (hfirst.trans (writeUntilDone_passes (hfirst.length.trans hlen) hwrite)).trans
          (readUntilReply_passes hr)
      · obtain ⟨⟨ok', t'⟩, hwrite, ho⟩ := Option.map_eq_some_iff.1 hr
        cases ho
        exact hfirst.trans (writeUntilDone_passes (hfirst.length.trans hlen) hwrite)
    · cases hr
      exact hfirst
  · exact redisGetReplyFromReader_passes (Option.some.inj hr)

end RedisLink

end SiteOnYourDevice
