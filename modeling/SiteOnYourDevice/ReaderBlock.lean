import SiteOnYourDevice.RedisContext
import SiteOnYourDevice.SdsCalls

namespace SiteOnYourDevice
open CString Sds
set_option relaxedAutoImplicit false
set_option autoImplicit true

namespace redisReader
variable {r r' : redisReader}

theorem withState_buf {s : ReadState} (h : (r.withState s).err = none) :
    (r.withState s).buf = r.buf := by
  rw [withState] at h ⊢
  split
  · rfl
  · rename_i hs
    rw [if_neg hs] at h
    exact absurd h hs

theorem readLine_buf {p : Str} (h : r.readLine = some (p, r')) : r'.buf = r.buf := by
  obtain ⟨len, _, heq⟩ := Option.map_eq_some_iff.1 h
  cases heq
  rfl

theorem processTyped_buf {type : ReplyType} (h : (r.processTyped type).2.err = none) :
    (r.processTyped type).2.buf = r.buf := by
  have hline {type : ReplyType} (h : (r.processLineItem type).2.err = none) :
      (r.processLineItem type).2.buf = r.buf := by
    rw [processLineItem] at h ⊢
    split at h
    · rename_i hl
      exact (withState_buf h).trans (readLine_buf hl)
    · rfl
  cases type with
  | ERROR => exact hline h
  | STATUS => exact hline h
  | INTEGER => exact hline h
  | NIL => exact withState_buf h
  | STRING =>
    revert h
    rw [processTyped, processBulkItem]
    split
    · exact fun _ => rfl
    · dsimp only
      split
      · exact withState_buf
      · split
        · exact withState_buf
        · exact fun _ => rfl
  | ARRAY =>
    revert h
    rw [processTyped, processMultiBulkItem]
    split
    · exact withState_buf
    · split
      · rename_i hl
        exact fun h => (withState_buf h).trans (readLine_buf hl)
      · exact fun _ => rfl

/-- The items of a reply are read in place. -/
theorem processItem_buf (h : r.processItem.2.err = none) : r.processItem.2.buf = r.buf := by
  revert h
  rw [processItem]
  split
  · exact fun _ => rfl
  · split
    · exact processTyped_buf
    · split
      · exact fun _ => rfl
      · split
        · exact processTyped_buf
        · exact withState_buf

theorem processItems_buf (fuel : Nat) (hb : r.buf.length ≤ INT_MAX) (hp : r.pos ≤ r.buf.length)
    (he : r.err ≠ none → r.rstack = []) (h : (processItems fuel r).err = none) :
    (processItems fuel r).buf = r.buf ∧ (processItems fuel r).pos ≤ r.buf.length := by
  induction fuel generalizing r with
  | zero => exact ⟨rfl, hp⟩
  | succ fuel ih =>
    rw [processItems] at h ⊢
    split
    · exact ⟨rfl, hp⟩
    · rename_i hr
      rw [if_neg hr] at h
      have hadv := processItem_advances hb hp (not_not.1 (mt he hr)) hr
      have hbuf := processItem_buf (r := r)
      cases hitem : r.processItem with
      | mk ok t =>
        rw [hitem] at hadv hbuf h
        cases ok with
        | true =>
          have ht : t.err = none := by
            by_contra hne
            have hstop : processItems fuel t = t := by
              cases fuel with
              | zero => rfl
              | succ fuel => exact if_pos (hadv.failed hne)
            change (processItems fuel t).err = none at h
            rw [hstop] at h
            exact hne h
          rw [← hbuf ht]
          exact ih (hadv.length.trans hb) hadv.pos hadv.failed h
        | false => exact ⟨hbuf h, hbuf h ▸ hadv.pos⟩

end redisReader

/-- A reader, and the string its `buf` points to unless it has an error. -/
structure ReaderBlock where
  reader : redisReader
  block : sdshdr

/-- A call of `redisReaderFeed`, with the heap at either of its allocations, or of
`redisReaderGetReply`. -/
inductive ReaderTurn
  | feed (m m' : Malloc) (v : Str)
  | getReply

namespace ReaderTurn

def fed : ReaderTurn → Str
  | feed _ _ v => v
  | getReply => []

/-- The heap has no block for the call. -/
def Refused : ReaderTurn → Prop
  | feed m m' _ => (∃ n, m.block n = none) ∨ ∃ n, m'.block n = none
  | getReply => False

/-- The call on a reader whose buffer is a list. -/
def on (r : redisReader) : ReaderTurn → redisReader
  | feed _ _ v => (r.Feed v).2
  | getReply => r.GetReply.2.2

end ReaderTurn

namespace ReaderBlock

/-- `redisReaderCreateWithFunctions`. -/
def create (m : Malloc) : Except Fault ReaderBlock := (sdsempty m).map fun s => ⟨.create, s⟩

/-- The string after `redisReaderFeed`, which replaces one that is empty and has a lot of space. -/
def fedBlock (b : ReaderBlock) (maxbuf : Nat) (m m' : Malloc) (v : Str) : Except Fault sdshdr :=
  if b.reader.err ≠ none ∨ v = [] then .ok b.block
  else do
    let s ← (if b.reader.buf.length = 0 ∧ maxbuf ≠ 0 ∧ maxbuf < sdsavail b.block then
        (sdsempty m).mapError fun _ => .assert
      else .ok b.block : Except Fault sdshdr)
    sdscatlen m' s v

/-- The string after `redisReaderGetReply`, which discards what has been read. -/
def readBlock (b : ReaderBlock) : Except Fault sdshdr :=
  if b.reader.err ≠ none ∨ b.reader.buf.length = 0 then .ok b.block
  else
    let r := redisReader.processItems (2 * (b.reader.buf.length + 1)) b.reader.setFirst
    if r.err = none ∧ 1024 ≤ r.pos then sdsrange b.block (toInt r.pos) (-1) else .ok b.block

def step (maxbuf : Nat) (b : ReaderBlock) : ReaderTurn → Except Fault ReaderBlock
  | .feed m m' v => (b.fedBlock maxbuf m m' v).map fun s =>
    ⟨ReaderTurn.on b.reader (.feed m m' v), s⟩
  | .getReply => b.readBlock.map fun s => ⟨ReaderTurn.on b.reader .getReply, s⟩

def run (maxbuf : Nat) (b : ReaderBlock) : List ReaderTurn → Except Fault ReaderBlock
  | [] => .ok b
  | t :: ts => do run maxbuf (← b.step maxbuf t) ts

/-- The string holds the bytes of the buffer. -/
structure Backed (b : ReaderBlock) : Prop where
  sound : b.reader.Sound
  holds : b.reader.err = none → Holds b.block b.reader.buf

/-- A call has a result, or the heap has refused a block: then it reports so, or an assertion
fails. -/
def Done (refused : Prop) (r : Except Fault α) (P : α → Prop) : Prop :=
  (∃ a, r = .ok a ∧ P a) ∨ ((r = .error .null ∨ r = .error .assert) ∧ refused)

variable {b : ReaderBlock} {maxbuf : Nat}

theorem Done.map {refused : Prop} {r : Except Fault α} {f : α → β} {P : α → Prop} {Q : β → Prop}
    (h : Done refused r P) (hf : ∀ a, P a → Q (f a)) : Done refused (r.map f) Q := by
  obtain ⟨a, rfl, ha⟩ | ⟨rfl | rfl, hr⟩ := h
  · exact .inl ⟨f a, rfl, hf a ha⟩
  · exact .inr ⟨.inl rfl, hr⟩
  · exact .inr ⟨.inr rfl, hr⟩

theorem Done.bind {refused : Prop} {r : Except Fault α} {f : α → Except Fault β} {P : α → Prop}
    {Q : β → Prop} (hr : Done refused r P) (hf : ∀ a, P a → Done refused (f a) Q) :
    Done refused (r >>= f) Q := by
  obtain ⟨a, rfl, ha⟩ | ⟨rfl | rfl, hr⟩ := hr
  · exact hf a ha
  · exact .inr ⟨.inl rfl, hr⟩
  · exact .inr ⟨.inr rfl, hr⟩

theorem Done.mono {p q : Prop} {r : Except Fault α} {P Q : α → Prop} (hr : Done p r P)
    (hp : p → q) (hP : ∀ a, P a → Q a) : Done q r Q := by
  obtain ⟨a, hok, ha⟩ | ⟨herr, hn⟩ := hr
  · exact .inl ⟨a, hok, hP a ha⟩
  · exact .inr ⟨herr, hp hn⟩

/-- The heap refuses a block to a call on the string. -/
theorem Done.of_answers {r : Except Fault α} {P : α → Prop} {m : Malloc} (hr : Answers m r P) :
    Done (∃ n, m.block n = none) r P := by
  obtain hok | ⟨herr, hn⟩ := hr
  · exact .inl hok
  · exact .inr ⟨.inl herr, hn⟩

theorem fedBlock_done (h : b.Backed) (he : b.reader.err = none) (m m' : Malloc) {v : Str}
    (hlen : b.reader.buf.length + v.length ≤ INT_MAX) :
    Done (ReaderTurn.Refused (.feed m m' v)) (b.fedBlock maxbuf m m' v)
      (Holds · (b.reader.buf ++ v)) := by
  rw [fedBlock]
  split
  · rename_i hv
    rw [hv.resolve_left (not_not.2 he), List.append_nil]
    exact .inl ⟨_, rfl, h.holds he⟩
  have hmax : b.reader.buf.length + v.length < MAX_SIZE := hlen.trans_lt (by decide)
  have hfirst : Done (ReaderTurn.Refused (.feed m m' v))
      (if b.reader.buf.length = 0 ∧ maxbuf ≠ 0 ∧ maxbuf < sdsavail b.block then
        (sdsempty m).mapError fun _ => .assert else .ok b.block) (Holds · b.reader.buf) := by
    split
    · rename_i hz
      rw [List.eq_nil_of_length_eq_zero hz.1]
      obtain ⟨s, hok, hs⟩ | ⟨herr, hn⟩ := sdsempty_answers m
      · rw [hok]
        exact .inl ⟨s, rfl, hs⟩
      · rw [herr]
        exact .inr ⟨.inr rfl, .inl hn⟩
    · exact .inl ⟨_, rfl, h.holds he⟩
  refine hfirst.bind fun s hs => ?_
  exact (Done.of_answers (hs.catlen m' hmax)).mono .inr fun _ => id

/-- A range up to the last byte. -/
theorem rangeOf_last (t : Str) (n : Nat) : rangeOf t n (-1) = t.drop n := by
  have hn : ¬ (n : Int) < 0 := by omega
  have hlast : (max ((t.length : Int) + -1) 0 + 1).toNat = max t.length 1 := by omega
  rw [rangeOf, if_neg hn, if_pos (by decide), hlast, Int.toNat_natCast,
    List.take_of_length_le (Nat.le_max_left _ _)]

theorem readBlock_holds (h : b.Backed) (hlen : b.reader.buf.length ≤ INT_MAX) :
    ∃ s, b.readBlock = .ok s ∧
      (b.reader.GetReply.2.2.err = none → Holds s b.reader.GetReply.2.2.buf) := by
  rw [readBlock, redisReader.GetReply]
  by_cases he : b.reader.err = none
  · by_cases hbuf : b.reader.buf.length = 0
    · rw [if_pos (.inr hbuf), if_neg (not_not.2 he), if_pos hbuf]
      exact ⟨_, rfl, h.holds⟩
    · rw [if_neg (not_or.2 ⟨not_not.2 he, hbuf⟩), if_neg (not_not.2 he), if_neg hbuf]
      obtain ⟨hbset, hpset, heset⟩ := redisReader.setFirst_spec he
      have hb : b.reader.setFirst.buf.length ≤ INT_MAX := hbset ▸ hlen
      have hp : b.reader.setFirst.pos ≤ b.reader.setFirst.buf.length := by
        rw [hbset, hpset]
        exact h.sound.pos
      have hkeeps := redisReader.processItems_buf (2 * (b.reader.buf.length + 1)) hb hp
        heset
      generalize redisReader.processItems (2 * (b.reader.buf.length + 1)) b.reader.setFirst = r
        at hkeeps
      dsimp only
      by_cases hr : r.err = none
      · have hs := h.holds he
        obtain ⟨hkept, hpos⟩ := hkeeps hr
        rw [← hbset, ← hkept] at hs
        rw [← hkept] at hpos hb
        rw [INT_MAX] at hb
        have hout : (if r.err ≠ none then (false, ReplyPtr.NULL, r)
            else if r.discard.rstack = [] then
              (true, r.discard.reply, { r.discard with reply := ReplyPtr.NULL })
            else (true, ReplyPtr.NULL, r.discard)).2.2.buf = r.discard.buf := by
          rw [if_neg (not_not.2 hr)]
          split <;> rfl
        rw [hout, redisReader.discard]
        split
        · rename_i hc
          have hint : toInt r.pos = r.pos := toInt_eq (by omega) (by omega)
          rw [hint, if_pos hc.2, ← rangeOf_last]
          have hstart : IsInt r.pos := ⟨by omega, by omega⟩
          have hstop : IsInt (-1) := ⟨by decide, by decide⟩
          obtain ⟨s, hok, hs⟩ := hs.range (by omega) hstart hstop
          exact ⟨s, hok, fun _ => hs⟩
        · rename_i hc
          rw [if_neg fun hp => hc ⟨hr, hp⟩]
          exact ⟨_, rfl, fun _ => hs⟩
      · rw [if_neg fun hc => hr hc.1, if_pos hr]
        exact ⟨_, rfl, fun hc => absurd hc hr⟩
  · rw [if_pos (.inl he), if_pos he]
    exact ⟨_, rfl, fun hc => absurd hc he⟩

theorem step_backed (maxbuf : Nat) {t : ReaderTurn} (h : b.Backed)
    (hlen : b.reader.buf.length + t.fed.length ≤ INT_MAX) :
    Done t.Refused (b.step maxbuf t) fun b' => b'.Backed ∧ b'.reader = t.on b.reader := by
  cases t with
  | feed m m' v =>
    have hsound := redisReader.Feed_sound h.sound v
    by_cases he : b.reader.err = none
    · refine (fedBlock_done h he m m' hlen).map fun s hs => ⟨⟨hsound, fun _ => ?_⟩, rfl⟩
      change Holds s (b.reader.Feed v).2.buf
      rw [redisReader.Feed, if_pos he]
      exact hs
    · have hfed : b.fedBlock maxbuf m m' v = .ok b.block := if_pos (.inl he)
      refine .inl ⟨⟨(b.reader.Feed v).2, b.block⟩, ?_, ⟨hsound, fun hc => ?_⟩, rfl⟩
      · rw [step, hfed]
        rfl
      · have hsame : (b.reader.Feed v).2 = b.reader := by
          rw [redisReader.Feed, if_neg he]
        change (b.reader.Feed v).2.err = none at hc
        rw [hsame] at hc
        exact absurd hc he
  | getReply =>
    obtain ⟨s, hok, hs⟩ := readBlock_holds h ((Nat.le_add_right _ _).trans hlen)
    have hgets := redisReader.GetReply_gets h.sound ((Nat.le_add_right _ _).trans hlen)
    refine .inl ⟨⟨b.reader.GetReply.2.2, s⟩, ?_, ⟨hgets.sound, hs⟩, rfl⟩
    rw [step, hok]
    rfl

theorem on_length {t : ReaderTurn} (h : b.Backed)
    (hlen : b.reader.buf.length + t.fed.length ≤ INT_MAX) :
    (t.on b.reader).buf.length ≤ b.reader.buf.length + t.fed.length := by
  cases t with
  | feed m m' v => exact redisReader.Feed_length b.reader v
  | getReply =>
    exact (redisReader.GetReply_gets h.sound ((Nat.le_add_right _ _).trans hlen)).length

def fedBytes (ts : List ReaderTurn) : Nat := (ts.map fun t => t.fed.length).sum

theorem run_backed (maxbuf : Nat) {ts : List ReaderTurn} (h : b.Backed)
    (hlen : b.reader.buf.length + fedBytes ts ≤ INT_MAX) :
    Done (∃ t ∈ ts, t.Refused) (b.run maxbuf ts) fun b' =>
      b'.Backed ∧ b'.reader = ts.foldl ReaderTurn.on b.reader := by
  induction ts generalizing b with
  | nil => exact .inl ⟨b, rfl, h, rfl⟩
  | cons t ts ih =>
    have hsum : fedBytes (t :: ts) = t.fed.length + fedBytes ts := rfl
    rw [hsum] at hlen
    have ht : b.reader.buf.length + t.fed.length ≤ INT_MAX := by omega
    have hmem : t.Refused → ∃ t' ∈ t :: ts, t'.Refused := fun hr => ⟨t, List.mem_cons_self, hr⟩
    rw [run, List.foldl_cons]
    refine ((step_backed maxbuf h ht).mono hmem fun _ => id).bind fun b' hb' => ?_
    obtain ⟨hb', hon⟩ := hb'
    have hle := on_length h ht
    rw [← hon] at hle ⊢
    refine (ih hb' (by omega)).mono ?_ fun _ => id
    rintro ⟨t', ht', hr⟩
    exact ⟨t', List.mem_cons_of_mem t ht', hr⟩

/-- Whatever a reader is fed with, in whichever pieces and with replies taken in between, the string
behind it holds the bytes of its buffer and a NUL, inside of its block: reading on a list and
reading in that block go the same way. Only the heap can keep a call from its result. -/
theorem run_holds (m : Malloc) (maxbuf : Nat) {ts : List ReaderTurn}
    (hlen : fedBytes ts ≤ INT_MAX) :
    let r := create m >>= fun b => b.run maxbuf ts
    (∃ b, r = .ok b ∧ b.reader = ts.foldl ReaderTurn.on .create ∧
        (b.reader.err = none → Holds b.block b.reader.buf)) ∨
      ((r = .error .null ∨ r = .error .assert) ∧
        ((∃ n, m.block n = none) ∨ ∃ t ∈ ts, t.Refused)) := by
  intro r
  obtain ⟨s, hok, hs⟩ | ⟨herr, hn⟩ := sdsempty_answers m
  · have hstart : (⟨.create, s⟩ : ReaderBlock).Backed := ⟨redisReader.create_sound, fun _ => hs⟩
    have hrun : r = (⟨.create, s⟩ : ReaderBlock).run maxbuf ts := by
      simp only [r, create, hok]
      rfl
    have hsum : (⟨.create, s⟩ : ReaderBlock).reader.buf.length + fedBytes ts ≤ INT_MAX := by
      rw [Nat.add_comm]
      exact hlen
    rw [hrun]
    obtain ⟨b, hdone, hb, hreader⟩ | ⟨herr, hr⟩ := run_backed maxbuf hstart hsum
    · exact .inl ⟨b, hdone, hreader, hb.holds⟩
    · exact .inr ⟨herr, .inr hr⟩
  · refine .inr ⟨.inl ?_, .inl hn⟩
    simp only [r, create, herr]
    rfl

/-- A reply that comes in two pieces, and the beginning of another one behind it. -/
theorem run_holds_pieces :
    ∃ b, (create .full >>= fun b => b.run (1024 * 16)
        [.feed .full .full "+PO".toList, .getReply, .feed .full .full "NG\r\n:1".toList,
          .getReply]) = .ok b ∧ Holds b.block "+PONG\r\n:1".toList := by
  have hlen : fedBytes [.feed .full .full "+PO".toList, .getReply,
      .feed .full .full "NG\r\n:1".toList, .getReply] ≤ INT_MAX := by decide
  obtain ⟨b, hok, hreader, hb⟩ | ⟨_, ⟨n, hn⟩ | ⟨t, ht, hr⟩⟩ :=
    run_holds .full (1024 * 16) hlen
  · have herr : b.reader.err = none := by
      rw [hreader]
      decide +kernel
    have hbuf : b.reader.buf = "+PONG\r\n:1".toList := by
      rw [hreader]
      decide +kernel
    exact ⟨b, hok, hbuf ▸ hb herr⟩
  · cases hn
  · have hfull : ¬ t.Refused := by
      simp only [List.mem_cons, List.not_mem_nil, or_false] at ht
      obtain rfl | rfl | rfl | rfl := ht
      · rintro (⟨n, hn⟩ | ⟨n, hn⟩) <;> cases hn
      · exact id
      · rintro (⟨n, hn⟩ | ⟨n, hn⟩) <;> cases hn
      · exact id
    exact absurd hr hfull

end ReaderBlock

end SiteOnYourDevice
