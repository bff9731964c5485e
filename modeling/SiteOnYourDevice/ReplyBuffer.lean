import SiteOnYourDevice.ReplyStream

namespace SiteOnYourDevice
open CString StreamReader
set_option relaxedAutoImplicit false
set_option autoImplicit true

theorem strstr_newline_short (h : s.length ≤ 1) : strstr "\r\n".toList s = none := by
  cases s with
  | nil => rfl
  | cons c s =>
    obtain rfl : s = [] := List.eq_nil_of_length_eq_zero (Nat.le_zero.1 (Nat.le_of_succ_le_succ h))
    have hp : ¬ "\r\n".toList <+: [c] := fun hp => absurd hp.length_le (by simp)
    rw [strstr_later hp]
    rfl

theorem newline_prefix_iff : "\r\n".toList <+: c :: d :: s ↔ c = '\r' ∧ d = '\n' := by
  change '\r' :: ['\n'] <+: c :: d :: s ↔ _
  rw [List.cons_prefix_cons, List.cons_prefix_cons, eq_comm, @eq_comm _ '\n']
  exact and_congr_right fun _ => and_iff_left List.nil_prefix

/-- The search finds the first end of a line, from a position on. -/
theorem seekFrom_eq (s : Str) (fuel pos : Nat) (hf : s.length ≤ fuel + pos + 1) :
    seekFrom s (s.length - 1) fuel pos =
      (strstr "\r\n".toList (s.drop pos)).map fun p => pos + p.1.length := by
  induction fuel generalizing pos with
  | zero =>
    rw [strstr_newline_short (by rw [List.length_drop]; omega)]
    rfl
  | succ fuel ih =>
    rw [seekFrom]
    split
    · rename_i hpos
      have h0 : pos < s.length := by omega
      have h1 : pos + 1 < s.length := by omega
      have hdrop : s.drop pos = s[pos] :: s[pos + 1] :: s.drop (pos + 2) := by
        rw [List.drop_eq_getElem_cons h0, List.drop_eq_getElem_cons h1]
      have hnext : s.drop (pos + 1) = s[pos + 1] :: s.drop (pos + 2) :=
        List.drop_eq_getElem_cons h1
      rw [List.getElem?_eq_getElem h0, List.getElem?_eq_getElem h1, hdrop]
      split
      · rename_i hnl
        rw [strstr_here (newline_prefix_iff.2 (hnl.imp Option.some.inj Option.some.inj))]
        rfl
      · rename_i hnl
        have hp : ¬ "\r\n".toList <+: s[pos] :: s[pos + 1] :: s.drop (pos + 2) := by
          rw [newline_prefix_iff]
          exact fun h => hnl (h.imp (congrArg some) (congrArg some))
        rw [strstr_later hp, ih (pos + 1) (by omega), hnext, Option.map_map]
        congr 1
        funext p
        simp only [Function.comp_apply, List.length_cons]
        omega
    · rename_i hpos
      rw [strstr_newline_short (by rw [List.length_drop]; omega)]
      rfl

theorem seekNewline_eq {s : Str} (h : s.length ≤ INT_MAX) :
    seekNewline s = (strstr "\r\n".toList s).map fun p => p.1.length := by
  have hlen : toInt (s.length - 1) = s.length - 1 := by
    apply toInt_eq <;> simp only [INT_MAX] at h <;> omega
  rw [seekNewline, hlen, seekFrom_eq s _ 0 (by omega), List.drop_zero]
  simp only [Nat.zero_add]

/-- A line that is found is the first one. -/
theorem seekNewline_line? {s : Str} (h : s.length ≤ INT_MAX) :
    (seekNewline s).map (fun n => (s.take n, s.drop (n + 2))) = line? s := by
  rw [seekNewline_eq h, line?, Option.map_map]
  cases hs : strstr "\r\n".toList s with
  | none => rfl
  | some p =>
    obtain ⟨a, b⟩ := p
    obtain ⟨rfl, t, rfl⟩ := strstr_eq_some hs
    have hd : (a ++ ("\r\n".toList ++ t)).drop (a.length + 2) = t := by
      rw [← List.drop_drop, List.drop_left]
      rfl
    simp only [Option.map_some, Function.comp_apply, List.take_left, hd]
    rfl

theorem line?_of_seekNewline {s : Str} (h : s.length ≤ INT_MAX) (hs : seekNewline s = some n) :
    line? s = some (s.take n, s.drop (n + 2)) := by
  rw [← seekNewline_line? h, hs]
  rfl

theorem line?_of_seekNewline_none {s : Str} (h : s.length ≤ INT_MAX) (hs : seekNewline s = none) :
    line? s = none := by
  rw [← seekNewline_line? h, hs]
  rfl

namespace redisReader

/-- A reader without its buffer. -/
def view (r : redisReader) : ReplyReading := ⟨r.toReadState, r.buf.drop r.pos⟩

/-- A part of `processItem` does what the turn does, or nothing where there is none. -/
def Does (r : redisReader) (out : Bool × redisReader) : Option ReplyReading → Prop
  | none => out = (false, r)
  | some s => out.2.view = s ∧ out.2.buf.length ≤ r.buf.length ∧
      out.2.pos ≤ out.2.buf.length ∧ (s.state.err = none → out.1 = true)

variable {r : redisReader}

theorem view_withState (r : redisReader) (s : ReadState) :
    (r.withState s).view = ReplyReading.landed s (r.buf.drop r.pos) := by
  rw [withState, ReplyReading.landed]
  split <;> rfl

theorem length_withState (r : redisReader) (s : ReadState) :
    (r.withState s).buf.length ≤ r.buf.length := by
  rw [withState]
  split
  · exact Nat.le_refl _
  · exact Nat.zero_le _

theorem pos_withState (s : ReadState) (h : r.pos ≤ r.buf.length) :
    (r.withState s).pos ≤ (r.withState s).buf.length := by
  rw [withState]
  split
  · exact h
  · exact Nat.le_refl _

/-- What is done with a state is done behind the bytes that were taken. -/
theorem does_withState (s : ReadState) {n : Nat} {u : Str} (hu : (r.buf.drop r.pos).drop n = u)
    (hn : r.pos + n ≤ r.buf.length) :
    r.Does (true, { r with pos := r.pos + n }.withState s) (some (ReplyReading.landed s u)) := by
  refine ⟨?_, length_withState _ s, pos_withState s hn, fun _ => rfl⟩
  rw [view_withState, ← hu, List.drop_drop]

/-- The bytes of a line are in the buffer. -/
theorem line_inside {n : Nat} {rest : Str} (hr : r.pos ≤ r.buf.length)
    (h : line? (r.buf.drop r.pos) = some ((r.buf.drop r.pos).take n, rest)) :
    r.pos + (n + 2) ≤ r.buf.length := by
  have hlen := congrArg List.length (line?_eq_some h).1
  simp only [List.length_append, List.length_cons, List.length_take, List.length_drop] at hlen
  omega

theorem unread_length (hb : r.buf.length ≤ INT_MAX) : (r.buf.drop r.pos).length ≤ INT_MAX := by
  rw [List.length_drop]
  exact (Nat.sub_le _ _).trans hb

theorem processLineItem_does (hb : r.buf.length ≤ INT_MAX) (hp : r.pos ≤ r.buf.length)
    (type : ReplyType) : r.Does (r.processLineItem type) (r.view.lineItem type) := by
  rw [processLineItem, readLine, ReplyReading.lineItem]
  change r.Does _ ((line? (r.buf.drop r.pos)).map _)
  cases hs : seekNewline (r.buf.drop r.pos) with
  | none =>
    rw [line?_of_seekNewline_none (unread_length hb) hs]
    rfl
  | some n =>
    have hl := line?_of_seekNewline (unread_length hb) hs
    rw [hl]
    exact does_withState _ rfl (line_inside hp hl)

theorem processBulkItem_does (hb : r.buf.length ≤ INT_MAX) (hp : r.pos ≤ r.buf.length) :
    r.Does r.processBulkItem r.view.bulkItem := by
  rw [processBulkItem, ReplyReading.bulkItem]
  change r.Does _ ((line? (r.buf.drop r.pos)).bind _)
  cases hs : seekNewline (r.buf.drop r.pos) with
  | none =>
    rw [line?_of_seekNewline_none (unread_length hb) hs]
    rfl
  | some n =>
    have hl := line?_of_seekNewline (unread_length hb) hs
    rw [hl, Option.bind_some]
    simp only
    split
    · exact does_withState _ rfl (line_inside hp hl)
    · generalize readLongLong ((r.buf.drop r.pos).take n) = len
      have hiff : r.pos + (n + 2 + (len.toNat + 2)) ≤ r.buf.length ↔
          len.toNat + 2 ≤ ((r.buf.drop r.pos).drop (n + 2)).length := by
        rw [List.length_drop, List.length_drop]
        omega
      by_cases hlen : r.pos + (n + 2 + (len.toNat + 2)) ≤ r.buf.length
      · rw [if_pos hlen, if_pos (hiff.1 hlen)]
        refine does_withState _ ?_ hlen
        simp only [List.drop_drop, Nat.add_assoc]
      · rw [if_neg hlen, if_neg (mt hiff.2 hlen)]
        rfl

theorem processMultiBulkItem_does (hb : r.buf.length ≤ INT_MAX) (hp : r.pos ≤ r.buf.length) :
    r.Does r.processMultiBulkItem r.view.arrayItem := by
  rw [processMultiBulkItem, ReplyReading.arrayItem]
  change r.Does _ (if r.rstack.length = 9 then _ else _)
  split
  · exact ⟨view_withState _ _, length_withState _ _, pos_withState _ hp,
      fun h => absurd h (Option.some_ne_none _)⟩
  · rw [readLine]
    change r.Does _ ((line? (r.buf.drop r.pos)).map _)
    cases hs : seekNewline (r.buf.drop r.pos) with
    | none =>
      rw [line?_of_seekNewline_none (unread_length hb) hs]
      rfl
    | some n =>
      have hl := line?_of_seekNewline (unread_length hb) hs
      rw [hl]
      exact does_withState _ rfl (line_inside hp hl)

theorem processTyped_does (hb : r.buf.length ≤ INT_MAX) (hp : r.pos ≤ r.buf.length)
    (type : ReplyType) : r.Does (r.processTyped type) (r.view.typed type) := by
  cases type with
  | ERROR => exact processLineItem_does hb hp .ERROR
  | STATUS => exact processLineItem_does hb hp .STATUS
  | INTEGER => exact processLineItem_does hb hp .INTEGER
  | STRING => exact processBulkItem_does hb hp
  | ARRAY => exact processMultiBulkItem_does hb hp
  | NIL =>
    exact ⟨view_withState _ _, length_withState _ _, pos_withState _ hp,
      fun h => absurd h (Option.some_ne_none _)⟩

/-- What is done comes by turns, and either there may be more of them, or there is none. -/
structure Advances (r : redisReader) (out : Bool × redisReader) : Prop where
  length : out.2.buf.length ≤ r.buf.length
  pos : out.2.pos ≤ out.2.buf.length
  settle : ReplyReading.reader.settle r.view = ReplyReading.reader.settle out.2.view
  more : out.1 = true → out.2.view.rank < r.view.rank
  rest : out.1 = false → out.2.view.turn = none
  failed : out.2.err ≠ none → out.2.rstack = []

theorem Advances.of_turn {t : redisReader} {out : Bool × redisReader} (h : t.Advances out)
    (ht : r.view.turn = some t.view) (hb : t.buf.length ≤ r.buf.length) : r.Advances out where
  length := h.length.trans hb
  pos := h.pos
  settle := (Reader.settle_of_turn ht).trans h.settle
  more hok := (h.more hok).trans (ReplyReading.rank_turn ht)
  rest := h.rest
  failed := h.failed

theorem processTyped_advances (hb : r.buf.length ≤ INT_MAX) (hp : r.pos ≤ r.buf.length)
    (he : r.err = none) {type : ReplyType} {elements idx : Int} {rest : List redisReadTask}
    (hr : r.rstack = ⟨some type, elements, idx⟩ :: rest) : r.Advances (r.processTyped type) := by
  have hturn : r.view.turn = r.view.typed type := ReplyReading.turn_item he hr
  have hdoes := processTyped_does hb hp type
  cases hs : r.view.typed type with
  | none =>
    rw [hs] at hdoes hturn
    rw [show r.processTyped type = (false, r) from hdoes]
    exact ⟨Nat.le_refl _, hp, rfl, nofun, fun _ => hturn, fun h => absurd he h⟩
  | some s =>
    rw [hs] at hdoes hturn
    obtain ⟨hview, hlen, hpos, hok⟩ := hdoes
    refine ⟨hlen, hpos, ?_, ?_, ?_, ?_⟩
    · rw [hview]
      exact Reader.settle_of_turn hturn
    · rw [hview]
      exact fun _ => ReplyReading.rank_turn hturn
    · rw [hview]
      intro hfalse
      apply ReplyReading.turn_of_err
      intro hnone
      rw [hok hnone] at hfalse
      cases hfalse
    · intro hne
      have hstate : (r.processTyped type).2.toReadState = s.state := congrArg ReplyReading.state hview
      rw [hstate] at hne ⊢
      exact ReplyReading.turn_failed hturn hne

theorem processItem_advances (hb : r.buf.length ≤ INT_MAX) (hp : r.pos ≤ r.buf.length)
    (he : r.err = none) (hr : r.rstack ≠ []) : r.Advances r.processItem := by
  cases hstack : r.rstack with
  | nil => exact absurd hstack hr
  | cons cur rest =>
    obtain ⟨type, elements, idx⟩ := cur
    cases type with
    | some type =>
      have hitem : r.processItem = r.processTyped type := by
        rw [processItem, hstack]
      rw [hitem]
      exact processTyped_advances hb hp he hstack
    | none =>
      by_cases hpos : r.pos < r.buf.length
      · have hbyte : r.buf[r.pos]? = some r.buf[r.pos] := List.getElem?_eq_getElem hpos
        have hunread : r.view.unread = r.buf[r.pos] :: r.buf.drop (r.pos + 1) :=
          List.drop_eq_getElem_cons hpos
        have hturn := ReplyReading.turn_byte (s := r.view) he hstack hunread
        cases ht : replyType r.buf[r.pos] with
        | some type =>
          let t : redisReader :=
            { r with rstack := ⟨some type, elements, idx⟩ :: rest, pos := r.pos + 1 }
          have hitem : r.processItem = t.processTyped type := by
            rw [processItem, hstack]
            simp only [hbyte, ht]
            rfl
          have hadv : t.Advances (t.processTyped type) := processTyped_advances (r := t) hb hpos he rfl
          rw [hitem]
          rw [ht] at hturn
          exact hadv.of_turn hturn (Nat.le_refl _)
        | none =>
          have hitem : r.processItem =
              (false, r.withState (.setErrorProtocolByte r.buf[r.pos])) := by
            rw [processItem, hstack]
            simp only [hbyte, ht]
          rw [hitem]
          rw [ht] at hturn
          refine ⟨length_withState _ _, pos_withState _ hp, ?_, nofun, fun _ => ?_, fun _ => rfl⟩
          · rw [Reader.settle_of_turn hturn, view_withState]
            rfl
          · rw [view_withState]
            exact ReplyReading.turn_of_err nofun
      · have hbyte : r.buf[r.pos]? = none := List.getElem?_eq_none (Nat.le_of_not_lt hpos)
        have hunread : r.view.unread = [] := List.drop_eq_nil_of_le (Nat.le_of_not_lt hpos)
        have hitem : r.processItem = (false, r) := by
          rw [processItem, hstack]
          simp only [hbyte]
        rw [hitem]
        exact ⟨Nat.le_refl _, hp, rfl, nofun, fun _ => ReplyReading.turn_starved hstack hunread,
          fun h => absurd he h⟩

/-- The loop makes all turns that can be made. -/
theorem processItems_view {fuel : Nat} (hb : r.buf.length ≤ INT_MAX) (hp : r.pos ≤ r.buf.length)
    (he : r.err ≠ none → r.rstack = []) (hf : r.view.rank < fuel) :
    (processItems fuel r).view = ReplyReading.reader.settle r.view ∧
      (processItems fuel r).buf.length ≤ r.buf.length ∧
      (processItems fuel r).pos ≤ (processItems fuel r).buf.length ∧
      ((processItems fuel r).err ≠ none → (processItems fuel r).rstack = []) := by
  induction fuel generalizing r with
  | zero => exact absurd hf (Nat.not_lt_zero _)
  | succ fuel ih =>
    rw [processItems]
    split
    · rename_i hr
      exact ⟨(Reader.settle_of_rest (ReplyReading.turn_of_rstack_nil hr)).symm, Nat.le_refl _, hp, he⟩
    · rename_i hr
      have hadv := processItem_advances hb hp (not_not.1 (mt he hr)) hr
      cases hitem : r.processItem with
      | mk ok t =>
        rw [hitem] at hadv
        cases ok with
        | true =>
          obtain ⟨hview, hlen, hpos, hfail⟩ :=
            ih (hadv.length.trans hb) hadv.pos hadv.failed (Nat.lt_of_lt_of_le (hadv.more rfl)
              (Nat.le_of_lt_succ hf))
          exact ⟨hview.trans hadv.settle.symm, hlen.trans hadv.length, hpos, hfail⟩
        | false =>
          refine ⟨?_, hadv.length, hadv.pos, hadv.failed⟩
          rw [hadv.settle]
          exact (Reader.settle_of_rest (hadv.rest rfl)).symm

/-- A reader between two calls, without its buffer. -/
def reading (r : redisReader) : ReplyReading := r.view.begun

/-- What holds of a reader between two calls. -/
structure Sound (r : redisReader) : Prop where
  failed : r.err ≠ none → r.rstack = []
  pos : r.pos ≤ r.buf.length
  starved : r.buf = [] → r.reading.turn = none

theorem reading_of_err (h : r.err ≠ none) : r.reading = r.view := if_neg fun hs => h hs.1

theorem reading_of_rstack (h : r.rstack ≠ []) : r.reading = r.view := if_neg fun hs => h hs.2

theorem reading_rstack (h : r.err = none) : r.reading.state.rstack ≠ [] := by
  rw [reading, ReplyReading.begun]
  split
  · exact List.cons_ne_nil _ _
  · rename_i hs
    exact fun hr => hs ⟨h, hr⟩

theorem reading_err (r : redisReader) : r.reading.state.err = r.err := by
  rw [reading, ReplyReading.begun]
  split <;> rfl

theorem reading_unread (r : redisReader) : r.reading.unread = r.buf.drop r.pos := by
  rw [reading, ReplyReading.begun]
  split <;> rfl

theorem view_setFirst (h : r.err = none) : r.setFirst.view = r.reading := by
  rw [setFirst, reading, ReplyReading.begun]
  by_cases hr : r.rstack = []
  · rw [if_pos hr, if_pos ⟨h, hr⟩]
    rfl
  · rw [if_neg hr, if_neg fun hs => hr hs.2]

theorem view_discard (r : redisReader) : r.discard.view = r.view := by
  rw [discard]
  split <;> rfl

theorem length_discard (r : redisReader) : r.discard.buf.length ≤ r.buf.length := by
  rw [discard]
  split
  · rw [List.length_drop]
    exact Nat.sub_le _ _
  · exact Nat.le_refl _

/-- Of what has been read less than 1024 bytes are kept. -/
theorem discard_near (r : redisReader) :
    r.discard.buf.length < 1024 + (r.discard.buf.drop r.discard.pos).length := by
  rw [discard]
  split
  · rw [List.drop_zero]
    exact Nat.lt_add_of_pos_left (by decide)
  · rename_i hpos
    rw [List.length_drop]
    omega

theorem pos_discard (h : r.pos ≤ r.buf.length) : r.discard.pos ≤ r.discard.buf.length := by
  rw [discard]
  split
  · exact Nat.zero_le _
  · exact h

/-- What a call returns, and what it leaves. -/
structure Gets (r : redisReader) (out : Bool × ReplyPtr × redisReader) : Prop where
  ok : out.1 = true ↔ (ReplyReading.reader.settle r.reading).state.err = none
  reply : (ReplyReading.reader.settle r.reading).ready.elim
    (out.2.1 = .NULL ∧ out.2.2.reading = ReplyReading.reader.settle r.reading)
    (fun p => out.2.1 = p.1 ∧ out.2.2.reading = p.2)
  sound : out.2.2.Sound
  length : out.2.2.buf.length ≤ r.buf.length
  near : out.1 = true → out.2.2.buf.length < 1024 + out.2.2.reading.unread.length

theorem setFirst_spec (he : r.err = none) :
    r.setFirst.buf = r.buf ∧ r.setFirst.pos = r.pos ∧
      (r.setFirst.err ≠ none → r.setFirst.rstack = []) := by
  rw [setFirst]
  split
  · exact ⟨rfl, rfl, fun h => absurd he h⟩
  · exact ⟨rfl, rfl, fun h => absurd he h⟩

theorem Gets.failed {out : Bool × ReplyPtr × redisReader} (h : r.Gets out) (hok : out.1 = false) :
    out.2.2.err ≠ none := by
  have he : (ReplyReading.reader.settle r.reading).state.err ≠ none := by
    intro hnone
    rw [h.ok.2 hnone] at hok
    cases hok
  have hready : (ReplyReading.reader.settle r.reading).ready = none := if_neg fun hs => he hs.1
  have hreply := h.reply
  rw [hready] at hreply
  rw [← reading_err, hreply.2]
  exact he

/-- What the call returns behind its loop. -/
def emitted (t : redisReader) : Bool × ReplyPtr × redisReader :=
  if t.err ≠ none then (false, .NULL, t)
  else if t.discard.rstack = [] then
    (true, t.discard.reply, { t.discard with reply := .NULL })
  else (true, .NULL, t.discard)

theorem emitted_gets {t : redisReader} (hview : t.view = ReplyReading.reader.settle r.reading)
    (hlen : t.buf.length ≤ r.buf.length) (hpos : t.pos ≤ t.buf.length)
    (hfail : t.err ≠ none → t.rstack = []) : r.Gets t.emitted := by
  have herr : (ReplyReading.reader.settle r.reading).state.err = t.err :=
    congrArg (fun s => s.state.err) hview.symm
  have hrstack : (ReplyReading.reader.settle r.reading).state.rstack = t.rstack :=
    congrArg (fun s => s.state.rstack) hview.symm
  have hrest : (ReplyReading.reader.settle r.reading).turn = none :=
    Reader.turn_settle (R := ReplyReading.reader) r.reading
  have hd : t.discard.view = ReplyReading.reader.settle r.reading := (view_discard t).trans hview
  have hdrstack : t.discard.rstack = t.rstack :=
    (congrArg (fun s => s.state.rstack) hd).trans hrstack
  have hderr : t.discard.err = t.err := (congrArg (fun s => s.state.err) hd).trans herr
  rw [emitted]
  by_cases he : t.err = none
  · rw [if_neg (not_not.2 he)]
    by_cases hr : t.rstack = []
    · have hread : { t.discard with reply := .NULL }.reading =
          ⟨{ t.discard.view.state with rstack := [firstTask], reply := .NULL },
            t.discard.view.unread⟩ :=
        if_pos ⟨hderr.trans he, hdrstack.trans hr⟩
      rw [if_pos (hdrstack.trans hr)]
      refine ⟨iff_of_true rfl (herr.trans he), ?_,
        ⟨fun h => absurd (hderr.trans he) h, pos_discard hpos, ?_⟩,
        (length_discard t).trans hlen, fun _ => ?_⟩
      · rw [ReplyReading.ready, if_pos ⟨herr.trans he, hrstack.trans hr⟩]
        exact ⟨congrArg (fun s => s.state.reply) hd, hread.trans (by rw [hd])⟩
      · intro hbuf
        rw [hread]
        refine ReplyReading.turn_starved rfl ?_
        change t.discard.buf.drop t.discard.pos = []
        rw [show t.discard.buf = [] from hbuf, List.drop_nil]
      · rw [reading_unread]
        exact discard_near t
    · have hread : t.discard.reading = ReplyReading.reader.settle r.reading :=
        (reading_of_rstack (hdrstack.symm ▸ hr)).trans hd
      rw [if_neg (hdrstack.symm ▸ hr)]
      refine ⟨iff_of_true rfl (herr.trans he), ?_,
        ⟨fun h => absurd (hderr.trans he) h, pos_discard hpos, ?_⟩,
        (length_discard t).trans hlen, fun _ => ?_⟩
      · rw [ReplyReading.ready, if_neg fun h => hr (hrstack.symm.trans h.2)]
        exact ⟨rfl, hread⟩
      · intro _
        rw [hread]
        exact hrest
      · rw [reading_unread]
        exact discard_near t
  · rw [if_pos he]
    have hread : t.reading = ReplyReading.reader.settle r.reading := (reading_of_err he).trans hview
    refine ⟨iff_of_false nofun fun h => he (herr.symm.trans h), ?_, ⟨hfail, hpos, ?_⟩, hlen, nofun⟩
    · rw [ReplyReading.ready, if_neg fun h => he (herr.symm.trans h.1)]
      exact ⟨rfl, hread⟩
    · intro _
      rw [hread]
      exact hrest

theorem GetReply_gets (hs : r.Sound) (hb : r.buf.length ≤ INT_MAX) : r.Gets r.GetReply := by
  have hready (h : r.err = none) : r.reading.ready = none :=
    if_neg fun hr => reading_rstack h hr.2
  by_cases he : r.err = none
  · by_cases hbuf : r.buf = []
    · have hget : r.GetReply = (true, .NULL, r) := by
        rw [GetReply, if_neg (not_not.2 he), if_pos (List.length_eq_zero_iff.2 hbuf)]
      have hsettle : ReplyReading.reader.settle r.reading = r.reading :=
        Reader.settle_of_rest (hs.starved hbuf)
      rw [hget]
      refine ⟨?_, ?_, hs, Nat.le_refl _, fun _ => ?_⟩
      · rw [hsettle, reading_err]
        exact iff_of_true rfl he
      · rw [hsettle, hready he]
        exact ⟨rfl, rfl⟩
      · rw [hbuf]
        exact Nat.add_pos_left (by decide) _
    · have hf : r.setFirst.view.rank < 2 * (r.buf.length + 1) := by
        have hle : (r.buf.drop r.pos).length ≤ r.buf.length := by
          rw [List.length_drop]
          exact Nat.sub_le _ _
        rw [view_setFirst he, ReplyReading.rank, reading_err, if_pos he, reading_unread,
          if_neg (reading_rstack he)]
        omega
      obtain ⟨hbset, hpset, heset⟩ := setFirst_spec he
      have hpos : r.setFirst.pos ≤ r.setFirst.buf.length := by
        rw [hbset, hpset]
        exact hs.pos
      obtain ⟨hview, hlen, hpos, hfail⟩ := processItems_view (hbset ▸ hb) hpos heset hf
      rw [view_setFirst he] at hview
      rw [hbset] at hlen
      rw [GetReply, if_neg (not_not.2 he), if_neg (mt List.length_eq_zero_iff.1 hbuf)]
      exact emitted_gets hview hlen hpos hfail
  · have hget : r.GetReply = (false, .NULL, r) := by
      rw [GetReply, if_pos he]
    have hview := reading_of_err he
    have hsettle : ReplyReading.reader.settle r.reading = r.reading := by
      rw [hview]
      exact Reader.settle_of_rest (ReplyReading.turn_of_err he)
    rw [hget]
    refine ⟨?_, ?_, hs, Nat.le_refl _, nofun⟩
    · rw [hsettle, reading_err]
      exact iff_of_false nofun he
    · have hready : r.reading.ready = none := by
        rw [hview]
        exact if_neg fun hr => he hr.1
      rw [hsettle, hready]
      exact ⟨rfl, rfl⟩

theorem Feed_reading (hs : r.Sound) (v : Str) : (r.Feed v).2.reading = r.reading.feed v := by
  rw [Feed]
  split
  · rename_i he
    have hview : { r with buf := r.buf ++ v }.view = ⟨r.toReadState, r.buf.drop r.pos ++ v⟩ := by
      rw [view, List.drop_append_of_le_length hs.pos]
    rw [reading, reading, hview, ReplyReading.begun, ReplyReading.begun]
    by_cases hr : r.rstack = []
    · rw [if_pos ⟨he, hr⟩, if_pos ⟨he, hr⟩]
      exact (if_pos he).symm
    · rw [if_neg fun h => hr h.2, if_neg fun h => hr h.2]
      exact (if_pos he).symm
  · rename_i he
    rw [ReplyReading.feed_of_failed]
    rw [reading_err]
    exact he

theorem Feed_sound (hs : r.Sound) (v : Str) : (r.Feed v).2.Sound := by
  refine ⟨?_, ?_, ?_⟩
  · rw [Feed]
    split
    · exact hs.failed
    · exact hs.failed
  · rw [Feed]
    split
    · rw [List.length_append]
      exact Nat.le_add_right_of_le hs.pos
    · exact hs.pos
  · rw [Feed_reading hs]
    intro hbuf
    have hnil : r.buf = [] ∧ (r.err = none → v = []) := by
      rw [Feed] at hbuf
      split at hbuf
      · exact (List.append_eq_nil_iff.1 hbuf).imp_right fun h _ => h
      · rename_i he
        exact ⟨hbuf, fun h => absurd h he⟩
    by_cases he : r.err = none
    · have hfeed : r.reading.feed [] = r.reading := ReplyReading.reader.feed_nil r.reading
      rw [hnil.2 he, hfeed]
      exact hs.starved hnil.1
    · rw [ReplyReading.feed_of_failed (by rw [reading_err]; exact he)]
      exact hs.starved hnil.1

theorem create_sound : create.Sound := ⟨fun h => absurd rfl h, Nat.le_refl _, fun _ => rfl⟩

end redisReader

end SiteOnYourDevice
