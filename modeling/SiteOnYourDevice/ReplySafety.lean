import SiteOnYourDevice.RedisSession

namespace SiteOnYourDevice
open CString StreamReader Transition
set_option relaxedAutoImplicit false
set_option autoImplicit true

namespace ReplyPtr

/-- The object at a place. -/
def at? : List Nat → ReplyPtr → Option ReplyPtr
  | [], r => some r
  | i :: place, .array element => element[i]?.bind (at? place)
  | _ :: _, _ => none

variable {obj r r' : ReplyPtr} {element : List ReplyPtr} {place : List Nat}

theorem at?_store (h : store obj place r = some r') : at? place r' = some obj := by
  induction place generalizing r r' with
  | nil =>
    cases h
    rfl
  | cons i place ih =>
    cases r with
    | array element =>
      obtain ⟨x, hx, hstore⟩ := Option.bind_eq_some_iff.1 h
      obtain ⟨x', hx', rfl⟩ := Option.map_eq_some_iff.1 hstore
      have hi : i < element.length := (List.getElem?_eq_some_iff.1 hx).1
      rw [at?, List.getElem?_set_self hi, Option.bind_some, ih hx']
    | NULL | string | unallocated | integer | nil | status | error => cases h

/-- Storing an object below an array keeps the array, and its length. -/
theorem at?_store_below {q : List Nat} {j : Nat} (h : store obj (q ++ j :: place) r = some r')
    (ha : at? q r = some (.array element)) :
    ∃ element', at? q r' = some (.array element') ∧ element'.length = element.length := by
  induction q generalizing r r' with
  | nil =>
    cases ha
    obtain ⟨x, hx, hstore⟩ := Option.bind_eq_some_iff.1 h
    obtain ⟨x', hx', rfl⟩ := Option.map_eq_some_iff.1 hstore
    exact ⟨_, rfl, List.length_set⟩
  | cons i q ih =>
    cases r with
    | array xs =>
      obtain ⟨x, hx, hstore⟩ := Option.bind_eq_some_iff.1 h
      obtain ⟨x', hx', rfl⟩ := Option.map_eq_some_iff.1 hstore
      have hi : i < xs.length := (List.getElem?_eq_some_iff.1 hx).1
      rw [at?, hx, Option.bind_some] at ha
      obtain ⟨element', hat, hlen⟩ := ih hx' ha
      refine ⟨element', ?_, hlen⟩
      rw [at?, List.getElem?_set_self hi, Option.bind_some, hat]
    | NULL | string | unallocated | integer | nil | status | error => cases h

/-- An element of an array that is there can be stored. -/
theorem store_isSome_of_at? {i : Nat} (ha : at? place r = some (.array element))
    (hi : i < element.length) : (store obj (place ++ [i]) r).isSome = true := by
  induction place generalizing r with
  | nil =>
    cases ha
    have hget : element[i]? = some element[i] := List.getElem?_eq_getElem hi
    simp only [List.nil_append, store, hget, Option.bind_some, Option.map_some, Option.isSome_some]
  | cons j place ih =>
    cases r with
    | array xs =>
      obtain ⟨x, hx, hat⟩ := Option.bind_eq_some_iff.1 ha
      rw [List.cons_append, store, hx, Option.bind_some, Option.isSome_map]
      exact ih hat
    | NULL | string | unallocated | integer | nil | status | error => cases ha

end ReplyPtr

/-- Below each task stands the one of its array, which is there with as many elements as were
announced, and the index of the task is one of them. -/
def Placed (reply : ReplyPtr) : List redisReadTask → Prop
  | cur :: prv :: rest =>
    (prv.type = some .ARRAY ∧ 0 ≤ cur.idx ∧ cur.idx < prv.elements ∧
      ∃ element, reply.at? (placeOf (prv :: rest)) = some (.array element) ∧
        element.length = prv.elements) ∧ Placed reply (prv :: rest)
  | _ => True

variable {reply reply' obj : ReplyPtr} {cur prv : redisReadTask} {rstack rest : List redisReadTask}

theorem placed_mono (h : Placed reply rstack)
    (hp : ∀ q j w element, placeOf rstack = q ++ j :: w → reply.at? q = some (.array element) →
      ∃ element', reply'.at? q = some (.array element') ∧ element'.length = element.length) :
    Placed reply' rstack := by
  induction rstack with
  | nil => trivial
  | cons cur rstack ih =>
    cases rstack with
    | nil => trivial
    | cons prv rest =>
      obtain ⟨⟨htype, hzero, hidx, element, hat, hlen⟩, hrest⟩ := h
      obtain ⟨element', hat', hlen'⟩ := hp _ _ [] element (placeOf_cons cur prv rest) hat
      refine ⟨⟨htype, hzero, hidx, element', hat', by rw [hlen', hlen]⟩, ih hrest ?_⟩
      intro q j w element hq
      exact hp q j (w ++ [cur.idx.toNat]) element (by
        rw [placeOf_cons, hq, List.append_assoc]
        rfl)

/-- Storing the object of the last task leaves the arrays below it. -/
theorem placed_store (h : Placed reply rstack)
    (hs : obj.store (placeOf rstack) reply = some reply') : Placed reply' rstack := by
  apply placed_mono h
  intro q j w element hq hat
  rw [hq] at hs
  exact ReplyPtr.at?_store_below hs hat

/-- The object of the last task has its place. -/
theorem store_placed (h : Placed reply rstack) (obj : ReplyPtr) :
    ∃ reply', obj.store (placeOf rstack) reply = some reply' := by
  apply Option.isSome_iff_exists.1
  cases rstack with
  | nil => rfl
  | cons cur rstack =>
    cases rstack with
    | nil => rfl
    | cons prv rest =>
      obtain ⟨⟨_, hzero, hidx, element, hat, hlen⟩, _⟩ := h
      rw [placeOf_cons]
      exact ReplyPtr.store_isSome_of_at? hat (by omega)

/-- No assertion fails on the way to the next task, whose type is not known yet. -/
theorem moveToNextTask_placed (h : Placed reply rstack) :
    ∃ rstack', moveToNextTask rstack = some rstack' ∧ Placed reply rstack' ∧
      rstack'.length ≤ rstack.length ∧ ∀ cur ∈ rstack'.head?, cur.type = none := by
  induction rstack with
  | nil => exact ⟨[], rfl, trivial, Nat.le_refl _, nofun⟩
  | cons cur rstack ih =>
    cases rstack with
    | nil => exact ⟨[], rfl, trivial, Nat.zero_le _, nofun⟩
    | cons prv rest =>
      obtain ⟨⟨htype, hzero, hidx, harray⟩, hrest⟩ := h
      rw [moveToNextTask, if_pos htype]
      by_cases hlast : cur.idx = prv.elements - 1
      · rw [if_pos hlast]
        obtain ⟨rstack', hmove, hplaced, hlen, hhead⟩ := ih hrest
        exact ⟨rstack', hmove, hplaced, hlen.trans (Nat.le_succ _), hhead⟩
      · rw [if_neg hlast, if_pos hidx]
        refine ⟨_, rfl, ⟨⟨htype, ?_, ?_, harray⟩, hrest⟩, Nat.le_refl _, ?_⟩
        · simp only
          omega
        · simp only
          omega
        · intro cur hcur
          cases hcur
          rfl

/-- No array announces more elements than an `int` can hold. -/
def Modest (v : Str) : Prop :=
  ∀ line : Str, '*' :: (line ++ CRLF) <:+: v → readLongLong line ≤ INT_MAX

theorem replyType_spec {p : Char} {type : ReplyType} (h : replyType p = some type) :
    type ≠ .NIL ∧ (type = .ARRAY → p = '*') := by
  rw [replyType.eq_def] at h
  split at h <;> cases h <;> exact ⟨nofun, by first | exact fun _ => rfl | nofun⟩

theorem Modest.of_append {v u : Str} (h : Modest (v ++ u)) : Modest v :=
  fun line hl => h line (hl.trans (List.prefix_append v u).isInfix)

namespace ReplyReading

/-- A reader does not leave its arrays: it has nine tasks at most, each of them has its place, and
nothing has gone wrong but for the protocol. -/
structure Safe (v : Str) (s : ReplyReading) : Prop where
  depth : s.state.rstack.length ≤ 9
  defined : s.state.err ≠ some .undefined
  placed : Placed s.state.reply s.state.rstack
  known : ∀ cur ∈ s.state.rstack.head?, cur.type ≠ some .NIL
  unread : s.state.err = none → ∃ pre, v = pre ++ s.unread ∧
    ∀ cur ∈ s.state.rstack.head?, cur.type = some .ARRAY → ∃ p, pre = p ++ ['*']

variable {s s' : ReplyReading} {v w u : Str} {state : ReadState}

theorem safe_failed (hr : state.rstack = []) (he : state.err ≠ none)
    (hd : state.err ≠ some .undefined) (v u : Str) : Safe v (landed state u) := by
  rw [landed, if_neg he]
  refine ⟨?_, hd, ?_, ?_, fun h => absurd h he⟩
  · rw [hr]
    exact Nat.zero_le _
  · rw [hr]
    trivial
  · rw [hr]
    exact fun _ hcur => absurd hcur.symm (Option.some_ne_none _)

theorem safe_created (h : s.Safe v) (he : s.state.err = none) (obj : ReplyPtr)
    (hu : s.unread = w ++ u) : Safe v (landed (s.state.created obj) u) := by
  obtain ⟨reply', hstore⟩ := store_placed h.placed obj
  obtain ⟨rstack', hmove, hplaced, hlen, hhead⟩ := moveToNextTask_placed (placed_store h.placed hstore)
  have hcreated : s.state.created obj = { s.state with reply := reply', rstack := rstack' } := by
    rw [ReadState.created, hstore, hmove]
  rw [hcreated, landed, if_pos he]
  refine ⟨hlen.trans h.depth, h.defined, hplaced, ?_, fun _ => ?_⟩
  · intro cur hcur
    rw [hhead cur hcur]
    exact fun htype => absurd htype.symm (Option.some_ne_none _)
  · obtain ⟨pre, hpre, _⟩ := h.unread he
    refine ⟨pre ++ w, ?_, ?_⟩
    · rw [hpre, hu, List.append_assoc]
    · intro cur hcur htype
      rw [hhead cur hcur] at htype
      cases htype

theorem safe_openArray (h : s.Safe v) (he : s.state.err = none) {n : Int} (hpos : 0 < n)
    (hn : n ≤ INT_MAX) {cur : redisReadTask} {rest : List redisReadTask}
    (hr : s.state.rstack = cur :: rest) (htype : cur.type = some .ARRAY) (hlen : rest.length < 8)
    (hu : s.unread = w ++ u) : Safe v (landed (s.state.openArray n) u) := by
  have hint : toInt n = n := by
    apply toInt_eq <;> simp only [INT_MAX] at hn <;> omega
  have hplaced := h.placed
  rw [hr] at hplaced
  obtain ⟨reply', hstore⟩ := store_placed hplaced (ReadState.arrayObject n)
  have hopen : s.state.openArray n = { s.state with
      reply := reply', rstack := ⟨none, -1, 0⟩ :: { cur with elements := n } :: rest } := by
    rw [ReadState.openArray, hr]
    simp only
    rw [hstore, hint]
  have hplace : placeOf ({ cur with elements := n } :: rest) = placeOf (cur :: rest) :=
    placeOf_retype cur.type cur.type n cur.elements cur.idx rest
  have hbelow : Placed reply' ({ cur with elements := n } :: rest) := by
    have hstored := placed_store hplaced hstore
    cases rest with
    | nil => trivial
    | cons prv rest => exact hstored
  rw [hopen, landed, if_pos he]
  refine ⟨?_, h.defined, ⟨⟨htype, Int.le_refl _, hpos, ?_⟩, hbelow⟩, ?_, fun _ => ?_⟩
  · simp only [List.length_cons]
    omega
  · refine ⟨List.replicate n.toNat .NULL, ?_, ?_⟩
    · rw [hplace, ReplyPtr.at?_store hstore, ReadState.arrayObject, hint, if_neg (by omega)]
    · rw [List.length_replicate]
      exact Int.toNat_of_nonneg (Int.le_of_lt hpos)
  · intro cur hcur
    cases hcur
    exact fun htype => absurd htype.symm (Option.some_ne_none _)
  · obtain ⟨pre, hpre, _⟩ := h.unread he
    refine ⟨pre ++ w, ?_, ?_⟩
    · rw [hpre, hu, List.append_assoc]
    · intro cur hcur htype
      cases hcur
      cases htype

theorem safe_arrayHeader (h : s.Safe v) (he : s.state.err = none) {n : Int} (hn : n ≤ INT_MAX)
    {cur : redisReadTask} {rest : List redisReadTask} (hr : s.state.rstack = cur :: rest)
    (htype : cur.type = some .ARRAY) (hlen : rest.length < 8) (hu : s.unread = w ++ u) :
    Safe v (landed (s.state.arrayHeader n) u) := by
  rw [ReadState.arrayHeader]
  split
  · exact safe_created h he .nil hu
  · split
    · rename_i hpos
      exact safe_openArray h he hpos hn hr htype hlen hu
    · exact safe_created h he _ hu

theorem safe_typed {type : ReplyType} {elements idx : Int} {rest : List redisReadTask}
    (h : s.Safe v) (hm : Modest v) (he : s.state.err = none)
    (hr : s.state.rstack = ⟨some type, elements, idx⟩ :: rest) (ht : s.typed type = some s') :
    s'.Safe v := by
  have hline {type : ReplyType} (ht : s.lineItem type = some s') : s'.Safe v := by
    obtain ⟨⟨a, b⟩, hl, rfl⟩ := Option.map_eq_some_iff.1 ht
    exact safe_created h he _ (w := a ++ CRLF) (by
      rw [(line?_eq_some hl).1, List.append_assoc]
      rfl)
  cases type with
  | ERROR | STATUS | INTEGER => exact hline ht
  | STRING =>
    obtain ⟨⟨a, b⟩, hl, ht⟩ := Option.bind_eq_some_iff.1 ht
    have hab := (line?_eq_some hl).1
    simp only at ht
    split at ht
    · cases ht
      exact safe_created h he _ (w := a ++ CRLF) (by
        rw [hab, List.append_assoc]
        rfl)
    · split at ht
      · cases ht
        exact safe_created h he _ (w := a ++ CRLF ++ b.take ((readLongLong a).toNat + 2)) (by
          rw [hab, List.append_assoc, List.take_append_drop, List.append_assoc]
          rfl)
      · cases ht
  | ARRAY =>
    simp only [typed, arrayItem] at ht
    split at ht
    · cases ht
      exact safe_failed rfl (Option.some_ne_none _)
        (by simp [ReadState.tooDeep, ReadState.setError]) v []
    · rename_i hdepth
      obtain ⟨⟨a, b⟩, hl, rfl⟩ := Option.map_eq_some_iff.1 ht
      have hab := (line?_eq_some hl).1
      have hlen : rest.length < 8 := by
        have hle := h.depth
        rw [hr, List.length_cons] at hle hdepth
        omega
      refine safe_arrayHeader h he ?_ hr rfl hlen (w := a ++ CRLF) (by
        rw [hab, List.append_assoc]
        rfl)
      obtain ⟨pre, hpre, hstar⟩ := h.unread he
      obtain ⟨p, rfl⟩ := hstar ⟨some .ARRAY, elements, idx⟩ (by rw [hr]; rfl) rfl
      apply hm
      refine ⟨p, b, ?_⟩
      rw [hpre, hab]
      simp [CRLF]
  | NIL =>
    have hknown := h.known ⟨some .NIL, elements, idx⟩ (by rw [hr]; rfl)
    exact absurd rfl hknown

theorem safe_turn (h : s.Safe v) (hm : Modest v) (ht : s.turn = some s') : s'.Safe v := by
  obtain ⟨he, hcases⟩ := turn_cases ht
  obtain ⟨elements, idx, rest, p, u, type, hr, hu, hp, rfl⟩ |
    ⟨elements, idx, rest, p, u, hr, hu, hp, rfl⟩ | ⟨type, elements, idx, rest, hr, hitem⟩ := hcases
  · have hdepth := h.depth
    have hplaced := h.placed
    rw [hr] at hdepth hplaced
    refine ⟨hdepth, h.defined, ?_, ?_, fun _ => ?_⟩
    · cases rest with
      | nil => trivial
      | cons prv rest => exact hplaced
    · intro cur hcur
      cases hcur
      intro hnil
      cases hnil
      exact (replyType_spec hp).1 rfl
    · obtain ⟨pre, hpre, _⟩ := h.unread he
      refine ⟨pre ++ [p], ?_, ?_⟩
      · rw [hpre, hu, List.append_assoc]
        rfl
      · intro cur hcur htype
        cases hcur
        cases htype
        exact ⟨pre, by rw [(replyType_spec hp).2 rfl]⟩
  · exact safe_failed rfl (Option.some_ne_none _) (by
      simp [ReadState.setErrorProtocolByte, ReadState.setError]) v []
  · exact safe_typed h hm he hr hitem

theorem safe_reached {got : List ReplyPtr}
    (h : reader.Reached redisReader.create.reading v got s) (hm : Modest v) : s.Safe v := by
  induction h with
  | start =>
    refine ⟨by decide, nofun, trivial, ?_, fun _ => ⟨[], rfl, ?_⟩⟩
    · intro cur hcur
      cases hcur
      nofun
    · intro cur hcur htype
      cases hcur
      cases htype
  | @fed v got s h u ih =>
    have hsafe := ih hm.of_append
    by_cases he : s.state.err = none
    · have hfeed : reader.feed s u = ⟨s.state, s.unread ++ u⟩ := feed_of_err he u
      rw [hfeed]
      refine ⟨hsafe.depth, hsafe.defined, hsafe.placed, hsafe.known, fun _ => ?_⟩
      obtain ⟨pre, hpre, hstar⟩ := hsafe.unread he
      exact ⟨pre, by rw [hpre, List.append_assoc], hstar⟩
    · have hfeed : reader.feed s u = s := feed_of_failed he u
      rw [hfeed]
      exact ⟨hsafe.depth, hsafe.defined, hsafe.placed, hsafe.known, fun h => absurd h he⟩
  | turned h ht ih => exact safe_turn (ih hm) hm ht
  | taken h hr ih =>
    have hsafe := ih hm
    obtain ⟨he, _, _, rfl⟩ := ready_eq_some hr
    refine ⟨by simp, nofun, trivial, ?_, fun _ => ?_⟩
    · intro cur hcur
      cases hcur
      nofun
    · obtain ⟨pre, hpre, _⟩ := hsafe.unread he
      refine ⟨pre, hpre, ?_⟩
      intro cur hcur htype
      cases hcur
      cases htype

end ReplyReading

/-- Whatever comes in, in whichever pieces: the reader reads inside its buffer and writes inside its
stack and its arrays, as long as no array announces more elements than an `int` can hold. -/
theorem RedisSession.reader_safe {s : RedisSession} {calls : List RedisCall}
    (hr : run step start calls = some s) (hf : Along step Fits start calls)
    (hm : Modest s.link.received) :
    s.link.c.reader.pos ≤ s.link.c.reader.buf.length ∧ s.link.c.reader.rstack.length ≤ 9 ∧
      s.link.c.reader.err ≠ some .undefined ∧ s.link.c.err ≠ some .undefined := by
  have hgood := run_good start_good hr hf
  have hsafe := ReplyReading.safe_reached hgood.link.reached hm
  have herr : s.link.c.reader.err ≠ some .undefined := by
    rw [← redisReader.reading_err]
    exact hsafe.defined
  have hdepth : s.link.c.reader.rstack.length ≤ 9 := by
    have hd := hsafe.depth
    rw [redisReader.reading, ReplyReading.begun] at hd
    split at hd
    · rename_i hnil
      rw [show s.link.c.reader.rstack = [] from hnil.2]
      exact Nat.zero_le _
    · exact hd
  exact ⟨hgood.link.sound.pos, hdepth, herr, fun hc => herr (hgood.link.blamed .undefined hc)⟩

theorem modest_of_prefixes {v : Str} (h : ∀ i < v.length, v[i]? = some '*' →
    ∀ k ≤ v.length, readLongLong ((v.drop (i + 1)).take k) ≤ INT_MAX) : Modest v := by
  rintro line ⟨a, b, rfl⟩
  have hline := h a.length (by simp) (by simp) line.length (by simp; omega)
  simpa using hline

/-- Arrays in an array, in pieces. -/
theorem RedisSession.reader_safe_transaction : ∃ s,
    run step start (transaction transactionPieces [.bytes "7\r\n".toList]) = some s ∧
      s.link.c.reader.pos ≤ s.link.c.reader.buf.length ∧ s.link.c.reader.rstack.length ≤ 9 ∧
        s.link.c.reader.err ≠ some .undefined ∧ s.link.c.err ≠ some .undefined := by
  have hs : (run step start (transaction transactionPieces [.bytes "7\r\n".toList])).map
      (fun s => s.link.received) = some (redisReply.encodeAll transactionReplies) := by
    decide +kernel
  obtain ⟨s, hr, hreceived⟩ := Option.map_eq_some_iff.1 hs
  refine ⟨s, hr, reader_safe hr (along_fits start_good (by decide +kernel)) ?_⟩
  rw [hreceived]
  exact modest_of_prefixes (by decide +kernel)

/-- Beyond that, an element is written that is not there: of 2^32 elements none is allocated. -/
theorem RedisSession.not_reader_safe :
    (run step start (transaction [.bytes "*4294967296\r\n:1\r\n".toList] [])).map
      (fun s => s.link.c.err) = some (some .undefined) := by
  decide +kernel

end SiteOnYourDevice
