import SiteOnYourDevice.RedisReader
import SiteOnYourDevice.StreamReader

namespace SiteOnYourDevice
open CString StreamReader
set_option relaxedAutoImplicit false
set_option autoImplicit true

/-- A reader by what it has not read yet, without its buffer. -/
structure ReplyReading where
  state : ReadState
  unread : Str

/-- The first line, and what comes behind it. -/
def line? (u : Str) : Option (Str × Str) := (strstr "\r\n".toList u).map fun p => (p.1, p.2.drop 2)

def firstTask : redisReadTask := ⟨none, -1, -1⟩

namespace ReplyReading

def landed (state : ReadState) (unread : Str) : ReplyReading :=
  if state.err = none then ⟨state, unread⟩ else ⟨state, []⟩

def lineItem (s : ReplyReading) (type : ReplyType) : Option ReplyReading :=
  (line? s.unread).map fun p => landed (s.state.created (ReadState.lineObject type p.1)) p.2

def bulkItem (s : ReplyReading) : Option ReplyReading :=
  (line? s.unread).bind fun p =>
    if readLongLong p.1 < 0 then some (landed (s.state.created .nil) p.2)
    else if (readLongLong p.1).toNat + 2 ≤ p.2.length then
      some (landed (s.state.created (.string (p.2.take (readLongLong p.1).toNat)))
        (p.2.drop ((readLongLong p.1).toNat + 2)))
    else none

def arrayItem (s : ReplyReading) : Option ReplyReading :=
  if s.state.rstack.length = 9 then some (landed .tooDeep [])
  else (line? s.unread).map fun p => landed (s.state.arrayHeader (readLongLong p.1)) p.2

def typed (s : ReplyReading) : ReplyType → Option ReplyReading
  | .ERROR => s.lineItem .ERROR
  | .STATUS => s.lineItem .STATUS
  | .INTEGER => s.lineItem .INTEGER
  | .STRING => s.bulkItem
  | .ARRAY => s.arrayItem
  | .NIL => some (landed .undefined [])

/-- A turn reads the type of an item, or the rest of it. -/
def turn (s : ReplyReading) : Option ReplyReading :=
  if s.state.err = none then
    match s.state.rstack, s.unread with
    | [], _ => none
    | ⟨some type, _, _⟩ :: _, _ => s.typed type
    | ⟨none, _, _⟩ :: _, [] => none
    | ⟨none, elements, idx⟩ :: rest, p :: u =>
      match replyType p with
      | some type => some ⟨{ s.state with rstack := ⟨some type, elements, idx⟩ :: rest }, u⟩
      | none => some (landed (.setErrorProtocolByte p) [])
  else none

def feed (s : ReplyReading) (v : Str) : ReplyReading :=
  if s.state.err = none then { s with unread := s.unread ++ v } else s

/-- A reply is ready when no task is left; then the next one is begun. -/
def ready (s : ReplyReading) : Option (ReplyPtr × ReplyReading) :=
  if s.state.err = none ∧ s.state.rstack = [] then
    some (s.state.reply, { s with state := { s.state with rstack := [firstTask], reply := .NULL } })
  else none

/-- The first item is begun when there is no task. -/
def begun (s : ReplyReading) : ReplyReading :=
  if s.state.err = none ∧ s.state.rstack = [] then
    { s with state := { s.state with rstack := [firstTask] } }
  else s

def rank (s : ReplyReading) : Nat :=
  if s.state.err = none then 2 * s.unread.length + (if s.state.rstack = [] then 2 else 1) else 0

theorem landed_feed (state : ReadState) (u v : Str) :
    (landed state u).feed v = landed state (u ++ v) := by
  rw [landed, landed]
  split
  · rename_i h
    rw [feed, if_pos h]
  · rename_i h
    rw [feed, if_neg h]

theorem rank_landed (state : ReadState) (u : Str) :
    (landed state u).rank ≤ 2 * u.length + 2 := by
  by_cases h : state.err = none
  · rw [landed, if_pos h, rank, if_pos h]
    change 2 * u.length + _ ≤ 2 * u.length + 2
    split <;> omega
  · rw [landed, if_neg h, rank, if_neg h]
    exact Nat.zero_le _

end ReplyReading

theorem line?_eq_some {u a b : Str} (h : line? u = some (a, b)) :
    u = a ++ '\r' :: '\n' :: b ∧ ¬ "\r\n".toList <:+: a := by
  obtain ⟨⟨a', b'⟩, hs, he⟩ := Option.map_eq_some_iff.1 h
  cases he
  obtain ⟨rfl, t, rfl⟩ := strstr_eq_some hs
  exact ⟨rfl, strstr_not_infix (by decide) hs⟩

theorem line?_append (h : line? u = some (a, b)) (v : Str) : line? (u ++ v) = some (a, b ++ v) := by
  obtain ⟨⟨a', b'⟩, hs, he⟩ := Option.map_eq_some_iff.1 h
  cases he
  obtain ⟨rfl, t, rfl⟩ := strstr_eq_some hs
  rw [line?, strstr_append_right hs]
  rfl

theorem line?_length (h : line? u = some (a, b)) : b.length + 2 ≤ u.length := by
  rw [(line?_eq_some h).1]
  simp only [List.length_append, List.length_cons]
  omega

namespace ReplyReading

variable {s s' : ReplyReading} {type : ReplyType} {elements idx : Int} {rest : List redisReadTask}
  {reply : ReplyPtr}

theorem feed_of_err (h : s.state.err = none) (v : Str) :
    s.feed v = ⟨s.state, s.unread ++ v⟩ := if_pos h

theorem feed_of_failed (h : s.state.err ≠ none) (v : Str) : s.feed v = s := if_neg h

@[simp] theorem feed_state (s : ReplyReading) (v : Str) : (s.feed v).state = s.state := by
  rw [feed]
  split <;> rfl

theorem typed_feed (he : s.state.err = none) (h : s.typed type = some s') (v : Str) :
    (s.feed v).typed type = some (s'.feed v) := by
  rw [feed_of_err he]
  have hline {type : ReplyType} (h : s.lineItem type = some s') :
      lineItem ⟨s.state, s.unread ++ v⟩ type = some (s'.feed v) := by
    obtain ⟨⟨a, b⟩, hl, rfl⟩ := Option.map_eq_some_iff.1 h
    rw [landed_feed, lineItem, line?_append hl]
    rfl
  cases type with
  | ERROR | STATUS | INTEGER => exact hline h
  | STRING =>
    obtain ⟨⟨a, b⟩, hl, h⟩ := Option.bind_eq_some_iff.1 h
    simp only [typed, bulkItem, line?_append hl, Option.bind_some]
    simp only at h
    split at h
    · rename_i hneg
      cases h
      rw [if_pos hneg, landed_feed]
    · rename_i hneg
      split at h
      · rename_i hlen
        cases h
        have hlen' : (readLongLong a).toNat + 2 ≤ (b ++ v).length := by
          rw [List.length_append]
          omega
        rw [if_neg hneg, if_pos hlen', landed_feed, List.take_append_of_le_length (by omega),
          List.drop_append_of_le_length hlen]
      · cases h
  | ARRAY =>
    simp only [typed, arrayItem] at h ⊢
    split at h
    · rename_i hdeep
      cases h
      rw [if_pos hdeep]
      rfl
    · rename_i hdeep
      obtain ⟨⟨a, b⟩, hl, rfl⟩ := Option.map_eq_some_iff.1 h
      rw [if_neg hdeep, line?_append hl, landed_feed]
      rfl
  | NIL =>
    cases h
    rfl

theorem typed_rank (h : s.typed type = some s') : s'.rank < 2 * s.unread.length + 1 := by
  have hlanded {state : ReadState} {a b : Str} {n : Nat} (hl : line? s.unread = some (a, b)) :
      (landed state (b.drop n)).rank < 2 * s.unread.length + 1 := by
    have hr := rank_landed state (b.drop n)
    have hb := line?_length hl
    rw [List.length_drop] at hr
    omega
  have hline {type : ReplyType} (h : s.lineItem type = some s') :
      s'.rank < 2 * s.unread.length + 1 := by
    obtain ⟨⟨a, b⟩, hl, rfl⟩ := Option.map_eq_some_iff.1 h
    exact hlanded (n := 0) hl
  cases type with
  | ERROR | STATUS | INTEGER => exact hline h
  | STRING =>
    obtain ⟨⟨a, b⟩, hl, h⟩ := Option.bind_eq_some_iff.1 h
    simp only at h
    split at h
    · cases h
      exact hlanded (n := 0) hl
    · split at h
      · cases h
        exact hlanded hl
      · cases h
  | ARRAY =>
    simp only [typed, arrayItem] at h
    split at h
    · cases h
      exact Nat.succ_pos _
    · obtain ⟨⟨a, b⟩, hl, rfl⟩ := Option.map_eq_some_iff.1 h
      exact hlanded (n := 0) hl
  | NIL =>
    cases h
    exact Nat.succ_pos _

/-- What a turn is: the type of an item is read, or the byte is none of a type; or the item is
read. -/
theorem turn_cases (h : s.turn = some s') :
    s.state.err = none ∧
      ((∃ elements idx rest p u type, s.state.rstack = ⟨none, elements, idx⟩ :: rest ∧
          s.unread = p :: u ∧ replyType p = some type ∧
          s' = ⟨{ s.state with rstack := ⟨some type, elements, idx⟩ :: rest }, u⟩) ∨
        (∃ elements idx rest p u, s.state.rstack = ⟨none, elements, idx⟩ :: rest ∧
          s.unread = p :: u ∧ replyType p = none ∧ s' = landed (.setErrorProtocolByte p) []) ∨
        ∃ type elements idx rest, s.state.rstack = ⟨some type, elements, idx⟩ :: rest ∧
          s.typed type = some s') := by
  rw [turn] at h
  split at h
  · rename_i he
    refine ⟨he, ?_⟩
    split at h
    · cases h
    · rename_i hr
      exact .inr (.inr ⟨_, _, _, _, hr, h⟩)
    · cases h
    · rename_i hr hu
      split at h
      · rename_i ht
        cases h
        exact .inl ⟨_, _, _, _, _, _, hr, hu, ht, rfl⟩
      · rename_i ht
        cases h
        exact .inr (.inl ⟨_, _, _, _, _, hr, hu, ht, rfl⟩)
  · cases h

theorem created_failed {state : ReadState} {obj : ReplyPtr} (he : state.err = none)
    (h : (state.created obj).err ≠ none) : (state.created obj).rstack = [] := by
  rw [ReadState.created] at h ⊢
  split
  · rename_i hstore hmove
    rw [hstore, hmove] at h
    exact absurd he h
  · rfl

theorem arrayHeader_failed {state : ReadState} {n : Int} (he : state.err = none) :
    (state.arrayHeader n).err ≠ none → (state.arrayHeader n).rstack = [] := by
  rw [ReadState.arrayHeader]
  split
  · exact created_failed he
  · split
    · rw [ReadState.openArray]
      split
      · exact fun h => absurd he h
      · exact fun _ => rfl
    · exact created_failed he

theorem landed_failed {state : ReadState} (h : state.err ≠ none → state.rstack = []) (u : Str)
    (hu : (landed state u).state.err ≠ none) : (landed state u).state.rstack = [] := by
  rw [landed] at hu ⊢
  split at hu
  · rename_i he
    exact absurd he hu
  · rename_i he
    rw [if_neg he]
    exact h he

theorem typed_failed (he : s.state.err = none) (h : s.typed type = some s')
    (hs' : s'.state.err ≠ none) : s'.state.rstack = [] := by
  have hline {type : ReplyType} (h : s.lineItem type = some s') : s'.state.rstack = [] := by
    obtain ⟨p, _, rfl⟩ := Option.map_eq_some_iff.1 h
    exact landed_failed (created_failed he) p.2 hs'
  cases type with
  | ERROR | STATUS | INTEGER => exact hline h
  | STRING =>
    obtain ⟨p, _, h⟩ := Option.bind_eq_some_iff.1 h
    split at h
    · cases h
      exact landed_failed (created_failed he) _ hs'
    · split at h
      · cases h
        exact landed_failed (created_failed he) _ hs'
      · cases h
  | ARRAY =>
    simp only [typed, arrayItem] at h
    split at h
    · cases h
      rfl
    · obtain ⟨p, _, rfl⟩ := Option.map_eq_some_iff.1 h
      exact landed_failed (arrayHeader_failed he) p.2 hs'
  | NIL =>
    cases h
    rfl

theorem turn_item (he : s.state.err = none)
    (hr : s.state.rstack = ⟨some type, elements, idx⟩ :: rest) : s.turn = s.typed type := by
  rw [turn, if_pos he, hr]

theorem turn_byte (he : s.state.err = none)
    (hr : s.state.rstack = ⟨none, elements, idx⟩ :: rest) (hu : s.unread = p :: u) :
    s.turn = match replyType p with
      | some type => some ⟨{ s.state with rstack := ⟨some type, elements, idx⟩ :: rest }, u⟩
      | none => some (landed (.setErrorProtocolByte p) []) := by
  rw [turn, if_pos he, hr, hu]

theorem turn_starved (hr : s.state.rstack = ⟨none, elements, idx⟩ :: rest) (hu : s.unread = []) :
    s.turn = none := by
  rw [turn, hr, hu]
  exact ite_self none

theorem turn_of_rstack_nil (hr : s.state.rstack = []) : s.turn = none := by
  rw [turn, hr]
  exact ite_self none

theorem turn_of_err (he : s.state.err ≠ none) : s.turn = none := if_neg he

theorem turn_feed (h : s.turn = some s') (v : Str) : (s.feed v).turn = some (s'.feed v) := by
  obtain ⟨he, hcases⟩ := turn_cases h
  have he' : (s.feed v).state.err = none := (congrArg ReadState.err (feed_state s v)).trans he
  have hr' : (s.feed v).state.rstack = s.state.rstack := congrArg ReadState.rstack (feed_state s v)
  obtain ⟨elements, idx, rest, p, u, type, hr, hu, ht, rfl⟩ |
    ⟨elements, idx, rest, p, u, hr, hu, ht, rfl⟩ | ⟨type, elements, idx, rest, hr, ht⟩ := hcases
  · have hu' : (s.feed v).unread = p :: (u ++ v) := by
      rw [feed_of_err he, hu]
      rfl
    rw [turn_byte he' (hr'.trans hr) hu', ht, feed_state]
    rw [feed, if_pos he]
  · have hu' : (s.feed v).unread = p :: (u ++ v) := by
      rw [feed_of_err he, hu]
      rfl
    rw [turn_byte he' (hr'.trans hr) hu', ht]
    rfl
  · rw [turn_item he' (hr'.trans hr), typed_feed he ht]

theorem rank_turn (h : s.turn = some s') : s'.rank < s.rank := by
  obtain ⟨he, hcases⟩ := turn_cases h
  obtain ⟨elements, idx, rest, p, u, type, hr, hu, ht, rfl⟩ |
    ⟨elements, idx, rest, p, u, hr, hu, ht, rfl⟩ | ⟨type, elements, idx, rest, hr, ht⟩ := hcases
  · rw [rank, rank, if_pos he, if_pos he, hr, hu, if_neg nofun, if_neg nofun, List.length_cons]
    simp only
    omega
  · have hzero : (landed (.setErrorProtocolByte p) []).rank = 0 := rfl
    rw [hzero, rank, if_pos he, hr, if_neg nofun]
    exact Nat.succ_pos _
  · rw [rank.eq_1 s, if_pos he, hr, if_neg nofun]
    exact typed_rank ht

/-- A reader that has failed has no task. -/
theorem turn_failed (h : s.turn = some s') (hs' : s'.state.err ≠ none) :
    s'.state.rstack = [] := by
  obtain ⟨he, hcases⟩ := turn_cases h
  obtain ⟨elements, idx, rest, p, u, type, hr, hu, ht, rfl⟩ |
    ⟨elements, idx, rest, p, u, hr, hu, ht, rfl⟩ | ⟨type, elements, idx, rest, hr, ht⟩ := hcases
  · exact absurd he hs'
  · rfl
  · exact typed_failed he ht hs'

/-- A reply that is ready is not NULL. -/
def Rooted (s : ReplyReading) : Prop :=
  s.state.err = none → s.state.rstack = [] → s.state.reply.isNULL = false

theorem store_isNULL {obj r r' : ReplyPtr} {place : List Nat} (ho : obj.isNULL = false)
    (h : obj.store place r = some r') : r'.isNULL = false := by
  cases place with
  | nil =>
    cases h
    exact ho
  | cons i place =>
    cases r with
    | array element =>
      obtain ⟨x, _, hx⟩ := Option.bind_eq_some_iff.1 h
      obtain ⟨x', _, rfl⟩ := Option.map_eq_some_iff.1 hx
      rfl
    | NULL | string | unallocated | integer | nil | status | error => cases h

theorem landed_rooted {state : ReadState}
    (h : state.err = none → state.rstack = [] → state.reply.isNULL = false) (u : Str) :
    (landed state u).Rooted := by
  rw [landed]
  split
  · exact h
  · exact h

theorem created_rooted {state : ReadState} {obj : ReplyPtr} (ho : obj.isNULL = false)
    (he : (state.created obj).err = none) : (state.created obj).reply.isNULL = false := by
  rw [ReadState.created] at he ⊢
  split
  · rename_i hstore _
    exact store_isNULL ho hstore
  · rename_i hnone
    split at he
    · rename_i hstore hmove
      exact absurd hmove (hnone _ _ hstore)
    · cases he

theorem openArray_cases (state : ReadState) (n : Int) :
    (state.openArray n).rstack ≠ [] ∨ state.openArray n = .undefined := by
  rw [ReadState.openArray]
  split
  · exact .inl (List.cons_ne_nil _ _)
  · exact .inr rfl

theorem arrayObject_isNULL (n : Int) : (ReadState.arrayObject n).isNULL = false := by
  rw [ReadState.arrayObject]
  split <;> rfl

theorem arrayHeader_rooted {state : ReadState} {n : Int} (he : (state.arrayHeader n).err = none)
    (hr : (state.arrayHeader n).rstack = []) : (state.arrayHeader n).reply.isNULL = false := by
  rw [ReadState.arrayHeader] at he hr ⊢
  split
  · rename_i hn
    rw [if_pos hn] at he
    exact created_rooted rfl he
  · rename_i hn
    rw [if_neg hn] at he hr
    split
    · rename_i hpos
      rw [if_pos hpos] at he hr
      obtain hopen | hopen := openArray_cases state n
      · exact absurd hr hopen
      · rw [hopen] at he
        cases he
    · rename_i hpos
      rw [if_neg hpos] at he
      exact created_rooted (arrayObject_isNULL n) he

theorem typed_rooted (h : s.typed type = some s') : s'.Rooted := by
  have hline {type : ReplyType} (h : s.lineItem type = some s') : s'.Rooted := by
    obtain ⟨p, _, rfl⟩ := Option.map_eq_some_iff.1 h
    refine landed_rooted (fun he _ => created_rooted ?_ he) p.2
    cases type <;> rfl
  cases type with
  | ERROR | STATUS | INTEGER => exact hline h
  | STRING =>
    obtain ⟨p, _, h⟩ := Option.bind_eq_some_iff.1 h
    split at h
    · cases h
      exact landed_rooted (fun he _ => created_rooted rfl he) _
    · split at h
      · cases h
        exact landed_rooted (fun he _ => created_rooted rfl he) _
      · cases h
  | ARRAY =>
    simp only [typed, arrayItem] at h
    split at h
    · cases h
      exact landed_rooted (fun he => absurd he (Option.some_ne_none _)) _
    · obtain ⟨p, _, rfl⟩ := Option.map_eq_some_iff.1 h
      exact landed_rooted arrayHeader_rooted p.2
  | NIL =>
    cases h
    exact landed_rooted (fun he => absurd he (Option.some_ne_none _)) _

theorem turn_rooted (h : s.turn = some s') : s'.Rooted := by
  obtain ⟨he, hcases⟩ := turn_cases h
  obtain ⟨elements, idx, rest, p, u, type, hr, hu, ht, rfl⟩ |
    ⟨elements, idx, rest, p, u, hr, hu, ht, rfl⟩ | ⟨type, elements, idx, rest, hr, ht⟩ := hcases
  · exact fun _ hnil => absurd hnil (List.cons_ne_nil _ _)
  · exact landed_rooted (fun he => absurd he (Option.some_ne_none _)) _
  · exact typed_rooted ht

theorem begun_rooted (s : ReplyReading) : s.begun.Rooted := by
  intro he hr
  rw [begun] at he hr
  split at hr
  · cases hr
  · rename_i hs
    rw [if_neg hs] at he
    exact absurd ⟨he, hr⟩ hs

theorem ready_eq_some (h : s.ready = some (reply, s')) :
    s.state.err = none ∧ s.state.rstack = [] ∧ reply = s.state.reply ∧
      s' = ⟨⟨none, s.state.errstr, [firstTask], .NULL⟩, s.unread⟩ := by
  rw [ready] at h
  split at h
  · rename_i hs
    obtain ⟨he, hr⟩ := hs
    cases h
    refine ⟨he, hr, rfl, ?_⟩
    simp only [he]
  · cases h

/-- The reader of a stream of replies. -/
def reader : Reader ReplyReading Char ReplyPtr where
  feed := feed
  turn := turn
  ready := ready
  rank := rank
  feed_nil s := by
    rw [feed]
    split
    · rw [List.append_nil]
    · rfl
  feed_append s u v := by
    by_cases he : s.state.err = none
    · rw [feed_of_err he, feed_of_err he, feed_of_err (s := ⟨s.state, s.unread ++ u⟩) he,
        List.append_assoc]
    · rw [feed_of_failed he, feed_of_failed he, feed_of_failed he]
  turn_feed v h := turn_feed h v
  ready_feed v h := by
    obtain ⟨he, hr, rfl, rfl⟩ := ready_eq_some h
    rw [feed_of_err he, feed_of_err rfl, ready, if_pos ⟨he, hr⟩]
    simp only [he]
  turn_of_ready h := turn_of_rstack_nil (ready_eq_some h).2.1
  rank_turn := rank_turn
  rank_ready h := by
    obtain ⟨he, hr, rfl, rfl⟩ := ready_eq_some h
    rw [rank, rank, if_pos rfl, if_pos he, if_pos hr, if_neg nofun]
    exact Nat.lt_succ_self _

theorem settle_rooted (hs : s.Rooted) : (reader.settle s).Rooted := by
  induction s using Reader.settle.induct reader with
  | case1 s h =>
    rw [Reader.settle_of_rest h]
    exact hs
  | case2 s s' h ih =>
    rw [Reader.settle_of_turn h]
    exact ih (turn_rooted h)

end ReplyReading

end SiteOnYourDevice
