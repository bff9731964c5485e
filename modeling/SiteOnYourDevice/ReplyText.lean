import SiteOnYourDevice.ReplyStream
import SiteOnYourDevice.RedisSub
import SiteOnYourDevice.Decimal

namespace SiteOnYourDevice
open CString StreamReader
set_option relaxedAutoImplicit false
set_option autoImplicit true

def CRLF : Str := ['\r', '\n']

namespace redisReply

mutual

/-- A reply in the text of the protocol. -/
def encode : redisReply → Str
  | .string str => '$' :: (Nat.toDigits 10 str.length ++ CRLF ++ (str ++ CRLF))
  | .array element => '*' :: (Nat.toDigits 10 element.length ++ CRLF ++ encodeAll element)
  | .integer n => ':' :: (decimalText n ++ CRLF)
  | .nil => "$-1\r\n".toList
  | .status str => '+' :: (str ++ CRLF)
  | .error str => '-' :: (str ++ CRLF)

def encodeAll : List redisReply → Str
  | [] => []
  | reply :: replies => reply.encode ++ encodeAll replies

end

mutual

/-- The object of a reply. -/
def pointer : redisReply → ReplyPtr
  | .string str => .string str
  | .array element => .array (pointers element)
  | .integer n => .integer n
  | .nil => .nil
  | .status str => .status str
  | .error str => .error str

def pointers : List redisReply → List ReplyPtr
  | [] => []
  | reply :: replies => reply.pointer :: pointers replies

end

mutual

/-- Arrays are nested to a depth at most, lengths and integers fit into their types, and lines are
lines. -/
def Sendable : Nat → redisReply → Prop
  | _, .string str => str.length ≤ INT_MAX
  | 0, .array _ => False
  | depth + 1, .array element => element.length ≤ INT_MAX ∧ SendableAll depth element
  | _, .integer n => -2 ^ 63 < n ∧ n < 2 ^ 63
  | _, .nil => True
  | _, .status str => ¬ CRLF <:+: str
  | _, .error str => ¬ CRLF <:+: str

def SendableAll : Nat → List redisReply → Prop
  | _, [] => True
  | depth, reply :: replies => reply.Sendable depth ∧ SendableAll depth replies

end

end redisReply

theorem readDigits_eq (hs : ∀ c ∈ s, isdigit c = true) {v : Nat}
    (hv : Nat.ofDigitChars 10 s v < 2 ^ 63) :
    readDigits v s = some (Nat.ofDigitChars 10 s v : Int) := by
  induction s generalizing v with
  | nil => rfl
  | cons c s ih =>
    have hc := hs c List.mem_cons_self
    have hcr : c ≠ '\r' := by
      rintro rfl
      exact absurd hc (by decide)
    have hle : '0'.toNat ≤ c.toNat := by
      simp only [isdigit, Bool.and_eq_true, decide_eq_true_eq] at hc
      exact hc.1
    rw [Nat.ofDigitChars_cons] at hv ⊢
    have hnext := ofDigitChars_le s (10 * v + (c.toNat - '0'.toNat))
    have hval : toLongLong (toLongLong (v * 10) + (c.toNat - '0'.toNat)) =
        (10 * v + (c.toNat - '0'.toNat) : Nat) := by
      have hten : toLongLong (v * 10) = v * 10 := toLongLong_eq (by omega) (by omega)
      rw [hten, toLongLong_eq] <;> omega
    rw [readDigits, if_neg hcr, if_pos hc, hval]
    exact ih (fun d hd => hs d (List.mem_cons_of_mem c hd)) hv

/-- A number is read back from its digits. -/
theorem readDigits_toDigits {n : Nat} (h : n < 2 ^ 63) :
    readDigits 0 (Nat.toDigits 10 n) = some (n : Int) := by
  have hs : ∀ c ∈ Nat.toDigits 10 n, isdigit c = true := fun c hc => isdigit_of_mem_toDigits hc
  have hv : Nat.ofDigitChars 10 (Nat.toDigits 10 n) 0 < 2 ^ 63 := by
    rw [Nat.ofDigitChars_ten_toDigits]
    exact h
  have hread := readDigits_eq hs hv
  rw [Nat.ofDigitChars_ten_toDigits] at hread
  exact hread

theorem readLongLong_toDigits {n : Nat} (h : n < 2 ^ 63) : readLongLong (Nat.toDigits 10 n) = n := by
  have hsigned := signed_toDigits n []
  rw [List.append_nil] at hsigned
  rw [readLongLong, hsigned, readDigits_toDigits h]
  simp only [Bool.false_eq_true, if_false]
  rw [toLongLong_eq] <;> omega

theorem readLongLong_decimalText {n : Int} (h : -2 ^ 63 < n) (h' : n < 2 ^ 63) :
    readLongLong (decimalText n) = n := by
  cases n with
  | ofNat n => exact readLongLong_toDigits (Int.ofNat_lt.1 h')
  | negSucc n =>
    have hn : n + 1 < 2 ^ 63 := by omega
    rw [readLongLong, decimalText]
    simp only [signed, readDigits_toDigits hn, if_true]
    rw [toLongLong_eq] <;> omega

theorem crlf_prefix_iff : CRLF <+: c :: d :: s ↔ c = '\r' ∧ d = '\n' := by
  rw [CRLF, List.cons_prefix_cons, List.cons_prefix_cons, eq_comm, @eq_comm _ '\n']
  exact and_congr_right fun _ => and_iff_left List.nil_prefix

/-- A line ends where its end was written. -/
theorem line?_crlf (h : ¬ CRLF <:+: a) (b : Str) : line? (a ++ CRLF ++ b) = some (a, b) := by
  have hs : strstr CRLF (a ++ (CRLF ++ b)) = some (a, CRLF ++ b) := by
    apply strstr_append
    intro p q hpq hq hpre
    cases q with
    | nil => exact hq rfl
    | cons c q =>
      cases q with
      | nil => exact absurd (crlf_prefix_iff.1 hpre).2 (by decide)
      | cons d q =>
        apply h
        rw [← hpq]
        have hcd := crlf_prefix_iff.1 hpre
        exact (crlf_prefix_iff.2 hcd).isInfix.trans (List.suffix_append p _).isInfix
  rw [List.append_assoc, line?]
  change (strstr CRLF (a ++ (CRLF ++ b))).map _ = _
  rw [hs]
  rfl

theorem line?_of_cr_free (h : '\r' ∉ a) (b : Str) : line? (a ++ CRLF ++ b) = some (a, b) := by
  apply line?_crlf
  exact fun hin => h (hin.subset List.mem_cons_self)

namespace ReplyPtr

variable {obj obj' r r' : ReplyPtr} {element : List ReplyPtr}

/-- Whether an object can be stored at a place is up to the place. -/
theorem store_isSome (obj obj' : ReplyPtr) (place : List Nat) (r : ReplyPtr) :
    (store obj place r).isSome = (store obj' place r).isSome := by
  induction place generalizing r with
  | nil => rfl
  | cons i place ih =>
    cases r with
    | array element =>
      rw [store, store]
      cases element[i]? with
      | none => rfl
      | some x => simp only [Option.bind_some, Option.isSome_map, ih]
    | NULL | string | unallocated | integer | nil | status | error => rfl

/-- Storing an element of an array that was stored. -/
theorem store_element {place : List Nat} (h : store (.array element) place r = some r') {i : Nat}
    (hi : i < element.length) (obj : ReplyPtr) :
    store obj (place ++ [i]) r' = store (.array (element.set i obj)) place r := by
  induction place generalizing r r' with
  | nil =>
    cases h
    have hget : element[i]? = some element[i] := List.getElem?_eq_getElem hi
    simp only [List.nil_append, store, hget, Option.bind_some, Option.map_some]
  | cons j place ih =>
    cases r with
    | array xs =>
      obtain ⟨x, hx, hstore⟩ := Option.bind_eq_some_iff.1 h
      obtain ⟨x', hx', rfl⟩ := Option.map_eq_some_iff.1 hstore
      have hj : j < xs.length := (List.getElem?_eq_some_iff.1 hx).1
      rw [List.cons_append, store, store, List.getElem?_set_self hj, hx, Option.bind_some,
        Option.bind_some, ih hx']
      simp only [List.set_set]
    | NULL | string | unallocated | integer | nil | status | error => cases h

end ReplyPtr

/-- The place of an element is that of its array, and its index. -/
theorem placeOf_cons (cur prv : redisReadTask) (rest : List redisReadTask) :
    placeOf (cur :: prv :: rest) = placeOf (prv :: rest) ++ [cur.idx.toNat] := by
  rw [placeOf, List.dropLast_cons_of_ne_nil (List.cons_ne_nil _ _), List.map_cons,
    List.reverse_cons]
  rfl

theorem placeOf_retype (type type' : Option ReplyType) (elements elements' idx : Int)
    (rest : List redisReadTask) :
    placeOf (⟨type, elements, idx⟩ :: rest) = placeOf (⟨type', elements', idx⟩ :: rest) := by
  cases rest with
  | nil => rfl
  | cons prv rest => rw [placeOf_cons, placeOf_cons]

theorem moveToNextTask_retype (type type' : Option ReplyType) (elements elements' idx : Int)
    (rest : List redisReadTask) :
    moveToNextTask (⟨type, elements, idx⟩ :: rest) =
      moveToNextTask (⟨type', elements', idx⟩ :: rest) := by
  cases rest with
  | nil => rfl
  | cons prv rest => rw [moveToNextTask, moveToNextTask]

namespace ReplyReading

variable {errstr : Str} {type : ReplyType} {elements idx n : Int} {rest : List redisReadTask}
  {reply reply' : ReplyPtr} {s' : ReplyReading} {str : Str}

/-- The state before an item is read. -/
def awaits (errstr : Str) (elements idx : Int) (rest : List redisReadTask) (reply : ReplyPtr) :
    ReadState :=
  ⟨none, errstr, ⟨none, elements, idx⟩ :: rest, reply⟩

/-- The state when its type is known. -/
def knows (errstr : Str) (type : ReplyType) (elements idx : Int) (rest : List redisReadTask)
    (reply : ReplyPtr) : ReadState :=
  ⟨none, errstr, ⟨some type, elements, idx⟩ :: rest, reply⟩

theorem created_knows (type : ReplyType) (elements elements' : Int) (obj : ReplyPtr) :
    (knows errstr type elements' idx rest reply).created obj =
      (awaits errstr elements idx rest reply).created obj := by
  rw [ReadState.created, ReadState.created, knows, awaits]
  simp only
  rw [placeOf_retype (some type) none elements' elements idx rest,
    moveToNextTask_retype (some type) none elements' elements idx rest]

theorem settle_typed (hp : replyType p = some type)
    (h : typed ⟨knows errstr type elements idx rest reply, u⟩ type = some s') :
    reader.settle ⟨awaits errstr elements idx rest reply, p :: u⟩ = reader.settle s' := by
  have hfirst : turn ⟨awaits errstr elements idx rest reply, p :: u⟩ =
      some ⟨knows errstr type elements idx rest reply, u⟩ := by
    have hstack : (awaits errstr elements idx rest reply).rstack = ⟨none, elements, idx⟩ :: rest := rfl
    rw [turn_byte rfl hstack rfl, hp]
    rfl
  have hsecond : turn ⟨knows errstr type elements idx rest reply, u⟩ = some s' := by
    have hstack : (knows errstr type elements idx rest reply).rstack =
        ⟨some type, elements, idx⟩ :: rest := rfl
    rw [turn_item rfl hstack, h]
  calc
    reader.settle ⟨awaits errstr elements idx rest reply, p :: u⟩
    _ = reader.settle ⟨knows errstr type elements idx rest reply, u⟩ := Reader.settle_of_turn hfirst
    _ = reader.settle s' := Reader.settle_of_turn hsecond

theorem settle_line (hp : replyType p = some type)
    (ht : ∀ s : ReplyReading, s.typed type = s.lineItem type) (hline : ¬ CRLF <:+: a) :
    reader.settle ⟨awaits errstr elements idx rest reply, p :: (a ++ CRLF ++ u)⟩ =
      reader.settle (landed ((awaits errstr elements idx rest reply).created
        (ReadState.lineObject type a)) u) := by
  apply settle_typed hp
  rw [ht, lineItem]
  change (line? (a ++ CRLF ++ u)).map _ = _
  rw [line?_crlf hline, Option.map_some, created_knows]

theorem crlf_free_of_cr_free (h : '\r' ∉ a) : ¬ CRLF <:+: a :=
  fun hin => h (hin.subset List.mem_cons_self)

theorem settle_string (h : str.length ≤ INT_MAX) :
    reader.settle ⟨awaits errstr elements idx rest reply,
        '$' :: (Nat.toDigits 10 str.length ++ CRLF ++ (str ++ CRLF ++ u))⟩ =
      reader.settle (landed ((awaits errstr elements idx rest reply).created (.string str)) u) := by
  have hbyte : replyType '$' = some .STRING := rfl
  apply settle_typed hbyte
  rw [typed, bulkItem]
  change (line? (Nat.toDigits 10 str.length ++ CRLF ++ (str ++ CRLF ++ u))).bind _ = _
  have hlen : readLongLong (Nat.toDigits 10 str.length) = str.length := by
    apply readLongLong_toDigits
    simp only [INT_MAX] at h
    omega
  have hfits : str.length + 2 ≤ (str ++ CRLF ++ u).length := by
    rw [List.length_append, List.length_append]
    exact Nat.le_add_right _ _
  have hdrop : (str ++ CRLF ++ u).drop (str.length + 2) = u := List.drop_left' (by simp [CRLF])
  have htake : (str ++ CRLF ++ u).take str.length = str := by
    rw [List.append_assoc, List.take_left]
  rw [line?_of_cr_free (cr_not_mem_toDigits _), Option.bind_some]
  simp only [hlen, Int.toNat_natCast]
  rw [if_neg (by omega), if_pos hfits, hdrop, htake, created_knows]

/-- The last element of an array finishes the array. -/
theorem created_last {done : List ReplyPtr} {reply₀ reply : ReplyPtr}
    (h : ReplyPtr.store (.array (done ++ [.NULL])) (placeOf (⟨some .ARRAY, n, idx⟩ :: rest)) reply₀ =
      some reply) (hn : n = done.length + 1) (obj : ReplyPtr) :
    (awaits errstr (-1) done.length (⟨some .ARRAY, n, idx⟩ :: rest) reply).created obj =
      (knows errstr .ARRAY n idx rest reply₀).created (.array (done ++ [obj])) := by
  have hk : done.length < (done ++ [ReplyPtr.NULL]).length := by
    rw [List.length_append]
    exact Nat.lt_succ_self _
  have hset : (done ++ [ReplyPtr.NULL]).set done.length obj = done ++ [obj] := by
    rw [List.set_append_right _ _ (Nat.le_refl _), Nat.sub_self, List.set_cons_zero]
  have hplace : ((done.length : Nat) : Int).toNat = done.length := Int.toNat_natCast _
  have hmove : moveToNextTask (⟨none, -1, done.length⟩ :: ⟨some .ARRAY, n, idx⟩ :: rest) =
      moveToNextTask (⟨some .ARRAY, n, idx⟩ :: rest) := by
    rw [moveToNextTask, if_pos rfl, if_pos (by simp only; omega)]
  rw [ReadState.created, ReadState.created, awaits, knows]
  simp only
  rw [placeOf_cons, hplace, ReplyPtr.store_element h hk, hset, hmove]

/-- Behind another element comes the next one. -/
theorem created_next (errstr : Str) {done : List ReplyPtr} {reply₀ reply : ReplyPtr} {m : Nat}
    (h : ReplyPtr.store (.array (done ++ .NULL :: List.replicate m .NULL))
      (placeOf (⟨some .ARRAY, n, idx⟩ :: rest)) reply₀ = some reply)
    (hn : done.length + 1 < n) (obj : ReplyPtr) :
    ∃ reply', ReplyPtr.store (.array ((done ++ [obj]) ++ List.replicate m .NULL))
        (placeOf (⟨some .ARRAY, n, idx⟩ :: rest)) reply₀ = some reply' ∧
      (awaits errstr (-1) done.length (⟨some .ARRAY, n, idx⟩ :: rest) reply).created obj =
        awaits errstr (-1) (done ++ [obj]).length (⟨some .ARRAY, n, idx⟩ :: rest) reply' := by
  have hk : done.length < (done ++ ReplyPtr.NULL :: List.replicate m .NULL).length := by
    rw [List.length_append, List.length_cons]
    omega
  have hset : (done ++ ReplyPtr.NULL :: List.replicate m .NULL).set done.length obj =
      (done ++ [obj]) ++ List.replicate m .NULL := by
    rw [List.set_append_right _ _ (Nat.le_refl _), Nat.sub_self, List.set_cons_zero,
      List.append_assoc]
    rfl
  have hplace : ((done.length : Nat) : Int).toNat = done.length := Int.toNat_natCast _
  have hmove : moveToNextTask (⟨none, -1, done.length⟩ :: ⟨some .ARRAY, n, idx⟩ :: rest) =
      some (⟨none, -1, done.length + 1⟩ :: ⟨some .ARRAY, n, idx⟩ :: rest) := by
    rw [moveToNextTask, if_pos rfl, if_neg (by simp only; omega), if_pos (by simp only; omega)]
  have hstored : (ReplyPtr.store (.array ((done ++ [obj]) ++ List.replicate m .NULL))
      (placeOf (⟨some .ARRAY, n, idx⟩ :: rest)) reply₀).isSome = true := by
    rw [ReplyPtr.store_isSome _ (.array (done ++ .NULL :: List.replicate m .NULL)), h]
    rfl
  obtain ⟨reply', hreply'⟩ := Option.isSome_iff_exists.1 hstored
  refine ⟨reply', hreply', ?_⟩
  rw [ReadState.created, awaits]
  simp only
  rw [placeOf_cons, hplace, ReplyPtr.store_element h hk, hset, hreply', hmove, awaits]
  simp only [List.length_append, List.length_cons, List.length_nil, Nat.zero_add, Int.natCast_add]
  rfl

/-- What opening an array leaves to be read. -/
theorem settle_header {n : Nat} (hn : n ≤ INT_MAX) (hd : rest.length + 1 ≤ 8) :
    reader.settle ⟨awaits errstr elements idx rest reply,
        '*' :: (Nat.toDigits 10 n ++ CRLF ++ u)⟩ =
      reader.settle (landed ((knows errstr .ARRAY elements idx rest reply).arrayHeader n) u) := by
  have hbyte : replyType '*' = some .ARRAY := rfl
  apply settle_typed hbyte
  have hlen : readLongLong (Nat.toDigits 10 n) = n := by
    apply readLongLong_toDigits
    simp only [INT_MAX] at hn
    omega
  have hdepth : ¬ (knows errstr .ARRAY elements idx rest reply).rstack.length = 9 := by
    rw [knows, List.length_cons]
    omega
  rw [typed, arrayItem]
  simp only
  rw [if_neg hdepth, line?_of_cr_free (cr_not_mem_toDigits _), Option.map_some, hlen]

/-- An array is opened in its place. -/
theorem openArray_eq {n : Nat} (hn : n ≤ INT_MAX) :
    (knows errstr .ARRAY elements idx rest reply).openArray n =
      match ReplyPtr.store (.array (List.replicate n .NULL))
        (placeOf (⟨some .ARRAY, elements, idx⟩ :: rest)) reply with
      | some reply' => awaits errstr (-1) 0 (⟨some .ARRAY, n, idx⟩ :: rest) reply'
      | none => .undefined := by
  have hint : toInt n = n := by
    apply toInt_eq <;> simp only [INT_MAX] at hn <;> omega
  rw [ReadState.openArray, knows, ReadState.arrayObject, hint, if_neg (by omega), Int.toNat_natCast]
  cases ReplyPtr.store (.array (List.replicate n .NULL))
    (placeOf (⟨some .ARRAY, elements, idx⟩ :: rest)) reply <;> rfl

theorem landed_awaits (u : Str) :
    landed (awaits errstr elements idx rest reply) u = ⟨awaits errstr elements idx rest reply, u⟩ :=
  if_pos rfl

mutual

/-- The text of a reply is read as its object, wherever it stands. -/
theorem settle_encode (t : redisReply) (depth : Nat) (ht : t.Sendable depth) (errstr : Str)
    (elements idx : Int) (rest : List redisReadTask) (reply : ReplyPtr)
    (hd : rest.length + depth ≤ 8) (u : Str) :
    reader.settle ⟨awaits errstr elements idx rest reply, t.encode ++ u⟩ =
      reader.settle (landed ((awaits errstr elements idx rest reply).created t.pointer) u) := by
  cases t with
  | string str =>
    have htext : (redisReply.string str).encode ++ u =
        '$' :: (Nat.toDigits 10 str.length ++ CRLF ++ (str ++ CRLF ++ u)) := by
      simp only [redisReply.encode, List.append_assoc, List.cons_append]
    rw [htext]
    exact settle_string (by cases depth <;> exact ht)
  | array element =>
    cases depth with
    | zero => exact ht.elim
    | succ depth =>
      obtain ⟨hlen, hall⟩ := ht
      have htext : (redisReply.array element).encode ++ u =
          '*' :: (Nat.toDigits 10 element.length ++ CRLF ++ (redisReply.encodeAll element ++ u)) := by
        simp only [redisReply.encode, List.append_assoc, List.cons_append]
      rw [htext, settle_header hlen (by omega), ← created_knows .ARRAY elements elements]
      by_cases hnil : element = []
      · subst hnil
        rfl
      · have hpos : (0 : Int) < element.length := Int.natCast_pos.2 (List.length_pos_iff.2 hnil)
        rw [ReadState.arrayHeader, if_neg (by omega), if_pos hpos, openArray_eq hlen]
        cases hstore : ReplyPtr.store (.array (List.replicate element.length .NULL))
            (placeOf (⟨some .ARRAY, elements, idx⟩ :: rest)) reply with
        | none =>
          have hnone := ReplyPtr.store_isSome (.array (redisReply.pointers element))
            (.array (List.replicate element.length .NULL))
            (placeOf (⟨some .ARRAY, elements, idx⟩ :: rest)) reply
          rw [hstore, Option.isSome_none, Option.isSome_eq_false_iff, Option.isNone_iff_eq_none]
            at hnone
          rw [redisReply.pointer, ReadState.created, knows]
          simp only [hnone]
          rfl
        | some reply' =>
          rw [placeOf_retype (some .ARRAY) (some .ARRAY) elements element.length] at hstore
          have hall' := settle_encodeAll element hnil depth hall errstr element.length idx rest
            reply reply' [] (by omega) (by simp) hstore u
          simp only
          rw [landed_awaits]
          refine hall'.trans ?_
          rw [created_knows .ARRAY elements element.length, created_knows .ARRAY elements elements]
          rfl
  | integer n =>
    have htext : (redisReply.integer n).encode ++ u = ':' :: (decimalText n ++ CRLF ++ u) := by
      simp only [redisReply.encode, List.append_assoc, List.cons_append]
    have hn : -2 ^ 63 < n ∧ n < 2 ^ 63 := by cases depth <;> exact ht
    have hbyte : replyType ':' = some .INTEGER := rfl
    rw [htext, settle_line hbyte (fun _ => rfl)
      (crlf_free_of_cr_free (decimalText_line n)), ReadState.lineObject,
      readLongLong_decimalText hn.1 hn.2]
    rfl
  | nil =>
    have hbyte : replyType '$' = some .STRING := rfl
    apply settle_typed hbyte
    have hline : line? ("-1\r\n".toList ++ u) = some ("-1".toList, u) :=
      line?_of_cr_free (a := "-1".toList) (by decide) u
    have hneg : readLongLong "-1".toList < 0 := by decide
    rw [typed, bulkItem]
    change (line? ("-1\r\n".toList ++ u)).bind _ = _
    rw [hline, Option.bind_some, if_pos hneg, created_knows]
    rfl
  | status str =>
    have htext : (redisReply.status str).encode ++ u = '+' :: (str ++ CRLF ++ u) := by
      simp only [redisReply.encode, List.cons_append]
    rw [htext]
    have hbyte : replyType '+' = some .STATUS := rfl
    exact settle_line hbyte (fun _ => rfl) (by cases depth <;> exact ht)
  | error str =>
    have htext : (redisReply.error str).encode ++ u = '-' :: (str ++ CRLF ++ u) := by
      simp only [redisReply.encode, List.cons_append]
    rw [htext]
    have hbyte : replyType '-' = some .ERROR := rfl
    exact settle_line hbyte (fun _ => rfl) (by cases depth <;> exact ht)

theorem settle_encodeAll (ts : List redisReply) (hne : ts ≠ []) (depth : Nat)
    (hts : redisReply.SendableAll depth ts) (errstr : Str) (n idx : Int) (rest : List redisReadTask)
    (reply₀ reply : ReplyPtr) (done : List ReplyPtr) (hd : rest.length + 1 + depth ≤ 8)
    (hn : n = done.length + ts.length)
    (hreply : ReplyPtr.store (.array (done ++ List.replicate ts.length .NULL))
      (placeOf (⟨some .ARRAY, n, idx⟩ :: rest)) reply₀ = some reply) (u : Str) :
    reader.settle ⟨awaits errstr (-1) done.length (⟨some .ARRAY, n, idx⟩ :: rest) reply,
        redisReply.encodeAll ts ++ u⟩ =
      reader.settle (landed ((knows errstr .ARRAY n idx rest reply₀).created
        (.array (done ++ redisReply.pointers ts))) u) := by
  cases ts with
  | nil => exact absurd rfl hne
  | cons t ts =>
    have hfirst := settle_encode t depth hts.1 errstr (-1) done.length
      (⟨some .ARRAY, n, idx⟩ :: rest) reply hd (redisReply.encodeAll ts ++ u)
    rw [redisReply.encodeAll, List.append_assoc, hfirst]
    by_cases hts' : ts = []
    · subst hts'
      rw [created_last hreply hn]
      rfl
    · have hpos : 0 < ts.length := List.length_pos_iff.2 hts'
      rw [List.length_cons] at hn
      obtain ⟨reply', hreply', hnext⟩ := created_next errstr hreply (by omega) t.pointer
      have hn' : n = (done ++ [t.pointer]).length + ts.length := by
        rw [List.length_append, List.length_singleton]
        omega
      have hrest := settle_encodeAll ts hts' depth hts.2 errstr n idx rest reply₀ reply'
        (done ++ [t.pointer]) hd hn' hreply' u
      rw [hnext, landed_awaits, hrest, List.append_assoc]
      rfl

end

end ReplyReading

end SiteOnYourDevice
