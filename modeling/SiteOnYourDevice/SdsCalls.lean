import SiteOnYourDevice.SdsStore

namespace Sds
open CString MemoryBlock SiteOnYourDevice
set_option relaxedAutoImplicit false
set_option autoImplicit true

variable {s : sdshdr} {t u : Str} {m : Malloc} {len addlen : Nat} {start stop : Int}

theorem Holds.catlen (hs : Holds s t) (h : Malloc) (hmax : t.length + u.length < MAX_SIZE) :
    Answers h (sdscatlen h s u) (Holds · (t ++ u)) := by
  rw [sdscatlen]
  refine (hs.makeRoomFor h hmax).bind fun s' hs' => ?_
  have hmore := hs'.more
  have hroom := hs'.room
  obtain ⟨b, hstore, hb, htext⟩ := store_append (u := u) hs'.text (by omega)
  rw [← List.length_append] at hmore
  obtain ⟨b', hstore', hb', htext'⟩ := store_append_one htext (by omega) '\x00'
  rw [hs.len]
  refine Answers.write hstore ?_
  rw [← List.length_append]
  rw [write_ok (s := sdssetlen { s' with buf := b } (t ++ u).length) hstore']
  exact .ok (hs'.toStores.setlen (hb'.trans hb) hmore htext')

theorem Holds.cpylen (hs : Holds s t) (h : Malloc) (hmax : u.length < MAX_SIZE) :
    Answers h (sdscpylen h s u) (Holds · u) := by
  have hroom : Answers h (if sdsalloc s < u.length then sdsMakeRoomFor h s (u.length - s.len)
      else .ok s) fun s' => Stores s' t ∧ u.length ≤ sdsalloc s' := by
    have hfits := hs.fits
    split
    · rename_i hlt
      rw [hs.len]
      refine (hs.makeRoomFor h (by omega)).mono fun s' hs' => ⟨hs'.toStores, ?_⟩
      have hmore := hs'.more
      omega
    · exact .ok ⟨hs.toStores, by omega⟩
  rw [sdscpylen]
  refine hroom.bind fun s' hs' => ?_
  obtain ⟨hs', hu⟩ := hs'
  have hroom' := hs'.room
  obtain ⟨b, hstore, hb, htext⟩ := store_head (b := s'.buf) (u := u) (by omega)
  obtain ⟨b', hstore', hb', htext'⟩ := store_append_one htext (by omega) '\x00'
  refine Answers.write hstore (Answers.write hstore' ?_)
  exact .ok (hs'.setlen (hb'.trans hb) hu htext')

theorem Holds.growzero (hs : Holds s t) (h : Malloc) (hmax : len < MAX_SIZE) :
    Answers h (sdsgrowzero h s len) (Holds · (t ++ List.replicate (len - t.length) '\x00')) := by
  rw [sdsgrowzero, hs.len]
  split
  · rename_i hle
    rw [Nat.sub_eq_zero_of_le hle, List.replicate_zero, List.append_nil]
    exact .ok hs
  · refine (hs.makeRoomFor h (by omega)).bind fun s' hs' => ?_
    have hmore := hs'.more
    have hroom := hs'.room
    obtain ⟨b, hstore, hb, htext⟩ := store_append
      (u := List.replicate (len - t.length + 1) '\x00') hs'.text (by
        rw [List.length_replicate]
        omega)
    refine Answers.write hstore ?_
    have hlen : (t ++ List.replicate (len - t.length) '\x00').length = len := by
      rw [List.length_append, List.length_replicate]
      omega
    have hz : t ++ List.replicate (len - t.length) '\x00' ++ ['\x00'] <+: b := by
      rw [List.append_assoc, ← List.replicate_succ']
      exact htext
    have hset := hs'.toStores.setlen hb (by rw [hlen]; omega) hz
    rw [hlen] at hset
    exact .ok hset

theorem Holds.removeFreeSpace (hs : Holds s t) (h : Malloc) (hmax : t.length < MAX_SIZE) :
    Answers h (sdsRemoveFreeSpace h s) (Holds · t) := by
  rw [MAX_SIZE, SDS_MAX_PREALLOC] at hmax
  rw [sdsRemoveFreeSpace, hs.len]
  refine (hs.resize h (Nat.le_refl _) (by omega) (fun _ => rfl) (sdsReqType_lt (by omega))).mono
    fun s' hs' => ⟨hs'.2.toStores, hs'.2.kept hs.nul⟩

theorem Holds.clear (hs : Holds s t) : ∃ s', sdsclear s = .ok s' ∧ Holds s' [] := by
  have hroom := hs.room
  obtain ⟨b, hstore, hb, htext⟩ := store_head (b := s.buf) (u := ['\x00']) (by
    rw [List.length_singleton]
    omega)
  refine ⟨_, write_ok (s := sdssetlen s 0) hstore, ?_⟩
  exact hs.setlen (u := []) hb (Nat.zero_le _) htext

/-- The bytes of an interval with both of its ends; an index below zero counts from the end. -/
def rangeOf (t : Str) (start stop : Int) : Str :=
  let start := if start < 0 then max (t.length + start) 0 else start
  let stop := if stop < 0 then max (t.length + stop) 0 else stop
  (t.take (stop + 1).toNat).drop start.toNat

/-- The values of an `int`. -/
def IsInt (i : Int) : Prop := -2 ^ 31 ≤ i ∧ i < 2 ^ 31

theorem fromBehind_eq (hlen : len < 2 ^ 31) (hi : IsInt i) : ∃ a : Nat, fromBehind len i = a ∧
    (if i < 0 then max (len + i) 0 else i) = a ∧ a < 2 ^ 31 := by
  obtain ⟨hi, hi'⟩ := hi
  rw [fromBehind]
  split
  · rw [toInt_eq (by omega) (by omega)]
    exact ⟨(max (len + i) 0).toNat, by omega, by omega, by omega⟩
  · exact ⟨i.toNat, by omega, by omega, by omega⟩

theorem rangeBounds_spec (hlen : t.length < 2 ^ 31) (hstart : IsInt start) (hstop : IsInt stop) :
    let p := rangeBounds t.length start stop
    (t.drop p.1.toNat).take p.2 = rangeOf t start stop ∧
      (p.2 ≠ 0 → 0 ≤ p.1 ∧ p.1.toNat + p.2 ≤ t.length) := by
  obtain ⟨a, ha, ha', halt⟩ := fromBehind_eq hlen hstart
  obtain ⟨b, hb, hb', hblt⟩ := fromBehind_eq hlen hstop
  have hsucc : ((b : Int) + 1).toNat = b + 1 := by omega
  rw [rangeOf, rangeBounds, ha, hb, ha', hb', hsucc, Int.toNat_natCast, List.drop_take]
  have htl : toInt t.length = t.length := toInt_eq (by omega) (by omega)
  simp only [htl]
  split
  · rename_i hlt
    have hz : b + 1 - a = 0 := by omega
    rw [hz, List.take_zero]
    exact ⟨by rw [List.take_zero], fun h => absurd rfl h⟩
  split
  · rename_i hle
    have hnil : t.drop a = [] := List.drop_eq_nil_of_le (by omega)
    rw [hnil, List.take_nil]
    exact ⟨by rw [List.take_zero], fun h => absurd rfl h⟩
  split
  · rename_i hle
    have hlast : toInt ((t.length : Int) - 1) = t.length - 1 := toInt_eq (by omega) (by omega)
    have hnew : toInt ((t.length : Int) - 1 - a + 1) = t.length - a := by
      rw [toInt_eq (by omega) (by omega)]
      omega
    have hlt : ¬ (t.length : Int) - 1 < a := by omega
    rw [hlast, if_neg hlt, hnew]
    have hnat : (((t.length : Int) - a) % 2 ^ 64).toNat = t.length - a := by omega
    rw [hnat]
    refine ⟨?_, fun _ => ⟨by omega, ?_⟩⟩
    · rw [Int.toNat_natCast, List.take_of_length_le, List.take_of_length_le]
      · rw [List.length_drop]
        omega
      · rw [List.length_drop]
    · rw [Int.toNat_natCast]
      omega
  · have hnew : toInt ((b : Int) - a + 1) = b - a + 1 := toInt_eq (by omega) (by omega)
    have hnat : (((b : Int) - a + 1) % 2 ^ 64).toNat = b + 1 - a := by omega
    rw [hnew, hnat]
    refine ⟨by rw [Int.toNat_natCast], fun _ => ⟨by omega, ?_⟩⟩
    rw [Int.toNat_natCast]
    omega

theorem Holds.range (hs : Holds s t) (hlen : t.length < 2 ^ 31) (hstart : IsInt start)
    (hstop : IsInt stop) :
    ∃ s', sdsrange s start stop = .ok s' ∧ Holds s' (rangeOf t start stop) := by
  rw [sdsrange, hs.len]
  split
  · rename_i hz
    have ht : t = [] := List.eq_nil_of_length_eq_zero hz
    subst ht
    refine ⟨s, rfl, ?_⟩
    rw [rangeOf, List.take_nil, List.drop_nil]
    exact hs
  obtain ⟨hrange, hin⟩ := rangeBounds_spec hlen hstart hstop
  generalize rangeBounds t.length start stop = p at hrange hin
  obtain ⟨k, m⟩ := p
  have hfits := hs.fits
  have hroom := hs.room
  have hm : (rangeOf t start stop).length = m ∧ m ≤ t.length := by
    rw [← hrange, List.length_take, List.length_drop]
    by_cases hz : m = 0
    · omega
    · have hk := hin hz
      omega
  -- the bytes that stay are at the start of the block
  have hmoved : ∃ b, s.moveFront k m = .ok { s with buf := b } ∧ b.length = s.buf.length ∧
      rangeOf t start stop <+: b := by
    rw [sdshdr.moveFront]
    split
    · rename_i hkm
      obtain ⟨b, hstore, hb, htext⟩ :=
        store_head (b := s.buf) (u := rangeOf t start stop) (by omega)
      refine ⟨b, ?_, hb, htext⟩
      rw [load_within hs.text (hin hkm.2).2, hrange]
      exact write_ok hstore
    · rename_i hkm
      refine ⟨s.buf, rfl, rfl, ?_⟩
      rw [← hrange]
      by_cases hz : m = 0
      · rw [hz, List.take_zero]
        exact List.nil_prefix
      · have hk : k = 0 := by
          by_contra hk
          exact hkm ⟨hk, hz⟩
        rw [hk]
        have hhead : t.take m <+: t := List.take_prefix _ _
        exact hhead.trans hs.text
  obtain ⟨b, hfirst, hb, htext⟩ := hmoved
  obtain ⟨b', hstore, hb', htext'⟩ := store_append_one htext (by omega) '\x00'
  have hset := hs.setlen (hb'.trans hb) (by omega) htext'
  rw [hm.1] at hstore hset
  refine ⟨_, ?_, hset⟩
  change (s.moveFront k m >>= fun s => s.write m ['\x00'] >>= fun s =>
    pure (sdssetlen s m)) = _
  rw [hfirst]
  change (sdshdr.write _ _ _ >>= _) = _
  rw [write_ok (s := { s with buf := b }) hstore]
  rfl

/-- A string is made longer by what stands behind it. -/
theorem Stores.incrLen (hs : Stores s t) (h5 : s.type ≠ .TYPE_5) (htext : t ++ u <+: s.buf)
    (hu : t.length + u.length ≤ sdsalloc s) :
    ∃ s', sdsIncrLen s u.length = .ok s' ∧ Holds s' (t ++ u) := by
  have havail : sdsavail s = sdsalloc s - t.length := by
    rw [hs.sdsavail_eq, if_neg h5]
  have halloc : sdsalloc s = s.alloc := if_neg h5
  have hlen := hs.len
  have hroom := hs.room
  rw [← List.length_append] at hu
  obtain ⟨b, hstore, hb, hnul⟩ := store_append_one htext (by omega) '\x00'
  refine ⟨_, ?_, hs.setlen hb hu hnul⟩
  rw [List.length_append] at hu hstore
  have hsum : ((s.len : Int) + u.length).toNat = t.length + u.length := by omega
  rw [sdsIncrLen, if_pos, hsum, List.length_append]
  · exact write_ok (s := sdssetlen s (t.length + u.length)) hstore
  · left
    cases htype : s.type with
    | TYPE_5 => exact absurd htype h5
    | TYPE_8 => exact decide_eq_true ⟨by omega, by omega⟩
    | TYPE_16 => exact decide_eq_true ⟨by omega, by omega⟩
    | TYPE_32 => exact decide_eq_true ⟨by omega, by omega⟩
    | TYPE_64 => exact decide_eq_true ⟨by omega, by omega⟩

/-- A string is cut at its end. -/
theorem Holds.cut (hs : Holds s t) (hpos : 0 < n) (hn : n ≤ t.length) :
    ∃ s', sdsIncrLen s (-n) = .ok s' ∧ Holds s' (t.take (t.length - n)) := by
  have hlen := hs.len
  have hfits := hs.fits
  have hroom := hs.room
  have htake : (t.take (t.length - n)).length = t.length - n := by
    rw [List.length_take]
    omega
  have hhead : t.take (t.length - n) <+: t := List.take_prefix _ _
  obtain ⟨b, hstore, hb, hnul⟩ := store_append_one (hhead.trans hs.text) (by omega) '\x00'
  refine ⟨_, ?_, hs.setlen hb (by omega) hnul⟩
  rw [htake] at hstore ⊢
  have hsum : ((s.len : Int) + -n).toNat = t.length - n := by omega
  rw [sdsIncrLen, if_pos, hsum]
  · exact write_ok (s := sdssetlen s (t.length - n)) hstore
  · exact .inr ⟨by omega, by omega⟩

/-- What the comment at `sdsIncrLen` shows: room is made for `addlen` bytes, `read` brings some of
them, and they become part of the string. -/
def sdsread (h : Malloc) (s : sdshdr) (addlen : Nat) (t : Str) : Except Fault sdshdr := do
  let s' ← sdsMakeRoomFor h s addlen
  let s' ← s'.write s.len t
  sdsIncrLen s' t.length

theorem Holds.read (hs : Holds s t) (h : Malloc) (hpos : 0 < addlen) (hu : u.length ≤ addlen)
    (hmax : t.length + addlen < MAX_SIZE) :
    Answers h (sdsread h s addlen u) (Holds · (t ++ u)) := by
  rw [sdsread]
  refine (hs.makeRoomFor h hmax).bind fun s' hs' => ?_
  have hmore := hs'.more
  have hroom := hs'.room
  obtain ⟨b, hstore, hb, htext⟩ := store_append (u := u) hs'.text (by omega)
  rw [hs.len]
  refine Answers.write hstore ?_
  have hs'' : Stores { s' with buf := b } t :=
    ⟨hs'.len, hs'.fits, hs'.lt, hroom.trans_eq hb.symm, (List.prefix_append t u).trans htext⟩
  obtain ⟨s₂, hok, hs₂⟩ := hs''.incrLen (u := u) (hs'.knows hpos) htext
    ((Nat.add_le_add_left hu _).trans hmore)
  rw [hok]
  exact .ok hs₂

/-- The calls on a string. -/
inductive SdsCall
  | catlen (t : Str)
  | cat (t : Str)
  | cpylen (t : Str)
  | growzero (len : Nat)
  | makeRoomFor (addlen : Nat)
  | removeFreeSpace
  | clear
  | range (start stop : Int)
  | read (addlen : Nat) (t : Str)
  | cut (n : Nat)

namespace SdsCall

def apply (h : Malloc) (s : sdshdr) : SdsCall → Except Fault sdshdr
  | catlen t => sdscatlen h s t
  | cat t => sdscat h s t
  | cpylen t => sdscpylen h s t
  | growzero len => sdsgrowzero h s len
  | makeRoomFor addlen => sdsMakeRoomFor h s addlen
  | removeFreeSpace => sdsRemoveFreeSpace h s
  | clear => sdsclear s
  | range start stop => sdsrange s start stop
  | read addlen t => sdsread h s addlen t
  | cut n => sdsIncrLen s (-n)

/-- What becomes of the bytes of a string. -/
def bytes (t : Str) : SdsCall → Str
  | catlen u => t ++ u
  | cat u => t ++ cstr u
  | cpylen u => u
  | growzero len => t ++ List.replicate (len - t.length) '\x00'
  | makeRoomFor _ | removeFreeSpace => t
  | clear => []
  | range start stop => rangeOf t start stop
  | read _ u => t ++ u
  | cut n => t.take (t.length - n)

/-- The sizes that a call takes: those of an `int`, or those that can be added up in a `size_t`. -/
def Fits (t : Str) : SdsCall → Prop
  | catlen u => t.length + u.length < MAX_SIZE
  | cat u => t.length + (cstr u).length < MAX_SIZE
  | cpylen u => u.length < MAX_SIZE
  | growzero len => len < MAX_SIZE
  | makeRoomFor addlen => t.length + addlen < MAX_SIZE
  | removeFreeSpace => t.length < MAX_SIZE
  | clear => True
  | range start stop => t.length < 2 ^ 31 ∧ IsInt start ∧ IsInt stop
  | read addlen u =>
    0 < addlen ∧ u.length ≤ addlen ∧ u.length < 2 ^ 31 ∧ t.length + addlen < MAX_SIZE
  | cut n => 0 < n ∧ n < 2 ^ 31 ∧ n ≤ t.length

end SdsCall

/-- One call, whichever header the string has. -/
theorem Holds.call {c : SdsCall} (hs : Holds s t) (h : Malloc) (hc : c.Fits t) :
    Answers h (c.apply h s) (Holds · (c.bytes t)) := by
  cases c with
  | catlen u => exact hs.catlen h hc
  | cat u => exact hs.catlen h hc
  | cpylen u => exact hs.cpylen h hc
  | growzero len => exact hs.growzero h hc
  | makeRoomFor addlen =>
    exact (hs.makeRoomFor h hc).mono fun s' hs' => ⟨hs'.toStores, hs'.kept hs.nul⟩
  | removeFreeSpace => exact hs.removeFreeSpace h hc
  | clear => exact .of_ok hs.clear
  | range start stop => exact .of_ok (hs.range hc.1 hc.2.1 hc.2.2)
  | read addlen u => exact hs.read h hc.1 hc.2.1 hc.2.2.2
  | cut n => exact .of_ok (hs.cut hc.1 hc.2.2)

/-- Calls one after the other, each with what the heap has for it. -/
def runCalls (s : sdshdr) : List (Malloc × SdsCall) → Except Fault sdshdr
  | [] => .ok s
  | c :: cs => do runCalls (← c.2.apply c.1 s) cs

def bytesOf (t : Str) (cs : List (Malloc × SdsCall)) : Str :=
  cs.foldl (fun t c => c.2.bytes t) t

def AllFit (t : Str) : List (Malloc × SdsCall) → Prop
  | [] => True
  | c :: cs => c.2.Fits t ∧ AllFit (c.2.bytes t) cs

theorem Holds.calls {cs : List (Malloc × SdsCall)} (hs : Holds s t) (hcs : AllFit t cs) :
    (∃ s', runCalls s cs = .ok s' ∧ Holds s' (bytesOf t cs)) ∨
      (runCalls s cs = .error .null ∧ ∃ c ∈ cs, ∃ n, c.1.block n = none) := by
  induction cs generalizing s t with
  | nil => exact .inl ⟨s, rfl, hs⟩
  | cons c cs ih =>
    obtain ⟨hc, hcs⟩ := hcs
    obtain ⟨s', hok, hs'⟩ | ⟨herr, hn⟩ := hs.call c.1 hc
    · have hrun : runCalls s (c :: cs) = runCalls s' cs := by
        rw [runCalls, hok]
        rfl
      rw [hrun]
      obtain hdone | ⟨herr, d, hd, hn⟩ := ih hs' hcs
      · exact .inl hdone
      · exact .inr ⟨herr, d, List.mem_cons_of_mem c hd, hn⟩
    · refine .inr ⟨?_, c, List.mem_cons_self, hn⟩
      rw [runCalls, herr]
      rfl

/-- A string that is made and then worked on by calls of any kind holds the bytes that they make of
a list, with a NUL behind them and all within its block, whatever header it has had meanwhile; only
when the heap refuses a block there is NULL instead. -/
theorem runCalls_holds (h : Malloc) {cs : List (Malloc × SdsCall)}
    (hn : t.length + 18 < 2 ^ 64) (hcs : AllFit t cs) :
    let r := sdsnewlen h (some t) t.length >>= fun s => runCalls s cs
    (∃ s, r = .ok s ∧ Holds s (bytesOf t cs)) ∨
      (r = .error .null ∧ ∃ m ∈ h :: cs.map (·.1), ∃ n, m.block n = none) := by
  intro r
  obtain ⟨s, hok, hs⟩ | ⟨herr, hnone⟩ := sdsnewlen_answers h List.prefix_rfl hn
  · have hrun : r = runCalls s cs := by
      simp only [r, hok]
      rfl
    rw [hrun]
    obtain hdone | ⟨herr, c, hc, hnone⟩ := hs.calls hcs
    · exact .inl hdone
    · exact .inr ⟨herr, c.1, List.mem_cons_of_mem h (List.mem_map_of_mem hc), hnone⟩
  · refine .inr ⟨?_, h, List.mem_cons_self, hnone⟩
    simp only [r, herr]
    rfl

/-- A heap whose blocks are full of `x`. -/
def Malloc.full : Malloc := ⟨fun n => some (List.replicate n 'x'), fun h => by
  cases h
  exact List.length_replicate⟩

/-- A string of the smallest header grows, is read into, and loses its first bytes. -/
theorem runCalls_holds_hello :
    ∃ s, (sdsnewlen .full (some "hello".toList) "hello".toList.length >>= fun s => runCalls s
        [(.full, .catlen " world".toList), (.full, .read 16 "!".toList), (.full, .range 6 (-1))]) =
          .ok s ∧ Holds s "world!".toList := by
  have hfit : AllFit "hello".toList [(.full, .catlen " world".toList),
      (.full, .read 16 "!".toList), (.full, .range 6 (-1))] := by
    refine ⟨?_, ⟨by decide, by decide, by decide, by decide⟩,
      ⟨by decide, ⟨by decide, by decide⟩, by decide, by decide⟩, trivial⟩
    change 5 + 6 < MAX_SIZE
    decide
  obtain hok | ⟨_, m, hm, n, hn⟩ := runCalls_holds .full (by decide) hfit
  · exact hok
  · have hfull : m = .full := by simpa using hm
    rw [hfull] at hn
    cases hn

end Sds
