import SiteOnYourDevice.MemoryBlock
import SiteOnYourDevice.RedisReader

namespace Sds
open CString MemoryBlock SiteOnYourDevice
set_option relaxedAutoImplicit false
set_option autoImplicit true

inductive SdsType
  | TYPE_5 | TYPE_8 | TYPE_16 | TYPE_32 | TYPE_64
deriving DecidableEq

namespace SdsType

/-- `sdsHdrSize`. -/
def hdrSize : SdsType → Nat
  | TYPE_5 => 1
  | TYPE_8 => 3
  | TYPE_16 => 5
  | TYPE_32 => 9
  | TYPE_64 => 17

/-- The width of the words of a header. The length of a `TYPE_5` stands in the upper bits of its
flags. -/
def bits : SdsType → Nat
  | TYPE_5 => 5
  | TYPE_8 => 8
  | TYPE_16 => 16
  | TYPE_32 => 32
  | TYPE_64 => 64

end SdsType

/-- What may come instead of a string: NULL, an access outside of the block, a failed assertion. -/
inductive Fault
  | null | outside | assert
deriving DecidableEq

/-- A heap gives out a block of the size it is asked for, or none. -/
structure Malloc where
  block : Nat → Option Str
  length_block : block n = some b → b.length = n

/-- A string as its pointer shows it: the words of the header before it, of which a `TYPE_5` has no
`alloc`, and the block from it on. -/
structure sdshdr where
  type : SdsType
  len : Nat
  alloc : Nat
  buf : Str
deriving DecidableEq

def sdsReqType (string_size : Nat) : SdsType :=
  if string_size < 32 then .TYPE_5
  else if string_size < 0xff then .TYPE_8
  else if string_size < 0xffff then .TYPE_16
  else if string_size < 0xffffffff then .TYPE_32
  else .TYPE_64

def sdsavail (s : sdshdr) : Nat :=
  match s.type with
  | .TYPE_5 => 0
  | .TYPE_32 => (s.alloc + 2 ^ 32 - s.len) % 2 ^ 32
  | _ => (s.alloc + 2 ^ 64 - s.len) % 2 ^ 64

def sdsalloc (s : sdshdr) : Nat := if s.type = .TYPE_5 then s.len else s.alloc

def sdssetlen (s : sdshdr) (newlen : Nat) : sdshdr :=
  { s with len := newlen % 2 ^ s.type.bits }

def sdssetalloc (s : sdshdr) (newlen : Nat) : sdshdr :=
  if s.type = .TYPE_5 then s else { s with alloc := newlen % 2 ^ s.type.bits }

/-- An access to memory. -/
def inside : Option α → Except Fault α
  | some a => .ok a
  | none => .error .outside

def sdshdr.write (s : sdshdr) (i : Nat) (t : Str) : Except Fault sdshdr := do
  let buf ← inside (store s.buf i t)
  return { s with buf }

/-- The bytes behind the header of a new block. -/
def Malloc.hdr (h : Malloc) (type : SdsType) (n : Nat) : Except Fault Str :=
  match h.block ((type.hdrSize + n + 1) % 2 ^ 64) with
  | none => .error .null
  | some b => if b.length < type.hdrSize then .error .outside else .ok (b.drop type.hdrSize)

/-- Without `init` the block is set to zero, before it is known whether there is one. -/
def sdsnewlen (h : Malloc) (init : Option Str) (initlen : Nat) : Except Fault sdshdr := do
  let type :=
    if sdsReqType initlen = .TYPE_5 ∧ initlen = 0 then .TYPE_8 else sdsReqType initlen
  match init with
  | none =>
    let buf ← (h.hdr type initlen).mapError fun _ => .outside
    let s := sdssetalloc (sdssetlen ⟨type, 0, 0, buf.map fun _ => '\x00'⟩ initlen) initlen
    s.write initlen ['\x00']
  | some t =>
    let buf ← h.hdr type initlen
    let s := sdssetalloc (sdssetlen ⟨type, 0, 0, buf⟩ initlen) initlen
    let s ← s.write 0 (← inside (load t 0 initlen))
    s.write initlen ['\x00']

def sdsempty (h : Malloc) : Except Fault sdshdr := sdsnewlen h (some []) 0

def sdsnew (h : Malloc) (init : Option Str) : Except Fault sdshdr :=
  sdsnewlen h init ((init.map cstr).getD []).length

def sdsdup (h : Malloc) (s : sdshdr) : Except Fault sdshdr := sdsnewlen h (some s.buf) s.len

def SDS_MAX_PREALLOC : Nat := 1024 * 1024

/-- A string in a block of another size; of a string of the same type the block is reallocated. -/
def sdshdr.resize (h : Malloc) (s : sdshdr) (type : SdsType) (size : Nat) :
    Except Fault sdshdr := do
  let buf ← h.hdr type size
  if s.type = type then
    return sdssetalloc { s with buf := realloc s.buf buf } size
  else
    let old ← inside (load s.buf 0 (s.len + 1))
    let s' ← sdshdr.write ⟨type, 0, 0, buf⟩ 0 old
    return sdssetalloc (sdssetlen s' s.len) size

def sdsMakeRoomFor (h : Malloc) (s : sdshdr) (addlen : Nat) : Except Fault sdshdr :=
  if addlen ≤ sdsavail s then .ok s
  else
    let newlen := (s.len + addlen) % 2 ^ 64
    let newlen :=
      if newlen < SDS_MAX_PREALLOC then newlen * 2 else (newlen + SDS_MAX_PREALLOC) % 2 ^ 64
    let type := if sdsReqType newlen = .TYPE_5 then .TYPE_8 else sdsReqType newlen
    s.resize h type newlen

def sdsRemoveFreeSpace (h : Malloc) (s : sdshdr) : Except Fault sdshdr :=
  s.resize h (sdsReqType s.len) s.len

def sdsIncrLen (s : sdshdr) (incr : Int) : Except Fault sdshdr :=
  let fits : Bool :=
    match s.type with
    | .TYPE_5 => 0 < incr ∧ s.len + incr < 32
    | .TYPE_8 | .TYPE_16 => 0 ≤ incr ∧ incr ≤ (s.alloc : Int) - s.len
    | .TYPE_32 | .TYPE_64 => 0 ≤ incr ∧ incr ≤ sdsavail s
  if fits ∨ (incr < 0 ∧ -incr ≤ s.len) then
    let len := (s.len + incr).toNat
    (sdssetlen s len).write len ['\x00']
  else .error .assert

def sdsgrowzero (h : Malloc) (s : sdshdr) (len : Nat) : Except Fault sdshdr :=
  if len ≤ s.len then .ok s
  else do
    let s' ← sdsMakeRoomFor h s (len - s.len)
    let s' ← s'.write s.len (List.replicate (len - s.len + 1) '\x00')
    return sdssetlen s' len

def sdscatlen (h : Malloc) (s : sdshdr) (t : Str) : Except Fault sdshdr := do
  let s' ← sdsMakeRoomFor h s t.length
  let s' ← s'.write s.len t
  (sdssetlen s' (s.len + t.length)).write (s.len + t.length) ['\x00']

def sdscat (h : Malloc) (s : sdshdr) (t : Str) : Except Fault sdshdr := sdscatlen h s (cstr t)

def sdscpylen (h : Malloc) (s : sdshdr) (t : Str) : Except Fault sdshdr := do
  let s ← (if sdsalloc s < t.length then sdsMakeRoomFor h s (t.length - s.len) else .ok s :
    Except Fault sdshdr)
  let s ← s.write 0 t
  let s ← s.write t.length ['\x00']
  return sdssetlen s t.length

def sdsclear (s : sdshdr) : Except Fault sdshdr := (sdssetlen s 0).write 0 ['\x00']

/-- An index below zero counts from the end. -/
def fromBehind (len : Nat) (i : Int) : Int := if i < 0 then max (toInt (len + i)) 0 else i

/-- The first byte that stays and how many of them do; `start` and `stop` are `int`s. -/
def rangeBounds (len : Nat) (start stop : Int) : Int × Nat :=
  let start := fromBehind len start
  let stop := fromBehind len stop
  if stop < start then (0, 0)
  else if toInt len ≤ start then (start, 0)
  else if toInt len ≤ stop then
    let stop := toInt (len - 1)
    (start, if stop < start then 0 else (toInt (stop - start + 1) % 2 ^ 64).toNat)
  else (start, (toInt (stop - start + 1) % 2 ^ 64).toNat)

/-- The `memmove` of `sdsrange`. -/
def sdshdr.moveFront (s : sdshdr) (start : Int) (newlen : Nat) : Except Fault sdshdr :=
  if start ≠ 0 ∧ newlen ≠ 0 then do s.write 0 (← inside (load s.buf start.toNat newlen)) else .ok s

def sdsrange (s : sdshdr) (start stop : Int) : Except Fault sdshdr :=
  if s.len = 0 then .ok s
  else do
    let p := rangeBounds s.len start stop
    let s ← s.moveFront p.1 p.2
    let s ← s.write p.2 ['\x00']
    return sdssetlen s p.2

variable {s : sdshdr} {b t u : Str} {m : Malloc} {type : SdsType} {addlen : Nat}

/-- The string has a result, or the heap has refused a block and the result is NULL. -/
def Answers (h : Malloc) (r : Except Fault α) (P : α → Prop) : Prop :=
  (∃ a, r = .ok a ∧ P a) ∨ (r = .error .null ∧ ∃ n, h.block n = none)

theorem Answers.ok (ha : P a) : Answers h (.ok a) P := .inl ⟨a, rfl, ha⟩

theorem Answers.of_ok {r : Except Fault α} (h : ∃ a, r = .ok a ∧ P a) : Answers m r P := .inl h

theorem Answers.bind {f : α → Except Fault β} (hr : Answers h r P)
    (hf : ∀ a, P a → Answers h (f a) Q) : Answers h (r >>= f) Q := by
  obtain ⟨a, rfl, ha⟩ | ⟨rfl, hn⟩ := hr
  · exact hf a ha
  · exact .inr ⟨rfl, hn⟩

theorem Answers.mono (hr : Answers h r P) (hpq : ∀ a, P a → Q a) : Answers h r Q := by
  obtain ⟨a, hok, ha⟩ | hn := hr
  · exact .inl ⟨a, hok, hpq a ha⟩
  · exact .inr hn

/-- With a heap that always has a block, there is a result. -/
theorem Answers.granted (hr : Answers h r P) (hh : ∀ n, h.block n ≠ none) :
    ∃ a, r = .ok a ∧ P a := by
  obtain hok | ⟨_, n, hn⟩ := hr
  · exact hok
  · exact absurd hn (hh n)

/-- A string whose bytes are `t`, in a block with room for as many as its header says and a NUL. -/
structure Stores (s : sdshdr) (t : Str) : Prop where
  len : s.len = t.length
  fits : t.length ≤ sdsalloc s
  lt : sdsalloc s < 2 ^ s.type.bits
  room : sdsalloc s < s.buf.length
  text : t <+: s.buf

/-- A string between two calls: its bytes end with a NUL. -/
structure Holds (s : sdshdr) (t : Str) : Prop extends Stores s t where
  nul : t ++ ['\x00'] <+: s.buf

theorem SdsType.bits_le (type : SdsType) : type.bits ≤ 64 := by
  cases type <;> decide

theorem SdsType.hdrSize_le (type : SdsType) : type.hdrSize ≤ 17 := by
  cases type <;> decide

theorem sdsReqType_lt (h : n < 2 ^ 64) : n < 2 ^ (sdsReqType n).bits := by
  rw [sdsReqType]
  split
  · assumption
  split
  · simp only [SdsType.bits]
    omega
  split
  · simp only [SdsType.bits]
    omega
  split
  · simp only [SdsType.bits]
    omega
  · exact h

/-- The free space of a string, of which a `TYPE_5` does not know. -/
theorem Stores.sdsavail_eq (hs : Stores s t) :
    sdsavail s = if s.type = .TYPE_5 then 0 else sdsalloc s - t.length := by
  have hlt := hs.lt
  have hfits := hs.fits
  have hlen := hs.len
  rw [sdsavail]
  rw [sdsalloc] at hlt hfits ⊢
  split
  · rename_i ht
    rw [if_pos ht]
  · rename_i ht
    have hne : s.type ≠ .TYPE_5 := by
      rw [ht]
      decide
    rw [ht, if_neg (by decide), SdsType.bits] at hlt
    rw [ht, if_neg (by decide)] at hfits
    rw [if_neg hne, if_neg hne, hlen]
    omega
  · rename_i h5 h32
    have hpow : 2 ^ s.type.bits ≤ 2 ^ 64 := Nat.pow_le_pow_right (by decide) s.type.bits_le
    rw [if_neg h5] at hlt hfits ⊢
    rw [if_neg h5, hlen]
    omega

theorem Stores.avail (hs : Stores s t) (hn : n ≤ sdsavail s) : t.length + n ≤ sdsalloc s := by
  have hfits := hs.fits
  rw [hs.sdsavail_eq] at hn
  split at hn <;> omega

theorem write_ok (h : store s.buf i t = some b) : s.write i t = .ok { s with buf := b } := by
  rw [sdshdr.write, h]
  rfl

/-- A write inside of the block, and what comes after it. -/
theorem Answers.write {f : sdshdr → Except Fault β} (h : store s.buf i t = some b)
    (hf : Answers m (f { s with buf := b }) P) : Answers m (s.write i t >>= f) P := by
  rw [write_ok h]
  exact hf

@[simp] theorem sdssetalloc_type (s : sdshdr) (n : Nat) : (sdssetalloc s n).type = s.type := by
  rw [sdssetalloc]
  split <;> rfl

@[simp] theorem sdssetalloc_len (s : sdshdr) (n : Nat) : (sdssetalloc s n).len = s.len := by
  rw [sdssetalloc]
  split <;> rfl

@[simp] theorem sdssetalloc_buf (s : sdshdr) (n : Nat) : (sdssetalloc s n).buf = s.buf := by
  rw [sdssetalloc]
  split <;> rfl

theorem sdsalloc_sdssetalloc (h5 : s.type = .TYPE_5 → n = s.len) (hn : n < 2 ^ s.type.bits) :
    sdsalloc (sdssetalloc s n) = n := by
  rw [sdsalloc, sdssetalloc_type, sdssetalloc_len]
  split
  · rename_i ht
    exact (h5 ht).symm
  · rename_i ht
    rw [sdssetalloc, if_neg ht]
    exact Nat.mod_eq_of_lt hn

/-- A header that is written for a block of its size. -/
theorem Stores.made {s : sdshdr} (hlen : s.len = t.length) (ht : t.length ≤ n)
    (h5 : s.type = .TYPE_5 → n = t.length) (hn : n < 2 ^ s.type.bits) (hb : s.buf.length = n + 1)
    (htext : t <+: s.buf) : Stores (sdssetalloc s n) t ∧ sdsalloc (sdssetalloc s n) = n := by
  have halloc := sdsalloc_sdssetalloc (fun h => (h5 h).trans hlen.symm) hn
  refine ⟨⟨?_, ?_, ?_, ?_, ?_⟩, halloc⟩
  · rw [sdssetalloc_len, hlen]
  · rw [halloc]
    exact ht
  · rw [halloc, sdssetalloc_type]
    exact hn
  · rw [halloc, sdssetalloc_buf, hb]
    exact Nat.lt_succ_self n
  · rw [sdssetalloc_buf]
    exact htext

/-- The string is another one when its bytes and its length are. -/
theorem Stores.setlen (hs : Stores s t) (hb : b.length = s.buf.length) (hu : u.length ≤ sdsalloc s)
    (htext : u ++ ['\x00'] <+: b) : Holds (sdssetlen { s with buf := b } u.length) u := by
  have hlt := hs.lt
  have hroom := hs.room
  have hlen : u.length % 2 ^ s.type.bits = u.length := Nat.mod_eq_of_lt (by omega)
  have halloc : u.length ≤ sdsalloc (sdssetlen { s with buf := b } u.length) ∧
      sdsalloc (sdssetlen { s with buf := b } u.length) ≤ sdsalloc s := by
    rw [sdsalloc] at hu
    rw [sdsalloc, sdsalloc, sdssetlen, hlen]
    change _ ≤ (if s.type = .TYPE_5 then u.length else s.alloc) ∧
      (if s.type = .TYPE_5 then u.length else s.alloc) ≤ if s.type = .TYPE_5 then s.len else s.alloc
    split
    · rename_i ht
      rw [if_pos ht] at hu
      exact ⟨Nat.le_refl _, hu⟩
    · rename_i ht
      rw [if_neg ht] at hu
      exact ⟨hu, Nat.le_refl _⟩
  refine ⟨⟨hlen, halloc.1, halloc.2.trans_lt hlt, ?_, (List.prefix_append _ _).trans htext⟩, htext⟩
  change _ < b.length
  omega

theorem Malloc.hdr_answers (h : Malloc) (type : SdsType) (hn : n + 18 < 2 ^ 64) :
    Answers h (h.hdr type n) fun b => b.length = n + 1 := by
  have hsize := type.hdrSize_le
  have hmod : (type.hdrSize + n + 1) % 2 ^ 64 = type.hdrSize + n + 1 :=
    Nat.mod_eq_of_lt (by omega)
  rw [Malloc.hdr, hmod]
  cases hb : h.block (type.hdrSize + n + 1) with
  | none => exact .inr ⟨rfl, _, hb⟩
  | some b =>
    have hlen := h.length_block hb
    have hlt : ¬ b.length < type.hdrSize := by omega
    change Answers h (if b.length < type.hdrSize then _ else _) _
    rw [if_neg hlt]
    apply Answers.ok
    rw [List.length_drop]
    omega

/-- A new string with the first bytes of another one. -/
theorem sdsnewlen_answers (h : Malloc) (hv : t <+: v) (hn : t.length + 18 < 2 ^ 64) :
    Answers h (sdsnewlen h (some v) t.length) (Holds · t) := by
  let type : SdsType :=
    if sdsReqType t.length = .TYPE_5 ∧ t.length = 0 then .TYPE_8 else sdsReqType t.length
  have htype : t.length < 2 ^ type.bits := by
    simp only [type]
    split
    · rename_i hz
      rw [hz.2]
      decide
    · exact sdsReqType_lt (by omega)
  have hlen : t.length % 2 ^ type.bits = t.length := Nat.mod_eq_of_lt htype
  rw [sdsnewlen]
  refine (h.hdr_answers type hn).bind fun b hb => ?_
  obtain ⟨b₁, hstore₁, hb₁, ht₁⟩ := store_head (b := b) (u := t) (by omega)
  obtain ⟨b₂, hstore₂, hb₂, ht₂⟩ := store_append_one ht₁ (by omega) '\x00'
  rw [load_head hv]
  refine Answers.write (b := b₁) ?_ ?_
  · rw [sdssetalloc_buf]
    exact hstore₁
  · rw [write_ok hstore₂]
    obtain ⟨hs, _⟩ := Stores.made (s := ⟨type, t.length, 0, b₂⟩) rfl (Nat.le_refl _) (fun _ => rfl)
      htype (by change b₂.length = _; omega) ((List.prefix_append _ _).trans ht₂)
    have hnul : t ++ ['\x00'] <+: (sdssetalloc ⟨type, t.length, 0, b₂⟩ t.length).buf := by
      rw [sdssetalloc_buf]
      exact ht₂
    have hsame : sdshdr.mk (sdssetalloc (sdssetlen ⟨type, 0, 0, b⟩ t.length) t.length).type
        (sdssetalloc (sdssetlen ⟨type, 0, 0, b⟩ t.length) t.length).len
        (sdssetalloc (sdssetlen ⟨type, 0, 0, b⟩ t.length) t.length).alloc b₂ =
          sdssetalloc ⟨type, t.length, 0, b₂⟩ t.length := by
      simp only [sdssetlen, hlen, sdssetalloc]
      split <;> rfl
    exact .ok (hsame ▸ ⟨hs, hnul⟩)

theorem sdsempty_answers (h : Malloc) : Answers h (sdsempty h) (Holds · []) :=
  sdsnewlen_answers (t := []) h List.prefix_rfl (by decide)

theorem sdsnew_answers (h : Malloc) (hn : (cstr t).length + 18 < 2 ^ 64) :
    Answers h (sdsnew h (some t)) (Holds · (cstr t)) := by
  have hpart : cstr t <+: t := List.takeWhile_prefix _
  exact sdsnewlen_answers h hpart hn

theorem Holds.dup (hs : Holds s t) (h : Malloc) (hn : t.length + 18 < 2 ^ 64) :
    Answers h (sdsdup h s) (Holds · t) := by
  rw [sdsdup, hs.len]
  exact sdsnewlen_answers h hs.text hn

/-- Another block of the string: what it has room for grows or shrinks, its bytes do not change. -/
structure Resized (s : sdshdr) (t : Str) (n : Nat) (s' : sdshdr) : Prop extends Stores s' t where
  alloc : sdsalloc s' = n
  kept : t ++ ['\x00'] <+: s.buf → t ++ ['\x00'] <+: s'.buf

theorem Stores.resize (hs : Stores s t) (h : Malloc) (ht : t.length ≤ n) (hmax : n + 18 < 2 ^ 64)
    (h5 : type = .TYPE_5 → n = t.length) (hn : n < 2 ^ type.bits) :
    Answers h (s.resize h type n) fun s' => s'.type = type ∧ Resized s t n s' := by
  have hfits := hs.fits
  have hroom := hs.room
  -- the byte behind the string comes along, whatever it is
  have hw : (s.buf.take (t.length + 1)).length = t.length + 1 := by
    rw [List.length_take]
    omega
  have htake : s.buf.take (t.length + 1) <+: s.buf := List.take_prefix _ _
  have htext : t <+: s.buf.take (t.length + 1) :=
    List.prefix_of_prefix_length_le hs.text htake (by omega)
  have hnul : t ++ ['\x00'] <+: s.buf → t ++ ['\x00'] <+: s.buf.take (t.length + 1) := fun hz =>
    List.prefix_of_prefix_length_le hz htake (by rw [hw, List.length_append]; exact Nat.le_refl _)
  rw [sdshdr.resize]
  refine (h.hdr_answers type hmax).bind fun b hb => ?_
  split
  · rename_i htype
    have hall : s.buf.take (t.length + 1) <+: realloc s.buf b := realloc_keeps htake (by omega)
    obtain ⟨hmade, halloc⟩ := Stores.made (s := { s with buf := realloc s.buf b }) hs.len ht
      (fun h => h5 (htype ▸ h)) (htype ▸ hn) ((realloc_length s.buf b).trans hb) (htext.trans hall)
    apply Answers.ok
    refine ⟨?_, hmade, halloc, fun hz => ?_⟩
    · rw [sdssetalloc_type]
      exact htype
    · rw [sdssetalloc_buf]
      exact (hnul hz).trans hall
  · obtain ⟨b', hstore, hb', hall⟩ :=
      store_head (b := b) (u := s.buf.take (t.length + 1)) (by omega)
    have hload : load s.buf 0 (s.len + 1) = some (s.buf.take (t.length + 1)) := by
      have hhead := load_head htake
      rw [hw] at hhead
      rw [hs.len]
      exact hhead
    rw [hload]
    refine Answers.write (s := ⟨type, 0, 0, b⟩) hstore ?_
    have hlen : s.len % 2 ^ type.bits = t.length := by
      rw [hs.len]
      exact Nat.mod_eq_of_lt (by omega)
    obtain ⟨hmade, halloc⟩ := Stores.made (s := sdssetlen ⟨type, 0, 0, b'⟩ s.len) hlen ht h5 hn
      (hb'.trans hb) (htext.trans hall)
    apply Answers.ok
    refine ⟨sdssetalloc_type _ _, hmade, halloc, fun hz => ?_⟩
    rw [sdssetalloc_buf]
    exact (hnul hz).trans hall

/-- What a string may grow to. -/
def MAX_SIZE : Nat := 2 ^ 64 - SDS_MAX_PREALLOC - 18

structure Roomy (s : sdshdr) (t : Str) (addlen : Nat) (s' : sdshdr) : Prop extends Stores s' t where
  kept : t ++ ['\x00'] <+: s.buf → t ++ ['\x00'] <+: s'.buf
  more : t.length + addlen ≤ sdsalloc s'
  knows : 0 < addlen → s'.type ≠ .TYPE_5

theorem Stores.makeRoomFor (hs : Stores s t) (h : Malloc) (hmax : t.length + addlen < MAX_SIZE) :
    Answers h (sdsMakeRoomFor h s addlen) (Roomy s t addlen) := by
  rw [MAX_SIZE, SDS_MAX_PREALLOC] at hmax
  rw [sdsMakeRoomFor]
  split
  · rename_i havail
    refine .ok ⟨hs, id, hs.avail havail, fun hpos ht => ?_⟩
    rw [hs.sdsavail_eq, if_pos ht] at havail
    omega
  · have hmod : (s.len + addlen) % 2 ^ 64 = t.length + addlen := by
      rw [hs.len]
      exact Nat.mod_eq_of_lt (by omega)
    rw [hmod, SDS_MAX_PREALLOC]
    dsimp only
    generalize hnew : (if t.length + addlen < 1024 * 1024 then (t.length + addlen) * 2
      else (t.length + addlen + 1024 * 1024) % 2 ^ 64) = newlen
    have hsize : t.length + addlen ≤ newlen ∧ newlen + 18 < 2 ^ 64 := by
      split at hnew <;> omega
    have htype : newlen < 2 ^ (if sdsReqType newlen = .TYPE_5 then SdsType.TYPE_8
        else sdsReqType newlen).bits := by
      have hreq := sdsReqType_lt (n := newlen) (by omega)
      split
      · rename_i h5
        rw [h5] at hreq
        exact hreq.trans (by decide)
      · exact hreq
    have hne : (if sdsReqType newlen = .TYPE_5 then SdsType.TYPE_8 else sdsReqType newlen) ≠
        .TYPE_5 := by
      split
      · decide
      · assumption
    refine (hs.resize h (by omega) hsize.2 (fun h5 => absurd h5 hne) htype).mono fun s' hs' => ?_
    refine ⟨hs'.2.toStores, hs'.2.kept, hs'.2.alloc ▸ hsize.1, fun _ h5 => ?_⟩
    exact hne (hs'.1 ▸ h5)

end Sds
