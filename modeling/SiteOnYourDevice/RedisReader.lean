import SiteOnYourDevice.CString
import Mathlib.Algebra.Group.Int.Defs

namespace SiteOnYourDevice
open CString
set_option relaxedAutoImplicit false
set_option autoImplicit true

/-- The types of replies, `REDIS_REPLY_*`. -/
inductive ReplyType
  | STRING | ARRAY | INTEGER | NIL | STATUS | ERROR
deriving DecidableEq

/-- A `redisReply*`: it may be NULL, and so may the elements of an array that is being read. An
`unallocated` array has so many `elements` and NULL for `element`. -/
inductive ReplyPtr
  | NULL
  | string (str : Str)
  | array (element : List ReplyPtr)
  | unallocated (elements : Nat)
  | integer (integer : Int)
  | nil
  | status (str : Str)
  | error (str : Str)

def ReplyPtr.isNULL : ReplyPtr → Bool
  | .NULL => true
  | _ => false

/-- `undefined` is no error that the reader sets: an element has been written that is not there, or
an assertion has failed. -/
inductive ReaderErr
  | PROTOCOL | undefined
deriving DecidableEq

/-- A `redisReadTask` without its pointers: the parent is the task below it, and the object is what
stands in the reply at the place of the task. A `type` that is not known yet is -1. -/
structure redisReadTask where
  type : Option ReplyType
  elements : Int
  idx : Int
deriving DecidableEq

/-- What a reader knows besides its buffer. The last task is the first of `rstack`; there is none
when `ridx` is -1. -/
structure ReadState where
  err : Option ReaderErr
  errstr : Str
  rstack : List redisReadTask
  reply : ReplyPtr

/-- A conversion to `int`. -/
def toInt (n : Int) : Int := n.bmod (2 ^ 32)

def toLongLong (n : Int) : Int := n.bmod (2 ^ 64)

theorem toInt_eq (h : -2 ^ 31 ≤ n) (h' : n < 2 ^ 31) : toInt n = n := by
  rw [toInt, Int.bmod_eq_of_le] <;> omega

theorem toLongLong_eq (h : -2 ^ 63 ≤ n) (h' : n < 2 ^ 63) : toLongLong n = n := by
  rw [toLongLong, Int.bmod_eq_of_le] <;> omega

/-- The loops of `seekNewline`, of which the inner one only goes on to the next `\r`. Behind the
buffer stands a NUL. -/
def seekFrom (s : Str) (_len : Int) : Nat → Nat → Option Nat
  | 0, _ => none
  | fuel + 1, pos =>
    if (pos : Int) < _len then
      if s[pos]? = some '\r' ∧ s[pos + 1]? = some '\n' then some pos
      else seekFrom s _len fuel (pos + 1)
    else none

def seekNewline (s : Str) : Option Nat := seekFrom s (toInt (s.length - 1)) s.length 0

/-- The loop of `readLongLong`; the end of the line stands for the `\r` behind it. -/
def readDigits (v : Int) : Str → Option Int
  | [] => some v
  | c :: s =>
    if c = '\r' then some v
    else if isdigit c then readDigits (toLongLong (toLongLong (v * 10) + (c.toNat - '0'.toNat))) s
    else none

def readLongLong (line : Str) : Int :=
  match readDigits 0 (signed line).2 with
  | some v => toLongLong ((if (signed line).1 then -1 else 1) * v)
  | none => -1

def chrtos (byte : Char) : Str :=
  (snprintf 8 <|
    if byte = '\\' ∨ byte = '"' then "\"\\".toList ++ [byte, '"']
    else if byte = '\n' then "\"\\n\"".toList
    else if byte = '\r' then "\"\\r\"".toList
    else if byte = '\t' then "\"\\t\"".toList
    else if byte = '\x07' then "\"\\a\"".toList
    else if byte = '\x08' then "\"\\b\"".toList
    else if isprint byte then ['"', byte, '"']
    else "\"\\x".toList ++ hex02 byte ++ ['"']).2

/-- A `redisReply*` with an object stored at a place below it; `none` when an element on the way is
not there. -/
def ReplyPtr.store (obj : ReplyPtr) : List Nat → ReplyPtr → Option ReplyPtr
  | [], _ => some obj
  | i :: place, .array element =>
    element[i]?.bind fun r => (store obj place r).map fun r' => .array (element.set i r')
  | _ :: _, _ => none

/-- The place of the object of the last task: its index, and those of the tasks below it. -/
def placeOf (rstack : List redisReadTask) : List Nat :=
  (rstack.dropLast.map fun task => task.idx.toNat).reverse

/-- `none` when an assertion fails. -/
def moveToNextTask : List redisReadTask → Option (List redisReadTask)
  | [] | [_] => some []
  | cur :: prv :: rest =>
    if prv.type = some .ARRAY then
      if cur.idx = prv.elements - 1 then moveToNextTask (prv :: rest)
      else if cur.idx < prv.elements then
        some (⟨none, -1, cur.idx + 1⟩ :: prv :: rest)
      else none
    else none

namespace ReadState

/-- `__redisReaderSetError`, but for the buffer. -/
def setError (err : ReaderErr) (str : Str) : ReadState := ⟨some err, (snprintf 128 str).2, [], .NULL⟩

def undefined : ReadState := ⟨some .undefined, [], [], .NULL⟩

def setErrorProtocolByte (byte : Char) : ReadState :=
  setError .PROTOCOL
    (snprintf 128 ("Protocol error, got ".toList ++ chrtos byte ++ " as reply type byte".toList)).2

def tooDeep : ReadState :=
  setError .PROTOCOL "No support for nested multi bulk replies with depth > 7".toList

/-- An object is created in its place, and the reader goes on to the next task. -/
def created (s : ReadState) (obj : ReplyPtr) : ReadState :=
  match obj.store (placeOf s.rstack) s.reply, moveToNextTask s.rstack with
  | some reply, some rstack => { s with reply, rstack }
  | _, _ => undefined

/-- The object of a line. -/
def lineObject (type : ReplyType) (line : Str) : ReplyPtr :=
  match type with
  | .INTEGER => .integer (readLongLong line)
  | .STATUS => .status line
  | _ => .error line

/-- The object of an array; `createArray` is given an `int`, of which `elements` makes a
`size_t`. -/
def arrayObject (elements : Int) : ReplyPtr :=
  if toInt elements < 0 then .unallocated (toInt elements + 2 ^ 64).toNat
  else .array (List.replicate (toInt elements).toNat .NULL)

/-- An array that has elements is created in its place, and the first of them is the next task. -/
def openArray (s : ReadState) (elements : Int) : ReadState :=
  match s.rstack, (arrayObject elements).store (placeOf s.rstack) s.reply with
  | cur :: rest, some reply =>
    { s with reply, rstack := ⟨none, -1, 0⟩ :: { cur with elements := toInt elements } :: rest }
  | _, _ => undefined

/-- What follows the header of an array. -/
def arrayHeader (s : ReadState) (elements : Int) : ReadState :=
  if elements = -1 then s.created .nil
  else if 0 < elements then s.openArray elements
  else s.created (arrayObject elements)

end ReadState

/-- A `redisReader`; its `len` is the length of the buffer. -/
structure redisReader extends ReadState where
  buf : Str
  pos : Nat

/-- The type that is read in the first byte of an item. -/
def replyType : Char → Option ReplyType
  | '-' => some .ERROR
  | '+' => some .STATUS
  | ':' => some .INTEGER
  | '$' => some .STRING
  | '*' => some .ARRAY
  | _ => none

namespace redisReader

def create : redisReader := ⟨⟨none, [], [], .NULL⟩, [], 0⟩

/-- Errors clear the buffer. -/
def withState (r : redisReader) (s : ReadState) : redisReader :=
  if s.err = none then { r with toReadState := s } else ⟨s, [], 0⟩

def readLine (r : redisReader) : Option (Str × redisReader) :=
  (seekNewline (r.buf.drop r.pos)).map fun len =>
    ((r.buf.drop r.pos).take len, { r with pos := r.pos + (len + 2) })

/-- `true` is `REDIS_OK`. -/
def processLineItem (r : redisReader) (type : ReplyType) : Bool × redisReader :=
  match r.readLine with
  | some (p, r) => (true, r.withState (r.created (ReadState.lineObject type p)))
  | none => (false, r)

def processBulkItem (r : redisReader) : Bool × redisReader :=
  match seekNewline (r.buf.drop r.pos) with
  | none => (false, r)
  | some s =>
    let len := readLongLong ((r.buf.drop r.pos).take s)
    let bytelen := s + 2
    if len < 0 then
      let r := { r with pos := r.pos + bytelen }
      (true, r.withState (r.created .nil))
    else
      let bytelen := bytelen + (len.toNat + 2)
      if r.pos + bytelen ≤ r.buf.length then
        let obj := .string (((r.buf.drop r.pos).drop (s + 2)).take len.toNat)
        let r := { r with pos := r.pos + bytelen }
        (true, r.withState (r.created obj))
      else (false, r)

def processMultiBulkItem (r : redisReader) : Bool × redisReader :=
  if r.rstack.length = 9 then (false, r.withState ReadState.tooDeep)
  else
    match r.readLine with
    | some (p, r) => (true, r.withState (r.arrayHeader (readLongLong p)))
    | none => (false, r)

/-- The second half of `processItem`. -/
def processTyped (r : redisReader) : ReplyType → Bool × redisReader
  | .ERROR => r.processLineItem .ERROR
  | .STATUS => r.processLineItem .STATUS
  | .INTEGER => r.processLineItem .INTEGER
  | .STRING => r.processBulkItem
  | .ARRAY => r.processMultiBulkItem
  | .NIL => (false, r.withState .undefined)

def processItem (r : redisReader) : Bool × redisReader :=
  match r.rstack with
  | [] => (false, r)
  | cur :: rest =>
    match cur.type with
    | some type => r.processTyped type
    | none =>
      match r.buf[r.pos]? with
      | none => (false, r)
      | some p =>
        match replyType p with
        | some type =>
          { r with rstack := { cur with type := some type } :: rest, pos := r.pos + 1 }.processTyped
            type
        | none => (false, r.withState (.setErrorProtocolByte p))

/-- The loop of `redisReaderGetReply`, which ends since every item takes bytes. -/
def processItems : Nat → redisReader → redisReader
  | 0, r => r
  | fuel + 1, r =>
    if r.rstack = [] then r
    else
      match r.processItem with
      | (true, r) => processItems fuel r
      | (false, r) => r

/-- `redisReaderFeed`; the capacity of the buffer is left out. -/
def Feed (r : redisReader) (buf : Str) : Bool × redisReader :=
  if r.err = none then (true, { r with buf := r.buf ++ buf }) else (false, r)

/-- The first item is set when the stack is empty. -/
def setFirst (r : redisReader) : redisReader :=
  if r.rstack = [] then { r with rstack := [⟨none, -1, -1⟩] } else r

def discard (r : redisReader) : redisReader :=
  if 1024 ≤ r.pos then { r with buf := r.buf.drop r.pos, pos := 0 } else r

/-- `redisReaderGetReply`: whether it is `REDIS_OK`, and the reply, or NULL. -/
def GetReply (r : redisReader) : Bool × ReplyPtr × redisReader :=
  if r.err ≠ none then (false, .NULL, r)
  else if r.buf.length = 0 then (true, .NULL, r)
  else
    let r := processItems (2 * (r.buf.length + 1)) r.setFirst
    if r.err ≠ none then (false, .NULL, r)
    else
      let r := r.discard
      if r.rstack = [] then (true, r.reply, { r with reply := .NULL }) else (true, .NULL, r)

end redisReader

end SiteOnYourDevice
