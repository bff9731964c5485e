import SiteOnYourDevice.PendingRequests

namespace SiteOnYourDevice
open CString Sds
set_option relaxedAutoImplicit false
set_option autoImplicit true

/-- The `STATUS` of the web page. -/
inductive STATUS
  | OK
  | FAIL
deriving DecidableEq

/-- The status of a command as it stands in a response. -/
def STATUS.text : STATUS → Str
  | .OK => "ok".toList
  | .FAIL => "fail".toList

/-- What the page makes of a message; `args` keeps the blank in front of the first argument. -/
structure MsgObj where
  id : Str
  status : STATUS
  command : Str
  args : Str
deriving DecidableEq

/-- The loop of `parse_command_out`, from the character it is at on; `none` is its `undefined`.
Behind the command `pos` counts on, but the loop has returned by then. -/
def parseFrom (pos : Nat) (data id : Str) (status : STATUS) : Str → Option MsgObj
  | [] => none
  | c :: rest =>
    if c = ' ' then
      match pos with
      | 0 => parseFrom 1 [] data status rest
      | 1 =>
        if data = STATUS.OK.text then parseFrom 2 [] id .OK rest
        else if data = STATUS.FAIL.text then parseFrom 2 [] id .FAIL rest
        else none
      | 2 => some ⟨id, status, data, c :: rest⟩
      | pos + 3 => parseFrom (pos + 4) [] id status rest
    else parseFrom pos (data ++ [c]) id status rest

def parse_command_out (msg : Str) : Option MsgObj := parseFrom 0 [] [] .FAIL msg

/-- The words of `args`, each behind one blank. -/
def MsgObj.words (m : MsgObj) : List Str := (m.args.splitOn ' ').tail

/-- The page reads a message as the response with the arguments `args`. -/
def ReadAs (id : Str) (status : STATUS) (command : Str) (args : List Str) (msg : Str) : Prop :=
  ∃ m, parse_command_out msg = some m ∧ m.id = id ∧ m.status = status ∧ m.command = command ∧
    m.words = args

theorem parseFrom_char (hc : c ≠ ' ') (pos : Nat) (data id : Str) (status : STATUS) (rest : Str) :
    parseFrom pos data id status (c :: rest) = parseFrom pos (data ++ [c]) id status rest := by
  rw [parseFrom.eq_def]
  exact if_neg hc

theorem parseFrom_word (h : ' ' ∉ w) (pos : Nat) (data id : Str) (status : STATUS) (rest : Str) :
    parseFrom pos data id status (w ++ rest) = parseFrom pos (data ++ w) id status rest := by
  induction w generalizing data with
  | nil => rw [List.nil_append, List.append_nil]
  | cons c w ih =>
    have hc : c ≠ ' ' := fun hc => h (hc ▸ List.mem_cons_self)
    rw [List.cons_append, parseFrom_char hc, ih fun hw => h (List.mem_cons_of_mem c hw),
      List.append_assoc, List.singleton_append]

theorem STATUS.text_blank (status : STATUS) : ' ' ∉ status.text := by
  cases status <;> decide

theorem STATUS.cstr_text (status : STATUS) : cstr status.text = status.text := by
  cases status <;> decide

/-- The id and the status are read to their blanks. -/
theorem parse_command_out_head {id : Str} (h : ' ' ∉ id) (status : STATUS) (rest : Str) :
    parse_command_out (id ++ ' ' :: status.text ++ ' ' :: rest) =
      parseFrom 2 [] id status rest := by
  rw [parse_command_out, List.append_assoc, parseFrom_word h, List.nil_append, List.cons_append,
    parseFrom, if_pos rfl, parseFrom_word status.text_blank, List.nil_append, parseFrom,
    if_pos rfl]
  cases status with
  | OK => rfl
  | FAIL => rfl

/-- A command is read to the blank behind it; without one there is no message. -/
theorem parseFrom_command (h : ' ' ∉ w) (id : Str) (status : STATUS) (rest : Str) :
    parseFrom 2 [] id status w = none ∧
      parseFrom 2 [] id status (w ++ ' ' :: rest) = some ⟨id, status, w, ' ' :: rest⟩ := by
  constructor
  · have hw := parseFrom_word h 2 [] id status []
    rw [List.append_nil] at hw
    rw [hw]
    rfl
  · rw [parseFrom_word h, parseFrom, if_pos rfl, List.nil_append]

theorem mem_cstr (h : c ∈ cstr s) : c ∈ s := List.takeWhile_prefix _ |>.subset h

theorem cstr_eq_self : cstr s = s ↔ '\x00' ∉ s := by
  constructor
  · intro h hn
    rw [cstr, List.takeWhile_eq_self_iff] at h
    exact absurd (h _ hn) (by decide)
  · exact cstr_of_nul_free

theorem map_cstr_eq_self {args : List Str} : args.map cstr = args ↔ ∀ a ∈ args, '\x00' ∉ a := by
  have h : args.map cstr = args.map id ↔ ∀ a ∈ args, cstr a = id a := List.map_inj_left
  rw [List.map_id] at h
  rw [h]
  simp only [id, cstr_eq_self]

/-- What the page reads in the text that is published for a response. -/
theorem parse_joined {id command : Str} (hid : ' ' ∉ id) (hcmd : ' ' ∉ command) (status : STATUS)
    (args : List Str) :
    parse_command_out (InnerServerHandlerHost.joined id (status.text :: command :: args)) =
      if args = [] then none
      else some ⟨cstr id, status, cstr command, ' ' :: List.intercalate [' '] (args.map cstr)⟩ := by
  have hid' : ' ' ∉ cstr id := fun h => hid (mem_cstr h)
  have hcmd' : ' ' ∉ cstr command := fun h => hcmd (mem_cstr h)
  cases args with
  | nil =>
    have ht : InnerServerHandlerHost.joined id [status.text, command] =
        cstr id ++ ' ' :: status.text ++ ' ' :: cstr command := by
      simp [InnerServerHandlerHost.joined, List.intercalate, status.cstr_text]
    rw [ht, parse_command_out_head hid', (parseFrom_command hcmd' _ _ []).1]
    rfl
  | cons a args =>
    have ht : InnerServerHandlerHost.joined id (status.text :: command :: a :: args) =
        cstr id ++ ' ' :: status.text ++ ' ' :: (cstr command ++
          ' ' :: List.intercalate [' '] ((a :: args).map cstr)) := by
      simp [InnerServerHandlerHost.joined, List.intercalate, status.cstr_text]
    rw [ht, parse_command_out_head hid', (parseFrom_command hcmd' _ _ _).2]
    rfl

theorem words_joined {args : List Str} (h : ∀ a ∈ args, ' ' ∉ a) (hne : args ≠ []) :
    ((' ' :: List.intercalate [' '] args).splitOn ' ').tail = args := by
  have ht : ' ' :: List.intercalate [' '] args = List.intercalate [' '] ([] :: args) := by
    cases args with
    | nil => exact absurd rfl hne
    | cons a args => simp [List.intercalate]
  rw [ht, List.splitOn_intercalate]
  · rfl
  · intro l hl
    obtain rfl | hl := List.mem_cons.1 hl
    · exact List.not_mem_nil
    · exact h l hl
  · exact List.cons_ne_nil _ _

/-- The page reads the text published for a response as that response exactly when there is an
argument behind the command; a NUL cannot stand in an id or an argument that is read as a C
string. -/
theorem readAs_joined_iff {id command : Str} {args : List Str} (hid : ' ' ∉ id)
    (hcmd : ' ' ∉ command) (hargs : ∀ a ∈ args, ' ' ∉ a) (status : STATUS) :
    ReadAs id status command args
        (InnerServerHandlerHost.joined id (status.text :: command :: args)) ↔
      args ≠ [] ∧ ∀ a ∈ id :: command :: args, '\x00' ∉ a := by
  rw [ReadAs, parse_joined hid hcmd]
  by_cases hne : args = []
  · simp [hne]
  have hwords : MsgObj.words ⟨cstr id, status, cstr command,
      ' ' :: List.intercalate [' '] (args.map cstr)⟩ = args.map cstr := by
    apply words_joined
    · intro a ha
      obtain ⟨b, hb, rfl⟩ := List.mem_map.1 ha
      exact fun h => hargs b hb (mem_cstr h)
    · exact fun h => hne (List.map_eq_nil_iff.1 h)
  rw [if_neg hne]
  constructor
  · rintro ⟨_, hm, hi, _, hc, ha⟩
    obtain rfl := Option.some.inj hm
    rw [hwords] at ha
    simp only [List.forall_mem_cons]
    exact ⟨hne, cstr_eq_self.1 hi, cstr_eq_self.1 hc, map_cstr_eq_self.1 ha⟩
  · rintro ⟨_, h⟩
    simp only [List.forall_mem_cons] at h
    obtain ⟨hi, hc, ha⟩ := h
    refine ⟨_, rfl, cstr_eq_self.2 hi, rfl, cstr_eq_self.2 hc, ?_⟩
    rw [hwords, map_cstr_eq_self.2 ha]

namespace InnerServerHandlerHost

/-- A response to a pending request is published in a form the page reads as that response
exactly when it has an argument. -/
theorem published_readAs_iff {net : NetTypes} {s s' : InnerServerHandlerHost} {e : Event}
    {c : ClientId} {seq : cmd_id_t} {rc : RequestCallback} {status : STATUS} {command : Str}
    {args : List Str} (hs : step net s e = some s')
    (hr : received e = some ⟨c, seq, rc.request_id_, some (status.text :: command :: args)⟩)
    (hrc : rc ∈ s.subscribed_requests_) (hid : ' ' ∉ rc.request_id_) (hcmd : ' ' ∉ command)
    (hargs : ∀ a ∈ args, ' ' ∉ a) :
    (∃ msg, ⟨msg, some rc⟩ ∈ published s s' ∧ ReadAs rc.request_id_ status command args msg) ↔
      args ≠ [] ∧ ∀ a ∈ rc.request_id_ :: command :: args, '\x00' ∉ a := by
  have hpub : published s s' = (s.matched ⟨c, seq, rc.request_id_,
      some (status.text :: command :: args)⟩).map fun rc' =>
        ⟨joined rc'.request_id_ (status.text :: command :: args), some rc'⟩ := by
    rw [(frame_same hs hr).published_eq, published_processRequest]
    rfl
  rw [← readAs_joined_iff hid hcmd hargs status, hpub]
  constructor
  · rintro ⟨msg, hm, hread⟩
    obtain ⟨rc', _, he⟩ := List.mem_map.1 hm
    cases he
    exact hread
  · intro hread
    exact ⟨_, List.mem_map.2 ⟨rc, mem_matched.2 ⟨hrc, rfl⟩, rfl⟩, hread⟩

/-- A device is connected and the request with the id `7` waits for its answer. -/
def waiting : InnerServerHandlerHost :=
  { init with
    parent_ := .accept .init
    subscribed_requests_ := [⟨"7".toList, 0, 1⟩] }

theorem published_readAs_plz_config :
    ∃ msg, ⟨msg, some ⟨"7".toList, 0, 1⟩⟩ ∈ published waiting
        ((seqParser .plain .calm 0).DataReceived "1 7 ok plz_config conf\r\n".toList waiting) ∧
      ReadAs "7".toList .OK "plz_config".toList ["conf".toList] msg := by
  have hs : step .plain waiting (.dataReceived 0 "1 7 ok plz_config conf\r\n".toList .calm) =
      some ((seqParser .plain .calm 0).DataReceived "1 7 ok plz_config conf\r\n".toList waiting) := by
    simp only [step]
    exact if_pos (by decide)
  have hr : received (.dataReceived 0 "1 7 ok plz_config conf\r\n".toList .calm) =
      some ⟨0, 1, "7".toList,
        some (STATUS.OK.text :: "plz_config".toList :: ["conf".toList])⟩ := by
    decide
  have hrc : (⟨"7".toList, 0, 1⟩ : RequestCallback) ∈ waiting.subscribed_requests_ :=
    List.mem_singleton_self _
  exact (published_readAs_iff hs hr hrc (by decide) (by decide) (by decide)).2 (by decide)

/-- The answer to `plz_set_config` has no argument: the page makes nothing of it. -/
theorem not_published_readAs_plz_set_config :
    ¬ ∃ msg, ⟨msg, some ⟨"7".toList, 0, 1⟩⟩ ∈ published waiting
        ((seqParser .plain .calm 0).DataReceived "1 7 ok plz_set_config \r\n".toList waiting) ∧
      ReadAs "7".toList .OK "plz_set_config".toList [] msg := by
  rintro ⟨msg, hm, m, hparse, _⟩
  have hpub : (published waiting ((seqParser .plain .calm 0).DataReceived
      "1 7 ok plz_set_config \r\n".toList waiting)).map (·.msg) =
        ["7 ok plz_set_config".toList] := by
    decide
  have hmsg : msg ∈ ["7 ok plz_set_config".toList] := hpub ▸ List.mem_map_of_mem hm
  obtain rfl := List.mem_singleton.1 hmsg
  have hnone : parse_command_out "7 ok plz_set_config".toList = none := by decide
  rw [hnone] at hparse
  cases hparse

end InnerServerHandlerHost

end SiteOnYourDevice
