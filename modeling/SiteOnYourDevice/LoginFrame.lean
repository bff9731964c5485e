import SiteOnYourDevice.ConfigurationFrame
import SiteOnYourDevice.SplitArgsSuffix
import SiteOnYourDevice.ValidateEmail

namespace SiteOnYourDevice
open CString Sds JsonC
set_option relaxedAutoImplicit false
set_option autoImplicit true

variable {Url : Type} {types : CommonTypes Url} {json : Texts} {env : DeviceEnv}

/-- A password as `generateHash` stores it: an MD5 digest in lower-case hexadecimal digits. -/
structure IsMd5 (p : Str) : Prop where
  length : p.length = 32
  digits : ∀ c ∈ p, isdigit c = true ∨ 'a' ≤ c ∧ c ≤ 'f'

/-- A valid host and port: its text reads back, and has the characters of host names only. -/
structure HostText (types : CommonTypes Url) (h : HostAndPort) : Prop where
  round_trip : types.hostAndPort (types.ConvertToString h) = h
  plain : ∀ c ∈ types.ConvertToString h, isspace c = false ∧ c ≠ '"' ∧ c ≠ '\''
  nul_free : '\x00' ∉ types.ConvertToString h

/-- The answer to `who_are_you` behind its id, without its end; nothing quotes the argument. -/
def loginArgs (A : Str) : Str :=
  ' ' :: SUCCESS_COMMAND ++ ' ' :: SERVER_WHO_ARE_YOU_COMMAND ++ ' ' :: A

def loginLine (id : cmd_seq_t) (A : Str) : Str := '1' :: ' ' :: id ++ loginArgs A

theorem loginLine_fmt (id : cmd_seq_t) (A : Str) :
    CLIENT_WHO_ARE_YOU_COMMAND_RESP_SUCCSESS_1S A RESPONCE_COMMAND id =
      loginLine id A ++ END_OF_COMMAND := by
  have hc : CID_FMT RESPONCE_COMMAND = ['1'] := by decide
  simp only [CLIENT_WHO_ARE_YOU_COMMAND_RESP_SUCCSESS_1S, GENEATATE_SUCCESS_FMT, loginLine,
    loginArgs, hc, List.append_assoc, List.cons_append, List.nil_append]

variable {id : cmd_seq_t} {A : Str}

theorem mem_loginArgs (h : c ∈ loginArgs A) : c ∈ loginArgs [] ∨ c ∈ A := by
  have hargs : loginArgs A = loginArgs [] ++ A := by simp [loginArgs]
  rw [hargs] at h
  exact List.mem_append.1 h

theorem loginLine_no_end (hid : ReadId id) (hA : '\r' ∉ A) :
    ¬ END_OF_COMMAND <:+: loginLine id A := by
  apply not_infix_append
  · simp only [List.infix_cons_iff, hid.no_end, or_false, not_or]
    constructor
    · exact fun hp => absurd (List.cons_prefix_cons.1 hp).1 (by decide)
    · exact fun hp => absurd (List.cons_prefix_cons.1 hp).1 (by decide)
  · intro h
    obtain h | h := mem_loginArgs h
    · exact absurd h (by decide)
    · exact hA h
  · exact fun h => absurd (Option.some.inj h) (by decide)

theorem loginLine_nul_free (hid : ReadId id) (hA : '\x00' ∉ A) : '\x00' ∉ loginLine id A := by
  intro h
  obtain h | h := List.mem_append.1 h
  · simp only [List.mem_cons, hid.nul_free, or_false] at h
    rcases h with h | h
    · exact absurd h (by decide)
    · exact absurd h (by decide)
  · obtain h | h := mem_loginArgs h
    · exact absurd h (by decide)
    · exact hA h

theorem sdssplitargs_loginArgs (A : Str) :
    sdssplitargs (loginArgs A) =
      splitFrom .blank [SUCCESS_COMMAND, SERVER_WHO_ARE_YOU_COMMAND] A := by
  have hok : IsWord SUCCESS_COMMAND := .of_all (by decide) (by decide)
  have hwho : IsWord SERVER_WHO_ARE_YOU_COMMAND := .of_all (by decide) (by decide)
  rw [sdssplitargs, loginArgs, List.append_assoc, List.cons_append, splitFrom_blank_space rfl,
    hok.splitFrom_blank, List.cons_append, splitFrom_token_end rfl, hwho.splitFrom_blank,
    splitFrom_token_end rfl]
  rfl

theorem frameOf_login (hid : ReadId id) (hcr : '\r' ∉ A) (hnul : '\x00' ∉ A)
    (hl : (loginLine id A ++ END_OF_COMMAND).length ≤ MAX_COMMAND_SIZE - 1) :
    frameOf (buffText (loginLine id A ++ END_OF_COMMAND)) =
      (splitFrom .blank [SUCCESS_COMMAND, SERVER_WHO_ARE_YOU_COMMAND] A).map
        fun argv => ⟨RESPONCE_COMMAND, id, argv⟩ := by
  have hnul' := loginLine_nul_free hid hnul
  have hnul'' : '\x00' ∉ loginLine id A ++ END_OF_COMMAND := by
    rw [List.mem_append, not_or]
    exact ⟨hnul', by decide⟩
  obtain ⟨cmd, hcmd⟩ : ∃ cmd, loginArgs A = ' ' :: cmd := ⟨_, rfl⟩
  have hscan : scanCommand (loginLine id A ++ END_OF_COMMAND) =
      .command RESPONCE_COMMAND id (loginArgs A) (loginLine id A) := by
    have h := scanCommand_line hnul' (loginLine_no_end hid hcr) []
    rw [List.append_nil] at h
    rw [h, loginLine, hcmd]
    exact scanLine_digit rfl hid.no_blank cmd
  have ht : IsType RESPONCE_COMMAND := .inr (.inl rfl)
  rw [buffText_of_fits hnul'' hl, frameOf_command hscan, sdssplitargs_loginArgs]
  simp only [if_pos ht]
  cases splitFrom .blank [SUCCESS_COMMAND, SERVER_WHO_ARE_YOU_COMMAND] A with
  | none => rfl
  | some argv => rfl

/-- A zero byte hides the end of the frame. -/
theorem frameOf_login_nul (hid : ReadId id) (hcr : '\r' ∉ A) (hnul : '\x00' ∈ A) :
    frameOf (buffText (loginLine id A ++ END_OF_COMMAND)) = none := by
  cases hf : frameOf (buffText (loginLine id A ++ END_OF_COMMAND)) with
  | none => rfl
  | some c =>
    have hpre := buffText_prefix (loginLine id A ++ END_OF_COMMAND)
    have hpos := ends_of_frameOf hf
    rw [ends_of_short (loginLine_no_end hid hcr) hpre] at hpos
    · cases hpos
    · apply hpre.length_le.lt_of_ne
      intro hlen
      have hmem : '\x00' ∈ buffText (loginLine id A ++ END_OF_COMMAND) := by
        rw [hpre.eq_of_length hlen]
        simp [loginLine, loginArgs, hnul]
      exact nul_not_mem_cstr _ hmem

/-- The characters that split an argument. -/
def splitting : List Char := [' ', '\t', '\n', '\x0b', '\x0c', '\r', '"', '\'']

/-- A text that is read as it stands. -/
def Plain (w : Str) : Prop := ∀ c ∈ w, isspace c = false ∧ c ≠ '"' ∧ c ≠ '\''

theorem plain_iff : Plain w ↔ ∀ c ∈ splitting, c ∉ w := by
  constructor
  · intro h c hc hw
    obtain ⟨hs, hq, ha⟩ := h c hw
    simp only [splitting, List.mem_cons, List.not_mem_nil, or_false] at hc
    rcases hc with rfl | rfl | rfl | rfl | rfl | rfl | rfl | rfl <;> first
      | exact absurd hs (by decide)
      | exact hq rfl
      | exact ha rfl
  · intro h c hc
    have hne : ∀ d ∈ splitting, c ≠ d := fun d hd he => h d hd (he ▸ hc)
    simp only [splitting, List.mem_cons, List.not_mem_nil, or_false, forall_eq_or_imp,
      forall_eq] at hne
    simp [isspace, hne]

theorem Plain.append (ha : Plain a) (hb : Plain b) : Plain (a ++ b) := by
  intro c hc
  obtain hc | hc := List.mem_append.1 hc
  · exact ha c hc
  · exact hb c hc

theorem Plain.cons (hc : isspace c = false ∧ c ≠ '"' ∧ c ≠ '\'') (ha : Plain a) :
    Plain (c :: a) := by
  intro d hd
  obtain rfl | hd := List.mem_cons.1 hd
  · exact hc
  · exact ha d hd

theorem Plain.utf8 {s : JsString} (h : Plain s) : Plain (utf8 s) := by
  rw [plain_iff] at h ⊢
  intro c hc hmem
  have hascii : c.toNat < 128 := by
    have hall : splitting.all (fun c => c.toNat < 128) = true := by decide
    exact of_decide_eq_true (List.all_eq_true.1 hall c hc)
  exact h c hc ((mem_utf8 hascii).1 hmem)

theorem IsMd5.plain {p : Str} (h : IsMd5 p) : Plain p := by
  rw [plain_iff]
  intro c hc hmem
  obtain hd | hd := h.digits c hmem
  · have hall : splitting.all (fun c => !isdigit c) = true := by decide
    have hno := List.all_eq_true.1 hall c hc
    rw [hd] at hno
    cases hno
  · have hall : splitting.all (fun c => ¬ ('a' ≤ c ∧ c ≤ 'f')) = true := by decide
    exact of_decide_eq_true (List.all_eq_true.1 hall c hc) hd

theorem IsMd5.not_mem {p : Str} (h : IsMd5 p) (hd : isdigit c = false)
    (hc : ¬ ('a' ≤ c ∧ c ≤ 'f')) : c ∉ p := by
  intro hmem
  obtain hdigit | hletter := h.digits c hmem
  · rw [hd] at hdigit
    cases hdigit
  · exact hc hletter

theorem Plain.unclosed (h : Plain w) (hne : w ≠ []) : Unclosed w := by
  constructor
  · exact fun hm => (h _ hm).2.1 rfl
  · exact fun hm => (h _ hm).2.2 rfl
  · cases w with
    | nil => exact absurd rfl hne
    | cons c w => exact (h c List.mem_cons_self).1

namespace ValidateEmail
open Regex Re

variable {email : JsString}

theorem cr_not_mem (h : validateEmail email = true) : '\r' ∉ email := by
  rw [validateEmail, test_iff] at h
  exact not_mem_of_avoids (by decide) h

theorem last_of_mem (h : c ∈ s) : ∃ u w, s = u ++ c :: w ∧ c ∉ w := by
  obtain ⟨a, b, hs, ha⟩ := List.eq_append_cons_of_mem (List.mem_reverse.2 h)
  refine ⟨b.reverse, a.reverse, ?_, ?_⟩
  · rw [← List.reverse_reverse s, hs]
    simp
  · rwa [List.mem_reverse]

theorem domainPart_plain {d : JsString} (h : d ∈ domainPart.language) : Plain d := by
  rw [plain_iff]
  intro c hc
  have hall : splitting.all (fun c => domainPart.avoids c) = true := by decide
  exact not_mem_of_avoids (List.all_eq_true.1 hall c hc) h

theorem unquotedPart_avoid {u : JsString} (h : u ∈ unquotedPart.language) :
    ∀ c ∈ ':' :: splitting.dropLast, c ∉ u := by
  intro c hc
  have hall : (':' :: splitting.dropLast).all (fun c => unquotedPart.avoids c) = true := by decide
  exact not_mem_of_avoids (List.all_eq_true.1 hall c hc) h

/-- A login with a quote has a last one, and something plain behind it. -/
theorem Accepted.last_quote (h : Accepted email) (hq : '\'' ∈ email ∨ '"' ∈ email) :
    ∃ u q w, email = u ++ q :: w ∧ IsQuote q ∧ Plain w ∧ w ≠ [] := by
  cases h with
  | @quoted u d hd =>
    exact ⟨'"' :: u, '"', '@' :: d, rfl, .inl rfl, (domainPart_plain hd).cons (by decide), nofun⟩
  | @unquoted u d hu hd =>
    have hplain : Plain ('@' :: d) := (domainPart_plain hd).cons (by decide)
    have havoid := unquotedPart_avoid hu
    have hno : '"' ∉ u ++ '@' :: d := by
      rw [List.mem_append, not_or]
      exact ⟨havoid _ (by decide), fun hm => (hplain _ hm).2.1 rfl⟩
    have hmem : '\'' ∈ u := by
      obtain hq | hq := List.mem_append.1 (hq.resolve_right hno)
      · exact hq
      · exact absurd rfl (hplain _ hq).2.2
    obtain ⟨a, b, rfl, hb⟩ := last_of_mem hmem
    refine ⟨a, '\'', b ++ '@' :: d, by simp, .inr rfl, ?_, by simp⟩
    apply Plain.append _ hplain
    rw [plain_iff]
    intro c hc hcb
    by_cases hs : c = '\''
    · exact hb (hs ▸ hcb)
    · have hc' : c ∈ ':' :: splitting.dropLast := by
        have hsplit : splitting = splitting.dropLast ++ ['\''] := by decide
        rw [hsplit] at hc
        obtain hc | hc := List.mem_append.1 hc
        · exact List.mem_cons_of_mem _ hc
        · exact absurd (List.mem_singleton.1 hc) hs
      exact havoid c hc' (List.mem_append_right _ (List.mem_cons_of_mem _ hcb))

theorem Accepted.plain (h : Accepted email) (hs : '\'' ∉ email) (hd : '"' ∉ email) :
    Plain email ∧ ':' ∉ email := by
  cases h with
  | quoted => exact absurd List.mem_cons_self hd
  | @unquoted u d hu hdom =>
    have havoid := unquotedPart_avoid hu
    have hplain := domainPart_plain hdom
    have hcolon : ':' ∉ d := not_mem_of_avoids (by decide) hdom
    constructor
    · apply Plain.append _ (hplain.cons (by decide))
      rw [plain_iff]
      intro c hc
      by_cases hq : c = '\''
      · exact fun hm => hs (List.mem_append_left _ (hq ▸ hm))
      · apply havoid
        have hsplit : splitting = splitting.dropLast ++ ['\''] := by decide
        rw [hsplit] at hc
        obtain hc | hc := List.mem_append.1 hc
        · exact List.mem_cons_of_mem _ hc
        · exact absurd (List.mem_singleton.1 hc) hq
    · simp [hcolon, havoid ':' List.mem_cons_self]

end ValidateEmail

/-- An account of the web site on a device: its login is one the site accepts, its password the
stored digest. -/
structure SiteAccount (types : CommonTypes Url) (email : JsString) (info : UserAuthInfo) : Prop where
  accepted : validateEmail email = true
  login : info.login = utf8 email
  password : IsMd5 info.password
  host : HostText types info.host

namespace InnerServerHandler

variable (types json env id) in
theorem handleInnerRequestCommand_who_are_you {command : Str} (args : List Str)
    (s : InnerServerHandler Url)
    (hcommand : IS_EQUAL_COMMAND command SERVER_WHO_ARE_YOU_COMMAND = true) :
    s.handleInnerRequestCommand types json env id (command :: args) =
      some (s.Write env (buffText (loginLine id (authStr types s.authInfo) ++
        END_OF_COMMAND))).2 := by
  have hone := names_one (by decide) hcommand
  simp only [commands, List.forall_mem_cons] at hone
  obtain ⟨hping, -⟩ := hone
  simp only [handleInnerRequestCommand, hping (by decide), hcommand, Bool.false_eq_true, if_false,
    if_true, ← loginLine_fmt]
  rfl

/-- The device answers `who_are_you` with a frame whose argument the other side reads as the info
of the device. -/
def LoginArrives (types : CommonTypes Url) (json : Texts) (env : DeviceEnv) (id : cmd_seq_t)
    (argv : List Str) (s : InnerServerHandler Url) : Prop :=
  ∃ data argv', s.handleInnerRequestCommand types json env id argv = some (s.Write env data).2 ∧
    frameOf data = some ⟨RESPONCE_COMMAND, id, argv'⟩ ∧
    (argv'[2]?.bind fun str => userAuthInfoOfString types.toNetTypes (cstr str)) = some s.authInfo

theorem userAuthInfoOfString_authStr {info : UserAuthInfo} (hl : ':' ∉ info.login)
    (hp : ':' ∉ info.password) (hh : HostText types info.host) :
    userAuthInfoOfString types.toNetTypes (authStr types info) = some info := by
  simp [userAuthInfoOfString, authStr, strchr_append hl, strchr_append hp, hh.round_trip]

theorem authStr_rest_plain {info : UserAuthInfo} (hp : IsMd5 info.password)
    (hh : HostText types info.host) :
    Plain (':' :: info.password ++ ':' :: types.ConvertToString info.host) :=
  (hp.plain.cons (by decide)).append (Plain.cons (by decide) hh.plain)

variable {email : JsString} {s : InnerServerHandler Url}

theorem cr_not_mem_authStr (h : SiteAccount types email s.authInfo) :
    '\r' ∉ authStr types s.authInfo := by
  have hrest := authStr_rest_plain h.password h.host
  rw [authStr, h.login, List.append_assoc, List.mem_append, not_or]
  constructor
  · rw [mem_utf8 (by decide)]
    exact ValidateEmail.cr_not_mem h.accepted
  · exact fun hc => absurd (hrest _ hc).1 (by decide)

theorem nul_mem_authStr (h : SiteAccount types email s.authInfo) :
    '\x00' ∈ authStr types s.authInfo ↔ '\x00' ∈ email := by
  have hp : '\x00' ∉ s.authInfo.password := h.password.not_mem (by decide) (by decide)
  have hne : '\x00' ≠ ':' := by decide
  simp only [authStr, h.login, List.mem_append, List.mem_cons, mem_utf8 (c := '\x00') (by decide),
    hp, h.host.nul_free, hne, or_false]

/-- A login with a quote is not split. -/
theorem splitFrom_authStr_quote (h : SiteAccount types email s.authInfo)
    (hq : '\'' ∈ email ∨ '"' ∈ email) :
    splitFrom .blank v (authStr types s.authInfo) = none := by
  obtain ⟨u, q, w, hmail, hquote, hw, hne⟩ :=
    (ValidateEmail.accepted_of_validateEmail h.accepted).last_quote hq
  have hascii : q.toNat < 128 := by
    rcases hquote with rfl | rfl
    · decide
    · decide
  have hrest : Plain (utf8 w ++ (':' :: s.authInfo.password ++
      ':' :: types.ConvertToString s.authInfo.host)) :=
    hw.utf8.append (authStr_rest_plain h.password h.host)
  have htext : authStr types s.authInfo =
      utf8 u ++ q :: (utf8 w ++ (':' :: s.authInfo.password ++
        ':' :: types.ConvertToString s.authInfo.host)) := by
    rw [authStr, h.login, hmail, utf8_append, utf8_cons q w, utf8_ascii hascii]
    simp
  rw [htext]
  exact splitFrom_last_quote hquote (hrest.unclosed (by simp))

section Arrival
variable {read cmd b command : Str} {seq : cmd_id_t} {args : List Str}
  (hread : scanCommand read = .command seq id cmd b)
  (hcommand : IS_EQUAL_COMMAND command SERVER_WHO_ARE_YOU_COMMAND = true)
  (hacc : SiteAccount types email s.authInfo)
  (hl : (CLIENT_WHO_ARE_YOU_COMMAND_RESP_SUCCSESS_1S (authStr types s.authInfo)
    RESPONCE_COMMAND id).length ≤ MAX_COMMAND_SIZE - 1)
include hread hcommand hacc hl

theorem not_loginArrives_of_quote (hq : '\'' ∈ email ∨ '"' ∈ email) :
    ¬ s.LoginArrives types json env id (command :: args) := by
  rintro ⟨data, argv', hdata, hframe, -⟩
  have hans := handleInnerRequestCommand_who_are_you types json env id args s hcommand
  obtain rfl := Write_inj (Option.some.inj (hans.symm.trans hdata))
  have hid := readId_of_scanCommand hread
  have hcr := cr_not_mem_authStr hacc
  by_cases hnul : '\x00' ∈ authStr types s.authInfo
  · rw [frameOf_login_nul hid hcr hnul] at hframe
    cases hframe
  · rw [loginLine_fmt] at hl
    rw [frameOf_login hid hcr hnul hl, splitFrom_authStr_quote hacc hq] at hframe
    cases hframe

theorem loginArrives_of_plain (hs : '\'' ∉ email) (hd : '"' ∉ email) (hnul : '\x00' ∉ email) :
    s.LoginArrives types json env id (command :: args) := by
  have hans := handleInnerRequestCommand_who_are_you types json env id args s hcommand
  obtain ⟨hplain, hcolon⟩ := (ValidateEmail.accepted_of_validateEmail hacc.accepted).plain hs hd
  have hnul' : '\x00' ∉ authStr types s.authInfo := fun hn => hnul ((nul_mem_authStr hacc).1 hn)
  have hword : IsWord (authStr types s.authInfo) := by
    constructor
    · simp [authStr]
    · rw [authStr, hacc.login, List.append_assoc]
      exact hplain.utf8.append (authStr_rest_plain hacc.password hacc.host)
  have hlogin : ':' ∉ s.authInfo.login := by
    rw [hacc.login, mem_utf8 (by decide)]
    exact hcolon
  refine ⟨_, [SUCCESS_COMMAND, SERVER_WHO_ARE_YOU_COMMAND, authStr types s.authInfo], hans, ?_, ?_⟩
  · have hsplit := hword.splitFrom_blank (v := [SUCCESS_COMMAND, SERVER_WHO_ARE_YOU_COMMAND])
      (p := [])
    rw [List.append_nil] at hsplit
    rw [loginLine_fmt] at hl
    rw [frameOf_login (readId_of_scanCommand hread) (cr_not_mem_authStr hacc) hnul' hl, hsplit]
    rfl
  · have hpass : ':' ∉ s.authInfo.password := hacc.password.not_mem (by decide) (by decide)
    simp only [List.getElem?_cons_succ, List.getElem?_cons_zero, Option.bind_some,
      cstr_of_nul_free hnul']
    exact userAuthInfoOfString_authStr hlogin hpass hacc.host

/-- The host reads the account that the device was given exactly when its login has no quote and
no zero byte: the frame quotes nothing, and the site accepts all three. -/
theorem loginArrives_iff :
    s.LoginArrives types json env id (command :: args) ↔
      '\'' ∉ email ∧ '"' ∉ email ∧ '\x00' ∉ email := by
  constructor
  · intro h
    have hquote := mt (not_loginArrives_of_quote hread hcommand hacc hl) (not_not.2 h)
    rw [not_or] at hquote
    refine ⟨hquote.1, hquote.2, ?_⟩
    intro hnul
    obtain ⟨data, argv', hdata, hframe, -⟩ := h
    have hans := handleInnerRequestCommand_who_are_you types json env id args s hcommand
    obtain rfl := Write_inj (Option.some.inj (hans.symm.trans hdata))
    rw [frameOf_login_nul (readId_of_scanCommand hread) (cr_not_mem_authStr hacc)
      ((nul_mem_authStr hacc).2 hnul)] at hframe
    cases hframe
  · rintro ⟨hs, hd, hnul⟩
    exact loginArrives_of_plain hread hcommand hacc hl hs hd hnul

end Arrival

/-- A device with an account of the web site. -/
def accountDevice (email : String) : InnerServerHandler Str :=
  ⟨{ siteConfig with
      login := utf8 email.toList
      password := "0123456789abcdef0123456789abcdef".toList }, 0, true, [], [], []⟩

theorem siteAccount_accountDevice {email : String} (h : validateEmail email.toList = true) :
    SiteAccount twoHosts email.toList (accountDevice email).authInfo := by
  have hhex : "0123456789abcdef0123456789abcdef".toList.all
      (fun c => isdigit c || ('a' ≤ c && c ≤ 'f')) = true := by
    decide
  have htext : (twoHosts.ConvertToString ⟨"localhost".toList, 80⟩).all
      (fun c => !isspace c && c ≠ '"' && c ≠ '\'') = true := by
    decide
  have hhost : HostText twoHosts ⟨"localhost".toList, 80⟩ := by
    refine ⟨by decide, ?_, by decide⟩
    intro c hc
    simpa [and_assoc] using List.all_eq_true.1 htext c hc
  refine ⟨h, rfl, ⟨rfl, ?_⟩, hhost⟩
  intro c hc
  simpa using List.all_eq_true.1 hhex c hc

theorem whoAreYou_read :
    scanCommand "0 7 who_are_you \r\n".toList =
      .command 0 "7".toList " who_are_you ".toList "0 7 who_are_you ".toList := by
  decide

theorem loginArrives_iff_mike :
    (accountDevice "mike@mail.com").LoginArrives twoHosts siteTexts calmDevice "7".toList
      ["who_are_you".toList] := by
  apply (loginArrives_iff whoAreYou_read (by decide)
    (siteAccount_accountDevice (by decide +kernel)) (by decide +kernel)).2
  decide

/-- The site accepts the apostrophe of `o'brien`, and the host refuses its frame. -/
theorem not_loginArrives_obrien :
    validateEmail "o'brien@mail.com".toList = true ∧
      ¬ (accountDevice "o'brien@mail.com").LoginArrives twoHosts siteTexts calmDevice "7".toList
        ["who_are_you".toList] := by
  have hv : validateEmail "o'brien@mail.com".toList = true := by decide +kernel
  constructor
  · exact hv
  · exact not_loginArrives_of_quote whoAreYou_read (by decide) (siteAccount_accountDevice hv)
      (by decide +kernel) (.inl (by decide))

end InnerServerHandler

end SiteOnYourDevice
