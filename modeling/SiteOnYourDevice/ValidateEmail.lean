import SiteOnYourDevice.CString
import SiteOnYourDevice.Regex

namespace SiteOnYourDevice
open CString Regex
set_option relaxedAutoImplicit false
set_option autoImplicit true

/-- A JavaScript string by its Unicode characters. The classes below have a surrogate exactly when
they have the other one of its pair, so a match by code units is a match by characters. -/
abbrev JsString := List Char

/-- `\s`. -/
def jsSpace (c : Char) : Bool :=
  c ∈ ['\t', '\n', '\x0b', '\x0c', '\r', ' ', '\u00a0', '\u1680', '\u2028', '\u2029', '\u202f',
    '\u205f', '\u3000', '\ufeff'] || '\u2000' ≤ c && c ≤ '\u200a'

/-- `.`. -/
def jsDot (c : Char) : Bool := c ∉ ['\n', '\r', '\u2028', '\u2029']

def isalpha (c : Char) : Bool := ('a' ≤ c && c ≤ 'z') || ('A' ≤ c && c ≤ 'Z')

namespace ValidateEmail
open Re

/-- `[^<>()[\]\\.,;:\s@"]+`. -/
def atom : Re Char :=
  plus (cls fun c =>
    !(c ∈ ['<', '>', '(', ')', '[', ']', '\\', '.', ',', ';', ':', '@', '"'] || jsSpace c))

def unquotedPart : Re Char := cat atom (star (cat (sym '.') atom))

/-- `".+"`. -/
def quotedPart : Re Char := cat (sym '"') (cat (plus (cls jsDot)) (sym '"'))

/-- `[0-9]{1,3}`. -/
def octet : Re Char := (cls isdigit).between 1 2

def address : Re Char :=
  cat (sym '[') (cat octet (cat (sym '.') (cat octet (cat (sym '.') (cat octet
    (cat (sym '.') (cat octet (sym ']'))))))))

def name : Re Char :=
  cat (plus (cat (plus (cls fun c => isalpha c || c = '-' || isdigit c)) (sym '.')))
    (cat ((cls isalpha).times 2) (star (cls isalpha)))

def domainPart : Re Char := alt address name

def re : Re Char := cat (alt unquotedPart quotedPart) (cat (sym '@') domainPart)

end ValidateEmail

def validateEmail (email : JsString) : Bool := ValidateEmail.re.test email

example : validateEmail "o'brien@mail.com".toList = true := by decide +kernel

example : validateEmail "\"a b\"@[10.0.0.1]".toList = true := by decide +kernel

example : validateEmail "a b@mail.com".toList = false := by decide +kernel

namespace ValidateEmail
open Re

/-- What an accepted address is: one of the two kinds of local part, `@` and a domain. -/
inductive Accepted : JsString → Prop
  | unquoted {u d : JsString} (hu : u ∈ unquotedPart.language) (hd : d ∈ domainPart.language) :
    Accepted (u ++ '@' :: d)
  | quoted {u d : JsString} (hd : d ∈ domainPart.language) :
    Accepted ('"' :: u ++ '"' :: '@' :: d)

variable {email : JsString}

theorem accepted_of_validateEmail (h : validateEmail email = true) : Accepted email := by
  rw [validateEmail, test_iff, re, mem_cat] at h
  obtain ⟨u, hu, v, hv, rfl⟩ := h
  obtain ⟨a, ha, d, hd, rfl⟩ := mem_cat.1 hv
  rw [mem_sym] at ha
  subst ha
  obtain hu | hu := mem_alt.1 hu
  · exact .unquoted hu hd
  · obtain ⟨q, hq, t, ht, rfl⟩ := mem_cat.1 hu
    obtain ⟨x, hx, p, hp, rfl⟩ := mem_cat.1 ht
    rw [mem_sym] at hq hp
    subst hq hp
    have hshape : ['"'] ++ (x ++ ['"']) ++ (['@'] ++ d) = '"' :: x ++ '"' :: '@' :: d := by simp
    rw [hshape]
    exact .quoted hd

end ValidateEmail

/-- The bytes of a string in UTF-8. -/
def utf8 (s : JsString) : Str := (s.flatMap String.utf8EncodeChar).map fun b => Char.ofNat b.toNat

@[simp] theorem utf8_nil : utf8 [] = [] := rfl

theorem utf8_append (s t : JsString) : utf8 (s ++ t) = utf8 s ++ utf8 t := by
  simp only [utf8, List.flatMap_append, List.map_append]

theorem utf8_cons (c : Char) (s : JsString) : utf8 (c :: s) = utf8 [c] ++ utf8 s := utf8_append [c] s

theorem utf8_ascii (h : c.toNat < 128) : utf8 [c] = [c] := by
  have hle : c.val.toNat ≤ 0x7f := Nat.le_of_lt_succ h
  have hbyte : (UInt8.ofNat c.val.toNat).toNat = c.toNat := by
    rw [UInt8.toNat_ofNat']
    exact Nat.mod_eq_of_lt (Nat.lt_of_lt_of_le h (by decide))
  simp only [utf8, List.flatMap_cons, List.flatMap_nil, List.append_nil, String.utf8EncodeChar,
    if_pos hle, List.map_cons, List.map_nil, hbyte, Char.ofNat_toNat]

theorem toNat_byteChar (b : UInt8) : (Char.ofNat b.toNat).toNat = b.toNat := by
  have hv : b.toNat.isValidChar := .inl (Nat.lt_trans b.toNat_lt (by decide))
  rw [Char.ofNat, dif_pos hv]
  rfl

theorem utf8_not_ascii (h : ¬ c.toNat < 128) (hd : d ∈ utf8 [c]) : 128 ≤ d.toNat := by
  have hle : ¬ c.val.toNat ≤ 0x7f := fun hle => h (Nat.lt_succ_of_le hle)
  have hbytes : ∀ b ∈ String.utf8EncodeChar c, 128 ≤ b.toNat := by
    intro b hb
    simp only [String.utf8EncodeChar, if_neg hle] at hb
    split_ifs at hb <;>
      · simp only [List.mem_cons, List.not_mem_nil, or_false] at hb
        rcases hb with rfl | rfl | rfl | rfl <;>
          · rw [UInt8.toNat_ofNat']
            omega
  simp only [utf8, List.flatMap_cons, List.flatMap_nil, List.append_nil, List.mem_map] at hd
  obtain ⟨b, hb, rfl⟩ := hd
  rw [toNat_byteChar]
  exact hbytes b hb

theorem mem_utf8 (h : c.toNat < 128) : c ∈ utf8 s ↔ c ∈ s := by
  induction s with
  | nil => rfl
  | cons d s ih =>
    rw [utf8_cons, List.mem_append, List.mem_cons, ih]
    by_cases hd : d.toNat < 128
    · rw [utf8_ascii hd, List.mem_singleton]
    · have hne : c ≠ d := fun he => hd (he ▸ h)
      have hnot : c ∉ utf8 [d] := fun hc => absurd h (Nat.not_lt.2 (utf8_not_ascii hd hc))
      simp only [hne, hnot, false_or]

end SiteOnYourDevice
