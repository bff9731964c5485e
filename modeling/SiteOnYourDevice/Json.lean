import SiteOnYourDevice.CString
import Mathlib.Algebra.Group.Int.Defs
import Mathlib.Data.Rat.Defs

namespace JsonC
open CString
set_option relaxedAutoImplicit false
set_option autoImplicit true

/-- A `json_object`; `null` is the NULL pointer. -/
inductive json_object
  | null
  | boolean (b : Bool)
  | int (n : Int)
  | double (q : Rat)
  | string (s : Str)
  | array (xs : List json_object)
  | object (fields : List (Str × json_object))

namespace json_object

/-- `json_object_new_string` of a C string. -/
def new_string (s : Str) : json_object := .string (cstr s)

/-- The value of a pointer that is not NULL. -/
def toOption : json_object → Option json_object
  | .null => none
  | j => some j

/-- A string somewhere in a value, as a text or as the name of a field. -/
inductive HasString : json_object → Str → Prop
  | string : HasString (.string s) s
  | element {xs : List json_object} (hx : x ∈ xs) (h : HasString x s) : HasString (.array xs) s
  | key {fields : List (Str × json_object)} (hf : (s, x) ∈ fields) : HasString (.object fields) s
  | field {fields : List (Str × json_object)} (hf : (k, x) ∈ fields) (h : HasString x s) :
      HasString (.object fields) s

/-- The character stands in a string of the value. -/
def Shows (q : Char) (j : json_object) : Prop := ∃ s, j.HasString s ∧ q ∈ s

end json_object

/-- What a program has of `json-c`, with what is documented of it: `json_tokener_parse`, which is
NULL for a text that is no value; `json_object_to_json_string`; `json_object_object_get_ex`, which
is NULL where there is no such field; `json_object_array_get_idx` at every index below
`json_object_array_length`, which asserts that it is given an array; and
`json_object_get_string`, `json_object_get_boolean` and `json_object_get_int`. The string of NULL is
NULL, which no caller asks for. -/
structure Texts where
  json_tokener_parse : Str → json_object
  json_object_to_json_string : json_object → Str
  get : json_object → Str → json_object
  elements : json_object → Option (List json_object)
  get_string : json_object → Str
  get_boolean : json_object → Bool
  get_int : json_object → Int
  get_object : ∀ fields key, get (.object fields) key = (fields.lookup key).getD .null
  get_no_object : ∀ j key, (∀ fields, j ≠ .object fields) → get j key = .null
  elements_array : ∀ xs, elements (.array xs) = some xs
  elements_asserts : ∀ j, (∀ xs, j ≠ .array xs) → elements j = none
  get_string_null : get_string .null = []
  get_string_string : ∀ s, get_string (.string s) = cstr s
  get_string_object : ∀ fields, get_string (.object fields) =
    cstr (json_object_to_json_string (.object fields))
  nul_not_mem_get_string : ∀ j, '\x00' ∉ get_string j
  get_boolean_boolean : ∀ b, get_boolean (.boolean b) = b
  get_int_int : ∀ n : Int, -2 ^ 31 ≤ n → n < 2 ^ 31 → get_int (.int n) = n

namespace Texts

/-- The nearest number of 32 bits. -/
def clampInt32 (n : Int) : Int := max (-2 ^ 31) (min n (2 ^ 31 - 1))

/-- The accessors of `json-c` over one parser and one printer. -/
def of (parse : Str → json_object) (print : json_object → Str) : Texts where
  json_tokener_parse := parse
  json_object_to_json_string := print
  get
    | .object fields, key => (fields.lookup key).getD .null
    | _, _ => .null
  elements
    | .array xs => some xs
    | _ => none
  get_string
    | .null => []
    | .string s => cstr s
    | j => cstr (print j)
  get_boolean
    | .boolean b => b
    | .int n => n ≠ 0
    | .double q => q ≠ 0
    | .string s => s ≠ []
    | _ => false
  get_int
    | .boolean b => if b then 1 else 0
    | .int n => clampInt32 n
    | .double q => clampInt32 (q.num.tdiv q.den)
    | .string s => clampInt32 (atoi s)
    | _ => 0
  get_object _ _ := rfl
  get_no_object j key h := by
    cases j with
    | object fields => exact absurd rfl (h fields)
    | _ => rfl
  elements_array _ := rfl
  elements_asserts j h := by
    cases j with
    | array xs => exact absurd rfl (h xs)
    | _ => rfl
  get_string_null := rfl
  get_string_string _ := rfl
  get_string_object _ := rfl
  nul_not_mem_get_string j := by
    cases j with
    | null => exact List.not_mem_nil
    | _ => exact nul_not_mem_cstr _
  get_boolean_boolean _ := rfl
  get_int_int n hle hlt := by
    simp only [clampInt32]
    omega

variable (json : Texts) {key key' : Str} {x : json_object} {fields : List (Str × json_object)}

theorem get_cons_self : json.get (.object ((key, x) :: fields)) key = x := by
  simp [json.get_object]

theorem get_cons_of_ne (h : (key == key') = false) :
    json.get (.object ((key', x) :: fields)) key = json.get (.object fields) key := by
  simp only [json.get_object, List.lookup_cons, h]

theorem elements_eq_some_iff {j : json_object} {xs : List json_object} :
    json.elements j = some xs ↔ j = .array xs := by
  cases j with
  | array ys => simp [json.elements_array]
  | _ => simp [json.elements_asserts]

theorem get_string_of_nul_free (h : '\x00' ∉ s) : json.get_string (.string s) = s :=
  (json.get_string_string s).trans (cstr_of_nul_free h)

end Texts

/-- The text of a value is parsed as the value. -/
def Texts.RoundTrip (json : Texts) (j : json_object) : Prop :=
  json.json_tokener_parse (json.get_string j) = j

/-- A text of one line that ends an object and shows every apostrophe of its strings. -/
structure Texts.OneLine (json : Texts) (j : json_object) : Prop where
  printable : ∀ c ∈ json.get_string j, ' ' ≤ c
  closed : (json.get_string j).getLast? = some '}'
  apostrophes : '\'' ∈ json.get_string j ↔ j.Shows '\''

namespace json_object

variable {fields : List (Str × json_object)}

@[simp] theorem toOption_eq_none {j : json_object} : j.toOption = none ↔ j = .null := by
  cases j <;> simp [toOption]

theorem toOption_eq_some {j x : json_object} (h : j.toOption = some x) : j = x := by
  cases j <;> cases h <;> rfl

@[simp] theorem get_string_new_string (json : Texts) :
    json.get_string (new_string s) = cstr s := by
  rw [new_string, json.get_string_string, cstr_cstr]

section Shows
variable {q : Char} {xs : List json_object}

@[simp] theorem shows_string : Shows q (.string s) ↔ q ∈ s := by
  constructor
  · rintro ⟨_, ⟨⟩, hq⟩
    exact hq
  · exact fun hq => ⟨s, .string, hq⟩

@[simp] theorem shows_new_string : Shows q (new_string s) ↔ q ∈ cstr s := shows_string

@[simp] theorem shows_array : Shows q (.array xs) ↔ ∃ x ∈ xs, Shows q x := by
  constructor
  · rintro ⟨s, h, hq⟩
    cases h with
    | element hx h => exact ⟨_, hx, s, h, hq⟩
  · rintro ⟨x, hx, s, h, hq⟩
    exact ⟨s, .element hx h, hq⟩

@[simp] theorem shows_object : Shows q (.object fields) ↔ ∃ p ∈ fields, q ∈ p.1 ∨ Shows q p.2 := by
  constructor
  · rintro ⟨s, h, hq⟩
    cases h with
    | key hf => exact ⟨_, hf, .inl hq⟩
    | field hf h => exact ⟨_, hf, .inr ⟨s, h, hq⟩⟩
  · rintro ⟨⟨k, x⟩, hf, hq | ⟨s, h, hq⟩⟩
    · exact ⟨k, .key hf, hq⟩
    · exact ⟨s, .field hf h, hq⟩

@[simp] theorem not_shows_boolean {b : Bool} : ¬ Shows q (.boolean b) := by
  rintro ⟨_, ⟨⟩, _⟩

@[simp] theorem not_shows_int : ¬ Shows q (.int n) := by
  rintro ⟨_, ⟨⟩, _⟩

end Shows

end json_object

end JsonC
