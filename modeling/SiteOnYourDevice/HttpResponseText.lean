import SiteOnYourDevice.HttpCallbacks
import SiteOnYourDevice.Decimal

namespace SiteOnYourDevice
open CString
set_option relaxedAutoImplicit false
set_option autoImplicit true

/-- What a server puts into its responses: the fields of `HttpServerInfo`, the title of a status,
the date, and the time of a file. None of them has a line end. -/
structure ResponseTexts where
  server_name : Str
  server_url : Str
  title : Nat → Str
  date : Str
  lastModified : Nat → Str
  server_name_line : '\r' ∉ server_name
  title_line : ∀ status, '\r' ∉ title status
  date_line : '\r' ∉ date
  lastModified_line : ∀ mod, '\r' ∉ lastModified mod

/-- `%" PRId32 "` of a longer integer: its low 32 bits. -/
def PRId32 (n : Int) : Str := decimalText (n.bmod (2 ^ 32))

def CONNECTION_CLOSE : Str := "Connection: close".toList
def CONNECTION_KEEP_ALIVE : Str := "Keep-Alive: timeout=15, max=100".toList

namespace ResponseTexts

variable (texts : ResponseTexts)

/-- The lines of `header_data` before its empty line; the extra header may hold several. -/
def lines (status : Nat) (extra_header mime_type : Option Str) (length : Option Int)
    (mod : Option Nat) (is_keep_alive : Bool) : List Str :=
  ["HTTP/1.1 ".toList ++ decimalText status ++ ' ' :: texts.title status,
      "Server: ".toList ++ texts.server_name, "Date: ".toList ++ texts.date] ++
    extra_header.toList ++ (mime_type.map ("Content-Type: ".toList ++ ·)).toList ++
    (length.map fun n => "Content-Length: ".toList ++ PRId32 n).toList ++
    (mod.map fun t => "Last-Modified: ".toList ++ texts.lastModified t).toList ++
    [if is_keep_alive then CONNECTION_KEEP_ALIVE else CONNECTION_CLOSE]

/-- Lines, each with its end, and the empty one. -/
def block (ls : List Str) : Str := ls.flatMap (· ++ ['\r', '\n']) ++ ['\r', '\n']

/-- `HttpClient::send_headers`: the bytes of `header_data`, as long as they fit into its 1024. -/
def header_data (h : ResponseHeader) : Str :=
  block (texts.lines h.status h.extra_header h.mime_type (h.length.map Int.ofNat) h.mod
    h.is_keep_alive)

/-- `HTML_PATTERN_ISISSSS7`: what stands between its conversions. -/
def HTML_PATTERN_ISISSSS7 : List Str :=
  [("<!DOCTYPE html>\n  <html>\n  <head>\n" ++
      "  <meta http-equiv=\"Content-type\" content=\"text/html;charset=UTF-8\">\n" ++
      "  <title>").toList, " ".toList,
    "</title>\n  </head>\n  <body bgcolor=\"#cc9999\">\n  <h4>".toList, " ".toList,
    "</h4>".toList, "<hr>\n  <address><a href=\"".toList, "\">".toList,
    "</a></address>\n  </body>\n  </html>".toList]

/-- A pattern with its arguments. -/
def fill : List Str → List Str → Str
  | piece :: pieces, arg :: args => piece ++ (arg ++ fill pieces args)
  | pieces, _ => pieces.flatten

/-- The page that is formatted; the text of a null pointer is that of glibc. -/
def page (status : Nat) (text : Option Str) : Str :=
  fill HTML_PATTERN_ISISSSS7 [decimalText status, texts.title status, decimalText status,
    texts.title status, (text.map cstr).getD "(null)".toList, texts.server_url,
    texts.server_name]

/-- The size of `err_data`. -/
def ERR_DATA_SIZE : Nat := 1024

/-- `err_len`, and what is in `err_data` then. -/
def err_data (status : Nat) (text : Option Str) : Int × Str :=
  snprintf ERR_DATA_SIZE (texts.page status text)

/-- The header block in what is written as text: that of a page, or the first write of a file. -/
def blockOf : HttpWritten → Option Str
  | .text status extra_header text is_keep_alive =>
    some (block (texts.lines status extra_header (some "text/html".toList)
      (some (texts.err_data status text).1) none is_keep_alive))
  | .raw data => some data
  | _ => none

end ResponseTexts

/-- The code with its own `header_data`. -/
def HttpRequestTypes.withTexts {ρ : Type*} (http : HttpRequestTypes ρ) (texts : ResponseTexts) :
    HttpRequestTypes ρ :=
  { http with header_data := texts.header_data }

/-- The lines of a header block as its receiver finds them, up to the empty one. -/
def headerLines : Str → List Str
  | [] => [[]]
  | '\r' :: '\n' :: s => [] :: headerLines s
  | c :: s =>
    match headerLines s with
    | [] => [[c]]
    | l :: ls => (c :: l) :: ls

/-- The value of a line, when it is a field with the name. -/
def fieldOf (name l : Str) : Option Str :=
  if (name ++ [':', ' ']).isPrefixOf l then some (l.drop (name.length + 2)) else none

/-- The values of the fields with a name. -/
def fieldsNamed (name : Str) (block : Str) : List Str :=
  (headerLines block).filterMap (fieldOf name)

theorem headerLines_append (h : '\r' ∉ l) (s : Str) :
    headerLines (l ++ '\r' :: '\n' :: s) = l :: headerLines s := by
  induction l with
  | nil => rfl
  | cons c l ih =>
    rw [List.mem_cons, not_or] at h
    rw [List.cons_append, headerLines, ih h.2]
    intro t hc
    exact absurd hc.symm h.1

/-- The receiver finds the lines that the block was built of. -/
theorem headerLines_block {ls : List Str} (h : ∀ l ∈ ls, '\r' ∉ l) :
    headerLines (ResponseTexts.block ls) = ls ++ [[], []] := by
  induction ls with
  | nil => rfl
  | cons l ls ih =>
    have hb : ResponseTexts.block (l :: ls) = l ++ '\r' :: '\n' :: ResponseTexts.block ls := by
      simp [ResponseTexts.block]
    rw [hb, headerLines_append (h l List.mem_cons_self),
      ih fun l' hm => h l' (List.mem_cons_of_mem l hm)]
    rfl

/-- A line that begins differently is another field, whatever its value is. -/
theorem fieldOf_append (name : Str) {a : Str} (h : ¬ name ++ [':', ' '] <+: a)
    (h' : ¬ a <+: name ++ [':', ' ']) (b : Str) : fieldOf name (a ++ b) = none := by
  rw [fieldOf, if_neg]
  intro hp
  rw [List.isPrefixOf_iff_prefix] at hp
  exact (List.prefix_or_prefix_of_prefix hp (List.prefix_append a b)).elim h h'

theorem line_append {a b : Str} (ha : '\r' ∉ a) (hb : '\r' ∉ b) : '\r' ∉ a ++ b := by
  rw [List.mem_append, not_or]
  exact ⟨ha, hb⟩

/-- The lines are lines, when the extra header and the type of the file are. -/
theorem ResponseTexts.lines_line (texts : ResponseTexts) {status : Nat}
    {extra_header mime_type : Option Str} {length : Option Int} {mod : Option Nat} {keep : Bool}
    (he : ∀ l ∈ extra_header, '\r' ∉ l) (hm : ∀ l ∈ mime_type, '\r' ∉ l) :
    ∀ l ∈ texts.lines status extra_header mime_type length mod keep, '\r' ∉ l := by
  have hstatus : '\r' ∉ "HTTP/1.1 ".toList ++ decimalText status ++ ' ' :: texts.title status :=
    line_append (line_append (by decide) (decimalText_line _))
      (line_append (a := [' ']) (by decide) (texts.title_line status))
  intro l hl
  simp only [lines, List.mem_append, List.mem_cons, List.not_mem_nil, or_false,
    Option.mem_toList, Option.map_eq_some_iff] at hl
  rcases hl with ((((hl | hl) | hl) | hl) | hl) | rfl
  · rcases hl with rfl | rfl | rfl
    · exact hstatus
    · exact line_append (by decide) texts.server_name_line
    · exact line_append (by decide) texts.date_line
  · exact he l hl
  · obtain ⟨mime, hmime, rfl⟩ := hl
    exact line_append (by decide) (hm mime hmime)
  · obtain ⟨n, _, rfl⟩ := hl
    exact line_append (by decide) (decimalText_line _)
  · obtain ⟨t, _, rfl⟩ := hl
    exact line_append (by decide) (texts.lastModified_line t)
  · cases keep <;> decide

/-- The texts of this server at one second. -/
def ResponseTexts.sample : ResponseTexts where
  server_name := "SiteOnYourDevice".toList
  server_url := "http://www.siteonyourdevice.com".toList
  title
    | 101 => "Switching Protocols".toList
    | 200 => "OK".toList
    | 404 => "Not Found".toList
    | _ => "Bad Request".toList
  date := "Sat, 01 Oct 2016 00:00:00 GMT".toList
  lastModified _ := "Sat, 01 Oct 2016 00:00:00 GMT".toList
  server_name_line := by decide
  title_line status := by
    split
    · decide
    · decide
    · decide
    · decide
  date_line := by decide
  lastModified_line _ := by decide

end SiteOnYourDevice
