import Mathlib.Algebra.Group.Nat.Basic
import ModuleManager.Declarative.Object

/-!
# Reading RFC 3339 times

A `metav1.Time` travels as RFC 3339 text, which `metav1.Time.UnmarshalJSON` and
`UnmarshalQueryParameter` read with `time.Parse(time.RFC3339, str)`. This file models that call
as Go's layout parser reads the layout `2006-01-02T15:04:05Z07:00`: a four-digit year, a
two-digit month and day, a one- or two-digit hour, two-digit minutes and seconds, a fraction of
a second after `.` or `,` that the layout does not name but Go reads (its first nine digits
count), and `Z` or an offset `±hh:mm`. Each field is checked against its range as it is read, and
the day against the month at the end. The fast path Go tries first for this layout accepts a part
of these texts and reads them alike.

A text the parser rejects gives the `*time.ParseError` Go builds, by its text: the element of
the layout that did not match with the rest of the text from there, or a value out of range.
The instant read is counted in seconds from Go's zero time in the proleptic Gregorian calendar.

## Main definitions

* `goQuote`: the quoting of the error texts of package `time`.
* `getnum`, `ParseFailure`, `parseRFC3339`.
* `isLeap`, `daysIn`, `dayNumber`: the calendar of `time.Date`.

## Main results

* `digitsValue_lt`: a string of digits is less than ten to its length, so the nanoseconds read
  from a fraction are less than a second (`nanoseconds`).
-/

namespace ModuleManager

/-! ### Quoting -/

/-- A byte as `\x` and two lower-case hex digits. -/
def hexEscape (b : UInt8) : String :=
  let lowerhex := "0123456789abcdef".toList
  "\\x" ++ String.mk [lowerhex.getD (b.toNat / 16) '0', lowerhex.getD (b.toNat % 16) '0']

/-- The characters of `quote` of package `time`: `"` and `\` escaped, and every byte of a
control or non-ASCII character written `\xhh`. -/
def goQuoteChars : List Char → String
  | [] => ""
  | c :: cs =>
    (if c.toNat < 0x20 ∨ 0x80 ≤ c.toNat then
      String.join ((String.utf8EncodeChar c).map hexEscape)
    else if c = '"' ∨ c = '\\' then "\\" ++ c.toString
    else c.toString) ++ goQuoteChars cs

/-- `quote` of package `time`. -/
def goQuote (s : String) : String :=
  "\"" ++ goQuoteChars s.toList ++ "\""

/-! ### The layout parser -/

/-- `time.RFC3339`. -/
def rfc3339 : String := "2006-01-02T15:04:05Z07:00"

/-- The value of a decimal digit. -/
def digitVal (c : Char) : Nat :=
  c.toNat - '0'.toNat

/-- The value of a string of decimal digits. -/
def digitsValue (ds : List Char) : Nat :=
  ds.foldl (fun n c => n * 10 + digitVal c) 0

/-- `getnum`: the number of one or two leading digits, of exactly two when `fixed`, and the
rest of the text. -/
def getnum (fixed : Bool) : List Char → Option (Nat × List Char)
  | c :: d :: s =>
    if !c.isDigit then none
    else if d.isDigit then some (digitVal c * 10 + digitVal d, s)
    else if fixed then none
    else some (digitVal c, d :: s)
  | [c] => if c.isDigit && !fixed then some (digitVal c, []) else none
  | [] => none

/-- Why `time.Parse` rejects a text: an element of the layout that does not match the rest of the
text from there (`cannotParse valueElem layoutElem`), or a message Go appends to the text, such
as a value out of range. -/
inductive ParseFailure
  | cannotParse (valueElem layoutElem : String)
  | message (msg : String)
  deriving DecidableEq, Repr

/-- `(*time.ParseError).Error()`, for the text parsed with the layout `time.RFC3339`. -/
def ParseFailure.text (value : String) : ParseFailure → String
  | cannotParse valueElem layoutElem => "parsing time " ++ goQuote value ++ " as " ++
      goQuote rfc3339 ++ ": cannot parse " ++ goQuote valueElem ++ " as " ++ goQuote layoutElem
  | message msg => "parsing time " ++ goQuote value ++ msg

/-- `skip` of a one-character literal of the layout. -/
def skipLiteral (expected : Char) : List Char → Except ParseFailure (List Char)
  | c :: s =>
    if c = expected then .ok s else .error (.cannotParse (String.mk (c :: s)) expected.toString)
  | [] => .error (.cannotParse "" expected.toString)

/-- A numeric element of the layout, read by `getnum`. -/
def stdNum (layoutElem : String) (fixed : Bool) (s : List Char) :
    Except ParseFailure (Nat × List Char) :=
  match getnum fixed s with
  | some r => .ok r
  | none => .error (.cannotParse (String.mk s) layoutElem)

/-- The range check after an element: `": " + rangeErrString + " out of range"`. -/
def checkRange (name : String) (ok : Bool) : Except ParseFailure Unit :=
  if ok then .ok () else .error (.message (": " ++ name ++ " out of range"))

/-- `stdLongYear`: four digits. -/
def stdLongYear : List Char → Except ParseFailure (Nat × List Char)
  | s@(a :: b :: c :: d :: rest) =>
    if [a, b, c, d].all Char.isDigit then .ok (digitsValue [a, b, c, d], rest)
    else .error (.cannotParse (String.mk s) "2006")
  | s => .error (.cannotParse (String.mk s) "2006")

theorem digitVal_lt {c : Char} (h : c.isDigit) : digitVal c < 10 := by
  simp only [Char.isDigit, Bool.and_eq_true, decide_eq_true_eq] at h
  have h9 : c.toNat ≤ 57 := h.2
  have h0 : '0'.toNat = 48 := rfl
  simp only [digitVal, h0]
  omega

theorem foldl_digits_lt (ds : List Char) (hds : ∀ c ∈ ds, c.isDigit) (acc : Nat) :
    ds.foldl (fun n c => n * 10 + digitVal c) acc < (acc + 1) * 10 ^ ds.length := by
  induction ds generalizing acc with
  | nil => exact Nat.lt_of_lt_of_eq (Nat.lt_succ_self acc) (Nat.mul_one _).symm
  | cons c ds ih =>
    have hc := digitVal_lt (hds c (List.mem_cons_self c ds))
    calc (c :: ds).foldl (fun n c => n * 10 + digitVal c) acc
        < (acc * 10 + digitVal c + 1) * 10 ^ ds.length :=
          ih (fun c' h => hds c' (List.mem_cons_of_mem c h)) _
      _ ≤ (acc + 1) * 10 * 10 ^ ds.length := Nat.mul_le_mul_right _ (by omega)
      _ = (acc + 1) * 10 ^ (c :: ds).length := by
          rw [List.length_cons, Nat.pow_succ, Nat.mul_assoc, Nat.mul_comm 10]

/-- A string of digits is less than ten to its length. -/
theorem digitsValue_lt {ds : List Char} (hds : ∀ c ∈ ds, c.isDigit) :
    digitsValue ds < 10 ^ ds.length := by
  simpa using foldl_digits_lt ds hds 0

/-- The nanoseconds of the first nine digits of a fraction, `parseNanoseconds`. -/
def nanoseconds (ds : List Char) (hds : ∀ c ∈ ds, c.isDigit) : {n : Nat // n < 1000000000} :=
  ⟨digitsValue (ds.take 9) * 10 ^ (9 - (ds.take 9).length), by
    have hlen : (ds.take 9).length ≤ 9 := by simp
    have hv := @digitsValue_lt (ds.take 9) fun c hc => hds c (List.mem_of_mem_take hc)
    calc digitsValue (ds.take 9) * 10 ^ (9 - (ds.take 9).length)
        < 10 ^ (ds.take 9).length * 10 ^ (9 - (ds.take 9).length) :=
          Nat.mul_lt_mul_of_pos_right hv (Nat.pos_pow_of_pos _ (by decide))
      _ = 1000000000 := by rw [← Nat.pow_add, Nat.add_sub_cancel' hlen]⟩

/-- The fraction of a second Go reads after the seconds although the layout names none: a `.` or
`,` and a digit start it, and it runs to the last digit. -/
def fracSecond : List Char → {n : Nat // n < 1000000000} × List Char
  | sep :: d :: rest =>
    if h : (sep = '.' ∨ sep = ',') ∧ d.isDigit then
      (nanoseconds (d :: rest.takeWhile Char.isDigit) fun c hc => by
        rcases List.mem_cons.1 hc with rfl | hc
        · exact h.2
        · exact List.mem_takeWhile_imp hc, rest.dropWhile Char.isDigit)
    else (⟨0, by decide⟩, sep :: d :: rest)
  | s => (⟨0, by decide⟩, s)

/-- `stdISO8601ColonTZ`: `Z`, or an offset `±hh:mm` in seconds east of UTC. An offset of up to
24 hours and 60 minutes is taken, and the range error is reported before a malformed sign. -/
def stdISO8601ColonTZ : List Char → Except ParseFailure (Int × List Char)
  | 'Z' :: rest => .ok (0, rest)
  | s@(sign :: h1 :: h2 :: colon :: m1 :: m2 :: rest) =>
    let bad : Except ParseFailure (Int × List Char) := .error (.cannotParse (String.mk s) "Z07:00")
    if colon ≠ ':' then bad
    else
      let hr := getnum true [h1, h2]
      let mm := if hr.isSome then getnum true [m1, m2] else none
      let hv := (hr.map Prod.fst).getD 0
      let mv := (mm.map Prod.fst).getD 0
      if 60 < mv then .error (.message ": time zone offset minute out of range")
      else if 24 < hv then .error (.message ": time zone offset hour out of range")
      else if mm.isNone then bad
      else if sign = '+' then .ok ((hv * 60 + mv) * 60, rest)
      else if sign = '-' then .ok (-((hv * 60 + mv) * 60 : Int), rest)
      else bad
  | s => .error (.cannotParse (String.mk s) "Z07:00")

/-! ### The calendar -/

/-- `isLeap`. -/
def isLeap (year : Nat) : Bool :=
  year % 4 == 0 && (year % 100 != 0 || year % 400 == 0)

/-- `daysBefore`: the days of a common year before each month, and the year's length. -/
def daysBefore : List Nat :=
  [0, 31, 59, 90, 120, 151, 181, 212, 243, 273, 304, 334, 365]

/-- `daysIn`: the days of a month in a year. -/
def daysIn (month year : Nat) : Nat :=
  if month = 2 ∧ isLeap year then 29 else daysBefore.getD month 0 - daysBefore.getD (month - 1) 0

/-- The days from January 1 of year 0 to January 1 of `year`. -/
def daysBeforeYear (year : Nat) : Nat :=
  365 * year + (year + 3) / 4 - (year + 99) / 100 + (year + 399) / 400

/-- The days from January 1 of year 0 to a date. -/
def dayNumber (year month day : Nat) : Nat :=
  daysBeforeYear year + daysBefore.getD (month - 1) 0 +
    (if isLeap year ∧ 2 < month then 1 else 0) + (day - 1)

/-- `time.Date` in UTC, less an offset: seconds after Go's zero time, January 1 of year 1. -/
def secondsOf (year month day hour min sec : Nat) (offset : Int) : Int :=
  ((dayNumber year month day : Int) - daysBeforeYear 1) * 86400 + hour * 3600 + min * 60 + sec -
    offset

/-- `time.Parse(time.RFC3339, value)`. -/
def parseRFC3339 (value : String) : Except ParseFailure Time := do
  let (year, s) ← stdLongYear value.toList
  let s ← skipLiteral '-' s
  let (month, s) ← stdNum "01" true s
  checkRange "month" (1 ≤ month && month ≤ 12)
  let s ← skipLiteral '-' s
  let (day, s) ← stdNum "02" true s
  let s ← skipLiteral 'T' s
  let (hour, s) ← stdNum "15" false s
  checkRange "hour" (hour < 24)
  let s ← skipLiteral ':' s
  let (min, s) ← stdNum "04" true s
  checkRange "minute" (min < 60)
  let s ← skipLiteral ':' s
  let (sec, s) ← stdNum "05" true s
  checkRange "second" (sec < 60)
  let (nsec, s) := fracSecond s
  let (offset, s) ← stdISO8601ColonTZ s
  if s ≠ [] then throw (.message (": extra text: " ++ goQuote (String.mk s)))
  checkRange "day" (1 ≤ day && day ≤ daysIn month year)
  return ⟨secondsOf year month day hour min sec offset, nsec.1, nsec.2⟩

example : (parseRFC3339 "1970-01-01T00:00:00Z").toOption.map Time.sec = some 62135596800 := by
  decide

end ModuleManager
