import SortableId.Proofs.Dates
import SortableId.Proofs.Tokens

/-!
# Printed instants are read back

A reader of its own takes the text of an instant apart: a year, and fields of as many digits as they
have, each ended by its mark.  It accepts the dates of the calendar and the times of a day, and it
counts the years, months and days up to them.
-/

namespace SortableId.Calendar

/-! ## Reading -/

/-- The number that the given number of digits write up to a mark, and the text behind the mark. -/
def field? (width : Nat) (mark : Char) (text : List Char) : Option (Nat × List Char) :=
  if (text.take width).all Char.isDigit ∧ text[width]? = some mark then
    some (Nat.ofDigitChars 10 (text.take width) 0, text.drop (width + 1))
  else
    none

/-- The year up to a hyphen.  It has four digits, or more than four behind a plus sign. -/
def year? (text : List Char) : Option (Nat × List Char) :=
  if text.head? = some '+' then
    let digits := text.tail.takeWhile Char.isDigit
    if 4 < digits.length ∧ digits.head? ≠ some '0' then field? digits.length '-' text.tail else none
  else
    field? 4 '-' text

/-- The instant of a text, in milliseconds since 1970. -/
def read? (text : String) : Option Nat := do
  let (year, text) ← year? text.toList
  let (month, text) ← field? 2 '-' text
  let (day, text) ← field? 2 'T' text
  let (hour, text) ← field? 2 ':' text
  let (minute, text) ← field? 2 ':' text
  let (second, text) ← field? 2 '.' text
  let (ms, text) ← field? 3 'Z' text
  let date : Date := { year, month, day }
  guard (text = [] ∧ date.InCalendar ∧ hour < 24 ∧ minute < 60 ∧ second < 60)
  return (((date.unixDay * 24 + hour) * 60 + minute) * 60 + second) * 1000 + ms

/-! ## Numbers -/

theorem field?_append {digits : List Char} (decimal : ∀ c ∈ digits, c.isDigit = true) (mark : Char)
    (rest : List Char) : field? digits.length mark (digits ++ mark :: rest) =
      some (Nat.ofDigitChars 10 digits 0, rest) := by
  have ended : (digits ++ mark :: rest)[digits.length]? = some mark := by simp
  have behind : (digits ++ mark :: rest).drop (digits.length + 1) = rest := by simp
  rw [field?, List.take_left, behind, if_pos ⟨List.all_eq_true.mpr decimal, ended⟩]

theorem isDigit_of_mem_toDigits {value : Nat} : ∀ c ∈ Nat.toDigits 10 value, c.isDigit = true :=
  fun _ member => Nat.isDigit_of_mem_toDigits (by decide) (by decide) member

theorem isDigit_of_mem_padded (width value : Nat) :
    ∀ c ∈ (padded width value).toList, c.isDigit = true := by
  intro c member
  rw [toList_padded] at member
  rcases List.mem_append.mp member with filled | digit
  · rw [List.eq_of_mem_replicate filled]
    rfl
  · exact isDigit_of_mem_toDigits c digit

/-- A number that fits into the width is filled up to it. -/
theorem length_padded {width value : Nat} (positive : 0 < width) (fits : value < 10 ^ width) :
    (padded width value).toList.length = width := by
  have le := (Nat.length_toDigits_le_iff (by decide) positive).mpr fits
  rw [toList_padded, List.length_append, List.length_replicate, Nat.sub_add_cancel le]

theorem ofDigitChars_padded (width value : Nat) :
    Nat.ofDigitChars 10 (padded width value).toList 0 = value := by
  rw [toList_padded, Nat.ofDigitChars_append, Nat.ofDigitChars_replicate_zero, Nat.mul_zero,
    Nat.ofDigitChars_ten_toDigits]

theorem field?_padded {width value : Nat} (positive : 0 < width) (fits : value < 10 ^ width)
    (mark : Char) (rest : List Char) :
    field? width mark ((padded width value).toList ++ mark :: rest) = some (value, rest) := by
  have read := field?_append (isDigit_of_mem_padded width value) mark rest
  rwa [length_padded positive fits, ofDigitChars_padded] at read

/-! ## Years -/

theorem field?_toDigits (year : Nat) (rest : List Char) :
    field? (Nat.toDigits 10 year).length '-' (Nat.toDigits 10 year ++ '-' :: rest) =
      some (year, rest) := by
  rw [field?_append isDigit_of_mem_toDigits, Nat.ofDigitChars_ten_toDigits]

theorem year?_yearText (year : Nat) (rest : List Char) :
    year? ((yearText year).toList ++ '-' :: rest) = some (year, rest) := by
  unfold yearText
  split
  next short =>
    have fits : year < 10 ^ 4 := by omega
    have count : (padded 4 year).toList.length = 4 := length_padded (by decide) fits
    have unsigned : ((padded 4 year).toList ++ '-' :: rest).head? ≠ some '+' := by
      intro sign
      have member : '+' ∈ (padded 4 year).toList := by
        rw [List.head?_append_of_ne_nil _ (List.ne_nil_of_length_eq_add_one count)] at sign
        exact List.mem_of_mem_head? sign
      exact absurd (isDigit_of_mem_padded 4 year '+' member) (by decide)
    rw [year?, if_neg unsigned]
    exact field?_padded (by decide) fits '-' rest
  next long =>
    have digits : (Nat.toDigits 10 year ++ '-' :: rest).takeWhile Char.isDigit =
        Nat.toDigits 10 year := by
      rw [List.takeWhile_append_of_pos isDigit_of_mem_toDigits,
        List.takeWhile_cons_of_neg (by decide), List.append_nil]
    have many : 4 < (Nat.toDigits 10 year).length := by
      by_contra few
      have fits := (Nat.length_toDigits_le_iff (by decide) (by decide)).mp (Nat.le_of_not_lt few)
      omega
    have leading : (Nat.toDigits 10 year).head? ≠ some '0' := by
      intro zero
      have vanishes := Json.eq_zero_of_head?_toDigits zero
      omega
    have written : ("+" ++ toString year).toList = '+' :: Nat.toDigits 10 year := by
      rw [String.toList_append, Nat.toString_eq_ofList_toDigits, String.toList_ofList,
        String.toList_ofList, List.singleton_append]
    rw [written, List.cons_append, year?, List.head?_cons, if_pos rfl, List.tail_cons]
    simp only [digits, if_pos (And.intro many leading)]
    exact field?_toDigits year rest

/-! ## Instants -/

theorem toList_instantText (date : Date) (hour minute second ms : Nat) :
    (instantText date hour minute second ms).toList = (yearText date.year).toList ++ '-' ::
      ((padded 2 date.month).toList ++ '-' :: ((padded 2 date.day).toList ++ 'T' ::
        ((padded 2 hour).toList ++ ':' :: ((padded 2 minute).toList ++ ':' ::
          ((padded 2 second).toList ++ '.' :: ((padded 3 ms).toList ++ ['Z'])))))) := by
  have hyphen : "-".toList = ['-'] := rfl
  have letterT : "T".toList = ['T'] := rfl
  have colon : ":".toList = [':'] := rfl
  have point : ".".toList = ['.'] := rfl
  have letterZ : "Z".toList = ['Z'] := rfl
  simp only [instantText, String.toList_append, List.append_assoc, hyphen, letterT, colon, point,
    letterZ, List.cons_append, List.nil_append]

theorem read?_instantText {date : Date} (inCalendar : date.InCalendar) {hour minute second ms : Nat}
    (hour_lt : hour < 24) (minute_lt : minute < 60) (second_lt : second < 60) (ms_lt : ms < 1000) :
    read? (instantText date hour minute second ms) =
      some ((((date.unixDay * 24 + hour) * 60 + minute) * 60 + second) * 1000 + ms) := by
  have two {value : Nat} (fits : value < 100) (mark : Char) (rest : List Char) :
      field? 2 mark ((padded 2 value).toList ++ mark :: rest) = some (value, rest) :=
    field?_padded (by decide) fits mark rest
  have month := two (Nat.lt_of_le_of_lt inCalendar.month_le (by decide))
  have day := two (Nat.lt_of_le_of_lt inCalendar.day_le (by decide))
  have hours := two (Nat.lt_trans hour_lt (by decide))
  have minutes := two (Nat.lt_trans minute_lt (by decide))
  have seconds := two (Nat.lt_trans second_lt (by decide))
  have millis := field?_padded (by decide : 0 < 3) ms_lt
  rw [read?, toList_instantText, year?_yearText]
  simp only [Option.bind_eq_bind, Option.bind_some, month, day, hours, minutes, seconds, millis,
    guard, inCalendar, hour_lt, minute_lt, second_lt, and_self, if_true]
  rfl

/-- The text of an instant is read as that instant. -/
theorem read?_timestamp (unixMs : Nat) : read? (timestamp unixMs) = some unixMs := by
  have inCalendar := Date.inCalendar_ofUnixDay (unixMs / 86400000)
  have hour_lt : unixMs % 86400000 / 3600000 < 24 := by omega
  rw [timestamp, read?_instantText inCalendar hour_lt (Nat.mod_lt _ (by decide))
    (Nat.mod_lt _ (by decide)) (Nat.mod_lt _ (by decide)), Date.unixDay_ofUnixDay]
  rw [Option.some.injEq]
  omega

/-- The epoch of identifiers is a new year's day. -/
example : read? "2020-01-01T00:00:00.000Z" = some Time.epochMs := by decide +kernel

end SortableId.Calendar
