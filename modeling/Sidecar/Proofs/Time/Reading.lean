import Mathlib.Data.Nat.Digits.Defs
import Mathlib.Tactic.Lemma
import Sidecar.Time.Instant

/-!
# The text of an instant is read back

Days and dates of the calendar correspond (`Date.toDays_ofDays`), a number is read from its padded digits
(`Instant.digits?_padded`), and so each part of an instant's text gives what it was written from
(`Instant.parse?_text`).
-/

namespace Sidecar

/-! ## Days and dates -/

namespace Date

/-- The year of an era that a day of it falls into, counted from March, and the day of that year. -/
lemma year_and_day {day year dayOfYear : Int} (nonneg : 0 ≤ day) (lt : day < 146097)
    (hy : year = (day - day / 1460 + day / 36524 - day / 146096) / 365)
    (hd : dayOfYear = day - (365 * year + year / 4 - year / 100)) :
    0 ≤ year ∧ year < 400 ∧ 0 ≤ dayOfYear ∧ dayOfYear ≤ 365 := by
  have last : day / 146096 = 0 ∨ day = 146096 := by omega
  rcases last with last | rfl
  · -- four years have 1460 days and perhaps a leap day; `fours`, `rest` count them without leap days
    obtain ⟨fours, rest, fours_eq, rest_nonneg, rest_lt⟩ :
        ∃ fours rest, day = 1460 * fours + rest ∧ 0 ≤ rest ∧ rest < 1460 :=
      ⟨day / 1460, day % 1460, by omega, by omega, by omega⟩
    obtain ⟨century, century_eq⟩ : ∃ century, century = day / 36524 := ⟨_, rfl⟩
    obtain ⟨single, within, single_eq, within_nonneg, within_lt⟩ :
        ∃ single within, rest - fours + century = 365 * single + within ∧ 0 ≤ within ∧ within < 365 :=
      ⟨(rest - fours + century) / 365, (rest - fours + century) % 365, by omega, by omega, by omega⟩
    have year_eq : year = 4 * fours + single := by omega
    have days : 36524 * century ≤ day ∧ day < 36524 * century + 36524 := by omega
    have range : 25 * century ≤ fours ∧ fours ≤ 25 * century + 25 ∧ 0 ≤ century ∧ century ≤ 3 := by
      omega
    have single_range : -1 ≤ single ∧ single ≤ 3 := by omega
    clear hy last century_eq
    have quarter : year / 4 = fours ∧ 0 ≤ single ∨ year / 4 = fours - 1 ∧ single = -1 := by omega
    have hundreds : year / 100 = century := by omega
    rw [hundreds] at hd
    omega
  · subst hy hd
    decide

/-- Counting the days of a date undoes the way in which its era, year and month were found. -/
lemma toDays_of_parts {d : Date} {era year dayOfYear month : Int} (year_nonneg : 0 ≤ year)
    (year_lt : year < 400) (nonneg : 0 ≤ dayOfYear) (le : dayOfYear ≤ 365)
    (hm : month = (5 * dayOfYear + 2) / 153)
    (month_eq : (d.month : Int) = if month < 10 then month + 3 else month - 9)
    (year_eq : d.year = if (d.month : Int) ≤ 2 then year + era * 400 + 1 else year + era * 400)
    (day_eq : (d.day : Int) = dayOfYear - (153 * month + 2) / 5 + 1) :
    d.toDays = era * 146097 + (year * 365 + year / 4 - year / 100 + dayOfYear) - 719468 := by
  have range : 0 ≤ month ∧ month ≤ 11 := by omega
  unfold toDays
  by_cases early : month < 10
  · rw [if_pos early] at month_eq
    rw [if_neg (by omega)] at year_eq
    have late : ¬d.month ≤ 2 := by omega
    simp only [if_neg late, year_eq, day_eq]
    omega
  · rw [if_neg early] at month_eq
    rw [if_pos (by omega)] at year_eq
    have late : d.month ≤ 2 := by omega
    simp only [if_pos late, year_eq, day_eq]
    omega

/-- The date of a number of days has that many days before it. -/
theorem toDays_ofDays (days : Int) : (ofDays days).toDays = days := by
  obtain ⟨day, hday⟩ : ∃ day, day = (days + 719468) % 146097 := ⟨_, rfl⟩
  obtain ⟨year, hyear⟩ : ∃ year,
      year = (day - day / 1460 + day / 36524 - day / 146096) / 365 := ⟨_, rfl⟩
  obtain ⟨dayOfYear, hdayOfYear⟩ : ∃ dayOfYear,
      dayOfYear = day - (365 * year + year / 4 - year / 100) := ⟨_, rfl⟩
  obtain ⟨month, hmonth⟩ : ∃ month, month = (5 * dayOfYear + 2) / 153 := ⟨_, rfl⟩
  obtain ⟨year_nonneg, year_lt, nonneg, le⟩ :=
    year_and_day (by omega) (by omega) hyear hdayOfYear
  have date : ofDays days =
      ⟨if (if month < 10 then month + 3 else month - 9) ≤ 2
        then year + (days + 719468) / 146097 * 400 + 1 else year + (days + 719468) / 146097 * 400,
        (if month < 10 then month + 3 else month - 9).toNat,
        (dayOfYear - (153 * month + 2) / 5 + 1).toNat⟩ := by
    subst hmonth hdayOfYear hyear hday
    rfl
  have month_eq : ((ofDays days).month : Int) = if month < 10 then month + 3 else month - 9 := by
    rw [date]
    refine Int.toNat_of_nonneg ?_
    split <;> omega
  have year_eq : (ofDays days).year = if ((ofDays days).month : Int) ≤ 2
      then year + (days + 719468) / 146097 * 400 + 1
      else year + (days + 719468) / 146097 * 400 := by
    rw [month_eq, date]
  have day_eq : ((ofDays days).day : Int) = dayOfYear - (153 * month + 2) / 5 + 1 := by
    rw [date]
    exact Int.toNat_of_nonneg (by omega)
  rw [toDays_of_parts year_nonneg year_lt nonneg le hmonth month_eq year_eq day_eq]
  omega

end Date

namespace Instant

/-! ## Digits -/

variable {width n : Nat} {c : Char} {digits rest cs : List Char}

/-- A padded number has nothing but digits. -/
lemma isDigit_of_mem_padded (h : c ∈ padded width n) : c.isDigit = true := by
  rcases List.mem_append.mp h with zero | digit
  · rw [(List.mem_replicate.mp zero).2]
    rfl
  · exact Nat.isDigit_of_mem_toDigits (by decide) (by decide) digit

/-- A number that fits is padded to the width. -/
lemma length_padded (pos : 0 < width) (lt : n < 10 ^ width) : (padded width n).length = width := by
  have := (Nat.length_toDigits_le_iff (b := 10) (by decide) pos).mpr lt
  rw [padded, List.length_append, List.length_replicate]
  omega

/-- A padded number is not empty. -/
lemma padded_ne_nil (width n : Nat) : padded width n ≠ [] := by
  have := @Nat.length_toDigits_pos 10 n
  intro none
  have length := congrArg List.length none
  rw [padded, List.length_append, List.length_nil] at length
  omega

/-- What the digits of a padded number spell. -/
lemma foldl_padded (width n : Nat) :
    (padded width n).foldl (fun n c => n * 10 + (c.toNat - 48)) 0 = n := by
  have spelt : (padded width n).foldl (fun n c => n * 10 + (c.toNat - 48)) 0 =
      Nat.ofDigitChars 10 (padded width n) 0 := by
    rw [Nat.ofDigitChars_eq_foldl]
    simp only [Nat.mul_comm]
    rfl
  rw [spelt, padded, Nat.ofDigitChars_append, Nat.ofDigitChars_replicate_zero]
  exact Nat.ofDigitChars_ten_toDigits

/-- A number is read from its digits if these are all that are taken. -/
lemma digits?_of_take {limit : Nat}
    (taken : ((padded width n ++ rest).takeWhile Char.isDigit).take limit = padded width n) :
    digits? limit (padded width n ++ rest) = some (n, rest) := by
  have some_digits : (padded width n).isEmpty = false :=
    List.isEmpty_eq_false_iff.mpr (padded_ne_nil width n)
  simp only [digits?, taken, some_digits, foldl_padded]
  rw [List.drop_left]
  rfl

/-- A padded number is read back from as many digits. -/
lemma digits?_padded (pos : 0 < width) (lt : n < 10 ^ width) (rest : List Char) :
    digits? width (padded width n ++ rest) = some (n, rest) := by
  apply digits?_of_take
  rw [List.takeWhile_append_of_pos fun c => isDigit_of_mem_padded]
  exact List.take_left' (length_padded pos lt)

/-- The digits of a padded number end where it ends. -/
lemma takeWhile_padded (h : c.isDigit = false) (rest : List Char) :
    (padded width n ++ c :: rest).takeWhile Char.isDigit = padded width n := by
  rw [List.takeWhile_append_of_pos fun c => isDigit_of_mem_padded,
    List.takeWhile_cons_of_neg (by rw [h]; nofun), List.append_nil]

/-- Where something else than a digit follows, there may be any number of digits. -/
lemma digits?_padded_append (h : c.isDigit = false) (rest : List Char) :
    digits? (padded width n ++ c :: rest).length (padded width n ++ c :: rest) =
      some (n, c :: rest) := by
  apply digits?_of_take
  rw [takeWhile_padded h]
  exact List.take_of_length_le (by rw [List.length_append]; omega)

/-! ## White space -/

/-- No digit is a blank. -/
lemma isBlank_of_isDigit (h : c.isDigit = true) : Text.isBlank c = false := by
  have bounds : 48 ≤ c.toNat ∧ c.toNat ≤ 57 := by
    simp only [Char.isDigit, Bool.and_eq_true, decide_eq_true_eq] at h
    exact h
  simp only [Text.isBlank, Bool.or_eq_false_iff, Bool.and_eq_false_iff, decide_eq_false_iff_not]
  omega

/-- Where no blank comes first nothing is trimmed. -/
lemma trimStart_of_not_isBlank (h : Text.isBlank c = false) (rest : List Char) :
    Text.trimStart (c :: rest) = c :: rest :=
  List.dropWhile_cons_of_neg (by rw [h]; nofun)

/-- A padded number starts with a digit. -/
lemma exists_padded_eq_cons (width n : Nat) :
    ∃ first rest, padded width n = first :: rest ∧ first.isDigit = true := by
  obtain ⟨first, rest, padded_eq⟩ := List.exists_cons_of_ne_nil (padded_ne_nil width n)
  have mem : first ∈ padded width n := by
    rw [padded_eq]
    exact List.mem_cons_self ..
  exact ⟨first, rest, padded_eq, isDigit_of_mem_padded mem⟩

/-- Before a padded number nothing is trimmed. -/
lemma trimStart_padded (width n : Nat) (rest : List Char) :
    Text.trimStart (padded width n ++ rest) = padded width n ++ rest := by
  obtain ⟨first, more, padded_eq, digit⟩ := exists_padded_eq_cons width n
  rw [padded_eq]
  exact trimStart_of_not_isBlank (isBlank_of_isDigit digit) _

/-! ## The parts of the text -/

/-- A number of two digits is read back. -/
lemma number?_padded (lt : n < 100) (rest : List Char) :
    number? 2 (padded 2 n ++ rest) = some (n, rest) := by
  rw [number?, trimStart_padded]
  exact digits?_padded (by decide) lt rest

/-- A separator is found where it stands. -/
lemma separator?_cons (h : Text.isBlank c = false) (rest : List Char) :
    separator? c (c :: rest) = some rest := by
  rw [separator?, trimStart_of_not_isBlank h]
  exact if_pos rfl

/-- A year is read back, also one with a sign. -/
lemma year?_yearText (year : Int) (rest : List Char) :
    year? (yearText year ++ '-' :: rest) = some (year, '-' :: rest) := by
  unfold yearText
  split
  · next small =>
    obtain ⟨first, more, padded_eq, digit⟩ := exists_padded_eq_cons 4 year.toNat
    have lt : year.toNat < 10 ^ 4 := by omega
    have read := digits?_padded (by decide) lt ('-' :: rest)
    rw [year?, trimStart_padded]
    rw [padded_eq] at read ⊢
    split
    · next minus => cases minus; cases digit
    · next plus => cases plus; cases digit
    · simp only [read, Option.map_some, Int.toNat_of_nonneg small.1]
  · next large =>
    have hyphen : '-'.isDigit = false := rfl
    have read := @digits?_padded_append 4 year.natAbs _ hyphen rest
    by_cases negative : year < 0
    · have value : -(year.natAbs : Int) = year := by omega
      rw [if_pos negative, List.cons_append, year?, trimStart_of_not_isBlank rfl]
      simp only [read, Option.map_some, value]
    · have value : (year.natAbs : Int) = year := by omega
      rw [if_neg negative, List.cons_append, year?, trimStart_of_not_isBlank rfl]
      simp only [read, Option.map_some, value]

/-- A date that the calendar has is read from its text. -/
lemma date?_text {d : Date} (valid : d.isValid = true) (rest : List Char) :
    date? (yearText d.year ++ '-' :: padded 2 d.month ++ '-' :: padded 2 d.day ++ 'T' :: rest) =
      some (d, 'T' :: rest) := by
  have bounds : d.month < 100 ∧ d.day < 100 := by
    have days : Date.daysInMonth d.year d.month ≤ 31 := by
      unfold Date.daysInMonth
      split <;> (try split) <;> omega
    simp only [Date.isValid, Bool.and_eq_true, decide_eq_true_eq] at valid
    omega
  have hyphen : Text.isBlank '-' = false := rfl
  simp only [List.append_assoc, List.cons_append]
  simp only [date?, year?_yearText, separator?_cons hyphen, number?_padded bounds.1,
    number?_padded bounds.2, Option.bind_eq_bind, Option.bind_some, valid, if_true]

/-- A fraction of up to nine digits is read back as nanoseconds. -/
lemma fraction?_padded (pos : 0 < width) (le : width ≤ 9) (lt : n < 10 ^ width) :
    fraction? ('.' :: padded width n ++ ['Z']) = some (n * 10 ^ (9 - width), ['Z']) := by
  have taken : ((padded width n ++ ['Z']).takeWhile Char.isDigit).take 9 = padded width n := by
    rw [takeWhile_padded rfl]
    exact List.take_of_length_le (by rw [length_padded pos lt]; exact le)
  have left : (padded width n ++ ['Z']).dropWhile Char.isDigit = ['Z'] :=
    List.dropWhile_append_of_pos fun c => isDigit_of_mem_padded
  have some_digits : (padded width n).isEmpty = false :=
    List.isEmpty_eq_false_iff.mpr (padded_ne_nil width n)
  simp only [List.cons_append, fraction?, taken, left, some_digits, foldl_padded,
    length_padded pos lt]
  rfl

/-- The fraction of a second is read from its text, however many digits this has. -/
lemma fraction?_fractionText (lt : n < nanosPerSecond) :
    fraction? (fractionText n ++ ['Z']) = some (n, ['Z']) := by
  have bound : n < 1000000000 := lt
  unfold fractionText
  split
  · next zero => rw [zero]; rfl
  · split
    · next millis =>
      rw [fraction?_padded (by decide) (by decide) (by omega)]
      have : n / 1000000 * 10 ^ (9 - 3) = n := by omega
      rw [this]
    · split
      · next micros =>
        rw [fraction?_padded (by decide) (by decide) (by omega)]
        have : n / 1000 * 10 ^ (9 - 6) = n := by omega
        rw [this]
      · rw [fraction?_padded (by decide) (by decide) (by omega)]
        have : n * 10 ^ (9 - 9) = n := by omega
        rw [this]

/-- The time of day is read from its text. -/
lemma clock?_text {hour minute second : Nat} (hour_lt : hour < 24) (minute_lt : minute < 60)
    (second_le : second ≤ 60) (lt : n < nanosPerSecond) :
    clock? (padded 2 hour ++ ':' :: padded 2 minute ++ ':' :: padded 2 second ++ fractionText n ++
        ['Z']) =
      some (if second = 60 then ((hour * 60 + minute) * 60 + 59, nanosPerSecond + n)
        else ((hour * 60 + minute) * 60 + second, n), ['Z']) := by
  have colon : Text.isBlank ':' = false := rfl
  have inRange : (decide (23 < hour) || decide (59 < minute) || decide (60 < second)) = false := by
    simp only [Bool.or_eq_false_iff, decide_eq_false_iff_not]
    omega
  have hour_lt' : hour < 100 := by omega
  have minute_lt' : minute < 100 := by omega
  have second_lt' : second < 100 := by omega
  simp only [List.append_assoc, List.cons_append]
  simp only [clock?, number?_padded hour_lt', number?_padded minute_lt', number?_padded second_lt',
    separator?_cons colon, fraction?_fractionText lt, Option.bind_eq_bind, Option.bind_some, inRange,
    Bool.false_eq_true, if_false]
  split <;> rfl

/-- There is an instant at the second and the nanoseconds of an instant. -/
lemma make?_eq (t : Instant) : make? t.second t.nanos = some t :=
  dif_pos t.isProper

/-- The fraction that is written is less than a second. -/
lemma fraction_lt (t : Instant) : t.fraction < nanosPerSecond := by
  have := t.isProper.nanos_lt
  unfold fraction
  split <;> omega

/-- The second that is written is at most 60, as in a leap second. -/
lemma writtenSecond_le (t : Instant) : t.writtenSecond ≤ 60 := by
  unfold writtenSecond
  split <;> omega

/-- The second 60 that is written for a leap second is read as second 59 and its nanoseconds. -/
lemma clock_eq (t : Instant) :
    (if t.writtenSecond = 60 then
      ((t.clock / 3600 * 60 + t.clock / 60 % 60) * 60 + 59, nanosPerSecond + t.fraction)
    else ((t.clock / 3600 * 60 + t.clock / 60 % 60) * 60 + t.writtenSecond, t.fraction)) =
      (t.clock, t.nanos) := by
  unfold writtenSecond fraction
  by_cases leap : nanosPerSecond ≤ t.nanos
  · have last : t.clock % 60 = 59 := by
      have := t.isProper.leap leap
      unfold clock
      omega
    rw [if_pos leap, if_pos leap, if_pos (by omega)]
    refine Prod.ext ?_ ?_
    · dsimp only
      omega
    · dsimp only
      omega
  · rw [if_neg leap, if_neg leap, if_neg (by omega)]
    refine Prod.ext ?_ rfl
    dsimp only
    omega

/-- An instant is what its text says. -/
theorem parse?_text (t : Instant) : parse? t.text = some t := by
  have hour_lt : t.clock / 3600 < 24 := by
    unfold clock
    omega
  have minute_lt : t.clock / 60 % 60 < 60 := by omega
  have read := clock?_text hour_lt minute_lt t.writtenSecond_le t.fraction_lt
  rw [clock_eq] at read
  have chars : t.text.toList = yearText t.date.year ++ '-' :: padded 2 t.date.month ++
      '-' :: padded 2 t.date.day ++ 'T' :: (padded 2 (t.clock / 3600) ++
        ':' :: padded 2 (t.clock / 60 % 60) ++ ':' :: padded 2 t.writtenSecond ++
        fractionText t.fraction ++ ['Z']) := by
    rw [text, String.toList_ofList]
    simp only [List.append_assoc, List.cons_append]
  have zone : offset? (Text.trimStart ['Z']) = some (0, []) := rfl
  have days : t.date.toDays = t.second / 86400 := Date.toDays_ofDays _
  have second : t.second / 86400 * 86400 + (t.clock : Int) - 0 = t.second := by
    unfold clock
    omega
  have isValid : t.date.isValid = true := t.isProper.isValid
  rw [parse?, chars, parseChars?, date?_text isValid]
  simp only [read, zone, days, second, make?_eq, Option.bind_eq_bind, Option.bind_some]
  rfl

end Instant

end Sidecar
