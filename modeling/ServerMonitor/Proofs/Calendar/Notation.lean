/-
This file states that an instant is read back from its text: years of any sign and
size, fractions of every width and leap seconds. The reader is lenient, but none of
its liberties applies to a text that the writer made: no blank stands in it, and
each number ends at the mark behind it.
-/

import ServerMonitor.Calendar.Notation
import ServerMonitor.Proofs.Text.Decimal

namespace ServerMonitor.Instant

open Text

/-! ### Marks and numbers -/

theorem isBlank_of_isDigit {character : Char} (digit : character.isDigit = true) :
    isBlank character = false := by
  obtain ⟨low, high⟩ := Char.isDigit_iff_toNat.mp digit
  have zero : '0'.toNat = 48 := rfl
  have nine : '9'.toNat = 57 := rfl
  simp [isBlank, blankRanges]
  omega

theorem skipBlanks_cons {first : Char} (clear : isBlank first = false) (rest : List Char) :
    skipBlanks (first :: rest) = first :: rest :=
  List.dropWhile_cons_of_neg (by simp [clear])

theorem skipMark?_cons {mark : Char} (clear : isBlank mark = false) (rest : List Char) :
    skipMark? mark (mark :: rest) = some rest := by
  rw [skipMark?, skipBlanks_cons clear]
  exact if_pos rfl

section

variable {width number : Nat} {rest : List Char}

theorem skipBlanks_paddedDecimal :
    skipBlanks (paddedDecimal width number ++ rest) = paddedDecimal width number ++ rest := by
  cases digits : paddedDecimal width number with
  | nil => exact absurd digits (paddedDecimal_ne_nil width number)
  | cons first later =>
    exact skipBlanks_cons
      (isBlank_of_isDigit (isDigit_of_mem_paddedDecimal (digits ▸ List.mem_cons_self))) _

/-- A number of a width is read back, up to the mark behind it. -/
theorem readNumber?_paddedDecimal (positive : 0 < width) (fits : number < 10 ^ width)
    (ends : NoDigitFirst rest) :
    readNumber? width (paddedDecimal width number ++ rest) = some (number, rest) := by
  have length := length_paddedDecimal positive fits
  have whole : (paddedDecimal width number).take width = paddedDecimal width number :=
    List.take_of_length_le (Nat.le_of_eq length)
  rw [readNumber?, skipBlanks_paddedDecimal, spanDigits_paddedDecimal width number ends]
  dsimp only
  rw [whole, if_neg (paddedDecimal_ne_nil width number), ofDigits_paddedDecimal,
    List.drop_left]

/-! ### The date -/

theorem readSigned_paddedDecimal (sign : Int) (ends : NoDigitFirst rest) :
    readYear?.readSigned (paddedDecimal width number ++ rest) sign =
      some (sign * number, rest) := by
  rw [readYear?.readSigned, spanDigits_paddedDecimal width number ends]
  dsimp only
  rw [if_neg (paddedDecimal_ne_nil width number), ofDigits_paddedDecimal]

/-- A year of four digits has no sign, any other one does. -/
theorem readYear?_writtenYear (year : Int) (ends : NoDigitFirst rest) :
    readYear? (writtenYear year ++ rest) = some (year, rest) := by
  unfold writtenYear
  split
  · rename_i four
    have read : readNumber? 4 (paddedDecimal 4 year.toNat ++ rest) = some (year.toNat, rest) :=
      readNumber?_paddedDecimal (by decide) (by omega) ends
    have unsigned {mark : Char} {later : List Char} (digit : mark.isDigit = false)
        (same : skipBlanks (paddedDecimal 4 year.toNat ++ rest) = mark :: later) : False := by
      rw [skipBlanks_paddedDecimal] at same
      cases digits : paddedDecimal 4 year.toNat with
      | nil => exact paddedDecimal_ne_nil _ _ digits
      | cons first others =>
        rw [digits, List.cons_append] at same
        obtain ⟨rfl, -⟩ := List.cons.inj same
        rw [isDigit_of_mem_paddedDecimal (digits ▸ List.mem_cons_self)] at digit
        cases digit
    unfold readYear?
    split
    · rename_i same
      exact (unsigned rfl same).elim
    · rename_i same
      exact (unsigned rfl same).elim
    · rw [skipBlanks_paddedDecimal, read]
      exact congrArg (fun year => some (year, rest)) (Int.toNat_of_nonneg four.1)
  · by_cases negative : year < 0
    · rw [if_pos negative, List.cons_append, readYear?, skipBlanks_cons rfl]
      refine (readSigned_paddedDecimal _ ends).trans ?_
      exact congrArg (fun year => some (year, rest)) (by omega)
    · rw [if_neg negative, List.cons_append, readYear?, skipBlanks_cons rfl]
      refine (readSigned_paddedDecimal _ ends).trans ?_
      exact congrArg (fun year => some (year, rest)) (by omega)

theorem month_lt (date : Date) : date.month < 100 := by
  have valid := date.inCalendar
  simp only [isDay, Bool.and_eq_true, decide_eq_true_eq] at valid
  by_contra large
  have none : daysInMonth date.year date.month = 0 := by
    unfold daysInMonth
    split <;> omega
  omega

theorem day_lt (date : Date) : date.day < 100 := by
  have valid := date.inCalendar
  simp only [isDay, Bool.and_eq_true, decide_eq_true_eq] at valid
  have most : daysInMonth date.year date.month ≤ 31 := by
    unfold daysInMonth
    split <;> (try split) <;> omega
  omega

theorem readDate?_written (date : Date) (ends : NoDigitFirst rest) :
    readDate? (writtenYear date.year ++ '-' :: (paddedDecimal 2 date.month ++
        '-' :: (paddedDecimal 2 date.day ++ rest))) =
      some ((date.year, date.month, date.day), rest) := by
  have dash (later : List Char) : NoDigitFirst ('-' :: later) := (noDigitFirst_cons _ _).mpr rfl
  have year := readYear?_writtenYear date.year
    (dash (paddedDecimal 2 date.month ++ '-' :: (paddedDecimal 2 date.day ++ rest)))
  have month := readNumber?_paddedDecimal (by decide : 0 < 2) (month_lt date)
    (dash (paddedDecimal 2 date.day ++ rest))
  have day := readNumber?_paddedDecimal (by decide : 0 < 2) (day_lt date) ends
  have mark (later : List Char) : skipMark? '-' ('-' :: later) = some later :=
    skipMark?_cons rfl later
  simp [readDate?, year, month, day, mark]

/-! ### The time of day -/

/-- A fraction of three, six or nine digits stands for its nanoseconds. -/
theorem readFraction?_digits {digits : Nat} (positive : 0 < digits) (short : digits ≤ 9)
    (fits : number < 10 ^ digits) (ends : NoDigitFirst rest) :
    readFraction? ('.' :: (paddedDecimal digits number ++ rest)) =
      some (number * 10 ^ (9 - digits), rest) := by
  have length := length_paddedDecimal positive fits
  have kept : (paddedDecimal digits number).take 9 = paddedDecimal digits number :=
    List.take_of_length_le (by omega)
  rw [readFraction?, spanDigits_paddedDecimal digits number ends]
  dsimp only
  rw [if_neg (paddedDecimal_ne_nil digits number), kept, ofDigits_paddedDecimal, length]
  rfl

theorem readFraction?_writtenFraction {nanosecond : Nat}
    (valid : nanosecond < nanosecondsPerSecond) (ends : NoDigitFirst rest)
    (point : ∀ later, rest ≠ '.' :: later) :
    readFraction? (writtenFraction nanosecond ++ rest) = some (nanosecond, rest) := by
  have bound : nanosecond < 1000000000 := valid
  unfold writtenFraction
  split
  · rename_i zero
    unfold readFraction?
    split
    · rename_i later same
      exact absurd same (point later)
    · rw [zero]
      rfl
  split
  · rename_i milliseconds
    rw [List.cons_append, readFraction?_digits (by decide) (by decide) (by omega) ends]
    exact congrArg (fun nanosecond => some (nanosecond, rest)) (by omega)
  split
  · rename_i microseconds
    rw [List.cons_append, readFraction?_digits (by decide) (by decide) (by omega) ends]
    exact congrArg (fun nanosecond => some (nanosecond, rest)) (by omega)
  · rw [List.cons_append, readFraction?_digits (by decide) (by decide) (by omega) ends]
    exact congrArg (fun nanosecond => some (nanosecond, rest)) (by omega)

theorem noDigitFirst_writtenFraction (nanosecond : Nat) (ends : NoDigitFirst rest) :
    NoDigitFirst (writtenFraction nanosecond ++ rest) := by
  unfold writtenFraction
  split
  · exact ends
  split
  · exact (noDigitFirst_cons _ _).mpr rfl
  split <;> exact (noDigitFirst_cons _ _).mpr rfl

/-- The numbers of a time of day are read one after the other. -/
theorem readTime?_numbers {hour minute second fraction : Nat} (hours : hour < 24)
    (minutes : minute < 60) (seconds : second ≤ 60) (valid : fraction < nanosecondsPerSecond)
    (ends : NoDigitFirst rest) (point : ∀ later, rest ≠ '.' :: later) :
    readTime? (paddedDecimal 2 hour ++ ':' :: (paddedDecimal 2 minute ++
        ':' :: (paddedDecimal 2 second ++ (writtenFraction fraction ++ rest)))) =
      some (if second = 60 then (hour * 3600 + minute * 60 + 59, nanosecondsPerSecond + fraction)
        else (hour * 3600 + minute * 60 + second, fraction), rest) := by
  have mark (later : List Char) : skipMark? ':' (':' :: later) = some later :=
    skipMark?_cons rfl later
  have pair {number : Nat} (fits : number < 10 ^ 2) {later : List Char}
      (ends : NoDigitFirst later) :
      readNumber? 2 (paddedDecimal 2 number ++ later) = some (number, later) :=
    readNumber?_paddedDecimal (by decide) fits ends
  have colon (later : List Char) : NoDigitFirst (':' :: later) := (noDigitFirst_cons _ _).mpr rfl
  rw [readTime?, pair (by omega) (colon _)]
  simp only [Option.bind_eq_bind, Option.bind_some, mark]
  rw [pair (by omega) (colon _)]
  simp only [Option.bind_some, mark]
  rw [pair (by omega) (noDigitFirst_writtenFraction fraction ends)]
  simp only [Option.bind_some]
  rw [readFraction?_writtenFraction valid ends point]
  simp only [Option.bind_some]
  rw [if_pos ⟨hours, minutes, seconds⟩]
  split <;> rfl

/-- The time of day is read back; second 60 is the leap second. -/
theorem readTime?_writtenTime (instant : Instant) (ends : NoDigitFirst rest)
    (point : ∀ later, rest ≠ '.' :: later) :
    readTime? (instant.writtenTime ++ rest) =
      some ((instant.second, instant.nanosecond), rest) := by
  have valid := instant.valid
  simp only [isTime, Bool.and_eq_true, Bool.or_eq_true, decide_eq_true_eq] at valid
  have day : secondsPerDay = 86400 := rfl
  have split : instant.second / 3600 * 3600 + instant.second / 60 % 60 * 60 +
      instant.second % 60 = instant.second := by omega
  rw [writtenTime]
  simp only [List.append_assoc, List.cons_append]
  by_cases leap : nanosecondsPerSecond ≤ instant.nanosecond
  · have last : instant.second % 60 = 59 := by omega
    rw [if_pos leap, if_pos leap, last]
    rw [readTime?_numbers (by omega) (by omega) (by decide) (by omega) ends point, if_pos rfl,
      ← last, split, Nat.add_sub_cancel' leap]
  · rw [if_neg leap, if_neg leap,
      readTime?_numbers (by omega) (by omega) (by omega) (by omega) ends point,
      if_neg (by omega), split]

end

/-! ### The whole text -/

theorem ofParts?_date (date : Date) :
    Date.ofParts? date.year date.month date.day = some date :=
  dif_pos date.inCalendar

/-- At universal time the local date and time are those of the instant. -/
theorem ofLocal?_zero (instant : Instant) :
    ofLocal? instant.date instant.second instant.nanosecond 0 = some instant := by
  have valid := instant.valid
  simp only [isTime, Bool.and_eq_true, decide_eq_true_eq] at valid
  have early : ¬((instant.second : Int) < 0) := by omega
  have late : ¬((secondsPerDay : Int) ≤ (instant.second : Int)) := by omega
  simp only [ofLocal?, Int.sub_zero, if_neg early, if_neg late, Int.toNat_natCast]
  exact dif_pos instant.valid

/-- An instant is read back from its text. -/
theorem read?_written (instant : Instant) : read? instant.written = some instant := by
  have clock : instant.writtenClock ++ ['Z'] =
      writtenYear instant.date.year ++ '-' :: (paddedDecimal 2 instant.date.month ++
        '-' :: (paddedDecimal 2 instant.date.day ++ 'T' :: (instant.writtenTime ++ ['Z']))) := by
    simp [writtenClock]
  have date := readDate?_written instant.date
    ((noDigitFirst_cons 'T' (instant.writtenTime ++ ['Z'])).mpr rfl)
  have time := readTime?_writtenTime instant ((noDigitFirst_cons 'Z' []).mpr rfl)
    (fun _ same => nomatch same)
  have separator (later : List Char) : skipSeparator? ('T' :: later) = some later := rfl
  have zone : readZone? (skipBlanks ['Z']) = some (0, []) := rfl
  have nothing : skipBlanks [] = [] := rfl
  rw [read?, written, String.toList_ofList, clock, date]
  simp [separator, time, zone, nothing, ofParts?_date, ofLocal?_zero]

/-! ### The characters -/

/-- The characters that the text of an instant is made of. -/
def IsClockCharacter (character : Char) : Prop :=
  character.isDigit = true ∨ character ∈ ['-', '+', ':', 'T', '.', 'Z']

theorem isClockCharacter_paddedDecimal (width number : Nat) :
    ∀ character ∈ paddedDecimal width number, IsClockCharacter character :=
  fun _ member => .inl (isDigit_of_mem_paddedDecimal member)

theorem isClockCharacter_writtenYear (year : Int) :
    ∀ character ∈ writtenYear year, IsClockCharacter character := by
  unfold writtenYear
  split
  · exact isClockCharacter_paddedDecimal 4 _
  · refine List.forall_mem_cons.mpr ⟨?_, isClockCharacter_paddedDecimal 4 _⟩
    split <;> exact .inr (by decide)

theorem isClockCharacter_writtenFraction (nanosecond : Nat) :
    ∀ character ∈ writtenFraction nanosecond, IsClockCharacter character := by
  have point (width number : Nat) :
      ∀ character ∈ '.' :: paddedDecimal width number, IsClockCharacter character :=
    List.forall_mem_cons.mpr ⟨.inr (by decide), isClockCharacter_paddedDecimal width number⟩
  unfold writtenFraction
  split
  · exact List.forall_mem_nil _
  split
  · exact point 3 _
  split
  · exact point 6 _
  · exact point 9 _

theorem isClockCharacter_written (instant : Instant) :
    ∀ character ∈ instant.written.toList, IsClockCharacter character := by
  have mark (character : Char) (known : character ∈ ['-', '+', ':', 'T', '.', 'Z']) :
      IsClockCharacter character := .inr known
  rw [written, String.toList_ofList, writtenClock, writtenTime]
  simp only [List.forall_mem_append, List.forall_mem_cons]
  have digits := isClockCharacter_paddedDecimal
  exact ⟨⟨⟨⟨isClockCharacter_writtenYear _, mark _ (by decide), digits _ _⟩,
    mark _ (by decide), digits _ _⟩, mark _ (by decide), ⟨⟨⟨digits _ _, mark _ (by decide),
      digits _ _⟩, mark _ (by decide), digits _ _⟩, isClockCharacter_writtenFraction _⟩⟩,
    mark _ (by decide), List.forall_mem_nil _⟩

end ServerMonitor.Instant
