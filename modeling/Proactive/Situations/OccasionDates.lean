import Proactive.Situations.IsoText
import Proactive.Situations.PersonalOccasion

/-! The next occurrence of a memory's date: when it is, and that looking for it does not raise. -/
namespace Proactive.Situations
open Proactive.Library Proactive.Store DeadlineText

section calendar
variable {year month dayOfMonth : Nat} {today date : Int}

private theorem daysBeforeMonth_le (first : 1 ≤ month) (last : month ≤ 12)
    (within : dayOfMonth ≤ IsoDate.daysInMonth year month) :
    IsoDate.daysBeforeMonth year month + dayOfMonth ≤ if IsoDate.leapYear year then 366 else 365 := by
  unfold IsoDate.daysBeforeMonth
  unfold IsoDate.daysInMonth at within ⊢
  generalize IsoDate.leapYear year = leap at within ⊢
  have table : ∀ leap : Bool, ∀ month ∈ List.range' 1 12,
      (List.range (month - 1)).foldl (fun days earlier =>
          days + if earlier + 1 = 2 then if leap = true then 29 else 28
            else if earlier + 1 = 4 ∨ earlier + 1 = 6 ∨ earlier + 1 = 9 ∨ earlier + 1 = 11 then 30 else 31) 0 +
        (if month = 2 then if leap = true then 29 else 28
          else if month = 4 ∨ month = 6 ∨ month = 9 ∨ month = 11 then 30 else 31) ≤
        if leap = true then 366 else 365 := by decide
  have whole := table leap month (List.mem_range'_1.mpr ⟨first,by omega⟩)
  exact Nat.le_trans (Nat.add_le_add_left within _) whole

theorem safeDate_cases (named : safeDate year month dayOfMonth = some date) :
    year ≤ 9999 ∧ daysBefore year < date + 719163 ∧ firstDate ≤ date ∧ date ≤ lastDate := by
  unfold safeDate at named
  split at named
  · rename_i early
    obtain ⟨ordinal,found,rfl⟩ := Option.map_eq_some_iff.mp named
    unfold IsoDate.ofCalendar at found
    split at found
    · rename_i valid
      obtain ⟨positive,first,last,least,within⟩ := valid
      have counted := Option.some.inj found
      have inYear := daysBeforeMonth_le first last within
      have final : year = 9999 → IsoDate.leapYear year = false := by
        rintro rfl
        rfl
      unfold IsoDate.toOrdinal IsoDate.daysBeforeYear at counted
      unfold daysBefore firstDate lastDate
      refine ⟨early,?_,?_,?_⟩
      · omega
      · omega
      · by_cases end_ : year = 9999
        · rw [if_neg (by rw [final end_]; decide)] at inYear
          omega
        · have most : IsoDate.daysBeforeMonth year month + dayOfMonth ≤ 366 := by
            split at inYear
            · exact inYear
            · omega
          omega
    · cases found
  · cases named

theorem dateOf_eq_ok_iff : dateOf year month dayOfMonth = .ok date ↔ safeDate year month dayOfMonth = some date := by
  unfold dateOf
  cases safeDate year month dayOfMonth with
  | none =>
    constructor
    · intro same
      cases same
    · intro same
      cases same
  | some other =>
    dsimp only
    rw [Except.ok.injEq,Option.some.injEq]

theorem occurrenceInYear_cases (named : occurrenceInYear year month dayOfMonth = .ok date) :
    daysBefore year < date + 719163 ∧ firstDate ≤ date ∧ date ≤ lastDate := by
  unfold occurrenceInYear at named
  split at named
  · exact (safeDate_cases (dateOf_eq_ok_iff.mp named)).2
  · exact (safeDate_cases (dateOf_eq_ok_iff.mp named)).2

/-- A date of the year after today's comes after today. -/
theorem next_year_later (later : daysBefore (yearOf today + 1 : Nat) < date + 719163) : today ≤ date := by
  have span := (civil_year_span today).2
  unfold yearOf at later
  unfold daysBefore at span later
  by_cases named : 0 ≤ (civil today).1
  · rw [Int.natCast_add,Int.toNat_of_nonneg named] at later
    omega
  · rw [Int.toNat_eq_zero.mpr (by omega)] at later
    omega

theorem yearlyOccurrence_cases (named : yearlyOccurrenceOnOrAfter today month dayOfMonth = .ok date) :
    today ≤ date ∧ date ≤ lastDate := by
  unfold yearlyOccurrenceOnOrAfter at named
  obtain ⟨occurrence,found,named⟩ := (Outcome.bind_ok_iff _ _ _).mp named
  split at named
  · rename_i later
    obtain rfl : occurrence = date := Except.ok.inj named
    exact ⟨later,(occurrenceInYear_cases found).2.2⟩
  · obtain ⟨later,_,most⟩ := occurrenceInYear_cases named
    exact ⟨next_year_later later,most⟩

/-- The next occurrence is today or later, and a day that a `date` can name. -/
theorem nextOccurrence_cases {characters : Characters} {item : DatedMemory}
    (named : nextOccurrence characters item today = .ok (some date)) : today ≤ date ∧ date ≤ lastDate := by
  unfold nextOccurrence at named
  have yearly {month dayOfMonth : Nat}
      (named : (yearlyOccurrenceOnOrAfter today month dayOfMonth).map some = .ok (some date)) :
      today ≤ date ∧ date ≤ lastDate := by
    obtain ⟨occurrence,found,same⟩ := (Outcome.map_ok_iff _ _ _).mp named
    obtain rfl := Option.some.inj same
    exact yearlyOccurrence_cases found
  split at named
  · cases named
  · split at named
    · exact yearly named
    · exact yearly named
    · obtain ⟨occurrence,found,same⟩ := (Outcome.map_ok_iff _ _ _).mp named
      split at same
      · rename_i later
        obtain rfl := Option.some.inj same
        exact ⟨later,(safeDate_cases (dateOf_eq_ok_iff.mp found)).2.2.2⟩
      · cases same

end calendar

section anchors
variable {characters : Characters} {anchor : String} {year month dayOfMonth other : Nat} {today : Int}

/-- The digits of every script stand for the numbers up to nine. -/
def Decimal (characters : Characters) : Prop := ∀ c value, characters.decimal c = some value → value ≤ 9

private theorem fold_lt (decimal : Decimal characters) {digits : List Char} {values : List Nat}
    (read : digits.mapM characters.decimal = some values) (start : Nat) :
    values.foldl (fun value digit => value * 10 + digit) start < (start + 1) * 10 ^ digits.length := by
  induction digits generalizing values start with
  | nil =>
    obtain rfl : [] = values := Option.some.inj read
    simp
  | cons first rest ih =>
    rw [List.mapM_cons] at read
    obtain ⟨value,named,read⟩ := Option.bind_eq_some_iff.mp read
    obtain ⟨others,tail,read⟩ := Option.bind_eq_some_iff.mp read
    obtain rfl : value::others = values := Option.some.inj read
    have small := decimal first value named
    calc (value::others).foldl (fun value digit => value * 10 + digit) start
        = others.foldl (fun value digit => value * 10 + digit) (start * 10 + value) := rfl
      _ < (start * 10 + value + 1) * 10 ^ rest.length := ih tail _
      _ ≤ ((start + 1) * 10) * 10 ^ rest.length := Nat.mul_le_mul_right _ (by omega)
      _ = (start + 1) * 10 ^ (first::rest).length := by
        rw [List.length_cons,Nat.pow_succ,Nat.mul_assoc,Nat.mul_comm 10]

theorem int_lt (decimal : Decimal characters) {digits : List Char} {value : Nat}
    (read : characters.int digits = some value) : value < 10 ^ digits.length := by
  cases digits with
  | nil => cases read
  | cons first rest =>
    obtain ⟨values,mapped,rfl⟩ := Option.map_eq_some_iff.mp read
    have bound := fold_lt decimal mapped 0
    rwa [Nat.zero_add,Nat.one_mul] at bound

/-- An anchor that the detector reads names a date, which lies in a leap year when the anchor has none. -/
theorem parseAnchor_valid (decimal : Decimal characters) {read : Option Nat}
    (parsed : parseAnchor characters anchor = some (read,month,dayOfMonth)) :
    isValidDate (read.getD 2024) month dayOfMonth = true ∧ read.getD 2024 ≤ 9999 := by
  have full {years months days : List Char} (four : years.length = 4)
      (parsed : fullAnchor characters years months days = some (read,month,dayOfMonth)) :
      isValidDate (read.getD 2024) month dayOfMonth = true ∧ read.getD 2024 ≤ 9999 := by
    obtain ⟨_,named,parsed⟩ := Option.bind_eq_some_iff.mp parsed
    obtain ⟨_,_,parsed⟩ := Option.bind_eq_some_iff.mp parsed
    obtain ⟨_,_,parsed⟩ := Option.bind_eq_some_iff.mp parsed
    have bound := int_lt decimal named
    rw [four] at bound
    split at parsed
    · rename_i valid
      cases parsed
      exact ⟨valid,Nat.le_of_lt_succ bound⟩
    · cases parsed
  have yearless {months days : List Char}
      (parsed : yearlessAnchor characters months days = some (read,month,dayOfMonth)) :
      isValidDate (read.getD 2024) month dayOfMonth = true ∧ read.getD 2024 ≤ 9999 := by
    obtain ⟨_,_,parsed⟩ := Option.bind_eq_some_iff.mp parsed
    obtain ⟨_,_,parsed⟩ := Option.bind_eq_some_iff.mp parsed
    split at parsed
    · rename_i valid
      cases parsed
      exact ⟨valid,by decide⟩
    · cases parsed
  unfold parseAnchor at parsed
  split at parsed
  · exact full rfl parsed
  · exact full rfl parsed
  · exact yearless parsed
  · exact yearless parsed
  · cases parsed

theorem isValidDate_iff : isValidDate year month dayOfMonth = true ↔
    1 ≤ year ∧ 1 ≤ month ∧ month ≤ 12 ∧ 1 ≤ dayOfMonth ∧ dayOfMonth ≤ IsoDate.daysInMonth year month := by
  unfold isValidDate IsoDate.ofCalendar
  split
  · rename_i valid
    exact iff_of_true rfl valid
  · rename_i invalid
    exact iff_of_false (by decide) invalid

private theorem dateOf_runs (early : year ≤ 9999) (valid : isValidDate year month dayOfMonth = true) :
    ∃ date, dateOf year month dayOfMonth = .ok date := by
  obtain ⟨ordinal,named⟩ := Option.isSome_iff_exists.mp valid
  refine ⟨ordinal + (firstDate - 1),dateOf_eq_ok_iff.mpr ?_⟩
  rw [safeDate,if_pos early,named]
  rfl

/-- The days of a month are those of each other year, but for the leap day. -/
theorem daysInMonth_shared (within : dayOfMonth ≤ IsoDate.daysInMonth other month)
    (ordinary : ¬(month = 2 ∧ dayOfMonth = 29 ∧ IsoDate.leapYear year = false)) :
    dayOfMonth ≤ IsoDate.daysInMonth year month := by
  unfold IsoDate.daysInMonth at within ⊢
  by_cases february : month = 2
  · rw [if_pos february] at within ⊢
    have most : dayOfMonth ≤ 29 := by
      split at within
      · exact within
      · omega
    cases leap : IsoDate.leapYear year with
    | true => exact most
    | false =>
      have short : dayOfMonth ≠ 29 := fun last => ordinary ⟨february,last,leap⟩
      rw [if_neg (by decide)]
      omega
  · rw [if_neg february] at within ⊢
    exact within

theorem occurrenceInYear_runs (valid : isValidDate other month dayOfMonth = true) (positive : 1 ≤ year)
    (early : year ≤ 9999) : ∃ date, occurrenceInYear year month dayOfMonth = .ok date := by
  obtain ⟨_,first,last,least,within⟩ := isValidDate_iff.mp valid
  unfold occurrenceInYear
  split
  · rename_i leapDay
    refine dateOf_runs early (isValidDate_iff.mpr ⟨positive,by decide,by decide,by decide,?_⟩)
    rw [IsoDate.daysInMonth,if_pos rfl,leapDay.2.2]
    decide
  · rename_i ordinary
    exact dateOf_runs early (isValidDate_iff.mpr ⟨positive,first,last,least,daysInMonth_shared within ordinary⟩)

/-- 1 January 9999, the latest local date when the instant lies in the year 9998. -/
def latestToday : Int := 2932532

private theorem yearOf_range (first : firstDate ≤ today) (early : today ≤ latestToday) :
    1 ≤ yearOf today ∧ yearOf today ≤ 9999 ∧ daysBefore (yearOf today) < today + 719163 := by
  obtain ⟨low,high⟩ := civil_year_span today
  unfold firstDate at first
  unfold latestToday at early
  have positive : 1 ≤ (civil today).1 := by
    unfold daysBefore at high
    omega
  have named : ((yearOf today : Nat) : Int) = (civil today).1 := Int.toNat_of_nonneg (by omega)
  rw [named]
  refine ⟨by omega,?_,low⟩
  unfold daysBefore at low
  omega

theorem yearlyOccurrence_runs (valid : isValidDate other month dayOfMonth = true) (first : firstDate ≤ today)
    (early : today ≤ latestToday) : ∃ date, yearlyOccurrenceOnOrAfter today month dayOfMonth = .ok date := by
  obtain ⟨positive,within,_⟩ := yearOf_range first early
  obtain ⟨occurrence,found⟩ := occurrenceInYear_runs valid positive within
  unfold yearlyOccurrenceOnOrAfter
  rw [found]
  change ∃ date, (if today ≤ occurrence then Except.ok occurrence else _) = _
  split
  · exact ⟨occurrence,rfl⟩
  · rename_i past
    -- in the year 9999 today can only be its first day, which no occurrence of the year precedes
    have earlier : yearOf today + 1 ≤ 9999 := by
      by_contra late
      have final : yearOf today = 9999 := by omega
      have after := (occurrenceInYear_cases found).1
      rw [final] at after
      unfold daysBefore at after
      unfold latestToday at early
      omega
    exact occurrenceInYear_runs valid (by omega) earlier

/-- Before the year 9999 no row is skipped because its date raises. -/
theorem nextOccurrence_runs (decimal : Decimal characters) (item : DatedMemory) (first : firstDate ≤ today)
    (early : today ≤ latestToday) : ∃ next, nextOccurrence characters item today = .ok next := by
  unfold nextOccurrence
  cases parsed : item.dateAnchor.bind (parseAnchor characters) with
  | none => exact ⟨none,rfl⟩
  | some read =>
    obtain ⟨year,month,dayOfMonth⟩ := read
    obtain ⟨anchor,_,parsed⟩ := Option.bind_eq_some_iff.mp parsed
    obtain ⟨valid,within⟩ := parseAnchor_valid decimal parsed
    obtain ⟨yearly,found⟩ := yearlyOccurrence_runs valid first early
    dsimp only
    rw [found]
    cases year with
    | none => exact ⟨some yearly,rfl⟩
    | some year =>
      cases item.recurrence with
      | yearly => exact ⟨some yearly,rfl⟩
      | none =>
        obtain ⟨date,dated⟩ := dateOf_runs within valid
        exact ⟨_,(Outcome.map_ok_iff _ _ _).mpr ⟨date,dated,rfl⟩⟩

end anchors

end Proactive.Situations
