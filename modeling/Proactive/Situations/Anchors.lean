import Mathlib.Control.Monad.Basic
import Mathlib.Data.String.Basic
import Proactive.Library.Characters
import Proactive.Library.Outcome
import Proactive.Store.MemoryModels

/-! The date anchors of memories as the occasion detector reads them, against the anchors that
the memory store accepts. -/
namespace Proactive.Situations
open Proactive.Library Proactive.Store

variable (characters : Characters)

/-- `date(year, month, day)` does not raise. -/
def isValidDate (year month day : Nat) : Bool := (IsoDate.ofCalendar year month day).isSome

def fullAnchor (year month day : List Char) : Option (Option Nat × Nat × Nat) := do
  let year ← characters.int year
  let month ← characters.int month
  let day ← characters.int day
  if isValidDate year month day then some (some year,month,day) else none

def yearlessAnchor (month day : List Char) : Option (Option Nat × Nat × Nat) := do
  let month ← characters.int month
  let day ← characters.int day
  if isValidDate 2024 month day then some (none,month,day) else none

/-- `parse_anchor`. The `$` of both patterns admits a newline at the end. -/
def parseAnchor (anchor : String) : Option (Option Nat × Nat × Nat) :=
  match anchor.toList with
  | [y1,y2,y3,y4,'-',m1,m2,'-',d1,d2] => fullAnchor characters [y1,y2,y3,y4] [m1,m2] [d1,d2]
  | [y1,y2,y3,y4,'-',m1,m2,'-',d1,d2,'\n'] => fullAnchor characters [y1,y2,y3,y4] [m1,m2] [d1,d2]
  | ['-','-',m1,m2,'-',d1,d2] => yearlessAnchor characters [m1,m2] [d1,d2]
  | ['-','-',m1,m2,'-',d1,d2,'\n'] => yearlessAnchor characters [m1,m2] [d1,d2]
  | _ => none

/-- The detector reads the anchor, as the date that validation read: in the reference year 2000
for an anchor without a year. -/
def Detectable (anchor : String) : Prop :=
  ∃ year month day, parseAnchor characters anchor = some (year,month,day) ∧
    year.isNone = NewMemory.yearless anchor ∧
    NewMemory.anchorDate anchor = IsoDate.ofCalendar (year.getD 2000) month day

/-- A dash stands where the month of a date with dashes ends. -/
def calendarSpelling (anchor : String) : Prop :=
  anchor.toList[if NewMemory.yearless anchor then 4 else 7]? = some '-'

instance (anchor : String) : Decidable (calendarSpelling anchor) := inferInstanceAs (Decidable (_ = _))

theorem number_digits {digits : List Char} {value : Nat} (read : IsoDate.number digits = some value) :
    digits.all Char.isDigit = true ∧
      digits.foldl (fun value digit => value * 10 + (digit.toNat - 48)) 0 = value := by
  unfold IsoDate.number at read
  split at read
  · rename_i all
    exact ⟨all,Option.some.inj read⟩
  · cases read

theorem int_number {first : Char} {rest : List Char} {value : Nat}
    (read : IsoDate.number (first::rest) = some value) : characters.int (first::rest) = some value := by
  obtain ⟨all,folded⟩ := number_digits read
  rw [characters.int_digits all,folded]

theorem number_no_dash {digits : List Char} {value : Nat} {c : Char} (read : IsoDate.number digits = some value)
    (member : c ∈ digits) : some c ≠ some '-' := by
  have digit := List.all_eq_true.mp (number_digits read).1 c member
  intro same
  obtain rfl := Option.some.inj same
  cases digit

theorem length_le_utf8ByteSize (text : String) : text.toList.length ≤ text.utf8ByteSize := by
  have each (chars : List Char) : chars.length ≤ String.utf8Len chars := by
    induction chars with
    | nil => exact Nat.le_refl _
    | cons c rest ih =>
      have positive := c.utf8Size_pos
      change rest.length + 1 ≤ String.utf8Len rest + c.utf8Size
      omega
  rw [← String.utf8Len_toList]
  exact each _

/-- What `date.fromisoformat` accepts: dashes and months, or a digit or nothing where the second dash is. -/
theorem fromIsoFormat_cases {text : String} {ordinal : Nat} (read : IsoDate.fromIsoFormat text = some ordinal) :
    (∃ y1 y2 y3 y4 m1 m2 d1 d2 year month day, text.toList = [y1,y2,y3,y4,'-',m1,m2,'-',d1,d2] ∧
      IsoDate.number [y1,y2,y3,y4] = some year ∧ IsoDate.number [m1,m2] = some month ∧
      IsoDate.number [d1,d2] = some day ∧ IsoDate.ofCalendar year month day = some ordinal) ∨
    text.toList[7]? ≠ some '-' := by
  unfold IsoDate.fromIsoFormat at read
  obtain ⟨sized,read⟩ := Option.ite_none_right_eq_some.mp read
  have short : text.toList.length ≤ 10 := by
    have fits := length_le_utf8ByteSize text
    simp only [List.mem_cons,List.not_mem_nil,or_false] at sized
    omega
  split at read
  · rename_i y1 y2 y3 y4 rest shape
    obtain ⟨year,years,read⟩ := Option.bind_eq_some_iff.mp read
    rw [shape] at short ⊢
    split at read
    · rename_i w1 w2
      obtain ⟨week,weeks,_⟩ := Option.bind_eq_some_iff.mp read
      exact Or.inr (number_no_dash weeks (by simp))
    · rename_i w1 w2 d _
      obtain ⟨week,weeks,_⟩ := Option.bind_eq_some_iff.mp read
      exact Or.inr (number_no_dash weeks (by simp))
    · exact Or.inr (by simp)
    · rename_i w1 w2 d _ _
      obtain ⟨week,_,read⟩ := Option.bind_eq_some_iff.mp read
      obtain ⟨day,days,_⟩ := Option.bind_eq_some_iff.mp read
      exact Or.inr (number_no_dash days (by simp))
    · rename_i m1 m2 d1 d2 tail _ _
      obtain ⟨month,months,read⟩ := Option.bind_eq_some_iff.mp read
      obtain ⟨day,days,dated⟩ := Option.bind_eq_some_iff.mp read
      obtain rfl : tail = [] := by
        cases tail with
        | nil => rfl
        | cons c more =>
          simp only [List.length_cons] at short
          omega
      exact Or.inl ⟨y1,y2,y3,y4,m1,m2,d1,d2,year,month,day,rfl,years,months,days,dated⟩
    · rename_i m1 m2 d1 d2 _ _ _ _ _ _
      obtain ⟨month,_,read⟩ := Option.bind_eq_some_iff.mp read
      obtain ⟨day,days,_⟩ := Option.bind_eq_some_iff.mp read
      exact Or.inr (number_no_dash days (by simp))
    · cases read
  · cases read

theorem detectable_spelling {anchor : String} (detectable : Detectable characters anchor) : calendarSpelling anchor := by
  obtain ⟨year,month,day,parsed,kind,_⟩ := detectable
  have full {years months days : List Char} (read : fullAnchor characters years months days = some (year,month,day)) :
      NewMemory.yearless anchor = false := by
    obtain ⟨value,_,read⟩ := Option.bind_eq_some_iff.mp read
    obtain ⟨_,_,read⟩ := Option.bind_eq_some_iff.mp read
    obtain ⟨_,_,read⟩ := Option.bind_eq_some_iff.mp read
    obtain ⟨_,same⟩ := Option.ite_none_right_eq_some.mp read
    obtain ⟨rfl,_⟩ := Prod.mk.inj (Option.some.inj same)
    exact kind.symm
  have short {months days : List Char} (read : yearlessAnchor characters months days = some (year,month,day)) :
      NewMemory.yearless anchor = true := by
    obtain ⟨_,_,read⟩ := Option.bind_eq_some_iff.mp read
    obtain ⟨_,_,read⟩ := Option.bind_eq_some_iff.mp read
    obtain ⟨_,same⟩ := Option.ite_none_right_eq_some.mp read
    obtain ⟨rfl,_⟩ := Prod.mk.inj (Option.some.inj same)
    exact kind.symm
  unfold parseAnchor at parsed
  unfold calendarSpelling
  split at parsed
  · rename_i shape
    rw [full parsed,shape]
    rfl
  · rename_i shape
    rw [full parsed,shape]
    rfl
  · rename_i shape
    rw [short parsed,shape]
    rfl
  · rename_i shape
    rw [short parsed,shape]
    rfl
  · cases parsed

/-- Validation and detection take different leap years for an anchor without a year. -/
theorem leap_reference (month day : Nat) : isValidDate 2000 month day = isValidDate 2024 month day := by
  have leap : IsoDate.leapYear 2000 = IsoDate.leapYear 2024 := by decide
  have days : IsoDate.daysInMonth 2000 month = IsoDate.daysInMonth 2024 month := by
    unfold IsoDate.daysInMonth
    rw [leap]
  unfold isValidDate IsoDate.ofCalendar
  rw [days]
  split <;> simp_all

theorem yearless_detectable {anchor : String} (yearless : NewMemory.yearless anchor = true)
    (dated : (NewMemory.anchorDate anchor).isSome = true) (spelling : calendarSpelling anchor) :
    Detectable characters anchor := by
  obtain ⟨rest,shape⟩ : ∃ rest, anchor.toList = '-' :: '-' :: rest := by
    have start := beq_iff_eq.mp yearless
    refine ⟨anchor.toList.drop 2,?_⟩
    have joined := (List.take_append_drop 2 anchor.toList).symm
    rw [start] at joined
    exact joined
  obtain ⟨ordinal,found⟩ := Option.isSome_iff_exists.mp dated
  have read : IsoDate.fromIsoFormat ("2000-" ++ String.ofList rest) = some ordinal := by
    unfold NewMemory.anchorDate at found
    rw [yearless,shape] at found
    exact (Option.filter_eq_some_iff.mp found).1
  have spelled : ("2000-" ++ String.ofList rest).toList = '2' :: '0' :: '0' :: '0' :: '-' :: rest := by
    simp
  have reference : IsoDate.number ['2','0','0','0'] = some 2000 := by decide
  rcases fromIsoFormat_cases read with dashes | other
  · obtain ⟨y1,y2,y3,y4,m1,m2,d1,d2,year,month,day,same,years,months,days,date⟩ := dashes
    rw [spelled] at same
    obtain ⟨rfl,rfl,rfl,rfl,rfl⟩ : '2' = y1 ∧ '0' = y2 ∧ '0' = y3 ∧ '0' = y4 ∧ rest = [m1,m2,'-',d1,d2] := by
      simpa using same
    obtain rfl : 2000 = year := Option.some.inj (reference.symm.trans years)
    refine ⟨none,month,day,?_,yearless.symm,found.trans date.symm⟩
    have leap : isValidDate 2024 month day = true := by
      rw [← leap_reference,isValidDate,date,Option.isSome_some]
    unfold parseAnchor
    rw [shape]
    change yearlessAnchor characters [m1,m2] [d1,d2] = _
    rw [yearlessAnchor,int_number characters months,int_number characters days]
    simp only [Option.bind_eq_bind,Option.bind_some,if_pos leap]
  · unfold calendarSpelling at spelling
    rw [yearless,shape] at spelling
    rw [spelled] at other
    exact absurd spelling other

theorem full_detectable {anchor : String} (yearless : NewMemory.yearless anchor = false)
    (dated : (NewMemory.anchorDate anchor).isSome = true) (spelling : calendarSpelling anchor) :
    Detectable characters anchor := by
  obtain ⟨ordinal,found⟩ := Option.isSome_iff_exists.mp dated
  have read : IsoDate.fromIsoFormat anchor = some ordinal := by
    unfold NewMemory.anchorDate at found
    rw [yearless] at found
    exact (Option.filter_eq_some_iff.mp found).1
  rcases fromIsoFormat_cases read with dashes | other
  · obtain ⟨y1,y2,y3,y4,m1,m2,d1,d2,year,month,day,shape,years,months,days,date⟩ := dashes
    refine ⟨some year,month,day,?_,yearless.symm,found.trans date.symm⟩
    have valid : isValidDate year month day = true := by rw [isValidDate,date,Option.isSome_some]
    unfold parseAnchor
    rw [shape]
    change fullAnchor characters [y1,y2,y3,y4] [m1,m2] [d1,d2] = _
    rw [fullAnchor,int_number characters years,int_number characters months,int_number characters days]
    simp only [Option.bind_eq_bind,Option.bind_some,if_pos valid]
  · unfold calendarSpelling at spelling
    rw [yearless] at spelling
    exact absurd spelling other

/-- Of the anchors that validation accepts, the detector reads those that are spelled by month. -/
theorem accepted_anchor_detectable_iff (memory : NewMemory) (anchor : String)
    (accepted : memory.validate = .ok ()) (dated : memory.dateAnchor = some anchor) :
    Detectable characters anchor ↔ calendarSpelling anchor := by
  constructor
  · exact detectable_spelling characters
  · intro spelling
    have found : (NewMemory.anchorDate anchor).isSome = true := by
      have checked : memory.checkDate = .ok () := by
        obtain ⟨_,checked,_⟩ := (Outcome.bind_ok_iff _ _ _).mp accepted
        exact checked
      unfold NewMemory.checkDate at checked
      rw [dated] at checked
      dsimp only at checked
      split at checked
      · cases checked
      · rename_i present
        exact Option.isSome_iff_ne_none.mpr (fun absent => present (Option.isNone_iff_eq_none.mpr absent))
    cases yearless : NewMemory.yearless anchor with
    | true => exact yearless_detectable characters yearless found spelling
    | false => exact full_detectable characters yearless found spelling

def anniversary (anchor : String) : NewMemory :=
  ⟨.fact,"anniversary",none,none,none,.free,some anchor,.yearly,7,.manual⟩

theorem accepted_anchor_detectable_leap : Detectable .ascii "--02-29" :=
  (accepted_anchor_detectable_iff .ascii (anniversary "--02-29") "--02-29" (by decide +kernel) rfl).mpr
    (by decide +kernel)

/-- A basic ISO date is accepted and never detected. -/
theorem basic_anchor_undetectable :
    (anniversary "20260301").validate = .ok () ∧ ¬Detectable .ascii "20260301" := by
  refine ⟨by decide +kernel,?_⟩
  intro ⟨_,_,_,parsed,_⟩
  have missed : parseAnchor .ascii "20260301" = none := by decide +kernel
  rw [missed] at parsed
  cases parsed

end Proactive.Situations
