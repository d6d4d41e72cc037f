import Proactive.Library.Regex
import Proactive.Library.Outcome
import Proactive.Situations.Dates
import Proactive.Store.IsoDate

/-! Conservative Korean and English deadline-language scanning. -/
namespace Proactive.Situations
open Proactive.Library Proactive.Store
open Proactive.Library.Regex (allOf anyOf ignoringCase literal)

namespace DeadlineText

def maxScanLength : Nat := 4000
def rolloverGrace : Int := 7

section
variable (characters : Characters)

def word (c : Char) : Bool := characters.alphanumeric c || c == '_'

def spaces (least : Nat) : Regex := .many characters.space least none

def digits (least most : Nat) : Regex := .many (fun c => (characters.decimal c).isSome) least (some most)

def wholeWord (text : String) : Regex := allOf [.boundary,ignoringCase text,.boundary]

def byWord (options : List String) (ending : String) : Regex :=
  allOf [.boundary,ignoringCase "by",spaces characters 1,anyOf (options.map ignoringCase),ignoringCase ending,
    .boundary]

def markers : List Regex :=
  [wholeWord "deadline",wholeWord "due",wholeWord "asap",wholeWord "eod",wholeWord "cob",wholeWord "no later than",
    allOf [.boundary,anyOf (["respond","reply","rsvp"].map ignoringCase),spaces characters 1,ignoringCase "by",
      .boundary],
    byWord characters ["mon","tues","wednes","thurs","fri","satur","sun"] "day",
    byWord characters ["today","tomorrow"] "",
    allOf [.boundary,ignoringCase "by",spaces characters 1,ignoringCase "end of ",
      anyOf (["day","week","month"].map ignoringCase),.boundary],
    literal "마감",
    literal "기한",
    allOf [literal "회신",spaces characters 0,anyOf [literal "요망",literal "부탁"]],
    allOf [literal "답장",spaces characters 0,literal "부탁"],
    literal "늦어도",
    allOf [anyOf [.one (fun c => (characters.decimal c).isSome),.one (fun c => c ∈ ['일','늘','레'])],
      spaces characters 0,literal "까지"]]

def isoPattern : Regex :=
  allOf [.boundary,.group (digits characters 4 4),literal "-",.group (digits characters 1 2),literal "-",
    .group (digits characters 1 2),.boundary]

def koreanPattern : Regex :=
  allOf [.group (digits characters 1 2),spaces characters 0,literal "월",spaces characters 0,
    .group (digits characters 1 2),spaces characters 0,literal "일"]

def monthNames : List String := ["jan","feb","mar","apr","may","jun","jul","aug","sep","oct","nov","dec"]

def latinLetter (c : Char) : Bool := "abcdefghijklmnopqrstuvwxyz".toList.any (fun letter => Regex.folds letter c)

def englishPattern : Regex :=
  allOf [.boundary,.group (anyOf (monthNames.map ignoringCase)),.many latinLetter 0 none,
    .many (· == '.') 0 (some 1),spaces characters 1,.group (digits characters 1 2),.boundary]

def slashPattern : Regex :=
  allOf [.boundary,.group (digits characters 1 2),literal "/",.group (digits characters 1 2),.boundary]

def byOrDue (text : String) : Regex :=
  allOf [.boundary,anyOf [ignoringCase "by",ignoringCase "due"],spaces characters 1,ignoringCase text,.boundary]

def untilDay (text : String) : Regex := allOf [literal text,spaces characters 0,literal "까지"]

def relative : List (Regex × Int) :=
  [(untilDay characters "오늘",0),(untilDay characters "내일",1),(untilDay characters "모레",2),
    (byOrDue characters "today",0),(byOrDue characters "tomorrow",1)]

def monthNumbers : List (String × Nat) := monthNames.zipIdx 1

def search (pattern : Regex) (text : List Char) : Option Regex.Hit := pattern.search (word characters) [] text

def finditer (pattern : Regex) (text : List Char) : List Regex.Hit :=
  pattern.finditer (word characters) 0 [] text

/-- `match.group`, for a pattern that has the group. -/
def matchGroup (hit : Regex.Hit) (index : Nat) : List Char := hit.groups.getD (index - 1) []

def number (text : List Char) : Except Raised Nat :=
  match characters.int text with
  | none => .error .valueError
  | some value => .ok value

end

def firstDate : Int := -719162
def lastDate : Int := 2932896

/-- Date arithmetic, which raises beyond these days. -/
def checkedDate (date : Int) : Except Raised Int :=
  if firstDate ≤ date ∧ date ≤ lastDate then .ok date else .error .overflowError

def safeDate (year month dayOfMonth : Nat) : Option Int :=
  if year ≤ 9999 then
    (IsoDate.ofCalendar year month dayOfMonth).map (fun ordinal => (ordinal : Int) + (firstDate - 1))
  else none

def yearOf (today : Int) : Nat := (civil today).1.toNat

/-- One step of `_yearless_dates`. -/
def yearlessDate (today : Int) (month dayOfMonth : Nat) : Except Raised (Option Int) :=
  match safeDate (yearOf today) month dayOfMonth with
  | none => .ok none
  | some candidate => do
    let oldest ← checkedDate (today - rolloverGrace)
    return if candidate < oldest then safeDate (yearOf today + 1) month dayOfMonth else some candidate

section
variable (characters : Characters) (text : List Char) (today : Int)

def isoDateOf (hit : Regex.Hit) : Except Raised (Option Int) := do
  let year ← number characters (matchGroup hit 1)
  let month ← number characters (matchGroup hit 2)
  let dayOfMonth ← number characters (matchGroup hit 3)
  return safeDate year month dayOfMonth

def isoDates : Except Raised (List (Option Int)) := (finditer characters (isoPattern characters) text).mapM (isoDateOf characters)

def numericDateOf (hit : Regex.Hit) : Except Raised (Option Int) := do
  let month ← number characters (matchGroup hit 1)
  let dayOfMonth ← number characters (matchGroup hit 2)
  yearlessDate today month dayOfMonth

def koreanDates : Except Raised (List (Option Int)) :=
  (finditer characters (koreanPattern characters) text).mapM (numericDateOf characters today)

def slashDates : Except Raised (List (Option Int)) :=
  (finditer characters (slashPattern characters) text).mapM (numericDateOf characters today)

/-- `_MONTH_NUMBERS[name.lower()]`. The pattern admits no other capitals than those of ASCII. -/
def monthNumber (name : List Char) : Except Raised Nat :=
  match monthNumbers.find? (fun entry => entry.1.toList == name.map Char.toLower) with
  | none => .error .keyError
  | some entry => .ok entry.2

def englishDateOf (hit : Regex.Hit) : Except Raised (Option Int) := do
  let month ← monthNumber (matchGroup hit 1)
  let dayOfMonth ← number characters (matchGroup hit 2)
  yearlessDate today month dayOfMonth

def englishDates : Except Raised (List (Option Int)) :=
  (finditer characters (englishPattern characters) text).mapM (englishDateOf characters today)

def relativeDateOf (entry : Regex × Int) : Except Raised (Option Int) :=
  if (search characters entry.1 text).isSome then (checkedDate (today + entry.2)).map some else .ok none

def relativeDates : Except Raised (List (Option Int)) :=
  (relative characters).mapM (relativeDateOf characters text today)

/-- `_date_candidates`, with a `none` for each match that names no date. -/
def dateCandidates : Except Raised (List (Option Int)) := do
  let iso ← isoDates characters text
  let korean ← koreanDates characters text today
  let english ← englishDates characters text today
  let slash ← slashDates characters text today
  let relatives ← relativeDates characters text today
  return iso ++ korean ++ english ++ slash ++ relatives

def firstMarker : Option (List Char) :=
  ((markers characters).findSome? (fun pattern => search characters pattern text)).map Regex.Hit.consumed

end
end DeadlineText

structure DeadlineScan where
  matchedMarker : Option String
  deadlineDate : Option Int
deriving DecidableEq, Repr

namespace DeadlineText

def scanDeadlineText (characters : Characters) (text : List Char) (today : Int) : Except Raised DeadlineScan :=
  let scanned := text.take maxScanLength
  match firstMarker characters scanned with
  | none => .ok ⟨none,none⟩
  | some marker => do
    let candidates ← dateCandidates characters scanned today
    return ⟨some (String.ofList marker),(candidates.filterMap id).min?⟩

section
variable {characters : Characters} {consumed left right text : List Char} {groups : List (List Char)}
  {hit : Regex.Hit} {today : Int}

open Regex (Matches)

variable (characters) in
def Numeric (part : Regex) : Prop :=
  part.groupless = true ∨ ∃ least most, 1 ≤ least ∧ part = .group (digits characters least most)

theorem matches_numeric {parts : List Regex}
    (matched : Matches (word characters) (allOf parts) left consumed right groups)
    (numeric : ∀ part ∈ parts, Numeric characters part) :
    groups.length = parts.countP (fun part => !part.groupless) ∧
      ∀ captured ∈ groups, ∃ value, number characters captured = .ok value := by
  induction parts generalizing left consumed right groups with
  | nil =>
    obtain rfl := Regex.matches_nil matched
    exact ⟨rfl,fun _ absent => nomatch absent⟩
  | cons part parts ih =>
    obtain ⟨_,_,start,_,captured,captured',_,rfl,head,tail⟩ := Regex.matches_cons matched
    obtain ⟨count,read⟩ := ih tail (fun other member => numeric other (List.mem_cons_of_mem part member))
    rcases numeric part List.mem_cons_self with plain | ⟨least,most,filled,shape⟩
    · obtain rfl := Regex.matches_groupless head plain
      rw [List.countP_cons_of_neg (by simp [plain])]
      exact ⟨count,read⟩
    · subst shape
      obtain ⟨inner,rfl,inside⟩ := Regex.matches_group head
      cases inside with
      | many _ _ _ _ _ _ all enough _ =>
        rw [List.countP_cons_of_pos (by rfl),List.singleton_append,List.length_cons,count]
        refine ⟨rfl,fun captured member => ?_⟩
        rcases List.mem_cons.mp member with rfl | later
        · have some := characters.int_some (List.ne_nil_of_length_pos (Nat.lt_of_lt_of_le filled enough)) all
          obtain ⟨value,named⟩ := some
          exact ⟨value,by rw [number,named]⟩
        · exact read captured later

theorem folds_toLower {letter c : Char} (folded : Regex.folds letter c = true) (lower : letter.toLower = letter)
    (plain : letter ∉ ['i','s','k']) : c.toLower = letter := by
  simp only [List.mem_cons,List.not_mem_nil,or_false,not_or] at plain
  unfold Regex.folds at folded
  simp only [Bool.or_eq_true,Bool.and_eq_true,beq_iff_eq,plain.1,plain.2.1,plain.2.2,false_and,or_false] at folded
  rcases folded with rfl | same
  · exact lower
  · exact same

theorem folds_s {c : Char} (folded : Regex.folds 's' c = true) : c.toLower = 's' ∨ c = 'ſ' := by
  unfold Regex.folds at folded
  simp only [Bool.or_eq_true,Bool.and_eq_true,beq_iff_eq] at folded
  rcases folded with (((rfl | same) | ⟨other,_⟩) | ⟨_,long⟩) | ⟨other,_⟩
  · exact Or.inl (by decide)
  · exact Or.inl same
  · exact absurd other (by decide)
  · exact Or.inr long
  · exact absurd other (by decide)

/-- Only `s` has a variant that is no capital, and only at the head of a month. -/
theorem month_letters : ∀ name ∈ monthNames, name.toList ≠ [] ∧
    (∀ letter ∈ name.toList, letter ∉ ['i','k'] ∧ letter.toLower = letter) ∧
    ∀ letter ∈ name.toList.tail, letter ≠ 's' := by
  have checked : monthNames.all (fun name => !name.toList.isEmpty &&
      name.toList.all (fun letter => !(['i','k'].contains letter) && letter.toLower == letter) &&
      name.toList.tail.all (fun letter => letter != 's')) = true := by decide
  intro name member
  have one := List.all_eq_true.mp checked name member
  simp only [Bool.and_eq_true,List.all_eq_true,Bool.not_eq_true',bne_iff_ne,beq_iff_eq] at one
  obtain ⟨⟨filled,letters⟩,tail⟩ := one
  refine ⟨fun empty => ?_,fun letter inside => ?_,tail⟩
  · rw [empty] at filled
    cases filled
  · obtain ⟨plain,lower⟩ := letters letter inside
    refine ⟨fun listed => ?_,lower⟩
    rw [List.contains_iff_mem.mpr listed] at plain
    cases plain

theorem spelled_toLower {letters : List Char}
    (spelled : List.Forall₂ (fun letter c => Regex.folds letter c = true) letters consumed)
    (plain : ∀ letter ∈ letters, letter ∉ ['i','s','k'] ∧ letter.toLower = letter) :
    consumed.map Char.toLower = letters := by
  induction spelled with
  | nil => rfl
  | @cons letter c rest others folded spelled ih =>
    obtain ⟨other,lower⟩ := plain letter List.mem_cons_self
    rw [List.map_cons,folds_toLower folded lower other,
      ih (fun letter member => plain letter (List.mem_cons_of_mem _ member))]

theorem month_spelled {name : String} (month : name ∈ monthNames)
    (spelled : List.Forall₂ (fun letter c => Regex.folds letter c = true) name.toList consumed) :
    consumed.map Char.toLower = name.toList ∨ consumed.head? = some 'ſ' := by
  obtain ⟨filled,lower,others⟩ := month_letters name month
  cases letters : name.toList with
  | nil => exact absurd letters filled
  | cons first rest =>
    rw [letters] at lower others spelled
    cases spelled with
    | @cons _ c _ tail folded spelled =>
      have rests : tail.map Char.toLower = rest := by
        apply spelled_toLower spelled
        intro letter member
        obtain ⟨other,lower⟩ := lower letter (List.mem_cons_of_mem first member)
        have apart := others letter member
        simp only [List.mem_cons,List.not_mem_nil,or_false,not_or] at other ⊢
        exact ⟨⟨other.1,apart,other.2⟩,lower⟩
      rw [List.map_cons,rests]
      obtain ⟨other,lower⟩ := lower first List.mem_cons_self
      by_cases ess : first = 's'
      · subst ess
        rcases folds_s folded with same | long
        · exact Or.inl (by rw [same])
        · exact Or.inr (by rw [List.head?_cons,long])
      · have plain : first ∉ ['i','s','k'] := by
          simp only [List.mem_cons,List.not_mem_nil,or_false,not_or] at other ⊢
          exact ⟨other.1,ess,other.2⟩
        exact Or.inl (by rw [folds_toLower folded lower plain])

theorem monthNumber_named {name : String} (month : name ∈ monthNames) {text : List Char}
    (named : text.map Char.toLower = name.toList) : ∃ number, monthNumber text = .ok number := by
  have listed : ∃ entry ∈ monthNumbers, entry.1 = name := by
    have names : monthNumbers.map Prod.fst = monthNames := List.zipIdx_map_fst 1 monthNames
    rw [← names] at month
    exact List.mem_map.mp month
  obtain ⟨entry,member,same⟩ := listed
  unfold monthNumber
  cases found : monthNumbers.find? (fun entry => entry.1.toList == text.map Char.toLower) with
  | none =>
    refine absurd ?_ (List.find?_eq_none.mp found entry member)
    rw [named,same,beq_iff_eq]
  | some entry => exact ⟨entry.2,rfl⟩

theorem monthNumber_long {text : List Char} (long : text.head? = some 'ſ') : monthNumber text = .error .keyError := by
  have unknown : monthNumbers.find? (fun entry => entry.1.toList == text.map Char.toLower) = none := by
    rw [List.find?_eq_none]
    intro entry member same
    have other : ∀ entry ∈ monthNumbers, entry.1.toList.head? ≠ some 'ſ' := by decide
    apply other entry member
    rw [beq_iff_eq.mp same,List.head?_map,long]
    decide
  rw [monthNumber,unknown]

/-- The day numbers that leave room for the grace and the relative dates. -/
def Inside (today : Int) : Prop := firstDate + 8 ≤ today ∧ today ≤ lastDate - 8

instance (today : Int) : Decidable (Inside today) := inferInstanceAs (Decidable (_ ∧ _))

theorem checkedDate_near (inside : Inside today) {offset : Int} (low : -8 ≤ offset) (high : offset ≤ 8) :
    checkedDate (today + offset) = .ok (today + offset) := by
  unfold Inside at inside
  apply if_pos
  omega

theorem yearlessDate_run (inside : Inside today) (month dayOfMonth : Nat) :
    ∃ date, yearlessDate today month dayOfMonth = .ok date := by
  unfold yearlessDate
  cases safeDate (yearOf today) month dayOfMonth with
  | none => exact ⟨none,rfl⟩
  | some candidate =>
    have near : checkedDate (today - rolloverGrace) = .ok (today - rolloverGrace) :=
      checkedDate_near inside (by decide) (by decide)
    rw [near]
    exact ⟨_,rfl⟩

theorem number_group (read : ∀ captured ∈ hit.groups, ∃ value, number characters captured = .ok value)
    {index : Nat} (within : index - 1 < hit.groups.length) :
    ∃ value, number characters (matchGroup hit index) = .ok value := by
  apply read
  rw [matchGroup,List.getD_eq_getElem?_getD,List.getElem?_eq_getElem within]
  exact List.getElem_mem within

theorem hit_numeric {parts : List Regex} (member : hit ∈ finditer characters (allOf parts) text)
    (numeric : ∀ part ∈ parts, Numeric characters part) {captures : Nat}
    (counted : parts.countP (fun part => !part.groupless) = captures) (index : Nat) (within : index - 1 < captures) :
    ∃ value, number characters (matchGroup hit index) = .ok value := by
  obtain ⟨_,_,_,matched⟩ := Regex.mem_finditer member
  obtain ⟨count,read⟩ := matches_numeric matched numeric
  exact number_group read (count.trans counted ▸ within)

theorem isoDateOf_run (member : hit ∈ finditer characters (isoPattern characters) text) :
    ∃ date, isoDateOf characters hit = .ok date := by
  have numeric : ∀ part ∈ [.boundary,.group (digits characters 4 4),literal "-",.group (digits characters 1 2),
      literal "-",.group (digits characters 1 2),.boundary], Numeric characters part := by
    simp only [List.forall_mem_cons]
    exact ⟨Or.inl rfl,Or.inr ⟨4,4,by decide,rfl⟩,Or.inl rfl,Or.inr ⟨1,2,by decide,rfl⟩,Or.inl rfl,
      Or.inr ⟨1,2,by decide,rfl⟩,Or.inl rfl,List.forall_mem_nil _⟩
  have read (index : Nat) (within : index - 1 < 3) := hit_numeric member numeric rfl index within
  obtain ⟨year,years⟩ := read 1 (by decide)
  obtain ⟨month,months⟩ := read 2 (by decide)
  obtain ⟨dayOfMonth,days⟩ := read 3 (by decide)
  exact ⟨_,by rw [isoDateOf,years,months,days]; rfl⟩

theorem numericDateOf_run (inside : Inside today)
    (read : ∀ index, index - 1 < 2 → ∃ value, number characters (matchGroup hit index) = .ok value) :
    ∃ date, numericDateOf characters today hit = .ok date := by
  obtain ⟨month,months⟩ := read 1 (by decide)
  obtain ⟨dayOfMonth,days⟩ := read 2 (by decide)
  obtain ⟨date,dated⟩ := yearlessDate_run inside month dayOfMonth
  refine ⟨date,?_⟩
  rw [numericDateOf,months,days]
  exact dated

theorem koreanDates_run (characters : Characters) (text : List Char) (inside : Inside today) :
    ∃ dates, koreanDates characters text today = .ok dates := by
  refine (Outcome.mapM_succeeds_iff _ _).mpr (fun hit member => ?_)
  have numeric : ∀ part ∈ [.group (digits characters 1 2),spaces characters 0,literal "월",spaces characters 0,
      .group (digits characters 1 2),spaces characters 0,literal "일"], Numeric characters part := by
    simp only [List.forall_mem_cons]
    exact ⟨Or.inr ⟨1,2,by decide,rfl⟩,Or.inl rfl,Or.inl rfl,Or.inl rfl,Or.inr ⟨1,2,by decide,rfl⟩,Or.inl rfl,
      Or.inl rfl,List.forall_mem_nil _⟩
  exact numericDateOf_run inside (hit_numeric member numeric rfl)

theorem slashDates_run (characters : Characters) (text : List Char) (inside : Inside today) :
    ∃ dates, slashDates characters text today = .ok dates := by
  refine (Outcome.mapM_succeeds_iff _ _).mpr (fun hit member => ?_)
  have numeric : ∀ part ∈ [.boundary,.group (digits characters 1 2),literal "/",.group (digits characters 1 2),
      .boundary], Numeric characters part := by
    simp only [List.forall_mem_cons]
    exact ⟨Or.inl rfl,Or.inr ⟨1,2,by decide,rfl⟩,Or.inl rfl,Or.inr ⟨1,2,by decide,rfl⟩,Or.inl rfl,
      List.forall_mem_nil _⟩
  exact numericDateOf_run inside (hit_numeric member numeric rfl)

theorem relativeDates_run (characters : Characters) (text : List Char) (inside : Inside today) :
    ∃ dates, relativeDates characters text today = .ok dates := by
  refine (Outcome.mapM_succeeds_iff _ _).mpr (fun entry member => ?_)
  have offsets : ∀ days ∈ ([0,1,2,0,1] : List Int), 0 ≤ days ∧ days ≤ 2 := by decide
  have near : 0 ≤ entry.2 ∧ entry.2 ≤ 2 := offsets entry.2 (List.mem_map_of_mem member)
  unfold relativeDateOf
  split
  · rw [checkedDate_near inside (by omega) (by omega)]
    exact ⟨_,rfl⟩
  · exact ⟨none,rfl⟩

/-- What an English date captures: a month, by its name or with a long s, and a day in digits. -/
theorem englishPattern_groups (member : hit ∈ finditer characters (englishPattern characters) text) :
    (∃ name ∈ monthNames,
      List.Forall₂ (fun letter c => Regex.folds letter c = true) name.toList (matchGroup hit 1)) ∧
    ∃ value, number characters (matchGroup hit 2) = .ok value := by
  obtain ⟨_,_,_,whole⟩ := Regex.mem_finditer member
  obtain ⟨_,_,_,_,captured,rest,_,grouped,edge,dated⟩ := Regex.matches_cons whole
  obtain ⟨_,_,month,_,captured',rest',_,grouped',named,numbered⟩ := Regex.matches_cons dated
  obtain ⟨inner,shape,letters⟩ := Regex.matches_group named
  rw [Regex.matches_groupless letters rfl] at shape
  rw [Regex.matches_groupless edge rfl,grouped',shape,List.nil_append,List.singleton_append] at grouped
  have numeric : ∀ part ∈ [.many latinLetter 0 none,.many (· == '.') 0 (some 1),spaces characters 1,
      .group (digits characters 1 2),.boundary], Numeric characters part := by
    simp only [List.forall_mem_cons]
    exact ⟨Or.inl rfl,Or.inl rfl,Or.inl rfl,Or.inr ⟨1,2,by decide,rfl⟩,Or.inl rfl,List.forall_mem_nil _⟩
  obtain ⟨count,read⟩ := matches_numeric numbered numeric
  obtain ⟨dayOfMonth,rfl⟩ := List.length_eq_one_iff.mp (count : rest'.length = 1)
  have first : matchGroup hit 1 = month := by rw [matchGroup,grouped]; rfl
  have second : matchGroup hit 2 = dayOfMonth := by rw [matchGroup,grouped]; rfl
  obtain ⟨option,listed,spelled⟩ := Regex.matches_anyOf letters
  obtain ⟨name,known,rfl⟩ := List.mem_map.mp listed
  rw [first,second]
  exact ⟨⟨name,known,(Regex.matches_letters spelled).1⟩,read dayOfMonth List.mem_cons_self⟩

theorem englishDateOf_iff (inside : Inside today) (member : hit ∈ finditer characters (englishPattern characters) text) :
    (∃ date, englishDateOf characters today hit = .ok date) ↔ (matchGroup hit 1).head? ≠ some 'ſ' := by
  obtain ⟨⟨name,month,spelled⟩,dayOfMonth,days⟩ := englishPattern_groups member
  constructor
  · intro ⟨date,ran⟩ long
    rw [englishDateOf,monthNumber_long long] at ran
    cases ran
  · intro short
    obtain ⟨number,months⟩ := monthNumber_named month ((month_spelled month spelled).resolve_right short)
    obtain ⟨date,dated⟩ := yearlessDate_run inside number dayOfMonth
    refine ⟨date,?_⟩
    rw [englishDateOf,months,days]
    exact dated

variable (characters text) in
/-- The text holds an English date whose month begins with U+017F, as `ſep 5`. -/
def LongS : Prop :=
  ∃ hit ∈ finditer characters (englishPattern characters) text, (matchGroup hit 1).head? = some 'ſ'

theorem englishDates_iff (inside : Inside today) :
    (∃ dates, englishDates characters text today = .ok dates) ↔ ¬LongS characters text := by
  unfold englishDates LongS
  rw [Outcome.mapM_succeeds_iff]
  constructor
  · intro each ⟨hit,member,long⟩
    exact (englishDateOf_iff inside member).mp (each hit member) long
  · intro absent hit member
    exact (englishDateOf_iff inside member).mpr (fun long => absent ⟨hit,member,long⟩)

theorem dateCandidates_iff (inside : Inside today) :
    (∃ candidates, dateCandidates characters text today = .ok candidates) ↔ ¬LongS characters text := by
  have isos : ∃ dates, isoDates characters text = .ok dates :=
    (Outcome.mapM_succeeds_iff _ _).mpr (fun hit member => isoDateOf_run member)
  obtain ⟨iso,isos⟩ := isos
  obtain ⟨korean,koreans⟩ := koreanDates_run characters text inside
  obtain ⟨slash,slashes⟩ := slashDates_run characters text inside
  obtain ⟨relatives,relative⟩ := relativeDates_run characters text inside
  rw [← englishDates_iff inside,dateCandidates,isos,koreans,slashes,relative]
  cases englishDates characters text today with
  | error failure =>
    constructor
    · intro ⟨_,ran⟩
      cases ran
    · intro ⟨_,ran⟩
      cases ran
  | ok english => exact ⟨fun _ => ⟨english,rfl⟩,fun _ => ⟨_,rfl⟩⟩

/-- A scan raises if and only if it finds a marker and an English date with a long s. -/
theorem scanDeadlineText_iff (inside : Inside today) :
    (∃ scan, scanDeadlineText characters text today = .ok scan) ↔
      firstMarker characters (text.take maxScanLength) = none ∨ ¬LongS characters (text.take maxScanLength) := by
  unfold scanDeadlineText
  dsimp only
  cases firstMarker characters (text.take maxScanLength) with
  | none => exact ⟨fun _ => Or.inl rfl,fun _ => ⟨_,rfl⟩⟩
  | some marker =>
    rw [← dateCandidates_iff inside]
    dsimp only
    cases dateCandidates characters (text.take maxScanLength) today with
    | error failure =>
      constructor
      · intro ⟨_,ran⟩
        cases ran
      · intro either
        rcases either with absent | ⟨_,ran⟩
        · cases absent
        · cases ran
    | ok candidates => exact ⟨fun _ => Or.inr ⟨candidates,rfl⟩,fun _ => ⟨_,rfl⟩⟩

theorem scanDeadlineText_marker {scan : DeadlineScan} (ran : scanDeadlineText characters text today = .ok scan) :
    scan.matchedMarker = (firstMarker characters (text.take maxScanLength)).map String.ofList := by
  unfold scanDeadlineText at ran
  dsimp only at ran
  cases found : firstMarker characters (text.take maxScanLength) with
  | none =>
    rw [found] at ran
    obtain rfl := Except.ok.inj ran
    rfl
  | some marker =>
    rw [found] at ran
    obtain ⟨candidates,_,same⟩ := (Outcome.bind_ok_iff _ _ _).mp ran
    obtain rfl := Except.ok.inj same
    rfl

end

end DeadlineText
end Proactive.Situations
