import Proactive.Library.Trim

/-! Unit files of a service manager: logical lines, sections and assignments, and the words of a value
with quotes, C-style escapes and percent specifiers. -/
namespace Proactive.Library.UnitFile

/-- What a backslash or a percent sign begins; each reader knows at least the three that stand for
themselves. -/
structure Reader where
  unescape : List Char → Option (List Char × List Char)
  specifier : Char → Option (List Char)
  shorter : ∀ text value rest, unescape text = some (value,rest) → rest.length < text.length
  backslash : ∀ rest, unescape ('\\'::rest) = some (['\\'],rest)
  quote : ∀ rest, unescape ('"'::rest) = some (['"'],rest)
  percent : specifier '%' = some ['%']

/-- A reader of the one-letter escapes. -/
def Reader.letters : Reader where
  unescape
    | 'a'::rest => some ([Char.ofNat 7],rest)
    | 'b'::rest => some ([Char.ofNat 8],rest)
    | 'f'::rest => some ([Char.ofNat 12],rest)
    | 'n'::rest => some (['\n'],rest)
    | 'r'::rest => some (['\r'],rest)
    | 't'::rest => some (['\t'],rest)
    | 'v'::rest => some ([Char.ofNat 11],rest)
    | 's'::rest => some ([' '],rest)
    | '\\'::rest => some (['\\'],rest)
    | '"'::rest => some (['"'],rest)
    | '\''::rest => some (['\''],rest)
    | _ => none
  specifier c := if c = '%' then some ['%'] else none
  shorter text value rest decoded := by
    split at decoded <;> cases decoded <;> exact Nat.lt_succ_self _
  backslash _ := rfl
  quote _ := rfl
  percent := rfl

structure Directive where
  heading : List Char
  key : List Char
  value : List Char
deriving DecidableEq, Repr

def isBlank (c : Char) : Bool := c == ' ' || c == '\t' || c == '\n' || c == '\r'

section lines

/-- The line ends in a backslash that is not itself escaped. -/
def continues (line : List Char) : Bool := line.foldl (fun escaped c => !escaped && c == '\\') false

def comment (line : List Char) : Bool :=
  (line.dropWhile isBlank).head?.any (fun c => c == '#' || c == ';')

/-- The lines after continuation, without comments. -/
def logical : List Char → List (List Char) → List (List Char)
  | pending,[] => if pending.isEmpty then [] else [pending]
  | pending,line::rest =>
    if comment line then logical pending rest
    else if continues line then logical (pending ++ line.dropLast ++ [' ']) rest
    else (pending ++ line)::logical [] rest

inductive Item
  | empty
  | heading (name : List Char)
  | assignment (key value : List Char)
deriving DecidableEq, Repr

def readLine (line : List Char) : Item :=
  let text := trim isBlank line
  if text.head? = some '[' then
    if text.getLast? = some ']' then .heading text.tail.dropLast else .empty
  else
    match text.dropWhile (fun c => c != '=') with
    | [] => .empty
    | _::value => .assignment (trim isBlank (text.takeWhile (fun c => c != '='))) (trim isBlank value)

def collect : List Char → List Item → List Directive
  | _,[] => []
  | heading,.empty::rest => collect heading rest
  | _,.heading name::rest => collect name rest
  | heading,.assignment key value::rest => ⟨heading,key,value⟩::collect heading rest

def directives (text : List Char) : List Directive := collect [] ((logical [] (text.splitOn '\n')).map readLine)

theorem continues_concat (front : List Char) {last : Char} (other : last ≠ '\\') :
    continues (front ++ [last]) = false := by
  unfold continues
  rw [List.foldl_concat]
  simp [other]

theorem logical_plain {lines : List (List Char)}
    (plain : ∀ line ∈ lines, comment line = false ∧ continues line = false) : logical [] lines = lines := by
  induction lines with
  | nil => rfl
  | cons line rest ih =>
    obtain ⟨uncommented,whole⟩ := plain line List.mem_cons_self
    rw [logical,if_neg (Bool.eq_false_iff.mp uncommented),if_neg (Bool.eq_false_iff.mp whole),List.nil_append,
      ih (fun other member => plain other (List.mem_cons_of_mem _ member))]

theorem readLine_assignment {first last initial : Char} {key middle : List Char}
    (named : ∀ c ∈ first::key, isBlank c = false ∧ c ≠ '=') (start : first ≠ '[')
    (one : isBlank initial = false) (two : isBlank last = false) :
    readLine (first::key ++ '='::initial::(middle ++ [last])) = .assignment (first::key) (initial::(middle ++ [last])) := by
  have trimmed : trim isBlank (first::key ++ '='::initial::(middle ++ [last])) =
      first::key ++ '='::initial::(middle ++ [last]) := by
    have bounded := trim_bounded isBlank (key ++ '='::initial::middle) (named first List.mem_cons_self).1 two
    rw [List.append_assoc] at bounded
    exact bounded
  have before : ∀ c ∈ first::key, (c != '=') = true := fun c member => bne_iff_ne.mpr (named c member).2
  have whole : trim isBlank (first::key) = first::key := trim_free isBlank (fun c member => (named c member).1)
  unfold readLine
  dsimp only
  rw [trimmed,if_neg (by simpa using start),List.dropWhile_append_of_pos before,List.takeWhile_append_of_pos before,
    List.dropWhile_cons_of_neg (by decide),List.takeWhile_cons_of_neg (by decide),List.append_nil,whole]
  exact congrArg (Item.assignment (first::key)) (trim_bounded isBlank middle one two)

end lines

section words
variable (reader : Reader)

/-- The words of a value: `mark` is the quote that is open, `word` the word that has begun. -/
def split : Option Char → Option (List Char) → List Char → Option (List (List Char))
  | none,word,[] => some word.toList
  | some _,_,[] => none
  | mark,word,c::rest =>
    if c = '\\' then
      match _unescaped : reader.unescape rest with
      | none => none
      | some (value,later) => split mark (some (word.getD [] ++ value)) later
    else if mark = some c then split none word rest
    else if mark = none ∧ isBlank c = true then (split none none rest).map (fun words => word.toList ++ words)
    else if mark = none ∧ (c = '"' ∨ c = '\'') then split (some c) (some (word.getD [])) rest
    else split mark (some (word.getD [] ++ [c])) rest
termination_by _ _ text => text.length
decreasing_by
  · exact Nat.lt_succ_of_lt (reader.shorter _ _ _ _unescaped)
  all_goals exact Nat.lt_succ_self _

def expand : List Char → List Char
  | [] => []
  | '%'::c::rest => (reader.specifier c).getD ['%',c] ++ expand rest
  | c::rest => c::expand rest

/-- The path of a command, after the characters that may set its mode. -/
def commandPath (word : List Char) : List Char := word.dropWhile (fun c => "@-:+!|".toList.contains c)

def words (text : List Char) : Option (List (List Char)) :=
  (split reader none none text).map (List.map (expand reader))

/-- A text as it stands between double quotes. -/
def quoted (text : List Char) : List Char :=
  text.flatMap (fun c => if c = '\\' ∨ c = '"' then ['\\',c] else [c])

/-- A text without specifiers. -/
def doubled (text : List Char) : List Char := text.flatMap (fun c => if c = '%' then ['%','%'] else [c])

theorem quoted_cons (c : Char) (text : List Char) :
    quoted (c::text) = (if c = '\\' ∨ c = '"' then ['\\',c] else [c]) ++ quoted text := rfl

theorem doubled_cons (c : Char) (text : List Char) :
    doubled (c::text) = (if c = '%' then ['%','%'] else [c]) ++ doubled text := rfl

theorem quoted_plain {text : List Char} (plain : ∀ c ∈ text, c ≠ '\\' ∧ c ≠ '"') : quoted text = text := by
  induction text with
  | nil => rfl
  | cons c text ih =>
    have unmarked : ¬(c = '\\' ∨ c = '"') := not_or.mpr (plain c List.mem_cons_self)
    rw [quoted_cons,if_neg unmarked,ih (fun other member => plain other (List.mem_cons_of_mem _ member))]
    rfl

theorem doubled_plain {text : List Char} (plain : '%' ∉ text) : doubled text = text := by
  induction text with
  | nil => rfl
  | cons c text ih =>
    rw [List.mem_cons,not_or] at plain
    rw [doubled_cons,if_neg (fun same => plain.1 same.symm),ih plain.2]
    rfl

theorem mem_quoted {c : Char} {text : List Char} (member : c ∈ quoted text) : c = '\\' ∨ c ∈ text := by
  obtain ⟨other,inside,found⟩ := List.mem_flatMap.mp member
  split at found
  · rcases List.mem_cons.mp found with rfl | last
    · exact Or.inl rfl
    · exact Or.inr (List.mem_singleton.mp last ▸ inside)
  · exact Or.inr (List.mem_singleton.mp found ▸ inside)

theorem mem_doubled {c : Char} {text : List Char} (member : c ∈ doubled text) : c ∈ text := by
  obtain ⟨other,inside,found⟩ := List.mem_flatMap.mp member
  split at found
  · rename_i percent
    subst percent
    have same : c = '%' := by simpa using found
    exact same ▸ inside
  · exact List.mem_singleton.mp found ▸ inside

variable {reader} {mark : Option Char} {word : Option (List Char)} {rest : List Char}

theorem split_escaped {c : Char} (known : reader.unescape (c::rest) = some ([c],rest)) :
    split reader mark word ('\\'::c::rest) = split reader mark (some (word.getD [] ++ [c])) rest := by
  rw [split,if_pos rfl]
  split
  · rename_i failed
    rw [known] at failed
    cases failed
  · rename_i value later decoded
    rw [known] at decoded
    cases decoded
    rfl

theorem split_letter {c : Char} (unescaped : c ≠ '\\') (unmarked : mark ≠ some c)
    (bare : mark = none → isBlank c = false ∧ c ≠ '"' ∧ c ≠ '\'') :
    split reader mark word (c::rest) = split reader mark (some (word.getD [] ++ [c])) rest := by
  rw [split,if_neg unescaped,if_neg unmarked,if_neg,if_neg]
  · rintro ⟨open_,double | single⟩
    · exact (bare open_).2.1 double
    · exact (bare open_).2.2 single
  · rintro ⟨open_,blank⟩
    rw [(bare open_).1] at blank
    cases blank

/-- What stands between double quotes is read as it is. -/
theorem split_quoted (word text rest : List Char) :
    split reader (some '"') (some word) (quoted text ++ '"'::rest) = split reader none (some (word ++ text)) rest := by
  induction text generalizing word with
  | nil =>
    rw [quoted,List.flatMap_nil,List.nil_append,split,if_neg (by decide),if_pos rfl,List.append_nil]
  | cons c text ih =>
    have later := ih (word ++ [c])
    rw [List.append_assoc,List.singleton_append] at later
    rw [quoted_cons,← later]
    by_cases marked : c = '\\' ∨ c = '"'
    · rw [if_pos marked]
      refine split_escaped ?_
      rcases marked with rfl | rfl
      · exact reader.backslash _
      · exact reader.quote _
    · rw [if_neg marked]
      rw [not_or] at marked
      exact split_letter marked.1 (fun same => marked.2 (Option.some.inj same).symm) (fun closed => nomatch closed)

theorem split_blank {blank : Char} (separates : isBlank blank = true) (word : List Char) :
    split reader none (some word) (blank::rest) =
      (split reader none none rest).map (fun words => word::words) := by
  have other : blank ≠ '\\' := by
    rintro rfl
    cases separates
  rw [split,if_neg other,if_neg (fun closed => nomatch closed),if_pos ⟨rfl,separates⟩]
  rfl

/-- Letters without a meaning of their own are read as they are, up to the blank after them. -/
theorem split_plain {text : List Char} (word : List Char)
    (plain : ∀ c ∈ text, c ≠ '\\' ∧ isBlank c = false ∧ c ≠ '"' ∧ c ≠ '\'') {blank : Char}
    (separates : isBlank blank = true) :
    split reader none (some word) (text ++ blank::rest) =
      (split reader none none rest).map (fun words => (word ++ text)::words) := by
  induction text generalizing word with
  | nil =>
    rw [List.nil_append,split_blank separates,List.append_nil]
  | cons c text ih =>
    obtain ⟨unescaped,bare⟩ := plain c List.mem_cons_self
    have later := ih (word ++ [c]) (fun other member => plain other (List.mem_cons_of_mem _ member))
    rw [List.append_assoc,List.singleton_append] at later
    rw [← later]
    exact split_letter unescaped (fun closed => nomatch closed) (fun _ => bare)

theorem expand_cons {c : Char} (ordinary : c ≠ '%') (text : List Char) :
    expand reader (c::text) = c::expand reader text := by
  rw [expand]
  rintro next later rfl
  exact fun _ => ordinary rfl

theorem expand_doubled (text : List Char) : expand reader (doubled text) = text := by
  induction text with
  | nil => rfl
  | cons c text ih =>
    rw [doubled_cons]
    by_cases percent : c = '%'
    · subst percent
      rw [if_pos rfl]
      change (reader.specifier '%').getD ['%','%'] ++ expand reader (doubled text) = _
      rw [reader.percent,ih]
      rfl
    · rw [if_neg percent,List.singleton_append,expand_cons percent,ih]

theorem expand_plain {text : List Char} (plain : '%' ∉ text) : expand reader text = text := by
  induction text with
  | nil => rfl
  | cons c text ih =>
    rw [List.mem_cons,not_or] at plain
    rw [expand_cons (fun same => plain.1 same.symm),ih plain.2]

theorem split_begin {c : Char} (plain : c ≠ '\\' ∧ isBlank c = false ∧ c ≠ '"' ∧ c ≠ '\'') :
    split reader none none (c::rest) = split reader none (some []) (c::rest) := by
  have closed : (none : Option Char) ≠ some c := fun same => nomatch same
  rw [split_letter plain.1 closed (fun _ => plain.2),split_letter plain.1 closed (fun _ => plain.2)]
  rfl

theorem split_open (word : Option (List Char)) :
    split reader none word ('"'::rest) = split reader (some '"') (some (word.getD [])) rest := by
  rw [split,if_neg (by decide),if_neg (fun closed => nomatch closed),if_neg (by decide),if_pos (by decide)]

theorem split_end {text : List Char} (word : List Char)
    (plain : ∀ c ∈ text, c ≠ '\\' ∧ isBlank c = false ∧ c ≠ '"' ∧ c ≠ '\'') :
    split reader none (some word) text = some [word ++ text] := by
  induction text generalizing word with
  | nil => rw [split,List.append_nil]; rfl
  | cons c text ih =>
    obtain ⟨unescaped,bare⟩ := plain c List.mem_cons_self
    have later := ih (word ++ [c]) (fun other member => plain other (List.mem_cons_of_mem _ member))
    rw [List.append_assoc,List.singleton_append] at later
    rw [← later]
    exact split_letter unescaped (fun closed => nomatch closed) (fun _ => bare)

end words
end Proactive.Library.UnitFile
