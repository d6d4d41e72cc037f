import Mathlib.Data.List.Basic
import Proactive.Library.Characters

/-! Regular expressions whose repetitions repeat one character class: a greedy backtracking matcher,
and the relation between a match and the text around it. -/
namespace Proactive.Library

inductive Regex
  | empty
  | one (accepts : Char → Bool)
  | boundary
  | seq (first second : Regex)
  | alt (first second : Regex)
  | many (accepts : Char → Bool) (least : Nat) (most : Option Nat)
  | group (inner : Regex)

namespace Regex

structure Hit where
  consumed : List Char
  groups : List (List Char)
deriving DecidableEq, Repr

def anyOf (options : List Regex) : Regex := options.foldr .alt (.one (fun _ => false))

def allOf (parts : List Regex) : Regex := parts.foldr .seq .empty

def literal (text : String) : Regex := allOf (text.toList.map (fun letter => .one (· == letter)))

/-- A letter of a pattern that ignores case: four characters beyond ASCII fold to an ASCII letter. -/
def folds (letter c : Char) : Bool :=
  c == letter || c.toLower == letter || letter == 'i' && (c == 'İ' || c == 'ı') || letter == 's' && c == 'ſ' ||
    letter == 'k' && c == '\u212a'

def ignoringCase (text : String) : Regex := allOf (text.toList.map (fun letter => .one (folds letter)))

section
variable (word : Char → Bool)

def atWord (side : List Char) : Bool := side.head?.any word

/-- Every match at a position, the preferred one first. The text before the position is reversed. -/
def hits : Regex → List Char → List Char → List Hit
  | .empty, _, _ => [⟨[],[]⟩]
  | .one accepts, _, after =>
    match after with
    | [] => []
    | c::_ => if accepts c then [⟨[c],[]⟩] else []
  | .boundary, before, after => if atWord word before != atWord word after then [⟨[],[]⟩] else []
  | .seq first second, before, after =>
    (hits first before after).flatMap (fun hit =>
      (hits second (hit.consumed.reverse ++ before) (after.drop hit.consumed.length)).map (fun next =>
        ⟨hit.consumed ++ next.consumed,hit.groups ++ next.groups⟩))
  | .alt first second, before, after => hits first before after ++ hits second before after
  | .many accepts least most, _, after =>
    let run := (after.takeWhile accepts).length
    let longest := most.elim run (min run)
    (List.range' least (longest + 1 - least)).reverse.map (fun count => ⟨after.take count,[]⟩)
  | .group inner, before, after =>
    (hits inner before after).map (fun hit => ⟨hit.consumed,hit.consumed::hit.groups⟩)

def search (pattern : Regex) : List Char → List Char → Option Hit
  | before, [] => (hits word pattern before []).head?
  | before, c::rest =>
    match (hits word pattern before (c::rest)).head? with
    | some hit => some hit
    | none => search pattern (c::before) rest

/-- `pattern.finditer`, for a pattern that matches no empty text. The characters of the last match
are skipped. -/
def finditer (pattern : Regex) : Nat → List Char → List Char → List Hit
  | _, _, [] => []
  | skipped + 1, before, c::rest => finditer pattern skipped (c::before) rest
  | 0, before, c::rest =>
    match (hits word pattern before (c::rest)).head? with
    | some hit => hit::finditer pattern (hit.consumed.length - 1) (c::before) rest
    | none => finditer pattern 0 (c::before) rest

/-- A pattern takes `consumed` between the reversed text on its left and the text on its right. -/
inductive Matches : Regex → List Char → List Char → List Char → List (List Char) → Prop
  | empty (left right : List Char) : Matches .empty left [] right []
  | one (accepts : Char → Bool) (left right : List Char) (c : Char) (accepted : accepts c = true) :
      Matches (.one accepts) left [c] right []
  | boundary (left right : List Char) (differs : atWord word left ≠ atWord word right) :
      Matches .boundary left [] right []
  | seq (first second : Regex) (left one two right : List Char) (groups groups' : List (List Char))
      (head : Matches first left one (two ++ right) groups)
      (tail : Matches second (one.reverse ++ left) two right groups') :
      Matches (.seq first second) left (one ++ two) right (groups ++ groups')
  | altFirst (first second : Regex) (left consumed right : List Char) (groups : List (List Char))
      (inner : Matches first left consumed right groups) :
      Matches (.alt first second) left consumed right groups
  | altSecond (first second : Regex) (left consumed right : List Char) (groups : List (List Char))
      (inner : Matches second left consumed right groups) :
      Matches (.alt first second) left consumed right groups
  | many (accepts : Char → Bool) (least : Nat) (most : Option Nat) (left consumed right : List Char)
      (all : ∀ c ∈ consumed, accepts c = true) (enough : least ≤ consumed.length)
      (bounded : ∀ limit, most = some limit → consumed.length ≤ limit) :
      Matches (.many accepts least most) left consumed right []
  | group (inner : Regex) (left consumed right : List Char) (groups : List (List Char))
      (matched : Matches inner left consumed right groups) :
      Matches (.group inner) left consumed right (consumed::groups)

variable {word}

theorem atWord_append {middle side side' : List Char} (same : atWord word side' = atWord word side) :
    atWord word (middle ++ side') = atWord word (middle ++ side) := by
  cases middle with
  | nil => exact same
  | cons c rest => rfl

/-- A match depends on the text around it only by the word characters next to it. -/
theorem Matches.context {pattern : Regex} {left consumed right : List Char} {groups : List (List Char)}
    (matched : Matches word pattern left consumed right groups) {left' right' : List Char}
    (before : atWord word left' = atWord word left) (after : atWord word right' = atWord word right) :
    Matches word pattern left' consumed right' groups := by
  induction matched generalizing left' right' with
  | empty => exact .empty _ _
  | one accepts _ _ c accepted => exact .one accepts _ _ c accepted
  | boundary left right differs =>
    apply Matches.boundary
    rw [before,after]
    exact differs
  | seq first second left one two right _ _ _ _ ih ih' =>
    exact .seq first second _ one two _ _ _ (ih before (atWord_append after)) (ih' (atWord_append before) after)
  | altFirst first second _ _ _ _ _ ih => exact .altFirst first second _ _ _ _ (ih before after)
  | altSecond first second _ _ _ _ _ ih => exact .altSecond first second _ _ _ _ (ih before after)
  | many accepts least most _ _ _ all enough bounded => exact .many accepts least most _ _ _ all enough bounded
  | group inner _ _ _ _ _ ih => exact .group inner _ _ _ _ (ih before after)

theorem takeWhile_run {accepts : Char → Bool} {text consumed right : List Char}
    (split : text = consumed ++ right) (all : ∀ c ∈ consumed, accepts c = true) :
    consumed.length ≤ (text.takeWhile accepts).length := by
  subst split
  rw [List.takeWhile_append_of_pos all,List.length_append]
  exact Nat.le_add_right _ _

variable {before after consumed : List Char} {groups : List (List Char)}

theorem mem_hits_many {accepts : Char → Bool} {least : Nat} {most : Option Nat} :
    ⟨consumed,groups⟩ ∈ hits word (.many accepts least most) before after ↔
      ∃ right, after = consumed ++ right ∧
        Matches word (.many accepts least most) before consumed right groups := by
  have limit : ∀ count, count ≤ most.elim (after.takeWhile accepts).length (min (after.takeWhile accepts).length) ↔
      count ≤ (after.takeWhile accepts).length ∧ ∀ bound, most = some bound → count ≤ bound := by
    intro count
    cases most with
    | none => simp
    | some bound =>
      rw [Option.elim_some,Nat.le_min]
      simp
  unfold hits
  simp only [List.mem_map,List.mem_reverse,List.mem_range'_1]
  constructor
  · intro ⟨count,⟨enough,below⟩,same⟩
    have within := (limit count).mp (by omega)
    have short : count ≤ after.length := Nat.le_trans within.1 (List.takeWhile_prefix accepts).length_le
    obtain ⟨rfl,rfl⟩ := Hit.mk.inj same
    refine ⟨after.drop count,(List.take_append_drop count after).symm,.many accepts least most _ _ _ ?_ ?_ ?_⟩
    · intro c member
      have begins : after.take count <+: after.takeWhile accepts := by
        refine List.prefix_of_prefix_length_le (List.take_prefix count after) (List.takeWhile_prefix accepts) ?_
        rw [List.length_take_of_le short]
        exact within.1
      exact List.all_eq_true.mp List.all_takeWhile c (begins.subset member)
    · rwa [List.length_take_of_le short]
    · rw [List.length_take_of_le short]
      exact within.2
  · intro ⟨right,split,matched⟩
    cases matched with
    | many _ _ _ _ _ _ all enough bounded =>
      have within := (limit consumed.length).mpr ⟨takeWhile_run split all,bounded⟩
      refine ⟨consumed.length,⟨enough,by omega⟩,?_⟩
      rw [split,List.take_left']
      rfl

theorem mem_hits_iff {pattern : Regex} :
    ⟨consumed,groups⟩ ∈ hits word pattern before after ↔
      ∃ right, after = consumed ++ right ∧ Matches word pattern before consumed right groups := by
  induction pattern generalizing before after consumed groups with
  | empty =>
    rw [hits,List.mem_singleton,Hit.mk.injEq]
    constructor
    · intro ⟨nothing,ungrouped⟩
      subst nothing ungrouped
      exact ⟨after,rfl,.empty _ _⟩
    · intro ⟨_,_,matched⟩
      cases matched
      exact ⟨rfl,rfl⟩
  | one accepts =>
    cases after with
    | nil =>
      constructor
      · intro member
        cases member
      · intro ⟨_,split,matched⟩
        cases matched
        cases split
    | cons c rest =>
      rw [hits]
      constructor
      · intro member
        split at member
        · rename_i accepted
          obtain ⟨rfl,rfl⟩ := Hit.mk.inj (List.mem_singleton.mp member)
          exact ⟨rest,rfl,.one accepts _ _ c accepted⟩
        · cases member
      · intro ⟨right,split,matched⟩
        cases matched with
        | one _ _ _ c accepted =>
          cases split
          rw [if_pos accepted]
          exact List.mem_singleton.mpr rfl
  | boundary =>
    rw [hits]
    constructor
    · intro member
      split at member
      · rename_i differs
        obtain ⟨rfl,rfl⟩ := Hit.mk.inj (List.mem_singleton.mp member)
        exact ⟨after,rfl,.boundary _ _ (bne_iff_ne.mp differs)⟩
      · cases member
    · intro ⟨right,split,matched⟩
      cases matched with
      | boundary _ _ differs =>
        subst split
        rw [if_pos (bne_iff_ne.mpr differs)]
        exact List.mem_singleton.mpr rfl
  | seq first second ih ih' =>
    rw [hits,List.mem_flatMap]
    constructor
    · intro ⟨⟨start,captured⟩,early,member⟩
      obtain ⟨⟨finish,captured'⟩,late,same⟩ := List.mem_map.mp member
      obtain ⟨rfl,rfl⟩ := Hit.mk.inj same
      obtain ⟨middle,split,head⟩ := ih.mp early
      subst split
      rw [List.drop_left' rfl] at late
      obtain ⟨right,split,tail⟩ := ih'.mp late
      subst split
      exact ⟨right,(List.append_assoc _ _ _).symm,.seq first second _ start finish _ _ _ head tail⟩
    · intro ⟨right,split,matched⟩
      cases matched with
      | seq _ _ _ start finish _ captured captured' head tail =>
        change after = (start ++ finish) ++ right at split
        rw [List.append_assoc] at split
        subst split
        refine ⟨⟨start,captured⟩,ih.mpr ⟨finish ++ right,rfl,head⟩,?_⟩
        refine List.mem_map.mpr ⟨⟨finish,captured'⟩,?_,rfl⟩
        rw [List.drop_left' rfl]
        exact ih'.mpr ⟨right,rfl,tail⟩
  | alt first second ih ih' =>
    rw [hits,List.mem_append,ih,ih']
    constructor
    · intro either
      rcases either with ⟨right,split,matched⟩ | ⟨right,split,matched⟩
      · exact ⟨right,split,.altFirst first second _ _ _ _ matched⟩
      · exact ⟨right,split,.altSecond first second _ _ _ _ matched⟩
    · intro ⟨right,split,matched⟩
      cases matched with
      | altFirst _ _ _ _ _ _ inner => exact Or.inl ⟨right,split,inner⟩
      | altSecond _ _ _ _ _ _ inner => exact Or.inr ⟨right,split,inner⟩
  | many accepts least most => exact mem_hits_many
  | group inner ih =>
    rw [hits,List.mem_map]
    constructor
    · intro ⟨⟨start,captured⟩,member,same⟩
      obtain ⟨rfl,rfl⟩ := Hit.mk.inj same
      obtain ⟨right,split,matched⟩ := ih.mp member
      exact ⟨right,split,.group inner _ _ _ _ matched⟩
    · intro ⟨right,split,matched⟩
      cases matched with
      | group _ _ _ _ captured matched => exact ⟨⟨consumed,captured⟩,ih.mpr ⟨right,split,matched⟩,rfl⟩

variable {pattern : Regex}

variable (word) in
def Occurs (pattern : Regex) (before text consumed : List Char) (groups : List (List Char)) : Prop :=
  ∃ front right, text = front ++ (consumed ++ right) ∧
    Matches word pattern (front.reverse ++ before) consumed right groups

theorem Occurs.later {c : Char} {text : List Char} (occurs : Occurs word pattern (c::before) text consumed groups) :
    Occurs word pattern before (c::text) consumed groups := by
  obtain ⟨front,right,split,matched⟩ := occurs
  refine ⟨c::front,right,congrArg (List.cons c) split,?_⟩
  rwa [List.reverse_cons,List.append_assoc]

theorem occurs_of_head {hit : Hit} {text : List Char} (found : (hits word pattern before text).head? = some hit) :
    Occurs word pattern before text hit.consumed hit.groups := by
  obtain ⟨right,split,matched⟩ := mem_hits_iff.mp (List.mem_of_head? found)
  exact ⟨[],right,split,matched⟩

theorem search_occurs {text : List Char} {hit : Hit} (found : search word pattern before text = some hit) :
    Occurs word pattern before text hit.consumed hit.groups := by
  induction text generalizing before with
  | nil => exact occurs_of_head found
  | cons c rest ih =>
    rw [search] at found
    cases here : (hits word pattern before (c::rest)).head? with
    | some first =>
      rw [here] at found
      obtain rfl := Option.some.inj found
      exact occurs_of_head here
    | none =>
      rw [here] at found
      exact (ih found).later

theorem search_isSome {text : List Char} (occurs : Occurs word pattern before text consumed groups) :
    (search word pattern before text).isSome = true := by
  obtain ⟨front,right,split,matched⟩ := occurs
  induction front generalizing before text with
  | nil =>
    have member := mem_hits_iff.mpr ⟨right,rfl,matched⟩
    change ⟨consumed,groups⟩ ∈ hits word pattern before (consumed ++ right) at member
    rw [List.nil_append] at split
    rw [← split] at member
    have found : ∃ hit, (hits word pattern before text).head? = some hit :=
      Option.isSome_iff_exists.mp (List.isSome_head?.mpr (List.ne_nil_of_mem member))
    obtain ⟨hit,found⟩ := found
    cases text with
    | nil => rw [search,found,Option.isSome_some]
    | cons c rest =>
      rw [search,found]
      rfl
  | cons c front ih =>
    subst split
    rw [List.cons_append,search]
    split
    · rfl
    · apply ih rfl
      rwa [List.reverse_cons,List.append_assoc] at matched

theorem mem_finditer {text : List Char} {skipped : Nat} {hit : Hit}
    (member : hit ∈ finditer word pattern skipped before text) :
    Occurs word pattern before text hit.consumed hit.groups := by
  induction text generalizing before skipped with
  | nil => cases skipped <;> cases member
  | cons c rest ih =>
    cases skipped with
    | succ skipped =>
      rw [finditer] at member
      exact (ih member).later
    | zero =>
      rw [finditer] at member
      cases here : (hits word pattern before (c::rest)).head? with
      | some first =>
        rw [here] at member
        rcases List.mem_cons.mp member with rfl | member
        · exact occurs_of_head here
        · exact (ih member).later
      | none =>
        rw [here] at member
        exact (ih member).later

/-- A match within a text is a match within a longer one, whose additions begin with no word character. -/
theorem Occurs.context {text : List Char} (occurs : Occurs word pattern [] text consumed groups)
    (front back : List Char) (left : atWord word front.reverse = false) (right : atWord word back = false) :
    Occurs word pattern [] (front ++ (text ++ back)) consumed groups := by
  obtain ⟨inner,rest,split,matched⟩ := occurs
  refine ⟨front ++ inner,rest ++ back,by simp [split],matched.context ?_ ?_⟩
  · rw [List.reverse_append,List.append_nil]
    exact atWord_append left
  · conv_rhs => rw [← List.append_nil rest]
    exact atWord_append right

theorem matches_anyOf {options : List Regex} {left right : List Char}
    (matched : Matches word (anyOf options) left consumed right groups) :
    ∃ option ∈ options, Matches word option left consumed right groups := by
  induction options with
  | nil =>
    cases matched with
    | one _ _ _ _ accepted => cases accepted
  | cons option rest ih =>
    cases matched with
    | altFirst _ _ _ _ _ _ inner => exact ⟨option,List.mem_cons_self,inner⟩
    | altSecond _ _ _ _ _ _ inner =>
      obtain ⟨other,member,matched⟩ := ih inner
      exact ⟨other,List.mem_cons_of_mem option member,matched⟩

theorem matches_letters {accepts : Char → Char → Bool} {letters left right : List Char}
    (matched : Matches word (allOf (letters.map (fun letter => .one (accepts letter)))) left consumed right groups) :
    List.Forall₂ (fun letter c => accepts letter c = true) letters consumed ∧ groups = [] := by
  induction letters generalizing left consumed groups with
  | nil =>
    cases matched
    exact ⟨.nil,rfl⟩
  | cons letter rest ih =>
    cases matched with
    | seq _ _ _ start finish _ captured captured' head tail =>
      cases head with
      | one _ _ _ c accepted =>
        obtain ⟨spelled,ungrouped⟩ := ih tail
        exact ⟨.cons accepted spelled,ungrouped⟩

theorem matches_cons {part : Regex} {parts : List Regex} {left right : List Char}
    (matched : Matches word (allOf (part::parts)) left consumed right groups) :
    ∃ left' right' start finish captured captured', consumed = start ++ finish ∧ groups = captured ++ captured' ∧
      Matches word part left start right' captured ∧ Matches word (allOf parts) left' finish right captured' := by
  cases matched with
  | seq _ _ _ start finish _ captured captured' head tail =>
    exact ⟨_,_,start,finish,captured,captured',rfl,rfl,head,tail⟩

theorem matches_nil {left right : List Char} (matched : Matches word (allOf []) left consumed right groups) :
    groups = [] := by
  cases matched
  rfl

theorem matches_group {left right : List Char} (matched : Matches word (.group pattern) left consumed right groups) :
    ∃ captured, groups = consumed::captured ∧ Matches word pattern left consumed right captured := by
  cases matched with
  | group _ _ _ _ captured matched => exact ⟨captured,rfl,matched⟩

def groupless : Regex → Bool
  | .seq first second => groupless first && groupless second
  | .alt first second => groupless first && groupless second
  | .group _ => false
  | _ => true

theorem matches_groupless {left right : List Char} (matched : Matches word pattern left consumed right groups)
    (plain : groupless pattern = true) : groups = [] := by
  induction matched with
  | empty => rfl
  | one => rfl
  | boundary => rfl
  | seq _ _ _ _ _ _ _ _ _ _ ih ih' =>
    rw [groupless,Bool.and_eq_true] at plain
    rw [ih plain.1,ih' plain.2]
    rfl
  | altFirst _ _ _ _ _ _ _ ih =>
    rw [groupless,Bool.and_eq_true] at plain
    exact ih plain.1
  | altSecond _ _ _ _ _ _ _ ih =>
    rw [groupless,Bool.and_eq_true] at plain
    exact ih plain.2
  | many => rfl
  | group => cases plain

/-- A match in one of the parts is a match in the joined text, if the separator is no word character. -/
theorem Occurs.joined {separator : Char} (apart : word separator = false) {parts : List (List Char)}
    {part : List Char} (member : part ∈ parts) (occurs : Occurs word pattern [] part consumed groups) :
    Occurs word pattern [] ([separator].intercalate parts) consumed groups := by
  have beside {side : List Char} : atWord word (separator::side) = false := apart
  induction parts with
  | nil => cases member
  | cons first rest ih =>
    cases rest with
    | nil =>
      obtain rfl := List.mem_singleton.mp member
      rwa [List.intercalate_singleton]
    | cons second rest =>
      rw [List.intercalate_cons_cons,List.append_assoc]
      rcases List.mem_cons.mp member with rfl | later
      · exact occurs.context [] _ rfl beside
      · have inner := (ih later).context (first ++ [separator]) [] (by rw [List.reverse_append]; exact beside) rfl
        rwa [List.append_nil,List.append_assoc] at inner

/-- The pattern can match copies of one character. -/
def feasible (c : Char) : Regex → Bool
  | .one accepts => accepts c
  | .seq first second => feasible c first && feasible c second
  | .alt first second => feasible c first || feasible c second
  | .many accepts least _ => least == 0 || accepts c
  | .group inner => feasible c inner
  | _ => true

theorem Matches.feasible {c : Char} {left right : List Char}
    (matched : Matches word pattern left consumed right groups) (copies : ∀ other ∈ consumed, other = c) :
    feasible c pattern = true := by
  induction matched with
  | empty => rfl
  | one accepts _ _ other accepted => rwa [← copies other List.mem_cons_self]
  | boundary => rfl
  | seq _ _ _ start finish _ _ _ _ _ ih ih' =>
    rw [Regex.feasible,ih (fun other member => copies other (List.mem_append_left finish member)),
      ih' (fun other member => copies other (List.mem_append_right start member))]
    rfl
  | altFirst _ _ _ _ _ _ _ ih => rw [Regex.feasible,ih copies,Bool.true_or]
  | altSecond _ _ _ _ _ _ _ ih => rw [Regex.feasible,ih copies,Bool.or_true]
  | many accepts least _ _ consumed _ all enough _ =>
    rw [Regex.feasible,Bool.or_eq_true,beq_iff_eq]
    cases consumed with
    | nil => exact Or.inl (Nat.le_zero.mp enough)
    | cons first rest =>
      rw [← copies first List.mem_cons_self]
      exact Or.inr (all first List.mem_cons_self)
  | group _ _ _ _ _ _ ih => exact ih copies

end
end Regex
end Proactive.Library
