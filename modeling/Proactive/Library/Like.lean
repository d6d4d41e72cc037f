import Mathlib.Data.List.Infix

/-! The `LIKE` operator of SQL: patterns with `%`, `_` and an escape character, compared up to a
fold of the characters. -/
namespace Proactive.Library.Like

inductive Token
  /-- Any text. -/
  | any
  /-- Any one character. -/
  | one
  | literal (character : Char)
deriving DecidableEq, Repr

/-- The tokens of a pattern, or none when it ends in a lone escape character. -/
def tokens (escape : Char) : List Char → Option (List Token)
  | [] => some []
  | character::rest =>
    if character = escape then
      match rest with
      | [] => none
      | literal::rest => (tokens escape rest).map (Token.literal literal :: ·)
    else (tokens escape rest).map
      ((if character = '%' then .any else if character = '_' then .one else .literal character) :: ·)

variable {κ : Type} [DecidableEq κ] (fold : Char → κ)

def accepts : List Token → List Char → Bool
  | [],text => text.isEmpty
  | .any::rest,text => text.tails.any (accepts rest)
  | .one::_,[] => false
  | .one::rest,_::text => accepts rest text
  | .literal _::_,[] => false
  | .literal literal::rest,character::text => fold literal == fold character && accepts rest text

def like (escape : Char) (pattern text : List Char) : Bool :=
  (tokens escape pattern).any (fun read => accepts fold read text)

/-- The text as a pattern for itself. -/
def escaped (escape : Char) (text : List Char) : List Char :=
  text.flatMap (fun character =>
    if character = escape ∨ character = '%' ∨ character = '_' then [escape,character] else [character])

theorem tokens_plain {escape character : Char} (plain : character ≠ escape) (rest : List Char) :
    tokens escape (character::rest) = (tokens escape rest).map
      ((if character = '%' then .any else if character = '_' then .one else .literal character) :: ·) := by
  rw [tokens.eq_def]
  exact if_neg plain

theorem tokens_escape (escape literal : Char) (rest : List Char) :
    tokens escape (escape::literal::rest) = (tokens escape rest).map (Token.literal literal :: ·) := by
  rw [tokens.eq_def]
  exact if_pos rfl

theorem tokens_escaped (escape : Char) (text rest : List Char) :
    tokens escape (escaped escape text ++ rest) = (tokens escape rest).map (text.map Token.literal ++ ·) := by
  induction text with
  | nil => exact Option.map_id'.symm
  | cons character text ih =>
    have split : escaped escape (character::text) ++ rest =
        (if character = escape ∨ character = '%' ∨ character = '_' then [escape,character] else [character]) ++
          (escaped escape text ++ rest) := by
      unfold escaped
      rw [List.flatMap_cons,List.append_assoc]
    rw [split]
    by_cases special : character = escape ∨ character = '%' ∨ character = '_'
    · rw [if_pos special]
      change tokens escape (escape::character::(escaped escape text ++ rest)) = _
      rw [tokens_escape,ih,Option.map_map]
      rfl
    · rw [if_neg special]
      obtain ⟨plain,noAny,noOne⟩ := not_or.mp special |>.imp id not_or.mp
      change tokens escape (character::(escaped escape text ++ rest)) = _
      rw [tokens_plain plain,if_neg noAny,if_neg noOne,ih,Option.map_map]
      rfl

theorem accepts_literals (literals : List Char) (rest : List Token) (text : List Char) :
    accepts fold (literals.map Token.literal ++ rest) text = true ↔
      ∃ front back, text = front ++ back ∧ front.map fold = literals.map fold ∧ accepts fold rest back = true := by
  induction literals generalizing text with
  | nil =>
    constructor
    · exact fun accepted => ⟨[],text,rfl,rfl,accepted⟩
    · rintro ⟨front,back,rfl,empty,accepted⟩
      rw [List.map_nil,List.map_eq_nil_iff] at empty
      rw [empty]
      exact accepted
  | cons literal literals ih =>
    rw [List.map_cons,List.cons_append]
    cases text with
    | nil =>
      constructor
      · intro accepted
        cases accepted
      · rintro ⟨front,back,whole,same,_⟩
        rw [(List.append_eq_nil_iff.mp whole.symm).1] at same
        cases same
    | cons character text =>
      rw [accepts,Bool.and_eq_true,beq_iff_eq,ih]
      constructor
      · rintro ⟨head,front,back,rfl,same,accepted⟩
        exact ⟨character::front,back,rfl,by rw [List.map_cons,List.map_cons,head,same],accepted⟩
      · rintro ⟨front,back,whole,same,accepted⟩
        cases front with
        | nil => cases same
        | cons first front =>
          obtain ⟨rfl,rfl⟩ := List.cons.inj whole
          obtain ⟨head,tail⟩ := List.cons.inj same
          exact ⟨head.symm,front,back,rfl,tail,accepted⟩

/-- An escaped text before `%` accepts what starts with the text, up to the fold. -/
theorem like_extends (escape : Char) (plain : escape ≠ '%') (literals text : List Char) :
    like fold escape (escaped escape literals ++ ['%']) text = true ↔
      ∃ front back, text = front ++ back ∧ front.map fold = literals.map fold := by
  have read : tokens escape ['%'] = some [.any] := by
    rw [tokens_plain plain.symm]
    rfl
  unfold like
  rw [tokens_escaped,read,Option.map_some,Option.any_some,accepts_literals]
  constructor
  · exact fun ⟨front,back,whole,same,_⟩ => ⟨front,back,whole,same⟩
  · refine fun ⟨front,back,whole,same⟩ => ⟨front,back,whole,same,?_⟩
    rw [accepts,List.any_eq_true]
    exact ⟨[],(List.mem_tails _ _).mpr List.nil_suffix,rfl⟩

/-- An escaped text between two `%` accepts what contains the text, up to the fold. -/
theorem like_contains (escape : Char) (plain : escape ≠ '%') (literals text : List Char) :
    like fold escape ('%'::(escaped escape literals ++ ['%'])) text = true ↔
      ∃ front middle back, text = front ++ middle ++ back ∧ middle.map fold = literals.map fold := by
  have read : tokens escape ('%'::(escaped escape literals ++ ['%'])) =
      some (.any::(literals.map Token.literal ++ [.any])) := by
    rw [tokens_plain plain.symm,tokens_escaped,tokens_plain plain.symm]
    rfl
  have any (text : List Char) : accepts fold [.any] text = true := by
    rw [accepts,List.any_eq_true]
    exact ⟨[],(List.mem_tails _ _).mpr List.nil_suffix,rfl⟩
  unfold like
  rw [read,Option.any_some,accepts,List.any_eq_true]
  constructor
  · rintro ⟨rest,tail,accepted⟩
    obtain ⟨front,rfl⟩ := (List.mem_tails _ _).mp tail
    obtain ⟨middle,back,rfl,same,_⟩ := (accepts_literals fold literals [.any] rest).mp accepted
    exact ⟨front,middle,back,(List.append_assoc _ _ _).symm,same⟩
  · rintro ⟨front,middle,back,rfl,same⟩
    refine ⟨middle ++ back,(List.mem_tails _ _).mpr ⟨front,(List.append_assoc _ _ _).symm⟩,?_⟩
    exact (accepts_literals fold literals [.any] _).mpr ⟨middle,back,rfl,same,any back⟩

end Proactive.Library.Like
