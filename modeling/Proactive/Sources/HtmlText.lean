import Proactive.Library.Trim
import Proactive.Sources.GmailProjection

/-! Where the characters of an extracted HTML text come from, and which visible ones are missing. -/
namespace Proactive.Sources
open Proactive.Library

inductive Origin | visible | hidden | inserted
deriving DecidableEq, Repr

abbrev Piece := List (Char × Origin)

def hiddenTags : List String := ["script","style"]

/-- The script or style element that is open after the token. -/
def openElement (element : Option String) : HtmlToken → Option String
  | .data _ => element
  | .startTag tag => if element.isNone && hiddenTags.contains tag then some tag else element
  | .endTag tag => if element = some tag then none else element

def tokenChars (element : Option String) : HtmlToken → Piece
  | .data text => text.toList.map (fun char => (char,if element.isSome then .hidden else .visible))
  | .startTag _ | .endTag _ => []

/-- The characters of the data, visible unless they stand in a script or a style. -/
def dataChars : Option String → List HtmlToken → Piece
  | _,[] => []
  | element,token::rest => tokenChars element token ++ dataChars (openElement element token) rest

def visibleText (chars : Piece) : List Char := (chars.filter (fun entry => entry.2 == .visible)).map Prod.fst

def placeBreak (pieces : List Piece) : List Piece :=
  match pieces.getLast? with
  | none => pieces
  | some last =>
    if last.getLast?.any (fun entry => [' ','\t','\n','\r'].contains entry.1) then pieces
    else pieces ++ [[(' ',.inserted)]]

/-- The callbacks of the extractor, with the origin of each character that they keep. -/
def placeToken (element : Option String) (pieces : List Piece) : HtmlToken → List Piece
  | .data text => pieces ++ [tokenChars element (.data text)]
  | .startTag tag | .endTag tag => if htmlBreakTags.contains tag then placeBreak pieces else pieces

def placeTokens : Option String → List HtmlToken → List Piece → List Piece
  | _,[],pieces => pieces
  | element,token::rest,pieces => placeTokens (openElement element token) rest (placeToken element pieces token)

def spaceEntry (entry : Char × Origin) : Bool := isSpace entry.1

/-- The extracted text of the fed tokens, before any cut. -/
def extraction (library : TextLibrary) (html : String) : Piece :=
  trim spaceEntry (placeTokens none (library.feedHtml html) []).flatten

def pieceText (piece : Piece) : String := String.ofList (piece.map Prod.fst)

theorem placeToken_text (element : Option String) (pieces : List Piece) (token : HtmlToken) :
    (placeToken element pieces token).map pieceText = handleToken (pieces.map pieceText) token := by
  have breaks : (placeBreak pieces).map pieceText = appendBreak (pieces.map pieceText) := by
    unfold placeBreak appendBreak
    rw [List.getLast?_map]
    cases pieces.getLast? with
    | none => rfl
    | some last =>
      dsimp only [Option.map_some]
      rw [pieceText,String.toList_ofList,List.getLast?_map,Option.any_map]
      split
      · rfl
      · rw [List.map_append]
        rfl
  have broken (tag : String) : (if htmlBreakTags.contains tag then placeBreak pieces else pieces).map pieceText =
      if htmlBreakTags.contains tag then appendBreak (pieces.map pieceText) else pieces.map pieceText := by
    split
    · exact breaks
    · rfl
  cases token with
  | data text =>
    unfold placeToken handleToken tokenChars
    rw [List.map_append,List.map_singleton,pieceText,List.map_map]
    congr 2
    exact (congrArg String.ofList (List.map_id _)).trans String.ofList_toList
  | startTag tag => exact broken tag
  | endTag tag => exact broken tag

theorem placeTokens_text (element : Option String) (tokens : List HtmlToken) (pieces : List Piece) :
    (placeTokens element tokens pieces).map pieceText = tokens.foldl handleToken (pieces.map pieceText) := by
  induction tokens generalizing element pieces with
  | nil => rfl
  | cons token rest ih => rw [placeTokens,ih,placeToken_text,List.foldl_cons]

/-- Unless the text is cut, the extraction is the text, character by character. -/
theorem extraction_text {library : TextLibrary} {html : String} {maxChars : Nat}
    (uncut : (extractHtmlText library html maxChars).2 = false) :
    (extraction library html).map Prod.fst = (extractHtmlText library html maxChars).1.toList := by
  have placed := placeTokens_text none (library.feedHtml html) []
  rw [List.map_nil] at placed
  unfold extractHtmlText at uncut ⊢
  dsimp only at uncut ⊢
  rw [decide_eq_false_iff_not,Nat.not_lt,← String.length_toList] at uncut
  rw [sliceTo,String.toList_ofList,List.take_of_length_le uncut,← placed]
  unfold extraction strip spaceEntry
  rw [String.toList_ofList,String.toList_join,← trim_map,List.flatMap_map,List.map_flatten]
  unfold trim List.rdropWhile
  congr 4
  rw [List.flatMap_def]
  congr 1
  apply List.map_congr_left
  intro piece _
  exact String.toList_ofList.symm

theorem placeBreak_inserted (pieces : List Piece) :
    ∃ breaks, (placeBreak pieces).flatten = pieces.flatten ++ breaks ∧
      ∀ entry ∈ breaks, entry = (' ',Origin.inserted) := by
  unfold placeBreak
  split
  · exact ⟨[],(List.append_nil _).symm,fun _ none => absurd none List.not_mem_nil⟩
  · split
    · exact ⟨[],(List.append_nil _).symm,fun _ none => absurd none List.not_mem_nil⟩
    · exact ⟨[(' ',.inserted)],by simp,fun entry member => List.mem_singleton.mp member⟩

theorem tokenChars_origin (element : Option String) (token : HtmlToken) :
    ∀ entry ∈ tokenChars element token, entry.2 ≠ .inserted := by
  intro entry member
  cases token with
  | data text =>
    obtain ⟨char,_,rfl⟩ := List.mem_map.mp member
    dsimp only
    split <;> intro same <;> cases same
  | startTag tag => cases member
  | endTag tag => cases member

/-- A token adds its own characters and nothing but breaks. -/
theorem placeToken_chars (element : Option String) (pieces : List Piece) (token : HtmlToken) :
    ∃ more, (placeToken element pieces token).flatten = pieces.flatten ++ more ∧
      more.filter (fun entry => entry.2 != .inserted) = tokenChars element token ∧
      ∀ entry ∈ more, entry.2 = .inserted → entry = (' ',Origin.inserted) := by
  have broken (tag : String) : ∃ more,
      (if htmlBreakTags.contains tag then placeBreak pieces else pieces).flatten = pieces.flatten ++ more ∧
      more.filter (fun entry => entry.2 != .inserted) = [] ∧
      ∀ entry ∈ more, entry.2 = .inserted → entry = (' ',Origin.inserted) := by
    split
    · obtain ⟨breaks,shape,only⟩ := placeBreak_inserted pieces
      refine ⟨breaks,shape,?_,fun entry member _ => only entry member⟩
      rw [List.filter_eq_nil_iff]
      intro entry member
      rw [only entry member]
      decide
    · exact ⟨[],(List.append_nil _).symm,rfl,fun _ none => absurd none List.not_mem_nil⟩
  cases token with
  | data text =>
    refine ⟨tokenChars element (.data text),by simp [placeToken],?_,?_⟩
    · rw [List.filter_eq_self]
      intro entry member
      simpa using tokenChars_origin element (.data text) entry member
    · exact fun entry member own => absurd own (tokenChars_origin element (.data text) entry member)
  | startTag tag => exact broken tag
  | endTag tag => exact broken tag

theorem placeTokens_chars (element : Option String) (tokens : List HtmlToken) (pieces : List Piece) :
    ∃ more, (placeTokens element tokens pieces).flatten = pieces.flatten ++ more ∧
      more.filter (fun entry => entry.2 != .inserted) = dataChars element tokens ∧
      ∀ entry ∈ more, entry.2 = .inserted → entry = (' ',Origin.inserted) := by
  induction tokens generalizing element pieces with
  | nil => exact ⟨[],(List.append_nil _).symm,rfl,fun _ none => absurd none List.not_mem_nil⟩
  | cons token rest ih =>
    obtain ⟨first,placed,own,breaks⟩ := placeToken_chars element pieces token
    obtain ⟨later,shape,data,spaces⟩ := ih (openElement element token) (placeToken element pieces token)
    refine ⟨first ++ later,?_,?_,?_⟩
    · rw [placeTokens,shape,placed,List.append_assoc]
    · rw [List.filter_append,own,data,dataChars]
    · intro entry member
      rcases List.mem_append.mp member with early | late
      · exact breaks entry early
      · exact spaces entry late

theorem dataChars_append (element : Option String) (first second : List HtmlToken) :
    dataChars element (first ++ second) =
      dataChars element first ++ dataChars (first.foldl openElement element) second := by
  induction first generalizing element with
  | nil => rfl
  | cons token rest ih => rw [List.cons_append,dataChars,dataChars,ih,List.append_assoc,List.foldl_cons]

theorem visibleText_append (first second : Piece) :
    visibleText (first ++ second) = visibleText first ++ visibleText second := by
  unfold visibleText
  rw [List.filter_append,List.map_append]

/-- The visible characters that the parser would deliver only when it is closed. -/
def heldBack (library : TextLibrary) (closeHtml : String → List HtmlToken) (html : String) : List Char :=
  visibleText (dataChars ((library.feedHtml html).foldl openElement none) (closeHtml html))

/-- The text has the visible characters of the document in their order, the white space at its ends aside,
and none that stands in a script or a style. -/
def FaithfulText (library : TextLibrary) (closeHtml : String → List HtmlToken) (html text : String) : Prop :=
  (trim isSpace (visibleText (dataChars none (library.feedHtml html ++ closeHtml html)))).Sublist text.toList ∧
    ∀ entry ∈ extraction library html, entry.2 ≠ .hidden

instance (library : TextLibrary) (closeHtml : String → List HtmlToken) (html text : String) :
    Decidable (FaithfulText library closeHtml html text) := inferInstanceAs (Decidable (_ ∧ _))

/-- The characters of a script or a style are white space, before or after all other text. -/
def HiddenTrimmed (chars : Piece) : Prop :=
  ∀ front char back, chars = front ++ (char,Origin.hidden)::back → isSpace char = true ∧
    ((∀ entry ∈ front, isSpace entry.1 = true) ∨ ∀ entry ∈ back, isSpace entry.1 = true)

theorem unhidden_iff (library : TextLibrary) (html : String) :
    (∀ entry ∈ extraction library html, entry.2 ≠ .hidden) ↔
      HiddenTrimmed (dataChars none (library.feedHtml html)) := by
  obtain ⟨placed,shape,data,breaks⟩ := placeTokens_chars none (library.feedHtml html) []
  rw [List.flatten_nil,List.nil_append] at shape
  have put : ∀ entry ∈ placed, (entry.2 != .inserted) = false → spaceEntry entry = true ∧ ¬entry.2 = .hidden := by
    intro entry member own
    rw [bne_eq_false_iff_eq] at own
    rw [breaks entry member own]
    decide
  unfold extraction
  rw [shape]
  refine (trim_free_filter_iff spaceEntry (fun entry => entry.2 = .hidden) (fun entry => entry.2 != .inserted)
    placed put).trans ?_
  rw [data]
  constructor
  · intro trimmed front char back split
    exact trimmed front (char,.hidden) back split rfl
  · intro trimmed front entry back split own
    obtain ⟨char,origin⟩ := entry
    dsimp only at own
    subst own
    exact trimmed front char back split

/-- What the strip leaves has all of the fed characters that are not white space. -/
theorem extraction_countP (library : TextLibrary) (html : String) :
    ((extraction library html).map Prod.fst).countP (fun char => !isSpace char) =
      (dataChars none (library.feedHtml html)).countP (fun entry => !isSpace entry.1) := by
  obtain ⟨placed,shape,data,breaks⟩ := placeTokens_chars none (library.feedHtml html) []
  rw [List.flatten_nil,List.nil_append] at shape
  have whole := trim_countP spaceEntry placed
  unfold extraction
  rw [shape,List.countP_map,← data,List.countP_filter]
  refine whole.trans (List.countP_congr ?_)
  intro entry member
  by_cases own : entry.2 = .inserted
  · rw [breaks entry member own]
    decide
  · simp [own,spaceEntry]

theorem visibleText_inserted (chars : Piece) :
    visibleText (chars.filter (fun entry => entry.2 != .inserted)) = visibleText chars := by
  unfold visibleText
  rw [List.filter_filter]
  congr 1
  apply List.filter_congr
  intro entry _
  cases entry.2 <;> rfl

theorem visibleText_spaces {chars : Piece} (spaces : ∀ entry ∈ chars, spaceEntry entry = true) :
    ∀ char ∈ visibleText chars, isSpace char = true := by
  intro char member
  obtain ⟨entry,kept,rfl⟩ := List.mem_map.mp member
  exact spaces entry (List.mem_of_mem_filter kept)

/-- The fed visible characters are all in the extraction, but for white space at their ends. -/
theorem visible_sublist (library : TextLibrary) (html : String) {more : List Char}
    (blank : ∀ char ∈ more, isSpace char = true) :
    (trim isSpace (visibleText (dataChars none (library.feedHtml html)) ++ more)).Sublist
      ((extraction library html).map Prod.fst) := by
  obtain ⟨placed,shape,data,breaks⟩ := placeTokens_chars none (library.feedHtml html) []
  rw [List.flatten_nil,List.nil_append] at shape
  obtain ⟨lead,trail,split,leading,trailing⟩ := trim_split spaceEntry placed
  have parts : visibleText (dataChars none (library.feedHtml html)) ++ more = visibleText lead ++
      (visibleText (trim spaceEntry placed) ++ (visibleText trail ++ more)) := by
    rw [← data,visibleText_inserted]
    conv_lhs => rw [split,visibleText_append,visibleText_append]
    rw [List.append_assoc,List.append_assoc]
  have ends : ∀ char ∈ visibleText trail ++ more, isSpace char = true := by
    intro char member
    rcases List.mem_append.mp member with last | after
    · exact visibleText_spaces trailing char last
    · exact blank char after
  unfold extraction
  rw [shape,parts,trim_pad isSpace (visibleText_spaces leading) ends]
  exact (trim_sublist isSpace _).trans ((List.filter_sublist).map _)

theorem dataChars_origin (element : Option String) (tokens : List HtmlToken) :
    ∀ entry ∈ dataChars element tokens, entry.2 ≠ .inserted := by
  obtain ⟨placed,_,data,_⟩ := placeTokens_chars element tokens []
  intro entry member
  rw [← data,List.mem_filter] at member
  simpa using member.2

theorem hiddenTrimmed_countP {chars : Piece} (trimmed : HiddenTrimmed chars)
    (origin : ∀ entry ∈ chars, entry.2 ≠ .inserted) :
    chars.countP (fun entry => !isSpace entry.1) = (visibleText chars).countP (fun char => !isSpace char) := by
  unfold visibleText
  rw [List.countP_map,List.countP_filter]
  apply List.countP_congr
  intro entry member
  obtain ⟨char,own⟩ := entry
  cases own with
  | visible => simp
  | inserted => exact absurd rfl (origin _ member)
  | hidden =>
    obtain ⟨front,back,split⟩ := List.append_of_mem member
    simp [(trimmed front char back split).1]

/-- The characters of the text are those of its extraction, and it is faithful exactly when the parser
held nothing visible back and the strip took what stood in scripts and styles. -/
theorem html_text_faithful_iff (library : TextLibrary) (closeHtml : String → List HtmlToken) (html : String)
    (maxChars : Nat) (uncut : (extractHtmlText library html maxChars).2 = false) :
    (extraction library html).map Prod.fst = (extractHtmlText library html maxChars).1.toList ∧
      (FaithfulText library closeHtml html (extractHtmlText library html maxChars).1 ↔
        (∀ char ∈ heldBack library closeHtml html, isSpace char = true) ∧
          HiddenTrimmed (dataChars none (library.feedHtml html))) := by
  have text := extraction_text uncut
  refine ⟨text,?_⟩
  unfold FaithfulText
  rw [unhidden_iff,← text,dataChars_append,visibleText_append]
  refine and_congr_left (fun trimmed => ⟨fun kept => ?_,fun blank => visible_sublist library html blank⟩)
  -- counting what is not white space: the extraction has no more of it than the fed visible text
  have counted := kept.countP_le (p := fun char => !isSpace char)
  rw [trim_countP,List.countP_append,extraction_countP] at counted
  have fed := hiddenTrimmed_countP trimmed (dataChars_origin none (library.feedHtml html))
  have none : (heldBack library closeHtml html).countP (fun char => !isSpace char) = 0 := by
    unfold heldBack
    omega
  intro char member
  have space := List.countP_eq_zero.mp none char member
  simpa using space

/-- What the parser delivers of three texts: it waits for the end of the reference in the first, hands
on the script of the second, and ends the third at its tag. -/
def sampleFeed (html : String) : List HtmlToken :=
  if html = "<script>x</script>" then [.startTag "script",.data "x",.endTag "script"]
  else if html = "<p>hi</p>" then [.startTag "p",.data "hi",.endTag "p"]
  else []

def sampleClose (html : String) : List HtmlToken := if html = "AT&T" then [.data "AT&T"] else []

def sampleLibrary : TextLibrary where
  casefold := fun text => text
  parseaddr := fun _ => ("","")
  b64decode := fun _ => none
  feedHtml := sampleFeed
  fromTimestamp := fun milliseconds => some (milliseconds * 1000)

theorem html_text_faithful_paragraph :
    (extraction sampleLibrary "<p>hi</p>").map Prod.fst = (extractHtmlText sampleLibrary "<p>hi</p>" 4000).1.toList ∧
      (FaithfulText sampleLibrary sampleClose "<p>hi</p>" (extractHtmlText sampleLibrary "<p>hi</p>" 4000).1 ↔
        (∀ char ∈ heldBack sampleLibrary sampleClose "<p>hi</p>", isSpace char = true) ∧
          HiddenTrimmed (dataChars none (sampleLibrary.feedHtml "<p>hi</p>"))) :=
  html_text_faithful_iff sampleLibrary sampleClose "<p>hi</p>" 4000 (by decide +kernel)

/-- An unfinished reference loses the text, and a script becomes text, without a cut. -/
theorem html_text_unfaithful :
    ((extractHtmlText sampleLibrary "AT&T" 4000).2 = false ∧
      ¬FaithfulText sampleLibrary sampleClose "AT&T" (extractHtmlText sampleLibrary "AT&T" 4000).1) ∧
    (extractHtmlText sampleLibrary "<script>x</script>" 4000).2 = false ∧
      ¬FaithfulText sampleLibrary sampleClose "<script>x</script>"
        (extractHtmlText sampleLibrary "<script>x</script>" 4000).1 := by
  decide +kernel

end Proactive.Sources
