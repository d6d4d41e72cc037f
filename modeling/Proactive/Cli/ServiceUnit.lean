import Proactive.Library.Characters
import Proactive.Library.Outcome
import Proactive.Library.Separated
import Proactive.Library.UnitFile

/-! The systemd user unit of the watcher service: its text, and what marks it as managed. -/
namespace Proactive.Cli
open Proactive.Library

structure UnsafeServiceValueError where
deriving DecidableEq, Repr

def managedUnitMarker : String := "X-Proactive-MCP-Managed=true"

def safeUnitChars : List Char :=
  "abcdefghijklmnopqrstuvwxyzABCDEFGHIJKLMNOPQRSTUVWXYZ0123456789/._-".toList

/-- The general category `Cc`. -/
def isControl (c : Char) : Bool := c.toNat < 32 || 127 ≤ c.toNat && c.toNat ≤ 159

/-- `isFormat` is the general category `Cf` of the Unicode version. -/
def validated (isFormat : Char → Bool) (value : String) : Except UnsafeServiceValueError String :=
  if value.toList.any (fun c => isControl c || isFormat c) then .error {} else .ok value

/-- `str.replace` of one character. -/
def replace (old : Char) (new value : String) : String :=
  String.ofList (value.toList.flatMap (fun c => if c = old then new.toList else [c]))

def escape (value : String) : String := replace '%' "%%" (replace '"' "\\\"" (replace '\\' "\\\\" value))

def quote (value : String) : String :=
  let escaped := escape value
  if value.toList.all (fun c => safeUnitChars.contains c) then escaped else "\"" ++ escaped ++ "\""

/-- The lines of the unit. -/
def unitLines (executableValue databaseValue : String) : List String :=
  ["[Unit]",
    "Description=proactive-mcp watcher",
    "After=network-online.target",
    "Wants=network-online.target",
    managedUnitMarker,
    "",
    "[Service]",
    "Type=notify",
    "ExecStart=" ++ quote executableValue ++ " daemon",
    "Environment=\"" ++ escape ("PROACTIVE_DATABASE=" ++ databaseValue) ++ "\"",
    "Restart=on-failure",
    "RestartSec=5s",
    "RestartPreventExitStatus=2",
    "TimeoutStartSec=30s",
    "NotifyAccess=main",
    "UMask=0077",
    "NoNewPrivileges=true",
    "",
    "[Install]",
    "WantedBy=default.target"]

def joinLines (lines : List String) : String := String.join (lines.map (fun line => line ++ "\n"))

def renderUserUnit (isFormat : Char → Bool) (executable database : String) :
    Except UnsafeServiceValueError String := do
  let executableValue ← validated isFormat executable
  let databaseValue ← validated isFormat database
  return joinLines (unitLines executableValue databaseValue)

/-- The boundaries of `str.splitlines`. -/
def isLineBreak (c : Char) : Bool :=
  10 ≤ c.toNat && c.toNat ≤ 13 || 28 ≤ c.toNat && c.toNat ≤ 30 || c.toNat == 133 || c.toNat == 8232 || c.toNat == 8233

/-- `str.splitlines`, with the line that has begun. -/
def splitLines : List Char → List Char → List (List Char)
  | line,[] => if line.isEmpty then [] else [line]
  | line,'\r' :: '\n' :: rest => line::splitLines [] rest
  | line,c::rest => if isLineBreak c then line::splitLines [] rest else splitLines (line ++ [c]) rest

def isManagedUnit (content : String) : Bool := (splitLines [] content.toList).contains managedUnitMarker.toList

example : isManagedUnit "[Unit]\r\nX-Proactive-MCP-Managed=true" = true := by decide +kernel

/-- The settings of the unit around the two values. -/
def unitDirectives (command environment : List Char) : List UnitFile.Directive :=
  let unit (key value : String) : UnitFile.Directive := ⟨"Unit".toList,key.toList,value.toList⟩
  let service (key : String) (value : List Char) : UnitFile.Directive := ⟨"Service".toList,key.toList,value⟩
  [unit "Description" "proactive-mcp watcher",
    unit "After" "network-online.target",
    unit "Wants" "network-online.target",
    unit "X-Proactive-MCP-Managed" "true",
    service "Type" "notify".toList,
    service "ExecStart" command,
    service "Environment" environment,
    service "Restart" "on-failure".toList,
    service "RestartSec" "5s".toList,
    service "RestartPreventExitStatus" "2".toList,
    service "TimeoutStartSec" "30s".toList,
    service "NotifyAccess" "main".toList,
    service "UMask" "0077".toList,
    service "NoNewPrivileges" "true".toList,
    ⟨"Install".toList,"WantedBy".toList,"default.target".toList⟩]

open UnitFile

theorem replace_toList (old : Char) (new value : String) :
    (replace old new value).toList = value.toList.flatMap (fun c => if c = old then new.toList else [c]) :=
  String.toList_ofList

/-- The three replacements quote the text, once its percent signs are doubled. -/
theorem escape_toList (value : String) : (escape value).toList = quoted (doubled value.toList) := by
  unfold escape
  rw [replace_toList,replace_toList,replace_toList]
  unfold quoted doubled
  rw [List.flatMap_assoc,List.flatMap_assoc,List.flatMap_assoc]
  congr 1
  funext c
  by_cases backslash : c = '\\'
  · subst backslash
    decide
  by_cases mark : c = '"'
  · subst mark
    decide
  by_cases percent : c = '%'
  · subst percent
    decide
  simp [backslash,mark,percent]

theorem safe_plain {c : Char} (safe : safeUnitChars.contains c = true) :
    (c ≠ '\\' ∧ isBlank c = false ∧ c ≠ '"' ∧ c ≠ '\'') ∧ c ≠ '%' := by
  have table : ∀ c ∈ safeUnitChars, (c ≠ '\\' ∧ isBlank c = false ∧ c ≠ '"' ∧ c ≠ '\'') ∧ c ≠ '%' :=
    each_of_all (by decide +kernel)
  exact table c (List.contains_iff_mem.mp safe)

/-- A safe value needs no quotes, and is not changed by the escapes. -/
theorem safe_escape {value : String} (safe : value.toList.all (fun c => safeUnitChars.contains c) = true) :
    (escape value).toList = value.toList := by
  rw [List.all_eq_true] at safe
  have plain (c : Char) (member : c ∈ value.toList) := safe_plain (safe c member)
  rw [escape_toList,doubled_plain (fun member => (plain '%' member).2 rfl)]
  exact quoted_plain (fun c member => ⟨(plain c member).1.1,(plain c member).1.2.2.1⟩)

theorem quote_toList (value : String) : (quote value).toList =
    if value.toList.all (fun c => safeUnitChars.contains c) then value.toList
    else '"'::(quoted (doubled value.toList) ++ ['"']) := by
  unfold quote
  dsimp only
  split
  · rename_i safe
    exact safe_escape safe
  · rw [String.toList_append,String.toList_append,escape_toList]
    rfl

variable {reader : Reader}

/-- The command that the reader runs: the executable, and its one argument. -/
theorem words_command {executable : String} (absolute : executable.toList.head? = some '/') :
    words reader ((quote executable).toList ++ ' '::"daemon".toList) =
      some [executable.toList,"daemon".toList] := by
  have daemon : split reader none none "daemon".toList = some ["daemon".toList] := by
    have letters : ∀ c ∈ "daemon".toList, c ≠ '\\' ∧ isBlank c = false ∧ c ≠ '"' ∧ c ≠ '\'' :=
      each_of_all (by decide)
    exact (split_begin (letters 'd' (by decide))).trans (split_end [] letters)
  have argument : expand reader "daemon".toList = "daemon".toList := expand_plain (by decide)
  unfold words
  rw [quote_toList]
  split
  · rename_i safe
    rw [List.all_eq_true] at safe
    have plain (c : Char) (member : c ∈ executable.toList) := safe_plain (safe c member)
    obtain ⟨rest,shape⟩ := List.head?_eq_some_iff.mp absolute
    have path : expand reader executable.toList = executable.toList :=
      expand_plain (fun member => (plain '%' member).2 rfl)
    have first : split reader none none (executable.toList ++ ' '::"daemon".toList) =
        split reader none (some []) (executable.toList ++ ' '::"daemon".toList) := by
      rw [shape]
      exact split_begin (plain '/' (by rw [shape]; exact List.mem_cons_self)).1
    rw [first,split_plain [] (fun c member => (plain c member).1) rfl,daemon]
    simp only [Option.map_some,List.map_cons,List.map_nil,List.nil_append,path,argument]
  · rw [List.cons_append,split_open,List.append_assoc]
    change (split reader (some '"') (some []) (quoted (doubled executable.toList) ++ '"'::(' '::"daemon".toList))).map _ = _
    rw [split_quoted,split_blank rfl,daemon]
    simp only [Option.map_some,List.map_cons,List.map_nil,List.nil_append,expand_doubled,argument]

/-- The one assignment of the environment. -/
theorem words_environment (value : String) :
    words reader ('"'::((escape value).toList ++ ['"'])) = some [value.toList] := by
  unfold words
  rw [split_open,escape_toList]
  change (split reader (some '"') (some []) (quoted (doubled value.toList) ++ '"'::[])).map _ = _
  rw [split_quoted,split]
  simp only [Option.map_some,Option.toList_some,List.map_cons,List.map_nil,List.nil_append,expand_doubled]

section lines

private def front : List String :=
  ["[Unit]","Description=proactive-mcp watcher","After=network-online.target","Wants=network-online.target",
    managedUnitMarker,"","[Service]","Type=notify"]

private def back : List String :=
  ["Restart=on-failure","RestartSec=5s","RestartPreventExitStatus=2","TimeoutStartSec=30s","NotifyAccess=main",
    "UMask=0077","NoNewPrivileges=true","","[Install]","WantedBy=default.target"]

private def commandLine (executable : String) : String := "ExecStart=" ++ quote executable ++ " daemon"

private def environmentLine (database : String) : String :=
  "Environment=\"" ++ escape ("PROACTIVE_DATABASE=" ++ database) ++ "\""

private theorem unitLines_eq (executable database : String) :
    unitLines executable database = front ++ commandLine executable::environmentLine database::back := rfl

private theorem front_items : front.map (fun line => readLine line.toList) =
    [.heading "Unit".toList,.assignment "Description".toList "proactive-mcp watcher".toList,
      .assignment "After".toList "network-online.target".toList,
      .assignment "Wants".toList "network-online.target".toList,
      .assignment "X-Proactive-MCP-Managed".toList "true".toList,.empty,.heading "Service".toList,
      .assignment "Type".toList "notify".toList] := by
  decide +kernel

private theorem back_items : back.map (fun line => readLine line.toList) =
    [.assignment "Restart".toList "on-failure".toList,.assignment "RestartSec".toList "5s".toList,
      .assignment "RestartPreventExitStatus".toList "2".toList,.assignment "TimeoutStartSec".toList "30s".toList,
      .assignment "NotifyAccess".toList "main".toList,.assignment "UMask".toList "0077".toList,
      .assignment "NoNewPrivileges".toList "true".toList,.empty,.heading "Install".toList,
      .assignment "WantedBy".toList "default.target".toList] := by
  decide +kernel

private theorem front_plain : ∀ line ∈ front, ∀ c ∈ line.toList, isControl c = false := by
  have checked : front.all (fun line => line.toList.all (fun c => isControl c = false)) = true := by decide +kernel
  exact fun line member => each_of_all (List.all_eq_true.mp checked line member)

private theorem back_plain : ∀ line ∈ back, ∀ c ∈ line.toList, isControl c = false := by
  have checked : back.all (fun line => line.toList.all (fun c => isControl c = false)) = true := by decide +kernel
  exact fun line member => each_of_all (List.all_eq_true.mp checked line member)

/-- One physical line is one logical line. -/
private def Single (line : List Char) : Prop := comment line = false ∧ continues line = false

private theorem fixed_single : ∀ line ∈ front ++ back, Single line.toList := by
  unfold Single
  decide +kernel

theorem joinLines_toList (lines : List String) :
    (joinLines lines).toList = (lines.map String.toList).flatMap (fun line => line ++ ['\n']) := by
  unfold joinLines
  rw [String.toList_join,List.flatMap_map,List.flatMap_map]
  congr 1
  funext line
  exact String.toList_append

theorem validated_ok {isFormat : Char → Bool} {value checked : String}
    (accepted : validated isFormat value = .ok checked) :
    checked = value ∧ ∀ mark, isControl mark = true → mark ∉ value.toList := by
  unfold validated at accepted
  split at accepted
  · cases accepted
  · rename_i clean
    refine ⟨(Except.ok.inj accepted).symm,fun mark control member => clean ?_⟩
    exact List.any_eq_true.mpr ⟨mark,member,by rw [control,Bool.true_or]⟩

theorem mem_escape {c : Char} {value : String} (member : c ∈ (escape value).toList) : c = '\\' ∨ c ∈ value.toList := by
  rw [escape_toList] at member
  exact (mem_quoted member).imp_right mem_doubled

theorem mem_quote {c : Char} {value : String} (member : c ∈ (quote value).toList) :
    c = '"' ∨ c = '\\' ∨ c ∈ value.toList := by
  rw [quote_toList] at member
  split at member
  · exact Or.inr (Or.inr member)
  · rcases List.mem_cons.mp member with mark | inner
    · exact Or.inl mark
    · rcases List.mem_append.mp inner with inside | last
      · exact Or.inr ((mem_quoted inside).imp_right mem_doubled)
      · exact Or.inl (List.mem_singleton.mp last)

private theorem control_free {mark : Char} {text : String} (control : isControl mark = true)
    (plain : ∀ c ∈ text.toList, isControl c = false) : mark ∉ text.toList := by
  intro member
  rw [plain mark member] at control
  cases control

private theorem commandLine_free {mark : Char} {executable : String} (control : isControl mark = true)
    (free : mark ∉ executable.toList) : mark ∉ (commandLine executable).toList := by
  unfold commandLine
  rw [String.toList_append,String.toList_append,List.mem_append,List.mem_append,not_or,not_or]
  refine ⟨⟨control_free control (each_of_all (by decide)),fun member => ?_⟩,control_free control (each_of_all (by decide))⟩
  rcases mem_quote member with rfl | rfl | inside
  · cases control
  · cases control
  · exact free inside

private theorem environmentLine_free {mark : Char} {database : String} (control : isControl mark = true)
    (free : mark ∉ database.toList) : mark ∉ (environmentLine database).toList := by
  unfold environmentLine
  rw [String.toList_append,String.toList_append,List.mem_append,List.mem_append,not_or,not_or]
  refine ⟨⟨control_free control (each_of_all (by decide)),fun member => ?_⟩,control_free control (each_of_all (by decide))⟩
  rcases mem_escape member with rfl | inside
  · cases control
  · rw [String.toList_append] at inside
    rcases List.mem_append.mp inside with name | path
    · exact control_free control (each_of_all (by decide)) name
    · exact free path

/-- No line of the unit has a control character. -/
theorem unitLines_free {mark : Char} {executable database : String} (control : isControl mark = true)
    (one : mark ∉ executable.toList) (two : mark ∉ database.toList) :
    ∀ line ∈ unitLines executable database, mark ∉ line.toList := by
  intro line member
  rw [unitLines_eq] at member
  rcases List.mem_append.mp member with early | later
  · exact control_free control (front_plain line early)
  · rcases List.mem_cons.mp later with rfl | later
    · exact commandLine_free control one
    · rcases List.mem_cons.mp later with rfl | last
      · exact environmentLine_free control two
      · exact control_free control (back_plain line last)

private theorem single_of {line front : List Char} {last : Char} (start : line.head? = some 'E')
    (ends : line = front ++ [last]) (other : last ≠ '\\') : Single line := by
  constructor
  · obtain ⟨rest,rfl⟩ := List.head?_eq_some_iff.mp start
    rfl
  · rw [ends]
    exact continues_concat front other

private theorem quote_shape {executable : String} (absolute : executable.toList.head? = some '/') :
    ∃ initial rest, (quote executable).toList = initial::rest ∧ isBlank initial = false := by
  rw [quote_toList]
  split
  · obtain ⟨rest,shape⟩ := List.head?_eq_some_iff.mp absolute
    exact ⟨'/',rest,shape,rfl⟩
  · exact ⟨'"',_,rfl,rfl⟩

private theorem commandLine_item {executable : String} (absolute : executable.toList.head? = some '/') :
    Single (commandLine executable).toList ∧ readLine (commandLine executable).toList =
      .assignment "ExecStart".toList ((quote executable).toList ++ ' '::"daemon".toList) := by
  obtain ⟨initial,rest,shape,unblank⟩ := quote_shape absolute
  have name : "ExecStart=".toList = "ExecStart".toList ++ ['='] := by decide
  have argument : " daemon".toList = " daemo".toList ++ ['n'] := by decide
  have text : (commandLine executable).toList =
      "ExecStart".toList ++ '='::initial::((rest ++ " daemo".toList) ++ ['n']) := by
    unfold commandLine
    rw [String.toList_append,String.toList_append,shape,name,argument]
    simp only [List.append_assoc,List.cons_append,List.nil_append]
  have value : initial::((rest ++ " daemo".toList) ++ ['n']) = (quote executable).toList ++ ' '::"daemon".toList := by
    rw [shape,List.append_assoc]
    rfl
  constructor
  · rw [text,← List.cons_append,← List.cons_append,← List.append_assoc]
    exact single_of rfl rfl (by decide)
  · rw [text,← value]
    exact readLine_assignment (each_of_all (by decide)) (by decide) unblank (by decide)

private theorem environmentLine_item (database : String) :
    Single (environmentLine database).toList ∧ readLine (environmentLine database).toList =
      .assignment "Environment".toList ('"'::((escape ("PROACTIVE_DATABASE=" ++ database)).toList ++ ['"'])) := by
  unfold environmentLine
  rw [String.toList_append,String.toList_append]
  generalize (escape ("PROACTIVE_DATABASE=" ++ database)).toList = value
  have name : "Environment=\"".toList = "Environment".toList ++ ['=','"'] := by decide
  have mark : "\"".toList = ['"'] := by decide
  rw [name,mark]
  have text : "Environment".toList ++ ['=','"'] ++ value ++ ['"'] =
      "Environment".toList ++ '=' :: '"' :: (value ++ ['"']) := by
    simp only [List.append_assoc,List.cons_append,List.nil_append]
  constructor
  · exact single_of rfl rfl (by decide)
  · rw [text]
    exact readLine_assignment (each_of_all (by decide)) (by decide) rfl rfl

/-- The reader finds the settings of the unit and no others. -/
theorem directives_unit {executable database : String} (absolute : executable.toList.head? = some '/')
    (one : '\n' ∉ executable.toList) (two : '\n' ∉ database.toList) :
    directives (joinLines (unitLines executable database)).toList =
      unitDirectives ((quote executable).toList ++ ' '::"daemon".toList)
        ('"'::((escape ("PROACTIVE_DATABASE=" ++ database)).toList ++ ['"'])) := by
  obtain ⟨commandSingle,command⟩ := commandLine_item absolute
  obtain ⟨environmentSingle,environment⟩ := environmentLine_item database
  have single : ∀ line ∈ (unitLines executable database).map String.toList, Single line := by
    intro line member
    obtain ⟨text,listed,rfl⟩ := List.mem_map.mp member
    rw [unitLines_eq] at listed
    rcases List.mem_append.mp listed with early | later
    · exact fixed_single text (List.mem_append_left _ early)
    · rcases List.mem_cons.mp later with rfl | later
      · exact commandSingle
      · rcases List.mem_cons.mp later with rfl | last
        · exact environmentSingle
        · exact fixed_single text (List.mem_append_right _ last)
  have lines : (joinLines (unitLines executable database)).toList.splitOn '\n' =
      (unitLines executable database).map String.toList ++ [[]] := by
    rw [joinLines_toList]
    refine Separated.splitOn_terminated (fun line member => ?_)
    obtain ⟨text,listed,rfl⟩ := List.mem_map.mp member
    exact unitLines_free rfl one two text listed
  unfold directives
  rw [lines,logical_plain]
  · rw [List.map_append,List.map_map,unitLines_eq,List.map_append,List.map_cons,List.map_cons]
    have early : front.map (readLine ∘ String.toList) = _ := front_items
    have late : back.map (readLine ∘ String.toList) = _ := back_items
    rw [early,late,Function.comp_apply,Function.comp_apply,command,environment]
    rfl
  · intro line member
    rcases List.mem_append.mp member with listed | last
    · exact single line listed
    · rw [List.mem_singleton.mp last]
      exact ⟨rfl,rfl⟩

theorem splitLines_line {part : List Char} (unbroken : ∀ c ∈ part, isLineBreak c = false) (line rest : List Char) :
    splitLines line (part ++ '\n'::rest) = (line ++ part)::splitLines [] rest := by
  induction part generalizing line with
  | nil =>
    have ends : isLineBreak '\n' = true := rfl
    rw [List.nil_append,List.append_nil,splitLines,if_pos ends]
    rintro later same
    cases same
  | cons c part ih =>
    have ordinary := unbroken c List.mem_cons_self
    have later := ih (fun other member => unbroken other (List.mem_cons_of_mem _ member)) (line ++ [c])
    rw [List.append_assoc,List.singleton_append] at later
    rw [List.cons_append,splitLines,if_neg (Bool.eq_false_iff.mp ordinary),later]
    rintro following rfl
    cases ordinary

theorem splitLines_lines {lines : List (List Char)} (unbroken : ∀ line ∈ lines, ∀ c ∈ line, isLineBreak c = false)
    (rest : List Char) :
    splitLines [] (lines.flatMap (fun line => line ++ ['\n']) ++ rest) = lines ++ splitLines [] rest := by
  induction lines with
  | nil => rfl
  | cons line lines ih =>
    rw [List.flatMap_cons,List.append_assoc,List.append_assoc,List.singleton_append,
      splitLines_line (unbroken line List.mem_cons_self),
      ih (fun other member => unbroken other (List.mem_cons_of_mem _ member))]
    rfl

theorem managed_unit (executable database : String) :
    isManagedUnit (joinLines (unitLines executable database)) = true := by
  have checked : (front.map String.toList).all (fun line => line.all (fun c => isLineBreak c = false)) = true := by
    decide +kernel
  have unbroken : ∀ line ∈ front.map String.toList, ∀ c ∈ line, isLineBreak c = false :=
    fun line member => each_of_all (List.all_eq_true.mp checked line member)
  have marked : managedUnitMarker.toList ∈ front.map String.toList := List.mem_map_of_mem (by decide)
  unfold isManagedUnit
  rw [List.contains_iff_mem,joinLines_toList,unitLines_eq,List.map_append,List.flatMap_append,
    splitLines_lines unbroken]
  exact List.mem_append_left _ marked

theorem renderUserUnit_ok {isFormat : Char → Bool} {executable database unit : String}
    (rendered : renderUserUnit isFormat executable database = .ok unit) :
    unit = joinLines (unitLines executable database) ∧ (∀ mark, isControl mark = true → mark ∉ executable.toList) ∧
      ∀ mark, isControl mark = true → mark ∉ database.toList := by
  unfold renderUserUnit at rendered
  obtain ⟨executableValue,one,more⟩ := (Outcome.bind_ok_iff _ _ _).mp rendered
  obtain ⟨databaseValue,two,text⟩ := (Outcome.bind_ok_iff _ _ _).mp more
  obtain ⟨rfl,free⟩ := validated_ok one
  obtain ⟨rfl,clear⟩ := validated_ok two
  exact ⟨(Except.ok.inj text).symm,free,clear⟩

theorem rendered_managed {isFormat : Char → Bool} {executable database unit : String}
    (rendered : renderUserUnit isFormat executable database = .ok unit) : isManagedUnit unit = true := by
  obtain ⟨rfl,_⟩ := renderUserUnit_ok rendered
  exact managed_unit executable database

/-- The only control character of a unit is its line end. -/
theorem rendered_control {isFormat : Char → Bool} {executable database unit : String} {mark : Char}
    (rendered : renderUserUnit isFormat executable database = .ok unit) (control : isControl mark = true)
    (other : mark ≠ '\n') : mark ∉ unit.toList := by
  obtain ⟨rfl,free,clear⟩ := renderUserUnit_ok rendered
  rw [joinLines_toList,List.mem_flatMap]
  rintro ⟨_,listed,member⟩
  obtain ⟨line,present,rfl⟩ := List.mem_map.mp listed
  rcases List.mem_append.mp member with inside | last
  · exact unitLines_free control (free mark control) (clear mark control) line present inside
  · exact other (List.mem_singleton.mp last)

end lines

/-- What the unit says, read back, is the command and the database that it was rendered for. -/
theorem render_round_trip (reader : Reader) (isFormat : Char → Bool) {executable database unit : String}
    (absolute : executable.toList.head? = some '/')
    (rendered : renderUserUnit isFormat executable database = .ok unit) :
    ∃ command environment, directives unit.toList = unitDirectives command environment ∧
      words reader command = some [executable.toList,"daemon".toList] ∧
      commandPath executable.toList = executable.toList ∧
      words reader environment = some [("PROACTIVE_DATABASE=" ++ database).toList] ∧
      isManagedUnit unit = true := by
  obtain ⟨rfl,free,clear⟩ := renderUserUnit_ok rendered
  refine ⟨_,_,directives_unit absolute (free '\n' rfl) (clear '\n' rfl),words_command absolute,?_,
    words_environment _,managed_unit _ _⟩
  obtain ⟨rest,shape⟩ := List.head?_eq_some_iff.mp absolute
  rw [shape]
  exact List.dropWhile_cons_of_neg (by decide)

/-- Blanks, quotes, backslashes and percent signs in both paths. -/
theorem render_round_trip_unusual : ∃ unit,
    renderUserUnit (fun _ => false) "/opt/Proactive MCP/proactive%\"\\mcp" "/home/user/a %s'.db" = .ok unit ∧
      ∃ command environment, directives unit.toList = unitDirectives command environment ∧
        words .letters command = some ["/opt/Proactive MCP/proactive%\"\\mcp".toList,"daemon".toList] ∧
        words .letters environment = some [("PROACTIVE_DATABASE=" ++ "/home/user/a %s'.db").toList] := by
  have accepted : renderUserUnit (fun _ => false) "/opt/Proactive MCP/proactive%\"\\mcp" "/home/user/a %s'.db" =
      .ok (joinLines (unitLines "/opt/Proactive MCP/proactive%\"\\mcp" "/home/user/a %s'.db")) := by
    decide +kernel
  obtain ⟨command,environment,read,one,_,two,_⟩ := render_round_trip .letters (fun _ => false) (by decide) accepted
  exact ⟨_,accepted,command,environment,read,one,two⟩

end Proactive.Cli
