-- Environments, and files of settings that are loaded into one.
import Workspaces.Config.Basic
import Workspaces.Text.Alphanumeric
import Workspaces.Text.Quoted

namespace Workspaces

/-- Variables with their values, in the order in which they were first set. -/
abbrev Environment := List (String × String)

namespace Environment

def lookup? (env : Environment) (name : String) : Option String :=
  (env.find? (·.1 = name)).map (·.2)

/-- The value behind the first entry that begins with the name and an equals sign, where an entry
is the name of a variable, an equals sign and the value. A name that holds an equals sign can reach
into a value. -/
def searchEntries? (env : Environment) (name : List Char) : Option (List Char) :=
  let start := name ++ ['=']
  env.findSome? fun v =>
    let entry := v.1.toList ++ '=' :: v.2.toList
    if start <+: entry then some (entry.drop start.length) else none

/-- The value that a name stands for in a file of settings. No variable has an equals sign in its
name, so the entries need a search only for a name that has; the empty name stands for nothing. -/
def search? (env : Environment) (name : List Char) : Option (List Char) :=
  if name = [] then none
  else if '=' ∈ name then env.searchEntries? name
  else (env.lookup? (String.ofList name)).map String.toList

/-- Sets a variable: in place if it is there, otherwise at the end. -/
def set (env : Environment) (name value : String) : Environment :=
  if (env.lookup? name).isSome then env.map fun v => if v.1 = name then (name, value) else v
  else env ++ [(name, value)]

/-- A variable that cannot be set, since its value holds the character that ends an entry. To be
made to set it is a defect of the program. -/
structure Unsettable where
  name : String
  value : String
  deriving DecidableEq, Repr

def Unsettable.message (u : Unsettable) : String :=
  s!"failed to set environment variable `{Text.quoted u.name}` to `{Text.quoted u.value}`: " ++
    "file name contained an unexpected NUL byte"

/-- Sets a variable unless it is there. -/
def setNew (env : Environment) (name value : String) : Except Unsettable Environment :=
  if (env.lookup? name).isSome then .ok env
  else if value.toList.any (fun c => c.toNat = 0) then .error ⟨name, value⟩
  else .ok (env ++ [(name, value)])

/-- The environment in which variables were set one after another. -/
def ofPairs (pairs : List (String × String)) : Environment :=
  pairs.foldl (fun env (name, value) => env.set name value) []

end Environment

namespace EnvFile

/-! ## Lines -/

def apostrophe : Char := Char.ofNat 39

/-- Where the end of a physical line leaves the reader. A line of settings goes on for as long as
its end is not plain. -/
inductive LineState where
  | plain
  | blank
  | escape
  | strong
  | strongEscape
  | weak
  | weakEscape
  deriving DecidableEq, Repr

/-- What a character outside quotes opens. -/
def LineState.opening (c : Char) : LineState :=
  if c = '\\' then escape else if c = '"' then weak else if c = apostrophe then strong else plain

/-- The state after a character; a comment, which only a blank may stand in front of, is dealt
with before. -/
def LineState.next (c : Char) : LineState → LineState
  | blank => opening c
  | escape => plain
  | plain => if Text.isBlank c ∧ c ≠ '\n' ∧ c ≠ '\r' then blank else opening c
  | weak => if c = '\\' then weakEscape else if c = '"' then plain else weak
  | weakEscape => weak
  | strong => if c = '\\' then strongEscape else if c = apostrophe then plain else strong
  | strongEscape => strong

/-- Reads a physical line up to a comment, onto the line of settings that it goes on with, whose
characters stand newest first. A comment leaves the reader at a plain end. -/
def readOnto (s : LineState) (before : List Char) : List Char → LineState × List Char
  | [] => (s, before)
  | c :: cs =>
    if s = .blank ∧ c = '#' then (.plain, before) else readOnto (s.next c) (c :: before) cs

/-- The physical lines of a text, each with its line feed. -/
def physicalLines (current : List Char) : List Char → List (List Char)
  | [] => if current = [] then [] else [current.reverse]
  | c :: cs =>
    if c = '\n' then ('\n' :: current).reverse :: physicalLines [] cs
    else physicalLines (c :: current) cs

/-! ## Values -/

/-- Where the reader of a value is. -/
inductive Spot where
  | plain
  | escaped
  | strong
  /-- In the name of a variable behind a dollar sign, read so far newest first. -/
  | name (n : List Char)
  | bracedName (n : List Char)
  deriving DecidableEq, Repr

/-- Whether what follows the blank behind a value is only more blanks or a comment. -/
def endsWell : List Char → Bool
  | [] => true
  | c :: cs => if c = ' ' ∨ c = '\t' then endsWell cs else c = '#'

/-- The output, newest first, with the value of a variable. One that is not set is empty. -/
def withValue (env : Environment) (name out : List Char) : List Char :=
  ((env.search? name.reverse).getD []).reverse ++ out

/-- Reads a value onto the output, which stands newest first; `weak` tells whether the reader is
between double quotes. -/
def readValue (env : Environment) (weak : Bool) (spot : Spot) (out : List Char) :
    List Char → Option (List Char)
  | [] =>
    match spot with
    | .plain | .escaped => if weak then none else some out.reverse
    | .name n => if weak then none else some (withValue env n out).reverse
    | .strong | .bracedName _ => none
  | c :: cs =>
    match spot with
    | .escaped =>
      if c = '\\' ∨ c = apostrophe ∨ c = '"' ∨ c = '$' ∨ c = ' ' then
        readValue env weak .plain (c :: out) cs
      else if c = 'n' then readValue env weak .plain ('\n' :: out) cs
      else none
    | .strong =>
      if c = apostrophe then readValue env weak .plain out cs
      else readValue env weak .strong (c :: out) cs
    | .name n =>
      if Text.isAlphanumeric c then readValue env weak (.name (c :: n)) out cs
      else if c = '{' ∧ n = [] then readValue env weak (.bracedName []) out cs
      else if c = '$' then readValue env weak (.name []) (withValue env n out) cs
      else readValue env weak .plain (c :: withValue env n out) cs
    | .bracedName n =>
      if c = '}' then readValue env weak .plain (withValue env n out) cs
      else readValue env weak (.bracedName (c :: n)) out cs
    | .plain =>
      if c = '$' then readValue env weak (.name []) out cs
      else if c = '"' then readValue env (!weak) .plain out cs
      else if c = '\\' then readValue env weak .escaped out cs
      else if weak then readValue env weak .plain (c :: out) cs
      else if c = apostrophe then readValue env weak .strong out cs
      else if c = ' ' ∨ c = '\t' then if endsWell cs then some out.reverse else none
      else readValue env weak .plain (c :: out) cs

/-! ## Settings -/

def startsKey (c : Char) : Bool := c.isAlpha || c = '_'

def continuesKey (c : Char) : Bool := c.isAlphanum || c = '_' || c = '.'

/-- Takes a key and the blanks behind it. -/
def takeKey? (s : List Char) : Option (List Char × List Char) :=
  if s.head?.any startsKey then
    some (s.takeWhile continuesKey, Text.trimStart (s.dropWhile continuesKey))
  else none

/-- Takes a key and the equals sign behind it. The word `export` may stand in front of the key. -/
def takeAssignment? (s : List Char) : Option (List Char × List Char) := do
  let (key, s) ← takeKey? s
  match s with
  | '=' :: rest => some (key, rest)
  | _ =>
    if key = "export".toList then
      match ← takeKey? s with
      | (key, '=' :: rest) => some (key, rest)
      | _ => none
    else none

/-- What a line says. -/
inductive Line where
  | nothing
  | setting (name value : String)
  | malformed
  deriving DecidableEq, Repr

/-- Whether nothing or only a comment is left. -/
def isVoid (s : List Char) : Bool := s = [] || s.head? = some '#'

def readLine (env : Environment) (line : List Char) : Line :=
  let s := Text.trimStart (Text.trimEnd line)
  if isVoid s then .nothing
  else
    match takeAssignment? s with
    | none => .malformed
    | some (key, s) =>
      let s := Text.trimStart s
      if isVoid s then .setting (String.ofList key) ""
      else
        match readValue env false .plain [] s with
        | some value => .setting (String.ofList key) (String.ofList value)
        | none => .malformed

/-! ## Files -/

/-- Loads physical lines into an environment, behind an unfinished line of settings, whose
characters stand newest first. The first line of settings that says nothing sensible ends the
loading. -/
def loadLines (env : Environment) (s : LineState) (before : List Char) :
    List (List Char) → Except Environment.Unsettable Environment
  | [] => .ok env
  | line :: lines =>
    if before = [] ∧ (Text.trimStart line).head? = some '#' then loadLines env .plain [] lines
    else
      match readOnto s before line with
      | (.plain, whole) =>
        match readLine env whole.reverse with
        | .malformed => .ok env
        | .nothing => loadLines env .plain [] lines
        | .setting name value =>
          (env.setNew name value).bind fun env => loadLines env .plain [] lines
      | (s, whole) => loadLines env s whole lines

/-- The environment after a file was loaded. What is already set wins. -/
def load (env : Environment) (file : String) : Except Environment.Unsettable Environment :=
  let cs := file.toList
  let cs := if cs.head? = some (Char.ofNat 0xFEFF) then cs.drop 1 else cs
  loadLines env .plain [] (physicalLines [] cs)

end EnvFile

/-- The settings of an environment and a file, once the file could be loaded. -/
def Config.ofEnvironment (env : Environment) (file : String) :
    Except Environment.Unsettable (Except ConfigFault Config) :=
  (EnvFile.load env file).map Config.ofPairs

end Workspaces
