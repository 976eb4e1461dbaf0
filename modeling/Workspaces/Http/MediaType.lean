-- Media types, and which of them announce JSON.
import Workspaces.Text.Octets

namespace Workspaces.Http.MediaType

/-- Whether the octet may stand in a type, a subtype or the name of a parameter. -/
def isToken (b : UInt8) : Bool :=
  let c := Octets.char b
  b < 0x80 && (c.isAlphanum || "!#$%&*+-.^_|~".toList.contains c || b = 0x27 || b = 0x60)

/-! ## Parameters -/

/-- Whether what follows a quoted value is well-formed up to the next semicolon, and what is
behind that. -/
def afterQuoted? : Octets → Option Octets
  | [] => some []
  | b :: rest =>
    if Octets.char b = ';' then some rest
    else if Octets.char b = ' ' then afterQuoted? rest
    else none

/-- What is behind a quoted value. The value has at least one octet, be it a quote, and all of
them are ASCII characters that show or spaces. -/
def quotedValue? (empty : Bool) : Octets → Option Octets
  | [] => none
  | b :: rest =>
    if Octets.char b = '"' ∧ !empty then afterQuoted? rest
    else if 0x1F < b ∧ b < 0x7F then quotedValue? false rest
    else none

/-- What is behind the value of a parameter and the semicolon that follows it. Only at the end
may the value be empty. -/
def value? (t : Octets) : Option Octets :=
  match t with
  | [] => some []
  | b :: rest =>
    if Octets.char b = '"' then quotedValue? true rest
    else
      match (b :: rest).dropWhile isToken with
      | [] => some []
      | c :: after => if Octets.char c = ';' ∧ isToken b then some after else none

/-- Whether parameters are well-formed. Spaces may stand in front of one, and a list of them may
end with a semicolon. Every turn takes an octet, so the length is fuel enough. -/
def parametersOk : Nat → Octets → Bool
  | 0, t => t = []
  | fuel + 1, t =>
    match t with
    | [] => true
    | b :: rest =>
      if Octets.char b = ' ' then parametersOk fuel rest
      else
        match (b :: rest).dropWhile isToken with
        | [] => false
        | c :: after =>
          if Octets.char c = '=' ∧ isToken b then
            match value? after with
            | some rest => parametersOk fuel rest
            | none => false
          else false

/-! ## JSON -/

/-- Splits a subtype at its last plus sign, if one stands behind its first octet. -/
def suffix? (subtype : Octets) : Option (Octets × Octets) :=
  let back := subtype.reverse
  let suffix := (back.takeWhile fun b => Octets.char b ≠ '+').reverse
  let base := ((back.dropWhile fun b => Octets.char b ≠ '+').drop 1).reverse
  if base = [] then none else some (base, suffix)

/-- Whether a subtype is `json`, has that in front of a suffix, or has it for a suffix. -/
def isJsonSubtype (subtype : Octets) : Bool :=
  let subtype := subtype.map Octets.lower
  let json := Octets.ofString "json"
  match suffix? subtype with
  | none => subtype = json
  | some (base, suffix) => base = json || suffix = json

/-- Whether a well-formed media type is one of JSON. -/
def isJson (t : Octets) : Bool :=
  let kind := t.takeWhile isToken
  match t.dropWhile isToken with
  | slash :: rest =>
    let subtype := rest.takeWhile isToken
    let parameters := rest.dropWhile isToken
    Octets.char slash = '/' && kind.map Octets.lower = Octets.ofString "application" &&
      subtype ≠ [] && isJsonSubtype subtype &&
      match parameters with
      | [] => true
      | semicolon :: rest => Octets.char semicolon = ';' && parametersOk rest.length rest
  | [] => false

end Workspaces.Http.MediaType
