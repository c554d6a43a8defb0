import PrizeDraw.Environment
import PrizeDraw.Text.Alphanumeric
import PrizeDraw.Text.Parts

namespace PrizeDraw

namespace EnvironmentFile

def name : String := ".env"

inductive Place where
  | text (quoted : Bool)
  | literal
  | escape (quoted : Bool)
  | reference (quoted : Bool) (name : List Char)
  | braced (quoted : Bool) (name : List Char)
  | after
  deriving DecidableEq, Repr

def escaped? (c : Char) : Option Char :=
  if c = 'n' then some '\n'
  else if c = '\\' ∨ c = '\'' ∨ c = '"' ∨ c = '$' ∨ c = ' ' then some c
  else none

def isGap (c : Char) : Bool := c == ' ' || c == '\t'

def substitute (env : Environment) (name : List Char) : List Char :=
  ((env.get? (String.ofList name.reverse)).getD "").toList

def value? (env : Environment) : Place → List Char → Option (List Char)
  | .text quoted, [] => if quoted then none else some []
  | .text quoted, c :: rest =>
      if c = '$' then value? env (.reference quoted []) rest
      else if c = '\\' then value? env (.escape quoted) rest
      else if c = '"' then value? env (.text !quoted) rest
      else if !quoted && c == '\'' then value? env .literal rest
      else if !quoted && isGap c then value? env .after rest
      else (value? env (.text quoted) rest).map (c :: ·)
  | .literal, [] => none
  | .literal, c :: rest =>
      if c = '\'' then value? env (.text false) rest
      else (value? env .literal rest).map (c :: ·)
  | .escape quoted, [] => if quoted then none else some []
  | .escape quoted, c :: rest => do
      let c ← escaped? c
      return c :: (← value? env (.text quoted) rest)
  | .reference quoted name, [] => if quoted then none else some (substitute env name)
  | .reference quoted name, c :: rest =>
      if Alphanumeric.isAlphanumeric c then value? env (.reference quoted (c :: name)) rest
      else if name = [] ∧ c = '{' then value? env (.braced quoted []) rest
      else if c = '$' then
        (value? env (.reference quoted []) rest).map (substitute env name ++ ·)
      else (value? env (.text quoted) rest).map (substitute env name ++ c :: ·)
  | .braced _ _, [] => none
  | .braced quoted name, c :: rest =>
      if c = '}' then (value? env (.text quoted) rest).map (substitute env name ++ ·)
      else value? env (.braced quoted (c :: name)) rest
  | .after, [] => some []
  | .after, c :: rest =>
      if isGap c then value? env .after rest else if c = '#' then some [] else none

def isKeyStart (c : Char) : Bool := c.isAlpha || c == '_'

def isKeyPart (c : Char) : Bool := c.isAlphanum || c == '_' || c == '.'

def skipBlank (cs : List Char) : List Char := cs.dropWhile Blank.isBlank

def key? : List Char → Option (List Char × List Char)
  | [] => none
  | c :: rest =>
      if isKeyStart c then
        some (c :: rest.takeWhile isKeyPart, skipBlank (rest.dropWhile isKeyPart))
      else none

def afterEquals? : List Char → Option (List Char)
  | '=' :: rest => some (skipBlank rest)
  | _ => none

def assignment? (cs : List Char) : Option (List Char × List Char) := do
  let (key, rest) ← key? cs
  match afterEquals? rest with
  | some value => return (key, value)
  | none =>
      if key = "export".toList then
        let (key, rest) ← key? rest
        return (key, ← afterEquals? rest)
      else none

def isEmptyOrComment : List Char → Bool
  | [] => true
  | c :: _ => c == '#'

inductive LineFault where
  | malformed
  | unsettable
  deriving DecidableEq, Repr

def isSettable (value : List Char) : Bool := !value.contains '\x00'

def assign (env : Environment) (key : String) (value : List Char) : Except LineFault Environment :=
  match env.get? key with
  | some _ => .ok env
  | none =>
      if isSettable value then .ok (env.set key (String.ofList value)) else .error .unsettable

def setting? (env : Environment) (line : List Char) : Option (List Char × List Char) := do
  let (key, rest) ← assignment? line
  let value ← if isEmptyOrComment rest then some [] else value? env (.text false) rest
  return (key, value)

def readLine (env : Environment) (line : List Char) : Except LineFault Environment :=
  let line := Blank.trimChars line
  if isEmptyOrComment line then .ok env
  else
    match setting? env line with
    | some (key, value) => assign env (String.ofList key) value
    | none => .error .malformed

def load (env : Environment) : List (List Char) → Option Environment
  | [] => some env
  | line :: lines =>
      match readLine env line with
      | .ok env => load env lines
      | .error .malformed => some env
      | .error .unsettable => none

def extend? (env : Environment) (text : String) : Option Environment :=
  load env (Parts.split '\n' text.toList)

def mentions : List Char → List String
  | [] => []
  | c :: rest =>
      if c = '$' then
        String.ofList (rest.takeWhile Alphanumeric.isAlphanumeric) ::
          String.ofList ((rest.drop 1).takeWhile fun c => c != '}' && c != '=') :: mentions rest
      else mentions rest

end EnvironmentFile

end PrizeDraw
