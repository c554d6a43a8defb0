import PrizeDraw.Json
import PrizeDraw.Text.Hex

namespace PrizeDraw

namespace Json

namespace Printer

def exponentChars : Option (Bool × List Char) → List Char
  | none => []
  | some (true, ds) => 'e' :: '-' :: ds
  | some (false, ds) => 'e' :: ds

def numeralChars (n : Numeral) : List Char :=
  (if n.negative then ['-'] else []) ++ n.whole ++
    (if n.fraction.isEmpty then [] else '.' :: n.fraction) ++ exponentChars n.exponent

def charChars (c : Char) : List Char :=
  if c == '"' || c == '\\' then ['\\', c]
  else if c < ' ' then '\\' :: 'u' :: Hex.digits 4 c.toNat
  else [c]

def quoted (s : String) : List Char := '"' :: (s.toList.flatMap charChars ++ ['"'])

mutual

def chars : Json → List Char
  | .null => ['n', 'u', 'l', 'l']
  | .bool true => ['t', 'r', 'u', 'e']
  | .bool false => ['f', 'a', 'l', 's', 'e']
  | .number n => numeralChars n
  | .string s => quoted (s.getD "")
  | .array items => '[' :: (itemsChars items ++ [']'])
  | .object members => '{' :: (membersChars members ++ ['}'])

def itemsChars : List Json → List Char
  | [] => []
  | [item] => chars item
  | item :: rest => chars item ++ ',' :: itemsChars rest

def membersChars : List (Option String × Json) → List Char
  | [] => []
  | [(name, value)] => quoted (name.getD "") ++ ':' :: chars value
  | (name, value) :: rest =>
      quoted (name.getD "") ++ ':' :: (chars value ++ ',' :: membersChars rest)

end

end Printer

def render (j : Json) : String := String.ofList (Printer.chars j)

end Json

end PrizeDraw
