import PrizeDraw.HostName.Label
import PrizeDraw.HostName.Number
import PrizeDraw.Text.Percent

namespace PrizeDraw

namespace HostName

def isBracketed (cs : List Char) : Bool :=
  match cs with
  | '[' :: rest =>
      match rest.reverse with
      | ']' :: inner => Number.isLong inner.reverse
      | _ => false
  | _ => false

def isName (cs : List Char) : Bool :=
  match ((Percent.text? cs).bind fun text => labels? text.toList) with
  | some labels =>
      labels != [[]] && (!Number.endsInNumber labels || Number.isNumber labels)
  | none => false

def isHost (cs : List Char) : Bool :=
  if cs.head? = some '[' then isBracketed cs else isName cs

end HostName

end PrizeDraw
