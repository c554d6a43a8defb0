import PrizeDraw.HostName
import PrizeDraw.Text.IntegerText

namespace PrizeDraw

namespace Address

def isControlOrSpace (c : Char) : Bool := decide (c.toNat ≤ 32)

def isBreak (c : Char) : Bool := c == '\t' || c == '\n' || c == '\r'

def clean (text : String) : List Char :=
  let cs := (text.toList.dropWhile isControlOrSpace).reverse.dropWhile isControlOrSpace
  cs.reverse.filter fun c => !isBreak c

def isSchemePart (c : Char) : Bool := c.isAlphanum || c == '+' || c == '-' || c == '.'

def splitScheme? (cs : List Char) : Option (String × List Char) :=
  match cs.takeWhile isSchemePart, cs.dropWhile isSchemePart with
  | c :: scheme, ':' :: rest =>
      if c.isAlpha then some ((String.ofList (c :: scheme)).toLower, rest) else none
  | _, _ => none

inductive Kind where
  | file
  | web
  | other
  deriving DecidableEq, Repr

def Kind.ofScheme (scheme : String) : Kind :=
  if scheme = "file" then .file
  else if ["http", "https", "ws", "wss", "ftp"].contains scheme then .web
  else .other

def isSlash (kind : Kind) (c : Char) : Bool := c == '/' || (c == '\\' && kind != .other)

def endsHost (kind : Kind) (c : Char) : Bool := isSlash kind c || c == '?' || c == '#'

def splitUser (cs : List Char) : Option (List Char) × List Char :=
  match (Parts.split '@' cs).reverse with
  | host :: part :: parts => (some (Parts.join '@' (part :: parts).reverse), host)
  | _ => (none, cs)

def splitHost : Bool → List Char → List Char × List Char
  | _, [] => ([], [])
  | bracketed, c :: rest =>
      if c = ':' ∧ bracketed = false then ([], c :: rest)
      else
        let inside := if c = '[' then true else if c = ']' then false else bracketed
        let (host, others) := splitHost inside rest
        (c :: host, others)

def isForbiddenInHost (c : Char) : Bool :=
  ['\x00', ' ', '#', '/', ':', '<', '>', '?', '@', '[', '\\', ']', '^', '|'].contains c

def slash : UInt8 := 0x2f

def isOtherHost (cs : List Char) : Bool :=
  if cs.head? = some '[' then HostName.isBracketed cs
  else
    !cs.any isForbiddenInHost &&
      ((Percent.decode cs).head? != some slash || (Percent.text? cs).isSome)

def maxPort : Nat := 65535

def isPort : List Char → Bool
  | [] => true
  | _ :: digits =>
      digits.all Char.isDigit &&
        decide (digits.foldl (fun n c => n * 10 + Decimal.digitValue c) 0 ≤ maxPort)

def userNames (cs : List Char) : List Char × List Char :=
  (cs.takeWhile (· != ':'), (cs.dropWhile (· != ':')).drop 1)

def isText (cs : List Char) : Bool := (Percent.text? cs).isSome

def decodeDots : List Char → List Char
  | '%' :: '2' :: c :: rest =>
      if c = 'e' ∨ c = 'E' then '.' :: decodeDots rest else '%' :: '2' :: c :: rest
  | '.' :: rest => '.' :: decodeDots rest
  | cs => cs

def isDrive : List Char → Bool
  | [c, mark] => c.isAlpha && (mark == ':' || mark == '|')
  | _ => false

def beginsWithDrive (name : List Char) : Bool :=
  isDrive (name.take 2) && (name.drop 2).head?.all (· == '\\')

def kept : List (List Char) → List (List Char) → List (List Char)
  | passed, [] => passed
  | passed, name :: rest =>
      let dots := decodeDots name
      if dots = ['.', '.'] then
        match passed with
        | last :: others => kept (if beginsWithDrive last then passed else others) rest
        | [] => kept [] rest
      else if dots = ['.'] then kept passed rest
      else kept (name :: passed) rest

def isPath (kind : Kind) (cs : List Char) : Bool :=
  let cs := cs.map fun c => if isSlash kind c then '/' else c
  let names := Parts.split '/' (if cs.head? = some '/' then cs.drop 1 else cs)
  (kept [] names).all isText

def encryptionModes : List String :=
  ["disable", "allow", "prefer", "require", "verify-ca", "verify-full"]

def portRange : IntegerText.Range := ⟨0, maxPort⟩

def isInteger (range : IntegerText.Range) (text : String) : Bool :=
  (IntegerText.read range text.toList).isOk

def isParameter (key value : String) : Bool :=
  if key = "sslmode" ∨ key = "ssl-mode" then encryptionModes.contains value.toLower
  else if key = "statement-cache-capacity" then isInteger .u64 value
  else if key = "hostaddr" then
    HostName.Number.isShort value.toList || HostName.Number.isLong value.toList
  else if key = "port" then isInteger portRange value
  else true

def parameterText (cs : List Char) : String :=
  (Percent.text? (cs.map fun c => if c = '+' then ' ' else c)).getD "\ufffd"

def isQuery (cs : List Char) : Bool :=
  (Parts.split '&' cs).all fun pair =>
    isParameter (parameterText (pair.takeWhile (· != '=')))
      (parameterText ((pair.dropWhile (· != '=')).drop 1))

def isTail (test : List Char → Bool) (cs : List Char) : Bool :=
  let beforeMark := cs.takeWhile (· != '#')
  test (beforeMark.takeWhile (· != '?')) && isQuery ((beforeMark.dropWhile (· != '?')).drop 1)

def isLocated (kind : Kind) (cs : List Char) : Bool :=
  let authority := cs.takeWhile fun c => !endsHost kind c
  let tail := cs.dropWhile fun c => !endsHost kind c
  let (user, rest) := splitUser authority
  let (host, behind) := splitHost false rest
  let port := behind.takeWhile (· != '\\')
  let path := behind.dropWhile (· != '\\') ++ tail
  let (name, password) := userNames (user.getD [])
  let unnamed := port.isEmpty && name.isEmpty && password.isEmpty &&
    (user != some [] || tail.isEmpty)
  isText name && isText password && isPort port && isTail (isPath kind) path &&
    if kind = .web then HostName.isHost host
    else isOtherHost host && (!host.isEmpty || unnamed)

def isFileLocated (cs : List Char) : Bool :=
  let host := cs.takeWhile fun c => !endsHost .file c
  let tail := cs.dropWhile fun c => !endsHost .file c
  if isDrive host then isTail (isPath .file) cs
  else (host.isEmpty || HostName.isHost host) && isTail (isPath .file) tail

def isRest : Kind → List Char → Bool
  | .web, cs => isLocated .web (cs.dropWhile (isSlash .web))
  | .file, a :: b :: cs =>
      if isSlash .file a && isSlash .file b then isFileLocated cs
      else isTail (isPath .file) (a :: b :: cs)
  | .file, cs => isTail (isPath .file) cs
  | .other, '/' :: '/' :: cs => isLocated .other cs
  | .other, '/' :: cs => isTail (isPath .other) ('/' :: cs)
  | .other, cs => isTail isText cs

def isAddress (text : String) : Bool :=
  match splitScheme? (clean text) with
  | some (scheme, rest) => isRest (Kind.ofScheme scheme) rest
  | none => false

end Address

end PrizeDraw
