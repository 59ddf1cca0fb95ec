import SearchBox.Fault
import SearchBox.Text.LetterCase
import SearchBox.Text.Punycode

/- Authorities: the part of a target that names a host, with a user in front of it and a port behind it.
   An address of the sixth version of the internet protocol stands between brackets. -/
namespace SearchBox.Authority

def cut (sep : Char) (t : Text) : Text × Text := (Text.cutAt? sep t).getD (t, [])

def isFigure (c : Char) : Bool := 48 ≤ c.toNat && c.toNat ≤ 57

def isHexadecimal (c : Char) : Bool :=
  isFigure c || (65 ≤ c.toNat && c.toNat ≤ 70) || (97 ≤ c.toNat && c.toNat ≤ 102)

def isOctet (t : Text) : Bool :=
  t ≠ [] && t.length ≤ 3 && t.all isFigure && (t = ['0'] || t.head? ≠ some '0') &&
    digitsValue (t.map fun c => c.toNat - 48) ≤ 255

def isShortAddress (t : Text) : Bool :=
  let parts := Text.splitAt '.' t
  parts.length = 4 && parts.all isOctet

def isGroup (t : Text) : Bool := t ≠ [] && t.length ≤ 4 && t.all isHexadecimal

/-- Groups between colons, with a short address in the place of the last two if it is given. -/
def groups? (t : Text) : Option (List Text) :=
  let parts := Text.splitAt ':' t
  let last := parts.getLastD []
  if parts.length < 3 then none
  else if '.' ∉ last then some parts
  else if isShortAddress last then some (parts.dropLast ++ [['0'], ['0']])
  else none

def isLongAddress (t : Text) : Bool :=
  let zone := Text.cutAt? '%' t
  let address := (zone.map (·.1)).getD t
  match groups? address with
  | none => false
  | some parts =>
    let inner := (parts.drop 1).dropLast
    let gaps := (inner.filter (· = [])).length
    let startsOpen := parts.head? = some []
    let endsOpen := parts.getLast? = some []
    zone.all (fun (_, name) => name ≠ [] && '%' ∉ name) && '/' ∉ t && parts.length ≤ 9 &&
      (parts.filter (· ≠ [])).all isGroup &&
      if gaps = 0 then parts.length = 8 && !startsOpen && !endsOpen
      else
        gaps = 1 && (!startsOpen || parts[1]? = some []) &&
          (!endsOpen || parts.dropLast.getLast? = some []) && (parts.filter (· ≠ [])).length ≤ 7

/-- Addresses of later versions: the letter v, a hexadecimal number, a point, and something more. -/
def isLaterAddress (t : Text) : Bool :=
  let version := t.takeWhile isHexadecimal
  match t.dropWhile isHexadecimal with
  | '.' :: rest => version ≠ [] && rest ≠ [] && rest.all (· ≠ '\n')
  | _ => false

def checkBracketed : Text → Except TargetFault Unit
  | 'v' :: t => if isLaterAddress t then .ok () else .error .laterAddress
  | t =>
    if isShortAddress t then .error .bracketedShortAddress
    else if isLongAddress t then .ok ()
    else .error (.noAddress t)

def hostAndPort (t : Text) : Text := ((Text.cutAtLast? '@' t).map (·.2)).getD t

def checkBrackets (t : Text) : Except TargetFault Unit :=
  if '[' ∉ t ∧ ']' ∉ t then .ok ()
  else if '[' ∉ t ∨ ']' ∉ t then .error .unbalancedBrackets
  else
    match Text.cutAt? '[' (hostAndPort t) with
    | some (_ :: _, _) => .error .unbalancedBrackets
    | some ([], inner) =>
      let (host, port) := cut ']' inner
      if port ≠ [] ∧ port.head? ≠ some ':' then .error .unbalancedBrackets else checkBracketed host
    | none => checkBracketed (cut ':' (hostAndPort t)).1

/-- Characters that come to hold one of the marks of a target in their compatible forms. -/
def unstableCharacters : List Nat :=
  [0x2047, 0x2048, 0x2049, 0x2100, 0x2101, 0x2105, 0x2106, 0x2A74, 0xFE13, 0xFE16, 0xFE55, 0xFE56, 0xFE5F,
    0xFE6B, 0xFF03, 0xFF0F, 0xFF1A, 0xFF1F, 0xFF20]

def check (t : Text) : Except TargetFault Unit :=
  if t.any fun c => unstableCharacters.contains c.toNat then .error (.unstable t) else .ok ()

def cutPort (t : Text) : Text × Option Text :=
  let (host, port) :=
    match Text.cutAt? '[' (hostAndPort t) with
    | some (_, inner) =>
      let (host, port) := cut ']' inner
      (host, (cut ':' port).2)
    | none => cut ':' (hostAndPort t)
  (host, if port = [] then none else some port)

def lowerHost (t : Text) : Text :=
  match Text.cutAt? '%' t with
  | some (host, zone) => host.lower ++ '%' :: zone
  | none => t.lower

def isDot (c : Char) : Bool := [0x2E, 0x3002, 0xFF0E, 0xFF61].contains c.toNat

def labelsOf : Text → List Text
  | [] => [[]]
  | c :: rest =>
    if isDot c then [] :: labelsOf rest
    else match labelsOf rest with
      | [] => [[c]]
      | label :: labels => (c :: label) :: labels

def isAscii (t : Text) : Bool := t.all (·.toNat < 128)

def labelCode (label : Text) : Except TargetFault Text :=
  let plain :=
    if isAscii label then label
    else label.lower.flatMap fun c => if c = '\u00df' then ['s', 's'] else [c]
  let coded := if isAscii plain then plain else "xn--".toList ++ Punycode.encode plain
  if coded = [] ∨ 64 ≤ coded.length then .error .badLabel else .ok coded

/-- The host in ASCII. Labels between points have one to 63 characters, but the last one may be empty. -/
def hostCode (host : Text) : Except TargetFault Text :=
  let labels := labelsOf host
  let last := labels.getLastD []
  if host = [] then .ok []
  else if isAscii host then
    if labels.dropLast.any fun label => label = [] || 64 ≤ label.length then .error .badLabel
    else if 64 ≤ last.length then .error .longLabel
    else .ok host
  else do
    let coded ← (if last = [] then labels.dropLast else labels).mapM labelCode
    return Text.join ['.'] coded ++ if last = [] then ['.'] else []

def portNumber (t : Text) : Except TargetFault Nat :=
  if !t.all isFigure then .error (.malformedPort t)
  else
    let n := digitsValue (t.map fun c => c.toNat - 48)
    if 65535 < n then .error .portRange else .ok n

def userText (t : Text) : Text :=
  match Text.cutAtLast? '@' t with
  | none => []
  | some (given, _) =>
    let (user, password) := cut ':' given
    if user = [] then []
    else user ++ (if password = [] then [] else ':' :: password) ++ ['@']

def normal (t : Text) : Except TargetFault Text := do
  let (host, port) := cutPort t
  let host ← hostCode (lowerHost host)
  let port ← (port.map portNumber).getD (.ok 0)
  return userText t ++ (if ':' ∈ host then '[' :: host ++ [']'] else host) ++
    (if port = 0 then [] else ':' :: Text.ofNat port)

end SearchBox.Authority
