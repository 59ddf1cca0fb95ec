import SearchBox.Assoc
import SearchBox.Store.Regexp
import SearchBox.Text.Percent

/- Reading regular expressions. Characters with a meaning of their own lose it behind a backslash, and letters
   and digits get one. What cannot be read is refused: there is nothing to repeat or it is repeated already, a
   bracket is missing or is one too many, a group is not known or not closed yet. -/
namespace SearchBox.Regexp

inductive Sign where
  | plain (c : Char)
  | escaped (c : Char)
  deriving DecidableEq, Repr

namespace Sign

def text : Sign → Text
  | .plain c => [c]
  | .escaped c => ['\\', c]

def ofText? : Text → Option (List Sign)
  | [] => some []
  | ['\\'] => none
  | '\\' :: c :: rest => (ofText? rest).map (.escaped c :: ·)
  | c :: rest => (ofText? rest).map (.plain c :: ·)

end Sign

/-- How the expression is meant: with which letters the same, each line on its own, the point for line feeds
    too, blanks and comments left out, classes of characters within ASCII. -/
structure Modes where
  ignoresCase : Bool
  linewise : Bool
  dotAll : Bool
  spaced : Bool
  ascii : Bool
  deriving DecidableEq, Repr

namespace Modes

def plain : Modes := ⟨false, false, false, false, false⟩

def set (m : Modes) (value : Bool) : Char → Modes
  | 'i' => { m with ignoresCase := value }
  | 'm' => { m with linewise := value }
  | 's' => { m with dotAll := value }
  | 'x' => { m with spaced := value }
  | 'a' => { m with ascii := value }
  | 'u' => { m with ascii := !value }
  | _ => m

def setAll (m : Modes) (value : Bool) (letters : Text) : Modes := letters.foldl (·.set value ·) m

def folding (m : Modes) : Folding := if !m.ignoresCase then .exact else if m.ascii then .ascii else .full

def chars (m : Modes) (negated : Bool) (items : List Item) : Chars := ⟨negated, items, m.folding⟩

def literal (m : Modes) (code : Nat) : Regexp := .one (m.chars false [.char code])

def anyChar (m : Modes) : Regexp := .one (m.chars true (if m.dotAll then [] else [.char '\n'.toNat]))

end Modes

structure Width where
  least : Nat
  most : Option Nat
  deriving DecidableEq, Repr

namespace Width

def exactly (n : Nat) : Width := ⟨n, some n⟩

def and (a b : Width) : Width := ⟨a.least + b.least, do return (← a.most) + (← b.most)⟩

def or (a b : Width) : Width := ⟨min a.least b.least, do return max (← a.most) (← b.most)⟩

def times (w : Width) (least : Nat) (extra : Option Nat) : Width where
  least := w.least * least
  most :=
    if w.most = some 0 ∨ least = 0 ∧ extra = some 0 then some 0
    else do return (← w.most) * (least + (← extra))

def any : Width := ⟨0, none⟩

end Width

def width (groups : List (Option Width)) : Regexp → Width
  | .nothing | .anchor _ | .ahead _ _ | .behind _ _ _ => .exactly 0
  | .one _ => .exactly 1
  | .both first second => (first.width groups).and (second.width groups)
  | .either first second => (first.width groups).or (second.width groups)
  | .capture _ inner | .atomic inner => inner.width groups
  | .again group _ => (groups[group]?.join).getD .any
  | .repeated _ least extra inner => (inner.width groups).times least extra
  | .ifGroup _ taken missing => (taken.width groups).or (missing.width groups)

/-- What is still to be read, the widths of the groups so far, with none for those that are open, the names of
    groups, the groups that the expression read now can look back at if it looks back, and the groups that are
    asked for by number. -/
structure Reading where
  signs : List Sign
  groups : List (Option Width)
  names : Assoc Nat
  behindFrom : Option Nat
  asked : List Nat

abbrev Reader := StateT Reading Option

namespace Reader

def peek : Reader (Option Sign) := do return (← get).signs.head?

def next : Reader Sign := do
  match (← get).signs with
  | [] => failure
  | sign :: signs =>
    modify fun s => { s with signs }
    return sign

def nextIs (c : Char) : Reader Bool := do
  if (← peek) = some (.plain c) then
    let _ ← next
    return true
  else return false

def expect (c : Char) : Reader Unit := do
  if !(← nextIs c) then failure

def nextWhile (holds : Char → Bool) : Nat → Reader Text
  | 0 => return []
  | most + 1 => do
    match ← peek with
    | some (.plain c) =>
      if holds c then
        let _ ← next
        return c :: (← nextWhile holds most)
      else return []
    | _ => return []

def nextAll (holds : Char → Bool) : Reader Text := do nextWhile holds (← get).signs.length

def upTo (stop : Char) : Reader Text := do
  let (before, rest) := (← get).signs.span (· ≠ .plain stop)
  match rest with
  | [] => failure
  | _ :: rest =>
    modify fun s => { s with signs := rest }
    return before.flatMap Sign.text

def name (stop : Char) : Reader Text := do
  let t ← upTo stop
  if t = [] then failure
  return t

end Reader

def isIdentifier : Text → Bool
  | [] => false
  | c :: t => isWordChar c && !isDigit c && t.all isWordChar

/-- A group that is closed, and is not in what looks back just now. -/
def closedGroup (group : Nat) : Reader Nat := do
  let s ← get
  if (s.groups[group]?.join).isNone || s.behindFrom.any (· ≤ group) then failure
  return group

def hexCode (digits : Text) : Option Nat := do
  return (← digits.mapM Percent.hexValue?).foldl (fun value d => 16 * value + d) 0

def octalCode (digits : Text) : Option Nat :=
  let value := digits.foldl (fun value d => 8 * value + (d.toNat - 48)) 0
  if value ≤ 255 then some value else none

def isOctal (c : Char) : Bool := '0' ≤ c && c ≤ '7'

def byHexCode (count : Nat) : Reader Nat := do
  let digits ← Reader.nextWhile (fun c => (Percent.hexValue? c).isSome) count
  let code ← (hexCode digits : Option Nat)
  if digits.length ≠ count || code > 0x10FFFF then failure
  return code

def controlCode? : Char → Option Nat
  | 'a' => some 7
  | 'f' => some 12
  | 'n' => some 10
  | 'r' => some 13
  | 't' => some 9
  | 'v' => some 11
  | _ => none

def kind? : Char → Option (Kind × Bool)
  | 'd' => some (.digit, false)
  | 'D' => some (.digit, true)
  | 's' => some (.blank, false)
  | 'S' => some (.blank, true)
  | 'w' => some (.word, false)
  | 'W' => some (.word, true)
  | _ => none

def anchor? (m : Modes) : Char → Option Anchor
  | 'A' => some .textStart
  | 'Z' => some .textEnd
  | 'b' => some (.edge false m.ascii)
  | 'B' => some (.edge true m.ascii)
  | _ => none

def escapedCode (c : Char) : Reader Nat := do
  match controlCode? c with
  | some code => return code
  | none =>
    match c with
    | 'x' => byHexCode 2
    | 'u' => byHexCode 4
    | 'U' => byHexCode 8
    | c => if c.isAlphanum then failure else return c.toNat

/-- In a set there are no anchors and no groups, so letters and digits stand for less. -/
def escapedItem (m : Modes) (c : Char) : Reader Item := do
  match kind? c with
  | some (k, negated) => return .kind k negated m.ascii
  | none =>
    if c = 'b' then return .char 8
    else if isOctal c then return .char (← octalCode (c :: (← Reader.nextWhile isOctal 2)))
    else return .char (← escapedCode c)

/-- A number behind a backslash is a group, unless it starts with a zero or is written with three octal digits. -/
def escapedNumber (m : Modes) (c : Char) : Reader Regexp := do
  if c = '0' then return m.literal (← octalCode (c :: (← Reader.nextWhile isOctal 2)))
  else
    let second ← Reader.nextWhile Decimal.isPlainDigit 1
    let third ← if (c :: second).all isOctal && second ≠ [] then Reader.nextWhile isOctal 1 else pure []
    let digits := c :: second ++ third
    if third ≠ [] then return m.literal (← octalCode digits)
    else return .again (← closedGroup (digitsValue (digits.map fun d => d.toNat - 48))) m.folding

def escaped (m : Modes) (c : Char) : Reader Regexp := do
  match anchor? m c, kind? c with
  | some a, _ => return .anchor a
  | none, some (k, negated) => return .one (m.chars false [.kind k negated m.ascii])
  | none, none => if Decimal.isPlainDigit c then escapedNumber m c else return m.literal (← escapedCode c)

def item (m : Modes) : Sign → Reader Item
  | .plain c => return .char c.toNat
  | .escaped c => escapedItem m c

/-- The rest of a set up to its closing bracket, which counts as a member in the first place, as does a hyphen
    in the last. -/
def itemsFrom (m : Modes) : Nat → Bool → Reader (List Item)
  | 0, _ => failure
  | fuel + 1, isFirst => do
    let sign ← Reader.next
    if sign = .plain ']' && !isFirst then return []
    let low ← item m sign
    if !(← Reader.nextIs '-') then return low :: (← itemsFrom m fuel false)
    let sign ← Reader.next
    if sign = .plain ']' then return [low, .char '-'.toNat]
    match low, ← item m sign with
    | .char low, .char high =>
      if high < low then failure
      return .range low high :: (← itemsFrom m fuel false)
    | _, _ => failure

def charSet (m : Modes) : Reader Regexp := do
  let negated ← Reader.nextIs '^'
  return .one (m.chars negated (← itemsFrom m ((← get).signs.length + 1) true))

def timesLimit : Nat := 4294967295

/-- A number of times between braces, behind the opening one, and how many more times there may be; nothing if the
    brace stands for itself. -/
def braces : Reader (Option (Nat × Option Nat)) := do
  let before ← get
  if (← Reader.peek) = some (.plain '\x7d') then return none
  let low ← Reader.nextAll Decimal.isPlainDigit
  let high ← if ← Reader.nextIs ',' then Reader.nextAll Decimal.isPlainDigit else pure low
  if !(← Reader.nextIs '\x7d') then
    set before
    return none
  let value (digits : Text) : Reader Nat := do
    let n := digitsValue (digits.map fun d => d.toNat - 48)
    if digits.length > Integer.digitLimit || n ≥ timesLimit then failure
    return n
  let least ← value low
  if high = [] then return some (least, none)
  let most ← value high
  if most < least then failure
  return some (least, some (most - least))

def quantifier : Char → Reader (Option (Nat × Option Nat))
  | '?' => return some (0, some 1)
  | '*' => return some (0, none)
  | '+' => return some (1, none)
  | '\x7b' => braces
  | _ => return none

def greed : Reader Greed := do
  if ← Reader.nextIs '?' then return .lazy
  else if ← Reader.nextIs '+' then return .possessive
  else return .greedy

def isMode (c : Char) : Bool := "imsxau".toList.contains c

/-- The letters for modes of which `c` is the first, or behind a hyphen: those to be set and, unless they are for
    the whole expression, those to be taken back. -/
def modeLetters (c : Char) : Reader (Text × Option Text) := do
  if c ≠ '-' && !isMode c then failure
  let added ← if c = '-' then pure [] else (c :: ·) <$> Reader.nextAll isMode
  if added.contains 'a' && added.contains 'u' then failure
  if c ≠ '-' && (← Reader.nextIs ')') then return (added, none)
  if c ≠ '-' && !(← Reader.nextIs '-') then
    Reader.expect ':'
    return (added, some [])
  let dropped ← Reader.nextAll isMode
  Reader.expect ':'
  if dropped = [] || dropped.any fun d => d = 'a' || d = 'u' || added.contains d then failure
  return (added, some dropped)

def isSpacing (c : Char) : Bool := c = ' ' || (9 ≤ c.toNat && c.toNat ≤ 13)

def skipLine : Reader Unit :=
  modify fun s => { s with signs := (s.signs.dropWhile (· ≠ .plain '\n')).drop 1 }

def skipsSpacing (m : Modes) (c : Char) : Reader Bool := do
  if !m.spaced then return false
  if c = '#' then skipLine
  return c = '#' || isSpacing c

def openGroup (name : Option Text) : Reader Nat := do
  let s ← get
  let group := s.groups.length
  let names ← match name with
    | none => pure s.names
    | some name =>
      if !isIdentifier name || (s.names.find? name).isSome then failure
      pure (s.names.insert name group)
  set { s with names, groups := s.groups ++ [none] }
  return group

def closeGroup (group : Nat) (inner : Regexp) : Reader Regexp := do
  modify fun s => { s with groups := s.groups.set group (some (inner.width s.groups)) }
  return .capture group inner

def groupNamed (name : Text) : Reader Nat := do (← get).names.find? name

/-- The group that is asked for in front of two alternatives, by its name or by a number, for which there may be
    a group later. -/
def askedGroup (t : Text) : Reader Nat := do
  let group ←
    if isIdentifier t then groupNamed t
    else match Integer.read t with
      | .ok (.ofNat (n + 1)) => do
        modify fun s => { s with asked := (n + 1) :: s.asked }
        pure (n + 1)
      | _ => failure
  if (← get).behindFrom.isSome then closedGroup group else return group

def lookingBack (negated : Bool) (inner : Reader Regexp) : Reader Regexp := do
  let before := (← get).behindFrom
  modify fun s => { s with behindFrom := before <|> some s.groups.length }
  let r ← inner
  modify fun s => { s with behindFrom := before }
  let w := r.width (← get).groups
  if w.most ≠ some w.least then failure
  return .behind negated w.least r

mutual

def alternatives : Nat → Modes → Reader Regexp
  | 0, _ => failure
  | fuel + 1, m => do
    let first ← sequence fuel m false []
    if ← Reader.nextIs '|' then return .either first (← alternatives fuel m) else return first

/-- What comes up to the end, the next bar or the bracket that closes a group, behind some items that are given
    from the last to the first. -/
def sequence : Nat → Modes → Bool → List Regexp → Reader Regexp
  | 0, _, _, _ => failure
  | fuel + 1, m, canRepeat, items => do
    match ← Reader.peek with
    | none | some (.plain '|') | some (.plain ')') =>
      return items.foldl (fun rest item => .both item rest) .nothing
    | some sign =>
      let _ ← Reader.next
      match sign with
      | .escaped c =>
        let r ← escaped m c
        sequence fuel m (anchor? m c).isNone (r :: items)
      | .plain c =>
        if ← skipsSpacing m c then sequence fuel m canRepeat items
        else match ← quantifier c, items with
          | some (least, extra), item :: items =>
            if !canRepeat then failure
            sequence fuel m false (.repeated (← greed) least extra item :: items)
          | some _, [] => failure
          | none, _ =>
            match c with
            | '(' =>
              match ← bracket fuel m with
              | some r => sequence fuel m true (r :: items)
              | none => sequence fuel m canRepeat items
            | '[' => sequence fuel m true ((← charSet m) :: items)
            | '.' => sequence fuel m true (m.anyChar :: items)
            | '^' => sequence fuel m false (.anchor (if m.linewise then .lineStart else .textStart) :: items)
            | '$' => sequence fuel m false (.anchor (if m.linewise then .lineEnd else .lastLineEnd) :: items)
            | c => sequence fuel m true (m.literal c.toNat :: items)

def bracket : Nat → Modes → Reader (Option Regexp)
  | 0, _ => failure
  | fuel + 1, m => do
    let inner (m : Modes) : Reader Regexp := do
      let r ← alternatives fuel m
      Reader.expect ')'
      return r
    let captured (name : Option Text) : Reader (Option Regexp) := do
      let group ← openGroup name
      return some (← closeGroup group (← inner m))
    if !(← Reader.nextIs '?') then captured none
    else match ← Reader.next with
      | .plain 'P' =>
        if ← Reader.nextIs '<' then captured (some (← Reader.name '>'))
        else
          Reader.expect '='
          return some (.again (← closedGroup (← groupNamed (← Reader.name ')'))) m.folding)
      | .plain '#' =>
        let _ ← Reader.upTo ')'
        return none
      | .plain ':' => return some (← inner m)
      | .plain '>' => return some (.atomic (← inner m))
      | .plain '=' => return some (.ahead false (← inner m))
      | .plain '!' => return some (.ahead true (← inner m))
      | .plain '<' =>
        let negated ← Reader.nextIs '!'
        if !negated then Reader.expect '='
        return some (← lookingBack negated (inner m))
      | .plain '(' =>
        let group ← askedGroup (← Reader.name ')')
        let taken ← sequence fuel m false []
        let missing ← if ← Reader.nextIs '|' then sequence fuel m false [] else pure .nothing
        Reader.expect ')'
        return some (.ifGroup group taken missing)
      | .plain c =>
        match ← modeLetters c with
        | (added, some dropped) => return some (← inner ((m.setAll true added).setAll false dropped))
        | (_, none) => failure
      | .escaped _ => failure

end

def globalModes : Nat → Text → Reader Text
  | 0, letters => return letters
  | fuel + 1, letters => do
    let before ← get
    match ← Reader.peek with
    | some (.plain '(') =>
      let _ ← Reader.next
      if !(← Reader.nextIs '?') then
        set before
        return letters
      match ← Reader.peek with
      | some (.plain '#') =>
        let _ ← Reader.upTo ')'
        globalModes fuel letters
      | some (.plain c) =>
        if !isMode c then
          set before
          return letters
        let _ ← Reader.next
        match ← modeLetters c with
        | (added, none) => globalModes fuel (letters ++ added)
        | (_, some _) =>
          set before
          return letters
      | _ =>
        set before
        return letters
    | some (.plain c) =>
      let _ ← Reader.next
      if ← skipsSpacing (Modes.plain.setAll true letters) c then globalModes fuel letters
      else
        set before
        return letters
    | _ => return letters

/-- An expression with nothing behind it. Each sign is read in three steps at most. -/
def expression (length : Nat) : Reader Regexp := do
  let letters ← globalModes (length + 1) []
  if letters.contains 'a' && letters.contains 'u' then failure
  let r ← alternatives (3 * length + 3) (Modes.plain.setAll true letters)
  let s ← get
  if s.signs ≠ [] || s.asked.any (s.groups.length ≤ ·) then failure
  return r

def parse? (t : Text) : Option Regexp := do
  let signs ← Sign.ofText? t
  (expression signs.length).run' ⟨signs, [none], [], none, []⟩

end SearchBox.Regexp
