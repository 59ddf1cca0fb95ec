import SearchBox.Text.Decimal
import SearchBox.Text.LetterCase
import SearchBox.Text.WordChar

/- Regular expressions, and whether one is found in a text. An expression tries the ways in which it matches
   at a place one after the other, until what stands behind it goes on from one of them. -/
namespace SearchBox

namespace Regexp

/-- Which letters count as the same: equal ones only, or also the two forms of one letter. -/
inductive Folding where
  | exact
  | ascii
  | full
  deriving DecidableEq, Repr

namespace Folding

def fold (f : Folding) (c : Char) : Char :=
  match f with
  | .exact => c
  | .ascii => if c.toNat < 128 then (smallForm c).headD c else c
  | .full => (smallForm c).headD c

def likes (f : Folding) (a b : Char) : Bool :=
  f.fold a = f.fold b || (f = .full && capitalForm (f.fold a) = capitalForm (f.fold b))

/-- The forms of a letter; capitals that are more than one character are none of them. -/
def forms (f : Folding) (c : Char) : List Char :=
  let capital :=
    match capitalForm (f.fold c) with
    | [d] => d
    | _ => c
  match f with
  | .exact => [c]
  | .ascii => if c.toNat < 128 then [c, f.fold c, capital] else [c]
  | .full => [c, f.fold c, capital, f.fold capital]

def reaches (f : Folding) (low high : Nat) (c : Char) : Bool :=
  (f.forms c).any (fun form => low ≤ form.toNat && form.toNat ≤ high) ||
    (f = .full && specialCapitals.any fun (code, _) => low ≤ code && code ≤ high && f.likes (Char.ofNat code) c)

end Folding

inductive Kind where
  | digit
  | blank
  | word
  deriving DecidableEq, Repr

def Kind.holds (k : Kind) (ascii : Bool) (c : Char) : Bool :=
  match k with
  | .digit => if ascii then Decimal.isPlainDigit c else isDecimal c
  | .blank => isBlank c && (!ascii || c = ' ' || c.toNat ≤ 13)
  | .word => isWordChar c && (!ascii || c.toNat < 128)

/-- Characters are given by their numbers, since some numbers that can be written belong to none. -/
inductive Item where
  | char (code : Nat)
  | range (low high : Nat)
  | kind (k : Kind) (negated ascii : Bool)
  deriving DecidableEq, Repr

def Item.holds (f : Folding) (c : Char) : Item → Bool
  | .char code => code = c.toNat || (code.isValidChar && f.likes (Char.ofNat code) c)
  | .range low high => f.reaches low high c
  | .kind k negated ascii => k.holds ascii c != negated

structure Chars where
  negated : Bool
  items : List Item
  folding : Folding
  deriving DecidableEq, Repr

def Chars.holds (s : Chars) (c : Char) : Bool := (s.items.any (·.holds s.folding c)) != s.negated

inductive Anchor where
  | textStart
  | lineStart
  | textEnd
  /-- The end of the text, or a line feed that is the last character. -/
  | lastLineEnd
  | lineEnd
  | edge (negated ascii : Bool)
  deriving DecidableEq, Repr

inductive Greed where
  | greedy
  | lazy
  /-- As often as it can, with nothing given back. -/
  | possessive
  deriving DecidableEq, Repr

end Regexp

inductive Regexp where
  | nothing
  | one (chars : Regexp.Chars)
  | anchor (a : Regexp.Anchor)
  | both (first second : Regexp)
  | either (first second : Regexp)
  | capture (group : Nat) (inner : Regexp)
  /-- What a group took. -/
  | again (group : Nat) (folding : Regexp.Folding)
  /-- That many times at least, and so many more times at most, if there is a bound. -/
  | repeated (greed : Regexp.Greed) (least : Nat) (extra : Option Nat) (inner : Regexp)
  | ahead (negated : Bool) (inner : Regexp)
  /-- Looks back by a number of characters, which is how long the inner expression is. -/
  | behind (negated : Bool) (width : Nat) (inner : Regexp)
  /-- Tries the first way only in which the inner expression matches. -/
  | atomic (inner : Regexp)
  | ifGroup (group : Nat) (taken missing : Regexp)
  deriving DecidableEq, Repr

namespace Regexp

/-- A place in a text, with the characters before it from the last to the first, and where groups were last
    opened and closed. -/
structure Place where
  before : Text
  rest : Text
  opened : List (Nat × Nat)
  closed : List (Nat × Nat)
  deriving DecidableEq, Repr

namespace Place
variable (p : Place)

def index : Nat := p.before.length

def openGroup (group : Nat) : Place := { p with opened := (group, p.index) :: p.opened }

def closeGroup (group : Nat) : Place := { p with closed := (group, p.index) :: p.closed }

/-- A group that was opened again behind its last end counts as one that took nothing yet. -/
def group? (group : Nat) : Option Text := do
  let start ← p.opened.lookup group
  let stop ← p.closed.lookup group
  if stop < start then none
  else some (((p.before.reverse ++ p.rest).drop start).take (stop - start))

def pass? (holds : Char → Bool) : Option Place :=
  match p.rest with
  | [] => none
  | c :: rest => if holds c then some { p with before := c :: p.before, rest } else none

def passAll? (likes : Char → Char → Bool) : Text → Place → Option Place
  | [], p => some p
  | c :: t, p => (p.pass? (likes c)).bind (passAll? likes t)

def back? (width : Nat) : Option Place :=
  if p.before.length < width then none
  else some { p with before := p.before.drop width, rest := (p.before.take width).reverse ++ p.rest }

end Place

/-- In a text without characters there is neither an edge of a word nor a place that is none. -/
def Anchor.holds (p : Place) : Anchor → Bool
  | .textStart => p.before = []
  | .lineStart => p.before = [] || p.before.head? = some '\n'
  | .textEnd => p.rest = []
  | .lastLineEnd => p.rest = [] || p.rest = ['\n']
  | .lineEnd => p.rest = [] || p.rest.head? = some '\n'
  | .edge negated ascii =>
    let isWord (c : Option Char) : Bool := c.any (Kind.word.holds ascii)
    !(p.before = [] && p.rest = []) && (isWord p.before.head? != isWord p.rest.head?) != negated

abbrev Rest := Place → Option Place

def times (inner : Rest → Rest) : Nat → Rest → Rest
  | 0, next, p => next p
  | n + 1, next, p => inner (times inner n next) p

/-- Some more times, with the larger number of times or the smaller one first. Inner expressions that take
    nothing are not repeated. -/
def more (isLazy : Bool) (inner : Rest → Rest) (next : Rest) (extra : Option Nat) (p : Place) : Option Place :=
  if extra = some 0 then next p
  else
    let onward (q : Place) : Option Place :=
      if q.rest.length < p.rest.length then more isLazy inner next (extra.map (· - 1)) q else next q
    if isLazy then next p <|> inner onward p else inner onward p <|> next p
termination_by p.rest.length

/-- Goes on from the place itself, with the groups of what was seen elsewhere. -/
def look (negated : Bool) (seen : Option Place) (next : Rest) (p : Place) : Option Place :=
  match seen with
  | some q => if negated then none else next { p with opened := q.opened, closed := q.closed }
  | none => if negated then next p else none

/-- Goes on with `next` behind the expression. -/
def run : Regexp → Rest → Rest
  | .nothing, next, p => next p
  | .one chars, next, p => (p.pass? chars.holds).bind next
  | .anchor a, next, p => if a.holds p then next p else none
  | .both first second, next, p => first.run (second.run next) p
  | .either first second, next, p => first.run next p <|> second.run next p
  | .capture group inner, next, p => inner.run (fun q => next (q.closeGroup group)) (p.openGroup group)
  | .again group folding, next, p => do
    next (← Place.passAll? (fun a b => folding.fold a = folding.fold b) (← p.group? group) p)
  | .repeated .possessive least extra inner, next, p =>
    let alone (next : Rest) (p : Place) : Option Place := (inner.run some p).bind next
    (times alone least (more false alone some extra) p).bind next
  | .repeated greed least extra inner, next, p =>
    times inner.run least (more (greed = .lazy) inner.run next extra) p
  | .ahead negated inner, next, p => look negated (inner.run some p) next p
  | .behind negated width inner, next, p => look negated ((p.back? width).bind (inner.run some)) next p
  | .atomic inner, next, p => (inner.run some p).bind next
  | .ifGroup group taken missing, next, p =>
    if (p.group? group).isSome then taken.run next p else missing.run next p

def findFrom (r : Regexp) (before : Text) : Text → Bool
  | [] => (r.run some ⟨before, [], [], []⟩).isSome
  | c :: rest => (r.run some ⟨before, c :: rest, [], []⟩).isSome || r.findFrom (c :: before) rest

def isFoundIn (r : Regexp) (t : Text) : Bool := r.findFrom [] t

end Regexp
end SearchBox
