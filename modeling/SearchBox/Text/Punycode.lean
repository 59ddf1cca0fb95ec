import SearchBox.Text.Blank

/- Words of any script in letters, digits and hyphens: the ASCII characters come first, and behind a hyphen
   the others, from the lowest on, each as the number of places and values that it is away from the one
   before. Numbers are written in base 36 with the last digit marked by its size. -/
namespace SearchBox.Punycode

def digit (n : Nat) : Char := if n < 26 then Char.ofNat (97 + n) else Char.ofNat (22 + n)

def threshold (bias k : Nat) : Nat := min 26 (max 1 (k - bias))

def digitsFrom (bias k n : Nat) : Text :=
  let t := threshold bias k
  if n < t then [digit n]
  else digit (t + (n - t) % (36 - t)) :: digitsFrom bias (k + 36) ((n - t) / (36 - t))
termination_by n
decreasing_by
  simp only [t, threshold] at *
  have : 10 ≤ 36 - min 26 (max 1 (k - bias)) := by omega
  have : 1 ≤ min 26 (max 1 (k - bias)) := by omega
  have := Nat.div_le_self (n - min 26 (max 1 (k - bias))) (36 - min 26 (max 1 (k - bias)))
  omega

def settle (k delta : Nat) : Nat :=
  if 455 < delta then settle (k + 36) (delta / 35) else k + 36 * delta / (delta + 38)
termination_by delta
decreasing_by omega

def adapt (delta count : Nat) (isFirst : Bool) : Nat :=
  let delta := if isFirst then delta / 700 else delta / 2
  settle 0 (delta + delta / count)

structure State where
  delta : Nat
  bias : Nat
  /-- How many characters have been written. -/
  count : Nat
  written : Text

def pass (basic n : Nat) (s : State) (c : Char) : State :=
  if c.toNat < n then { s with delta := s.delta + 1 }
  else if c.toNat = n then
    { delta := 0
      bias := adapt s.delta (s.count + 1) (s.count = basic)
      count := s.count + 1
      written := s.written ++ digitsFrom s.bias 36 s.delta }
  else s

/-- The characters above ASCII are given from the lowest on; all below `next` have been written. -/
def writeFrom (word : Text) (basic : Nat) (s : State) (next : Nat) : List Nat → Text
  | [] => s.written
  | n :: rest =>
    let s := { s with delta := s.delta + (n - next) * (s.count + 1) }
    let s := word.foldl (pass basic n) s
    writeFrom word basic { s with delta := s.delta + 1 } (n + 1) rest

def encode (word : Text) : Text :=
  let basic := word.filter (·.toNat < 128)
  let others := ((word.filter (128 ≤ ·.toNat)).map Char.toNat).eraseDups.mergeSort
  writeFrom word basic.length ⟨0, 72, basic.length, basic ++ if basic = [] then [] else ['-']⟩ 128 others

end SearchBox.Punycode
