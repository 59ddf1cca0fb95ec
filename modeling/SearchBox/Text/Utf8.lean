import SearchBox.Text.Blank

/- Characters as bytes. What cannot be a part of any character is grouped into runs: a run is as long as it
   could still have begun a character. -/
namespace SearchBox.Utf8

def encodeChar (c : Char) : List Nat :=
  let n := c.toNat
  if n < 0x80 then [n]
  else if n < 0x800 then [0xC0 + n / 64, 0x80 + n % 64]
  else if n < 0x10000 then [0xE0 + n / 4096, 0x80 + n / 64 % 64, 0x80 + n % 64]
  else [0xF0 + n / 262144, 0x80 + n / 4096 % 64, 0x80 + n / 64 % 64, 0x80 + n % 64]

def encode (t : Text) : List Nat := t.flatMap encodeChar

inductive Piece where
  | char (c : Char)
  | bad (bytes : List Nat)
  deriving DecidableEq, Repr

/-- A character that has begun: its bytes so far, how many are to come, the bounds of the next one, and the
    bits so far. -/
structure Pending where
  bytes : List Nat
  missing : Nat
  low : Nat
  high : Nat
  bits : Nat

/-- A first byte is a character, begins one, or does neither. The bounds of the second byte keep out
    characters written too long, surrogates and what lies beyond the last character. -/
def start (b : Nat) : Piece ⊕ Pending :=
  if b < 0x80 then .inl (.char (Char.ofNat b))
  else if 0xC2 ≤ b ∧ b ≤ 0xDF then .inr ⟨[b], 1, 0x80, 0xBF, b - 0xC0⟩
  else if b = 0xE0 then .inr ⟨[b], 2, 0xA0, 0xBF, 0⟩
  else if b = 0xED then .inr ⟨[b], 2, 0x80, 0x9F, 0xD⟩
  else if 0xE1 ≤ b ∧ b ≤ 0xEF then .inr ⟨[b], 2, 0x80, 0xBF, b - 0xE0⟩
  else if b = 0xF0 then .inr ⟨[b], 3, 0x90, 0xBF, 0⟩
  else if 0xF1 ≤ b ∧ b ≤ 0xF3 then .inr ⟨[b], 3, 0x80, 0xBF, b - 0xF0⟩
  else if b = 0xF4 then .inr ⟨[b], 3, 0x80, 0x8F, 4⟩
  else .inl (.bad [b])

def piecesFrom : Option Pending → List Nat → List Piece
  | none, [] => []
  | some p, [] => [.bad p.bytes]
  | none, b :: rest =>
    match start b with
    | .inl piece => piece :: piecesFrom none rest
    | .inr p => piecesFrom (some p) rest
  | some p, b :: rest =>
    if p.low ≤ b ∧ b ≤ p.high then
      let bits := p.bits * 64 + (b - 0x80)
      if p.missing = 1 then .char (Char.ofNat bits) :: piecesFrom none rest
      else piecesFrom (some ⟨p.bytes ++ [b], p.missing - 1, 0x80, 0xBF, bits⟩) rest
    else
      .bad p.bytes ::
        match start b with
        | .inl piece => piece :: piecesFrom none rest
        | .inr next => piecesFrom (some next) rest

def pieces (bytes : List Nat) : List Piece := piecesFrom none bytes

def decode? (bytes : List Nat) : Option Text :=
  (pieces bytes).mapM fun
    | .char c => some c
    | .bad _ => none

/-- Why bytes are no characters: none begins with the first of them, the byte behind them does not go on
    with what they have begun, or nothing at all comes behind them. -/
inductive Defect where
  | startByte
  | continuation
  | shortData
  deriving DecidableEq, Repr

structure Misfit where
  position : Nat
  run : List Nat
  defect : Defect
  deriving DecidableEq, Repr

def beginsChar (b : Nat) : Bool := (start b).isRight

def defectOf (run : List Nat) (rest : List Piece) : Defect :=
  if !run.any beginsChar then .startByte else if rest.isEmpty then .shortData else .continuation

def readPieces (position : Nat) : List Piece → Except Misfit Text
  | [] => .ok []
  | .char c :: rest => (readPieces (position + (encodeChar c).length) rest).map (c :: ·)
  | .bad run :: rest => .error ⟨position, run, defectOf run rest⟩

def read (bytes : List Nat) : Except Misfit Text := readPieces 0 (pieces bytes)

def decodeWith (onBad : List Nat → Text) (bytes : List Nat) : Text :=
  (pieces bytes).flatMap fun
    | .char c => [c]
    | .bad run => onBad run

end SearchBox.Utf8
