import CodeSense.Fault
import CodeSense.Text.Blank
import CodeSense.Text.Decimal
import CodeSense.Text.Digit

/-!
# Integer arguments

An optional sign and a literal: decimal without leading zeros (unless all digits are
zeros), or hexadecimal, octal or binary after `0x`, `0o` or `0b`. Single underscores may
stand between digits and after the base. Digits of all scripts count as digits.
-/

namespace CodeSense.Integer

/-- Brings digits and blanks of all scripts into ASCII. -/
def toAscii (c : Char) : Char :=
  if c.toNat < 0x80 then c
  else if Text.isBlank c then ' '
  else
    match Text.digitValue? c with
    | some d => Char.ofNat ('0'.toNat + d)
    | none => c

def isSpace (c : Char) : Bool := c == ' ' || (0x09 ≤ c.toNat && c.toNat ≤ 0x0D)

def trim (s : List Char) : List Char :=
  ((s.dropWhile isSpace).reverse.dropWhile isSpace).reverse

def digit? (base : Nat) (c : Char) : Option Nat :=
  let value :=
    if '0' ≤ c ∧ c ≤ '9' then c.toNat - '0'.toNat
    else if 'a' ≤ c ∧ c ≤ 'f' then c.toNat - 'a'.toNat + 10
    else if 'A' ≤ c ∧ c ≤ 'F' then c.toNat - 'A'.toNat + 10
    else base
  if value < base then some value else none

def digits? (base : Nat) : List Char → Option (List Nat)
  | [] => none
  | [c] => (digit? base c).map ([·])
  | c :: '_' :: rest => do return (← digit? base c) :: (← digits? base rest)
  | c :: rest => do return (← digit? base c) :: (← digits? base rest)

def value (base : Nat) (digits : List Nat) : Nat :=
  digits.foldl (fun n d => n * base + d) 0

/-- The digits after a base, which may begin with an underscore. -/
def based? (base : Nat) (s : List Char) : Option Nat :=
  (digits? base (if s.head? = some '_' then s.tail else s)).map (value base)

def decimal? (s : List Char) : Option Nat := do
  let digits ← digits? 10 s
  if digits.length > Text.maxDigits then none
  else if digits.head? = some 0 ∧ value 10 digits ≠ 0 then none
  else return value 10 digits

def literal? : List Char → Option Nat
  | '0' :: 'x' :: rest | '0' :: 'X' :: rest => based? 16 rest
  | '0' :: 'o' :: rest | '0' :: 'O' :: rest => based? 8 rest
  | '0' :: 'b' :: rest | '0' :: 'B' :: rest => based? 2 rest
  | s => decimal? s

def signed? : List Char → Option Int
  | '-' :: rest => (literal? rest).map fun n => -(n : Int)
  | '+' :: rest => (literal? rest).map Int.ofNat
  | s => (literal? s).map Int.ofNat

def parse? (s : String) : Option Int := signed? (trim (s.toList.map toAscii))

/-- Reads an argument that must not be negative. -/
def parseNat (what s : String) : Except Refusal Nat :=
  match parse? s with
  | none => .error (.notInteger what s)
  | some n => if n < 0 then .error (.negative what s) else .ok n.toNat

end CodeSense.Integer
