import IncrementalGlr.Json.Basic

/-!
JSON numbers. An integer that fits 64 bits is read exactly. Any other number is only checked to be
representable in double precision: its leading digits, as many as fit 64 bits, times its power of
ten must not round to infinity.
-/
namespace IncrementalGlr.Json

/-- Whether the character is a decimal digit. -/
def isDigit (c : Char) : Bool := '0' ≤ c && c ≤ '9'

def digitValue (c : Char) : Nat := c.toNat - '0'.toNat

/-- Appends decimal digits to `n` as long as the result stays below 2^64; the second part counts
the digits left over. -/
def appendDigits (n : Nat) : List Char → Nat × Nat
  | [] => (n, 0)
  | c :: rest =>
    let m := n * 10 + digitValue c
    if m < Nat.pow 2 64 then appendDigits m rest else (n, rest.length + 1)

/-- `n` rounded to 53 significant bits, a tie going to the even neighbour. -/
def roundToDouble (n : Nat) : Nat :=
  let shift := n.log2 + 1 - 53
  let unit := Nat.pow 2 shift
  let q := n / unit
  let r := n % unit
  if 2 * r < unit || (2 * r = unit && q % 2 = 0) then q * unit else (q + 1) * unit

/-- Whether `significand` times ten to the `exponent` is beyond the largest double. -/
def overflowsDouble (significand : Nat) (exponent : Int) : Bool :=
  significand != 0 && (308 < exponent ||
    (0 ≤ exponent &&
      Nat.pow 2 1024 ≤
        roundToDouble (roundToDouble significand * roundToDouble (Nat.pow 10 exponent.toNat))))

/-- A number and the characters after it. With `strict` the value must be representable; without
it only the form is checked, and a number that breaks off is malformed. -/
def readNumber (strict : Bool) (text : List Char) : Except Problem (Value × List Char) :=
  match text with
  | '-' :: rest => unsigned true rest
  | _ => unsigned false text
where
  /-- What a text that ends inside the number is. -/
  cut (rest : List Char) : Problem :=
    if strict && rest.isEmpty then .truncated else .malformed
  /-- The digits before the point. -/
  unsigned (negative : Bool) (text : List Char) : Except Problem (Value × List Char) :=
    let digits := text.takeWhile isDigit
    let rest := text.dropWhile isDigit
    match digits with
    | [] => .error (cut rest)
    | '0' :: _ :: _ => .error .malformed
    | _ =>
      let (n, left) := appendDigits 0 digits
      match rest with
      | '.' :: rest => fraction n left rest
      | 'e' :: rest => exponent n left rest
      | 'E' :: rest => exponent n left rest
      | _ =>
        if left ≠ 0 then real n left rest
        else if !negative then .ok (.integer n, rest)
        else if n = 0 ∨ Nat.pow 2 63 < n then .ok (.real, rest)
        else .ok (.integer (-(n : Int)), rest)
  /-- The digits after the point. -/
  fraction (n : Nat) (scale : Int) (text : List Char) : Except Problem (Value × List Char) :=
    let digits := text.takeWhile isDigit
    let rest := text.dropWhile isDigit
    if digits.isEmpty then .error (cut rest)
    else
      let (m, left) := appendDigits n digits
      let scale := scale - ((digits.length - left : Nat) : Int)
      match rest with
      | 'e' :: rest => exponent m scale rest
      | 'E' :: rest => exponent m scale rest
      | _ => real m scale rest
  /-- The power of ten. -/
  exponent (n : Nat) (scale : Int) (text : List Char) : Except Problem (Value × List Char) :=
    match text with
    | '+' :: rest => power n scale 1 rest
    | '-' :: rest => power n scale (-1) rest
    | _ => power n scale 1 text
  power (n : Nat) (scale sign : Int) (text : List Char) : Except Problem (Value × List Char) :=
    let digits := text.takeWhile isDigit
    let rest := text.dropWhile isDigit
    if digits.isEmpty then .error (cut rest)
    else real n (scale + sign * (digits.foldl (fun e c => e * 10 + digitValue c) 0 : Nat)) rest
  /-- A number that is no integer of 64 bits. -/
  real (n : Nat) (scale : Int) (rest : List Char) : Except Problem (Value × List Char) :=
    if strict && overflowsDouble n scale then .error .malformed else .ok (.real, rest)

end IncrementalGlr.Json
