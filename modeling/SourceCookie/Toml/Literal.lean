import SourceCookie.Toml.Value

/-!
Scalar values as they are written in a settings file: strings in four forms, numbers, truth values,
dates and times.
-/

namespace SourceCookie.Toml

def isPlain (c : Char) : Bool :=
  c == '\t' || (' ' ≤ c && c != '\x7f')

def isSpace (c : Char) : Bool :=
  c == ' ' || c == '\t'

def escaped? : Char → Option Char
  | 'b' => some '\x08'
  | 't' => some '\t'
  | 'n' => some '\n'
  | 'f' => some '\x0c'
  | 'r' => some '\r'
  | '\x22' => some '\x22'
  | '\x5c' => some '\x5c'
  | _ => none

def ofCodePoint? (digits : List Char) : Option Char := do
  let digits ← digits.mapM (Digits.value? 16)
  let n := Digits.toNat 16 digits
  if n.isValidChar then some (Char.ofNat n) else none

def consRead (c : Option Char) (read : Option (List Char × List Char))
    : Option (List Char × List Char) :=
  match c, read with
  | some c, some (text, rest) => some (c :: text, rest)
  | _, _ => none

def readBasic? : List Char → Option (List Char × List Char)
  | '\x22' :: rest => some ([], rest)
  | '\x5c' :: 'u' :: a :: b :: c :: d :: rest =>
    consRead (ofCodePoint? [a, b, c, d]) (readBasic? rest)
  | '\x5c' :: 'U' :: a :: b :: c :: d :: e :: f :: g :: h :: rest =>
    consRead (ofCodePoint? [a, b, c, d, e, f, g, h]) (readBasic? rest)
  | '\x5c' :: c :: rest => consRead (escaped? c) (readBasic? rest)
  | c :: rest => if isPlain c && c != '\x5c' then consRead (some c) (readBasic? rest) else none
  | [] => none

def readLiteral? : List Char → Option (List Char × List Char)
  | '\x27' :: rest => some ([], rest)
  | c :: rest => if isPlain c then consRead (some c) (readLiteral? rest) else none
  | [] => none

inductive Place where
  | inText
  | afterText
  | beforeText
  deriving DecidableEq

/--
Reads a string of several lines from after its opening quotes. Up to two quotes may stand right before
the closing ones. A backslash at the end of a line joins it with the next text.
-/
def readLongBasic? : Place → List Char → Option (List Char × List Char)
  | .afterText, '\n' :: rest | .afterText, '\r' :: '\n' :: rest => readLongBasic? .beforeText rest
  | .afterText, c :: rest => if isSpace c then readLongBasic? .afterText rest else none
  | .beforeText, '\n' :: rest | .beforeText, '\r' :: '\n' :: rest => readLongBasic? .beforeText rest
  | .beforeText, ' ' :: rest | .beforeText, '\t' :: rest => readLongBasic? .beforeText rest
  | _, '\x22' :: '\x22' :: '\x22' :: '\x22' :: '\x22' :: rest => some (['\x22', '\x22'], rest)
  | _, '\x22' :: '\x22' :: '\x22' :: '\x22' :: rest => some (['\x22'], rest)
  | _, '\x22' :: '\x22' :: '\x22' :: rest => some ([], rest)
  | _, '\x22' :: rest => consRead (some '\x22') (readLongBasic? .inText rest)
  | _, '\n' :: rest | _, '\r' :: '\n' :: rest => consRead (some '\n') (readLongBasic? .inText rest)
  | _, '\x5c' :: '\n' :: rest | _, '\x5c' :: '\r' :: '\n' :: rest => readLongBasic? .beforeText rest
  | _, '\x5c' :: ' ' :: rest | _, '\x5c' :: '\t' :: rest => readLongBasic? .afterText rest
  | _, '\x5c' :: 'u' :: a :: b :: c :: d :: rest =>
    consRead (ofCodePoint? [a, b, c, d]) (readLongBasic? .inText rest)
  | _, '\x5c' :: 'U' :: a :: b :: c :: d :: e :: f :: g :: h :: rest =>
    consRead (ofCodePoint? [a, b, c, d, e, f, g, h]) (readLongBasic? .inText rest)
  | _, '\x5c' :: c :: rest => consRead (escaped? c) (readLongBasic? .inText rest)
  | _, c :: rest =>
    if isPlain c && c != '\x5c' then consRead (some c) (readLongBasic? .inText rest) else none
  | _, [] => none

def readLongLiteral? : List Char → Option (List Char × List Char)
  | '\x27' :: '\x27' :: '\x27' :: '\x27' :: '\x27' :: rest => some (['\x27', '\x27'], rest)
  | '\x27' :: '\x27' :: '\x27' :: '\x27' :: rest => some (['\x27'], rest)
  | '\x27' :: '\x27' :: '\x27' :: rest => some ([], rest)
  | '\n' :: rest | '\r' :: '\n' :: rest => consRead (some '\n') (readLongLiteral? rest)
  | c :: rest => if isPlain c then consRead (some c) (readLongLiteral? rest) else none
  | [] => none

def skipFirstNewline : List Char → List Char
  | '\n' :: rest | '\r' :: '\n' :: rest => rest
  | s => s

def readString? : List Char → Option (List Char × List Char)
  | '\x22' :: '\x22' :: '\x22' :: rest => readLongBasic? .inText (skipFirstNewline rest)
  | '\x27' :: '\x27' :: '\x27' :: rest => readLongLiteral? (skipFirstNewline rest)
  | '\x22' :: rest => readBasic? rest
  | '\x27' :: rest => readLiteral? rest
  | _ => none

def digitsTail (base : Nat) : List Char → List Nat × List Char
  | '_' :: c :: rest =>
    match Digits.value? base c with
    | some d => let (ds, after) := digitsTail base rest; (d :: ds, after)
    | none => ([], '_' :: c :: rest)
  | c :: rest =>
    match Digits.value? base c with
    | some d => let (ds, after) := digitsTail base rest; (d :: ds, after)
    | none => ([], c :: rest)
  | [] => ([], [])

def readDigits? (base : Nat) : List Char → Option (List Nat × List Char)
  | c :: rest => do
    let d ← Digits.value? base c
    let (ds, after) := digitsTail base rest
    return (d :: ds, after)
  | [] => none

def readNatural? : List Char → Option (List Nat × List Char)
  | '0' :: rest => some ([0], rest)
  | s => readDigits? 10 s

def readSign : List Char → Bool × List Char
  | '-' :: rest => (true, rest)
  | '+' :: rest => (false, rest)
  | s => (false, s)

def integer? (negative : Bool) (n : Nat) : Option Toml :=
  if negative then if n ≤ Nat.pow 2 63 then some (.integer (-(n : Int))) else none
  else if n < Nat.pow 2 63 then some (.integer n) else none

def readInteger? (s : List Char) : Option (Toml × List Char) := do
  let (negative, base, digits, rest) ← match s with
    | '0' :: 'x' :: rest => (readDigits? 16 rest).map fun (ds, rest) => (false, 16, ds, rest)
    | '0' :: 'o' :: rest => (readDigits? 8 rest).map fun (ds, rest) => (false, 8, ds, rest)
    | '0' :: 'b' :: rest => (readDigits? 2 rest).map fun (ds, rest) => (false, 2, ds, rest)
    | s =>
      let (negative, rest) := readSign s
      (readNatural? rest).map fun (ds, rest) => (negative, 10, ds, rest)
  let n ← integer? negative (Digits.toNat base digits)
  return (n, rest)

def readPower? : List Char → Option (Int × List Char)
  | 'e' :: s | 'E' :: s => do
    let (negative, s) := readSign s
    let (digits, s) ← readDigits? 10 s
    let n : Int := Digits.toNat 10 digits
    return (if negative then -n else n, s)
  | _ => none

def readDecimal? (s : List Char) : Option (Toml × List Char) := do
  let (negative, s) := readSign s
  let (whole, s) ← readNatural? s
  let (fraction, exponent, s) ← match s with
    | '.' :: s => do
      let (fraction, s) ← readDigits? 10 s
      match readPower? s with
      | some (exponent, s) => some (fraction, exponent, s)
      | none => some (fraction, 0, s)
    | s => (readPower? s).map fun (exponent, s) => ([], exponent, s)
  let x := Binary64.ofDecimal negative (Digits.toNat 10 (whole ++ fraction))
    (exponent - fraction.length)
  if x = .infinity false then none else some (.float x, s)

def readNamed? (s : List Char) : Option (Toml × List Char) :=
  match readSign s with
  | (negative, 'i' :: 'n' :: 'f' :: rest) => some (.float (.infinity negative), rest)
  | (_, 'n' :: 'a' :: 'n' :: rest) => some (.float .nan, rest)
  | _ => none

def readScalar? (s : List Char) : Option (Toml × List Char) :=
  match s with
  | 't' :: 'r' :: 'u' :: 'e' :: rest => some (.boolean true, rest)
  | 'f' :: 'a' :: 'l' :: 's' :: 'e' :: rest => some (.boolean false, rest)
  | '\x22' :: _ | '\x27' :: _ =>
    (readString? s).map fun (text, rest) => (.string (String.ofList text), rest)
  | _ =>
    ((readDatetime? s).map fun (d, rest) => (.datetime d, rest))
      <|> readDecimal? s <|> readNamed? s <|> readInteger? s

end SourceCookie.Toml
