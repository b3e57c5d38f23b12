/-!
# Base64

The standard alphabet with padding. Three bytes are four symbols of six bits each; one or two
bytes at the end are two or three symbols and padding up to four. Reading takes exactly what
writing produces: the padding must be there and the bits that the last symbol has left over must
be zero.

Of several faults the one reported is found as follows. A text one longer than a multiple of four
is refused for its last symbol if that is none of the alphabet and no padding. Then the symbols
before the last quartet are looked at from left to right, where padding is not allowed; then the
last one to four places, where padding may stand from the third place on and nothing after it;
then the number of symbols, the padding and the leftover bits. Positions count bytes.
-/

namespace ValueStream.Text.Base64

/-- Why a text is not in the format. -/
inductive DecodeError
  /-- A byte at a position is not allowed there. -/
  | invalidByte (position : Nat) (byte : UInt8)
  /-- The last symbol has bits left over that are not zero. -/
  | invalidLastSymbol (position : Nat) (byte : UInt8)
  /-- So many symbols make no whole number of bytes. -/
  | invalidLength (length : Nat)
  /-- The padding is missing or too long. -/
  | invalidPadding
deriving DecidableEq

/-- What is said of a text that is not in the format. -/
def DecodeError.message : DecodeError → String
  | invalidByte position byte =>
    "Invalid symbol " ++ toString byte.toNat ++ ", offset " ++ toString position ++ "."
  | invalidLastSymbol position byte =>
    "Invalid last symbol " ++ toString byte.toNat ++ ", offset " ++ toString position ++ "."
  | invalidLength length => "Invalid input length: " ++ toString length
  | invalidPadding => "Invalid padding"

/-! ## The alphabet -/

/-- The symbol of six bits, as a byte. -/
def symbol (n : Nat) : UInt8 :=
  if n < 26 then UInt8.ofNat (n + 65)
  else if n < 52 then UInt8.ofNat (n + 71)
  else if n < 62 then UInt8.ofNat (n - 4)
  else if n = 62 then 43
  else 47

/-- The six bits of a symbol, if the byte is one. -/
def symbolValue (b : UInt8) : Option Nat :=
  let n := b.toNat
  if 65 ≤ n ∧ n ≤ 90 then some (n - 65)
  else if 97 ≤ n ∧ n ≤ 122 then some (n - 71)
  else if 48 ≤ n ∧ n ≤ 57 then some (n + 4)
  else if n = 43 then some 62
  else if n = 47 then some 63
  else none

/-- The byte that pads the last quartet. -/
def padding : UInt8 := 61

theorem symbolValue_symbol : ∀ n < 64, symbolValue (symbol n) = some n := by decide +kernel

theorem symbol_ne_padding : ∀ n < 64, symbol n ≠ padding := by decide +kernel

/-! ## Writing -/

/-- The symbols of some bytes, with padding. -/
def encodeBytes : List UInt8 → List UInt8
  | a :: b :: c :: rest =>
    let n := (a.toNat * 256 + b.toNat) * 256 + c.toNat
    symbol (n / 262144) :: symbol (n / 4096 % 64) :: symbol (n / 64 % 64) :: symbol (n % 64) ::
      encodeBytes rest
  | [a, b] =>
    let n := (a.toNat * 256 + b.toNat) * 4
    [symbol (n / 4096), symbol (n / 64 % 64), symbol (n % 64), padding]
  | [a] =>
    let n := a.toNat * 16
    [symbol (n / 64), symbol (n % 64), padding, padding]
  | [] => []

/-- The written form of some bytes. -/
def encode (bytes : List UInt8) : String :=
  String.ofList ((encodeBytes bytes).map fun b ↦ Char.ofNat b.toNat)

/-! ## Reading -/

/-- What the last one to four places hold: the bits of their symbols and the number of paddings
after them. -/
structure Tail where
  /-- The bits, last symbol first. -/
  symbols : List Nat
  /-- The number of paddings. -/
  paddings : Nat
  /-- The last symbol as a byte. -/
  lastByte : UInt8

/-- Reads the last places from a position on. Padding may not stand in the first two places, and
no symbol after padding; the fault is then the first padding. -/
def readTail (start : Nat) : List UInt8 → Tail → Except DecodeError Tail
  | [], tail => .ok tail
  | b :: rest, tail =>
    let place := tail.symbols.length + tail.paddings
    if b = padding then
      if place < 2 then .error (.invalidByte (start + place) b)
      else readTail start rest { tail with paddings := tail.paddings + 1 }
    else if 0 < tail.paddings then
      .error (.invalidByte (start + tail.symbols.length) padding)
    else
      match symbolValue b with
      | none => .error (.invalidByte (start + place) b)
      | some n => readTail start rest { tail with symbols := n :: tail.symbols, lastByte := b }

/-- The bytes of the last places. -/
def decodeTail (start : Nat) (bs : List UInt8) : Except DecodeError (List UInt8) := do
  let tail ← readTail start bs ⟨[], 0, 0⟩
  let count := tail.symbols.length
  if !bs.isEmpty && count < 2 then throw (.invalidLength (start + count))
  if (count + tail.paddings) % 4 ≠ 0 then throw .invalidPadding
  match tail.symbols with
  | [d, c, b, a] =>
    let n := ((a * 64 + b) * 64 + c) * 64 + d
    return [UInt8.ofNat (n / 65536), UInt8.ofNat (n / 256 % 256), UInt8.ofNat (n % 256)]
  | [c, b, a] =>
    let n := (a * 64 + b) * 64 + c
    if n % 4 ≠ 0 then throw (.invalidLastSymbol (start + 2) tail.lastByte)
    return [UInt8.ofNat (n / 1024), UInt8.ofNat (n / 4 % 256)]
  | [b, a] =>
    let n := a * 64 + b
    if n % 16 ≠ 0 then throw (.invalidLastSymbol (start + 1) tail.lastByte)
    return [UInt8.ofNat (n / 16)]
  | _ => return []

/-- The bits of a symbol that is not at the end, where padding is a fault. -/
def readSymbol (position : Nat) (b : UInt8) : Except DecodeError Nat :=
  match symbolValue b with
  | some n => .ok n
  | none => .error (.invalidByte position b)

/-- Reads quartets as long as something follows them, then the last places. -/
def decodeFrom (start : Nat) : List UInt8 → Except DecodeError (List UInt8)
  | a :: b :: c :: d :: e :: rest => do
    let a ← readSymbol start a
    let b ← readSymbol (start + 1) b
    let c ← readSymbol (start + 2) c
    let d ← readSymbol (start + 3) d
    let n := ((a * 64 + b) * 64 + c) * 64 + d
    let bytes ← decodeFrom (start + 4) (e :: rest)
    return UInt8.ofNat (n / 65536) :: UInt8.ofNat (n / 256 % 256) :: UInt8.ofNat (n % 256) :: bytes
  | bs => decodeTail start bs

/-- The bytes of a written form given as bytes. -/
def decodeBytes (bs : List UInt8) : Except DecodeError (List UInt8) :=
  match bs.getLast? with
  | some last =>
    if bs.length % 4 = 1 ∧ last ≠ padding ∧ symbolValue last = none then
      .error (.invalidByte (bs.length - 1) last)
    else decodeFrom 0 bs
  | none => .ok []

/-- Reads bytes from their written form. -/
def decode (s : String) : Except DecodeError (List UInt8) := decodeBytes s.toUTF8.toList

example : encode [0, 1, 2] = "AAEC" := by decide +kernel
example : decodeBytes [65, 65, 69, 67] = .ok [0, 1, 2] := by rfl
example : decodeBytes [65, 65] = .error .invalidPadding := by rfl

end ValueStream.Text.Base64
