import IrcServer.Text

namespace IrcServer

/-! Addresses to listen on, `1.2.3.4:6667` or `[2001:db8::1]:6667`, as they are read and written.

A reader takes what it can from the front of a text and returns the rest. -/

inductive IpAddress where
  | v4 (a b c d : Nat)
  /-- Eight groups of 16 bits, and the number of the interface, 0 for none. -/
  | v6 (groups : List Nat) (scope : Nat)
deriving DecidableEq, Repr

structure SocketAddress where
  ip : IpAddress
  port : Nat
deriving DecidableEq, Repr

namespace SocketAddress

def readChar (expected : Char) : Text → Option Text
  | [] => none
  | c :: rest => if c = expected then some rest else none

def hexValue? (c : Char) : Option Nat :=
  if c.isDigit then some (c.toNat - '0'.toNat)
  else if 'a' ≤ c ∧ c ≤ 'f' then some (c.toNat - 'a'.toNat + 10)
  else if 'A' ≤ c ∧ c ≤ 'F' then some (c.toNat - 'A'.toNat + 10)
  else none

/-- A decimal number below `bound`. -/
def readDecimal (bound : Nat) (text : Text) : Option (Nat × Text) :=
  match Text.digits? (text.takeWhile Char.isDigit) with
  | none => none
  | some value => if value < bound then some (value, text.dropWhile Char.isDigit) else none

/-- A part of a dotted address.  It has no leading zero. -/
def readOctet (text : Text) : Option (Nat × Text) :=
  let digits := text.takeWhile Char.isDigit
  if digits.length > 3 ∨ (digits.head? = some '0' ∧ digits.length > 1) then none
  else readDecimal 256 text

def readV4 (text : Text) : Option ((Nat × Nat × Nat × Nat) × Text) := do
  let (a, text) ← readOctet text
  let (b, text) ← readOctet (← readChar '.' text)
  let (c, text) ← readOctet (← readChar '.' text)
  let (d, text) ← readOctet (← readChar '.' text)
  return ((a, b, c, d), text)

/-- A group of one to four hexadecimal digits. -/
def readGroup (text : Text) : Option (Nat × Text) :=
  let digits := text.takeWhile fun c => (hexValue? c).isSome
  if digits = [] ∨ digits.length > 4 then none
  else
    some ((digits.filterMap hexValue?).foldl (fun value digit => value * 16 + digit) 0,
      text.drop digits.length)

/-- The groups at the front of a text, of which there is `room` for some.  The last two may be
written as a dotted address; the flag tells whether they are. -/
def readGroups : Nat → Bool → Text → List Nat × Bool × Text
  | 0, _, text => ([], false, text)
  | room + 1, isFirst, text =>
      let afterColon := if isFirst then some text else readChar ':' text
      match if room = 0 then none else afterColon.bind readV4 with
      | some ((a, b, c, d), rest) => ([a * 256 + b, c * 256 + d], true, rest)
      | none =>
          match afterColon.bind readGroup with
          | none => ([], false, text)
          | some (group, rest) =>
              let (groups, dotted, rest) := readGroups room false rest
              (group :: groups, dotted, rest)

/-- Eight groups.  Two colons stand for the zeros that are missing, and for one at least. -/
def readV6 (text : Text) : Option (List Nat × Text) := do
  let (front, dotted, text) := readGroups 8 true text
  if front.length = 8 then return (front, text)
  if dotted then none
  let text ← readChar ':' (← readChar ':' text)
  let (back, _, text) := readGroups (7 - front.length) true text
  return (front ++ List.replicate (8 - front.length - back.length) 0 ++ back, text)

/-- The number of an interface, if there is one. -/
def readScope (text : Text) : Nat × Text :=
  match (readChar '%' text).bind (readDecimal UInt32.size) with
  | some (scope, rest) => (scope, rest)
  | none => (0, text)

def readIp (text : Text) : Option (IpAddress × Text) :=
  match readV4 text with
  | some ((a, b, c, d), rest) => some (.v4 a b c d, rest)
  | none => do
      let (groups, text) ← readV6 (← readChar '[' text)
      let (scope, text) := readScope text
      return (.v6 groups scope, ← readChar ']' text)

/-- The address that a text is, all of it. -/
def parse? (text : Text) : Option SocketAddress := do
  let (ip, text) ← readIp text
  let (port, text) ← readDecimal UInt16.size (← readChar ':' text)
  if text = [] then return { ip, port } else none

def showV4 (a b c d : Nat) : Text :=
  Text.ofNat a ++ '.' :: Text.ofNat b ++ '.' :: Text.ofNat c ++ '.' :: Text.ofNat d

def showGroups (groups : List Nat) : Text :=
  [':'].intercalate (groups.map (Nat.toDigits 16))

/-- Start and length of the first of the longest runs of zeros.  `here` is the run that ends at
`index`, and `best` the longest so far. -/
def longestZeros (index : Nat) (here best : Nat × Nat) : List Nat → Nat × Nat
  | [] => best
  | group :: rest =>
      if group = 0 then
        let here := if here.2 = 0 then (index, 1) else (here.1, here.2 + 1)
        longestZeros (index + 1) here (if best.2 < here.2 then here else best) rest
      else longestZeros (index + 1) (0, 0) best rest

/-- The short form of an address of eight groups.  One that stands for a dotted address shows it. -/
def showV6 (groups : List Nat) : Text :=
  match groups with
  | [0, 0, 0, 0, 0, 0xFFFF, high, low] =>
      "::ffff:" ++ showV4 (high / 256) (high % 256) (low / 256) (low % 256)
  | _ =>
      let (start, length) := longestZeros 0 (0, 0) (0, 0) groups
      if length > 1 then
        showGroups (groups.take start) ++ "::" ++ showGroups (groups.drop (start + length))
      else showGroups groups

def display (address : SocketAddress) : Text :=
  let ip := match address.ip with
    | .v4 a b c d => showV4 a b c d
    | .v6 groups scope =>
        '[' :: showV6 groups ++ (if scope = 0 then [] else '%' :: Text.ofNat scope) ++ [']']
  ip ++ ':' :: Text.ofNat address.port

end SocketAddress

end IrcServer
