/-!
# Listen addresses

An IP address and a port.  IPv4 addresses are four decimal numbers without leading zeros.  IPv6
addresses stand in brackets, as groups of hexadecimal digits of which one run of zeros may be
left out, the last two groups possibly as an IPv4 address, and may name a numeric scope.  An
address is written in its canonical form.
-/

namespace ControlRelay

/-- An IP address. -/
inductive IpAddress where
  | v4 (octets : List Nat)
  /-- Eight groups, and the scope, which is zero for none. -/
  | v6 (groups : List Nat) (scope : Nat)
  deriving DecidableEq, Repr

namespace IpAddress

/-- The value of a digit. -/
def digit? (radix : Nat) (c : Char) : Option Nat :=
  let n := c.toNat
  let value? :=
    if 0x30 ≤ n ∧ n ≤ 0x39 then some (n - 0x30)
    else if 0x61 ≤ n ∧ n ≤ 0x66 then some (n - 0x61 + 10)
    else if 0x41 ≤ n ∧ n ≤ 0x46 then some (n - 0x41 + 10)
    else none
  value?.filter (· < radix)

/-- The number that the digits at the head of `s` stand for, and what follows them. -/
def number? (radix : Nat) (s : List Char) : Option (Nat × Nat × List Char) :=
  match s.takeWhile fun c => (digit? radix c).isSome with
  | [] => none
  | digits =>
    some (digits.foldl (fun n c => n * radix + (digit? radix c).getD 0) 0, digits.length,
      s.drop digits.length)

/-- A decimal number up to 255, without leading zeros. -/
def octet? (s : List Char) : Option (Nat × List Char) :=
  match number? 10 s with
  | some (n, count, rest) =>
    if count ≤ 3 ∧ n ≤ 255 ∧ (s.head? = some '0' → count = 1) then some (n, rest) else none
  | none => none

/-- `count` octets with points between them. -/
def octets? : Nat → List Char → Option (List Nat × List Char)
  | 0, s => some ([], s)
  | count + 1, s => do
    let (n, s) ← octet? s
    if count = 0 then some ([n], s)
    else
      match s with
      | '.' :: s => do
        let (ns, s) ← octets? count s
        some (n :: ns, s)
      | _ => none

/-- Up to four hexadecimal digits. -/
def group? (s : List Char) : Option (Nat × List Char) :=
  match number? 16 s with
  | some (n, count, rest) => if count ≤ 4 then some (n, rest) else none
  | none => none

/-- Skips the colon before every group but the first. -/
def afterColon? (first : Bool) (s : List Char) : Option (List Char) :=
  if first then some s
  else
    match s with
    | ':' :: s => some s
    | _ => none

/-- At most `limit` groups; also tells whether an IPv4 address ended them. -/
def groups (first : Bool) : Nat → List Char → List Nat × Bool × List Char
  | 0, s => ([], false, s)
  | limit + 1, s =>
    match afterColon? first s with
    | none => ([], false, s)
    | some t =>
      match (if limit = 0 then none else octets? 4 t) with
      | some ([a, b, c, d], rest) => ([a * 256 + b, c * 256 + d], true, rest)
      | _ =>
        match group? t with
        | some (g, rest) =>
          let (gs, endsInV4, rest) := groups false limit rest
          (g :: gs, endsInV4, rest)
        | none => ([], false, s)

/-- The eight groups of an IPv6 address. -/
def v6Groups? (s : List Char) : Option (List Nat × List Char) :=
  match groups true 8 s with
  | (head, endsInV4, rest) =>
    if head.length = 8 then some (head, rest)
    else if endsInV4 then none
    else
      match rest with
      | ':' :: ':' :: rest =>
        let (tail, _, rest) := groups true (7 - head.length) rest
        some (head ++ List.replicate (8 - head.length - tail.length) 0 ++ tail, rest)
      | _ => none

/-- The scope after a percent sign, which fits 32 bits. -/
def scope? : List Char → Option (Nat × List Char)
  | '%' :: s =>
    match number? 10 s with
    | some (n, _, rest) => if n < UInt32.size then some (n, rest) else none
    | none => none
  | _ => none

/-- Reads an address; IPv6 addresses are in brackets. -/
def parse? (text : String) : Option IpAddress :=
  match text.toList with
  | '[' :: s =>
    match v6Groups? s with
    | none => none
    | some (gs, s) =>
      let (scope, s) := (scope? s).getD (0, s)
      if s = [']'] then some (v6 gs scope) else none
  | s =>
    match octets? 4 s with
    | some (ns, []) => some (v4 ns)
    | _ => none

/-- A number in lower-case hexadecimal digits. -/
def hexText (n : Nat) : String := String.ofList (Nat.toDigits 16 n)

/-- The text of an IPv4 address. -/
def v4Text (octets : List Nat) : String := ".".intercalate (octets.map toString)

/-- The place and length of the first longest run of zeros among groups that begin at place
`i`. -/
def longestZeros : Nat → List Nat → Nat × Nat
  | _, [] => (0, 0)
  | i, g :: gs =>
    let here := ((g :: gs).takeWhile (· = 0)).length
    let later := longestZeros (i + 1) gs
    if here ≥ later.2 ∧ 0 < here then (i, here) else later

/-- Groups with colons between them. -/
def groupsText (gs : List Nat) : String := ":".intercalate (gs.map hexText)

/-- Eight groups in canonical form: a run of two zeros or more is left out, and an address that
stands for one of IPv4 ends in it. -/
def v6Text (gs : List Nat) : String :=
  match gs with
  | [0, 0, 0, 0, 0, 0xffff, a, b] => "::ffff:" ++ v4Text [a / 256, a % 256, b / 256, b % 256]
  | gs =>
    let (place, length) := longestZeros 0 gs
    if length < 2 then groupsText gs
    else groupsText (gs.take place) ++ "::" ++ groupsText (gs.drop (place + length))

end IpAddress

/-- An address that a listener can be bound to. -/
structure ListenAddress where
  ip : IpAddress
  port : UInt16
  deriving DecidableEq, Repr

namespace ListenAddress

/-- The address as it is shown. -/
def text (a : ListenAddress) : String :=
  (match a.ip with
  | .v4 octets => IpAddress.v4Text octets
  | .v6 groups scope =>
    "[" ++ IpAddress.v6Text groups ++ (if scope = 0 then "" else "%" ++ toString scope) ++ "]")
    ++ ":" ++ toString a.port

end ListenAddress

end ControlRelay
