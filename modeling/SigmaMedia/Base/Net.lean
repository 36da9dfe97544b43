import SigmaMedia.Base.Text

/-!
# Internet Addresses

Addresses as the standard library has them: octets for an IP address, and a
port on top for a socket address. An IPv6 socket address also carries a flow
label and a scope, which take part in equality and so in every map keyed by
peers.

The textual forms are read the way the standard parser reads them. Each
reader consumes a prefix and hands back what it did not read; a whole text is
accepted only when nothing is left.

## Main definitions

* `IpAddr`, `SocketAddr`: Addresses and peers.
* `readNumber`: Reading one group of digits.
* `readIpv4`: Reading four dotted octets.
* `readGroups`: Reading a run of colon-separated groups.
* `readIpv6`: Reading eight groups, one run of zeros elided.
* `parseIpv4`, `parseIpv6`, `parseIp`: Reading a whole text.
-/

namespace SigmaMedia

namespace Net

open Text

/-- An IP address, by its octets. -/
inductive IpAddr where
  | v4 (octets : ByteArr 4)
  | v6 (octets : ByteArr 16)
  deriving DecidableEq

/-- A peer: an address with a port. -/
inductive SocketAddr where
  | v4 (ip : ByteArr 4) (port : UInt16)
  | v6 (ip : ByteArr 16) (port : UInt16) (flowinfo scopeId : UInt32)
  deriving DecidableEq

/-- The address part of a peer. -/
def SocketAddr.ip : SocketAddr → IpAddr
  | .v4 ip _ => .v4 ip
  | .v6 ip _ _ _ => .v6 ip

/-- The port of a peer. -/
def SocketAddr.port : SocketAddr → UInt16
  | .v4 _ port => port
  | .v6 _ port _ _ => port

/-- One character of a given kind off the front. -/
def readGivenChar (c : Char) : Text → Option Text
  | d :: rest => if d = c then some rest else none
  | [] => none

/-- A group of at most `maxDigits` digits with a value below `limit`. A
    leading zero before further digits is refused unless it is allowed. -/
def readNumber (radix maxDigits limit : Nat) (allowZeroPrefix : Bool) (t : Text) :
    Option (Nat × Text) :=
  let digits := t.takeWhile fun c => (toDigit radix c).isSome
  let value := digits.foldl (fun acc c => acc * radix + (toDigit radix c).getD 0) 0
  if digits = [] ∨ maxDigits < digits.length then none
  else if allowZeroPrefix = false ∧ digits.head? = some '0' ∧ 1 < digits.length then none
  else if value < limit then some (value, t.drop digits.length)
  else none

/-- Four decimal octets between dots. -/
def readIpv4 (t : Text) : Option (ByteArr 4 × Text) := do
  let (a, t) ← readNumber 10 3 256 false t
  let t ← readGivenChar '.' t
  let (b, t) ← readNumber 10 3 256 false t
  let t ← readGivenChar '.' t
  let (c, t) ← readNumber 10 3 256 false t
  let t ← readGivenChar '.' t
  let (d, t) ← readNumber 10 3 256 false t
  some (⟨[UInt8.ofNat a, UInt8.ofNat b, UInt8.ofNat c, UInt8.ofNat d], rfl⟩, t)

/-- The separator before every group but the first. -/
def readSeparator (first : Bool) (t : Text) : Option Text :=
  if first then some t else readGivenChar ':' t

/-- At most `limit` groups of two octets. The last two may be written as a
    dotted IPv4 address, which ends the run. Returns the octets read, whether
    the run ended that way, and what is left. -/
def readGroups (first : Bool) : Nat → Text → Bytes × Bool × Text
  | 0, t => ([], false, t)
  | limit + 1, t =>
      match if 0 < limit then (readSeparator first t).bind readIpv4 else none with
      | some (v4, rest) => (v4.val, true, rest)
      | none =>
          match (readSeparator first t).bind (readNumber 16 4 65536 true) with
          | none => ([], false, t)
          | some (group, rest) =>
              let (octets, v4, rest) := readGroups false limit rest
              (Bytes.be16 (UInt16.ofNat group) ++ octets, v4, rest)

/-- Eight groups, with one `::` standing for a run of zero groups. -/
def readIpv6 (t : Text) : Option (Bytes × Text) :=
  let (head, headV4, rest) := readGroups true 8 t
  if head.length = 16 then some (head, rest)
  else if headV4 then none
  else do
    let rest ← readGivenChar ':' rest
    let rest ← readGivenChar ':' rest
    let (tail, _, rest) := readGroups true (8 - (head.length / 2 + 1)) rest
    some (head ++ List.replicate (16 - head.length - tail.length) 0 ++ tail, rest)

/-- `Ipv4Addr::from_str`. -/
def parseIpv4 (t : Text) : Option (ByteArr 4) :=
  match readIpv4 t with
  | some (octets, []) => if t.length ≤ 15 then some octets else none
  | _ => none

/-- `Ipv6Addr::from_str`. -/
def parseIpv6 (t : Text) : Option (ByteArr 16) :=
  match readIpv6 t with
  | some (octets, []) => if h : octets.length = 16 then some ⟨octets, h⟩ else none
  | _ => none

/-- `IpAddr::from_str`. -/
def parseIp (t : Text) : Option IpAddr :=
  match parseIpv4 t with
  | some octets => some (.v4 octets)
  | none => (parseIpv6 t).map .v6

example : parseIpv4 "127.0.0.1".toList = some ⟨[127, 0, 0, 1], rfl⟩ := by decide +kernel

example : parseIpv4 "127.0.0.01".toList = none := by decide +kernel

example : (parseIpv6 "fe80::1:ab".toList).map Subtype.val
    = some [254, 128, 0, 0, 0, 0, 0, 0, 0, 0, 0, 0, 0, 1, 0, 171] := by decide +kernel

end Net

end SigmaMedia
