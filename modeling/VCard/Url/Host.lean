import VCard.Text.Literal
/-! The authority of a URL: IP addresses, and what an authority may not hold.

An IPv4 address is four decimal octets separated by dots, each of one to three
ASCII digits, without a leading zero and at most 255. An IPv6 address is eight
hex groups of one to four digits separated by colons, where one `::` may stand
for one or more groups of zeros, the last two groups may be written as an IPv4
address, and a zone (`%` and a name) may follow.

An authority is refused when it holds `[` without `]` or the other way round,
when text stands before its `[` or after its `]` (other than a port), when the
host between the brackets is no IPv6 address (or an `IPvFuture` address,
`v` hex digits `.` text), and when, not being ASCII, it holds a character whose
compatibility form has one of `/`, `?`, `#`, `@` or `:` in it, which would
split it differently once normalized. -/
namespace VCard.Url

/-- The value of ASCII digits in a base. -/
def digitsValue (base : Nat) (ds : List Char) : Nat :=
  ds.foldl (fun acc d =>
    acc * base + (if d.isDigit then d.toNat - 48 else if d ≤ 'F' then d.toNat - 55 else d.toNat - 87)) 0

/-- An octet of an IPv4 address. -/
def octet? (s : List Char) : Option Nat :=
  if s.isEmpty || !s.all Char.isDigit || s.length > 3 || (s.length > 1 && s.head? == some '0') then none
  else
    let v := digitsValue 10 s
    if v > 255 then none else some v

/-- The value of an IPv4 address. -/
def ipv4? (s : List Char) : Option Nat :=
  let parts := s.splitOn '.'
  if parts.length != 4 then none
  else (parts.mapM octet?).map fun os => os.foldl (fun acc o => acc * 256 + o) 0

def isHexDigit (c : Char) : Bool := c.isDigit || ('a' ≤ c && c ≤ 'f') || ('A' ≤ c && c ≤ 'F')

/-- Whether a group of an IPv6 address is one to four hex digits. -/
def isHextet (s : List Char) : Bool := !s.isEmpty && s.length ≤ 4 && s.all isHexDigit

/-- The groups of an IPv6 address, its last part written as IPv4 turned into two
groups; none when that part is no IPv4 address. -/
def ipv6Groups (parts : List (List Char)) : Option (List (List Char)) :=
  match parts.getLast? with
  | some last =>
    if !last.contains '.' then some parts
    else (ipv4? last).map fun v =>
      parts.dropLast ++ [Nat.toDigits 16 (v / 65536), Nat.toDigits 16 (v % 65536)]
  | none => some parts

/-- Whether a text is an IPv6 address. -/
def isIpv6 (s : List Char) : Bool :=
  if s.contains '/' then false
  else
    let (addr, zoneOk) := match s.findIdx? (· == '%') with
      | some i => (s.take i, !(s.drop (i + 1)).isEmpty && !(s.drop (i + 1)).contains '%')
      | none => (s, true)
    if !zoneOk || addr.isEmpty then false
    else
      let parts := addr.splitOn ':'
      if parts.length < 3 then false
      else match ipv6Groups parts with
        | none => false
        | some parts =>
          let n := parts.length
          if n > 9 then false
          else
            let inner := ((List.range n).filter fun i => 0 < i && i + 1 < n && (parts.getD i []).isEmpty)
            match inner with
            | [] =>
              n == 8 && parts.all isHextet
            | [k] =>
              let hi := if (parts.getD 0 []).isEmpty then k - 1 else k
              let lo := if (parts.getD (n - 1) []).isEmpty then n - k - 2 else n - k - 1
              let hiOk := !(parts.getD 0 []).isEmpty || k == 1
              let loOk := !(parts.getD (n - 1) []).isEmpty || k + 2 == n
              hiOk && loOk && hi + lo < 8 &&
                ((parts.take k).drop (k - hi)).all isHextet && (parts.drop (n - lo)).all isHextet
            | _ => false

/-- What is wrong with the host between the brackets of an authority, if anything. -/
def bracketedHostFault (h : List Char) : Option String :=
  match h with
  | 'v' :: rest =>
    let hex := rest.takeWhile isHexDigit
    match rest.drop hex.length with
    | '.' :: more => if !hex.isEmpty && !more.isEmpty then none else some "IPvFuture address is invalid"
    | _ => some "IPvFuture address is invalid"
  | _ =>
    if (ipv4? h).isSome then some "An IPv4 address cannot be in brackets"
    else if isIpv6 h then none
    else some (Text.quote (String.ofList h) ++ " does not appear to be an IPv4 or IPv6 address")

/-- Cuts a text at the first occurrence of a character, if it occurs. -/
def cutAt (c : Char) (cs : List Char) : Option (List Char × List Char) :=
  (cs.findIdx? (· == c)).map fun i => (cs.take i, cs.drop (i + 1))

/-- What is wrong with the brackets of an authority that has both. -/
def bracketFault (netloc : List Char) : Option String :=
  let hostPort := match (netloc.reverse.findIdx? (· == '@')) with
    | some j => netloc.drop (netloc.length - j)
    | none => netloc
  match cutAt '[' hostPort with
  | some (before, bracketed) =>
    if !before.isEmpty then some "Invalid IPv6 URL"
    else
      let (host, port) := (cutAt ']' bracketed).getD (bracketed, [])
      if !port.isEmpty && port.head? != some ':' then some "Invalid IPv6 URL"
      else bracketedHostFault host
  | none => bracketedHostFault (hostPort.takeWhile (· != ':'))

/-- Characters whose compatibility form holds `/`, `?`, `#`, `@` or `:`. -/
def splittingCompatibles : List Nat :=
  [0x2047, 0x2048, 0x2049, 0x2100, 0x2101, 0x2105, 0x2106, 0x2A74, 0xFE13, 0xFE16, 0xFE55, 0xFE56,
   0xFE5F, 0xFE6B, 0xFF03, 0xFF0F, 0xFF1A, 0xFF1F, 0xFF20]

/-- Why an authority is refused, if it is. -/
def authorityFault (netloc : String) : Option String :=
  let cs := netloc.toList
  let hasOpen := cs.contains '['
  let hasClose := cs.contains ']'
  if hasOpen != hasClose then some "Invalid IPv6 URL"
  else match (if hasOpen then bracketFault cs else none) with
    | some why => some why
    | none =>
      if cs.all (·.toNat < 128) then none
      else if cs.any (fun c => c != '@' && c != ':' && c != '#' && c != '?' && splittingCompatibles.contains c.toNat)
        then some ("netloc '" ++ netloc ++ "' contains invalid characters under NFKC normalization")
      else none

example : authorityFault "" = none := by decide

end VCard.Url
