import PropertyGraph.Text.Numeral

/-!
# Addresses of databases

An address is written as a URL: a scheme, `://`, a host and perhaps a port.  A user, a path, a
query and a fragment may stand in it and do not matter.  An address without a scheme, or
without a host, is read again with `bolt://` before it.
-/

namespace PropertyGraph.Bolt

/-- Where a database is, and how it is spoken to. -/
structure Address where
  scheme : String
  host : String
  port : Option Nat := none
  deriving DecidableEq, Repr

namespace Address

/-- Whether a character may stand in a scheme. -/
def isSchemeChar (c : Char) : Bool := c.isAlphanum || c == '+' || c == '-' || c == '.'

/-- The scheme of a URL in lower case, and what follows its colon. -/
def scheme? (cs : List Char) : Option (String × List Char) :=
  match cs, cs.dropWhile isSchemeChar with
  | c :: _, ':' :: rest =>
    if c.isAlpha then some (String.ofList ((cs.takeWhile isSchemeChar).map Char.toLower), rest)
    else none
  | _, _ => none

/-- Whether a character ends the part of a URL that names a host. -/
def endsAuthority (c : Char) : Bool := c == '/' || c == '?' || c == '#'

/-- Whether a character may not stand in the name of a host. -/
def isForbidden (c : Char) : Bool :=
  "\u0000\t\n\r #/:<>?@[\\]^|".toList.contains c

/-- Whether a text is a group of an IPv6 address: one to four hexadecimal digits. -/
def isGroup (cs : List Char) : Bool :=
  !cs.isEmpty && decide (cs.length ≤ 4) && cs.all fun c => (Text.hexValue? c).isSome

/-- Whether a text is a part of an IPv4 address: a number below 256 without leading zeros. -/
def isOctet (cs : List Char) : Bool :=
  match Text.natural? cs with
  | some n => decide (n < 256) && (cs.head? != some '0' || cs.length == 1)
  | none => false

/-- Whether a text is an IPv4 address. -/
def isIpv4 (cs : List Char) : Bool :=
  let parts := cs.splitOn '.'
  parts.length == 4 && parts.all isOctet

/-- The number of groups that parts of an IPv6 address count for.  Only the last part of an
address may be an IPv4 address, which counts for two. -/
def groupCount? (atEnd : Bool) : List (List Char) → Option Nat
  | [] => some 0
  | [part] =>
    if isGroup part then some 1 else if atEnd && isIpv4 part then some 2 else none
  | part :: rest => if isGroup part then (groupCount? atEnd rest).map (· + 1) else none

/-- The parts of a text between colons; the empty text has none. -/
def parts (cs : List Char) : List (List Char) := if cs.isEmpty then [] else cs.splitOn ':'

/-- What stands before and after the first pair of colons. -/
def atDoubleColon? : List Char → Option (List Char × List Char)
  | [] => none
  | ':' :: ':' :: rest => some ([], rest)
  | c :: rest => (atDoubleColon? rest).map fun (before, after) => (c :: before, after)

/-- Whether a text is an IPv6 address: eight groups, of which a pair of colons may stand for
some. -/
def isIpv6 (cs : List Char) : Bool :=
  match atDoubleColon? cs with
  | none => groupCount? true (parts cs) == some 8
  | some (before, after) =>
    match groupCount? false (parts before), groupCount? true (parts after) with
    | some n, some m => decide (n + m ≤ 7)
    | _, _ => false

/-- Whether a text names a host. -/
def isHost (cs : List Char) : Bool :=
  match cs with
  | '[' :: inside =>
    match inside.reverse with
    | ']' :: address => isIpv6 address.reverse
    | _ => false
  | cs => !cs.any isForbidden

/-- Splits a text at the first colon that is not within brackets. -/
def splitPort (inside : Bool) : List Char → List Char × Option (List Char)
  | [] => ([], none)
  | c :: rest =>
    if c == ':' && !inside then ([], some rest)
    else
      let (host, port) := splitPort (c == '[' || (inside && c != ']')) rest
      (c :: host, port)

/-- The port of an address, which may be left out after its colon. -/
def port? (cs : List Char) : Option (Option Nat) :=
  match cs.takeWhile (· != '\\') with
  | [] => some none
  | digits => (Text.natural? digits).bind fun n => if n < 65536 then some (some n) else none

/-- The user of a URL and what follows: everything up to the last `@`. -/
def splitUser (cs : List Char) : Option (List Char) × List Char :=
  if cs.contains '@' then
    (some ((cs.reverse.dropWhile (· != '@')).drop 1).reverse,
      (cs.reverse.takeWhile (· != '@')).reverse)
  else (none, cs)

/-- The host and the port after `//`.  The host is empty when there is none, which is only
allowed where neither a user nor a port comes with it. -/
def authority? (cs : List Char) : Option (List Char × Option Nat) :=
  let (user, place) := splitUser (cs.takeWhile (!endsAuthority ·))
  let (host, port) := splitPort false place
  let bare := match user with
    | none => true
    | some user => user.isEmpty && (cs.dropWhile (!endsAuthority ·)).isEmpty
  if host.isEmpty then (if port.isNone && bare then some ([], none) else none)
  else if isHost host then
    match port with
    | none => some (host, none)
    | some port => (port? port).map fun p => (host, p)
  else none

/-- Schemes of the web, which lead to no database. -/
def webSchemes : List String := ["http", "https", "ws", "wss", "ftp"]

/-- Whether the URL of a file names no other machine. -/
def isLocalFile (rest : List Char) : Bool :=
  match rest with
  | '/' :: '/' :: rest =>
    let host := String.ofList ((rest.takeWhile (!endsAuthority ·)).map Char.toLower)
    host == "" || host == "localhost"
  | _ => true

/-- What a reader makes of a URL. -/
inductive Reading
  | refused
  | hostless
  | found (address : Address)

/-- Reads a URL. -/
def read (cs : List Char) : Reading :=
  match scheme? cs with
  | none => .hostless
  | some (scheme, rest) =>
    if webSchemes.contains scheme then .refused
    else if scheme == "file" then (if isLocalFile rest then .hostless else .refused)
    else
      match rest with
      | '/' :: '/' :: rest =>
        match authority? rest with
        | none => .refused
        | some ([], _) => .hostless
        | some (host, port) => .found ⟨scheme, String.ofList host, port⟩
      | _ => .hostless

/-- A URL without the blanks and controls around it, and without tabs and line breaks. -/
def strip (s : String) : List Char :=
  let isControl (c : Char) : Bool := decide (c ≤ ' ')
  let cs := s.toList.dropWhile isControl
  (cs.reverse.dropWhile isControl).reverse.filter fun c => c != '\t' && c != '\n' && c != '\r'

/-- The schemes that databases are spoken to in. -/
def schemes : List String := ["bolt", "bolt+s", "bolt+ssc", "neo4j", "neo4j+s", "neo4j+ssc"]

/-- The address that a text denotes. -/
def parse? (s : String) : Option Address :=
  -- What has no host may be a host itself, so it is read once more after a scheme.
  let found := match read (strip s) with
    | .hostless => read (strip ("bolt://" ++ s))
    | reading => reading
  match found with
  | .found address => if schemes.contains address.scheme then some address else none
  | _ => none

end Address
end PropertyGraph.Bolt
