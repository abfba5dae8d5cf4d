/-
The way of a path from the client to the service.

A client means a list of segments and writes an address: a slash and then a
segment, again and again, with percent escapes for what a segment must not hold.
It reads the address once more before it sends: two slashes at the start
introduce a host, and dot segments are resolved. Some addresses are refused
there. The service reads percent escapes in what arrives and divides the path
anew, so a segment that holds an escaped slash is two segments by then.
-/
import SavingsClub.Text.Utf8

namespace SavingsClub.Http

/-- The segments of a path. -/
abbrev Path := List String

namespace Path

/-- The characters before each one that divides, and after the last of them. -/
def divide (divides : Char → Bool) : List Char → List (List Char)
  | [] => [[]]
  | c :: r =>
    if divides c then [] :: divide divides r
    else
      match divide divides r with
      | s :: rest => (c :: s) :: rest
      | [] => [[c]]

-- ================================================================= the address

/-- The address that a client writes. -/
def address (p : Path) : List Char :=
  '/' :: ['/'].intercalate (p.map Text.percentEncoded)

/-- How many characters an address may have. -/
def longestAddress : Nat := 65536

/-- Whether a host is taken for four numbers, with a character of any kind
between each two. It may be a digit, so a long run of digits can be several
numbers. -/
def isNumeric (host : List Char) : Bool :=
  let runs := divide (!·.isDigit) host
  runs.all (!·.isEmpty) && runs.length ≤ 4
    && 4 ≤ runs.foldl (fun n r => n + (r.length + 1) / 2) 0

/-- Whether characters are a number of eight bits, without zeros at its
start. -/
def isByte (digits : List Char) : Bool :=
  digits.all Char.isDigit &&
    (digits.length = 1 || digits.head?.any (· ≠ '0'))
    && Text.number (digits.map Char.toNat) < 256

/-- Whether four numbers can be a host: they are bytes, and points stand between
them. -/
def isNetworkAddress (host : List Char) : Bool :=
  let parts := divide (· = '.') host
  parts.length = 4 && parts.all isByte

/-- Whether a client sends to the address of a path. It refuses one that is too
long, one that still begins with two slashes where it names an empty host, and
one whose host is four numbers but no network address. -/
def isSendable (p : Path) : Bool :=
  p.address.length ≤ longestAddress &&
    match p with
    | "" :: "" :: "" :: _ :: _ => false
    | "" :: host :: _ =>
      let host := Text.percentEncoded host
      !isNumeric host || isNetworkAddress host
    | _ => true

/-- Hosts in digits, and slashes. -/
example : isSendable ["", "127.0.0.1", "x"] ∧
    ¬isSendable ["", "127.0.0.256", "x"] ∧
    ¬isSendable ["", "1234567"] ∧ isSendable ["", "123456"] ∧
      isSendable ["", "", ""] ∧
    ¬isSendable ["", "", "", ""] ∧ isSendable ["x", "", "", ""] := by
  decide +kernel

-- ================================================================== on the way

/-- Segments with "." left out and ".." taking away the segment before it.
`done` holds the segments kept so far, last first. -/
def resolve (done : Path) : Path → Path
  | [] => done.reverse
  | "." :: r => resolve done r
  | ".." :: r => resolve done.tail r
  | s :: r => resolve (s :: done) r

/-- The segments that are left when a host has been taken off: a path that
begins with two slashes begins with a host, and one that has a host is resolved
by itself. -/
def withoutHost : Path → Path
  | "" :: "" :: r => r
  | "" :: _ :: r => resolve [] r
  | p => p

/-- The segments that the client sends. -/
def sent (p : Path) : Path := resolve [] (p.withoutHost.dropWhile (· = ""))

/-- The path that the service sees. -/
def target (p : Path) : String :=
  Text.percentDecoded ("/" ++ "/".intercalate p.sent)

/-- The segments that the service sees; the path begins with a slash. -/
def segments (p : Path) : List String :=
  (divide (· = '/') (p.target.toList.drop 1)).map String.ofList

end Path

end SavingsClub.Http
