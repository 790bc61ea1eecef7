import DeskCalculator.Text.Digits
import DeskCalculator.Text.Parts

namespace DeskCalculator.Web.Target

/-- The part in front of a query or a fragment. -/
def beforeQuery (cs : List Char) : List Char := cs.takeWhile fun c => c != '?' && c != '#'

def isSchemeChar (c : Char) : Bool := c.isAlphanum || c == '+' || c == '-' || c == '.'

/-- A scheme is empty or begins with a letter, and ends before a colon. -/
def splitScheme (cs : List Char) : List Char × List Char :=
  match cs.span isSchemeChar with
  | ([], ':' :: rest) => ([], rest)
  | (c :: scheme, ':' :: rest) => if c.isAlpha then (c :: scheme, rest) else ([], cs)
  | _ => ([], cs)

/-- An authority begins after two slashes and ends before the next one. -/
def splitAuthority : List Char → List Char × List Char
  | '/' :: '/' :: cs => cs.span (· != '/')
  | cs => ([], cs)

/-- Whether an authority says more than where its parts would be. -/
def hasAuthority (authority : List Char) : Bool := authority.any fun c => c != '@' && c != ':'

/-- Whether an authority names a host, which stands after the user and before the port. -/
def hasHost (authority : List Char) : Bool :=
  ((Text.splitAt '@' authority).getLast?.bind List.head?).any (· != ':')

/-- Exactly one slash in front. -/
def rooted (cs : List Char) : List Char := '/' :: cs.dropWhile (· == '/')

/-- The segments so far, the latest first, after one more: a dot stays where it is, and two dots
go back by one, but not past the root. -/
def enterSegment (read : List (List Char)) (segment : List Char) : List (List Char) :=
  if segment = ['.'] then read
  else if segment = ['.', '.'] then if read = [[]] then read else read.tail
  else segment :: read

/-- A path without segments of dots. -/
def resolveDots (cs : List Char) : List Char :=
  match ['/'].intercalate ((Text.splitAt '/' cs).foldl enterSegment []).reverse with
  | [] => ['/']
  | path => path

/-- The character of a byte. The bytes of characters beyond ASCII are not told apart, as no
address has any. -/
def byteChar (b : Nat) : Char := if b < 0x80 then Char.ofNat b else '\ufffd'

/-- A percent sign followed by two hexadecimal digits stands for a byte. -/
def unescape : List Char → List Char
  | '%' :: a :: b :: rest =>
    match Text.hexValue? a, Text.hexValue? b with
    | some high, some low => byteChar (16 * high + low) :: unescape rest
    | _, _ => '%' :: unescape (a :: b :: rest)
  | c :: rest => c :: unescape rest
  | [] => []

/-- One line end at the end of a path is overlooked. -/
def dropLineEnd (cs : List Char) : List Char :=
  if cs.getLast? = some '\n' then cs.dropLast else cs

/-- The path that is sent. A target with a scheme and a host is sent as it is. Any other is put
under the root, and if it has a scheme or an authority, its own dots are resolved before. -/
def sentPath (cs : List Char) : List Char :=
  let (scheme, rest) := splitScheme (beforeQuery cs)
  let (authority, own) := splitAuthority rest
  if !scheme.isEmpty && hasHost authority then resolveDots own
  else if !scheme.isEmpty || hasAuthority authority then resolveDots (rooted (resolveDots own))
  else resolveDots (rooted own)

/-- Escapes are resolved twice, on sending and on receiving. -/
def path (target : String) : String :=
  String.ofList (dropLineEnd (unescape (unescape (sentPath target.toList))))

end DeskCalculator.Web.Target
