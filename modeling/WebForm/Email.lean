import WebForm.Text.Character
import WebForm.Text.Split
import WebForm.Text.Utf8
import WebForm.Unicode.Alphanumeric
import WebForm.DomainName

/-!
# Mail addresses

An address is a local part and a domain around exactly one `@`. The domain is brought to its ASCII
form first, or is an address literal in square brackets, which is taken as it is; then the address
with that domain is held to the grammar of RFC 5322, widened by the characters of `isWideChar` and,
outside quotes, by all letters and numbers.

`asciiDomainBy?` and `isValidBy` leave the conversion of names and the grammar open; `asciiDomain?`
and `isValid` take `DomainName.toAscii?` and `isAddress` for them.
-/

namespace WebForm.Email

/-- The two bytes of the character's number have the shape of a two-byte UTF-8 sequence: a lead byte
from C2 to DF and a continuation byte. -/
def isWideChar (c : Char) : Bool :=
  let lead := c.toNat / 0x100
  let tail := c.toNat % 0x100
  0xC2 ≤ lead && lead ≤ 0xDF && 0x80 ≤ tail && tail ≤ 0xBF

/-- The character has a visible ASCII shape. -/
def isVisible (c : Char) : Bool := 0x21 ≤ c.toNat && c.toNat ≤ 0x7E

/-! ## The local part -/

/-- A character of an unquoted word. -/
def isAtomChar (c : Char) : Bool :=
  Unicode.isAlphanumeric c ||
    ['!', '#', '$', '%', '&', '\'', '*', '+', '-', '/', '=', '?', '^', '_', '\x60', '\x7b', '|',
      '\x7d', '~'].contains c || isWideChar c

/-- Words with dots between them, none empty. -/
def isDotAtom (cs : List Char) : Bool :=
  (Text.split '.' cs).all fun word => !word.isEmpty && word.all isAtomChar

/-- A character that may stand between quotes without a backslash, white space apart. -/
def isQuotedTextChar (c : Char) : Bool := (isVisible c && c != '"' && c != '\\') || isWideChar c

/-- What may stand between quotes: text, spaces and tabs, and a backslash before anything
visible. -/
def isQuotedText : List Char → Bool
  | [] => true
  | ['\\'] => false
  | '\\' :: c :: cs => isVisible c && isQuotedText cs
  | c :: cs => (c == ' ' || c == '\t' || isQuotedTextChar c) && isQuotedText cs

/-- The longest local part, in bytes. -/
def maxLocalLength : Nat := 64

/-- A local part: at most 64 bytes, a quoted text that is not empty, or words. -/
def isLocalPart (cs : List Char) : Bool :=
  !cs.isEmpty && (Text.Utf8.encode cs).length ≤ maxLocalLength &&
    (if cs.head? == some '"' && cs.getLast? == some '"' then
      2 < cs.length && isQuotedText (cs.drop 1).dropLast
    else isDotAtom cs)

/-! ## The domain -/

/-- The domain is an address literal: it stands in square brackets. -/
def isLiteral (domain : List Char) : Bool :=
  domain.head? == some '[' && domain.getLast? == some ']'

/-- The ASCII form of a domain by a conversion of names. A literal is its own; there is no
percent-decoding, so a domain with `%` has none. -/
def asciiDomainBy? (toAscii : List Char → Option (List Char)) (domain : List Char) :
    Option (List Char) :=
  if isLiteral domain then some domain
  else if domain.contains '%' then none
  else toAscii domain

/-- The ASCII form of a domain. -/
def asciiDomain? (domain : List Char) : Option (List Char) :=
  asciiDomainBy? DomainName.toAscii? domain

/-- A character between the brackets of a literal. -/
def isLiteralChar (c : Char) : Bool :=
  (isVisible c && c != '[' && c != '\\' && c != ']') || isWideChar c

/-- The longest domain, in bytes. -/
def maxDomainLength : Nat := 254

/-- A domain in ASCII form that an address may have: a literal has to be well-formed, a name is. -/
def isDomainPart (domain : List Char) : Bool :=
  (Text.Utf8.encode domain).length ≤ maxDomainLength &&
    (if isLiteral domain then (domain.drop 1).dropLast.all isLiteralChar else true)

/-! ## The address -/

/-- A space before `<` is how a display name starts, which an address does not have. -/
def hasDisplayName : List Char → Bool
  | ' ' :: '<' :: _ => true
  | _ :: cs => hasDisplayName cs
  | [] => false

/-- The address grammar. The local part goes up to the last `@`. -/
def isAddress (address : List Char) : Bool :=
  match Text.splitLast '@' address with
  | some (localPart, domain) =>
    !hasDisplayName address && isLocalPart localPart && isDomainPart domain
  | none => false

/-- The value is split at one `@`, its domain has an ASCII form by the conversion, and the whole
address with that domain passes the check. -/
def isValidBy (toAscii : List Char → Option (List Char)) (check : List Char → Bool)
    (value : String) : Bool :=
  match Text.split '@' value.toList with
  | [user, domain] =>
    match asciiDomainBy? toAscii domain with
    | some ascii => check (user ++ '@' :: ascii)
    | none => false
  | _ => false

/-- The value is a mail address. -/
def isValid (value : String) : Bool := isValidBy DomainName.toAscii? isAddress value

end WebForm.Email
