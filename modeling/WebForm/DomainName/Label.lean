import WebForm.Unicode.NameMapping
import WebForm.Unicode.Joining
import WebForm.Unicode.Bidi
import WebForm.DomainName.Normal
import WebForm.DomainName.Punycode

/-!
# Labels of a domain name

A label is the text between two dots. `isValid` holds the rules that every label has to meet once it
is mapped and decoded: its characters are allowed and composed, its hyphens are in place, it does
not start with a combining mark, and zero-width joiners stand only where they change how the letters
join. Names with a character that runs from right to left meet `runsTogether` as well.
-/

namespace WebForm.DomainName

open Unicode

/-- The letters of a host name: small letters, digits and the hyphen. -/
def isHostChar (c : Char) : Bool := c.isLower || c.isDigit || c == '-'

/-- The character stands for itself in a name. -/
def isNameChar (c : Char) : Bool :=
  if c.toNat < 0x80 then isHostChar c else validNameChars.contains c

/-! ## Hyphens and marks -/

/-- No hyphen at either end, and not in both the third and the fourth place. -/
def hyphensInPlace (label : List Char) : Bool :=
  label.head? != some '-' && label.getLast? != some '-' &&
    !(label[2]? == some '-' && label[3]? == some '-')

/-- The label starts with a combining mark. -/
def startsWithMark (label : List Char) : Bool :=
  match label with
  | [] => false
  | c :: _ => marks.contains c

/-! ## Joiners -/

/-- The zero-width non-joiner. -/
def nonJoiner : Char := '\u200c'

/-- The zero-width joiner. -/
def joiner : Char := '\u200d'

/-- The first character that is not transparent to joining satisfies `p`. -/
def joinsNext (p : Joining → Bool) (cs : List Char) : Bool :=
  match cs.dropWhile (fun c => Joining.of c == .transparent) with
  | [] => false
  | c :: _ => p (Joining.of c)

/-- A joiner after `before` (last character first) and in front of `after` is meaningful: it follows
a virama, which has combining class 9, or it keeps two letters apart that would join. -/
def joinerInPlace (c : Char) (before after : List Char) : Bool :=
  (match before with
    | [] => false
    | b :: _ => combiningClass b == 9) ||
  (c == nonJoiner && joinsNext (fun j => j == .left || j == .dual) before &&
    joinsNext (fun j => j == .right || j == .dual) after)

/-- Every joiner is meaningful. `before` is what has been read, last character first. -/
def joinersInPlace (before : List Char) : List Char → Bool
  | [] => true
  | c :: cs =>
    (if c == nonJoiner || c == joiner then joinerInPlace c before cs else true) &&
      joinersInPlace (c :: before) cs

/-! ## The rules together -/

/-- A label in its final form, before it is written in ASCII. -/
def isValid (label : List Char) : Bool :=
  !label.isEmpty && label.all isNameChar && compose label == label && hyphensInPlace label &&
    !startsWithMark label && joinersInPlace [] label

/-! ## Direction -/

/-- The character makes its name bidirectional. -/
def runsLeftward (c : Char) : Bool :=
  match Bidi.of c with
  | .r | .al | .an => true
  | _ => false

/-- Classes that may stand in a label that starts from right to left. -/
def allowedLeftward : Bidi → Bool
  | .r | .al | .an | .en | .es | .cs | .et | .on | .bn | .nsm => true
  | .l => false

/-- Classes that may end such a label. -/
def endsLeftward : Bidi → Bool
  | .r | .al | .en | .an => true
  | _ => false

/-- Classes that may stand in a label that starts from left to right. -/
def allowedRightward : Bidi → Bool
  | .l | .en | .es | .cs | .et | .on | .bn | .nsm => true
  | _ => false

/-- Classes that may end such a label. -/
def endsRightward : Bidi → Bool
  | .l | .en => true
  | _ => false

/-- The label reads in one direction: its first character decides which, and the last one that is
not a mark on another closes it. European and Arabic digits do not meet in a leftward label. -/
def runsTogether (label : List Char) : Bool :=
  let classes := label.map Bidi.of
  let last := ((classes.reverse.dropWhile (· == .nsm)).head?)
  match classes with
  | [] => true
  | first :: _ =>
    match first with
    | .r | .al =>
      classes.all allowedLeftward && last.all endsLeftward &&
        !(classes.contains .en && classes.contains .an)
    | .l => classes.all allowedRightward && last.all endsRightward
    | _ => false

end WebForm.DomainName
