/-!
# Classes of characters

The white space of submitted text is Unicode's: the 25 characters with the property White_Space. A
value is blank when it holds nothing else; trimming removes it from both ends.

Hexadecimal digits are read in either case and written in lower case.
-/

namespace WebForm.Text

/-- The character has the Unicode property White_Space. -/
def isBlankChar (c : Char) : Bool :=
  let n := c.toNat
  (0x09 ≤ n && n ≤ 0x0D) || n == 0x20 || n == 0x85 || n == 0xA0 || n == 0x1680 ||
    (0x2000 ≤ n && n ≤ 0x200A) || n == 0x2028 || n == 0x2029 || n == 0x202F || n == 0x205F ||
    n == 0x3000

/-- The character is a control: category Cc, the two ranges below U+0020 and from U+007F to
U+009F. -/
def isControl (c : Char) : Bool :=
  c.toNat < 0x20 || (0x7F ≤ c.toNat && c.toNat ≤ 0x9F)

/-- Nothing but white space. -/
def isBlank (s : String) : Bool := s.toList.all isBlankChar

/-- Without the white space at the front. -/
def trimLeft (cs : List Char) : List Char := cs.dropWhile isBlankChar

/-- Without the characters at the end that satisfy `p`. -/
def dropEndWhile (p : Char → Bool) (cs : List Char) : List Char :=
  (cs.reverse.dropWhile p).reverse

/-- Without the white space on either side. -/
def trim (cs : List Char) : List Char := dropEndWhile isBlankChar (trimLeft cs)

end WebForm.Text

namespace WebForm.Text.Hexadecimal

/-- The value of a digit. -/
def digit? (c : Char) : Option Nat :=
  if c.isDigit then some (c.toNat - '0'.toNat)
  else if 'a' ≤ c ∧ c ≤ 'f' then some (c.toNat - 'a'.toNat + 10)
  else if 'A' ≤ c ∧ c ≤ 'F' then some (c.toNat - 'A'.toNat + 10)
  else none

theorem digit?_lt {c : Char} {n : Nat} (h : digit? c = some n) : n < 16 := by
  unfold digit? at h
  split at h
  · rename_i hdigit
    have : c.toNat ≤ 57 := of_decide_eq_true (Bool.and_eq_true_iff.mp hdigit).2
    have : c.toNat - 48 = n := Option.some.inj h
    omega
  split at h
  · rename_i hlower
    have : c.toNat ≤ 102 := hlower.2
    have : c.toNat - 97 + 10 = n := Option.some.inj h
    omega
  split at h
  · rename_i hupper
    have : c.toNat ≤ 70 := hupper.2
    have : c.toNat - 65 + 10 = n := Option.some.inj h
    omega
  · exact absurd h (by simp)

/-- The number that digits denote. -/
def number? (digits : List Char) : Option Nat :=
  digits.foldlM (fun n c => (digit? c).map (n * 16 + ·)) 0

/-- The digit of a number below 16. -/
def digitChar (n : Nat) : Char := if n < 10 then Char.ofNat (n + 0x30) else Char.ofNat (n + 0x57)

theorem digit?_digitChar {n : Nat} (h : n < 16) : digit? (digitChar n) = some n := by
  revert n
  decide

end WebForm.Text.Hexadecimal
