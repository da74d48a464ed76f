/-!
# Punycode

A label with characters beyond ASCII is written in ASCII as its ASCII characters, a hyphen, and a
list of insertions. An insertion says how far to move on a walk that visits every place of the label
for every character number in turn; the distances are written as little-endian numbers with digits
`a` to `z`, `0` to `9`, whose places have the weights of a threshold that adapts to the distances
seen so far.

`encode` and `decode?` go one way and the other.
-/

namespace WebForm.DomainName.Punycode

/-! ## Digits -/

/-- The character of a digit: `a` to `z` for 0 to 25, `0` to `9` for 26 to 35. -/
def digitChar (d : Nat) : Char :=
  if d < 26 then Char.ofNat (0x61 + d) else Char.ofNat (0x30 + (d - 26))

/-- The digit of a character. -/
def digitValue? (c : Char) : Option Nat :=
  let n := c.toNat
  if 0x61 ≤ n ∧ n ≤ 0x7A then some (n - 0x61)
  else if 0x41 ≤ n ∧ n ≤ 0x5A then some (n - 0x41)
  else if 0x30 ≤ n ∧ n ≤ 0x39 then some (n - 0x30 + 26)
  else none

/-- The digits below which a number ends at place `k`: at least 1 and at most 26. -/
def threshold (k bias : Nat) : Nat := max 1 (min 26 (k - bias))

theorem one_le_threshold (k bias : Nat) : 1 ≤ threshold k bias := by
  unfold threshold
  omega

theorem threshold_le (k bias : Nat) : threshold k bias ≤ 26 := by
  unfold threshold
  omega

/-- How often `delta` is divided by 35 until it is at most 455, in steps of 36, and what is left. -/
def adaptLoop (delta k : Nat) : Nat × Nat :=
  if 455 < delta then adaptLoop (delta / 35) (k + 36) else (delta, k)
termination_by delta
decreasing_by omega

/-- The bias for the next distance, after distance `delta` in a label that now has `count`
characters. -/
def adapt (delta count : Nat) (first : Bool) : Nat :=
  let damped := if first then delta / 700 else delta / 2
  let (rest, k) := adaptLoop (damped + damped / count) 0
  k + 36 * rest / (rest + 38)

/-! ## Writing -/

/-- Write a distance. -/
def encodeNumber (bias k q : Nat) : List Char :=
  let t := threshold k bias
  if q < t then [digitChar q]
  else digitChar (t + (q - t) % (36 - t)) :: encodeNumber bias (k + 36) ((q - t) / (36 - t))
termination_by q
decreasing_by
  have h1 := one_le_threshold k bias
  have h2 := Nat.div_le_self (q - threshold k bias) (36 - threshold k bias)
  omega

/-- The walk while it writes: distance since the last insertion, bias, characters placed. -/
structure Walk where
  delta : Nat
  bias : Nat
  placed : Nat

/-- One visit of every place for the character number `n`: places of smaller characters are passed,
characters of this number are inserted. The first insertion of all is damped more. -/
def encodeRound (n basic : Nat) : List Char → Walk → List Char × Walk
  | [], w => ([], w)
  | c :: cs, w =>
    if c.toNat < n then encodeRound n basic cs { w with delta := w.delta + 1 }
    else if c.toNat = n then
      let digits := encodeNumber w.bias 36 w.delta
      let next := { delta := 0, bias := adapt w.delta (w.placed + 1) (w.placed == basic),
                    placed := w.placed + 1 : Walk }
      let (rest, last) := encodeRound n basic cs next
      (digits ++ rest, last)
    else encodeRound n basic cs w

/-- The rounds for character numbers in increasing order; `from` is the number that the walk has
reached. -/
def encodeRounds (label : List Char) (basic : Nat) : List Nat → Nat → Walk → List Char
  | [], _, _ => []
  | n :: ns, reached, w =>
    let start := { w with delta := w.delta + (n - reached) * (w.placed + 1) }
    let (digits, last) := encodeRound n basic label start
    digits ++ encodeRounds label basic ns (n + 1) { last with delta := last.delta + 1 }

/-- Insert into an increasing list without repetition. -/
def insertNumber (n : Nat) : List Nat → List Nat
  | [] => [n]
  | m :: ms => if n < m then n :: m :: ms else if n = m then m :: ms else m :: insertNumber n ms

/-- Write a label: its ASCII characters and a hyphen when it has some, then the insertions. -/
def encode (label : List Char) : List Char :=
  let basic := label.filter fun c => c.toNat < 0x80
  let numbers := (label.filter fun c => 0x80 ≤ c.toNat).foldr
    (fun c ns => insertNumber c.toNat ns) []
  basic ++ (if basic.isEmpty then [] else ['-']) ++
    encodeRounds label basic.length numbers 0x80 ⟨0, 72, basic.length⟩

/-! ## Reading -/

/-- Read a distance and add it to `i`. -/
def decodeNumber? (bias : Nat) : List Char → Nat → Nat → Nat → Option (Nat × List Char)
  | [], _, _, _ => none
  | c :: cs, k, weight, i =>
    match digitValue? c with
    | none => none
    | some d =>
      if d < threshold k bias then some (i + d * weight, cs)
      else decodeNumber? bias cs (k + 36) (weight * (36 - threshold k bias)) (i + d * weight)

theorem length_of_decodeNumber? {bias : Nat} {cs rest : List Char} {k weight i j : Nat}
    (h : decodeNumber? bias cs k weight i = some (j, rest)) : rest.length < cs.length := by
  induction cs generalizing k weight i with
  | nil => simp [decodeNumber?] at h
  | cons c cs ih =>
    unfold decodeNumber? at h
    split at h
    · simp at h
    · split at h
      · simp only [Option.some.injEq, Prod.mk.injEq] at h
        simp [h.2]
      · have := ih h
        simp
        omega

/-- Read the insertions: `built` is the label so far, `n` the character number and `i` the place
that the walk has reached. -/
def decodeRounds? (built : List Char) (bias n i : Nat) (digits : List Char) :
    Option (List Char) :=
  match digits with
  | [] => some built
  | c :: cs =>
    match h : decodeNumber? bias (c :: cs) 36 1 i with
    | none => none
    | some (j, rest) =>
      have := length_of_decodeNumber? h
      let count := built.length + 1
      let n := n + j / count
      let place := j % count
      if n.isValidChar then
        decodeRounds? (built.take place ++ Char.ofNat n :: built.drop place)
          (adapt (j - i) count (i == 0)) n (place + 1) rest
      else none
termination_by digits.length
decreasing_by
  simp only [List.length_cons] at this ⊢
  omega

/-- The ASCII part and the insertions: what stands before and after the last hyphen. A hyphen at the
very front is no separator. -/
def parts (text : List Char) : List Char × List Char :=
  let back := text.reverse
  let digits := back.takeWhile (· != '-')
  match back.dropWhile (· != '-') with
  | [] => ([], text)
  | [_] => ([], text)
  | _ :: basic => (basic.reverse, digits.reverse)

/-- Read a label. -/
def decode? (text : List Char) : Option (List Char) :=
  let (basic, digits) := parts text
  decodeRounds? basic 72 0x80 0 digits

end WebForm.DomainName.Punycode
