import WebForm.Text.Split
import WebForm.DomainName.Label

/-!
# Domain names in ASCII

An internationalized domain name is brought to the form in which it is looked up: its characters are
mapped (case, width, compatibility forms), composed, and every label that is not ASCII is written in
Punycode behind `xn--`. A label that is already written so is decoded and checked, and kept. A name
that breaks a rule has no ASCII form. The rules are those of UTS #46, without transitional
processing, with host-name letters only, hyphens and lengths checked.
-/

namespace WebForm.DomainName

open Unicode

/-- What a name says in place of a character: nothing, itself, or other characters. `none` when the
character may not stand in a name. -/
def mapChar? (c : Char) : Option (List Char) :=
  if c.toNat < 0x80 then some [c.toLower]
  else if validNameChars.contains c then some [c]
  else if ignoredNameChars.contains c then some []
  else match mappedNameChars.find? c.toNat with
  | some r =>
    match r.value with
    | [n] => some [Char.ofNat (n + (c.toNat - r.first))]
    | values => some (values.map Char.ofNat)
  | none => none

/-- Map every character and compose the result. -/
def mapName? (name : List Char) : Option (List Char) :=
  (name.mapM mapChar?).map fun parts => compose parts.flatten

/-- What marks a label that is written in Punycode. -/
def marker : List Char := ['x', 'n', '-', '-']

/-- The text after the marker, when the label has one. -/
def marked? (label : List Char) : Option (List Char) :=
  match label with
  | 'x' :: 'n' :: '-' :: '-' :: rest => some rest
  | _ => none

/-- A mapped label: its final form and how it is written in ASCII. -/
structure Label where
  text : List Char
  ascii : List Char

/-- Check a mapped label. One that is marked is decoded; it must be ASCII, must not end with a
hyphen, and must decode to a valid label. Any other must be valid as it is. -/
def label? (label : List Char) : Option Label :=
  match marked? label with
  | some rest =>
    if label.all isHostChar && rest.getLast? != some '-' then
      match Punycode.decode? rest with
      | some text => if isValid text && !text.all isHostChar then some ⟨text, label⟩ else none
      | none => none
    else none
  | none =>
    if isValid label then
      some ⟨label, if label.all isHostChar then label else marker ++ Punycode.encode label⟩
    else none

/-- A label of a name has at least one and at most 63 characters. -/
def hasLabelLength (ascii : List Char) : Bool := 1 ≤ ascii.length && ascii.length ≤ 63

/-- The longest name. -/
def maxLength : Nat := 253

/-- The ASCII form of a name. -/
def toAscii? (name : List Char) : Option (List Char) := do
  let mapped ← mapName? name
  let labels ← (Text.split '.' mapped).mapM label?
  let ascii := Text.join '.' (labels.map (·.ascii))
  let directed := !(labels.any fun l => l.text.any runsLeftward) ||
    labels.all fun l => runsTogether l.text
  if directed && (labels.all fun l => hasLabelLength l.ascii) && ascii.length ≤ maxLength then
    some ascii
  else none

end WebForm.DomainName
