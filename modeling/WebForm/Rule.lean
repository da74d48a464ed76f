import WebForm.Text.Split

/-!
# Rules and rule expressions

A field says what it demands of its value in a *rule expression*: rules separated by `|`, each a
name that may carry one argument in brackets, as in `required|inList[a,b,c]`. The argument is the
text between the first `[` and the last `]` of its rule, taken verbatim; whatever stands before and
after the brackets is the name. Brackets that enclose nothing, or that do not pair, are part of the
name.

`Rule.parseAll` reads an expression and `Rule.renderAll` writes one.
-/

namespace WebForm

/-- One rule of an expression. -/
structure Rule where
  /-- Which predicate is asked. -/
  name : String
  /-- What is handed to it beside the value. -/
  argument : Option String
  deriving DecidableEq, Repr

namespace Rule

/-- The name of the rule that exempts its field from validation. -/
def ignoreName : String := "ignore"

/-- The text before, inside and after the brackets of a rule, when they enclose something. -/
def bracketed? (token : List Char) : Option (List Char × List Char × List Char) :=
  match Text.splitFirst '[' token with
  | none => none
  | some (before, rest) =>
    match Text.splitLast ']' rest with
    | none => none
    | some ([], _) => none
    | some (c :: inside, after) => some (before, c :: inside, after)

/-- Read one rule. -/
def parse (token : String) : Rule :=
  match bracketed? token.toList with
  | some (before, inside, after) =>
    ⟨String.ofList (before ++ after), some (String.ofList inside)⟩
  | none => ⟨token, none⟩

/-- Write one rule. -/
def render (rule : Rule) : String :=
  match rule.argument with
  | some argument => rule.name ++ "[" ++ argument ++ "]"
  | none => rule.name

/-- The rule exempts its field from validation. -/
def isIgnore (rule : Rule) : Bool := rule.name == ignoreName

/-- Read an expression: every rule between two bars, from left to right. -/
def parseAll (expression : String) : List Rule :=
  (Text.splitString '|' expression).map parse

/-- Write an expression. -/
def renderAll (rules : List Rule) : String :=
  String.ofList (Text.join '|' (rules.map fun rule => rule.render.toList))

/-- The brackets are the first `[` and the last `]` behind it. -/
theorem bracketed?_eq_some_iff_split {token before inside after : List Char} :
    bracketed? token = some (before, inside, after) ↔
      ∃ rest, Text.splitFirst '[' token = some (before, rest) ∧
        Text.splitLast ']' rest = some (inside, after) ∧ inside ≠ [] := by
  constructor
  · intro h
    unfold bracketed? at h
    split at h
    · simp at h
    · rename_i before' rest hfirst
      split at h
      · simp at h
      · simp at h
      · rename_i c inside' after' hlast
        simp only [Option.some.injEq, Prod.mk.injEq] at h
        obtain ⟨rfl, rfl, rfl⟩ := h
        exact ⟨rest, hfirst, hlast, by simp⟩
  · rintro ⟨rest, hfirst, hlast, hne⟩
    unfold bracketed?
    rw [hfirst]
    simp only
    rw [hlast]
    cases inside with
    | nil => exact absurd rfl hne
    | cons c inside => rfl

/-- The brackets enclose something exactly when the rule is `before[inside]after` with no `[`
before, no `]` after and something inside. -/
theorem bracketed?_eq_some_iff {token before inside after : List Char} :
    bracketed? token = some (before, inside, after) ↔
      token = before ++ '[' :: (inside ++ ']' :: after) ∧ '[' ∉ before ∧ ']' ∉ after ∧
        inside ≠ [] := by
  rw [bracketed?_eq_some_iff_split]
  simp only [Text.splitFirst_eq_some_iff, Text.splitLast_eq_some_iff]
  constructor
  · rintro ⟨rest, ⟨htoken, hbefore⟩, ⟨hrest, hafter⟩, hinside⟩
    exact ⟨by rw [htoken, hrest], hbefore, hafter, hinside⟩
  · rintro ⟨htoken, hbefore, hafter, hinside⟩
    exact ⟨_, ⟨htoken, hbefore⟩, ⟨rfl, hafter⟩, hinside⟩

end Rule

end WebForm
