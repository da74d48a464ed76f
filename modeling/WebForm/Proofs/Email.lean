import WebForm.Rule.Builtin
import WebForm.Proofs.DomainName.AsciiForm

/-!
# Mail addresses in ASCII form

A mail address is judged by its local part and the ASCII form of its domain. An ASCII form is its
own, so an address can be kept with its domain in ASCII form, and is judged as before.

This rests on little of the conversion of names and on nothing of the grammar of addresses, so it is
shown for any of them first, and then for those of the library.

* `address` puts a local part and a domain around an `@`.
* `SettlesNames` is what a conversion of names has to do: its results are free of the characters that
  mean something in an address, and are their own results.

Results:
* `isValidBy_address`: an address is valid by its local part and the ASCII form of its domain.
* `SettlesNames.isValidBy_asciiDomain`: an address as it is written and with its domain in ASCII form,
  for any conversion that settles names and any check of the whole address.
* `settlesNames_toAscii?`: the conversion of the library settles names.
* `isValid_congr`: domains with the same ASCII form are judged alike.
* `Builtin.accepts_validEmail_asciiDomain`: the rule for mail addresses.
-/

namespace WebForm.Email

/-- The address of a local part and a domain. -/
def address (user domain : List Char) : String := String.ofList (user ++ '@' :: domain)

@[simp] theorem toList_address (user domain : List Char) :
    (address user domain).toList = user ++ '@' :: domain :=
  String.toList_ofList

/-- A conversion of names settles them: what it gives has none of `@`, `%` and the square brackets,
and is what it gives for that text again. -/
structure SettlesNames (toAscii : List Char → Option (List Char)) : Prop where
  plain : ∀ name ascii, toAscii name = some ascii → ∀ c ∈ ['@', '%', '[', ']'], c ∉ ascii
  self : ∀ name ascii, toAscii name = some ascii → toAscii ascii = some ascii

/-! ## Any conversion and any check -/

section Any

variable {toAscii : List Char → Option (List Char)} {check : List Char → Bool}
variable {user domain ascii : List Char}

/-- A literal is taken as it is; any other domain is converted. -/
theorem asciiDomainBy?_cases (h : asciiDomainBy? toAscii domain = some ascii) :
    (isLiteral domain = true ∧ ascii = domain) ∨ toAscii domain = some ascii := by
  by_cases hliteral : isLiteral domain = true
  · rw [asciiDomainBy?, if_pos hliteral, Option.some.injEq] at h
    exact Or.inl ⟨hliteral, h.symm⟩
  · rw [asciiDomainBy?, if_neg hliteral, Option.ite_none_left_eq_some] at h
    exact Or.inr h.2

/-- **Text that does not have exactly one `@` is no address.** -/
theorem isValidBy_of_count_ne_one {value : String} (h : value.toList.count '@' ≠ 1) :
    isValidBy toAscii check value = false := by
  have hlength := Text.length_split '@' value.toList
  unfold isValidBy
  split
  · rename_i heq
    rw [heq] at hlength
    exact absurd (Nat.succ.inj hlength).symm h
  · rfl

/-- **An address is valid by its local part and the ASCII form of its domain.** -/
theorem isValidBy_address : isValidBy toAscii check (address user domain) =
    (decide ('@' ∉ user ∧ '@' ∉ domain) &&
      (asciiDomainBy? toAscii domain).any fun ascii => check (user ++ '@' :: ascii)) := by
  by_cases hat : '@' ∉ user ∧ '@' ∉ domain
  · rw [isValidBy, toList_address, Text.split_append_cons hat.1, Text.split_of_not_mem hat.2,
      decide_eq_true hat, Bool.true_and]
    simp only
    cases asciiDomainBy? toAscii domain with
    | none => rfl
    | some ascii => rfl
  · have hcount : (address user domain).toList.count '@' ≠ 1 := by
      have hpos : 0 < user.count '@' ∨ 0 < domain.count '@' := by
        by_contra hzero
        simp only [List.count_pos_iff, not_or] at hzero
        exact hat hzero
      rw [toList_address, List.count_append, List.count_cons_self]
      omega
    rw [isValidBy_of_count_ne_one hcount, decide_eq_false hat, Bool.false_and]

/-- Domains without `@` that have the same ASCII form, or both none, are judged alike. -/
theorem isValidBy_congr {other : List Char} (hdomain : '@' ∉ domain) (hother : '@' ∉ other)
    (h : asciiDomainBy? toAscii other = asciiDomainBy? toAscii domain) :
    isValidBy toAscii check (address user other) =
      isValidBy toAscii check (address user domain) := by
  rw [isValidBy_address, isValidBy_address, h]
  simp only [hdomain, hother]

namespace SettlesNames

/-- The ASCII form of a domain is its own. -/
theorem asciiDomainBy?_self (hs : SettlesNames toAscii)
    (h : asciiDomainBy? toAscii domain = some ascii) :
    asciiDomainBy? toAscii ascii = some ascii := by
  rcases asciiDomainBy?_cases h with ⟨-, rfl⟩ | hname
  · exact h
  · have hliteral : isLiteral ascii = false := by
      have hmem : '[' ∉ ascii := hs.plain _ _ hname '[' (by decide)
      rw [isLiteral, Bool.and_eq_false_imp, beq_iff_eq]
      exact fun hhead => absurd (List.mem_of_head? hhead) hmem
    have hpercent : ascii.contains '%' = false := by
      rw [List.contains_eq_mem, decide_eq_false_iff_not]
      exact hs.plain _ _ hname '%' (by decide)
    rw [asciiDomainBy?, hliteral, hpercent]
    exact hs.self _ _ hname

/-- No `@` comes into a domain with its ASCII form. -/
theorem at_not_mem (hs : SettlesNames toAscii) (h : asciiDomainBy? toAscii domain = some ascii)
    (hat : '@' ∉ domain) : '@' ∉ ascii := by
  rcases asciiDomainBy?_cases h with ⟨-, rfl⟩ | hname
  · exact hat
  · exact hs.plain _ _ hname '@' (by decide)

/-- **An address is judged like the one with its domain in ASCII form**, by any conversion that
settles names and any check of the whole address. A value without exactly one `@` is not valid, nor
is one with a domain that has no ASCII form. -/
theorem isValidBy_asciiDomain (hs : SettlesNames toAscii) (check : List Char → Bool)
    (value : String) :
    (value.toList.count '@' ≠ 1 → isValidBy toAscii check value = false) ∧
      ∀ user domain, value = address user domain →
        (asciiDomainBy? toAscii domain = none → isValidBy toAscii check value = false) ∧
        ∀ ascii, asciiDomainBy? toAscii domain = some ascii →
          asciiDomainBy? toAscii ascii = some ascii ∧
            ('@' ∉ domain → isValidBy toAscii check (address user ascii) =
              isValidBy toAscii check value) := by
  refine ⟨isValidBy_of_count_ne_one, ?_⟩
  rintro user domain rfl
  refine ⟨fun hnone => ?_, fun ascii hform => ?_⟩
  · rw [isValidBy_address, hnone, Option.any_none, Bool.and_false]
  · have hself := hs.asciiDomainBy?_self hform
    exact ⟨hself, fun hat =>
      isValidBy_congr hat (hs.at_not_mem hform hat) (hself.trans hform.symm)⟩

end SettlesNames

end Any

/-! ## The conversion of the library -/

/-- **The conversion of the library settles names.** -/
theorem settlesNames_toAscii? : SettlesNames DomainName.toAscii? where
  plain name ascii h c hc := by
    have htext := DomainName.isNameText_of_toAscii? h
    have hreserved : DomainName.isHostChar c = false ∧ c ≠ '.' := by
      simp only [List.mem_cons, List.not_mem_nil, or_false] at hc
      obtain rfl | rfl | rfl | rfl := hc <;> decide
    exact htext.not_mem hreserved.1 hreserved.2
  self _ _ h := DomainName.toAscii?_toAscii? h

variable {domain ascii : List Char}

/-- Of the domains with an `@`, literals alone have an ASCII form, which is their own text. -/
theorem eq_of_at_mem (h : asciiDomain? domain = some ascii) (hat : '@' ∈ domain) :
    ascii = domain := by
  rcases asciiDomainBy?_cases h with ⟨-, heq⟩ | hname
  · exact heq
  · exact absurd hat (DomainName.at_not_mem_of_toAscii? hname)

/-- The ASCII form of a domain holds an `@` exactly when the domain does. -/
theorem at_mem_iff_of_asciiDomain? (h : asciiDomain? domain = some ascii) :
    '@' ∈ ascii ↔ '@' ∈ domain := by
  by_cases hat : '@' ∈ domain
  · rw [eq_of_at_mem h hat]
  · exact iff_of_false (settlesNames_toAscii?.at_not_mem h hat) hat

theorem isValid_address {user : List Char} : isValid (address user domain) =
    (decide ('@' ∉ user ∧ '@' ∉ domain) &&
      (asciiDomain? domain).any fun ascii => isAddress (user ++ '@' :: ascii)) :=
  isValidBy_address

/-- **Domains that have the same ASCII form, or both none, are judged alike.** -/
theorem isValid_congr {user other : List Char} (h : asciiDomain? other = asciiDomain? domain) :
    isValid (address user other) = isValid (address user domain) := by
  cases hdomain : asciiDomain? domain with
  | none =>
    rw [isValid_address, isValid_address, h, hdomain, Option.any_none, Bool.and_false,
      Bool.and_false]
  | some ascii =>
    have hother := h.trans hdomain
    have hiff : '@' ∈ other ↔ '@' ∈ domain :=
      (at_mem_iff_of_asciiDomain? hother).symm.trans (at_mem_iff_of_asciiDomain? hdomain)
    by_cases hat : '@' ∈ domain
    · rw [← eq_of_at_mem hother (hiff.mpr hat), eq_of_at_mem hdomain hat]
    · exact isValidBy_congr hat (fun hmem => hat (hiff.mp hmem)) h

/-- `Example.COM` is looked up as `example.com`. -/
theorem asciiDomain?_capitals :
    asciiDomain? "Example.COM".toList = some "example.com".toList := by
  have hmapped : DomainName.mapName? "Example.COM".toList =
      DomainName.mapName? "example.com".toList := by decide +kernel
  have hliteral : isLiteral "Example.COM".toList = false := by decide +kernel
  have hpercent : "Example.COM".toList.contains '%' = false := by decide +kernel
  have hplain : ∀ label ∈ ["example".toList, "com".toList], DomainName.IsPlain label := by
    intro label hlabel
    have hcheck : (label.all DomainName.isHostChar && DomainName.hyphensInPlace label &&
        DomainName.hasLabelLength label) = true := by
      revert label
      decide +kernel
    rw [Bool.and_eq_true, Bool.and_eq_true, List.all_eq_true] at hcheck
    exact ⟨hcheck.1.1, hcheck.1.2, hcheck.2⟩
  rw [asciiDomain?, asciiDomainBy?, hliteral, hpercent]
  exact (DomainName.toAscii?_congr hmapped).trans
    (DomainName.toAscii?_of_isPlain (List.cons_ne_nil _ _) hplain (by decide +kernel))

end WebForm.Email

namespace WebForm.Builtin

open Email

/-- The rule judges every address, for none is blank. -/
theorem accepts_validEmail_address (user domain : List Char) (argument : Option String) :
    accepts validEmail (address user domain) argument = isValid (address user domain) := by
  have hat : Text.isBlankChar '@' = false := by decide
  have hfilled : Text.isBlank (address user domain) = false := by
    rw [Text.isBlank, toList_address, List.all_append, List.all_cons, hat, Bool.false_and,
      Bool.and_false]
  rw [accepts, checkAddress, hfilled, if_neg Bool.false_ne_true]

/-- **A mail address is judged by its local part and the ASCII form of its domain.** A value without
exactly one `@` is rejected. One with a domain that has no ASCII form is rejected. One with a domain
that has one is judged like the address with that form in its place, which is its own ASCII form, and
like every address whose domain has the same form. -/
theorem accepts_validEmail_asciiDomain {value : String} (argument : Option String)
    (hfilled : Text.isBlank value = false) :
    (value.toList.count '@' ≠ 1 → accepts validEmail value argument = false) ∧
      ∀ user domain, value = address user domain →
        (asciiDomain? domain = none → accepts validEmail value argument = false) ∧
        (∀ ascii, asciiDomain? domain = some ascii →
          asciiDomain? ascii = some ascii ∧
            accepts validEmail (address user ascii) argument =
              accepts validEmail value argument) ∧
        ∀ other, asciiDomain? other = asciiDomain? domain →
          accepts validEmail (address user other) argument = accepts validEmail value argument := by
  have hvalue : accepts validEmail value argument = isValid value := by
    rw [accepts, checkAddress, hfilled, if_neg Bool.false_ne_true]
  obtain ⟨hcount, hsplit⟩ := settlesNames_toAscii?.isValidBy_asciiDomain isAddress value
  rw [hvalue]
  refine ⟨hcount, fun user domain heq => ?_⟩
  obtain ⟨hnone, hform⟩ := hsplit user domain heq
  have hother : ∀ other, asciiDomain? other = asciiDomain? domain →
      accepts validEmail (address user other) argument = isValid value := by
    intro other hsame
    rw [accepts_validEmail_address, heq, isValid_congr hsame]
  refine ⟨hnone, fun ascii hascii => ?_, hother⟩
  have hself := (hform ascii hascii).1
  exact ⟨hself, hother ascii (hself.trans hascii.symm)⟩

theorem accepts_validEmail_samples :
    accepts validEmail "a@b@example.com" none = false ∧
      accepts validEmail "user@exa%6dple.com" none = false ∧
      accepts validEmail "user@example.com" none = true ∧
      accepts validEmail "user@Example.COM" none = true := by
  have htwice := (@accepts_validEmail_asciiDomain "a@b@example.com" none (by decide +kernel)).1
  have hpercent := (@accepts_validEmail_asciiDomain "user@exa%6dple.com" none
    (by decide +kernel)).2 "user".toList "exa%6dple.com".toList (by decide +kernel)
  have hcapitals := (@accepts_validEmail_asciiDomain "user@Example.COM" none
    (by decide +kernel)).2 "user".toList "Example.COM".toList (by decide +kernel)
  obtain ⟨hself, hsame⟩ := hcapitals.2.1 _ asciiDomain?_capitals
  have haddress : address "user".toList "example.com".toList = "user@example.com" := by
    decide +kernel
  have hplain : accepts validEmail "user@example.com" none = true := by
    rw [← haddress, accepts_validEmail_address, isValid_address, hself]
    decide +kernel
  rw [haddress] at hsame
  exact ⟨htwice (by decide +kernel), hpercent.1 (by decide +kernel), hplain, hsame ▸ hplain⟩

end WebForm.Builtin
