import AssetRegistry.Access.Email
import AssetRegistry.Proofs.Expressions
import AssetRegistry.Proofs.TidyTexts

namespace AssetRegistry
open Text

/-- A word of the letters from a to z. -/
def IsName (name : String) : Prop := name ≠ "" ∧ ∀ c ∈ name.toList, 'a' ≤ c ∧ c ≤ 'z'

/-- The addresses of people at a domain. Every character of the domain stands for itself. -/
inductive AddressAt (domain : String) : String → Prop
  | single {name : String} : IsName name → AddressAt domain (name ++ "@" ++ domain)
  | full {first last : String} : IsName first → IsName last → AddressAt domain (first ++ "." ++ last ++ "@" ++ domain)

theorem isName_ofList_iff {cs : List Char} : IsName (.ofList cs) ↔ cs ≠ [] ∧ ∀ c ∈ cs, 'a' ≤ c ∧ c ≤ 'z' := by
  simp [IsName]

theorem IsName.not_mem {name : String} (isName : IsName name) {c : Char} (other : ¬('a' ≤ c ∧ c ≤ 'z')) :
    c ∉ name.toList := fun member => other (isName.2 c member)

theorem AddressAt.ne_empty {domain address : String} (isAddress : AddressAt domain address) : address ≠ "" := by
  intro empty
  have none := congrArg String.toList empty
  cases isAddress <;> simp at none

namespace EmailPolicy
open Regex

/-- A letter from a to z, once or more. -/
def oneName : Regex := .repeated (.range 'a' 'z')

/-- What may follow the first name: nothing, or a point and another name. -/
def otherName : Regex := .optional (.seq (.literal '.') (.seq oneName .nothing))

/-- What is read of the text of a policy's pattern. -/
def expression (domain : List Char) : Regex :=
  .seq .start (.seq oneName (.seq otherName (.seq (.literal '@') (word domain (.seq .finish .nothing)))))

/-- The signs of a pattern before its domain. -/
def nameSigns : List Sign :=
  [.mark '^', .mark '[', .literal 'a', .mark '-', .literal 'z', .mark ']', .mark '+', .mark '(', .literal '.', .mark '[',
   .literal 'a', .mark '-', .literal 'z', .mark ']', .mark '+', .mark ')', .mark '?', .literal '@']

theorem build?_nameSigns (rest : List Sign) :
    build? (nameSigns ++ rest) [] [] = build? rest [.literal '@', otherName, oneName, .start] [] := rfl

/-- The pattern of a policy, character by character. -/
theorem toList_pattern (p : EmailPolicy) :
    p.pattern.toList = "^[a-z]+(\\.[a-z]+)?@".toList ++ ((escape p.domain).toList ++ ['$']) := by
  show ("^[a-z]+(\\.[a-z]+)?@" ++ escape p.domain ++ "$").toList = _
  rw [String.toList_append, String.toList_append, List.append_assoc]
  rfl

/-- The pattern of any domain can be read, and its domain is read literally. -/
theorem ofText?_pattern (p : EmailPolicy) : ofText? p.pattern = some (expression p.domain.toList) := by
  have names : signs? "^[a-z]+(\\.[a-z]+)?@".toList = some nameSigns := by decide
  have last : signs? ['$'] = some [.mark '$'] := rfl
  have signs : signs? p.pattern.toList = some (nameSigns ++ (p.domain.toList.map .literal ++ [.mark '$'])) := by
    rw [toList_pattern, signs?_append names, signs?_append (signs?_escape p.domain), last, Option.map_some,
      Option.map_some]
  rw [ofText?, signs, Option.bind_some, build?_nameSigns, build?_literals]
  show some (inTurn (.finish :: ((p.domain.toList.map .literal).reverse ++ [.literal '@', otherName, oneName, .start]))) =
    some (expression p.domain.toList)
  rw [inTurn_word]
  rfl

variable {before here after : List Char}

/-- The second part of a name may be missing. -/
theorem matches_otherName_iff : otherName.Matches before here after ↔
    here = [] ∨ ∃ last, here = '.' :: last ∧ IsName (.ofList last) := by
  refine or_congr_right ⟨?_, ?_⟩
  · rintro ⟨_, _, rfl, rfl, last, _, rfl, isName, rfl⟩
    refine ⟨last, by simp, isName_ofList_iff.2 (matches_repeated_range_iff.1 isName)⟩
  · rintro ⟨last, rfl, isName⟩
    exact ⟨['.'], last, rfl, rfl, last, [], by simp, matches_repeated_range_iff.2 (isName_ofList_iff.1 isName), rfl⟩

/-- The expression matches nothing but whole texts, between their two ends. -/
theorem matches_expression_iff {domain : List Char} : (expression domain).Matches before here after ↔
    before = [] ∧ after = [] ∧ ∃ first other, here = first ++ (other ++ '@' :: domain) ∧ IsName (.ofList first) ∧
      (other = [] ∨ ∃ last, other = '.' :: last ∧ IsName (.ofList last)) := by
  constructor
  · rintro ⟨_, _, rfl, ⟨rfl, rfl⟩, first, _, rfl, isFirst, other, _, rfl, isOther, _, _, rfl, rfl, last⟩
    obtain ⟨_, rfl, _, _, rfl, ⟨rfl, none⟩, rfl⟩ := matches_word_iff.1 last
    obtain ⟨-, rfl⟩ := List.append_eq_nil_iff.1 none
    refine ⟨rfl, rfl, first, other, by simp, isName_ofList_iff.2 (matches_repeated_range_iff.1 isFirst), ?_⟩
    exact matches_otherName_iff.1 isOther
  · rintro ⟨rfl, rfl, first, other, rfl, isFirst, isOther⟩
    refine ⟨[], _, rfl, ⟨rfl, rfl⟩, first, _, rfl, matches_repeated_range_iff.2 (isName_ofList_iff.1 isFirst),
      other, _, rfl, matches_otherName_iff.2 isOther, ['@'], domain, rfl, rfl, ?_⟩
    exact matches_word_iff.2 ⟨[], (List.append_nil domain).symm, [], [], rfl, ⟨rfl, rfl⟩, rfl⟩

/-- An address is accepted exactly if it has the form that staff addresses have. -/
theorem accepts_iff {policy : EmailPolicy} {address : String} :
    policy.accepts address = true ↔ AddressAt policy.domain address := by
  rw [accepts, ofText?_pattern, Option.any_some, isFoundIn_iff]
  simp only [matches_expression_iff]
  constructor
  · rintro ⟨_, _, _, parts, rfl, rfl, first, other, rfl, isFirst, rfl | ⟨last, rfl, isLast⟩⟩
    · obtain rfl : .ofList first ++ "@" ++ policy.domain = address := by
        rw [← String.toList_inj, parts]
        simp
      exact .single isFirst
    · obtain rfl : .ofList first ++ "." ++ .ofList last ++ "@" ++ policy.domain = address := by
        rw [← String.toList_inj, parts]
        simp
      exact .full isFirst isLast
  · intro isAddress
    refine ⟨[], address.toList, [], by simp, rfl, rfl, ?_⟩
    cases isAddress with
    | @single name isName => exact ⟨name.toList, [], by simp, by simpa using isName, Or.inl rfl⟩
    | @full first last isFirst isLast =>
      exact ⟨first.toList, '.' :: last.toList, by simp, by simpa using isFirst, Or.inr ⟨_, rfl, by simpa using isLast⟩⟩

theorem accepts_of_validate {policy : EmailPolicy} {address email : String}
    (validated : policy.validate address = .ok email) : email = lower (trim address) ∧ policy.accepts email := by
  unfold validate at validated
  dsimp only at validated
  split at validated
  next accepted =>
    obtain rfl := Except.ok.inj validated
    exact ⟨rfl, accepted⟩
  next => cases validated

/-- An address that is let in is returned in lower case and without blanks. -/
theorem validate_eq_ok_iff {policy : EmailPolicy} {address email : String} :
    policy.validate address = .ok email ↔ email = lower (trim address) ∧ AddressAt policy.domain email := by
  constructor
  · intro validated
    obtain ⟨same, accepted⟩ := accepts_of_validate validated
    exact ⟨same, accepts_iff.1 accepted⟩
  · rintro ⟨rfl, isAddress⟩
    unfold validate
    dsimp only
    rw [if_pos (accepts_iff.2 isAddress)]

theorem validate_eq_error_iff {policy : EmailPolicy} {address : String} {why : AuthError} :
    policy.validate address = .error why ↔
      why = .invalidEmail (trim address) ∧ ¬AddressAt policy.domain (lower (trim address)) := by
  rw [← accepts_iff]
  unfold validate
  dsimp only
  by_cases accepted : policy.accepts (lower (trim address))
  · rw [if_pos accepted]
    exact ⟨nofun, fun refused => absurd accepted refused.2⟩
  · rw [if_neg accepted, Except.error.injEq]
    exact ⟨fun same => ⟨same.symm, accepted⟩, fun refused => refused.1.symm⟩

/-- An address that is let in is its own normal form. -/
theorem validate_fixed {policy : EmailPolicy} {address email : String}
    (validated : policy.validate address = .ok email) : Tidy email ∧ policy.validate email = .ok email := by
  obtain ⟨rfl, isAddress⟩ := validate_eq_ok_iff.1 validated
  have nonempty : trim address ≠ "" := by
    intro blank
    rw [blank] at isAddress
    exact isAddress.ne_empty (by decide)
  have tidy := (tidy_trim nonempty).lower
  refine ⟨tidy, validate_eq_ok_iff.2 ⟨?_, isAddress⟩⟩
  rw [tidy.trim, lower_lower]

/-- The domain of a policy is its own normal form. -/
theorem ofDomain_domain (domain : String) : ofDomain (ofDomain domain).domain = ofDomain domain := by
  unfold ofDomain
  by_cases blank : trim domain = ""
  · rw [blank]
    decide
  · rw [(tidy_trim blank).lower.trim, lower_lower]

/-- The regular expression of a policy can be read for every domain. The policy lets in what is, trimmed and in lower
case, an address of one or two names at its domain, and tells this form; it refuses all else by what it was given,
trimmed. What it lets in is let in unchanged, and its domain may be given in any case and with blanks around it. -/
theorem accepts_addresses_at (domain address : String) :
    (∃ r, ofText? (ofDomain domain).pattern = some r) ∧
    (∀ email, (ofDomain domain).validate address = .ok email ↔
      email = lower (trim address) ∧ AddressAt (lower (trim domain)) email) ∧
    (∀ why, (ofDomain domain).validate address = .error why ↔
      why = .invalidEmail (trim address) ∧ ¬AddressAt (lower (trim domain)) (lower (trim address))) ∧
    (∀ email, (ofDomain domain).validate address = .ok email → (ofDomain domain).validate email = .ok email) ∧
    (ofDomain (lower (trim domain))).validate address = (ofDomain domain).validate address := by
  refine ⟨⟨_, ofText?_pattern _⟩, fun email => validate_eq_ok_iff, fun why => validate_eq_error_iff,
    fun email validated => (validate_fixed validated).2, ?_⟩
  exact congrArg (validate · address) (ofDomain_domain domain)

/-- The plus sign and the point of a domain stand for themselves, and nothing may stand around an address, not even on
another line. -/
theorem sons_accepted : (ofDomain " Acme+Sons.com ").validate " Ann.Lee@ACME+SONS.COM " = .ok "ann.lee@acme+sons.com" ∧
    (ofDomain " Acme+Sons.com ").validate "ann.lee@acme+sons.com" = .ok "ann.lee@acme+sons.com" ∧
    (ofDomain " Acme+Sons.com ").validate "ann@acmeesons-com" = .error (.invalidEmail "ann@acmeesons-com") ∧
    (ofDomain " Acme+Sons.com ").validate "1\nann@acme+sons.com" = .error (.invalidEmail "1\nann@acme+sons.com") := by
  obtain ⟨-, accepted, -, again, -⟩ := accepts_addresses_at " Acme+Sons.com " " Ann.Lee@ACME+SONS.COM "
  obtain ⟨-, -, refused, -⟩ := accepts_addresses_at " Acme+Sons.com " "ann@acmeesons-com"
  obtain ⟨-, -, refused', -⟩ := accepts_addresses_at " Acme+Sons.com " "1\nann@acme+sons.com"
  have letIn := (accepted "ann.lee@acme+sons.com").2 ⟨by decide +kernel, accepts_iff.1 (by decide +kernel)⟩
  have alike : ¬AddressAt (lower (trim " Acme+Sons.com ")) (lower (trim "ann@acmeesons-com")) :=
    fun isAddress => absurd (accepts_iff.2 isAddress) (by decide +kernel)
  have behind : ¬AddressAt (lower (trim " Acme+Sons.com ")) (lower (trim "1\nann@acme+sons.com")) :=
    fun isAddress => absurd (accepts_iff.2 isAddress) (by decide +kernel)
  exact ⟨letIn, again _ letIn, (refused _).2 ⟨by decide +kernel, alike⟩, (refused' _).2 ⟨by decide +kernel, behind⟩⟩

end EmailPolicy
end AssetRegistry
