import Heritage.Shared.Identity

/-!
# Contact values

`contact-normalization.ts`, and the values the request schemas let through:
a contact field is a string that is not blank, or it is absent.
-/

namespace Heritage

/-- A trimmed string with at least one character.  The schemas turn a blank
value into `undefined` or `null`. -/
structure NonBlank where
  value : String
  notBlank : value ≠ ""
  deriving DecidableEq, Repr

/-- Contact values of the worked examples. -/
def anaAddress : NonBlank := ⟨"ana@example.ph", by decide⟩

def luzAddress : NonBlank := ⟨"luz@example.ph", by decide⟩

def mobileNumber : NonBlank := ⟨"09171234567", by decide⟩

/-- The string methods whose Unicode tables belong to the language. -/
structure StringPlatform where
  trim : String → String
  toLowerCase : String → String

def normalizeEmail (platform : StringPlatform) (email : String) : String :=
  platform.toLowerCase (platform.trim email)

def normalizePhone (phone : String) : String :=
  let digitsOnly := phone.toList.filter Char.isDigit
  let withoutInternationalPrefix :=
    if ['0', '0'].isPrefixOf digitsOnly then digitsOnly.drop 2
    else digitsOnly
  let digits :=
    if ['6', '3'].isPrefixOf withoutInternationalPrefix then
      withoutInternationalPrefix
    else if (withoutInternationalPrefix.length = 10 ∨
          withoutInternationalPrefix.length = 11) ∧
        ['0'].isPrefixOf withoutInternationalPrefix then
      ['6', '3'] ++ withoutInternationalPrefix.drop 1
    else if withoutInternationalPrefix.length = 10 ∧
        ['9'].isPrefixOf withoutInternationalPrefix then
      ['6', '3'] ++ withoutInternationalPrefix
    else
      withoutInternationalPrefix
  String.ofList digits

/-- A row of `client`. -/
structure Client where
  id : Uuid
  fullName : String
  email : Option NonBlank
  phone : Option NonBlank
  normalizedEmail : Option String
  normalizedPhone : Option String
  deriving DecidableEq, Repr

end Heritage
