import DeliveryAudit.Service.Client
/-!
# Making clients

A client is made for a service in a region. The name of a region consists
of at most 63 ASCII letters, digits and hyphens; it neither starts nor
ends with a hyphen, and does not consist of digits only. The service is
reached at an address that the name of the region is a part of.
-/

namespace DeliveryAudit

/-- What makes clients: for the name of a service and of a region. -/
abbrev ClientMaker := String → String → Except CallError Client

namespace Region

/-- The longest name of a region. -/
def nameLimit : Nat := 63

/-- Whether a character may occur in the name of a region. -/
def isNameCharacter (c : Char) : Bool := c.isAlphanum || c == '-'

/-- Whether characters make the name of a region. -/
def isName (cs : List Char) : Bool :=
  cs.all isNameCharacter && cs.length ≤ nameLimit && cs.head? != some '-' &&
    cs.getLast? != some '-' && (cs.isEmpty || !cs.all Char.isDigit)

/-- The characters of a text, of which a newline at the end does not
count. -/
def withoutLastNewline (s : String) : List Char :=
  let cs := s.toList
  if cs.getLast? == some '\n' then cs.dropLast else cs

/-- Whether a text is taken as the name of a region. -/
def isAccepted (s : String) : Bool := isName (withoutLastNewline s)

/-- What is said of a text that is no name of a region. -/
def refusedText (s : String) : String :=
  "Provided region_name '" ++ s ++ "' doesn't match a supported format."

/-- Whether a text can be a part of an address: it is not empty, and no
newline ends it. -/
def isAddressPart (s : String) : Bool := !s.isEmpty && s.toList.getLast? != some '\n'

/-- The address of a service in a region. -/
def address (service region : String) : String :=
  "https://" ++ service ++ "." ++ region ++ ".amazonaws.com"

/-- What is said of an address that is none. -/
def noAddressText (service region : String) : String :=
  "Invalid endpoint: " ++ address service region

end Region

/-- The maker of clients that have no credentials. -/
def ClientMaker.withoutCredentials : ClientMaker := fun service region =>
  if !Region.isAccepted region then .error (.transport (Region.refusedText region))
  else if Region.isAddressPart region then .ok Client.withoutCredentials
  else .error (.other "ValueError" (Region.noAddressText service region))

end DeliveryAudit
