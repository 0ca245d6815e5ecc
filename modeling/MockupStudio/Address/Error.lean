/-
What can be wrong with an address.

* `AddressError`: the causes; `AddressError.message`: their wording.
-/
namespace MockupStudio

/-- Why a text is no address. -/
inductive AddressError where
  | emptyHost
  | badDomain
  | badPort
  | badIPv4
  | badIPv6
  | noScheme
  | noHierarchy
  deriving Repr, DecidableEq

/-- The wording of an address error. -/
def AddressError.message : AddressError → String
  | emptyHost => "empty host"
  | badDomain => "invalid international domain name"
  | badPort => "invalid port number"
  | badIPv4 => "invalid IPv4 address"
  | badIPv6 => "invalid IPv6 address"
  | noScheme => "relative URL without a base"
  | noHierarchy => "relative URL with a cannot-be-a-base base"

end MockupStudio
