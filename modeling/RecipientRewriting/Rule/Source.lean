import RecipientRewriting.Rule.Basic

/-!
# Sources of rules

Rules are stored for one user or for every user of a domain.  A user is
written as an address, a whole domain as `*@domain`; a quoted local part
cannot name a user.
-/

namespace RecipientRewriting

open Text

inductive Source
  /-- One user. -/
  | user (localPart : String) (domain : Domain)
  /-- Every user of a domain. -/
  | anyone (domain : Domain)
  deriving DecidableEq, Repr

namespace Source

def domain : Source → Domain
  | user _ domain | anyone domain => domain

def localPart? : Source → Option String
  | user localPart _ => some localPart
  | anyone _ => none

/-- The source for everyone in the domain of a user. -/
def wildcard? : Source → Option Source
  | user _ domain => some (anyone domain)
  | anyone _ => none

/-- The source that names `address`, unless its local part is quoted. -/
def ofAddress? (address : Address) : Option Source :=
  if address.isQuoted then none else some (user address.localPart address.domain)

def text : Source → String
  | user localPart domain => localPart ++ "@" ++ domain.text
  | anyone domain => "*@" ++ domain.text

instance : ToString Source :=
  ⟨text⟩

/-- Reads the domain behind `*@`, which must be valid in an address. -/
def parseWildcard (domain : String) : Except AddressError Source :=
  (Address.ofParts "wildcard" (.ofString domain)).map fun address => anyone address.domain

def parse (text : String) : Except InvalidRule Source :=
  match dropInitial? "*@".toList (trimBlanks text.toList) with
  | some domain =>
      (parseWildcard (String.ofList domain)).mapError fun fault => ⟨text, .address fault⟩
  | none =>
      match Address.parse text with
      | .error fault => .error ⟨text, .address fault⟩
      | .ok address =>
          match ofAddress? address with
          | some source => .ok source
          | none => .error ⟨text, .quotedLocalPart⟩

/-! ## The order of sources -/

/-- Users come before whole domains. -/
def rank : Source → Nat
  | user _ _ => 0
  | anyone _ => 1

/-- The local part of a user, and nothing for a whole domain. -/
def localText (source : Source) : String :=
  source.localPart?.getD ""

/-- Users first, by local part and domain, then whole domains. -/
instance : Ord Source :=
  ⟨compareLex (compareOn rank) (compareLex (compareOn localText) (compareOn domain))⟩

instance : Std.TransOrd Source :=
  @transCmp_compareLex _ _ _ (transCmp_compareOn rank)
    (@transCmp_compareLex _ _ _ (transCmp_compareOn localText) (transCmp_compareOn domain))

instance : Std.LawfulEqOrd Source where
  compare_self := Std.ReflOrd.compare_self
  eq_of_compare {left right} same := by
    obtain ⟨sameRank, sameParts⟩ := compareLex_eq_eq.1 same
    obtain ⟨sameLocal, sameDomain⟩ := compareLex_eq_eq.1 sameParts
    have domains : left.domain = right.domain := Std.LawfulEqOrd.eq_of_compare sameDomain
    have localTexts : left.localText = right.localText := Std.LawfulEqOrd.eq_of_compare sameLocal
    cases left with
    | user localPart domain =>
        cases right with
        | user otherLocal otherDomain =>
            have localParts : localPart = otherLocal := localTexts
            have sameDomains : domain = otherDomain := domains
            rw [localParts, sameDomains]
        | anyone otherDomain => cases sameRank
    | anyone domain =>
        cases right with
        | user otherLocal otherDomain => cases sameRank
        | anyone otherDomain => exact congrArg anyone domains

end Source

end RecipientRewriting
