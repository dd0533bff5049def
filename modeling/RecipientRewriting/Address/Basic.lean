import RecipientRewriting.Address.Mailbox
import RecipientRewriting.OrderedMap

/-!
# Domains and mail addresses

A domain is kept in lower case, so that two spellings of one domain are equal; only
the letters of ASCII have a case here.  An address is a local part, kept as written,
at a domain.  Two addresses are equal exactly when both parts are.
-/

namespace RecipientRewriting

/-! ## Domains -/

/-- A domain name or address literal without upper-case letters of ASCII. -/
structure Domain where
  text : String
  lower_text : text.toList.map Char.toLower = text.toList
  deriving DecidableEq

namespace Domain

theorem toLower_toLower (character : Char) : character.toLower.toLower = character.toLower := by
  unfold Char.toLower
  split
  · rename_i upper
    split
    · rename_i again
      exfalso
      obtain ⟨atLeast, atMost⟩ := upper
      obtain ⟨_, tooMuch⟩ := again
      simp only [ge_iff_le, UInt32.le_iff_toNat_le, UInt32.toNat_add] at atLeast atMost tooMuch
      have bounds : 'A'.val.toNat = 65 ∧ 'Z'.val.toNat = 90 ∧ ('a'.val - 'A'.val).toNat = 32 := by
        decide
      omega
    · rfl
  · rfl

/-- The domain written `text`, in any case. -/
def ofString (text : String) : Domain where
  text := String.ofList (text.toList.map Char.toLower)
  lower_text := by
    rw [String.toList_ofList, List.map_map]
    exact List.map_congr_left fun character _ => toLower_toLower character

def isLiteral (domain : Domain) : Bool :=
  domain.text.toList.head? = some '['

instance : ToString Domain :=
  ⟨Domain.text⟩

instance : Repr Domain :=
  ⟨fun domain precedence => reprPrec domain.text precedence⟩

instance : Inhabited Domain :=
  ⟨ofString ""⟩

instance : Ord Domain :=
  ⟨compareOn text⟩

instance : Std.TransOrd Domain :=
  transCmp_compareOn text

theorem text_injective {left right : Domain} (same : left.text = right.text) :
    left = right := by
  cases left
  cases right
  simpa using same

instance : Std.LawfulEqOrd Domain where
  compare_self := Std.ReflOrd.compare_self
  eq_of_compare same := text_injective (Std.LawfulEqOrd.eq_of_compare same)

/-- A domain is its own spelling. -/
@[simp]
theorem ofString_text (domain : Domain) : ofString domain.text = domain := by
  cases domain with
  | mk text lower => simp [ofString, lower]

end Domain

/-! ## Addresses -/

structure Address where
  localPart : String
  domain : Domain
  deriving DecidableEq, Repr, Inhabited

namespace Address

/-- Reads `local-part@domain`, with or without angle brackets. -/
def parse (text : String) : Except AddressError Address :=
  (Mailbox.parse text).map fun (localPart, domain) => ⟨localPart, .ofString domain⟩

/-- The written form, without angle brackets. -/
def text (address : Address) : String :=
  address.localPart ++ "@" ++ address.domain.text

instance : ToString Address :=
  ⟨text⟩

/-- Reads an address given in two halves, by joining them. -/
def ofParts (localPart : String) (domain : Domain) : Except AddressError Address :=
  parse (localPart ++ "@" ++ domain.text)

def parse? (text : String) : Option Address :=
  (parse text).toOption

def withDomain (address : Address) (domain : Domain) : Address :=
  { address with domain }

def isQuoted (address : Address) : Bool :=
  address.localPart.toList.head? = some '"'

instance : Ord Address :=
  ⟨compareLex (compareOn localPart) (compareOn domain)⟩

instance : Std.TransOrd Address :=
  @transCmp_compareLex _ _ _ (transCmp_compareOn localPart) (transCmp_compareOn domain)

instance : Std.LawfulEqOrd Address where
  compare_self := Std.ReflOrd.compare_self
  eq_of_compare {left right} same := by
    obtain ⟨sameLocal, sameDomain⟩ := compareLex_eq_eq.1 same
    obtain ⟨localPart, domain⟩ := left
    obtain ⟨otherLocal, otherDomain⟩ := right
    have localParts : localPart = otherLocal := Std.LawfulEqOrd.eq_of_compare sameLocal
    have domains : domain = otherDomain := Std.LawfulEqOrd.eq_of_compare sameDomain
    rw [localParts, domains]

end Address

end RecipientRewriting
