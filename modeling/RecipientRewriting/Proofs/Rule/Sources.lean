import RecipientRewriting.Formats
import RecipientRewriting.Proofs.Address.Joining
import RecipientRewriting.Proofs.Notation.Maps
import RecipientRewriting.Proofs.OrderedMap

/-!
# Reading sources back

A source that a text or an address names is written as this source is read, with
one exception: a user may be named `*`, and is written as everyone of its domain is.
Rules that are stored for such a user and written out are loaded for the whole
domain.
-/

namespace RecipientRewriting

open Text

/-! ## Addresses that stand for a domain -/

namespace Address

/-- The local part behind which the domains of sources are read. -/
theorem isParsed_placeholder : (⟨"wildcard", .ofString "x.org"⟩ : Address).IsParsed :=
  ⟨"wildcard@x.org", by decide +kernel⟩

/-- The domain of an address that was read may stand behind `*@` as well. -/
theorem IsParsed.wildcard
    {address : Address} (parsed : address.IsParsed) :
    (⟨"wildcard", address.domain⟩ : Address).IsParsed := by
  obtain ⟨spelling, same⟩ := parsed.domain_spelled
  have read := (isParsed_placeholder.ofParts_iff address.domain.text).2 ⟨spelling, rfl⟩
  rw [same] at read
  exact ⟨_, read⟩

/-- What is read as an address behind a plain local part has this local part. -/
theorem localPart_of_wildcard
    {domain : Domain} {address : Address}
    (read : ofParts "wildcard" domain = .ok address) :
    address.localPart = "wildcard" := by
  rw [← Domain.ofString_text domain] at read
  obtain ⟨_, rfl⟩ := (isParsed_placeholder.ofParts_iff domain.text).1 read
  exact localPart_withDomain _ _

end Address

namespace Source

/-! ## Sources that are named -/

/-- A source that some text is read as, or that an address that was read names. -/
inductive IsNamed : Source → Prop
  | byText {text : String} {source : Source} (read : parse text = .ok source) : IsNamed source
  | byAddress {text : String} {address : Address} {source : Source}
      (read : Address.parse text = .ok address) (names : ofAddress? address = some source) :
      IsNamed source

def sample : Source → Address
  | user localPart domain => ⟨localPart, domain⟩
  | anyone domain => ⟨"wildcard", domain⟩

theorem sample_of_ofAddress?
    {address : Address} {source : Source}
    (names : ofAddress? address = some source) :
    source.sample = address ∧ address.isQuoted = false := by
  unfold ofAddress? at names
  split at names
  · cases names
  · rename_i unquoted
    obtain rfl := Option.some.inj names
    exact ⟨rfl, by simpa using unquoted⟩

/-- What has been read as a source is a domain that may stand in an address, or an
address without quotes. -/
theorem parse_cases
    {text : String} {source : Source} (read : parse text = .ok source) :
    (∃ domain address, Address.ofParts "wildcard" domain = .ok address ∧
      source = anyone address.domain) ∨
    ∃ address, Address.parse text = .ok address ∧ ofAddress? address = some source := by
  unfold parse at read
  split at read
  · rename_i domain _
    unfold parseWildcard at read
    cases outcome : Address.ofParts "wildcard" (.ofString (String.ofList domain)) with
    | error fault => simp [outcome, Except.map, Except.mapError] at read
    | ok address =>
        simp only [outcome, Except.map, Except.mapError, Except.ok.injEq] at read
        exact Or.inl ⟨_, address, outcome, read.symm⟩
  · split at read
    · cases read
    · rename_i address parsed
      split at read
      · rename_i found names
        obtain rfl := Except.ok.inj read
        exact Or.inr ⟨address, parsed, names⟩
      · cases read

/-- What a named source applies to has been read as an address, without quotes. -/
theorem IsNamed.parsed_sample
    {source : Source} (named : source.IsNamed) :
    source.sample.IsParsed ∧ source.sample.isQuoted = false := by
  have ofAddress {text : String} {address : Address} (read : Address.parse text = .ok address)
      (names : ofAddress? address = some source) :
      source.sample.IsParsed ∧ source.sample.isQuoted = false := by
    obtain ⟨same, unquoted⟩ := sample_of_ofAddress? names
    rw [same]
    exact ⟨⟨text, read⟩, unquoted⟩
  cases named with
  | byAddress read names => exact ofAddress read names
  | byText read =>
      rcases parse_cases read with ⟨domain, address, parsed, rfl⟩ | ⟨address, parsed, names⟩
      · have wildcard := Address.localPart_of_wildcard parsed
        rw [sample, ← wildcard]
        refine ⟨⟨_, parsed⟩, ?_⟩
        rw [Address.isQuoted, wildcard]
        rfl
      · exact ofAddress parsed names

/-! ## Written forms -/

/-- What the written form of a source is read as. -/
def asRead : Source → Source
  | user localPart domain => if localPart = "*" then anyone domain else user localPart domain
  | anyone domain => anyone domain

/-- The domain of a named source is read behind `*@`. -/
theorem parse_wildcard
    {domain : Domain} (parsed : (⟨"wildcard", domain⟩ : Address).IsParsed) :
    parse ("*@" ++ domain.text) = .ok (anyone domain) := by
  have ending : ("*@" ++ domain.text).toList.getLast?.any isBlank = false := by
    have last := parsed.getLast_text
    simp only [Address.text, String.toList_append, List.getLast?_append] at last ⊢
    exact last
  have trimmed : trimBlanks ("*@" ++ domain.text).toList = ("*@" ++ domain.text).toList := by
    refine trimBlanks_eq_self ?_ ending
    rw [String.toList_append]
    rfl
  unfold parse
  rw [trimmed, String.toList_append, dropInitial?_append]
  have read : Address.ofParts "wildcard" domain = .ok ⟨"wildcard", domain⟩ := parsed.parse_text
  simp [parseWildcard, read, Except.map, Except.mapError]

/-- A user is read back unless its name is `*`. -/
theorem parse_user
    {localPart : String} {domain : Domain}
    (parsed : (⟨localPart, domain⟩ : Address).IsParsed)
    (unquoted : (⟨localPart, domain⟩ : Address).isQuoted = false)
    (plain : localPart ≠ "*") :
    parse (user localPart domain).text = .ok (user localPart domain) := by
  obtain ⟨front, behind, bare, written, same⟩ := parsed.exists_written
  have trimmed := Mailbox.trimBlanks_of_parseBare bare
  rw [← written] at trimmed
  have noWildcard : dropInitial? "*@".toList (trimBlanks (user localPart domain).text.toList) =
      none := by
    change dropInitial? "*@".toList (trimBlanks (⟨localPart, domain⟩ : Address).text.toList) = _
    rw [trimmed, written]
    by_contra starts
    obtain ⟨rest, dropped⟩ := Option.ne_none_iff_exists'.1 starts
    -- The separator right behind the star is the first one.
    obtain ⟨cut, _⟩ := Mailbox.parseBare_eq_ok_iff.1 bare
    rw [eq_append_of_dropInitial? dropped] at cut
    have star : Mailbox.cutSeparator .start ("*@".toList ++ rest) = some (['*'], rest) := rfl
    rw [star] at cut
    obtain ⟨rfl, _⟩ := Prod.mk.inj (Option.some.inj cut)
    exact plain (congrArg Address.localPart same)
  have read : Address.parse (user localPart domain).text = .ok ⟨localPart, domain⟩ :=
    parsed.parse_text
  unfold parse
  rw [noWildcard, read]
  simp [ofAddress?, unquoted]

theorem IsNamed.parse_text
    {source : Source} (named : source.IsNamed) :
    parse source.text = .ok source.asRead := by
  obtain ⟨parsed, unquoted⟩ := named.parsed_sample
  cases source with
  | anyone domain => exact parse_wildcard parsed
  | user localPart domain =>
      by_cases star : localPart = "*"
      · subst star
        exact parse_wildcard parsed.wildcard
      · rw [asRead, if_neg star]
        exact parse_user parsed unquoted star

/-! ## Sources that are written alike -/

/-- A source is read as itself, or is a user named `*`. -/
theorem asRead_cases (source : Source) :
    source.asRead = source ∨ ∃ domain, source = user "*" domain := by
  cases source with
  | anyone domain => exact Or.inl rfl
  | user localPart domain =>
      by_cases star : localPart = "*"
      · exact Or.inr ⟨domain, by rw [star]⟩
      · exact Or.inl (if_neg star)

theorem eq_user_of_star {source : Source} (star : source.localPart? = some "*") :
    ∃ domain, source = user "*" domain := by
  cases source with
  | anyone domain => cases star
  | user localPart domain =>
      obtain rfl := Option.some.inj star
      exact ⟨domain, rfl⟩

theorem asRead_eq_self_iff {source : Source} :
    source.asRead = source ↔ source.localPart? ≠ some "*" := by
  constructor
  · intro same star
    obtain ⟨domain, rfl⟩ := eq_user_of_star star
    cases same
  · intro plain
    rcases source.asRead_cases with same | ⟨domain, rfl⟩
    · exact same
    · exact absurd rfl plain

/-- Sources are read as the same one if they are equal, or a user named `*` and
everyone of its domain. -/
theorem asRead_eq_iff {source other : Source} :
    source.asRead = other.asRead ↔ source = other ∨
      ∃ domain, source = user "*" domain ∧ other = anyone domain ∨
        source = anyone domain ∧ other = user "*" domain := by
  constructor
  · intro same
    rcases source.asRead_cases with itself | ⟨domain, rfl⟩
    · rcases other.asRead_cases with otherItself | ⟨domain, rfl⟩
      · exact Or.inl (by rw [← itself, same, otherItself])
      · exact Or.inr ⟨domain, Or.inr ⟨by rw [← itself, same]; rfl, rfl⟩⟩
    · rcases other.asRead_cases with otherItself | ⟨otherDomain, rfl⟩
      · exact Or.inr ⟨domain, Or.inl ⟨rfl, by rw [← otherItself, ← same]; rfl⟩⟩
      · obtain rfl : domain = otherDomain := anyone.inj same
        exact Or.inl rfl
  · rintro (rfl | ⟨domain, ⟨rfl, rfl⟩ | ⟨rfl, rfl⟩⟩)
    · rfl
    · rfl
    · rfl

@[simp]
theorem text_asRead (source : Source) : source.asRead.text = source.text := by
  rcases source.asRead_cases with same | ⟨domain, rfl⟩
  · rw [same]
  · rfl

theorem text_eq_iff
    {source other : Source}
    (named : source.IsNamed) (otherNamed : other.IsNamed) :
    source.text = other.text ↔ source.asRead = other.asRead := by
  constructor
  · intro same
    have read := named.parse_text
    rw [same, otherNamed.parse_text] at read
    exact (Except.ok.inj read).symm
  · intro same
    rw [← text_asRead source, same, text_asRead]

/-! ## Rules under their sources -/

/-- A list of rules, each of which is read back, is read back where it may nest deep
enough. -/
theorem reader_ruleList
    {rules : RuleList}
    (nodup : rules.Nodup)
    (readable : ∀ rule ∈ rules, Rule.parse rule.text = .ok rule)
    (switches : Notation.Switches) (depth : Nat) (rest : List Char) :
    RuleList.format.reader ⟨switches, depth + 2⟩
        ((RuleList.format.document rules).compact ++ rest) = .ok (rules, rest) := by
  have inverse : ∀ rule ∈ rules,
      (Rule.parse rule.text).mapError InvalidRule.message = .ok rule := by
    intro rule member
    rw [readable rule member]
    rfl
  have read : (Notation.Format.list Rule.format).reader ⟨switches, depth + 2⟩
      (((Notation.Format.list Rule.format).document rules).compact ++ rest) = .ok (rules, rest) :=
    Notation.reader_list inverse switches depth rest
  refine bind_eq_ok_iff.2 ⟨_, read, ?_⟩
  simp [UniqueList.ofList_eq_self nodup, pure, Except.pure]

/-- The map that is loaded from a written one: rules stand under what their sources
are read as. -/
def loaded (map : OrderedMap Source RuleList) : OrderedMap Source RuleList :=
  .ofList (map.entries.map fun entry => (entry.1.asRead, entry.2))

theorem read_write_rules
    {map : OrderedMap Source RuleList}
    (named : ∀ entry ∈ map.entries, entry.1.IsNamed)
    (nodup : ∀ entry ∈ map.entries, entry.2.Nodup)
    (readable : ∀ entry ∈ map.entries, ∀ rule ∈ entry.2, Rule.parse rule.text = .ok rule) :
    (Notation.Format.orderedMap format RuleList.format).read
        ((Notation.Format.orderedMap format RuleList.format).write map) =
      .ok (loaded map) := by
  refine Notation.read_write_orderedMap ?_ ?_ ?_
  · intro entry member
    rw [(named entry member).parse_text]
    rfl
  · intro rules
    exact ⟨'[', _, rfl, by decide, by decide⟩
  · intro entry member rest
    exact reader_ruleList (nodup entry member) (readable entry member) _ _ rest

/-- Rules are loaded under what their source is read as, unless they are those of a
user named `*` and everyone of its domain has some as well. -/
theorem find?_loaded
    {map : OrderedMap Source RuleList} {source : Source} {rules : RuleList}
    (stored : map.find? source = some rules)
    (unrivalled : source.localPart? ≠ some "*" ∨ map.find? (anyone source.domain) = none) :
    (loaded map).find? source.asRead = some rules := by
  have member := OrderedMap.mem_entries_iff.2 stored
  obtain ⟨before, behind, split⟩ := List.append_of_mem member
  have later : ∀ entry ∈ behind, compare source entry.1 = .lt := by
    have increasing := map.increasing
    rw [split] at increasing
    exact (List.pairwise_cons.1 (List.pairwise_append.1 increasing).2.1).1
  rw [loaded, split, List.map_append, List.map_cons]
  refine OrderedMap.find?_ofList_append ?_
  rw [List.forall_mem_map]
  intro entry inBehind same
  change entry.1.asRead = source.asRead at same
  have behindSource := later entry inBehind
  rcases asRead_eq_iff.1 same with equal | ⟨domain, ⟨named, rfl⟩ | ⟨everyone, rfl⟩⟩
  · simp [equal, Std.ReflCmp.compare_self] at behindSource
  · -- A user never stands behind everyone of a domain.
    rw [named] at behindSource
    cases behindSource
  · rcases unrivalled with plain | alone
    · exact plain rfl
    · have inMap : entry ∈ map.entries := by
        rw [split]
        exact List.mem_append_right before (List.mem_cons_of_mem _ inBehind)
      have found := OrderedMap.mem_entries_iff.1 inMap
      change map.find? (anyone domain) = none at alone
      rw [everyone, alone] at found
      cases found

/-- Nothing is loaded for a user named `*`. -/
theorem find?_loaded_star (map : OrderedMap Source RuleList) (domain : Domain) :
    (loaded map).find? (user "*" domain) = none := by
  refine OrderedMap.find?_ofList_eq_none ?_
  rw [List.forall_mem_map]
  intro entry _ same
  change entry.1.asRead = user "*" domain at same
  rcases entry.1.asRead_cases with itself | ⟨other, star⟩
  · exact asRead_eq_self_iff.1 itself (by rw [← itself, same]; rfl)
  · rw [star] at same
    cases same

/-- Whatever is loaded was stored, perhaps for a user named `*`. -/
theorem stored_of_find?_loaded
    {map : OrderedMap Source RuleList} {source : Source} {rules : RuleList}
    (found : (loaded map).find? source = some rules) :
    map.find? source = some rules ∨
      source = anyone source.domain ∧ map.find? (user "*" source.domain) = some rules := by
  have member := OrderedMap.mem_entries_iff.2 found
  obtain ⟨entry, stored, same⟩ := List.mem_map.1 (OrderedMap.mem_of_mem_ofList member)
  obtain ⟨rfl, rfl⟩ := Prod.mk.inj same
  have storedRules := OrderedMap.mem_entries_iff.1 stored
  rcases entry.1.asRead_cases with itself | ⟨domain, star⟩
  · rw [itself]
    exact Or.inl storedRules
  · rw [star] at storedRules ⊢
    exact Or.inr ⟨rfl, storedRules⟩

/-- Everyone of a domain gets its own rules, or else those of a user named `*`. -/
theorem find?_loaded_anyone
    (map : OrderedMap Source RuleList) (domain : Domain) :
    (loaded map).find? (anyone domain) =
      (map.find? (anyone domain)).or (map.find? (user "*" domain)) := by
  cases own : map.find? (anyone domain) with
  | some rules => exact find?_loaded own (Or.inl nofun)
  | none =>
      rw [Option.none_or]
      cases starred : map.find? (user "*" domain) with
      | some rules => exact find?_loaded starred (Or.inr own)
      | none =>
          rw [Option.eq_none_iff_forall_ne_some]
          intro rules found
          rcases stored_of_find?_loaded found with stored | ⟨_, stored⟩
          · rw [own] at stored
            cases stored
          · exact absurd (stored.symm.trans starred) nofun

/-! ## Reading back -/

open Notation in
/-- A source that a text or an address names is read back from its written form
exactly if it is no user named `*`; such a user is read as everyone of its domain.
So different sources are written alike only if they are these two.  Rules that are
written out under a source are loaded under it exactly if it is no such user, whose
rules are loaded for everyone of its domain unless there are some for everyone. -/
theorem read_back_unless_star (source : Source) (named : source.IsNamed) :
    (parse source.text = .ok source ↔ source.localPart? ≠ some "*") ∧
    (source.localPart? = some "*" → parse source.text = .ok (anyone source.domain)) ∧
    (∀ other : Source, other.IsNamed →
      (source.text = other.text ↔ source = other ∨
        ∃ domain, source = user "*" domain ∧ other = anyone domain ∨
          source = anyone domain ∧ other = user "*" domain)) ∧
    ∀ map : OrderedMap Source RuleList,
      (∀ entry ∈ map.entries, entry.1.IsNamed ∧ entry.2.Nodup ∧
        ∀ rule ∈ entry.2, Rule.parse rule.text = .ok rule) →
      ∃ other : OrderedMap Source RuleList,
        (Format.orderedMap Source.format RuleList.format).read
          ((Format.orderedMap Source.format RuleList.format).write map) = .ok other ∧
        (∀ rules, map.find? source = some rules →
          (other.find? source = some rules ↔ source.localPart? ≠ some "*")) ∧
        (source.localPart? = some "*" → other.find? source = none ∧
          other.find? (anyone source.domain) =
            (map.find? (anyone source.domain)).or (map.find? source)) ∧
        ∀ rules, other.find? source = some rules → map.find? source = some rules ∨
          source = anyone source.domain ∧
            map.find? (user "*" source.domain) = some rules := by
  refine ⟨?_, fun star => ?_, fun other otherNamed => ?_, fun map stated => ?_⟩
  · rw [named.parse_text, Except.ok.injEq]
    exact asRead_eq_self_iff
  · obtain ⟨domain, rfl⟩ := eq_user_of_star star
    exact named.parse_text
  · rw [text_eq_iff named otherNamed]
    exact asRead_eq_iff
  · refine ⟨loaded map, read_write_rules (fun entry member => (stated entry member).1)
      (fun entry member => (stated entry member).2.1)
      (fun entry member => (stated entry member).2.2), fun rules stored => ⟨?_, fun plain => ?_⟩,
      fun star => ?_, fun _ => stored_of_find?_loaded⟩
    · intro found star
      obtain ⟨domain, rfl⟩ := eq_user_of_star star
      rw [find?_loaded_star] at found
      cases found
    · have found := find?_loaded stored (Or.inl plain)
      rwa [asRead_eq_self_iff.2 plain] at found
    · obtain ⟨domain, rfl⟩ := eq_user_of_star star
      exact ⟨find?_loaded_star map domain, find?_loaded_anyone map domain⟩

/-! ### A user named `*` -/

def starred : Source :=
  .user "*" (.ofString "x.org")

def prefixed : Source :=
  .user "*a" (.ofString "x.org")

/-- Rules of both users and of everyone of another domain. -/
def starredRules : OrderedMap Source RuleList :=
  .ofList
    [(starred, [⟨.userAlias, "anne@y.org"⟩]), (prefixed, [⟨.forward, "bert"⟩]),
     (anyone (.ofString "y.org"), [⟨.error, ""⟩, ⟨.domain, "x.org"⟩])]

theorem starred_isNamed : starred.IsNamed :=
  @IsNamed.byText "<*@x.org>" _ (by decide +kernel)

open Notation in
/-- A user named `*` is not read back, is written as another source is, and has its
rules loaded for everyone of its domain. -/
theorem starred_not_read_back :
    parse "<*@x.org>" = .ok starred ∧
      ofAddress? ⟨"*", .ofString "x.org"⟩ = some starred ∧
      ¬ (∀ source : Source, source.IsNamed → parse source.text = .ok source) ∧
      ¬ (∀ source other : Source, source.IsNamed → other.IsNamed →
        source.text = other.text → source = other) ∧
      (Format.orderedMap Source.format RuleList.format).read
          ((Format.orderedMap Source.format RuleList.format).write
            (.ofList [(starred, [⟨.userAlias, "anne@y.org"⟩])])) =
        .ok (.ofList [(anyone (.ofString "x.org"), [⟨.userAlias, "anne@y.org"⟩])]) := by
  have everyone : (anyone (.ofString "x.org")).IsNamed :=
    @IsNamed.byText "*@x.org" _ (by decide +kernel)
  refine ⟨by decide +kernel, rfl, fun readBack => ?_, fun injective => ?_, by decide +kernel⟩
  · exact absurd (readBack starred starred_isNamed) (by decide +kernel)
  · exact absurd (injective starred _ starred_isNamed everyone rfl) (by decide)

open Notation in
theorem starredRules_loaded :
    parse prefixed.text = .ok prefixed ∧
      parse starred.text = .ok (anyone (.ofString "x.org")) ∧
      starred.text ≠ prefixed.text ∧
      ∃ other : OrderedMap Source RuleList,
        (Format.orderedMap Source.format RuleList.format).read
          ((Format.orderedMap Source.format RuleList.format).write starredRules) = .ok other ∧
        other.find? prefixed = some [⟨.forward, "bert"⟩] ∧
        other.find? starred = none ∧
        other.find? (anyone (.ofString "x.org")) = some [⟨.userAlias, "anne@y.org"⟩] := by
  have prefixedNamed : prefixed.IsNamed :=
    @IsNamed.byText "*a@x.org" _ (by decide +kernel)
  have elsewhere : (anyone (.ofString "y.org")).IsNamed :=
    @IsNamed.byText "*@y.org" _ (by decide +kernel)
  have stated : ∀ entry ∈ starredRules.entries, entry.1.IsNamed ∧ entry.2.Nodup ∧
      ∀ rule ∈ entry.2, Rule.parse rule.text = .ok rule := by
    intro entry member
    have listed := OrderedMap.mem_of_mem_ofList member
    simp only [List.mem_cons, List.not_mem_nil, or_false] at listed
    rcases listed with rfl | rfl | rfl
    · exact ⟨starred_isNamed, by decide, by decide +kernel⟩
    · exact ⟨prefixedNamed, by decide, by decide +kernel⟩
    · exact ⟨elsewhere, by decide, by decide +kernel⟩
  obtain ⟨back, _, _, maps⟩ := read_back_unless_star prefixed prefixedNamed
  obtain ⟨_, everyone, alike, starMaps⟩ := read_back_unless_star starred starred_isNamed
  obtain ⟨other, loads, kept, _, _⟩ := maps starredRules stated
  obtain ⟨same, loadsSame, _, moved, _⟩ := starMaps starredRules stated
  obtain rfl : other = same := by
    rw [loads] at loadsSame
    exact Except.ok.inj loadsSame
  refine ⟨back.2 (by decide), everyone rfl, fun sameText => ?_, other, loads,
    (kept _ (by decide +kernel)).2 (by decide), (moved rfl).1,
    (moved rfl).2.trans (by decide +kernel)⟩
  rcases (alike prefixed prefixedNamed).1 sameText with
    equal | ⟨domain, ⟨_, everyone⟩ | ⟨everyone, _⟩⟩
  · exact absurd equal (by decide)
  · cases everyone
  · cases everyone

end Source

end RecipientRewriting
