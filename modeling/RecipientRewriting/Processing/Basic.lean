import RecipientRewriting.Locality
import RecipientRewriting.Mail.Basic
import RecipientRewriting.Rule.Kind
import RecipientRewriting.RuleTable.Resolve
import RecipientRewriting.Text.Quoted

/-!
# What processing goes by

The settings of a processor, and whoever answers its questions about addresses.
-/

namespace RecipientRewriting

/-! ## Settings -/

structure ProcessorSettings where
  /-- Whether forwarding rules send copies of their own instead of being
  followed like aliases. -/
  forwardSeparately : Bool
  /-- Whether automatic replies are forwarded too. -/
  forwardAutoReplies : Bool
  /-- The state that rejected recipients and loops are sent to. -/
  errorState : ProcessingState
  /-- How many seconds a lookup may take. -/
  lookupTimeout : Option Nat
  deriving DecidableEq, Repr

namespace ProcessorSettings

def default : ProcessorSettings :=
  ⟨false, false, .error, none⟩

/-- The kinds of rules that recipients are rewritten by. -/
def kinds (settings : ProcessorSettings) : KindSet :=
  if settings.forwardSeparately then KindSet.all.excluding .forward else .all

def describeFlag (flag : Bool) : String :=
  if flag then "true" else "false"

def describe (settings : ProcessorSettings) : String :=
  "ProcessorConfig \x7b rewrite_sender_upon_forward: " ++ describeFlag settings.forwardSeparately ++
    ", forward_auto_submitted_emails: " ++ describeFlag settings.forwardAutoReplies ++
    ", error_processor: ProcessingState(" ++ Text.quoteForListing settings.errorState.name ++
    "), lookup_timeout_secs: " ++
    (match settings.lookupTimeout with
      | some seconds => "Some(" ++ toString seconds ++ ")"
      | none => "None") ++
    " \x7d"

def describeProcessor (settings : ProcessorSettings) : String :=
  "RecipientRewriteProcessor \x7b config: " ++ settings.describe ++ ", kinds: " ++
    settings.kinds.describe ++ ", .. \x7d"

end ProcessorSettings

/-!
## Directories

Nothing is assumed of the answers of a directory: it may be slow, fail, and answer
the same question in different ways, which is what its `world` stands for.  A rule
table together with a list of local domains is a directory that does none of these.
-/

structure Timed (answer : Type) where
  answer : Except LookupError answer
  milliseconds : Nat

structure Directory (world : Type) where
  /-- What the rules of some kinds make of a source. -/
  resolve : Source → KindSet → world → Timed Resolution × world
  /-- The forwarding rules stored under a source. -/
  forwardRules : Source → world → Timed RuleList × world
  /-- The domain that completes targets without one. -/
  defaultDomain : world → Except LookupError Domain × world
  /-- Whether mail for a domain is delivered here. -/
  isLocal : Domain → world → Bool × world

def DomainList.requireDefault (list : DomainList) : Except LookupError Domain :=
  match list.defaultDomain with
  | some domain => .ok domain
  | none => .error .noDefaultDomain

namespace Directory

/-- The answers of a table and a list of local domains, which come at once. -/
def ofTable (table : RuleTable) (domains : DomainList) : Directory Unit where
  resolve source kinds world := (⟨table.resolve source kinds, 0⟩, world)
  forwardRules source world := (⟨.ok (table.forwardRules source), 0⟩, world)
  defaultDomain world := (domains.requireDefault, world)
  isLocal domain world := (domains.isLocal domain, world)

end Directory

end RecipientRewriting
