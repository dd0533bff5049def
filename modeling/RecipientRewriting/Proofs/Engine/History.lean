import RecipientRewriting.Engine
import RecipientRewriting.Proofs.Processing.Renaming

/-!
# What an engine remembers

An engine takes all copies out of its recorder after every mail, also if the pass has
failed after some of them were taken.  Its rules and domains never change, and what a
pass finds out ends with it.  So between mails an engine differs from a new one only
in the name that the next copy gets, and the names of copies are all that the answer
for a mail owes to the mails before it.
-/

namespace RecipientRewriting

/-! ## Answers under other names -/

def MailSummary.rename (rename : MailName → MailName) (summary : MailSummary) : MailSummary :=
  { summary with name := rename summary.name }

def Report.renameCopies (rename : MailName → MailName) (report : Report) : Report :=
  { report with injected := report.injected.map (.rename rename) }

theorem PassState.events_advance
    {directoryWorld : Type} (distance : BitVec 128) (state : PassState directoryWorld Recorder) :
    (state.advance distance).events = state.events.map (.renameCopy (.advance distance)) := by
  have event (effect : Effect) : (effect.renameCopy (.advance distance)).event? =
      effect.event?.map (.renameCopy (.advance distance)) := by
    cases effect <;> rfl
  unfold events advance
  rw [List.filterMap_map, List.map_filterMap]
  exact congrArg (List.filterMap · state.trace) (funext event)

namespace EngineAnswer

def renameCopies (rename : MailName → MailName) (answer : EngineAnswer) : EngineAnswer where
  result := answer.result.map (.renameCopies rename)
  events := answer.events.map (.renameCopy rename)

/-- The other answer is this one, but for the names of the copies, and copies with
different names in one have different names in the other. -/
def SameUpToNames (answer other : EngineAnswer) : Prop :=
  ∃ rename, Function.Injective rename ∧ other = answer.renameCopies rename

def ofProcessed (processed : Processed Unit Recorder) : EngineAnswer where
  result := processed.result.map fun () =>
    { mail := .ofMail processed.mail processed.mail.state
      injected := processed.state.transport.takeAll.1.map .ofInjection }
  events := processed.state.events

theorem ofProcessed_advance
    (distance : BitVec 128) (processed : Processed Unit Recorder) :
    ofProcessed { processed with state := processed.state.advance distance } =
      (ofProcessed processed).renameCopies (.advance distance) := by
  obtain ⟨result, mail, state⟩ := processed
  have copies : (state.advance distance).transport.takeAll.1.map MailSummary.ofInjection =
      (state.transport.takeAll.1.map .ofInjection).map (.rename (.advance distance)) := by
    dsimp only [Recorder.takeAll, PassState.advance]
    rw [List.map_map, List.map_map]
    rfl
  unfold ofProcessed renameCopies
  dsimp only
  rw [copies, PassState.events_advance]
  cases result <;> rfl

end EngineAnswer

namespace Engine

def processAll (engine : Engine) : List Mail → List EngineAnswer × Engine
  | [] => ([], engine)
  | mail :: rest =>
      let (answer, later) := engine.process mail
      let (answers, last) := later.processAll rest
      (answer :: answers, last)

variable (configuration : Configuration) (names : NameSupply) (mail : Mail)

/-- After a mail, whatever became of it, the engine is as good as new. -/
theorem process_renews :
    ∃ later, ((ofConfiguration configuration names).process mail).2 =
      ofConfiguration configuration later := by
  have leftOpen : ((ofConfiguration configuration names).processor.processMail mail
      (ofConfiguration configuration names).surroundings).state.transport.IsOpen :=
    (Processor.processMail_advance rfl 0 mail () names).1
  refine ⟨((ofConfiguration configuration names).processor.processMail mail
    (ofConfiguration configuration names).surroundings).state.names, ?_⟩
  have emptied :
      ((ofConfiguration configuration names).processor.processMail mail
        (ofConfiguration configuration names).surroundings).state.transport.takeAll.2 =
      Recorder.empty := by
    rw [Recorder.takeAll, Recorder.empty, ← leftOpen.accepting]
  unfold process
  dsimp only
  rw [emptied]
  rfl

theorem process_answer (engine : Engine) (mail : Mail) :
    (engine.process mail).1 =
      .ofProcessed (engine.processor.processMail mail engine.surroundings) :=
  rfl

/-- An engine with names from further on gives the same answer under these names. -/
theorem process_advance (distance : BitVec 128) :
    ((ofConfiguration configuration ⟨names.next + distance⟩).process mail).1 =
      ((ofConfiguration configuration names).process mail).1.renameCopies (.advance distance) := by
  have recording : (ofConfiguration configuration names).processor.transport =
      Recorder.transport :=
    rfl
  calc ((ofConfiguration configuration ⟨names.next + distance⟩).process mail).1
      = .ofProcessed ((ofConfiguration configuration names).processor.processMail mail
          ⟨(), .empty, ⟨names.next + distance⟩⟩) := process_answer _ mail
    _ = .ofProcessed _ :=
        congrArg _ (Processor.processMail_advance recording distance mail () names).2
    _ = (EngineAnswer.ofProcessed _).renameCopies (.advance distance) :=
        EngineAnswer.ofProcessed_advance distance _
    _ = ((ofConfiguration configuration names).process mail).1.renameCopies
          (.advance distance) := congrArg _ (process_answer _ mail).symm

theorem process_sameUpToNames (fresh : NameSupply) :
    ((ofConfiguration configuration names).process mail).1.SameUpToNames
      ((ofConfiguration configuration fresh).process mail).1 := by
  refine ⟨.advance (fresh.next - names.next), MailName.advance_injective _, ?_⟩
  have reached : (⟨names.next + (fresh.next - names.next)⟩ : NameSupply) = fresh := by
    rw [BitVec.add_comm, BitVec.sub_add_cancel]
  rw [← process_advance, reached]

/-- Mails given to an engine one after the other do not affect each other: the answer
for each of them, be it an error or a report with all copies in order, is the one
that a new engine gives for this mail alone, up to the names of copies. -/
theorem history_irrelevant
    (configuration : Configuration) (names : NameSupply) (mails : List Mail) :
    List.Forall₂
      (fun mail answer => ∀ fresh : NameSupply,
        answer.SameUpToNames ((ofConfiguration configuration fresh).process mail).1)
      mails ((ofConfiguration configuration names).processAll mails).1 := by
  induction mails generalizing names with
  | nil => exact .nil
  | cons mail rest inductionHypothesis =>
      obtain ⟨later, renewed⟩ := process_renews configuration names mail
      have answered : ((ofConfiguration configuration names).processAll (mail :: rest)).1 =
          ((ofConfiguration configuration names).process mail).1 ::
            ((ofConfiguration configuration later).processAll rest).1 := by
        rw [← renewed]
        rfl
      rw [answered]
      exact .cons (process_sameUpToNames configuration names mail) (inductionHypothesis later)

/-- A remote user is redirected to, and a local one forwards to an address without a
domain, while there is no default domain. -/
def halfwayConfiguration : Configuration where
  processor := { ProcessorSettings.default with forwardSeparately := true }
  table := ⟨true, 3, .ofList [
    (.user "a" (.ofString "x.org"), [⟨.userAlias, "c@y.org"⟩]),
    (.user "b" (.ofString "x.org"), [⟨.forward, "dan"⟩])]⟩
  domains := ⟨none, [.ofString "x.org"]⟩
  audit := .default

/-- The pass of the first mail fails after a copy was taken, and the second mail has
only its own copy in the report. -/
example :
    let mailTo (localParts : List String) : Mail :=
      .fresh ⟨0⟩ ⟨none, localParts.map fun part => ⟨part, .ofString "x.org"⟩⟩ []
    let answers := ((ofConfiguration halfwayConfiguration ⟨1⟩).processAll
      [mailTo ["a", "b"], mailTo ["a"]]).1
    (answers.map fun answer =>
        answer.result.toOption.map fun report =>
          report.injected.map fun copy => (copy.name, copy.recipients)) =
      [none, some [(⟨2⟩, [⟨"c", .ofString "y.org"⟩])]] := by
  decide +kernel

end Engine

end RecipientRewriting
