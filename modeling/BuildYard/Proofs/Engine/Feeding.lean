import BuildYard.Proofs.Engine.Settlement
import BuildYard.Rehearsal.Script
import BuildYard.Relay
import Mathlib.Logic.Relation

/-!
# Programs that are fed

A program that is run to its end is fed through a pipe. What was written waits
in the pipe until the program takes it, and more than the pipe holds cannot
wait. When the program closes its end, as it does when it ends, nobody is left
to take anything, and what was not written by then never is. A history is a row
of such steps (`Feeding.Step`); no byte is lost in it or changes its place, and
the pipe never holds more than it can (`Fed.whole`, `Fed.room`).

How the run comes out depends on the history and not on the program alone. All
that has to be written was written if the program took all of it (`Fed.written_of_taken`);
that is impossible if more than the pipe holds was not taken (`Fed.cut_of_long`); and in
between it depends on who is faster (`fed_or_cut`).

A run whose input could be written tells what the program told: its output, or
its complaint. A run whose input could not be written tells of the pipe, whatever
the program told, and even if it was successful (`failure_told_iff_fed`).
-/

set_option autoImplicit false

namespace BuildYard

open Relation (ReflTransGen)

namespace Host

/-- How a program lived that came to its end: its exit code, unless a signal ended it, and what it
wrote. -/
structure Life where
  code : Option Int
  out : Bytes
  err : Bytes
  deriving DecidableEq, Repr

/-- How far a program has been fed. -/
structure Feeding where
  /-- still to be written -/
  left : Bytes
  /-- written and not taken -/
  piped : Bytes := []
  taken : Bytes := []
  /-- the program takes nothing any more: it closed its end of the pipe, or ended -/
  closed : Bool := false
  deriving DecidableEq, Repr

namespace Feeding

/-- What can happen while a program is fed through a pipe. -/
inductive Step (capacity : Nat) : Feeding → Feeding → Prop where
  | write {piped chunk rest taken : Bytes} (room : (piped ++ chunk).length ≤ capacity) :
      Step capacity ⟨chunk ++ rest, piped, taken, false⟩ ⟨rest, piped ++ chunk, taken, false⟩
  | take {left chunk rest taken : Bytes} :
      Step capacity ⟨left, chunk ++ rest, taken, false⟩ ⟨left, rest, taken ++ chunk, false⟩
  | close {left piped taken : Bytes} :
      Step capacity ⟨left, piped, taken, false⟩ ⟨left, piped, taken, true⟩

/-- What a run comes to that ends in this way. -/
def outcome (final : Feeding) (life : Life) : Outcome :=
  if final.left.isEmpty then .ended life.code life.out life.err else .unread

/-- All that there is to feed, in its order. -/
def whole (feeding : Feeding) : Bytes :=
  feeding.taken ++ (feeding.piped ++ feeding.left)

end Feeding

/-- A history in which a program is fed `input` until it takes nothing any more. -/
structure Fed (capacity : Nat) (input : Bytes) (final : Feeding) : Prop where
  runs : ReflTransGen (Feeding.Step capacity) { left := input } final
  closed : final.closed = true

section Histories

variable {capacity : Nat} {input : Bytes} {before after final : Feeding}

/-- **A step loses no byte, and keeps to what the pipe holds.** -/
theorem Feeding.Step.kept (step : Feeding.Step capacity before after)
    (room : before.piped.length ≤ capacity) :
    after.whole = before.whole ∧ after.piped.length ≤ capacity := by
  cases step with
  | write room' => exact ⟨by simp only [whole, List.append_assoc], room'⟩
  | take =>
    refine ⟨by simp only [whole, List.append_assoc], ?_⟩
    rw [List.length_append] at room
    exact Nat.le_trans (Nat.le_add_left _ _) room
  | close => exact ⟨rfl, room⟩

/-- **No history loses a byte, and none has more in the pipe than that holds.** -/
theorem Feeding.kept (runs : ReflTransGen (Feeding.Step capacity) { left := input } final) :
    final.whole = input ∧ final.piped.length ≤ capacity := by
  induction runs with
  | refl => exact ⟨rfl, Nat.zero_le _⟩
  | tail _ step ih =>
    obtain ⟨same, room⟩ := step.kept ih.2
    exact ⟨same.trans ih.1, room⟩

theorem Fed.whole (fed : Fed capacity input final) : final.whole = input :=
  (Feeding.kept fed.runs).1

theorem Fed.room (fed : Fed capacity input final) : final.piped.length ≤ capacity :=
  (Feeding.kept fed.runs).2

/-- What was taken was written before. -/
theorem Fed.written_of_taken (fed : Fed capacity input final) (taken : final.taken = input) :
    final.left = [] := by
  have whole := fed.whole
  rw [Feeding.whole, taken] at whole
  exact (List.append_eq_nil_iff.mp (List.append_right_eq_self.mp whole)).2

/-- What neither was taken nor fits into the pipe was not written. -/
theorem Fed.cut_of_long (fed : Fed capacity input final)
    (long : final.taken.length + capacity < input.length) : final.left ≠ [] := by
  intro written
  have whole := congrArg List.length fed.whole
  have room := fed.room
  rw [Feeding.whole, written, List.append_nil, List.length_append] at whole
  omega

/-- What fits into the pipe can be written at once. -/
theorem Feeding.Step.whole (fits : input.length ≤ capacity) :
    Step capacity { left := input } ⟨[], input, [], false⟩ := by
  have step : Step capacity ⟨input ++ [], [], [], false⟩ ⟨[], [] ++ input, [], false⟩ := .write fits
  rwa [List.append_nil] at step

/-- **Whether a program is fed can depend on who is faster.** If it takes nothing of what fits into
the pipe, all may have been written when it closes its end, or nothing. -/
theorem fed_or_cut (some : input ≠ []) (fits : input.length ≤ capacity) :
    (∃ final, Fed capacity input final ∧ final.taken = [] ∧ final.left = []) ∧
      ∃ final, Fed capacity input final ∧ final.taken = [] ∧ final.left ≠ [] := by
  refine ⟨⟨⟨[], input, [], true⟩, ⟨?_, rfl⟩, rfl, rfl⟩, ⟨⟨input, [], [], true⟩, ⟨?_, rfl⟩, rfl, some⟩⟩
  · exact .tail (.single (.whole fits)) .close
  · exact .single .close

/-- A program that goes on taking can take all, a byte at a time. -/
theorem Feeding.runs_all (possible : 0 < capacity) (input taken : Bytes) :
    ReflTransGen (Step capacity) ⟨input, [], taken, false⟩ ⟨[], [], taken ++ input, false⟩ := by
  induction input generalizing taken with
  | nil => rw [List.append_nil]
  | cons byte rest ih =>
    have write : Step capacity ⟨[byte] ++ rest, [], taken, false⟩
        ⟨rest, [] ++ [byte], taken, false⟩ := .write possible
    have take : Step capacity ⟨rest, [byte] ++ [], taken, false⟩
        ⟨rest, [], taken ++ [byte], false⟩ := .take
    have later := ih (taken ++ [byte])
    rw [List.append_assoc, List.singleton_append] at later
    exact .head write (.head take later)

end Histories

end Host

/-! ## The engine that is rehearsed -/

namespace Rehearsal

open Host

/-- How a program lives that does what a rule says. -/
def CommandRule.life (rule : CommandRule) (input : Bytes) : Life where
  code := if rule.aborts then none else some rule.code
  out := if rule.reads then rule.output input else rule.out
  err := rule.err

/-- **Every run of the rehearsed engine comes out as some history of a pipe does**, in which the
program takes all of its input or nothing. -/
theorem CommandRule.outcome_fed (rule : CommandRule) (input : Bytes) :
    ∃ final, Fed pipeCapacity input final ∧ final.taken = (if rule.reads then input else []) ∧
      rule.outcome input = final.outcome (rule.life input) := by
  by_cases reads : rule.reads = true
  · refine ⟨⟨[], [], input, true⟩, ⟨?_, rfl⟩, (if_pos reads).symm, ?_⟩
    · exact .tail (Feeding.runs_all (by decide) input []) .close
    · rw [outcome, if_pos reads, Feeding.outcome, life, if_pos reads]
      rfl
  · rcases Nat.lt_or_ge pipeCapacity input.length with long | fits
    · refine ⟨⟨input, [], [], true⟩, ⟨.single .close, rfl⟩, (if_neg reads).symm, ?_⟩
      have some : ¬ input.isEmpty := by
        rw [List.isEmpty_iff]
        rintro rfl
        exact absurd long (Nat.not_lt_zero _)
      rw [outcome, if_neg reads, if_pos long, Feeding.outcome, if_neg some]
    · refine ⟨⟨[], input, [], true⟩, ⟨?_, rfl⟩, (if_neg reads).symm, ?_⟩
      · exact .tail (.single (.whole fits)) .close
      · rw [outcome, if_neg reads, if_neg (Nat.not_lt.mpr fits), Feeding.outcome, life,
          if_neg reads]
        rfl

end Rehearsal

/-! ## What a run tells -/

namespace ByCommand

open Host (Life Feeding Fed)

variable {driver : ByCommand} {capacity : Nat} {α : Type}

/-- What a program told: that it failed with its complaint, or what it wrote. -/
def told (operation : String) (life : Life) : Except EngineError String :=
  let output : Output := { successful := life.code == some 0, out := life.out, err := life.err }
  if output.successful then .ok output.text else .error (.cli operation output.complaint)

/-- A run, whatever was the history behind its outcome, tells what the program told exactly if all
input was written, and otherwise that the pipe is broken. -/
def TellsIfFed (capacity : Nat) (operation : String) (input : Bytes) (shown : String → α)
    (outcome : Host.Outcome) (result : Except EngineError α) : Prop :=
  ∀ life final, Fed capacity input final → outcome = final.outcome life →
    (result = (told operation life).map shown ↔ final.left = []) ∧
      (final.left ≠ [] → result = .error (.io .brokenPipe))

theorem told_ne_brokenPipe (operation : String) (life : Life) (shown : String → α) :
    (told operation life).map shown ≠ .error (.io .brokenPipe) := by
  intro same
  rw [told] at same
  split at same
  · cases same
  · cases same

theorem runResult_tellsIfFed (operation : String) (input : Bytes) (shown : String → α)
    (outcome : Host.Outcome) :
    TellsIfFed capacity operation input shown outcome
      ((driver.runResult operation outcome).map shown) := by
  rintro life final - rfl
  by_cases written : final.left = []
  · refine ⟨iff_of_true ?_ written, fun cut => absurd written cut⟩
    rw [Feeding.outcome, if_pos (List.isEmpty_iff.mpr written)]
    rfl
  · have broken : (driver.runResult operation (final.outcome life)).map shown =
        .error (.io .brokenPipe) := by
      rw [Feeding.outcome, if_neg fun empty => written (List.isEmpty_iff.mp empty)]
      rfl
    refine ⟨iff_of_false ?_ written, fun _ => broken⟩
    rw [broken]
    exact (told_ne_brokenPipe operation life shown).symm

/-- An attempt that is one run with this input, and tells what the program told if it was fed. -/
def RunsFed (driver : ByCommand) (capacity : Nat) (operation : String) (arguments : List String)
    (input : Option Bytes) (shown : String → α) (attempt : Attempt α) : Prop :=
  attempt.Ensures fun result made => ∃ outcome,
    made = [⟨.invoke (driver.invocation arguments) input, outcome⟩] ∧
      TellsIfFed capacity operation (input.getD []) shown outcome result

theorem run_runsFed (driver : ByCommand) (capacity : Nat) (operation : String)
    (arguments : List String) (input : Option Bytes) (shown : String → α) :
    driver.RunsFed capacity operation arguments input shown
      (shown <$> driver.run operation arguments input) := by
  rw [RunsFed, Attempt.Ensures, Host.Ensures, Attempt.ensures_map]
  refine ensures_run.mpr fun outcome => ?_
  exact ⟨outcome, rfl, runResult_tellsIfFed operation _ shown outcome⟩

/-- **What is told of a failure.** A run of the engine's program is one question to the host; it
tells what the program told exactly if all input was written before the program closed its end of
the pipe, as it was if the program took all of it, and was not if more than the pipe holds was not
taken. Otherwise it tells that the pipe is broken, whether or not the program succeeded. So it is for
every command, with those among them that are fed: unpacking an archive and building an image. -/
theorem failure_told_iff_fed (driver : ByCommand) (capacity : Nat) :
    (∀ operation arguments input, driver.RunsFed capacity operation arguments input id
      (driver.run operation arguments input)) ∧
    (∀ container dir archive, driver.RunsFed capacity "cp" ["cp", "-", container ++ ":" ++ dir]
      (some archive) (fun _ => ()) (.mk (driver.step (.copyIn container dir archive)))) ∧
    (∀ context tag forcePull, driver.RunsFed capacity "build"
      ["build", "--pull=" ++ Text.Literal.flag forcePull, "-t", tag, "-"] (some context)
      (fun _ => ()) (driver.attempt (.buildImage context tag forcePull))) ∧
    ∀ input final, Fed capacity input final →
      (final.taken = input → final.left = []) ∧
        (final.taken.length + capacity < input.length → final.left ≠ []) := by
  refine ⟨fun operation arguments input => ?_, fun container dir archive => ?_,
    fun context tag forcePull => ?_, fun input final fed => ?_⟩
  · have runs := driver.run_runsFed capacity operation arguments input id
    rwa [id_map] at runs
  · exact driver.run_runsFed capacity "cp" _ (some archive) _
  · exact driver.run_runsFed capacity "build" _ (some context) _
  · exact ⟨fed.written_of_taken, fed.cut_of_long⟩

/-! ### A program that takes nothing -/

/-- A program that refuses to build an image and takes nothing of the context. -/
def refusing : Rehearsal.CommandRule :=
  { arguments := ["build"], ignoresInput := true, code := 1, err := Bytes.ofString "denied\n" }

theorem told_refusing (context : Bytes) :
    told "build" (refusing.life context) = .error (.cli "build" "denied") := by
  have complaint : Text.trim (Bytes.textLossy refusing.err) = "denied" := by decide +kernel
  exact congrArg (fun text => Except.error (EngineError.cli "build" text)) complaint

/-- A host on which every run of a program comes out in one way. -/
def hostEnding (outcome : Host.Outcome) (ask : Host.Ask) (now : Unit) : ask.Answer × Unit :=
  match ask with
  | .invoke _ _ => (outcome, now)
  | ask => (Relay.answer ask .null, now)

/-- What comes of building an image where the program refuses. -/
def builtRefusing (context : Bytes) : List HostExchange × Except EngineError Unit × Unit :=
  ((default : ByCommand).attempt (.buildImage context "t" false)).run.record
    (hostEnding (refusing.outcome context)) ()

theorem failure_told_iff_fed_short :
    refusing.outcome [1, 2] = .ended (some 1) [] (Bytes.ofString "denied\n") ∧
      (builtRefusing [1, 2]).2.1 = .error (.cli "build" "denied") := by
  refine ⟨rfl, ?_⟩
  obtain ⟨outcome, made, tells⟩ := (failure_told_iff_fed default Rehearsal.pipeCapacity).2.2.1
    [1, 2] "t" false _ _ (Program.yields_record (hostEnding (refusing.outcome [1, 2])) _ ())
  have written : Fed Rehearsal.pipeCapacity [1, 2] ⟨[], [1, 2], [], true⟩ :=
    ⟨.tail (.single (.whole (by decide))) .close, rfl⟩
  have asked : requests (builtRefusing [1, 2]).1 =
      [⟨.invoke _ (some [1, 2]), refusing.outcome [1, 2]⟩] := rfl
  obtain ⟨exchange, -⟩ := List.cons.inj (made.symm.trans asked)
  have same : outcome = refusing.outcome [1, 2] := eq_of_heq (Exchange.mk.inj exchange).2
  refine ((tells (refusing.life [1, 2]) _ written same).1.mpr rfl).trans ?_
  rw [told_refusing]
  rfl

/-- **The complaint of a program is lost that takes nothing of what does not fit into the pipe.** -/
theorem complaint_lost_unread :
    let context := List.replicate (Rehearsal.pipeCapacity + 1) 0
    (∃ final, Fed Rehearsal.pipeCapacity context final ∧
      refusing.outcome context = final.outcome (refusing.life context)) ∧
    told "build" (refusing.life context) = .error (.cli "build" "denied") ∧
    (builtRefusing context).2.1 = .error (.io .brokenPipe) := by
  intro context
  have long : Rehearsal.pipeCapacity < context.length := by
    rw [List.length_replicate]
    exact Nat.lt_succ_self _
  have unread : refusing.outcome context = .unread := by
    rw [Rehearsal.CommandRule.outcome, if_neg (by decide), if_pos long]
  refine ⟨?_, told_refusing context, ?_⟩
  · obtain ⟨final, fed, -, same⟩ := refusing.outcome_fed context
    exact ⟨final, fed, same⟩
  · rw [builtRefusing, unread]
    rfl

end ByCommand

end BuildYard
