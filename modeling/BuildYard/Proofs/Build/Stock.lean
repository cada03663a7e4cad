import BuildYard.Engine.InMemory
import BuildYard.Proofs.Build.Atomicity
import BuildYard.Proofs.Text.Digits

/-!
# What an engine in memory holds

An engine in memory holds containers and volumes, here both called things. A
call supplies a new thing, or it takes one away that is there, or what is held
stays as it is (`Stocks`, `perform_stocks`). Names and ids come from one
counter, and differ also between a container and a volume, so that a thing is
supplied only once: what an engine holds is what it has supplied and not lost
since (`Stocked`, `Served.stocked`). Many may use one engine, and which
operations fail may change at any time.
-/

set_option autoImplicit false

namespace BuildYard

/-- A container, by its id, or a volume, by its name. -/
inductive Thing where
  | container (id : String)
  | volume (name : String)
  deriving DecidableEq

/-- The id or the name of a thing. -/
def Thing.name : Thing → String
  | container id => id
  | volume name => name

/-! ## What calls do to things -/

namespace CallMade

/-- The thing that a call created, if it did. -/
def got (call : CallMade) : Option Thing :=
  (call.created.map fun handle => .container handle.id).or (call.createdVolume.map .volume)

/-- The thing that a call was to remove, whatever came of it. -/
def gaveUp : CallMade → Option Thing
  | ⟨.removeContainer handle, _⟩ => some (.container handle.id)
  | ⟨.removeVolume name, _⟩ => some (.volume name)
  | _ => none

/-- The thing that a call removed. -/
def lost : CallMade → Option Thing
  | ⟨.removeContainer handle, .ok ()⟩ => some (.container handle.id)
  | ⟨.removeVolume name, .ok ()⟩ => some (.volume name)
  | _ => none

/-- The thing that does not exist, as a call was told. -/
def missed : CallMade → Option Thing
  | ⟨.hasContainer id, .ok false⟩ => some (.container id)
  | ⟨.hasVolume name, .ok false⟩ => some (.volume name)
  | _ => none

/-- A call that fails creates nothing. -/
theorem got_error (question : Call) (cause : EngineError) :
    got ⟨question, .error cause⟩ = none := by
  cases question <;> rfl

/-- Only a success removes anything. -/
theorem lost_error (question : Call) (cause : EngineError) :
    lost ⟨question, .error cause⟩ = none := by
  cases question <;> rfl

theorem gaveUp_of_lost {call : CallMade} {thing : Thing} (lost : call.lost = some thing) :
    call.gaveUp = some thing := by
  obtain ⟨question, answer⟩ := call
  cases question with
  | removeContainer handle =>
    cases answer with
    | error cause => cases lost
    | ok done => exact lost
  | removeVolume name =>
    cases answer with
    | error cause => cases lost
    | ok done => exact lost
  | _ => cases lost

theorem missed_hasContainer {id : String} {answer : Except EngineError Bool} {thing : Thing}
    (missed : missed ⟨.hasContainer id, answer⟩ = some thing) :
    answer = .ok false ∧ thing = .container id := by
  rcases answer with cause | found | found
  · cases missed
  · exact ⟨rfl, (Option.some.inj missed).symm⟩
  · cases missed

theorem missed_hasVolume {name : String} {answer : Except EngineError Bool} {thing : Thing}
    (missed : missed ⟨.hasVolume name, answer⟩ = some thing) :
    answer = .ok false ∧ thing = .volume name := by
  rcases answer with cause | found | found
  · cases missed
  · exact ⟨rfl, (Option.some.inj missed).symm⟩
  · cases missed

end CallMade

/-- The things created, in order. -/
def gotBy (calls : List CallMade) : List Thing :=
  calls.filterMap CallMade.got

/-- The things passed to a removal, in order. -/
def gaveUpBy (calls : List CallMade) : List Thing :=
  calls.filterMap CallMade.gaveUp

/-- The things removed, in order. -/
def lostBy (calls : List CallMade) : List Thing :=
  calls.filterMap CallMade.lost

/-- The things that turned out not to exist, in order. -/
def missedBy (calls : List CallMade) : List Thing :=
  calls.filterMap CallMade.missed

section Append

variable (calls more : List CallMade)

theorem gotBy_append : gotBy (calls ++ more) = gotBy calls ++ gotBy more :=
  List.filterMap_append

theorem gaveUpBy_append : gaveUpBy (calls ++ more) = gaveUpBy calls ++ gaveUpBy more :=
  List.filterMap_append

theorem lostBy_append : lostBy (calls ++ more) = lostBy calls ++ lostBy more :=
  List.filterMap_append

theorem missedBy_append : missedBy (calls ++ more) = missedBy calls ++ missedBy more :=
  List.filterMap_append

theorem gotBy_singleton (call : CallMade) : gotBy [call] = call.got.toList := by
  rw [gotBy, List.filterMap_cons]
  cases call.got <;> rfl

theorem lostBy_singleton (call : CallMade) : lostBy [call] = call.lost.toList := by
  rw [lostBy, List.filterMap_cons]
  cases call.lost <;> rfl

end Append

namespace InMemory

/-! ## Names -/

/-- What names and ids begin with. -/
def fronts : List String :=
  ["vol", "agent", "work", "side"]

/-- A name or an id that an engine may have given out when it has given out `given`. -/
def GivenOut (given : Nat) (name : String) : Prop :=
  ∃ front ∈ fronts, ∃ n ≤ given, name = front ++ Text.padded 4 n

theorem GivenOut.mono {given more : Nat} {name : String} (out : GivenOut given name)
    (le : given ≤ more) : GivenOut more name := by
  obtain ⟨front, known, n, before, same⟩ := out
  exact ⟨front, known, n, before.trans le, same⟩

theorem GivenOut.nonempty {given : Nat} {name : String} (out : GivenOut given name) :
    name ≠ "" := by
  obtain ⟨front, known, n, -, rfl⟩ := out
  intro empty
  have front_empty : front = "" := (String.append_eq_empty_iff.mp empty).1
  subst front_empty
  exact absurd known (by decide)

theorem givenOut_nextName {engine : InMemory} {front : String} (known : front ∈ fronts) :
    GivenOut (engine.given + 1) (engine.nextName front) :=
  ⟨front, known, engine.given + 1, Nat.le_refl _, rfl⟩

/-- What names begin with is told by their first letter. -/
theorem front_unique {front other : String} (known : front ∈ fronts) (known' : other ∈ fronts)
    {back rest : String} (same : front ++ back = other ++ rest) : front = other := by
  have nonempty : ∀ front ∈ fronts, front.toList ≠ [] := by decide
  have told : ∀ front ∈ fronts, ∀ other ∈ fronts,
      front.toList.head? = other.toList.head? → front = other := by decide
  have letter {front : String} (known : front ∈ fronts) (back : String) :
      (front ++ back).toList.head? = front.toList.head? := by
    rw [String.toList_append, List.head?_append_of_ne_nil _ (nonempty front known)]
  refine told front known other known' ?_
  rw [← letter known back, ← letter known' rest, same]

/-- **The next name is a new one**, whatever it begins with. -/
theorem nextName_new {engine : InMemory} {front : String} (known : front ∈ fronts) :
    ¬GivenOut engine.given (engine.nextName front) := by
  rintro ⟨other, known', n, before, same⟩
  obtain rfl := front_unique known known' same
  have digits : Text.padded 4 (engine.given + 1) = Text.padded 4 n :=
    String.append_right_inj _ |>.mp same
  have equal := Text.padded_injective 4 digits
  omega

/-! ## What an engine holds -/

/-- A thing is there. -/
def Holds (engine : InMemory) : Thing → Prop
  | .container id => id ∈ engine.containers.map (·.id)
  | .volume name => name ∈ engine.volumes

/-- What a call does to the things that an engine holds. -/
inductive Stocks (engine : InMemory) (call : CallMade) (after : InMemory) : Prop where
  | supplied {thing : Thing} (got : call.got = some thing) (lost : call.lost = none)
      (new : ¬GivenOut engine.given thing.name) (given : after.given = engine.given + 1)
      (out : GivenOut after.given thing.name)
      (holds : ∀ other, after.Holds other ↔ engine.Holds other ∨ other = thing)
  | lost {thing : Thing} (got : call.got = none) (lost : call.lost = some thing)
      (held : engine.Holds thing) (given : after.given = engine.given)
      (holds : ∀ other, after.Holds other ↔ engine.Holds other ∧ other ≠ thing)
  | kept (got : call.got = none) (lost : call.lost = none) (given : after.given = engine.given)
      (holds : ∀ other, after.Holds other ↔ engine.Holds other)

variable {engine after : InMemory}

/-- What an engine holds is told by its containers and volumes. -/
theorem stocks_kept {call : CallMade} (got : call.got = none) (lost : call.lost = none)
    (given : after.given = engine.given)
    (containers : after.containers.map (·.id) = engine.containers.map (·.id))
    (volumes : after.volumes = engine.volumes) : Stocks engine call after := by
  refine .kept got lost given fun other => ?_
  cases other with
  | container id => simp only [Holds, containers]
  | volume name => simp only [Holds, volumes]

/-- A call that creates a container supplies it. -/
theorem stocks_create {call : CallMade} {front image : String} {role : Role}
    {agent : Option Handle} {hints : Hints} (known : front ∈ fronts)
    (got : call.got = some (.container (engine.nextName front))) (lost : call.lost = none) :
    Stocks engine call (engine.create front image role agent hints).2 := by
  refine .supplied got lost (nextName_new known) rfl (givenOut_nextName known) fun other => ?_
  cases other with
  | volume name => simp [Holds, create, put]
  | container id =>
    simp only [Holds, create, put, List.map_append, List.mem_append, List.mem_map,
      List.mem_filter, List.mem_singleton, decide_eq_true_eq, Thing.container.injEq]
    by_cases new : id = engine.nextName front
    · simp [new]
    · constructor
      · rintro (⟨container, ⟨there, -⟩, rfl⟩ | ⟨container, rfl, rfl⟩)
        · exact .inl ⟨container, there, rfl⟩
        · exact .inr rfl
      · rintro (⟨container, there, rfl⟩ | same)
        · exact .inl ⟨container, ⟨there, new⟩, rfl⟩
        · exact absurd same new

theorem stocks_createVolume :
    Stocks engine ⟨.createVolume, (engine.effect .createVolume).1⟩
      (engine.effect .createVolume).2 := by
  have known : "vol" ∈ fronts := by decide
  have got : CallMade.got ⟨.createVolume, (engine.effect .createVolume).1⟩ =
      some (.volume (engine.nextName "vol")) := rfl
  refine .supplied got rfl (nextName_new known) rfl (givenOut_nextName known) fun other => ?_
  cases other with
  | container id => simp [Holds, effect]
  | volume name =>
    simp only [Holds, effect, including, Thing.volume.injEq]
    split
    · next there =>
      have there : engine.nextName "vol" ∈ engine.volumes := by simpa using there
      constructor
      · exact .inl
      · rintro (held | rfl)
        · exact held
        · exact there
    · simp

theorem container?_isSome_iff {id : String} :
    (engine.container? id).isSome = true ↔ engine.Holds (.container id) := by
  simp [container?, Holds]

theorem stocks_removeContainer (handle : Handle) :
    Stocks engine ⟨.removeContainer handle, (engine.effect (.removeContainer handle)).1⟩
      (engine.effect (.removeContainer handle)).2 := by
  by_cases there : (engine.container? handle.id).isSome = true
  · simp only [effect, if_pos there]
    refine .lost rfl rfl (container?_isSome_iff.mp there) rfl fun other => ?_
    cases other with
    | volume name => simp [Holds]
    | container id =>
      simp only [Holds, List.mem_map, List.mem_filter, decide_eq_true_eq, ne_eq,
        Thing.container.injEq]
      constructor
      · rintro ⟨container, ⟨held, other⟩, rfl⟩
        exact ⟨⟨container, held, rfl⟩, other⟩
      · rintro ⟨⟨container, held, rfl⟩, other⟩
        exact ⟨container, ⟨held, other⟩, rfl⟩
  · simp only [effect, if_neg there]
    exact stocks_kept rfl rfl rfl rfl rfl

theorem stocks_removeVolume (name : String) :
    Stocks engine ⟨.removeVolume name, (engine.effect (.removeVolume name)).1⟩
      (engine.effect (.removeVolume name)).2 := by
  by_cases there : engine.volumes.contains name = true
  · simp only [effect, if_pos there]
    have held : engine.Holds (.volume name) := by simpa [Holds] using there
    refine .lost rfl rfl held rfl fun other => ?_
    cases other with
    | container id => simp [Holds]
    | volume other => simp [Holds]
  · simp only [effect, if_neg there]
    exact stocks_kept rfl rfl rfl rfl rfl

/-- What a call does that is not made to fail. -/
theorem effect_stocks (engine : InMemory) (call : Call) :
    Stocks engine ⟨call, (engine.effect call).1⟩ (engine.effect call).2 := by
  cases call with
  | createVolume => exact stocks_createVolume
  | removeVolume name => exact stocks_removeVolume name
  | removeContainer handle => exact stocks_removeContainer handle
  | launchAgent image volume =>
    by_cases there : engine.volumes.contains volume = true
    · simp only [effect, if_pos there]
      exact stocks_create (by decide) rfl rfl
    · simp only [effect, if_neg there]
      exact stocks_kept rfl rfl rfl rfl rfl
  | launchWork image agent hints => exact stocks_create (by decide) rfl rfl
  | launchSidecar image agent hints => exact stocks_create (by decide) rfl rfl
  | attachAgent agent input =>
    refine stocks_kept rfl rfl rfl ?_ rfl
    simp only [effect, setRunning, List.map_map]
    refine List.map_congr_left fun container _ => ?_
    by_cases same : container.id = agent.id <;> simp [same]
  | exec container starter =>
    by_cases running : ((engine.container? container).map (·.running)).getD false = true
    · simp only [effect, if_pos running]
      exact stocks_kept rfl rfl rfl rfl rfl
    · simp only [effect, if_neg running]
      exact stocks_kept rfl rfl rfl rfl rfl
  | buildImage context tag forcePull =>
    simp only [effect]
    cases Archive.firstFile context <;> exact stocks_kept rfl rfl rfl rfl rfl
  | _ => exact stocks_kept rfl rfl rfl rfl rfl

/-- An engine that has noted an operation. -/
def noting (engine : InMemory) (call : Call) : InMemory :=
  { engine with calls := engine.calls ++ [(call.operation, call.target)] }

/-- **An operation is answered without the engine, or it is made to fail, or it has its
effect.** -/
theorem perform_cases (engine : InMemory) (call : Call) :
    (isVoid call = true ∧ ∃ answer, nothing call = some answer ∧
        engine.perform call = (answer, engine)) ∨
      (∃ failure, engine.perform call = (.error failure, engine.noting call)) ∨
      engine.perform call = (engine.noting call).effect call := by
  simp only [perform]
  split
  · next answer void nothing => exact .inl ⟨void, answer, nothing, rfl⟩
  · right
    simp only [enter]
    by_cases gone : engine.unavailable = true
    · rw [if_pos gone]
      exact .inl ⟨_, rfl⟩
    · rw [if_neg gone]
      by_cases failing : engine.failing.contains call.operation = true
      · rw [if_pos failing]
        exact .inl ⟨_, rfl⟩
      · rw [if_neg failing]
        exact .inr rfl

theorem nothing_eq {call : Call} {answer : Except EngineError call.Value}
    (nothing : nothing call = some answer) :
    CallMade.got ⟨call, answer⟩ = none ∧ CallMade.lost ⟨call, answer⟩ = none := by
  cases call with
  | hasVolume name => exact ⟨rfl, rfl⟩
  | hasContainer id => exact ⟨rfl, rfl⟩
  | _ => cases nothing

/-- What is said of an engine holds of any that holds the same. -/
theorem Stocks.congr {other : InMemory} {call : CallMade} (stocks : Stocks other call after)
    (given : other.given = engine.given)
    (same : ∀ thing, other.Holds thing ↔ engine.Holds thing) : Stocks engine call after := by
  cases stocks with
  | supplied got lost new more out holds =>
    rw [given] at new more
    exact .supplied got lost new more out fun thing => (holds thing).trans (or_congr_left (same _))
  | lost got lost held more holds =>
    exact .lost got lost ((same _).mp held) (more.trans given) fun thing =>
      (holds thing).trans (and_congr_left fun _ => same _)
  | kept got lost more holds =>
    exact .kept got lost (more.trans given) fun thing => (holds thing).trans (same _)

theorem holds_noting {call : Call} {thing : Thing} :
    (engine.noting call).Holds thing ↔ engine.Holds thing := by
  cases thing <;> exact Iff.rfl

/-- **A call supplies a new thing, or takes one away that is there, or changes nothing of what is
held.** -/
theorem perform_stocks (engine : InMemory) (call : Call) :
    Stocks engine ⟨call, (engine.perform call).1⟩ (engine.perform call).2 := by
  rcases engine.perform_cases call with ⟨-, answer, nothing, same⟩ | ⟨failure, same⟩ | same
  · rw [same]
    obtain ⟨got, lost⟩ := nothing_eq nothing
    exact stocks_kept got lost rfl rfl rfl
  · rw [same]
    exact stocks_kept (CallMade.got_error _ _) (CallMade.lost_error _ _) rfl rfl rfl
  · rw [same]
    exact (effect_stocks _ call).congr rfl fun _ => holds_noting

/-! ## What is answered to those who ask for what is held -/

/-- The operations that give something up do not fail. -/
def Spares (failing : List String) : Prop :=
  "remove_container" ∉ failing ∧ "remove_volume" ∉ failing ∧ "close" ∉ failing

instance (failing : List String) : Decidable (Spares failing) :=
  inferInstanceAs (Decidable (_ ∧ _))

/-- An operation that does not fail has its effect. -/
theorem perform_eq_effect {call : Call} (reachable : engine.unavailable = false)
    (spared : call.operation ∉ engine.failing) (asked : isVoid call = false) :
    engine.perform call = (engine.noting call).effect call := by
  simp [perform, enter, noting, asked, reachable, spared]

/-- **What is held can be removed.** -/
theorem perform_gaveUp {call : Call} {thing : Thing} (reachable : engine.unavailable = false)
    (spared : Spares engine.failing) (held : engine.Holds thing)
    (gaveUp : CallMade.gaveUp ⟨call, (engine.perform call).1⟩ = some thing) :
    CallMade.lost ⟨call, (engine.perform call).1⟩ = some thing := by
  cases call with
  | removeContainer handle =>
    obtain rfl := Option.some.inj gaveUp
    have works : (Call.removeContainer handle).operation ∉ engine.failing := spared.1
    have there : ((engine.noting (.removeContainer handle)).container? handle.id).isSome = true :=
      container?_isSome_iff.mpr (holds_noting.mpr held)
    rw [perform_eq_effect reachable works rfl, effect, if_pos there]
    rfl
  | removeVolume name =>
    obtain rfl := Option.some.inj gaveUp
    have works : (Call.removeVolume name).operation ∉ engine.failing := spared.2.1
    have there : (engine.noting (.removeVolume name)).volumes.contains name = true := by
      simpa [Holds] using holds_noting.mpr held
    rw [perform_eq_effect reachable works rfl, effect, if_pos there]
    rfl
  | _ => cases gaveUp

theorem perform_close (reachable : engine.unavailable = false) (spared : Spares engine.failing) :
    (engine.perform .close).1 = .ok () := by
  have works : Call.close.operation ∉ engine.failing := spared.2.2
  rw [perform_eq_effect reachable works rfl]
  rfl

/-- **What is held is not missed.** -/
theorem perform_missed {call : Call} {thing : Thing} (nonempty : thing.name ≠ "")
    (missed : CallMade.missed ⟨call, (engine.perform call).1⟩ = some thing) :
    ¬engine.Holds thing := by
  rcases engine.perform_cases call with ⟨void, -⟩ | ⟨failure, same⟩ | same
  · cases call with
    | hasContainer id =>
      obtain ⟨-, rfl⟩ := CallMade.missed_hasContainer missed
      exact absurd (String.isEmpty_iff.mp void) nonempty
    | hasVolume name =>
      obtain ⟨-, rfl⟩ := CallMade.missed_hasVolume missed
      exact absurd (String.isEmpty_iff.mp void) nonempty
    | _ => cases missed
  · rw [same] at missed
    cases call <;> cases missed
  · rw [same] at missed
    intro held
    have noted : (engine.noting call).Holds thing := holds_noting.mpr held
    cases call with
    | hasContainer id =>
      obtain ⟨answer, rfl⟩ := CallMade.missed_hasContainer missed
      have absent := Except.ok.inj answer
      rw [← container?_isSome_iff, absent] at noted
      cases noted
    | hasVolume name =>
      obtain ⟨answer, rfl⟩ := CallMade.missed_hasVolume missed
      have absent := Except.ok.inj answer
      exact absurd noted (by simpa [Holds] using absent)
    | _ => cases missed

theorem effect_keeps (engine : InMemory) (call : Call) :
    (engine.effect call).2.unavailable = engine.unavailable ∧
      (engine.effect call).2.failing = engine.failing := by
  cases call with
  | removeVolume | launchAgent | exec | removeContainer | buildImage =>
    simp only [effect]
    split <;> exact ⟨rfl, rfl⟩
  | _ => exact ⟨rfl, rfl⟩

/-- Which operations fail does not depend on what an engine is asked. -/
theorem perform_keeps (engine : InMemory) (call : Call) :
    (engine.perform call).2.unavailable = engine.unavailable ∧
      (engine.perform call).2.failing = engine.failing := by
  rcases engine.perform_cases call with ⟨-, answer, -, same⟩ | ⟨failure, same⟩ | same
  · rw [same]
    exact ⟨rfl, rfl⟩
  · rw [same]
    exact ⟨rfl, rfl⟩
  · rw [same]
    exact effect_keeps _ call

/-! ## What was supplied and not lost -/

/-- What an engine that held nothing holds after some calls. -/
structure Stocked (calls : List CallMade) (engine : InMemory) : Prop where
  reachable : engine.unavailable = false
  /-- an engine holds what it has supplied and not lost since -/
  holds : ∀ thing, engine.Holds thing ↔ thing ∈ gotBy calls ∧ thing ∉ lostBy calls
  out : ∀ thing ∈ gotBy calls, GivenOut engine.given thing.name
  known : ∀ thing ∈ lostBy calls, thing ∈ gotBy calls
  /-- nothing is supplied twice -/
  once : (gotBy calls).Nodup

theorem Stocked.step {calls : List CallMade} {call : CallMade} (stocked : Stocked calls engine)
    (stocks : Stocks engine call after) (reachable : after.unavailable = engine.unavailable) :
    Stocked (calls ++ [call]) after := by
  have reached := reachable.trans stocked.reachable
  cases stocks with
  | @supplied thing got lost new given out holds =>
    have unknown : thing ∉ gotBy calls := fun member => new (stocked.out thing member)
    have unlost : thing ∉ lostBy calls := fun member => unknown (stocked.known thing member)
    have gots : gotBy (calls ++ [call]) = gotBy calls ++ [thing] := by
      rw [gotBy_append, gotBy_singleton, got, Option.toList_some]
    have losts : lostBy (calls ++ [call]) = lostBy calls := by
      rw [lostBy_append, lostBy_singleton, lost, Option.toList_none, List.append_nil]
    refine ⟨reached, fun other => ?_, fun other member => ?_, fun other member => ?_, ?_⟩
    · rw [holds, stocked.holds, gots, losts, List.mem_append, List.mem_singleton]
      constructor
      · rintro (⟨known, kept⟩ | rfl)
        · exact ⟨.inl known, kept⟩
        · exact ⟨.inr rfl, unlost⟩
      · rintro ⟨known | rfl, kept⟩
        · exact .inl ⟨known, kept⟩
        · exact .inr rfl
    · rw [gots, List.mem_append, List.mem_singleton] at member
      rcases member with known | rfl
      · exact (stocked.out other known).mono (given ▸ Nat.le_succ _)
      · exact out
    · rw [losts] at member
      rw [gots]
      exact List.mem_append_left _ (stocked.known other member)
    · rw [gots]
      exact stocked.once.append (List.nodup_singleton thing) (by simpa using unknown)
  | @lost thing got lost held given holds =>
    have gots : gotBy (calls ++ [call]) = gotBy calls := by
      rw [gotBy_append, gotBy_singleton, got, Option.toList_none, List.append_nil]
    have losts : lostBy (calls ++ [call]) = lostBy calls ++ [thing] := by
      rw [lostBy_append, lostBy_singleton, lost, Option.toList_some]
    refine ⟨reached, fun other => ?_, fun other member => ?_, fun other member => ?_,
      gots ▸ stocked.once⟩
    · rw [holds, stocked.holds, gots, losts, List.mem_append, List.mem_singleton, not_or, and_assoc]
    · rw [gots] at member
      exact given ▸ stocked.out other member
    · rw [losts, List.mem_append, List.mem_singleton] at member
      rw [gots]
      rcases member with before | rfl
      · exact stocked.known other before
      · exact ((stocked.holds other).mp held).1
  | kept got lost given holds =>
    have gots : gotBy (calls ++ [call]) = gotBy calls := by
      rw [gotBy_append, gotBy_singleton, got, Option.toList_none, List.append_nil]
    have losts : lostBy (calls ++ [call]) = lostBy calls := by
      rw [lostBy_append, lostBy_singleton, lost, Option.toList_none, List.append_nil]
    refine ⟨reached, fun other => ?_, ?_, ?_, gots ▸ stocked.once⟩
    · rw [holds, stocked.holds, gots, losts]
    · rw [gots, given]
      exact stocked.out
    · rw [gots, losts]
      exact stocked.known

/-! ## An engine that many use -/

section Served

variable {ι : Type}

/-- Calls of many users that one engine serves, one after another. At any time other operations
may be made to fail, but nothing that gives something up. -/
inductive Served (start : InMemory) : List (ι × CallMade) → InMemory → Prop where
  | start : Served start [] start
  | arrange {log : List (ι × CallMade)} {engine : InMemory} (served : Served start log engine)
      (failing : List String) : Served start log { engine with failing }
  | call {log : List (ι × CallMade)} {engine : InMemory} (served : Served start log engine)
      (spares : Spares engine.failing) (user : ι) (call : Call) :
      Served start (log ++ [(user, ⟨call, (engine.perform call).1⟩)]) (engine.perform call).2

variable {start : InMemory} {log : List (ι × CallMade)}

/-- The engine can be reached, and there is nothing in it yet. -/
def Empty (engine : InMemory) : Prop :=
  engine.unavailable = false ∧ engine.containers = [] ∧ engine.volumes = []

/-- **What an engine holds is what it has supplied and not lost**, whoever uses it. -/
theorem Served.stocked (served : Served start log engine) (empty : Empty start) :
    Stocked (log.map (·.2)) engine := by
  induction served with
  | start =>
    obtain ⟨reachable, containers, volumes⟩ := empty
    refine ⟨reachable, fun thing => ?_, nofun, nofun, List.nodup_nil⟩
    cases thing with
    | container id => simp [Holds, containers, gotBy]
    | volume name => simp [Holds, volumes, gotBy]
  | arrange _ failing ih =>
    refine ⟨ih.reachable, fun thing => Iff.trans ?_ (ih.holds thing), ih.out, ih.known, ih.once⟩
    cases thing <;> exact Iff.rfl
  | call served spares user call ih =>
    rw [List.map_append]
    exact ih.step (perform_stocks _ call) (perform_keeps _ call).1

/-- Every call was served by the engine as it was then. -/
theorem Served.split {earlier later : List (ι × CallMade)} {user : ι} {call : CallMade}
    (served : Served start (earlier ++ (user, call) :: later) engine) :
    ∃ middle, Served start earlier middle ∧ Spares middle.failing ∧
      call.answer = (middle.perform call.question).1 := by
  generalize equal : earlier ++ (user, call) :: later = log at served
  induction served generalizing later with
  | start => simp at equal
  | arrange _ _ ih => exact ih equal
  | @call log middle served spares other question ih =>
    cases later using List.reverseRecOn with
    | nil =>
      obtain ⟨rfl, same⟩ := List.append_inj' equal rfl
      obtain ⟨rfl, rfl⟩ := Prod.mk.inj (List.singleton_injective same)
      exact ⟨middle, served, spares, rfl⟩
    | append_singleton later last _ =>
      rw [← List.cons_append, ← List.append_assoc] at equal
      exact ih (List.append_inj' equal rfl).1

end Served

end InMemory

end BuildYard
