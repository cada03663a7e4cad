import BuildYard.Proofs.Engine.Requests
import BuildYard.Relay
import BuildYard.Running

/-!
# The word to stop

A process and whoever has its handle are two parties. The body of the process
goes on step by step (`Running.Goes`); in between, at any time and any number of
times, the handle is used to tell it to stop. A life of a process is any row of
such beats (`Running.Lives`).

What the two parties know of each other is three marks, and every beat keeps
what these say of the beats before it (`Running.Tells`). So the word is given
by the first call or never, it is given if the body still holds its end, and it
is heard once by a body that looks or waits for it, however late that is
(`stop_neither_lost_nor_invented`). Waiting for a process is a life in which
nobody tells it anything any more (`wait_yields_iff`).
-/

set_option autoImplicit false

namespace BuildYard

/-! ## Courses -/

namespace Course

/-- The result of a course that has come as far as it can. -/
def result? : Course → Option (Except EngineError Int)
  | ended result => some result
  | lost text => some (.error (.taskLost text))
  | _ => none

/-- It does nothing until there is a word to stop. -/
def Waits : Course → Prop
  | listen _ _ | idle _ => True
  | _ => False

theorem advance_after {α : Type} (task : Host.Task α) (next : α → Course) (told listening : Bool) :
    (after task next).advance told listening =
      task >>= fun value => (next value).advance told listening := by
  induction task with
  | done value => rfl
  | ask question reply ih => exact congrArg (Program.ask question) (funext ih)

end Course

theorem Heard.of_eq_stop_iff {told listening : Bool} :
    Heard.of told listening = .stop ↔ told = true := by
  cases told <;> cases listening <;> decide

theorem Heard.of_eq_nothing_iff {told listening : Bool} :
    Heard.of told listening = .nothing ↔ told = false ∧ listening = true := by
  cases told <;> cases listening <;> decide

namespace Running

/-- Waiting for a process lets it go on as far as it can, and is answered with its result. -/
theorem wait_eq (process : Running) :
    process.wait = (fun settled => settled.course.result?) <$> process.settle := by
  rw [wait, map_eq_pure_bind]
  refine bind_congr fun settled => ?_
  cases settled.course <;> rfl

theorem ensures_wait {counts : Host.Ask → Bool} {process : Running}
    {post : Option (Except EngineError Int) → List HostExchange → Prop} :
    Program.Ensures counts process.wait post ↔
      Program.Ensures counts (process.course.advance process.told process.listening)
        fun settled made => post settled.1.result? made := by
  rw [wait_eq, Program.ensures_map]
  refine Program.ensures_bind.trans (Program.ensures_congr fun settled made => ?_)
  exact Program.ensures_pure.trans (by rw [List.append_nil])

/-! ## Beats -/

/-- What happens to a process. -/
inductive Beat where
  /-- its body goes on by itself -/
  | went
  /-- its body asks the host and gets an answer -/
  | asked (exchange : HostExchange)
  /-- its body lets go of its end: from now on no word can be given -/
  | letGo
  /-- its body looks for the word to stop, or has waited for it -/
  | heard (what : Heard)
  /-- whoever has the handle tells it to stop; the answer is whether the word was given -/
  | told (given : Bool)

/-- The question and answer of a beat. -/
def Beat.exchange? : Beat → Option HostExchange
  | .asked exchange => some exchange
  | _ => none

/-- One thing that the body of a process can do. -/
inductive Goes : Running → Beat → Running → Prop where
  | went {process : Running} {next : Course} (here : process.course = .step next) :
      Goes process .went { process with course := next }
  | asked {process : Running} {question : Host.Ask} {next : question.Answer → Course}
      (here : process.course = .ask question next) (answer : question.Answer) :
      Goes process (.asked ⟨question, answer⟩) { process with course := next answer }
  | letGo {process : Running} {next : Course} (here : process.course = .deaf next) :
      Goes process .letGo { process with course := next, listening := false }
  /-- a body that has ended holds nothing any more -/
  | ended {process : Running} (here : process.course.hasEnded = true)
      (listens : process.listening = true) :
      Goes process .letGo { process with listening := false }
  | looked {process : Running} {found : Heard → Course} (here : process.course = .look found) :
      Goes process (.heard (.of process.told process.listening))
        { process with
          course := found (.of process.told process.listening)
          told := false
          listening := !process.told && process.listening }
  | listened {process : Running} {stopped silent : Course}
      (here : process.course = .listen stopped silent) (told : process.told = true) :
      Goes process (.heard .stop) { process with course := stopped, told := false, listening := false }
  | silenced {process : Running} {stopped silent : Course}
      (here : process.course = .listen stopped silent) (untold : process.told = false)
      (deaf : process.listening = false) :
      Goes process (.heard .silence) { process with course := silent }
  | woken {process : Running} {stopped : Course} (here : process.course = .idle stopped)
      (told : process.told = true) :
      Goes process (.heard .stop) { process with course := stopped, told := false, listening := false }

/-- The body of a process can do nothing. -/
def Rests (process : Running) : Prop :=
  ∀ beat next, ¬ process.Goes beat next

/-- A life of a process: what its body does and what it is told, in any order. -/
inductive Lives : Running → List Beat → Running → Prop where
  | nil (process : Running) : Lives process [] process
  | body {process middle last : Running} {beat : Beat} {beats : List Beat}
      (goes : process.Goes beat middle) (lives : Lives middle beats last) :
      Lives process (beat :: beats) last
  | handle {process last : Running} {beats : List Beat} (lives : Lives process.stop.2 beats last) :
      Lives process (.told process.stop.1 :: beats) last

theorem Lives.split {process last : Running} {front back : List Beat}
    (lives : process.Lives (front ++ back) last) :
    ∃ middle, process.Lives front middle ∧ middle.Lives back last := by
  induction front generalizing process with
  | nil => exact ⟨process, .nil process, lives⟩
  | cons beat front ih =>
    cases lives with
    | body goes lives =>
      obtain ⟨middle, first, second⟩ := ih lives
      exact ⟨middle, .body goes first, second⟩
    | handle lives =>
      obtain ⟨middle, first, second⟩ := ih lives
      exact ⟨middle, .handle first, second⟩

/-! ## What the marks of a process tell -/

/-- What the three marks of a process tell of the beats before, if its body `holds` its end in the
beginning. -/
structure Tell (holds asked told listening : Bool) (before : List Beat) : Prop where
  asked : asked = true ↔ ∃ given, .told given ∈ before
  told : told = true ↔ .told true ∈ before ∧ .heard .stop ∉ before
  listening : listening = true ↔ holds = true ∧ .letGo ∉ before ∧ .heard .stop ∉ before
  heard : .heard .stop ∈ before → .told true ∈ before

/-- The marks of a process tell of the beats before. -/
abbrev Tells (holds : Bool) (process : Running) (before : List Beat) : Prop :=
  Tell holds process.asked process.told process.listening before

theorem begin_tells (description : String) (body : Course) (holds : Bool) :
    Tells holds { begin description body with listening := holds } [] where
  asked := by simp [begin]
  told := by simp [begin]
  listening := by simp
  heard := by simp

section Marks

variable {holds asked told listening : Bool} {before : List Beat} {beat : Beat}

/-- A beat by which nothing is told, heard or let go. -/
theorem Tell.beside (tell : Tell holds asked told listening before)
    (untold : ∀ given, beat ≠ .told given) (held : beat ≠ .letGo) (unheard : beat ≠ .heard .stop) :
    Tell holds asked told listening (before ++ [beat]) where
  asked := by simpa [fun given => (untold given).symm] using tell.asked
  told := by simpa [unheard.symm, (untold true).symm] using tell.told
  listening := by simpa [unheard.symm, held.symm] using tell.listening
  heard := by simpa [unheard.symm, (untold true).symm] using tell.heard

theorem Tell.letGo (tell : Tell holds asked told listening before) :
    Tell holds asked told false (before ++ [.letGo]) where
  asked := by simpa using tell.asked
  told := by simpa using tell.told
  listening := by simp
  heard := by simpa using tell.heard

theorem Tell.stopped (tell : Tell holds asked told listening before) (given : told = true) :
    Tell holds asked false false (before ++ [.heard .stop]) where
  asked := by simpa using tell.asked
  told := by simp
  listening := by simp
  heard := by simpa using (tell.told.mp given).1

theorem Tell.looked (tell : Tell holds asked told listening before) :
    Tell holds asked false (!told && listening) (before ++ [.heard (.of told listening)]) := by
  cases told with
  | true => exact tell.stopped rfl
  | false =>
    refine tell.beside nofun nofun fun same => ?_
    exact Bool.false_ne_true (Heard.of_eq_stop_iff.mp (Beat.heard.inj same))

/-- Who is told a second time is told nothing. -/
theorem Tell.again (tell : Tell holds true told listening before) :
    Tell holds true told listening (before ++ [.told false]) where
  asked := by simp
  told := by simpa using tell.told
  listening := by simpa using tell.listening
  heard := by simpa using tell.heard

/-- Who is told for the first time is told if anything can be heard. -/
theorem Tell.first (tell : Tell holds false told listening before) :
    Tell holds true listening listening (before ++ [.told listening]) := by
  have untold (given : Bool) : .told given ∉ before :=
    fun member => Bool.false_ne_true (tell.asked.mpr ⟨given, member⟩)
  have unheard : .heard .stop ∉ before := fun member => untold true (tell.heard member)
  exact
    { asked := by simp
      told := by cases listening <;> simp [untold, unheard]
      listening := by simpa using tell.listening
      heard := by simp [unheard] }

end Marks

variable {holds : Bool} {process next last : Running} {before beats : List Beat} {beat : Beat}

/-- **What the body does keeps what the marks tell.** -/
theorem Goes.tells (goes : process.Goes beat next) (tells : Tells holds process before) :
    Tells holds next (before ++ [beat]) := by
  cases goes with
  | went here => exact tells.beside nofun nofun nofun
  | asked here answer => exact tells.beside nofun nofun nofun
  | letGo here => exact tells.letGo
  | ended here listens => exact tells.letGo
  | looked here => exact tells.looked
  | listened here told => exact tells.stopped told
  | silenced here untold deaf => exact tells.beside nofun nofun nofun
  | woken here told => exact tells.stopped told

/-- **So does telling the process to stop.** -/
theorem Tell.stop (tells : Tells holds process before) :
    Tells holds process.stop.2 (before ++ [.told process.stop.1]) := by
  obtain ⟨description, course, asked, told, listening⟩ := process
  cases asked with
  | true => exact tells.again
  | false => exact tells.first

/-- **Through a whole life the marks tell of it.** -/
theorem Lives.tells (lives : process.Lives beats last) (tells : Tells holds process before) :
    Tells holds last (before ++ beats) := by
  induction lives generalizing before with
  | nil process => rwa [List.append_nil]
  | body goes _ ih =>
    rw [List.append_cons]
    exact ih (goes.tells tells)
  | handle _ ih =>
    rw [List.append_cons]
    exact ih tells.stop

/-! ## Waiting -/

/-- Left to itself a process comes to rest as `last`, by these questions and answers. -/
def ComesToRest (process : Running) (trace : List HostExchange) (last : Running) : Prop :=
  ∃ beats, process.Lives beats last ∧ (∀ given, .told given ∉ beats) ∧ last.Rests ∧
    trace = beats.filterMap Beat.exchange?

theorem Goes.untold (goes : process.Goes beat next) (given : Bool) : .told given ≠ beat := by
  cases goes <;> exact nofun

theorem Rests.comesToRest (rests : process.Rests) : process.ComesToRest [] process :=
  ⟨[], .nil process, fun _ => List.not_mem_nil, rests, rfl⟩

theorem ComesToRest.of_goes {trace : List HostExchange} (settled : next.ComesToRest trace last)
    (goes : process.Goes beat next) :
    process.ComesToRest (beat.exchange?.toList ++ trace) last := by
  obtain ⟨beats, lives, untold, rests, rfl⟩ := settled
  refine ⟨beat :: beats, .body goes lives, fun given => ?_, rests, ?_⟩
  · exact List.not_mem_cons_of_ne_of_not_mem (goes.untold given) (untold given)
  · rw [List.filterMap_cons]
    cases beat.exchange? <;> rfl

/-- A body that asks nothing of the host goes on without it. -/
theorem settle_eq_of_goes (goes : process.Goes beat next) (quiet : beat.exchange? = none) :
    process.settle = next.settle := by
  obtain ⟨description, course, asked, told, listening⟩ := process
  cases goes with
  | went here => obtain rfl : course = _ := here; rfl
  | asked here answer => cases quiet
  | letGo here => obtain rfl : course = _ := here; rfl
  | ended here listens =>
    cases course with
    | ended result => rfl
    | lost text => rfl
    | _ => cases here
  | looked here => obtain rfl : course = _ := here; rfl
  | listened here told =>
    obtain rfl : course = _ := here
    obtain rfl : _ = true := told
    rfl
  | silenced here untold deaf =>
    obtain rfl : course = _ := here
    obtain rfl : _ = false := untold
    obtain rfl : _ = false := deaf
    rfl
  | woken here told =>
    obtain rfl : course = _ := here
    obtain rfl : _ = true := told
    rfl

/-- A process at rest stays as it is. -/
theorem Rests.settle_eq (rests : process.Rests) : process.settle = pure process := by
  obtain ⟨description, course, asked, told, listening⟩ := process
  cases course with
  | ended result =>
    cases listening with
    | true => exact absurd (.ended rfl rfl) (rests _ _)
    | false => rfl
  | lost text =>
    cases listening with
    | true => exact absurd (.ended rfl rfl) (rests _ _)
    | false => rfl
  | step next => exact absurd (.went rfl) (rests _ _)
  | ask question next => exact absurd (.asked rfl (Relay.answer question .null)) (rests _ _)
  | deaf next => exact absurd (.letGo rfl) (rests _ _)
  | look found => exact absurd (.looked rfl) (rests _ _)
  | listen stopped silent =>
    cases told with
    | true => exact absurd (.listened rfl rfl) (rests _ _)
    | false =>
      cases listening with
      | true => rfl
      | false => exact absurd (.silenced rfl rfl rfl) (rests _ _)
  | idle stopped =>
    cases told with
    | true => exact absurd (.woken rfl rfl) (rests _ _)
    | false => rfl

/-- A step of the body that asks nothing is one that settling takes. -/
theorem ComesToRest.of_settle {trace : List HostExchange}
    (onward : next.settle.Yields trace last → next.ComesToRest trace last)
    (goes : process.Goes beat next) (quiet : beat.exchange? = none)
    (yields : process.settle.Yields trace last) : process.ComesToRest trace last := by
  rw [settle_eq_of_goes goes quiet] at yields
  have settled := (onward yields).of_goes goes
  rwa [quiet] at settled

/-- A process at rest is left as it is. -/
theorem Rests.of_settle {trace : List HostExchange} (rests : process.Rests)
    (yields : process.settle.Yields trace last) : process.ComesToRest trace last := by
  rw [rests.settle_eq] at yields
  obtain ⟨rfl, rfl⟩ := Program.yields_pure_iff.mp yields
  exact rests.comesToRest

theorem Rests.of_hasEnded (finished : process.course.hasEnded = true)
    (deaf : process.listening = false) : process.Rests := by
  intro beat next goes
  cases goes with
  | ended _ listens => exact Bool.false_ne_true (deaf.symm.trans listens)
  | _ here => rw [here] at finished; exact Bool.false_ne_true finished

/-- A process that has ended comes to rest by letting go of what it still holds. -/
theorem comesToRest_of_hasEnded {trace : List HostExchange}
    (finished : process.course.hasEnded = true) (yields : process.settle.Yields trace last) :
    process.ComesToRest trace last := by
  cases listens : process.listening with
  | true =>
    have released : Rests { process with listening := false } := .of_hasEnded finished rfl
    exact .of_settle released.of_settle (.ended finished listens) rfl yields
  | false => exact (Rests.of_hasEnded finished listens).of_settle yields

/-- What waits for the word moves when that is there, or when it listens and none can come. -/
theorem Goes.of_waits (goes : process.Goes beat next) (waits : process.course.Waits) :
    process.told = true ∧ beat = .heard .stop ∨
      process.told = false ∧ process.listening = false ∧ ∃ stopped silent,
        process.course = .listen stopped silent := by
  cases goes with
  | listened here told => exact .inl ⟨told, rfl⟩
  | woken here told => exact .inl ⟨told, rfl⟩
  | silenced here untold deaf => exact .inr ⟨untold, deaf, _, _, here⟩
  | ended finished _ =>
    cases here : process.course with
    | ended result => rw [here] at waits; exact waits.elim
    | lost text => rw [here] at waits; exact waits.elim
    | _ => rw [here] at finished; cases finished
  | _ here => rw [here] at waits; exact waits.elim

theorem Rests.of_waits (waits : process.course.Waits) (untold : process.told = false)
    (keeps : process.listening = true ∨ ∃ stopped, process.course = .idle stopped) :
    process.Rests := by
  intro beat next goes
  obtain ⟨told, _⟩ | ⟨_, deaf, _, _, here⟩ := goes.of_waits waits
  · exact Bool.false_ne_true (untold.symm.trans told)
  · obtain listens | ⟨stopped, idle⟩ := keeps
    · exact Bool.false_ne_true (deaf.symm.trans listens)
    · cases here.symm.trans idle

/-- **A process that settles lives on, untold, until it rests.** -/
theorem settle_yields_iff {trace : List HostExchange} :
    process.settle.Yields trace last ↔ process.ComesToRest trace last := by
  constructor
  · obtain ⟨description, course, asked, told, listening⟩ := process
    intro yields
    induction course generalizing told listening trace with
    | ended result => exact comesToRest_of_hasEnded rfl yields
    | lost text => exact comesToRest_of_hasEnded rfl yields
    | step next ih => exact .of_settle (ih told listening) (.went rfl) rfl yields
    | ask question next ih =>
      cases yields with
      | ask answer yields =>
        have goes : Goes ⟨description, .ask question next, asked, told, listening⟩ _ _ :=
          .asked rfl answer
        exact (ih answer told listening yields).of_goes goes
    | deaf next ih => exact .of_settle (ih told false) (.letGo rfl) rfl yields
    | look found ih => exact .of_settle (ih _ false _) (.looked rfl) rfl yields
    | listen stopped silent stops keeps =>
      cases told with
      | true => exact .of_settle (stops false false) (.listened rfl rfl) rfl yields
      | false =>
        cases listening with
        | false => exact .of_settle (keeps false false) (.silenced rfl rfl rfl) rfl yields
        | true =>
          have rests : Rests ⟨description, .listen stopped silent, asked, false, true⟩ :=
            .of_waits trivial rfl (.inl rfl)
          exact rests.of_settle yields
    | idle stopped ih =>
      cases told with
      | true => exact .of_settle (ih false false) (.woken rfl rfl) rfl yields
      | false =>
        have rests : Rests ⟨description, .idle stopped, asked, false, listening⟩ :=
          .of_waits trivial rfl (.inr ⟨stopped, rfl⟩)
        exact rests.of_settle yields
  · rintro ⟨beats, lives, untold, rests, rfl⟩
    induction lives with
    | nil process =>
      rw [rests.settle_eq]
      exact .done process
    | @body process middle last beat beats goes _ ih =>
      have onward := ih (fun given member => untold given (.tail _ member)) rests
      cases quiet : beat.exchange? with
      | none =>
        rw [settle_eq_of_goes goes quiet, List.filterMap_cons_none quiet]
        exact onward
      | some exchange =>
        rw [List.filterMap_cons_some quiet]
        obtain ⟨description, course, asked, told, listening⟩ := process
        cases goes with
        | asked here answer =>
          obtain rfl : course = _ := here
          obtain rfl := Option.some.inj quiet
          exact .ask answer onward
        | _ => cases quiet
    | handle _ ih => exact absurd (.head _) (untold _)

/-- **Waiting for a process is a life in which nobody tells it anything any more**, and comes to what
its body came to. -/
theorem wait_yields_iff {trace : List HostExchange} {result : Option (Except EngineError Int)} :
    process.wait.Yields trace result ↔
      ∃ last, process.ComesToRest trace last ∧ last.course.result? = result := by
  rw [wait_eq, Program.yields_map_iff]
  exact exists_congr fun last => and_congr_left' settle_yields_iff

/-! ## Neither lost nor invented -/

theorem goes_of_waits (waits : process.course.Waits) (told : process.told = true) :
    ∃ next, process.Goes (.heard .stop) next := by
  cases here : process.course with
  | listen stopped silent => exact ⟨_, .listened here told⟩
  | idle stopped => exact ⟨_, .woken here told⟩
  | _ => rw [here] at waits; exact waits.elim

/-- **The word is given by the first who tells the process, if its body still holds its end.** -/
theorem Lives.given_iff {after : List Beat} {given : Bool} (tells : Tells holds process [])
    (lives : process.Lives (before ++ .told given :: after) last) :
    given = true ↔ holds = true ∧ .letGo ∉ before ∧ ∀ given', .told given' ∉ before := by
  obtain ⟨middle, first, second⟩ := lives.split
  have known := first.tells tells
  rw [List.nil_append] at known
  cases second with
  | body goes _ => exact absurd rfl (goes.untold given)
  | handle _ =>
    rw [stop]
    cases asked : middle.asked with
    | true =>
      obtain ⟨given', member⟩ := known.asked.mp asked
      exact iff_of_false Bool.false_ne_true fun ⟨_, _, untold⟩ => untold given' member
    | false =>
      have untold (given' : Bool) : .told given' ∉ before := fun member =>
        Bool.false_ne_true (asked.symm.trans (known.asked.mpr ⟨given', member⟩))
      refine known.listening.trans (and_congr_right' (and_congr_right' ?_))
      exact iff_of_true (fun heard => untold true (known.heard heard)) untold

theorem Goes.heard_eq {what : Heard} (goes : process.Goes (.heard what) next) :
    what = .of process.told process.listening := by
  cases goes with
  | looked here => rfl
  | listened here told => rw [told]; rfl
  | silenced here untold deaf => rw [untold, deaf]; rfl
  | woken here told => rw [told]; rfl

/-- **The word is heard once, and only after it was given.** Before that, as long as the body holds
its end, it hears that there is no word yet. -/
theorem Lives.heard_iff {after : List Beat} {what : Heard} (tells : Tells holds process [])
    (lives : process.Lives (before ++ .heard what :: after) last) :
    (what = .stop ↔ .told true ∈ before ∧ .heard .stop ∉ before) ∧
      (what = .nothing ↔ holds = true ∧ .letGo ∉ before ∧ .told true ∉ before) := by
  obtain ⟨middle, first, second⟩ := lives.split
  have known := first.tells tells
  rw [List.nil_append] at known
  cases second with
  | body goes _ =>
    rw [goes.heard_eq, Heard.of_eq_stop_iff, Heard.of_eq_nothing_iff]
    refine ⟨known.told, ?_⟩
    constructor
    · rintro ⟨untold, listens⟩
      obtain ⟨held, kept, unheard⟩ := known.listening.mp listens
      refine ⟨held, kept, fun given => Bool.false_ne_true (untold.symm.trans ?_)⟩
      exact known.told.mpr ⟨given, unheard⟩
    · rintro ⟨held, kept, ungiven⟩
      have unheard : .heard .stop ∉ before := fun heard => ungiven (known.heard heard)
      refine ⟨Bool.eq_false_iff.mpr fun told => ungiven (known.told.mp told).1, ?_⟩
      exact known.listening.mpr ⟨held, kept, unheard⟩

/-- **What waits for the word hears it if it was given.** Otherwise it stays as it is, unless its body
let go of its end. -/
theorem Lives.waits_iff (tells : Tells holds process []) (lives : process.Lives beats last)
    (waits : last.course.Waits) :
    ((∃ next, last.Goes (.heard .stop) next) ↔ .told true ∈ beats ∧ .heard .stop ∉ beats) ∧
      (holds = true → .letGo ∉ beats → .told true ∉ beats → last.Rests) := by
  have known := lives.tells tells
  rw [List.nil_append] at known
  constructor
  · refine Iff.trans ⟨?_, goes_of_waits waits⟩ known.told
    rintro ⟨next, goes⟩
    exact Heard.of_eq_stop_iff.mp goes.heard_eq.symm
  · intro held kept ungiven
    have unheard : .heard .stop ∉ beats := fun heard => ungiven (known.heard heard)
    have untold : last.told = false :=
      Bool.eq_false_iff.mpr fun told => ungiven (known.told.mp told).1
    exact .of_waits waits untold (.inl (known.listening.mpr ⟨held, kept, unheard⟩))

/-- **The word to stop is neither lost nor doubled nor invented.** Whatever the body is, whether or
not it takes its end with it (`holds`), and in whatever order the body goes on and the process is told
to stop: the word is given exactly to the first who tells it while the body holds its end, even if
the body has not begun yet. A body that looks for the word hears it once after it was given, and
before that hears nothing as long as it holds its end; one that waits for it goes on if it was given,
and otherwise stays. Whoever then waits for the process leaves it to itself, until it rests, and gets
what its body came to. -/
theorem stop_neither_lost_nor_invented {description : String} {body : Course} {holds : Bool}
    {beats : List Beat} {last : Running}
    (lives : Lives { begin description body with listening := holds } beats last) :
    (∀ before given after, beats = before ++ .told given :: after →
      (given = true ↔ holds = true ∧ .letGo ∉ before ∧ ∀ given', .told given' ∉ before)) ∧
    (∀ before what after, beats = before ++ .heard what :: after →
      (what = .stop ↔ .told true ∈ before ∧ .heard .stop ∉ before) ∧
        (what = .nothing ↔ holds = true ∧ .letGo ∉ before ∧ .told true ∉ before)) ∧
    (last.course.Waits →
      ((∃ next, last.Goes (.heard .stop) next) ↔ .told true ∈ beats ∧ .heard .stop ∉ beats) ∧
        (holds = true → .letGo ∉ beats → .told true ∉ beats → last.Rests)) ∧
    ∀ trace result, last.wait.Yields trace result ↔
      ∃ more final, last.Lives more final ∧ (∀ given, .told given ∉ more) ∧ final.Rests ∧
        trace = more.filterMap Beat.exchange? ∧ result = final.course.result? := by
  have tells := begin_tells description body holds
  refine ⟨?_, ?_, lives.waits_iff tells, ?_⟩
  · rintro before given after rfl
    exact lives.given_iff tells
  · rintro before what after rfl
    exact lives.heard_iff tells
  · intro trace result
    rw [wait_yields_iff]
    constructor
    · rintro ⟨final, ⟨more, lives', untold, rests, asked⟩, rfl⟩
      exact ⟨more, final, lives', untold, rests, asked, rfl⟩
    · rintro ⟨more, final, lives', untold, rests, asked, rfl⟩
      exact ⟨final, ⟨more, lives', untold, rests, asked⟩, rfl⟩

/-- A body that does nothing but wait for the word to stop hears it although it was given before the
body began, and given once. -/
theorem stop_heard_by_sleeper :
    let sleeper : Course := .listen (.ended (.ok 137)) (.ended (.ok 0))
    ∃ last,
      Lives { begin "sleeper" sleeper with listening := true }
        [.told true, .told false, .went, .heard .stop] last ∧
      last.wait.Yields [] (some (.ok 137)) := by
  intro sleeper
  have lives : Lives { begin "sleeper" sleeper with listening := true }
      [.told true, .told false, .went, .heard .stop] _ :=
    .handle (.handle (.body (.went rfl) (.body (.listened rfl rfl) (.nil _))))
  refine ⟨_, lives, ((stop_neither_lost_nor_invented lives).2.2.2 _ _).mpr ?_⟩
  exact ⟨[], _, .nil _, fun _ => List.not_mem_nil, .of_hasEnded rfl rfl, rfl, rfl⟩

end Running

end BuildYard
