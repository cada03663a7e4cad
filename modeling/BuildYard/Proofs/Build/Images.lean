import BuildYard.Proofs.Build.Plays
import BuildYard.Proofs.Build.Processes

/-!
# Images are resolved once

A call of a process is an errand for the container that is needed next: it asks
about the image of that container, or launches it. What the answers tell of the
image of a source, the build keeps for as long as it lasts, whatever is cleared
away; so nobody asks again about a source that means the same image, and every
container is launched from the image that was told for its own source. A
resolution that fails tells nothing, and the next one begins from the start
(`image_resolved_once`).
-/

set_option autoImplicit false

namespace BuildYard

/-- What the answer to a call tells of the image of a source: a named image is there, unless it
is to be pulled in any case, or was pulled; an image with a Dockerfile was built. -/
inductive ImageSource.Tells : ImageSource → CallMade → String → Prop where
  | present (image : String) : Tells (.named image false) ⟨.hasImage image, .ok true⟩ image
  | pulled (image : String) (forcePull : Bool) :
      Tells (.named image forcePull) ⟨.pullImage image, .ok ()⟩ image
  | built (context file : String) (forcePull : Bool) (archive : Bytes) (tag : String) :
      Tells (.dockerfile context file forcePull) ⟨.buildImage archive tag forcePull, .ok ()⟩ tag

/-- The call asks about an image or launches a container beside the agent. -/
def CallMade.isErrand : CallMade → Bool
  | ⟨.hasImage _, _⟩ | ⟨.pullImage _, _⟩ | ⟨.buildImage _ _ _, _⟩ => true
  | ⟨.launchWork _ _ _, _⟩ | ⟨.launchSidecar _ _ _, _⟩ => true
  | _ => false

namespace Build

/-! ## Errands -/

/-- A call made for a container that is needed. -/
structure Errand where
  need : Need
  call : CallMade

/-- Calls made for what is needed, in order: each is for the container that is needed next, and a
launch that succeeds meets that need. -/
def errands : List Need → List CallMade → List Errand
  | need :: needs, call :: calls =>
    { need, call } :: errands (if call.launched.isSome then needs else need :: needs) calls
  | _, _ => []

/-- The errands of a turn; only processes need containers. -/
def Turn.errands (turn : Turn) : List Errand :=
  match turn.request with
  | .runProcess _ => Build.errands turn.before.needs turn.calls
  | _ => []

def errandsOf (turns : List Turn) : List Errand :=
  turns.flatMap Turn.errands

/-- **What errands have told of the image of a source**: an answer told it for a source that means
the same image. The image of the engine's socket is known from the start. -/
def Told (past : List Errand) (source : ImageSource) (tag : String) : Prop :=
  source = .engineSocket ∧ tag = ImageSource.socketImage ∨
    ∃ errand ∈ past, errand.need.source.same source = true ∧
      errand.need.source.Tells errand.call tag

/-- **What an errand may be after others**: it asks about the image of its source while nobody has
told it, or it launches its container from the image that was told for its source. -/
inductive Fits (past : List Errand) : Errand → Prop where
  | asks {need : Need} {call : CallMade} (asks : need.source.Asks call.question)
      (untold : ∀ tag, ¬ Told past need.source tag) : Fits past { need, call }
  | launches {need : Need} {image : String} (told : Told past need.source image)
      (beside : Handle) (answer : Except EngineError Handle) :
      Fits past { need, call := need.launch image beside answer }

/-- What a build makes of how a resolution came out: it keeps a tag, and no failure. -/
def remembering (build : Build) (source : ImageSource) :
    Except ResolutionError String → Except ProvisionError String × Build
  | .ok tag => (.ok tag, build.keepingTag source tag)
  | .error cause => (.error (.imageResolutionFailed source.describe cause), build)

/-- **Images are resolved once in a run**, for the containers that need them. -/
structure ImagesOnce (turns : List Turn) (build : Build) : Prop where
  /-- every call about an image and every launch beside the agent is an errand -/
  all : (errandsOf turns).map (·.call) = (callsOf turns).filter CallMade.isErrand
  /-- a container that was launched is in the slot that it is needed for -/
  placed : ∀ turn ∈ turns, ∀ errand ∈ turn.errands, ∀ container,
    errand.call.launched = some container →
      turn.after.session.held errand.need.slot = some container
  fits : ∀ earlier errand later, errandsOf turns = earlier ++ errand :: later →
    Fits earlier errand
  /-- for sources that mean the same image the same is told -/
  same : ∀ source other tag second, source.same other = true →
    Told (errandsOf turns) source tag → Told (errandsOf turns) other second → tag = second
  /-- a process that fails for an image made a whole attempt, which told nothing -/
  failed : ∀ earlier turn later starter image cause, turns = earlier ++ turn :: later →
    turn.request = .runProcess starter →
      turn.result = .error (.imageResolutionFailed image cause) →
      ∃ (need : Need) (front : List Errand) (asked : List CallMade), turn.errands = front ++ 
        asked.map (Errand.mk need) ∧
        need.source.describe = image ∧ need.source.Resolved (.error cause) asked ∧
          ∀ tag, ¬ Told (errandsOf (earlier ++ [turn])) need.source tag
  /-- while nothing is told of a source, it is resolved from the start -/
  afresh : ∀ source, (∀ tag, ¬ Told (errandsOf turns) source tag) →
    (resolveImage source).runOn build =
      (source.resolve build.workspace).run >>= fun answer => pure (build.remembering source answer)

/-! ## What is told -/

section Told

variable {past more : List Errand} {source other : ImageSource} {tag second : String}
  {need : Need} {errand : Errand}

theorem Told.mono (told : Told past source tag) (subset : past ⊆ more) : Told more source tag := by
  rcases told with socket | ⟨errand, member, tells⟩
  · exact .inl socket
  · exact .inr ⟨errand, subset member, tells⟩

/-- What is told of a source is told of all that mean the same image. -/
theorem Told.congr (told : Told past source tag) (same : source.same other = true) :
    Told past other tag := by
  rcases told with ⟨rfl, rfl⟩ | ⟨errand, member, one, tells⟩
  · cases other with
    | engineSocket => exact .inl ⟨rfl, rfl⟩
    | _ => cases same
  · exact .inr ⟨errand, member, ImageSource.same_trans one same, tells⟩

/-- Only one thing is ever told of the socket. -/
theorem Told.socket (told : Told past .engineSocket tag) : tag = ImageSource.socketImage := by
  rcases told with ⟨-, rfl⟩ | ⟨⟨⟨slot, source, hints⟩, call⟩, member, same, tells⟩
  · rfl
  · cases tells <;> cases same

/-- Errands that tell nothing leave open what is open. -/
theorem Told.of_silent (told : Told (past ++ more) source tag)
    (silent : ∀ errand ∈ more, ∀ tag, ¬ errand.need.source.Tells errand.call tag) :
    Told past source tag := by
  rcases told with socket | ⟨errand, member, same, tells⟩
  · exact .inl socket
  · rcases List.mem_append.mp member with before | now
    · exact .inr ⟨errand, before, same, tells⟩
    · exact absurd tells (silent errand now tag)

/-- **The build knows the tags that were told.** -/
structure Knows (past : List Errand) (build : Build) : Prop where
  told : ∀ {source tag}, build.tag? source = some tag → Told past source tag
  known : ∀ {source tag}, Told past source tag →
    source = .engineSocket ∨ build.tag? source = some tag

variable {build after : Build}

theorem Knows.congr (knows : Knows past build) (same : after.resolved = build.resolved) :
    Knows past after := by
  have tags (source : ImageSource) : after.tag? source = build.tag? source := by
    rw [tag?, tag?, same]
  exact ⟨fun here => knows.told (tags _ ▸ here), fun told => tags _ ▸ knows.known told⟩

theorem Knows.silent (knows : Knows past build)
    (silent : ∀ errand ∈ more, ∀ tag, ¬ errand.need.source.Tells errand.call tag) :
    Knows (past ++ more) build where
  told here := (knows.told here).mono (List.subset_append_left _ _)
  known told := knows.known (told.of_silent silent)

/-- Nothing is told of a source whose tag the build does not know, unless it is the socket. -/
theorem Knows.untold (knows : Knows past build) (unresolved : build.tag? source = none)
    (other : source ≠ .engineSocket) (tag : String) : ¬ Told past source tag := by
  intro told
  rcases knows.known told with socket | known
  · exact other socket
  · cases unresolved.symm.trans known

/-- What is told of sources that mean the same image is the same. -/
theorem Knows.same (knows : Knows past build) (same : source.same other = true)
    (told : Told past source tag) (again : Told past other second) : tag = second := by
  have first := told.congr same
  rcases knows.known first with rfl | known
  · rw [first.socket, again.socket]
  · rcases knows.known again with rfl | here
    · rw [first.socket, again.socket]
    · exact Option.some.inj (known.symm.trans here)

end Told

/-! ## Errands for one container -/

section Errands

variable {past new more : List Errand} {need : Need} {needs : List Need} {calls : List CallMade}
  {build after : Build} {beside : Handle}

/-- Errands that fit, each after those before it. -/
def Fitting (past new : List Errand) : Prop :=
  ∀ front errand back, new = front ++ errand :: back → Fits (past ++ front) errand

theorem fitting_nil (past : List Errand) : Fitting past [] := by
  intro front errand back equal
  cases front <;> cases equal

theorem Fitting.append (first : Fitting past new) (second : Fitting (past ++ new) more) :
    Fitting past (new ++ more) := by
  intro front errand back equal
  obtain ⟨rest, rfl, -⟩ | ⟨between, rfl, rfl⟩ := split_append equal
  · exact first front errand rest rfl
  · rw [← List.append_assoc]
    exact second between errand back rfl

theorem fitting_singleton {errand : Errand} (fits : Fits past errand) : Fitting past [errand] := by
  intro front other back equal
  rcases List.cons_eq_append_iff.mp equal with ⟨rfl, same⟩ | ⟨tail, rfl, rest⟩
  · obtain ⟨rfl, -⟩ := List.cons.inj same
    rwa [List.append_nil]
  · simp at rest

section Resolution

variable {source : ImageSource} {result : Except ResolutionError String} {tag : String}

/-- What a resolution was told it yields. -/
theorem resolved_tells (resolved : source.Resolved result calls) {call : CallMade}
    (member : call ∈ calls) (tells : source.Tells call tag) : result = .ok tag := by
  cases resolved with
  | present image =>
    obtain rfl := List.mem_singleton.mp member
    cases tells
    rfl
  | pulled image needed answer =>
    rcases List.mem_cons.mp member with rfl | last
    · cases tells
      cases needed
    · obtain rfl := List.mem_singleton.mp last
      cases tells
      rfl
  | uncertain image forcePull cause =>
    obtain rfl := List.mem_singleton.mp member
    cases tells
  | noContext => cases member
  | built context file forcePull archive number answer =>
    obtain rfl := List.mem_singleton.mp member
    cases tells
    rfl
  | socket => cases member

/-- Only the last call of a resolution tells anything. -/
theorem resolved_silent (resolved : source.Resolved result calls) {call : CallMade}
    (member : call ∈ calls.dropLast) : ¬ source.Tells call tag := by
  cases resolved with
  | pulled image needed answer =>
    obtain rfl := List.mem_singleton.mp member
    intro tells
    cases tells
    cases needed
  | _ => cases member

/-- A resolution that succeeds was told the tag, unless it is the socket's. -/
theorem resolved_told (resolved : source.Resolved (.ok tag) calls) :
    source = .engineSocket ∧ tag = ImageSource.socketImage ∨ ∃ call ∈ calls, source.Tells call tag := by
  generalize succeeded : (Except.ok tag : Except ResolutionError String) = result at resolved
  cases resolved with
  | present image =>
    obtain rfl := Except.ok.inj succeeded
    exact .inr ⟨_, List.mem_cons_self, .present tag⟩
  | @pulled image forcePull found needed answer =>
    cases answer with
    | error cause => cases succeeded
    | ok pulled =>
      obtain rfl := Except.ok.inj succeeded
      exact .inr ⟨_, List.mem_cons_of_mem _ List.mem_cons_self, .pulled tag forcePull⟩
  | uncertain image forcePull cause => cases succeeded
  | noContext => cases succeeded
  | built context file forcePull archive number answer =>
    cases answer with
    | error cause => cases succeeded
    | ok built =>
      obtain rfl := Except.ok.inj succeeded
      exact .inr ⟨_, List.mem_cons_self, .built context file forcePull archive _⟩
  | socket =>
    obtain rfl := Except.ok.inj succeeded
    exact .inl ⟨rfl, rfl⟩

end Resolution

/-- Calls about an image that nobody was told fit, if none but the last tells it. -/
theorem fitting_of_asks (asks : ∀ call ∈ calls, need.source.Asks call.question)
    (untold : ∀ tag, ¬ Told past need.source tag)
    (silent : ∀ call ∈ calls.dropLast, ∀ tag, ¬ need.source.Tells call tag) :
    Fitting past (calls.map (Errand.mk need)) := by
  intro front errand back equal
  obtain ⟨before, rest, rfl, rfl, split⟩ := List.map_eq_append_iff.mp equal
  obtain ⟨call, after, rfl, rfl, rfl⟩ := List.map_eq_cons_iff.mp split
  refine .asks (asks call (List.mem_append_right _ List.mem_cons_self)) fun tag told => ?_
  refine untold tag (told.of_silent fun errand member tag => ?_)
  obtain ⟨asked, here, rfl⟩ := List.mem_map.mp member
  refine silent asked ?_ tag
  rw [List.dropLast_append_cons]
  exact List.mem_append_left _ here

theorem asks_ne_socket {source : ImageSource} {call : Call} (asks : source.Asks call) :
    source ≠ .engineSocket := by
  rintro rfl
  cases asks

/-- A build that keeps what a resolution yields knows what the resolution was told. -/
theorem Knows.keepingTag {tag : String} (knows : Knows past build)
    (unresolved : build.tag? need.source = none) (resolved : need.source.Resolved (.ok tag) calls) :
    Knows (past ++ calls.map (Errand.mk need)) (build.keepingTag need.source tag) where
  told {source other} here := by
    rw [tag?_keepingTag] at here
    cases known : build.tag? source with
    | some before =>
      rw [known, Option.some_or] at here
      exact (knows.told (known.trans here)).mono (List.subset_append_left _ _)
    | none =>
      rw [known, Option.none_or] at here
      cases same : need.source.same source with
      | false => simp [same] at here
      | true =>
        obtain rfl : tag = other := by simpa [same] using here
        refine Told.congr ?_ same
        rcases resolved_told resolved with socket | ⟨call, made, tells⟩
        · exact .inl socket
        · exact .inr ⟨⟨need, call⟩, List.mem_append_right _ (List.mem_map_of_mem made),
            need.source.same_self, tells⟩
  known {source other} told := by
    rw [tag?_keepingTag]
    rcases told with socket | ⟨errand, member, same, tells⟩
    · exact .inl socket.1
    rcases List.mem_append.mp member with before | now
    · refine (knows.known (.inr ⟨errand, before, same, tells⟩)).imp_right fun known => ?_
      rw [known, Option.some_or]
    · obtain ⟨call, made, rfl⟩ := List.mem_map.mp now
      obtain rfl := Except.ok.inj (resolved_tells resolved made tells)
      have same : need.source.same source = true := same
      rw [← tag?_congr same, unresolved, same]
      exact .inr rfl

theorem failed_ne_socket {source : ImageSource} {cause : ResolutionError}
    (failed : source.Resolved (.error cause) calls) : source ≠ .engineSocket := by
  rintro rfl
  cases failed

/-- **The way to an image consists of errands that fit.** -/
theorem ImageKnown.fitting {result : Except ProvisionError String} (knows : Knows past build)
    (known : ImageKnown build need.source result calls after) :
    Fitting past (calls.map (Errand.mk need)) ∧
      Knows (past ++ calls.map (Errand.mk need)) after := by
  have asks := known.asks
  have fitting {outcome : Except ResolutionError String} (unresolved : build.tag? need.source = none)
      (resolved : need.source.Resolved outcome calls) :
      Fitting past (calls.map (Errand.mk need)) := by
    cases calls with
    | nil => exact fitting_nil past
    | cons call rest =>
      refine fitting_of_asks asks ?_ fun asked member tag => resolved_silent resolved member
      exact knows.untold unresolved (asks_ne_socket (asks call List.mem_cons_self))
  cases known with
  | known known =>
    refine ⟨fitting_nil past, ?_⟩
    rwa [List.map_nil, List.append_nil]
  | failed unresolved resolved =>
    refine ⟨fitting unresolved resolved, knows.silent fun errand member tag tells => ?_⟩
    obtain ⟨call, made, rfl⟩ := List.mem_map.mp member
    cases resolved_tells resolved made tells
  | @resolved tag _ unresolved resolved =>
    exact ⟨fitting unresolved resolved, knows.keepingTag unresolved resolved⟩

theorem launch_silent {source : ImageSource} {image : String} {answer : Except EngineError Handle}
    (tag : String) : ¬ source.Tells (need.launch image beside answer) tag := by
  have launches : (need.launch image beside answer).isLaunch = true := isLaunch_launch answer
  intro tells
  generalize need.launch image beside answer = call at tells launches
  cases tells <;> cases launches

/-- **An attempt consists of errands that fit**, the launch in the end from the image that was
told. -/
theorem Attempted.fitting {result : Except ProvisionError Handle} (knows : Knows past build)
    (attempted : Attempted beside need build result calls after) :
    Fitting past (calls.map (Errand.mk need)) ∧
      Knows (past ++ calls.map (Errand.mk need)) after := by
  have launch {image : String} {calls : List CallMade} (answer : Except EngineError Handle)
      (known : ImageKnown build need.source (.ok image) calls after) :
      Fitting past ((calls ++ [need.launch image beside answer]).map (Errand.mk need)) ∧
        Knows (past ++ (calls ++ [need.launch image beside answer]).map (Errand.mk need)) after := by
    obtain ⟨fitting, further⟩ := known.fitting knows
    rw [List.map_append, List.map_singleton]
    refine ⟨fitting.append (fitting_singleton ?_), ?_⟩
    · exact .launches (further.told known.tag?_eq) beside answer
    · rw [← List.append_assoc]
      exact further.silent (List.forall_mem_singleton.mpr launch_silent)
  cases attempted with
  | noImage unknown => exact unknown.fitting knows
  | notLaunched cause known => exact launch (.error cause) known
  | launched container known => exact launch (.ok container) known

/-- Calls that launch nothing are all for the first need. -/
theorem errands_append {front : List CallMade} (none : launchedBy front = []) (back : List CallMade) :
    errands (need :: needs) (front ++ back) =
      front.map (Errand.mk need) ++ errands (need :: needs) back := by
  induction front with
  | nil => rfl
  | cons call front ih =>
    obtain ⟨here, rest⟩ := List.forall_mem_cons.mp (List.filterMap_eq_nil_iff.mp none)
    simp only [List.cons_append, errands, here, Option.isSome_none, Bool.false_eq_true, if_false,
      List.map_cons, ih (List.filterMap_eq_nil_iff.mpr rest)]

theorem errands_of_none (none : launchedBy calls = []) :
    errands (need :: needs) calls = calls.map (Errand.mk need) := by
  have nothing : errands (need :: needs) [] = [] := rfl
  rw [← List.append_nil calls, errands_append none, nothing, List.append_nil, List.append_nil]

theorem errands_nil (calls : List CallMade) : errands [] calls = [] := by
  rw [errands]
  simp

/-- An attempt that succeeds consists of errands for its need, and what follows is for the next. -/
theorem Attempted.errands_eq {container : Handle}
    (attempted : Attempted beside need build (.ok container) calls after) (more : List CallMade) :
    errands (need :: needs) (calls ++ more) = calls.map (Errand.mk need) ++ errands needs more := by
  cases attempted with
  | launched container known =>
    rw [List.append_assoc, errands_append (launches_of_asks known.asks).2, List.map_append,
      List.append_assoc]
    simp only [List.singleton_append, errands, launched_launch, Option.isSome_some, if_true,
      List.map_singleton]

end Errands

/-! ## Errands of a process -/

section Processes

variable {past : List Errand} {needs : List Need} {calls : List CallMade} {build after : Build}
  {beside : Handle}

/-- **What errands come to** that are made after others: they are all that was asked about images
or launched, each fits, what they launched is in its slot, and the build knows what they were
told. -/
structure Served (past new : List Errand) (calls : List CallMade) (after : Build) : Prop where
  all : new.map (·.call) = calls.filter CallMade.isErrand
  placed : ∀ errand ∈ new, ∀ container, errand.call.launched = some container →
    after.session.held errand.need.slot = some container
  fits : Fitting past new
  knows : Knows (past ++ new) after

/-- Where nothing is asked about images and nothing launched, there is nothing to serve. -/
theorem served_nil (idle : ∀ call ∈ calls, call.isErrand = false) (knows : Knows past after) :
    Served past [] calls after where
  all := (List.filter_eq_nil_iff.mpr fun call made => by simp [idle call made]).symm
  placed := List.forall_mem_nil _
  fits := fitting_nil past
  knows := by rwa [List.append_nil]

theorem isErrand_of_asks {source : ImageSource} {call : CallMade}
    (asks : source.Asks call.question) : call.isErrand = true := by
  obtain ⟨question, answer⟩ := call
  cases asks <;> rfl

theorem isErrand_launch {need : Need} {image : String} (answer : Except EngineError Handle) :
    (need.launch image beside answer).isErrand = true := by
  obtain ⟨slot, source, hints⟩ := need
  cases slot <;> rfl

/-- An attempt asks about an image and launches, and nothing else. -/
theorem Attempted.isErrand {need : Need} {result : Except ProvisionError Handle}
    (attempted : Attempted beside need build result calls after) :
    ∀ call ∈ calls, call.isErrand = true := by
  have launch {image : String} {calls : List CallMade} (answer : Except EngineError Handle)
      (known : ImageKnown build need.source (.ok image) calls after) :
      ∀ call ∈ calls ++ [need.launch image beside answer], call.isErrand = true := by
    refine List.forall_mem_append.mpr ⟨fun call made => isErrand_of_asks (known.asks call made), ?_⟩
    exact List.forall_mem_singleton.mpr (isErrand_launch answer)
  cases attempted with
  | noImage unknown => exact fun call made => isErrand_of_asks (unknown.asks call made)
  | notLaunched cause known => exact launch (.error cause) known
  | launched container known => exact launch (.ok container) known

theorem Attempted.errands_all {need : Need} {result : Except ProvisionError Handle}
    (attempted : Attempted beside need build result calls after) :
    (calls.map (Errand.mk need)).map (·.call) = calls.filter CallMade.isErrand := by
  rw [List.map_map, List.filter_eq_self.mpr attempted.isErrand]
  exact List.map_id calls

/-- **What is needed is served by errands that fit.** -/
theorem Meets.served {result : Except ProvisionError Unit}
    (meets : Meets beside needs build result calls after) (knows : Knows past build) :
    Served past (errands needs calls) calls after := by
  induction meets generalizing past with
  | met build =>
    rw [errands_nil]
    exact served_nil (List.forall_mem_nil _) knows
  | noted complete _ ih => exact ih (knows.congr rfl)
  | collided slot taken => exact served_nil (List.forall_mem_nil _) knows
  | failed vacant attempted =>
    obtain ⟨none, -⟩ := attempted.fails vacant []
    obtain ⟨fits, further⟩ := attempted.fitting knows
    rw [errands_of_none none]
    refine ⟨attempted.errands_all, fun errand member container launched => ?_, fits, further⟩
    obtain ⟨call, made, rfl⟩ := List.mem_map.mp member
    cases (List.filterMap_eq_nil_iff.mp none call made).symm.trans launched
  | @launched need needs build middle after container result calls more vacant attempted meets ih =>
    obtain ⟨fits, further⟩ := attempted.fitting knows
    have served := ih (further.congr rfl)
    rw [attempted.errands_eq]
    refine ⟨?_, fun errand member other launched => ?_, fits.append served.fits, ?_⟩
    · rw [List.map_append, List.filter_append, attempted.errands_all, served.all]
    · rcases List.mem_append.mp member with here | later
      · obtain ⟨call, made, rfl⟩ := List.mem_map.mp here
        have only : other ∈ launchedBy calls := List.mem_filterMap.mpr ⟨call, made, launched⟩
        rw [attempted.succeeds.1, List.mem_singleton] at only
        rw [only]
        exact meets.held_kept
          (Session.held_holding_self container (attempted.session_eq ▸ vacant))
      · exact served.placed errand later other launched
    · rw [← List.append_assoc]
      exact served.knows

/-- When all needs are met, what follows is no errand. -/
theorem Meets.errands_more (meets : Meets beside needs build (.ok ()) calls after)
    (more : List CallMade) : errands needs (calls ++ more) = errands needs calls := by
  generalize met : (Except.ok () : Except ProvisionError Unit) = result at meets
  induction meets with
  | met build => rw [errands_nil, errands_nil]
  | noted complete _ ih => exact ih met
  | collided slot taken => cases met
  | failed vacant attempted => cases met
  | launched vacant attempted _ ih =>
    rw [List.append_assoc, attempted.errands_eq, attempted.errands_eq, ih met]

/-- The last errands were a whole attempt to resolve an image that failed, and the build knows no
tag for it. -/
def FailedFor (new : List Errand) (after : Build) (image : String) (cause : ResolutionError) :
    Prop :=
  ∃ (need : Need) (front : List Errand) (asked : List CallMade),
    new = front ++ asked.map (Errand.mk need) ∧ need.source.describe = image ∧
      need.source.Resolved (.error cause) asked ∧ after.tag? need.source = none

theorem Meets.failedFor {image : String} {cause : ResolutionError}
    (meets : Meets beside needs build (.error (.imageResolutionFailed image cause)) calls after) :
    FailedFor (errands needs calls) after image cause := by
  generalize failed : (Except.error (ProvisionError.imageResolutionFailed image cause) :
    Except ProvisionError Unit) = result at meets
  induction meets with
  | met build => cases failed
  | noted complete _ ih => exact ih failed
  | collided slot taken => cases failed
  | @failed need needs _ _ _ _ vacant attempted =>
    obtain rfl := Except.error.inj failed
    obtain ⟨none, -⟩ := attempted.fails vacant []
    cases attempted with
    | noImage unknown =>
      cases unknown with
      | failed unresolved resolved =>
        exact ⟨need, [], _, errands_of_none none, rfl, resolved, unresolved⟩
  | @launched need _ _ _ _ _ _ first _ vacant attempted _ ih =>
    obtain ⟨missing, front, asked, split, rest⟩ := ih failed
    refine ⟨missing, first.map (Errand.mk need) ++ front, asked, ?_, rest⟩
    rw [attempted.errands_eq, split, List.append_assoc]

theorem Processed.served {starter : Starter} {result : Except ProvisionError Running}
    (processed : Processed build starter result calls after) (knows : Knows past build) :
    Served past (errands build.needs calls) calls after := by
  cases processed with
  | notPrepared unrecorded =>
    have none : errands build.needs [] = [] := by cases build.needs <;> rfl
    rw [none]
    exact served_nil (List.forall_mem_nil _) knows
  | stopped recorded meets => exact meets.served knows
  | ran recorded meets current answer =>
    have served := meets.served knows
    rw [meets.errands_more]
    refine ⟨?_, served.placed, served.fits, served.knows⟩
    rw [served.all, List.filter_append]
    exact (List.append_nil _).symm

theorem Processed.failedFor {starter : Starter} {image : String} {cause : ResolutionError}
    (processed : Processed build starter (.error (.imageResolutionFailed image cause)) calls after) :
    FailedFor (errands build.needs calls) after image cause := by
  generalize failed : (Except.error (ProvisionError.imageResolutionFailed image cause) :
    Except ProvisionError Running) = result at processed
  cases processed with
  | notPrepared unrecorded => cases failed
  | stopped recorded meets =>
    obtain rfl := Except.error.inj failed
    exact meets.failedFor
  | ran recorded meets current answer => cases answer <;> cases failed

end Processes

/-! ## Errands of a turn -/

section Turns

variable {past : List Errand} {turn : Turn}

theorem Move.not_isErrand {aim : Aim} {build after : Build} {call : CallMade}
    (move : Move build aim call after) (other : aim ≠ .process) : call.isErrand = false := by
  cases move <;> first | rfl | exact absurd rfl other

theorem Moves.not_isErrand {aim : Aim} {build after : Build} {calls : List CallMade}
    (moves : Moves aim build calls after) (other : aim ≠ .process) :
    ∀ call ∈ calls, call.isErrand = false := by
  induction moves with
  | refl => exact List.forall_mem_nil _
  | call move _ ih => exact List.forall_mem_cons.mpr ⟨move.not_isErrand other, ih⟩
  | settle _ _ ih => exact ih

theorem Prepared.resolved_eq {build after : Build} {result : Except ProvisionError Unit}
    {calls : List CallMade} (prepared : Prepared build result calls after) :
    after.resolved = build.resolved := by
  cases prepared <;> rfl

theorem Cleared.not_isErrand {build after : Build} {result : Except ProvisionError Unit}
    {calls : List CallMade} (cleared : Cleared build result calls after) :
    ∀ call ∈ calls, call.isErrand = false := by
  intro call made
  have clears := cleared.clears call made
  obtain ⟨question, answer⟩ := call
  cases question <;> first | rfl | exact clears.elim

/-- Other requests than processes have nothing to do with images. -/
theorem Went.idle {build after : Build} {request : Request} {result : Except ProvisionError Unit}
    {calls : List CallMade} (went : Went build request result calls after)
    (other : ∀ starter, request ≠ .runProcess starter) :
    (∀ call ∈ calls, call.isErrand = false) ∧ after.resolved = build.resolved := by
  cases went with
  | prepared prepared => exact ⟨prepared.moves.not_isErrand (by simp), prepared.resolved_eq⟩
  | attached attached => exact ⟨attached.moves.not_isErrand (by simp), rfl⟩
  | held attached => exact ⟨attached.moves.not_isErrand (by simp), rfl⟩
  | @ran starter => exact absurd rfl (other starter)
  | advanced => exact ⟨List.forall_mem_nil _, rfl⟩
  | cleared cleared => exact ⟨cleared.not_isErrand, by rw [cleared.after_eq]; rfl⟩

/-- **Every turn serves errands that fit.** -/
theorem Turn.Happens.served (happens : turn.Happens) (orderly : turn.before.Orderly)
    (anchored : turn.before.Anchored) (knows : Knows past turn.before) :
    Served past turn.errands turn.calls turn.after := by
  by_cases process : ∃ starter, turn.request = .runProcess starter
  · obtain ⟨starter, request⟩ := process
    obtain ⟨result, -, processed⟩ := happens.processed request orderly anchored
    rw [Turn.errands, request]
    exact processed.served knows
  · have other : ∀ starter, turn.request ≠ .runProcess starter := fun starter same =>
      process ⟨starter, same⟩
    obtain ⟨idle, same⟩ := (happens.went orderly).idle other
    have none : turn.errands = [] := by
      rw [Turn.errands]
      cases request : turn.request with
      | runProcess starter => exact absurd request (other starter)
      | _ => rfl
    rw [none]
    exact served_nil idle (knows.congr same)

end Turns

section Runs

variable {declared : ContainerSet} {settings : Settings} {left : CarryOver} {workspace : String}
  {turns : List Turn} {build : Build}

theorem errandsOf_concat (turns : List Turn) (turn : Turn) :
    errandsOf (turns ++ [turn]) = errandsOf turns ++ turn.errands := by
  rw [errandsOf, List.flatMap_append, List.flatMap_singleton, errandsOf]

/-- Nothing was told to a build that begins. -/
theorem knows_fresh : Knows [] (fresh declared settings left workspace) where
  told here := by cases here
  known told := by
    rcases told with socket | ⟨errand, member, -⟩
    · exact .inl socket.1
    · cases member

theorem Run.knows (run : Run (fresh declared settings left workspace) turns build) :
    Knows (errandsOf turns) build := by
  induction run with
  | start => exact knows_fresh
  | turn run happens ih =>
    rw [errandsOf_concat]
    exact (happens.served run.orderly run.held_of_none ih).knows

theorem Run.fitting (run : Run (fresh declared settings left workspace) turns build) :
    Fitting [] (errandsOf turns) := by
  induction run with
  | start => exact fitting_nil []
  | turn run happens ih =>
    rw [errandsOf_concat]
    exact ih.append (happens.served run.orderly run.held_of_none run.knows).fits

theorem Run.errands_all (run : Run (fresh declared settings left workspace) turns build) :
    (errandsOf turns).map (·.call) = (callsOf turns).filter CallMade.isErrand := by
  induction run with
  | start => rfl
  | turn run happens ih =>
    rw [errandsOf_concat, callsOf_concat, List.map_append, List.filter_append, ih,
      (happens.served run.orderly run.held_of_none run.knows).all]

/-- A source without a tag is resolved, and a success is kept. -/
theorem resolveImage_runOn {source : ImageSource} (unresolved : build.tag? source = none) :
    (resolveImage source).runOn build =
      (source.resolve build.workspace).run >>= fun answer =>
        pure (build.remembering source answer) := by
  have missing : build.resolved.find? (·.1.same source) = none := by
    simpa only [tag?, Option.map_eq_none_iff] using unresolved
  have here : (current : Operation Build).runOn build = pure (.ok build, build) := rfl
  rw [resolveImage, Operation.runOn_bind, here, pure_bind]
  simp only [Operation.goOn, missing, liftOr, bind_assoc, Operation.runOn_bind,
    Operation.runOn_liftWork, pure_bind]
  congr 1
  funext answer
  cases answer <;> rfl

/-- **Images are resolved once in every run**, whatever fails, is tried again or is cleared away,
and every container is launched from the image of its own source. -/
theorem image_resolved_once (run : Run (fresh declared settings left workspace) turns build) :
    ImagesOnce turns build := by
  refine ⟨run.errands_all, ?_, run.fitting, ?_, ?_, ?_⟩
  · intro turn member
    obtain ⟨earlier, later, rfl⟩ := List.append_of_mem member
    obtain ⟨before, happens⟩ := run.split
    exact (happens.served before.orderly before.held_of_none before.knows).placed
  · exact fun source other tag second same told again => run.knows.same same told again
  · rintro earlier turn later starter image cause rfl request failed
    obtain ⟨before, happens⟩ := run.split
    obtain ⟨result, same, processed⟩ :=
      happens.processed request before.orderly before.held_of_none
    cases result with
    | ok running => cases failed.symm.trans same
    | error reason =>
      obtain rfl := Except.error.inj (failed.symm.trans same)
      obtain ⟨need, front, asked, split, describes, resolved, unknown⟩ := processed.failedFor
      refine ⟨need, front, asked, ?_, describes, resolved, ?_⟩
      · rw [Turn.errands, request]
        exact split
      · exact (Run.turn before happens).knows.untold unknown (failed_ne_socket resolved)
  · intro source untold
    refine resolveImage_runOn (Option.eq_none_iff_forall_ne_some.mpr fun tag known => ?_)
    exact untold tag (run.knows.told known)

/-- An image cannot be pulled at first, and then a sidecar cannot be launched; in the end the build
is cleared away and begins once more. -/
def stumbling : List ((InMemory → InMemory) × Request) :=
  [(id, .prepareAgent), (fun engine => engine.failOn "pull_image", .runProcess {}),
    (fun engine => engine.succeedOn "pull_image", .runProcess {}), (id, .advancePhase),
    (fun engine => engine.failOn "launch_sidecar_container", .runProcess {}),
    (fun engine => engine.succeedOn "launch_sidecar_container", .runProcess {}), (id, .clean),
    (id, .prepareAgent), (id, .runProcess {})]

/-- The errands of each turn, and how many of them are launches: what could not be pulled is asked
about again, what could not be launched is not, and nothing is after the build was cleared away. -/
theorem image_resolved_once_stumbling :
    (played stumbling).1.map (fun turn => (turn.errands.length, (launchesIn turn.calls).length)) =
        [(0, 0), (2, 0), (3, 1), (0, 0), (3, 1), (4, 2), (0, 0), (0, 0), (2, 2)] ∧
      ImagesOnce (played stumbling).1 (played stumbling).2 :=
  ⟨by decide +kernel, image_resolved_once (run_played stumbling)⟩

end Runs

end Build

end BuildYard
