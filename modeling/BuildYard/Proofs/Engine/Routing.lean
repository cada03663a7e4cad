import BuildYard.Proofs.Engine.Interchange
import BuildYard.Proofs.Engine.Stopping

/-!
# Where output goes

A connection brings the frames of a process's streams in one row. Each frame is
passed on to at most one sink, by the stream that it belongs to
(`ByApi.passFrame_routed`), so that a row of frames leaves with every sink the
data of its stream, in their order (`ByApi.pump_routed`). If the connection
breaks off, the frames before it have been passed on and nothing more
(`ByApi.pump_broken`).

A process that is waited for passes on the frames of its own connection
(`ByApi.exec_routed`): what it asks in the end, and how it comes out, adds
nothing to any sink. Both hold whoever answers (`output_routed`).
-/

set_option autoImplicit false

namespace BuildYard

open Frames (Frame)

/-- Whether a question adds to what a sink receives. -/
def Host.Ask.isWrite : Host.Ask → Bool
  | .write _ _ => true
  | _ => false

/-- What a sink receives by an exchange. -/
def writtenTo (sink : Host.Sink) : HostExchange → Bytes
  | ⟨.write receiver data, _⟩ => if receiver = sink then data else []
  | _ => []

/-- What a sink receives in a trace. -/
def receivedBy (sink : Host.Sink) (trace : List HostExchange) : Bytes :=
  trace.flatMap (writtenTo sink)

theorem receivedBy_append (sink : Host.Sink) (first second : List HostExchange) :
    receivedBy sink (first ++ second) = receivedBy sink first ++ receivedBy sink second :=
  List.flatMap_append ..

/-- Only what adds to a sink counts for what a sink receives. -/
theorem receivedBy_counted (sink : Host.Sink) (trace : List HostExchange) :
    receivedBy sink (Program.counted Host.Ask.isWrite trace) = receivedBy sink trace := by
  induction trace with
  | nil => rfl
  | cons exchange rest ih =>
    obtain ⟨question, answer⟩ := exchange
    cases question with
    | write receiver data => exact congrArg (writtenTo sink ⟨.write receiver data, answer⟩ ++ ·) ih
    | _ => exact ih

/-- The two sinks are not the same. -/
def Sinks.Apart (sinks : Sinks) : Prop :=
  ∀ sink, sinks.out = some sink → sinks.err ≠ some sink

theorem Starter.sinks_apart (starter : Starter) : starter.sinks.Apart := by
  intro sink out err
  obtain ⟨_, output⟩ := Option.ite_none_right_eq_some.mp out
  obtain ⟨_, errors⟩ := Option.ite_none_right_eq_some.mp err
  cases output.trans errors.symm

/-- What a frame has for the standard output. -/
def Frames.Frame.output (frame : Frame) : Bytes :=
  match frame.channel with
  | .output | .console => frame.data
  | .input | .errors => []

/-- What a frame has for the error output. -/
def Frames.Frame.errors (frame : Frame) : Bytes :=
  match frame.channel with
  | .errors => frame.data
  | .input | .output | .console => []

/-- What the sinks receive is what these frames have for them, and no other sink receives anything. -/
structure Routed (sinks : Sinks) (frames : List Frame) (trace : List HostExchange) : Prop where
  out : ∀ sink, sinks.out = some sink → receivedBy sink trace = frames.flatMap (·.output)
  err : ∀ sink, sinks.err = some sink → receivedBy sink trace = frames.flatMap (·.errors)
  other : ∀ sink, sinks.out ≠ some sink → sinks.err ≠ some sink → receivedBy sink trace = []

section Rows

variable {sinks : Sinks} {frame : Frame} {frames : List Frame} {first second : List HostExchange}

theorem Routed.nil : Routed sinks [] [] where
  out _ _ := rfl
  err _ _ := rfl
  other _ _ _ := rfl

theorem Routed.append {more : List Frame} (routed : Routed sinks frames first)
    (routed' : Routed sinks more second) : Routed sinks (frames ++ more) (first ++ second) where
  out sink given := by
    rw [receivedBy_append, routed.out sink given, routed'.out sink given, List.flatMap_append]
  err sink given := by
    rw [receivedBy_append, routed.err sink given, routed'.err sink given, List.flatMap_append]
  other sink out err := by
    rw [receivedBy_append, routed.other sink out err, routed'.other sink out err]
    rfl

theorem receivedBy_write (sink receiver : Host.Sink) (data : Bytes) :
    receivedBy sink [⟨.write receiver data, ()⟩] = if receiver = sink then data else [] :=
  List.append_nil _

/-- What is not passed on concerns no sink that there is. -/
theorem Routed.unwritten (out : sinks.out.isSome → frame.output = [])
    (err : sinks.err.isSome → frame.errors = []) : Routed sinks [frame] [] where
  out sink given := by rw [List.flatMap_singleton, out (given ▸ rfl)]; rfl
  err sink given := by rw [List.flatMap_singleton, err (given ▸ rfl)]; rfl
  other _ _ _ := rfl

/-- Passed on to the sink for the standard output. -/
theorem Routed.written_out {receiver : Host.Sink} (apart : sinks.Apart)
    (given : sinks.out = some receiver) (errors : frame.errors = []) :
    Routed sinks [frame] [⟨.write receiver frame.output, ()⟩] where
  out sink same := by
    obtain rfl : receiver = sink := Option.some.inj (given.symm.trans same)
    rw [receivedBy_write, if_pos rfl, List.flatMap_singleton]
  err sink other := by
    have unlike : receiver ≠ sink := fun same => apart receiver given (same ▸ other)
    rw [receivedBy_write, if_neg unlike, List.flatMap_singleton, errors]
  other sink other _ := by
    have unlike : receiver ≠ sink := fun same => other (same ▸ given)
    rw [receivedBy_write, if_neg unlike]

/-- Passed on to the sink for the error output. -/
theorem Routed.written_err {receiver : Host.Sink} (apart : sinks.Apart)
    (given : sinks.err = some receiver) (output : frame.output = []) :
    Routed sinks [frame] [⟨.write receiver frame.errors, ()⟩] where
  out sink other := by
    have unlike : receiver ≠ sink := fun same => apart sink other (same ▸ given)
    rw [receivedBy_write, if_neg unlike, List.flatMap_singleton, output]
  err sink same := by
    obtain rfl : receiver = sink := Option.some.inj (given.symm.trans same)
    rw [receivedBy_write, if_pos rfl, List.flatMap_singleton]
  other sink _ other := by
    have unlike : receiver ≠ sink := fun same => other (same ▸ given)
    rw [receivedBy_write, if_neg unlike]

end Rows

namespace ByApi

variable {sinks : Sinks} {frames : List Frame} {description : String}

/-- Lines that are remarked upon are passed on to no sink. -/
theorem remarks_unwritten (lines : List String) (about : Option String) :
    Program.Ensures Host.Ask.isWrite
      (lines.forM fun line => Host.remark .warn .apiDriver line about) fun _ made => made = [] := by
  induction lines with
  | nil => exact Program.ensures_pure.mpr rfl
  | cons line rest ih =>
    refine Program.ensures_bind.mpr ((Program.ensures_quiet rfl).mpr fun _ => ?_)
    exact ih

/-- What has nothing for the error output goes to the sink for the standard output, if there is
one. -/
theorem offered_routed (apart : sinks.Apart) (frame : Frame) (errors : frame.errors = []) :
    Program.Ensures Host.Ask.isWrite
      (match sinks.out with
        | some sink => Host.ask (.write sink frame.output)
        | none => pure ())
      fun _ made => Routed sinks [frame] made := by
  cases given : sinks.out with
  | some sink =>
    exact (Program.ensures_question rfl).mpr fun _ => .written_out apart given errors
  | none =>
    refine Program.ensures_pure.mpr (.unwritten (fun some => ?_) fun _ => errors)
    rw [given] at some
    cases some

/-- **A frame is passed on to the sink of its stream**, and to no other. -/
theorem passFrame_routed (apart : sinks.Apart) (frame : Frame) :
    Program.Ensures Host.Ask.isWrite (passFrame description sinks frame)
      fun _ made => Routed sinks [frame] made := by
  obtain ⟨channel, data⟩ := frame
  cases channel with
  | input => exact Program.ensures_pure.mpr (.unwritten (fun _ => rfl) fun _ => rfl)
  | output => exact offered_routed apart ⟨.output, data⟩ rfl
  | console => exact offered_routed apart ⟨.console, data⟩ rfl
  | errors =>
    rw [passFrame]
    cases given : sinks.err with
    | some sink =>
      exact (Program.ensures_question rfl).mpr fun _ => .written_err apart given rfl
    | none =>
      refine (remarks_unwritten _ _).mono fun _ made unwritten => unwritten ▸ ?_
      refine .unwritten (fun _ => rfl) fun some => ?_
      rw [given] at some
      cases some

/-- Frames are passed on before what follows them. -/
theorem pump_append (rest : List (Except ApiError Frame)) :
    pump description sinks (frames.map .ok ++ rest) =
      pump description sinks (frames.map .ok) >>= fun _ => pump description sinks rest := by
  induction frames with
  | nil => rfl
  | cons frame frames ih =>
    rw [List.map_cons, List.cons_append, pump, ih, pump, bind_assoc]

/-- **A row of frames loses nothing**: all are passed on, to the sinks of their streams. -/
theorem pump_routed (apart : sinks.Apart) (frames : List Frame) :
    Program.Ensures Host.Ask.isWrite (pump description sinks (frames.map .ok)).run
      fun result made => Routed sinks frames made ∧ result = .ok () := by
  induction frames with
  | nil => exact Program.ensures_ok.mpr ⟨.nil, rfl⟩
  | cons frame frames ih =>
    refine Program.ensures_lift_andThen.mpr ((passFrame_routed apart frame).mono ?_)
    intro _ made routed
    exact ih.mono fun result more passed => ⟨routed.append passed.1, passed.2⟩

/-- **A connection that breaks off** leaves what came before, and tells why. -/
theorem pump_broken (apart : sinks.Apart) (frames : List Frame) (cause : ApiError)
    (rest : List (Except ApiError Frame)) :
    Program.Ensures Host.Ask.isWrite
      (pump description sinks (frames.map .ok ++ .error cause :: rest)).run
      fun result made => Routed sinks frames made ∧ result = .error (.api cause) := by
  rw [pump_append]
  refine Program.ensures_andThen.mpr ((pump_routed apart frames).mono ?_)
  rintro _ made ⟨routed, rfl⟩
  exact Program.ensures_throw.mpr ⟨(List.append_nil made).symm ▸ routed, rfl⟩

/-! ## Processes -/

/-- **What comes over a connection is passed on up to what breaks it off.** -/
theorem pieces_routed (apart : sinks.Apart) (stream : Host.Stream) :
    Program.Ensures Host.Ask.isWrite (pump description sinks (pieces stream)).run
      fun result made => Routed sinks (Frames.decode stream.data).frames made ∧
        ∀ cause, stream.broken = some cause → result = .error (.api cause) := by
  rw [pieces]
  generalize (if (Frames.decode stream.data).rest.isEmpty || stream.staysOpen then none
    else some (ApiError.other "the connection ended inside a frame")) = cut
  cases ending : stream.broken.or cut with
  | none =>
    obtain ⟨whole, _⟩ := Option.or_eq_none_iff.mp ending
    rw [Option.map_none, Option.toList_none, List.append_nil]
    refine (pump_routed apart _).mono fun result made passed => ⟨passed.1, fun cause broken => ?_⟩
    cases whole.symm.trans broken
  | some cause =>
    refine (pump_broken apart _ cause []).mono fun result made passed => ⟨passed.1, ?_⟩
    intro cause' broken
    rw [broken, Option.some_or] at ending
    rw [passed.2, Option.some.inj ending]

theorem send_unwritten {α : Type} (driver : ByApi) (request : Host.Request)
    (read : Host.Reply → Except ApiError α) :
    Program.Ensures Host.Ask.isWrite (driver.send request read).run fun _ made => made = [] := by
  refine Program.ensures_lift_andThen.mpr ((Program.ensures_quiet rfl).mpr fun answer => ?_)
  refine Program.ensures_andThen.mpr (ensures_ofRequest.mpr ?_)
  cases answer with
  | error cause => rfl
  | ok reply => exact ensures_ofRequest.mpr rfl

/-- **A process passes on the frames of its connection**, and how it comes out adds nothing. -/
theorem course_routed (apart : sinks.Apart) (stream : Host.Stream) {finish stopped : Attempt Int}
    (quiet : Program.Ensures Host.Ask.isWrite finish.run fun _ made => made = []) :
    Program.Ensures Host.Ask.isWrite
      (Running.begin description (course description sinks stream finish stopped)).wait
      fun result made => Routed sinks (Frames.decode stream.data).frames made ∧
        ∀ cause, stream.broken = some cause → result = some (.error (.api cause)) := by
  refine Running.ensures_wait.mpr ?_
  change Program.Ensures _ (Course.advance false true (course _ _ _ _ _)) _
  rw [course, Course.advance_after]
  refine Program.ensures_bind.mpr ((pieces_routed apart stream).mono ?_)
  rintro (cause | ⟨⟩) made ⟨routed, broken⟩
  · refine Program.ensures_pure.mpr ⟨(List.append_nil made).symm ▸ routed, fun cause' same => ?_⟩
    exact congrArg some (congrArg Except.error (Except.error.inj (broken cause' same)))
  · have whole (cause : ApiError) : stream.broken ≠ some cause := fun same => nomatch broken cause same
    dsimp only
    split
    · exact Program.ensures_pure.mpr
        ⟨(List.append_nil made).symm ▸ routed, fun cause same => absurd same (whole cause)⟩
    · rw [Course.advance_after]
      refine Program.ensures_bind.mpr (quiet.mono ?_)
      rintro result _ rfl
      exact Program.ensures_pure.mpr
        ⟨(List.append_nil made).symm ▸ routed, fun cause same => absurd same (whole cause)⟩

/-- What comes of asking for a process: if it starts, it has a connection, and whoever waits for it
routes what comes over that. -/
theorem exec_routed (driver : ByApi) (container : String) (starter : Starter) :
    Attempt.Ensures (driver.exec container starter) fun result made => ∀ process,
      result = .ok process → ∃ host request stream,
        ⟨.connect host request none, .ok (.inr stream)⟩ ∈ made ∧
        Program.Ensures Host.Ask.isWrite process.wait fun result made =>
          Routed starter.sinks (Frames.decode stream.data).frames made ∧
            ∀ cause, stream.broken = some cause → result = some (.error (.api cause)) := by
  refine ensures_debug_andThen.mpr (Program.ensures_andThen.mpr (ensures_send.mpr fun answer => ?_))
  split
  · next id _ =>
    refine Program.ensures_andThen.mpr (ensures_connect.mpr fun come => ?_)
    rcases come with cause | reply | stream
    · rintro _ ⟨⟩
    · rw [streamOf]
      cases Replies.accepted reply <;> rintro _ ⟨⟩
    · refine Program.ensures_ok.mpr ?_
      rintro _ ⟨⟩
      refine ⟨_, _, stream, .tail _ (.head _), ?_⟩
      exact course_routed starter.sinks_apart stream (send_unwritten _ _ _)
  · rintro _ ⟨⟩

end ByApi

/-! ## Nothing lost and nothing crossed -/

/-- Whoever answers, a task ends so that this holds of its value and of all that it asked. -/
def Host.EndsIn {α : Type} (task : Host.Task α) (post : α → List HostExchange → Prop) : Prop :=
  ∀ (σ : Type) (answer : (ask : Host.Ask) → σ → ask.Answer × σ) (state : σ),
    post (task.record answer state).2.1 (task.record answer state).1

theorem Routed.of_counted {sinks : Sinks} {frames : List Frame} {trace : List HostExchange}
    (routed : Routed sinks frames (Program.counted Host.Ask.isWrite trace)) :
    Routed sinks frames trace where
  out sink given := receivedBy_counted sink trace ▸ routed.out sink given
  err sink given := receivedBy_counted sink trace ▸ routed.err sink given
  other sink out err := receivedBy_counted sink trace ▸ routed.other sink out err

theorem Host.EndsIn.of_routed {α : Type} {task : Host.Task α} {sinks : Sinks} {frames : List Frame}
    {ends : α → Prop}
    (ensures : Program.Ensures Host.Ask.isWrite task fun value made =>
      Routed sinks frames made ∧ ends value) :
    Host.EndsIn task fun value trace => Routed sinks frames trace ∧ ends value := by
  intro σ answer state
  obtain ⟨routed, ended⟩ := ensures _ _ (Program.yields_record answer task state)
  exact ⟨routed.of_counted, ended⟩

/-- **The routing of output loses nothing and crosses nothing.** Whatever frames come, in whatever
order, and whichever of the two sinks there are: if they end in order, the one sink has received what
was written to the standard output or without a frame, the other what was written to the error
output, each in its order and nothing else, and no other sink has received anything. If the connection
breaks off, that is the error, and the sinks have received the same of the frames before. So it is
with every process that the API runs in a container, when it is waited for. -/
theorem output_routed :
    (∀ description sinks, Sinks.Apart sinks → ∀ frames : List Frame,
      Host.EndsIn (ByApi.pump description sinks (frames.map .ok)).run
        (fun result trace => Routed sinks frames trace ∧ result = .ok ()) ∧
      ∀ cause rest,
        Host.EndsIn (ByApi.pump description sinks (frames.map .ok ++ .error cause :: rest)).run
          fun result trace => Routed sinks frames trace ∧ result = .error (.api cause)) ∧
    ∀ (driver : ByApi) container starter asked process,
      (driver.exec container starter).run.Yields asked (.ok process) →
        ∃ host request stream, ⟨.connect host request none, .ok (.inr stream)⟩ ∈ asked ∧
          Host.EndsIn process.wait fun result trace =>
            Routed starter.sinks (Frames.decode stream.data).frames trace ∧
              ∀ cause, stream.broken = some cause → result = some (.error (.api cause)) := by
  refine ⟨fun description sinks apart frames => ⟨?_, fun cause rest => ?_⟩, ?_⟩
  · exact .of_routed (ByApi.pump_routed apart frames)
  · exact .of_routed (ByApi.pump_broken apart frames cause rest)
  · intro driver container starter asked process yields
    obtain ⟨host, request, stream, member, routed⟩ :=
      driver.exec_routed container starter asked _ yields process rfl
    exact ⟨host, request, stream, (List.mem_filter.mp member).1, .of_routed routed⟩

/-- An engine that starts whatever it is asked to, writes to both streams and then is gone. -/
def breaksOff (ask : Host.Ask) (state : Unit) : ask.Answer × Unit :=
  match ask with
  | .send _ _ => (.ok { status := 201, body := Bytes.ofString "\x7b\"Id\":\"e1\"\x7d" }, state)
  | .connect _ _ _ =>
    (.ok (.inr { data := [2, 0, 0, 0, 0, 0, 0, 1, 120, 97], broken := some (.other "gone") }), state)
  | ask => (Relay.answer ask .null, state)

/-- Five frames and an engine that is gone then; and a process that such an engine starts. -/
theorem output_routed_brokenOff :
    let starter : Starter := { cmds := ["make"], stdout := true, stderr := true }
    let frames : List Frame :=
      [⟨.output, [97]⟩, ⟨.errors, [120]⟩, ⟨.console, [98]⟩, ⟨.input, [122]⟩, ⟨.output, [99]⟩]
    (Host.EndsIn (ByApi.pump "make" starter.sinks (frames.map .ok ++ [.error (.other "gone")])).run
      fun result trace => receivedBy .output trace = [97, 98, 99] ∧
        receivedBy .errors trace = [120] ∧ result = .error (.api (.other "gone"))) ∧
    let begun := ((default : ByApi).exec "c1" starter).run.record breaksOff ()
    ∃ process, begun.2.1 = .ok process ∧
      ∃ host request stream, ⟨.connect host request none, .ok (.inr stream)⟩ ∈ begun.1 ∧
        Host.EndsIn process.wait fun result trace =>
          Routed starter.sinks (Frames.decode stream.data).frames trace ∧
            ∀ cause, stream.broken = some cause → result = some (.error (.api cause)) := by
  intro starter frames
  constructor
  · intro σ answer state
    obtain ⟨routed, told⟩ := (output_routed.1 "make" starter.sinks starter.sinks_apart frames).2
      (.other "gone") [] σ answer state
    exact ⟨routed.out .output rfl, routed.err .errors rfl, told⟩
  · intro begun
    have started : begun.2.1.toOption.isSome = true := by decide +kernel
    have yields := Program.yields_record breaksOff ((default : ByApi).exec "c1" starter).run ()
    cases result : begun.2.1 with
    | error cause =>
      rw [result] at started
      cases started
    | ok process =>
      refine ⟨process, rfl, ?_⟩
      exact output_routed.2 default "c1" starter begun.1 process (result ▸ yields)

end BuildYard
