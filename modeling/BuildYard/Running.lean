import BuildYard.Host

/-!
# Processes that run

A process that was started has a body, which asks the host and in the end
yields an exit code, and a handle, by which it can be told to stop and waited
for. The word to stop is given once. It counts when the body can still take
it: one that has ended, or has stopped listening, is not told, and one that
has not begun yet finds it waiting. A body that is waited for without having
been told simply goes on: the word may come as long as the handle is there.
-/

set_option autoImplicit false

namespace BuildYard

/-- What a body finds that looks for the word to stop. -/
inductive Heard where
  /-- no word yet -/
  | nothing
  | stop
  /-- no word, and none can come any more -/
  | silence
  deriving DecidableEq, Repr, Inhabited

/-- What is found, by whether the word is waiting and whether it can be given. -/
def Heard.of (told listening : Bool) : Heard :=
  if told then .stop else if listening then .nothing else .silence

/-- What a process still does. -/
inductive Course where
  /-- it has ended -/
  | ended (result : Except EngineError Int)
  /-- it broke off without a result -/
  | lost (text : String)
  /-- it goes on by itself -/
  | step (next : Course)
  /-- it asks the host -/
  | ask (question : Host.Ask) (next : question.Answer → Course)
  /-- it can no longer be told to stop, and hears at most what it was told before -/
  | deaf (next : Course)
  /-- it looks for the word to stop and goes on with what it finds -/
  | look (found : Heard → Course)
  /-- it does nothing until it is told to stop, or no word can come any more -/
  | listen (stopped silent : Course)
  /-- it does nothing until it is told to stop -/
  | idle (stopped : Course)

namespace Course

/-- A task of the host, and what a process does after it. -/
def after {α : Type} (task : Host.Task α) (next : α → Course) : Course :=
  match task with
  | .done value => next value
  | .ask question reply => .ask question fun answer => after (reply answer) next

/-- Lets a course go on as far as it can. `told` says whether the word to stop is
waiting, `listening` whether it can be given. The word is heard once. What is left has
ended, is lost or waits for the word. -/
def advance (told listening : Bool) : Course → Host.Task (Course × Bool × Bool)
  | ended result => .done (ended result, told, false)
  | lost text => .done (lost text, told, false)
  | step next => next.advance told listening
  | ask question next => .ask question fun answer => (next answer).advance told listening
  | deaf next => next.advance told false
  | look found => (found (.of told listening)).advance false (!told && listening)
  | listen stopped silent =>
    match Heard.of told listening with
    | .stop => stopped.advance false false
    | .silence => silent.advance false false
    | .nothing => .done (listen stopped silent, told, listening)
  | idle stopped =>
    if told then stopped.advance false false else .done (idle stopped, told, listening)

/-- Whether it has ended, with or without a result. -/
def hasEnded : Course → Bool
  | ended _ | lost _ => true
  | _ => false

end Course

/-- A process that was started. -/
structure Running where
  description : String
  course : Course
  /-- the word to stop was asked for -/
  asked : Bool := false
  /-- the word to stop waits for the body -/
  told : Bool := false
  /-- the body can be told to stop -/
  listening : Bool := true

namespace Running

/-- A process whose body has not begun. -/
def begin (description : String) (course : Course) : Running :=
  { description, course := .step course }

/-- Whether it has ended. -/
def isFinished (process : Running) : Bool :=
  process.course.hasEnded

/-- Lets a process go on as far as it can. -/
def settle (process : Running) : Host.Task Running := do
  let (course, told, listening) ← process.course.advance process.told process.listening
  pure { process with course, told, listening }

/-- Tells a process to stop. The answer is whether the word could be given, which it
can once, to a body that listens. -/
def stop (process : Running) : Bool × Running :=
  if process.asked then (false, process)
  else
    (process.listening,
      { process with asked := true, told := process.listening })

/-- Waits for the result of a process; `none` if it waits for a word to stop that nobody
will give. -/
def wait (process : Running) : Host.Task (Option (Except EngineError Int)) := do
  let settled ← process.settle
  match settled.course with
  | .ended result => pure (some result)
  | .lost text => pure (some (.error (.taskLost text)))
  | _ => pure none

end Running

end BuildYard
