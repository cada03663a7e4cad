import BuildYard.Proofs.Archive.Cuts
import BuildYard.Proofs.Archive.SingleFile
import BuildYard.Proofs.Engine.Translations
import Mathlib.Logic.Function.Basic

/-!
# Engines that serve a container

The files of a container are bytes by paths. An engine serves them (`Serves`) if
what it gives out is an archive whose first regular file is the one asked for, and
if it unpacks an archive of one file by putting that file in its place
(`Unpacked.put`). Whether a request and its answer are such is told by what they
copy, be it by the words of a run of the engine's program (`serves_copyOut`,
`serves_copyIn`) or by a request to its API (`serves_sentOut`, `serves_sentIn`).
-/

set_option autoImplicit false

namespace BuildYard

open Archive (FirstFile Holds)

/-! ## The files of a container -/

/-- The files of a container, by their paths. -/
abbrev ContainerFiles := String → Option Bytes

/-- What becomes of files into whose directory `dir` an archive of one file is unpacked: that file
is replaced. An archive that an engine has taken has a length of 64 bits. -/
def Unpacked (dir : String) (archive : Bytes) (files files' : ContainerFiles) : Prop :=
  archive.length < UInt64.size ∧
    ∀ found name, Holds archive found → found.nameBytes = Bytes.ofString name →
      files' = Function.update files (Path.join dir name) (some found.data)

/-- An engine serves the container `id`: what a request does to its files, and what it brings of
them. What is no copy leaves them alone. Of copies that fail nothing is known but that copying out
changes nothing. -/
structure Serves (id : String) (files : ContainerFiles) (exchange : HostExchange)
    (files' : ContainerFiles) : Prop where
  still : exchange.question.verb? ≠ some .copy → files' = files
  copyOut : ∀ path, exchange.question.Means (.copyOut id path) →
    files' = files ∧ ∀ archive, brought? exchange = some archive →
      ∃ found after, FirstFile { bytes := archive } found after ∧ files path = some found.data
  copyIn : ∀ dir archive, exchange.question.Means (.copyIn id dir archive) →
    (brought? exchange).isSome = true → Unpacked dir archive files files'

/-- From one state of the files to another through what is done, one after another. -/
inductive Through {α : Type} (does : ContainerFiles → α → ContainerFiles → Prop) :
    ContainerFiles → List α → ContainerFiles → Prop where
  | nil (files : ContainerFiles) : Through does files [] files
  | cons {files between files' : ContainerFiles} {a : α} {as : List α}
      (here : does files a between) (rest : Through does between as files') :
      Through does files (a :: as) files'

section Through

variable {α : Type} {does : ContainerFiles → α → ContainerFiles → Prop}
  {files files' : ContainerFiles} {a : α} {as bs : List α}

theorem through_nil_iff : Through does files [] files' ↔ files' = files := by
  constructor
  · rintro ⟨⟩
    rfl
  · rintro rfl
    exact .nil _

theorem through_singleton_iff : Through does files [a] files' ↔ does files a files' := by
  constructor
  · rintro (_ | ⟨here, ⟨⟩⟩)
    exact here
  · exact fun here => .cons here (.nil _)

theorem through_append_iff :
    Through does files (as ++ bs) files' ↔
      ∃ between, Through does files as between ∧ Through does between bs files' := by
  induction as generalizing files with
  | nil =>
    constructor
    · exact fun through => ⟨files, .nil _, through⟩
    · rintro ⟨between, ⟨⟩, through⟩
      exact through
  | cons a as ih =>
    constructor
    · rintro (_ | ⟨here, rest⟩)
      obtain ⟨between, first, second⟩ := ih.mp rest
      exact ⟨between, .cons here first, second⟩
    · rintro ⟨between, _ | ⟨here, rest⟩, second⟩
      exact .cons here (ih.mpr ⟨between, rest, second⟩)

/-- What is done can be told by what is read off each. -/
theorem through_of_map_cons {β : Type} {f : α → β} {b : β} {more : List β}
    {between : ContainerFiles} (split : as.map f = b :: more)
    (here : ∀ a, f a = b → does files a between)
    (rest : ∀ as, as.map f = more → Through does between as files') :
    Through does files as files' := by
  obtain ⟨a, others, rfl, read, readOthers⟩ := List.map_eq_cons_iff.mp split
  exact .cons (here a read) (rest others readOthers)

theorem through_of_map_nil {β : Type} {f : α → β} (none : as.map f = []) :
    Through does files as files := by
  obtain rfl := List.map_eq_nil_iff.mp none
  exact .nil files

end Through

/-- **An archive made of one file puts that file there.** -/
theorem Unpacked.put {dir name : String} {contents archive : Bytes} {mode : Nat}
    {files files' : ContainerFiles} (unpacked : Unpacked dir archive files files')
    (packed : Archive.singleFile name contents mode = .ok archive)
    (kept : Archive.kept name = name) :
    files' = Function.update files (Path.join dir name) (some contents) := by
  obtain ⟨fits, puts⟩ := unpacked
  obtain ⟨found, holds, shows⟩ := Archive.singleFile_holds packed fits
  rw [puts found name holds (kept ▸ shows.name), shows.data]

/-! ## Requests that serve a container -/

section Serves

variable {id : String} {files files' : ContainerFiles} {exchange : HostExchange} {out : Bytes}

/-- What copies nothing serves a container by leaving it alone. -/
theorem serves_still (noOut : ∀ path, ¬ exchange.question.Means (.copyOut id path))
    (noIn : ∀ dir archive, ¬ exchange.question.Means (.copyIn id dir archive)) :
    Serves id files exchange files where
  still _ := rfl
  copyOut path means := absurd means (noOut path)
  copyIn dir archive means := absurd means (noIn dir archive)

/-- What brings a file of a container serves it. -/
theorem serves_out (path : String) {contents : Bytes}
    (unique : ∀ path', exchange.question.Means (.copyOut id path') → path = path')
    (noIn : ∀ dir archive, ¬ exchange.question.Means (.copyIn id dir archive))
    (brought : brought? exchange = some out) (packed : Archive.firstFile out = .ok contents)
    (there : files path = some contents) : Serves id files exchange files where
  still _ := rfl
  copyIn dir archive means := absurd means (noIn dir archive)
  copyOut := by
    intro path' means
    obtain rfl := unique path' means
    refine ⟨rfl, fun archive brings => ?_⟩
    obtain rfl : out = archive := Option.some.inj (brought.symm.trans brings)
    obtain ⟨found, after, first, rfl⟩ := Archive.firstFile_eq_ok_iff.mp packed
    exact ⟨found, after, first, there⟩

/-- What takes an archive of one file serves the container that has the file then. -/
theorem serves_in (dir name : String) {contents archive : Bytes} {mode : Nat}
    (verb : exchange.question.verb? = some .copy)
    (noOut : ∀ path, ¬ exchange.question.Means (.copyOut id path))
    (unique : ∀ dir' archive', exchange.question.Means (.copyIn id dir' archive') →
      dir = dir' ∧ archive = archive')
    (packed : Archive.singleFile name contents mode = .ok archive)
    (fits : archive.length < UInt64.size) (kept : Archive.kept name = name) :
    Serves id files exchange (Function.update files (Path.join dir name) (some contents)) where
  still noCopy := absurd verb noCopy
  copyOut path means := absurd means (noOut path)
  copyIn := by
    intro dir' archive' means _
    obtain ⟨rfl, rfl⟩ := unique dir' archive' means
    obtain ⟨found, holds, shows⟩ := Archive.singleFile_holds packed fits
    refine ⟨fits, fun other name' holds' named => ?_⟩
    obtain rfl : found = other :=
      (List.cons.inj (Except.ok.inj (holds.members.symm.trans holds'.members))).1
    have sameName : name = name' :=
      Bytes.ofString_injective (by rw [← named, shows.name, kept])
    rw [← sameName, shows.data]

end Serves

/-! ### By the command line -/

/-- The words of a run of the engine's program that succeeded, what it was fed and what it wrote. -/
def succeeded? : HostExchange → Option (List String × Option Bytes × Bytes)
  | ⟨.invoke invocation input, .ended (some 0) out _⟩ => some (invocation.arguments, input, out)
  | _ => none

section Succeeded

variable {id : String} {files : ContainerFiles} {exchange : HostExchange} {out : Bytes}

theorem eq_of_succeeded {words : List String} {input : Option Bytes}
    (run : succeeded? exchange = some (words, input, out)) :
    ∃ invocation err, exchange = ⟨.invoke invocation input, .ended (some 0) out err⟩ ∧
      invocation.arguments = words := by
  rw [succeeded?.eq_def] at run
  split at run
  · next invocation input' out' err =>
    cases run
    exact ⟨invocation, err, rfl, rfl⟩
  · cases run

/-- Words that no host stands in front of. -/
theorem said_eq {invocation : Host.Invocation} {words words' : List String} {word : String}
    (said : invocation.Says words') (same : invocation.arguments = word :: words)
    (unlike : word ≠ "-H") : word :: words = words' := by
  rcases said with plain | ⟨host, hosted⟩
  · exact same.symm.trans plain
  · exact absurd (List.cons.inj (same.symm.trans hosted)).1 unlike

theorem serves_copyOut (path : String) {contents : Bytes}
    (run : succeeded? exchange = some (["cp", id ++ ":" ++ path, "-"], none, out))
    (packed : Archive.firstFile out = .ok contents) (there : files path = some contents) :
    Serves id files exchange files := by
  obtain ⟨invocation, err, rfl, same⟩ := eq_of_succeeded run
  refine serves_out path (fun path' means => ?_) nofun rfl packed there
  cases means with
  | wordsCopyOut said =>
    obtain ⟨source, -⟩ := List.cons.inj (List.cons.inj (said_eq said same (by decide))).2
    exact (String.append_right_inj _).mp source

theorem serves_copyIn (dir name : String) {contents archive : Bytes} {mode : Nat}
    (run : succeeded? exchange = some (["cp", "-", id ++ ":" ++ dir], some archive, out))
    (packed : Archive.singleFile name contents mode = .ok archive)
    (fits : archive.length < UInt64.size) (kept : Archive.kept name = name) :
    Serves id files exchange (Function.update files (Path.join dir name) (some contents)) := by
  obtain ⟨invocation, err, rfl, same⟩ := eq_of_succeeded run
  refine serves_in dir name ?_ nofun (fun dir' archive' means => ?_) packed fits kept
  · simp only [Host.Ask.verb?, Host.Invocation.word?, same]
    rfl
  · cases means with
    | wordsCopyIn said =>
      have target := (List.cons.inj (List.cons.inj (said_eq said same (by decide))).2).2
      exact ⟨(String.append_right_inj _).mp (List.cons.inj target).1, rfl⟩

theorem serves_start (run : succeeded? exchange = some (["start", id], none, out)) :
    Serves id files exchange files := by
  obtain ⟨invocation, err, rfl, same⟩ := eq_of_succeeded run
  refine serves_still (fun path means => ?_) nofun
  cases means with
  | wordsCopyOut said =>
    have equal := said_eq said same (by decide)
    exact absurd (List.cons.inj equal).1 (by decide)

end Succeeded

/-! ### By the API -/

/-- A request to the API that succeeded: its method and query, the bytes it carried and those it
brought. -/
structure Accepted where
  method : String
  query : List (String × String) := []
  carried : Option Bytes := none
  brought : Bytes
  deriving DecidableEq

/-- What succeeded, if it was a request to the API with bytes or with nothing. -/
def accepted? : HostExchange → Option Accepted
  | ⟨.send _ { method, query, body := .none, .. }, .ok reply⟩ =>
    (Replies.accepted reply).toOption.map fun brought => { method, query, brought }
  | ⟨.send _ { method, query, body := .bytes data, .. }, .ok reply⟩ =>
    (Replies.accepted reply).toOption.map fun brought =>
      { method, query, carried := some data, brought }
  | _ => none

section Accepted

variable {id : String} {files : ContainerFiles} {exchange : HostExchange} {out : Bytes}

theorem eq_of_accepted {accepted : Accepted} (run : accepted? exchange = some accepted) :
    brought? exchange = some accepted.brought ∧ ∃ host path body,
      exchange.question =
        .send host { method := accepted.method, path, query := accepted.query, body } ∧
          ∀ data, body = .bytes data → accepted.carried = some data := by
  rw [accepted?.eq_def] at run
  split at run
  · obtain ⟨brought, taken, rfl⟩ := Option.map_eq_some_iff.mp run
    exact ⟨taken, _, _, _, rfl, nofun⟩
  · obtain ⟨brought, taken, rfl⟩ := Option.map_eq_some_iff.mp run
    exact ⟨taken, _, _, _, rfl, fun _ carried => congrArg some (Host.Body.bytes.inj carried)⟩
  · cases run

theorem sent_copyOut {host path : String} {request : Host.Request}
    (means : (Host.Ask.send host request).Means (.copyOut id path)) :
    request.method = "GET" ∧ request.query = [("path", path)] := by
  cases means
  exact ⟨rfl, rfl⟩

theorem sent_copyIn {host dir : String} {archive : Bytes} {request : Host.Request}
    (means : (Host.Ask.send host request).Means (.copyIn id dir archive)) :
    request.method = "PUT" ∧ request.query = [("path", dir)] ∧ request.body = .bytes archive := by
  cases means
  exact ⟨rfl, rfl, rfl⟩

theorem serves_sentOut (path : String) {contents : Bytes}
    (run : accepted? exchange = some { method := "GET", query := [("path", path)], brought := out })
    (packed : Archive.firstFile out = .ok contents) (there : files path = some contents) :
    Serves id files exchange files := by
  obtain ⟨brought, host, place, body, asked, -⟩ := eq_of_accepted run
  refine serves_out path (fun path' means => ?_) (fun dir archive means => ?_) brought packed there
  · rw [asked] at means
    have query := (sent_copyOut means).2
    exact (Prod.mk.inj (List.cons.inj query).1).2
  · rw [asked] at means
    have put : "GET" = "PUT" := (sent_copyIn means).1
    exact absurd put (by decide)

theorem serves_sentIn (dir name : String) {contents archive : Bytes} {mode : Nat}
    (run : accepted? exchange =
      some { method := "PUT", query := [("path", dir)], carried := some archive, brought := out })
    (packed : Archive.singleFile name contents mode = .ok archive)
    (fits : archive.length < UInt64.size) (kept : Archive.kept name = name) :
    Serves id files exchange (Function.update files (Path.join dir name) (some contents)) := by
  obtain ⟨-, host, place, body, asked, carried⟩ := eq_of_accepted run
  refine serves_in dir name ?_ (fun path means => ?_) (fun dir' archive' means => ?_)
    packed fits kept
  · rw [asked]
    rfl
  · rw [asked] at means
    have get : "PUT" = "GET" := (sent_copyOut means).1
    exact absurd get (by decide)
  · rw [asked] at means
    obtain ⟨-, query, body⟩ := sent_copyIn means
    exact ⟨(Prod.mk.inj (List.cons.inj query).1).2, Option.some.inj (carried archive' body)⟩

theorem serves_sentStart (run : accepted? exchange = some { method := "POST", brought := out }) :
    Serves id files exchange files := by
  obtain ⟨-, host, place, body, asked, -⟩ := eq_of_accepted run
  refine serves_still (fun path means => ?_) (fun dir archive means => ?_)
  · rw [asked] at means
    have get : "POST" = "GET" := (sent_copyOut means).1
    exact absurd get (by decide)
  · rw [asked] at means
    have put : "POST" = "PUT" := (sent_copyIn means).1
    exact absurd put (by decide)

end Accepted

end BuildYard
