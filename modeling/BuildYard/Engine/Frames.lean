import BuildYard.Bytes

/-!
# Output in frames

The engine sends the streams of a process as frames over one connection. A
frame has a header of eight bytes: which stream it belongs to, three bytes
without meaning, and the length of its data. Where a header should start and
the first byte names no stream, all that follows is output without frames, as
a console writes it.
-/

set_option autoImplicit false

namespace BuildYard.Frames

/-- The stream that a piece belongs to. -/
inductive Channel where
  | input
  | output
  | errors
  /-- output without a frame -/
  | console
  deriving DecidableEq, Repr, Inhabited

/-- A piece of a process's streams. -/
structure Frame where
  channel : Channel
  data : Bytes
  deriving DecidableEq, Repr, Inhabited

/-- What came over a connection: whole frames, and what is left at its end. -/
structure Received where
  frames : List Frame
  rest : Bytes := []
  deriving DecidableEq, Repr, Inhabited

/-- The number of bytes in a header. -/
def headerSize : Nat := 8

/-- The stream that the first byte of a header names. -/
def channel? (b : UInt8) : Option Channel :=
  if b = 0 then some .input
  else if b = 1 then some .output
  else if b = 2 then some .errors
  else none

/-- The number in four bytes, the highest first. -/
def bigEndian (bytes : Bytes) : Nat :=
  bytes.foldl (fun n b => n * 256 + b.toNat) 0

/-- The frames in a sequence of bytes. A header whose data are cut off is left out and
its data stay as the rest. -/
def decode (bytes : Bytes) : Received :=
  match bytes with
  | [] => { frames := [] }
  | b :: tail =>
    match channel? b with
    | none => { frames := [{ channel := .console, data := b :: tail }] }
    | some channel =>
      if (b :: tail).length < headerSize then { frames := [], rest := b :: tail }
      else
        let size := bigEndian ((b :: tail).drop 4 |>.take 4)
        let data := (b :: tail).drop headerSize
        if data.length < size then { frames := [], rest := data }
        else
          let more := decode (data.drop size)
          { more with frames := { channel, data := data.take size } :: more.frames }
termination_by bytes.length
decreasing_by
  simp only [List.length_drop, List.length_cons, headerSize]
  omega

end BuildYard.Frames
