import TapeToJava.Files.Request

/-! Open files. Several descriptors, of several programs, may share one; what one of them reads or
writes is then behind the others, too. -/

namespace TapeToJava.Shell

/-- An open file. -/
inductive Stream where
  /-- Bytes that wait to be read. -/
  | waiting (bytes : List UInt8)
  /-- What has been written, the last piece first. -/
  | gathered (pieces : List (List UInt8))
  /-- A file of the volume, at a position; what is appended goes behind its end. -/
  | file (loc : Location) (position : Nat) (append : Bool)
  | nowhere
  deriving DecidableEq, Repr

/-- The files, and what is open. -/
structure World where
  volume : Volume
  /-- The open files, by their numbers. -/
  streams : List Stream
  deriving DecidableEq, Repr

namespace World

/-- Opens a file; its number is the first component. -/
def opened (w : World) (s : Stream) : Nat × World :=
  (w.streams.length, { w with streams := w.streams ++ [s] })

def stream (w : World) (id : Nat) : Stream :=
  w.streams.getD id .nowhere

def setStream (w : World) (id : Nat) (s : Stream) : World :=
  { w with streams := w.streams.set id s }

/-- Bytes with others written over them from a position on. A gap is filled with NUL. -/
def overwrite (old : List UInt8) (position : Nat) (new : List UInt8) : List UInt8 :=
  old.take position ++ List.replicate (position - old.length) 0 ++ new ++ old.drop (position + new.length)

/-- Writes bytes to an open file. -/
def write (w : World) (id : Nat) (bytes : List UInt8) : World :=
  match w.stream id with
  | .gathered pieces => w.setStream id (.gathered (bytes :: pieces))
  | .file loc position append =>
    let old := w.volume.bytesAt loc
    let start := if append then old.length else position
    let w := { w with volume := w.volume.setBytes loc (overwrite old start bytes) }
    w.setStream id (.file loc (start + bytes.length) append)
  | .waiting _ | .nowhere => w

/-- The bytes that are still to be read from an open file. -/
def unread (w : World) (id : Nat) : List UInt8 :=
  match w.stream id with
  | .waiting bytes => bytes
  | .file loc position _ => (w.volume.bytesAt loc).drop position
  | .gathered _ | .nowhere => []

/-- The world in which some of the bytes of an open file have been read. -/
def read (w : World) (id count : Nat) : World :=
  match w.stream id with
  | .waiting bytes => w.setStream id (.waiting (bytes.drop count))
  | .file loc position append => w.setStream id (.file loc (position + count) append)
  | .gathered _ | .nowhere => w

/-- All that has been written to a gathering stream. -/
def gatheredBytes (w : World) (id : Nat) : List UInt8 :=
  match w.stream id with
  | .gathered pieces => pieces.reverse.flatten
  | _ => []

end World

end TapeToJava.Shell
