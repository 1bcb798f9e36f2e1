import ServiceRegistry.Fault
import ServiceRegistry.Text.Bytes

/-!
# Streams of bytes

An opened entry delivers its bytes piece by piece, and each attempt to read may fail instead. A
`Stream` lists what the attempts give, in order; after the last comes the end. An attempt that was
merely interrupted is made again, any other fault ends the reading. `Stream.readAll` reads to the
end and `Stream.readLine` through the first line feed.
-/

namespace ServiceRegistry

/-- What one attempt to read gives. -/
inductive Chunk where
  | bytes (content : Bytes)
  | fault (fault : Fault)
deriving DecidableEq

/-- What the attempts to read give, in order. -/
abbrev Stream := List Chunk

namespace Stream

/-- The byte that ends lines. -/
def lineFeed : UInt8 := 10

/-- The bytes through the first line feed, if there is one. -/
def throughLineFeed? : Bytes → Option Bytes
  | [] => none
  | b :: rest => if b = lineFeed then some [b] else (throughLineFeed? rest).map (b :: ·)

/-- Reads to the end. -/
def readAll : Stream → Except Fault Bytes
  | [] => .ok []
  | .bytes content :: rest => (readAll rest).map (content ++ ·)
  | .fault fault :: rest => if fault.kind = .interrupted then readAll rest else .error fault

/-- Reads through the first line feed, or to the end if there is none. -/
def readLine : Stream → Except Fault Bytes
  | [] => .ok []
  | .bytes content :: rest =>
    match throughLineFeed? content with
    | some line => .ok line
    | none => (readLine rest).map (content ++ ·)
  | .fault fault :: rest => if fault.kind = .interrupted then readLine rest else .error fault

/-- A stream that delivers all its bytes at once. -/
def ofBytes (content : Bytes) : Stream := [.bytes content]

/-- A stream of bytes that does not fail gives these bytes. -/
@[simp] theorem readAll_ofBytes (content : Bytes) : readAll (ofBytes content) = .ok content := by
  simp [ofBytes, readAll, Except.map]

end Stream

end ServiceRegistry
