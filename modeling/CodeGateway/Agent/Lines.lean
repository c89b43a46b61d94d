import CodeGateway.Link.Frame

namespace CodeGateway.Agent

def withoutEnd (line : List UInt8) : List UInt8 :=
  match line.reverse with
  | 0x0A :: 0x0D :: front => front.reverse
  | 0x0A :: front => front.reverse
  | _ => line

/-- The whole lines of some bytes, without their line ends, and the bytes behind the last of them.
    The fuel is the number of bytes. -/
def splitLines : (fuel : Nat) → (done : List (List UInt8)) → List UInt8 →
    List (List UInt8) × List UInt8
  | 0, done, input => (done.reverse, input)
  | fuel + 1, done, input =>
    match Frame.splitLine input with
    | some (line, rest) => splitLines fuel (withoutEnd line :: done) rest
    | none => (done.reverse, input)

/-- The lines of some bytes, and those that are no line yet. At the end of all bytes nothing is
    left. -/
def lines (ended : Bool) (input : List UInt8) : List (List UInt8) × List UInt8 :=
  let (whole, rest) := splitLines (input.length + 1) [] input
  if ended then (if rest.isEmpty then (whole, []) else (whole ++ [rest], [])) else (whole, rest)

def decodeLines : List (List UInt8) → List (List Char) × Option Utf8.Invalid
  | [] => ([], none)
  | line :: rest =>
    match Utf8.decode line with
    | .error invalid => ([], some invalid)
    | .ok text =>
      let (texts, invalid) := decodeLines rest
      (text :: texts, invalid)

end CodeGateway.Agent
