import CodeGateway.Text.Split

namespace CodeGateway.Text

def hexNumber (digits : List Char) : Nat :=
  digits.foldl
    (fun n c => n * 16 + (if c.toNat < 0x41 then c.toNat - 0x30 else c.toNat - 0x37)) 0

structure CodeRun where
  first : Nat
  last : Nat
  deriving DecidableEq

def CodeRun.covers (run : CodeRun) (c : Char) : Bool :=
  run.first ≤ c.toNat && c.toNat ≤ run.last

def inRuns (runs : List CodeRun) (c : Char) : Bool :=
  runs.any (CodeRun.covers · c)

def readRun (field : List Char) : CodeRun :=
  match splitAt '-' field with
  | [first, last] => ⟨hexNumber first, hexNumber last⟩
  | _ => ⟨hexNumber field, hexNumber field⟩

def readFields (text : List Char) : List (List Char) :=
  (splitAt ' ' text).filter (!·.isEmpty)

def readRuns (rows : List String) : List CodeRun :=
  rows.flatMap fun row => (readFields row.toList).map readRun

def readGroups (rows : List String) : List (List (List Char)) :=
  rows.flatMap fun row => (splitAt ';' row.toList).map readFields

end CodeGateway.Text
