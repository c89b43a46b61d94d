namespace CodeGateway.Utf8

def encodeChar (c : Char) : List UInt8 :=
  let n := c.toNat
  if n < 0x80 then [UInt8.ofNat n]
  else if n < 0x800 then [UInt8.ofNat (0xC0 + n / 64), UInt8.ofNat (0x80 + n % 64)]
  else if n < 0x10000 then
    [UInt8.ofNat (0xE0 + n / 4096), UInt8.ofNat (0x80 + n / 64 % 64), UInt8.ofNat (0x80 + n % 64)]
  else
    [UInt8.ofNat (0xF0 + n / 262144), UInt8.ofNat (0x80 + n / 4096 % 64),
      UInt8.ofNat (0x80 + n / 64 % 64), UInt8.ofNat (0x80 + n % 64)]

def encode (text : List Char) : List UInt8 :=
  text.flatMap encodeChar

def bytes (text : String) : List UInt8 :=
  encode text.toList

inductive Lead where
  | char (c : Char) (size : Nat)
  | bad (size : Nat)
  | cut
  deriving DecidableEq

/-- Whether a byte may stand second after this first one: a bound on either side keeps out long
    forms, surrogates and numbers above U+10FFFF. -/
def secondFits (first second : Nat) : Bool :=
  let low := if first == 0xE0 then 0xA0 else if first == 0xF0 then 0x90 else 0x80
  let high := if first == 0xED then 0x9F else if first == 0xF4 then 0x8F else 0xBF
  low ≤ second && second ≤ high

def tailBits (byte : Nat) : Option Nat :=
  if 0x80 ≤ byte && byte ≤ 0xBF then some (byte - 0x80) else none

def lead (byte : UInt8) (rest : List UInt8) : Lead :=
  let first := byte.toNat
  if first < 0x80 then .char (Char.ofNat first) 1
  else if first < 0xC2 || 0xF4 < first then .bad 1
  else
    match rest with
    | [] => .cut
    | second :: rest =>
      if !secondFits first second.toNat then .bad 1
      else
        let bits := second.toNat - 0x80
        if first < 0xE0 then .char (Char.ofNat ((first - 0xC0) * 64 + bits)) 2
        else
          match rest with
          | [] => .cut
          | third :: rest =>
            match tailBits third.toNat with
            | none => .bad 2
            | some bits3 =>
              if first < 0xF0 then .char (Char.ofNat (((first - 0xE0) * 64 + bits) * 64 + bits3)) 3
              else
                match rest with
                | [] => .cut
                | fourth :: _ =>
                  match tailBits fourth.toNat with
                  | none => .bad 3
                  | some bits4 =>
                    .char (Char.ofNat ((((first - 0xF0) * 64 + bits) * 64 + bits3) * 64 + bits4)) 4

/-- The first bytes that are no character: how many bytes stand before them, and how many they
    are, or nothing when the text ends inside a character. -/
structure Invalid where
  index : Nat
  size : Option Nat
  deriving DecidableEq

def Invalid.message : Invalid → String
  | ⟨index, some size⟩ => s!"invalid utf-8 sequence of {size} bytes from index {index}"
  | ⟨index, none⟩ => s!"incomplete utf-8 byte sequence from index {index}"

/-- Reads on after `skip` bytes that belong to a character already read; `done` holds the
    characters so far, the last one first. -/
def decodeFrom : List UInt8 → (skip index : Nat) → (done : List Char) → Except Invalid (List Char)
  | [], _, _, done => .ok done.reverse
  | _ :: rest, skip + 1, index, done => decodeFrom rest skip (index + 1) done
  | byte :: rest, 0, index, done =>
    match lead byte rest with
    | .char c size => decodeFrom rest (size - 1) (index + 1) (c :: done)
    | .bad size => .error ⟨index, some size⟩
    | .cut => .error ⟨index, none⟩

def decode (bytes : List UInt8) : Except Invalid (List Char) :=
  decodeFrom bytes 0 0 []

def text (bytes : List UInt8) : Except Invalid String :=
  (decode bytes).map String.ofList

def decodeLossyFrom : List UInt8 → (skip : Nat) → (done : List Char) → List Char
  | [], _, done => done.reverse
  | _ :: rest, skip + 1, done => decodeLossyFrom rest skip done
  | byte :: rest, 0, done =>
    match lead byte rest with
    | .char c size => decodeLossyFrom rest (size - 1) (c :: done)
    | .bad size => decodeLossyFrom rest (size - 1) (Char.ofNat 0xFFFD :: done)
    | .cut => (Char.ofNat 0xFFFD :: done).reverse

/-- The text of the bytes, with one U+FFFD for each stretch that is no character. -/
def decodeLossy (bytes : List UInt8) : List Char :=
  decodeLossyFrom bytes 0 []

end CodeGateway.Utf8
