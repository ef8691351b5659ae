/-!
Text read from bytes that need not be UTF-8. Bytes that begin a character and do not go on with it
are read as one replacement character, and so is each byte that begins none. Characters have their
shortest form, so that every other text is read as it was written.
-/
namespace RxSteering.Text.Lenient

def replacement : Char := '\ufffd'

structure Beginning where
  value : Nat
  /-- the bytes still to come -/
  missing : Nat
  /-- the next byte is between these -/
  least : Nat := 0x80
  greatest : Nat := 0xbf
  deriving DecidableEq, Repr

def beginning? (byte : Nat) : Option Beginning :=
  if byte < 0xc2 then none
  else if byte < 0xe0 then some { value := byte % 0x20, missing := 1 }
  else if byte = 0xe0 then some { value := 0, missing := 2, least := 0xa0 }
  else if byte = 0xed then some { value := 0xd, missing := 2, greatest := 0x9f }
  else if byte < 0xf0 then some { value := byte % 0x10, missing := 2 }
  else if byte = 0xf0 then some { value := 0, missing := 3, least := 0x90 }
  else if byte < 0xf4 then some { value := byte % 8, missing := 3 }
  else if byte = 0xf4 then some { value := 4, missing := 3, greatest := 0x8f }
  else none

def first (byte : Nat) : List Char × Option Beginning :=
  if byte < 0x80 then ([Char.ofNat byte], none)
  else
    match beginning? byte with
    | some beginning => ([], some beginning)
    | none => ([replacement], none)

/-- The characters that a byte completes, and the one that it leaves incomplete. -/
def next (beginning? : Option Beginning) (byte : Nat) : List Char × Option Beginning :=
  match beginning? with
  | none => first byte
  | some beginning =>
    if beginning.least ≤ byte ∧ byte ≤ beginning.greatest then
      let value := beginning.value * 0x40 + byte % 0x40
      if beginning.missing ≤ 1 then ([Char.ofNat value], none)
      else ([], some { value := value, missing := beginning.missing - 1 })
    else
      let (chars, beginning?) := first byte
      (replacement :: chars, beginning?)

def decodeFrom (beginning? : Option Beginning) : List UInt8 → List Char
  | [] => if beginning?.isSome then [replacement] else []
  | byte :: rest =>
    let (chars, beginning?) := next beginning? byte.toNat
    chars ++ decodeFrom beginning? rest

def decode (bytes : List UInt8) : String := String.ofList (decodeFrom none bytes)

end RxSteering.Text.Lenient
