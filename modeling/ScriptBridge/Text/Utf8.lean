/-
  ScriptBridge/Text/Utf8.lean
  ===========================
  **Text as UTF-8 octets.**

  Decoding reads one octet at a time and remembers the character that it is in
  (`Unfinished`).  An octet that cannot continue it makes the text invalid; the
  fault says how many octets before it are sound and how many octets the bad
  sequence has, or that the text ends inside a character.  Lossy decoding reads
  the same way and puts a replacement character for every bad sequence.
-/

namespace ScriptBridge.Utf8

/-- The octets of a text. -/
def encode (cs : List Char) : List UInt8 := cs.flatMap String.utf8EncodeChar

/-- A character of which some octets were read. -/
structure Unfinished where
  /-- The bits read so far. -/
  code : Nat
  /-- How many octets are missing. -/
  owed : Nat
  /-- The least octet that may come next. -/
  low : Nat
  /-- The greatest octet that may come next. -/
  high : Nat
  /-- How many octets were read. -/
  seen : Nat
deriving DecidableEq, Repr

/-- What one octet leads to. -/
inductive Step where
  | char (c : Char)
  | more (u : Unfinished)
  | bad
deriving DecidableEq, Repr

/-- The first octet of a character. -/
def first (octet : UInt8) : Step :=
  let b := octet.toNat
  if b ≤ 0x7F then .char (Char.ofNat b)
  else if b < 0xC2 then .bad
  else if b ≤ 0xDF then .more ⟨b - 0xC0, 1, 0x80, 0xBF, 1⟩
  else if b ≤ 0xEF then
    .more ⟨b - 0xE0, 2, if b = 0xE0 then 0xA0 else 0x80, if b = 0xED then 0x9F else 0xBF, 1⟩
  else if b ≤ 0xF4 then
    .more ⟨b - 0xF0, 3, if b = 0xF0 then 0x90 else 0x80, if b = 0xF4 then 0x8F else 0xBF, 1⟩
  else .bad

/-- A further octet of a character. -/
def next (u : Unfinished) (octet : UInt8) : Step :=
  let b := octet.toNat
  if u.low ≤ b ∧ b ≤ u.high then
    let code := u.code * 64 + (b - 0x80)
    if u.owed ≤ 1 then .char (Char.ofNat code) else .more ⟨code, u.owed - 1, 0x80, 0xBF, u.seen + 1⟩
  else .bad

/-- Where decoding stopped: the sound octets before the bad sequence, and the length of the bad
    sequence, absent when the text ends inside a character. -/
structure Fault where
  validUpTo : Nat
  length : Option Nat
deriving DecidableEq, Repr

/-- Puts a decoded character in front of a result; a fault moves on by its octets. -/
def prepend (c : Char) : Except Fault (List Char) → Except Fault (List Char)
  | .ok cs => .ok (c :: cs)
  | .error f => .error { f with validUpTo := f.validUpTo + c.utf8Size }

/-- Decodes octets, starting inside the given character. -/
def decodeFrom : Option Unfinished → List UInt8 → Except Fault (List Char)
  | none, [] => .ok []
  | some _, [] => .error ⟨0, none⟩
  | none, b :: rest =>
    match first b with
    | .char c => prepend c (decodeFrom none rest)
    | .more u => decodeFrom (some u) rest
    | .bad => .error ⟨0, some 1⟩
  | some u, b :: rest =>
    match next u b with
    | .char c => prepend c (decodeFrom none rest)
    | .more u => decodeFrom (some u) rest
    | .bad => .error ⟨0, some u.seen⟩

/-- The text of some octets. -/
def decode (octets : List UInt8) : Except Fault (List Char) := decodeFrom none octets

/-- Stands for a bad sequence. -/
def replacement : Char := '\uFFFD'

/-- Decodes octets, starting inside the given character, replacing every bad sequence. -/
def decodeLossyFrom : Option Unfinished → List UInt8 → List Char
  | none, [] => []
  | some _, [] => [replacement]
  | none, b :: rest =>
    match first b with
    | .char c => c :: decodeLossyFrom none rest
    | .more u => decodeLossyFrom (some u) rest
    | .bad => replacement :: decodeLossyFrom none rest
  | some u, b :: rest =>
    match next u b with
    | .char c => c :: decodeLossyFrom none rest
    | .more u => decodeLossyFrom (some u) rest
    | .bad =>
      match first b with
      | .char c => replacement :: c :: decodeLossyFrom none rest
      | .more u => replacement :: decodeLossyFrom (some u) rest
      | .bad => replacement :: replacement :: decodeLossyFrom none rest

/-- The text of some octets, with a replacement character for every bad sequence. -/
def decodeLossy (octets : List UInt8) : List Char := decodeLossyFrom none octets

def octets (s : String) : List UInt8 := encode s.toList

end ScriptBridge.Utf8
