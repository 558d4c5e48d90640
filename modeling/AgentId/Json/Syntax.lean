/-
The shape of JSON text.

Octets are read in two steps.  The lexer cuts them into lexemes, one octet at a time,
and the reader builds a tree from the lexemes, keeping the arrays and objects that are
still open on a list of its own; both are folds, so text of any length and any depth is
read.  The tree keeps strings and numbers as they are spelled: what a string says is a
question for whoever uses it, and a value that nobody uses needs no answer.

The grammar is the strict one: blanks are space, tab, line feed and carriage return,
nothing may follow the value, and a string holds no bare control.
-/
import AgentId.Text.Utf8

namespace AgentId.Json

/-- A tree whose strings and numbers are still as they are spelled, strings without
their quotes. -/
inductive Shape where
  | null
  | bool (b : Bool)
  | number (spelling : List UInt8)
  | string (spelling : List UInt8)
  | array (items : List Shape)
  | object (members : List (List UInt8 × Shape))
  deriving Inhabited

/-- A lexeme. -/
inductive Lexeme where
  | openArray
  | closeArray
  | openObject
  | closeObject
  | comma
  | colon
  /-- A word, a number or a string. -/
  | atom (s : Shape)

/-! ### The lexer -/

/-- How far a number has been read. -/
inductive NumberPart where
  /-- Behind the sign. -/
  | sign
  /-- Behind a zero that starts the number. -/
  | zero
  /-- In the digits of the whole part. -/
  | whole
  /-- Behind the point. -/
  | point
  /-- In the digits of the fraction. -/
  | fraction
  /-- Behind the mark of the exponent. -/
  | mark
  /-- Behind the sign of the exponent. -/
  | exponentSign
  /-- In the digits of the exponent. -/
  | exponent
  deriving DecidableEq

/-- How far a string has been read. -/
inductive StringPart where
  /-- Between characters. -/
  | plain
  /-- Behind a backslash. -/
  | backslash
  /-- Inside the digits of an escape, so many of them to come. -/
  | digits (owed : Nat)
  deriving DecidableEq

/-- What the lexer is in the middle of; spellings are kept last octet first. -/
inductive Mode where
  | between
  | word (rest : List UInt8) (meaning : Shape)
  | number (part : NumberPart) (spelling : List UInt8)
  | string (part : StringPart) (spelling : List UInt8)

/-- Lexemes read so far, last one first, and what the lexer is in the middle of. -/
structure Lexer where
  lexemes : List Lexeme := []
  mode : Mode := .between

/-- The digits from zero to nine. -/
def isDigitOctet (b : UInt8) : Bool := 0x30 ≤ b && b ≤ 0x39

/-- Hexadecimal digits of either case. -/
def isHexOctet (b : UInt8) : Bool :=
  isDigitOctet b || (0x41 ≤ b && b ≤ 0x46) || (0x61 ≤ b && b ≤ 0x66)

/-- Whether a number may end here. -/
def NumberPart.mayEnd : NumberPart → Bool
  | .zero | .whole | .fraction | .exponent => true
  | _ => false

/-- Where an octet takes a number, if it belongs to it. -/
def NumberPart.next? (part : NumberPart) (b : UInt8) : Option NumberPart :=
  let digit := isDigitOctet b
  let point := b == 0x2E
  let mark := b == 0x65 || b == 0x45
  match part with
  | .sign => if b == 0x30 then some .zero else if digit then some .whole else none
  | .zero => if point then some .point else if mark then some .mark else none
  | .whole =>
    if digit then some .whole else if point then some .point
    else if mark then some .mark else none
  | .point => if digit then some .fraction else none
  | .fraction => if digit then some .fraction else if mark then some .mark else none
  | .mark =>
    if digit then some .exponent
    else if b == 0x2B || b == 0x2D then some .exponentSign else none
  | .exponentSign | .exponent => if digit then some .exponent else none

/-- The lexer with one lexeme more, between lexemes. -/
def Lexer.emit (l : Lexer) (x : Lexeme) : Lexer :=
  ⟨x :: l.lexemes, .between⟩

/-- An octet between lexemes. -/
def Lexer.start (l : Lexer) (b : UInt8) : Option Lexer :=
  if b == 0x20 || b == 0x09 || b == 0x0A || b == 0x0D then some { l with mode := .between }
  else if b == 0x5B then some (l.emit .openArray)
  else if b == 0x5D then some (l.emit .closeArray)
  else if b == 0x7B then some (l.emit .openObject)
  else if b == 0x7D then some (l.emit .closeObject)
  else if b == 0x2C then some (l.emit .comma)
  else if b == 0x3A then some (l.emit .colon)
  else if b == 0x22 then some { l with mode := .string .plain [] }
  else if b == 0x2D then some { l with mode := .number .sign [b] }
  else if b == 0x30 then some { l with mode := .number .zero [b] }
  else if isDigitOctet b then some { l with mode := .number .whole [b] }
  else if b == 0x6E then some { l with mode := .word (Text.Utf8.encode "ull") .null }
  else if b == 0x74 then some { l with mode := .word (Text.Utf8.encode "rue") (.bool true) }
  else if b == 0x66 then some { l with mode := .word (Text.Utf8.encode "alse") (.bool false) }
  else none

/-- An octet inside a string. -/
def Lexer.inString (l : Lexer) (part : StringPart) (spelling : List UInt8) (b : UInt8) :
    Option Lexer :=
  match part with
  | .plain =>
    if b == 0x22 then some (l.emit (.atom (.string spelling.reverse)))
    else if b < 0x20 then none
    else if b == 0x5C then some { l with mode := .string .backslash (b :: spelling) }
    else some { l with mode := .string .plain (b :: spelling) }
  | .backslash =>
    if b == 0x75 then some { l with mode := .string (.digits 4) (b :: spelling) }
    else if (Text.Utf8.encode "\"\\/bfnrt").contains b then
      some { l with mode := .string .plain (b :: spelling) }
    else none
  | .digits owed =>
    if isHexOctet b then
      let part := if owed ≤ 1 then .plain else .digits (owed - 1)
      some { l with mode := .string part (b :: spelling) }
    else none

/-- One octet. -/
def Lexer.step (l : Lexer) (b : UInt8) : Option Lexer :=
  match l.mode with
  | .between => l.start b
  | .word [] _ => none
  | .word [x] meaning => if b == x then some (l.emit (.atom meaning)) else none
  | .word (x :: rest) meaning =>
    if b == x then some { l with mode := .word rest meaning } else none
  | .string part spelling => l.inString part spelling b
  | .number part spelling =>
    match part.next? b with
    | some part => some { l with mode := .number part (b :: spelling) }
    | none =>
      if part.mayEnd then (l.emit (.atom (.number spelling.reverse))).start b else none

/-- The lexemes of octets, in order. -/
def lexemes? (bs : List UInt8) : Option (List Lexeme) := do
  let l ← bs.foldlM Lexer.step {}
  match l.mode with
  | .between => some l.lexemes.reverse
  | .number part spelling =>
    if part.mayEnd then some (Lexeme.atom (.number spelling.reverse) :: l.lexemes).reverse
    else none
  | _ => none

/-! ### The reader -/

/-- An array or object that is still open, its parts last one first. -/
inductive Frame where
  | array (items : List Shape)
  /-- With the key of the member being read. -/
  | object (members : List (List UInt8 × Shape)) (key : List UInt8)

/-- What may come next. -/
inductive Expected where
  | value
  /-- A value, or the end of an array just opened. -/
  | firstItem
  /-- A key, or the end of an object just opened. -/
  | firstKey
  | key
  | colon
  /-- A comma, or the end of what is open. -/
  | separator
  /-- Nothing: the value is complete. -/
  | nothing (whole : Shape)

/-- The open arrays and objects, innermost first, and what may come next. -/
structure Reader where
  frames : List Frame := []
  expected : Expected := .value

/-- A complete value takes its place in the innermost frame. -/
def Reader.close (frames : List Frame) (v : Shape) : Reader :=
  match frames with
  | [] => ⟨[], .nothing v⟩
  | .array items :: rest => ⟨.array (v :: items) :: rest, .separator⟩
  | .object members key :: rest => ⟨.object ((key, v) :: members) [] :: rest, .separator⟩

/-- The start of a value. -/
def Reader.openValue (frames : List Frame) : Lexeme → Option Reader
  | .atom v => some (Reader.close frames v)
  | .openArray => some ⟨.array [] :: frames, .firstItem⟩
  | .openObject => some ⟨.object [] [] :: frames, .firstKey⟩
  | _ => none

/-- The end of the innermost frame. -/
def Reader.closeFrame : List Frame → Lexeme → Option Reader
  | .array items :: rest, .closeArray => some (Reader.close rest (.array items.reverse))
  | .object members _ :: rest, .closeObject => some (Reader.close rest (.object members.reverse))
  | _, _ => none

/-- A key of the innermost object. -/
def Reader.takeKey : List Frame → Lexeme → Option Reader
  | .object members _ :: rest, .atom (.string key) => some ⟨.object members key :: rest, .colon⟩
  | _, _ => none

/-- One lexeme. -/
def Reader.step (r : Reader) (x : Lexeme) : Option Reader :=
  match r.expected with
  | .value => Reader.openValue r.frames x
  | .firstItem => Reader.closeFrame r.frames x <|> Reader.openValue r.frames x
  | .firstKey => Reader.closeFrame r.frames x <|> Reader.takeKey r.frames x
  | .key => Reader.takeKey r.frames x
  | .colon => match x with
    | .colon => some { r with expected := .value }
    | _ => none
  | .separator => match x, r.frames with
    | .comma, .array _ :: _ => some { r with expected := .value }
    | .comma, .object _ _ :: _ => some { r with expected := .key }
    | _, _ => Reader.closeFrame r.frames x
  | .nothing _ => none

/-- The tree of JSON text. -/
def Shape.ofOctets? (bs : List UInt8) : Option Shape := do
  let xs ← lexemes? bs
  let r ← xs.foldlM Reader.step {}
  match r.expected with
  | .nothing whole => some whole
  | _ => none

end AgentId.Json
