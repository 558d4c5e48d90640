/-
Multibase: text that names its own code.

The first character of a multibase text names the code of the rest.  Three kinds of
code are in use: the text's own octets, a positional code over an alphabet, and groups
of bits over an alphabet with a power of two of symbols, padded or not.  Codes of one
letter case read letters of the other case too, where the alphabet holds only one.

Of these, the library writes one: `z`, base58.
-/
import AgentId.Codec.Base58
import AgentId.Codec.BitGroup
import AgentId.Text.Utf8

namespace AgentId.Codec.Multibase

/-- How octets are written. -/
inductive Scheme where
  /-- As the UTF-8 form of the text. -/
  | identity
  /-- As a number in the radix of an alphabet. -/
  | positional
  /-- In groups of `width` bits. -/
  | grouped (width : Nat) (padded : Bool)
  deriving DecidableEq, Repr

/-- One code. -/
structure Base where
  /-- The character that names it. -/
  code : Char
  scheme : Scheme
  /-- The symbols, in the order of their values. -/
  alphabet : String := ""
  /-- Whether letters of the other case are read as the alphabet's. -/
  caseless : Bool := false

private def lower36 : String := "0123456789abcdefghijklmnopqrstuvwxyz"

private def upper36 : String := "0123456789ABCDEFGHIJKLMNOPQRSTUVWXYZ"

private def lower32 : String := "abcdefghijklmnopqrstuvwxyz234567"

private def upper32 : String := "ABCDEFGHIJKLMNOPQRSTUVWXYZ234567"

private def lowerHex32 : String := "0123456789abcdefghijklmnopqrstuv"

private def upperHex32 : String := "0123456789ABCDEFGHIJKLMNOPQRSTUV"

private def standard64 : String :=
  "ABCDEFGHIJKLMNOPQRSTUVWXYZabcdefghijklmnopqrstuvwxyz0123456789+/"

private def url64 : String :=
  "ABCDEFGHIJKLMNOPQRSTUVWXYZabcdefghijklmnopqrstuvwxyz0123456789-_"

private def flickr58 : String :=
  "123456789abcdefghijkmnopqrstuvwxyzABCDEFGHJKLMNPQRSTUVWXYZ"

private def tahoe32 : String := "ybndrfg8ejkmcpqxot1uwisza345h769"

/-- A symbol for each octet. -/
private def emoji256 : String :=
  String.join [
    "🚀🪐☄🛰🌌🌑🌒🌓🌔🌕🌖🌗🌘🌍🌏🌎🐉☀💻🖥💾💿😂❤😍🤣😊🙏💕😭😘👍",
    "😅👏😁🔥🥰💔💖💙😢🤔😆🙄💪😉☺👌🤗💜😔😎😇🌹🤦🎉💞✌✨🤷😱😌🌸🙌",
    "😋💗💚😏💛🙂💓🤩😄😀🖤😃💯🙈👇🎶😒🤭❣😜💋👀😪😑💥🙋😞😩😡🤪👊🥳",
    "😥🤤👉💃😳✋😚😝😴🌟😬🙃🍀🌷😻😓⭐✅🥺🌈😈🤘💦✔😣🏃💐☹🎊💘😠☝",
    "😕🌺🎂🌻😐🖕💝🙊😹🗣💫💀👑🎵🤞😛🔴😤🌼😫⚽🤙☕🏆🤫👈😮🙆🍻🍃🐶💁",
    "😲🌿🧡🎁⚡🌞🎈❌✊👋😰🤨😶🤝🚶💰🍓💢🤟🙁🚨💨🤬✈🎀🍺🤓😙💟🌱😖👶",
    "🥴▶➡❓💎💸⬇😨🌚🦋😷🕺⚠🙅😟😵👎🤲🤠🤧📌🔵💅🧐🐾🍒😗🤑🌊🤯🐷☎",
    "💧😯💆👆🎤🙇🍑❄🌴💣🐸💌📍🥀🤢👅💡💩👐📸👻🤐🤮🎼🥵🚩🍎🍊👼💍📣🥂"]

/-- The codes of the standard. -/
def bases : List Base := [
  ⟨'\x00', .identity, "", false⟩,
  ⟨'0', .grouped 1 false, "01", false⟩,
  ⟨'7', .grouped 3 false, "01234567", false⟩,
  ⟨'9', .positional, "0123456789", false⟩,
  ⟨'f', .grouped 4 false, "0123456789abcdef", true⟩,
  ⟨'F', .grouped 4 false, "0123456789ABCDEF", true⟩,
  ⟨'b', .grouped 5 false, lower32, true⟩,
  ⟨'B', .grouped 5 false, upper32, true⟩,
  ⟨'c', .grouped 5 true, lower32, true⟩,
  ⟨'C', .grouped 5 true, upper32, true⟩,
  ⟨'v', .grouped 5 false, lowerHex32, true⟩,
  ⟨'V', .grouped 5 false, upperHex32, true⟩,
  ⟨'t', .grouped 5 true, lowerHex32, true⟩,
  ⟨'T', .grouped 5 true, upperHex32, true⟩,
  ⟨'h', .grouped 5 false, tahoe32, false⟩,
  ⟨'k', .positional, lower36, true⟩,
  ⟨'K', .positional, upper36, true⟩,
  ⟨'Z', .positional, flickr58, false⟩,
  ⟨'z', .positional, String.ofList Base58.alphabet, false⟩,
  ⟨'m', .grouped 6 false, standard64, false⟩,
  ⟨'M', .grouped 6 true, standard64, false⟩,
  ⟨'u', .grouped 6 false, url64, false⟩,
  ⟨'U', .grouped 6 true, url64, false⟩,
  ⟨'🚀', .grouped 8 false, emoji256, false⟩]

/-- A letter of ASCII in the other case. -/
def otherCase (c : Char) : Char :=
  if c.isUpper then c.toLower else c.toUpper

/-- What a character stands for in a code. -/
def Base.symbol? (b : Base) (c : Char) : Option Nat :=
  match b.alphabet.toList.idxOf? c with
  | some n => some n
  | none => if b.caseless then b.alphabet.toList.idxOf? (otherCase c) else none

/-- The octets that a text in the given code writes. -/
def Base.decode? (b : Base) (cs : List Char) : Option (List UInt8) :=
  match b.scheme with
  | .identity => some (cs.flatMap String.utf8EncodeChar)
  | .positional => Radix.decode? b.alphabet.length b.symbol? cs
  | .grouped width false => BitGroup.decode? width b.symbol? cs
  | .grouped width true => BitGroup.decodePadded? width b.symbol? cs

/-- Why a text is not multibase. -/
inductive Fault where
  /-- No code has this name. -/
  | unknownCode (c : Char)
  /-- The text is empty, or not in the code that it names. -/
  | malformed
  deriving DecidableEq, Repr

/-- The fault in words. -/
def Fault.message : Fault → String
  | .unknownCode c => "Unknown base code: " ++ c.toString
  | .malformed => "Invalid base string"

/-- The octets of a text in the code that its first character names. -/
def decode : List Char → Except Fault (List UInt8)
  | [] => .error .malformed
  | code :: cs =>
    match bases.find? (·.code == code) with
    | none => .error (.unknownCode code)
    | some base =>
      match base.decode? cs with
      | some bs => .ok bs
      | none => .error .malformed

end AgentId.Codec.Multibase
