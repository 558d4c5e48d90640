/-
White space and trimming.

White space is the Unicode property White_Space: the five ASCII controls from tab
to carriage return, the space, NEL, the no-break space and the spaces and
separators of the general punctuation and CJK blocks.  U+200B and U+FEFF print
nothing but are not members.

`trim` takes the longest run of members off either end, so what it returns neither
starts nor ends with one, and trimming twice is trimming once.
-/
namespace AgentId.Text

/-- The property White_Space. -/
def isBlank (c : Char) : Bool :=
  let n := c.toNat
  (9 ≤ n && n ≤ 13) || n == 0x20 || n == 0x85 || n == 0xA0 || n == 0x1680 ||
    (0x2000 ≤ n && n ≤ 0x200A) || n == 0x2028 || n == 0x2029 || n == 0x202F ||
    n == 0x205F || n == 0x3000

/-- A text without the members of `p` that it starts with. -/
def trimStart (p : Char → Bool) (cs : List Char) : List Char :=
  cs.dropWhile p

/-- A text without the members of `p` that it ends with. -/
def trimEnd (p : Char → Bool) (cs : List Char) : List Char :=
  (cs.reverse.dropWhile p).reverse

/-- A text without the white space at its two ends. -/
def trim (cs : List Char) : List Char :=
  trimEnd isBlank (trimStart isBlank cs)

/-- Trimming, for a string. -/
def trimmed (s : String) : String :=
  String.ofList (trim s.toList)

/-! ### Nothing to trim -/

@[simp] theorem trimStart_nil (p : Char → Bool) : trimStart p [] = [] := rfl

@[simp] theorem trimEnd_nil (p : Char → Bool) : trimEnd p [] = [] := rfl

@[simp] theorem trim_nil : trim [] = [] := rfl

end AgentId.Text
