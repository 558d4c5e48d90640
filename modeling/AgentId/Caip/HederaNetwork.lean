/-
The networks of the Hedera ledger.
-/
import AgentId.Text.Cut
import AgentId.Caip.Error

namespace AgentId.Caip

/-- A network. -/
inductive HederaNetwork where
  | mainnet
  | testnet
  | previewnet
  | devnet
  deriving DecidableEq, Repr

namespace HederaNetwork

/-- All networks, in their usual order. -/
def all : List HederaNetwork := [.mainnet, .testnet, .previewnet, .devnet]

/-- The name of a network. -/
def text : HederaNetwork → String
  | mainnet => "mainnet"
  | testnet => "testnet"
  | previewnet => "previewnet"
  | devnet => "devnet"

/-- The network of a name. -/
def parse (s : String) : Except Error HederaNetwork :=
  match all.find? (·.text == s) with
  | some n => .ok n
  | none => .error (.hederaNetwork s)

/-- The network that text names in front of a colon, and what follows the colon.  No name
starts another, so there is at most one. -/
def lead? (s : String) : Option (HederaNetwork × String) :=
  all.findSome? fun n =>
    (Text.behind? (n.text ++ ":") s.toList).map fun rest => (n, String.ofList rest)

theorem mem_all (n : HederaNetwork) : n ∈ all := by cases n <;> decide

end HederaNetwork

end AgentId.Caip
