import AgentId.Agent
import AgentId.Config
import AgentId.Dns
import AgentId.Fields
import AgentId.Json.Writer
import AgentId.Resolution.Standard
import AgentId.Uaid.Minting
import AgentId.Proofs.Text.Escaping
import AgentId.Proofs.Dict
import AgentId.Proofs.Fields
import AgentId.Proofs.Uaid.RoundTrip
import AgentId.Proofs.Uaid.Canonical
import AgentId.Proofs.Fqdn
import AgentId.Proofs.Resolution.Dialogue
import AgentId.Proofs.Record.Binding
import AgentId.Proofs.Profile.DnsBinding
import AgentId.Proofs.Resolution.Delegation
import AgentId.Proofs.Resolution.Chain
import AgentId.Proofs.Resolution.FirstResolved
import AgentId.Proofs.Text.Case
import AgentId.Proofs.Url.Path
import AgentId.Proofs.Url.Scheme
import AgentId.Proofs.Record.Agent
import AgentId.Proofs.Profile.Refusal
import AgentId.Proofs.Profile.Card.Visit
import AgentId.Proofs.Profile.Card.Anchoring
import AgentId.Proofs.Profile.Card.Name
import AgentId.Proofs.Profile.Endpoint
import AgentId.Proofs.Uaid.BaseDid
import AgentId.Proofs.Uaid.Origin
import AgentId.Proofs.Resolution.Fallback
import AgentId.Proofs.Profile.Followup
import AgentId.Proofs.Resolution.Followup
import AgentId.Proofs.Codec.Base58
import AgentId.Proofs.Json.Writing
import AgentId.Proofs.Text.Lowercase
import AgentId.Proofs.Sorting
import AgentId.Proofs.Agent.Spelling
import AgentId.Proofs.Agent.Digest
import AgentId.Proofs.Agent.Identifier
import AgentId.Proofs.Uaid.Minting
import AgentId.Proofs.Resolution.Minted
import AgentId.Proofs.Profile.Following
import AgentId.Proofs.Profile.Course
import AgentId.Proofs.Profile.Account
import AgentId.Proofs.Resolution.Discipline
import AgentId.Proofs.Profile.Spending
import AgentId.Proofs.Resolution.Confinement
import AgentId.Proofs.Resolution.Alike
import AgentId.Proofs.Resolution.InStep
import AgentId.Proofs.Profile.Spelling
import AgentId.Proofs.Resolution.Spelling
import AgentId.Proofs.Resolution.Relisting
import AgentId.Proofs.Record.Order
import AgentId.Proofs.Profile.Order.Endpoint
import AgentId.Proofs.Profile.Order.Card
import AgentId.Proofs.Profile.Order.DnsBinding
import AgentId.Proofs.Resolution.Document
import AgentId.Proofs.Caip.Grammar
import AgentId.Proofs.Codec.Standard
import AgentId.Proofs.Profile.Card.Fetching
import AgentId.Proofs.Resolution.Merging
import AgentId.Proofs.Caip.Ledgers
import AgentId.Proofs.Caip.Record
import AgentId.Proofs.Fqdn.Spelling
import AgentId.Proofs.Profile.Card.Version
import AgentId.Proofs.Fields.Spelling
import AgentId.Proofs.Did.Table
import AgentId.Proofs.Did.Key
import AgentId.Proofs.Resolution.Record
