import BindTrace.Agent.Run
import BindTrace.Channel.Session
import BindTrace.Machine
import BindTrace.Main
import BindTrace.Pipeline
import BindTrace.Proofs.Address.Entries
import BindTrace.Proofs.Agent.Relay
import BindTrace.Proofs.Agent.Reporting
import BindTrace.Proofs.Channel.Session
import BindTrace.Proofs.History
import BindTrace.Proofs.Hosting.Run
import BindTrace.Proofs.Kernel.Ascent
import BindTrace.Proofs.Lifetime
import BindTrace.Proofs.Pipeline.Agreement
import BindTrace.Proofs.Probes.Lineage
import BindTrace.Proofs.Probes.Namespaces
import BindTrace.Proofs.Record.Untrusted
import BindTrace.Proofs.SelfFilter
import BindTrace.Proofs.Wire.Layout
import BindTrace.Proofs.Kernel.Chain
import BindTrace.Proofs.Kernel.Faults
import BindTrace.Proofs.Text.Utf8
import BindTrace.Proofs.Wire.PathText
import BindTrace.Proofs.Address.IpText
import BindTrace.Proofs.Address.ShownText
