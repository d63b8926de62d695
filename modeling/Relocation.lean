import Relocation.Base64.Encoding
import Relocation.Main
import Relocation.Proofs.Base64.Blanks
import Relocation.Proofs.Base64.Blocks
import Relocation.Proofs.Base64.Bounds
import Relocation.Proofs.Base64.Canonical
import Relocation.Proofs.Base64.Concatenation
import Relocation.Proofs.Base64.Endings
import Relocation.Proofs.Base64.Grammar
import Relocation.Proofs.Base64.Hopeless
import Relocation.Proofs.Base64.InPlace
import Relocation.Proofs.Base64.OwnBuffer
import Relocation.Proofs.Base64.RoundTrip
import Relocation.Proofs.Base64.Wrapping
import Relocation.Proofs.Environment.Block
import Relocation.Proofs.Environment.Edits
import Relocation.Proofs.Environment.Reading
import Relocation.Proofs.Environment.Refusal
import Relocation.Proofs.Environment.Rendering
import Relocation.Proofs.Environment.Truncation
import Relocation.Proofs.Environment.Variables
import Relocation.Proofs.Failure
import Relocation.Proofs.Invocation.ExitStatus
import Relocation.Proofs.Invocation.Stages
import Relocation.Proofs.Launch.Dependence
import Relocation.Proofs.Launch.Diagnostics
import Relocation.Proofs.Launch.Entrance
import Relocation.Proofs.Launch.Environment
import Relocation.Proofs.Launch.Image
import Relocation.Proofs.Launch.Log
import Relocation.Proofs.Launch.Order
import Relocation.Proofs.Launch.Secrecy
import Relocation.Proofs.Launch.Target
import Relocation.Proofs.Machine.Invocation
import Relocation.Proofs.Machine.Pipe
import Relocation.Proofs.Namespace.Decision
import Relocation.Proofs.Shell.Pattern
import Relocation.Proofs.Text.Lines
