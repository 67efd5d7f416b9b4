import CallByValue.Main
import CallByValue.Proofs.Depth
import CallByValue.Proofs.Native
import CallByValue.Proofs.Scope
import CallByValue.Proofs.Adequacy
import CallByValue.Proofs.Iteration
import CallByValue.Proofs.Arithmetic
import CallByValue.Proofs.Parametricity
import CallByValue.Proofs.Agreement
import CallByValue.Proofs.Nameless.Basic
import CallByValue.Proofs.Nameless.Evaluation
import CallByValue.Proofs.AlphaEquivalence
import CallByValue.Proofs.Blame
import CallByValue.Proofs.Clean
import CallByValue.Proofs.FreeNames
import CallByValue.Proofs.Limits
import CallByValue.Proofs.Legibility
import CallByValue.Proofs.Blueprint
import CallByValue.Proofs.Wording
import CallByValue.Proofs.Pointer
import CallByValue.Proofs.Nesting
import CallByValue.Proofs.SampleRun
import CallByValue.Proofs.Color.Decoration
import CallByValue.Proofs.Decoding
import CallByValue.Proofs.Equality
import CallByValue.Proofs.Following
import CallByValue.Proofs.Instrumentation
