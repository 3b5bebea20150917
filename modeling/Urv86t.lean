import Urv86t.Isa.Format
import Urv86t.Refinement.Base
import Urv86t.Memory.Flat
import Urv86t.Decoder.RoundTrip
import Urv86t.Decoder.FloatGrammar
import Urv86t.Isa.Encoding
import Urv86t.Refinement.Precision
import Urv86t.Refinement.MulDiv
import Urv86t.Shared.Traced
import Urv86t.Loader.LoadOnly
import Urv86t.Loader.Identity
import Urv86t.Memory.Confinement
import Urv86t.Memory.SyscallBuffers
import Urv86t.Runs.Halting
import Urv86t.Breakpoint.MainLoop
import Urv86t.Breakpoint.LifeCycle
import Urv86t.Breakpoint.Conditions
import Urv86t.Memory.Lookup
import Urv86t.Decoder.Diagnosed
import Urv86t.Runs.ProgramBreak
import Urv86t.Runs.SystemCalls
import Urv86t.Runs.CoreDump
import Urv86t.Runs.ZeroRegister
import Urv86t.Refinement.Boxing
import Urv86t.Decoder.Distinguished
import Urv86t.Refinement.Guest
import Urv86t.Refinement.Contained
import Urv86t.Breakpoint.Transparent
import Urv86t.Runs.Crashes
import Urv86t.Breakpoint.Typed
import Urv86t.Runs.Placement
import Urv86t.Runs.Release
