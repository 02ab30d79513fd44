import BuildCache.Base.StringList
import BuildCache.Base.OrderedMap
import BuildCache.Base.Host
import BuildCache.Rust.Options
import BuildCache.Rust.Grammar
import BuildCache.Rust.Wrapper
import BuildCache.Rust.ParseOptions
import BuildCache.Rust.OptionGroups
import BuildCache.Rust.Normalization
import BuildCache.Rust.Invariance
import BuildCache.Rust.Accepted
import BuildCache.Rust.Verification
import BuildCache.Rust.Acceptance
import BuildCache.Rust.DepInfo
import BuildCache.Rust.ProgramId
import BuildCache.Rust.ScanHooks
import BuildCache.Rust.BuildFiles
import BuildCache.Rust.Sandbox
import BuildCache.Cppcheck.Wrapper
import BuildCache.Cppcheck.RoundTrip
import BuildCache.Cppcheck.BuildFiles
import BuildCache.Cppcheck.RelevantArgs
