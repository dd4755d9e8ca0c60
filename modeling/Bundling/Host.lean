import Bundling.Target
import Bundling.Text.Sorted

/-!
# Host runtimes and external modules

The server bundle runs on a host runtime that already provides some modules, and it can
load the project's declared dependencies from disk. Both stay outside the bundle: they are
the server's external modules. Bundles that run in a browser have none.

## Main definitions

- `HostRuntime` — a runtime, its version and its builtin module names
- `HostRuntime.node20` — Node 20 and its builtin modules
- `HostRuntime.externalsFor` — the external modules of a target
-/

namespace Bundling

/-- **A host runtime**: its name, its version and the modules it provides. -/
structure HostRuntime where
  runtime : String
  version : String
  names : TextSet
  deriving DecidableEq

namespace HostRuntime

/-- The label of a runtime: name and version joined by `@`. -/
def label (h : HostRuntime) : String :=
  h.runtime ++ "@" ++ h.version

/-- The builtin modules of Node 20. -/
def node20Names : List String :=
  ["assert", "assert/strict", "async_hooks", "buffer", "child_process", "cluster", "console",
    "constants", "crypto", "dgram", "diagnostics_channel", "dns", "dns/promises", "domain",
    "events", "fs", "fs/promises", "http", "http2", "https", "inspector", "module", "net", "os",
    "path", "path/posix", "path/win32", "perf_hooks", "process", "punycode", "querystring",
    "readline", "readline/promises", "repl", "stream", "stream/consumers", "stream/promises",
    "stream/web", "string_decoder", "sys", "timers", "timers/promises", "tls", "trace_events",
    "tty", "url", "util", "util/types", "v8", "vm", "wasi", "worker_threads", "zlib"]

/-- **Node 20**, the default host runtime. -/
def node20 : HostRuntime :=
  ⟨"node", "20", TextSet.ofList node20Names⟩

/-- The modules left external when declared dependencies meet this runtime: all of both. -/
def classify (h : HostRuntime) (declared : TextSet) : TextSet :=
  declared.union h.names

/-- **External modules of a target**: for the server, the declared dependencies and the
runtime's builtins; for browser targets, none. -/
def externalsFor (h : HostRuntime) (t : Target) (declared : TextSet) : TextSet :=
  match t with
  | .server => h.classify declared
  | _ => TextSet.empty

end HostRuntime

end Bundling
