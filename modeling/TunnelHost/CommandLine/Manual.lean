/-!
# Manual

What the program tells of itself.

- `versionLine`: its name with its version.
- `manual`: how it is used.
-/

namespace TunnelHost.CommandLine

/-- The program's name with its version. -/
def versionLine : String := "wg-bridge v0.1.0"

/-- The lines of the manual. -/
def manualLines : List String :=
  [versionLine,
    "",
    "WireGuard tunnel sessions over boringtun, as a key tool and self-test.",
    "",
    "USAGE:",
    "    wg-bridge [OPTIONS] <COMMAND>",
    "",
    "COMMANDS:",
    "    genkey                  Print a new base64 private key",
    "    pubkey                  Read a private key on stdin, print its public key",
    "    check-key <KEY>         Exit 0 if KEY is a base64 X25519 key, 1 otherwise",
    "    selftest                Run a two-peer handshake and packet exchange in memory",
    "",
    "OPTIONS:",
    "    -c, --config <PATH>     Configuration file path [default: /etc/wg-bridge/config.json]",
    "    -g, --generate-config   Generate default configuration and exit",
    "    --check                 Check configuration and exit",
    "    -h, --help              Print help information",
    "    -v, --version           Print version information",
    "",
    "ENVIRONMENT:",
    "    WG_BRIDGE_BUFFER_CAPACITY   Override output buffer capacity",
    "    WG_BRIDGE_INDEX_POLICY      Override peer index policy (any_i32, positive_only)",
    "    WG_BRIDGE_LOG_LEVEL         Override log level (trace, debug, info, warn, error)"]

/-- How the program is used. An empty line ends it. -/
def manual : String := String.join (manualLines.map (· ++ "\n")) ++ "\n"

end TunnelHost.CommandLine
