import TableGateway.Text.Numeral

/-!
# Connection parameters

The query of a connection URL sets parameters of the connection, such as `?stmt_cache_size=10`.
They tune how statements travel and change neither statements nor results, so all that is kept of
them is whether they are admissible: each name is known, and its value is of the kind that the name
asks for.
-/

namespace TableGateway

/-- The kinds of values of connection parameters. -/
inductive Parameter.Kind where
  /-- A natural below a bound. -/
  | natural (bound : Nat)
  /-- `true` or `false`. -/
  | truth
  /-- Any text. -/
  | text
  /-- `fast`, `on`, `true`, `best`, or a digit. -/
  | compression

namespace Parameter

/-- The names of all parameters with the kinds of their values. -/
def all : List (String × Kind) :=
  [("pool_min", .natural UInt64.size), ("pool_max", .natural UInt64.size),
   ("inactive_connection_ttl", .natural UInt64.size), ("ttl_check_interval", .natural UInt64.size),
   ("conn_ttl", .natural UInt64.size), ("abs_conn_ttl", .natural UInt64.size),
   ("abs_conn_ttl_jitter", .natural UInt64.size), ("tcp_keepalive", .natural UInt32.size),
   ("max_allowed_packet", .natural UInt64.size), ("wait_timeout", .natural UInt64.size),
   ("enable_cleartext_plugin", .truth), ("reset_connection", .truth), ("tcp_nodelay", .truth),
   ("stmt_cache_size", .natural UInt64.size), ("prefer_socket", .truth), ("secure_auth", .truth),
   ("client_found_rows", .truth), ("socket", .text), ("compression", .compression),
   ("require_ssl", .truth), ("verify_ca", .truth), ("verify_identity", .truth),
   ("built_in_roots", .truth)]

/-- Whether a value is of a kind. -/
def Kind.admits : Kind → String → Bool
  | .natural bound, value => (Text.natural? bound value).isSome
  | .truth, value => value == "true" || value == "false"
  | .text, _ => true
  | .compression, value =>
    ["fast", "on", "true", "best"].contains value ||
      (value.length == 1 && (Text.natural? 10 value).isSome)

/-- The value that a natural parameter is set to last. -/
def lastNatural (name : String) (default : Nat) (pairs : List (String × String)) : Nat :=
  ((pairs.reverse.lookup name).bind (Text.natural? UInt64.size)).getD default

end Parameter

end TableGateway
