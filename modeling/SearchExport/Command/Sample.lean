/-!
# Sample configuration files

The files that the program writes for those who start to use it: a short one, and one that explains
every setting.
-/

set_option autoImplicit false

namespace SearchExport

/-- A text from its lines. -/
def ofLines (lines : List String) : String := "".intercalate (lines.map (· ++ "\n"))

/-- The short configuration file. -/
def minimalSample : String :=
  ofLines [
    "# msgexport configuration",
    "",
    "[application]",
    "log_level = \"info\"",
    "",
    "[elasticsearch]",
    "base_url = \"http://localhost:9200\"",
    "# username = \"$\x7bMSGEXPORT_ES_USERNAME\x7d\"",
    "# password = \"$\x7bMSGEXPORT_ES_PASSWORD\x7d\"",
    "tls_verify = true",
    "allow_leading_wildcard_searches = false",
    "",
    "[export]",
    "chunk_size = 1000",
    "default_fields = [\"timestamp\", \"source\", \"message\"]",
    "",
    "[indices]",
    "default_patterns = [\"graylog_*\"]",
    "",
    "[logging]",
    "local_enabled = true",
    "local_path = \"/var/log/msgexport\"",
    "local_rotation = \"daily\""]

/-- The configuration file that explains every setting. -/
def explainedSample : String :=
  ofLines [
    "# msgexport configuration",
    "#",
    "# Values of the form $\x7bVAR\x7d are replaced with environment variables when the",
    "# file is loaded. Any setting can also be overridden with",
    "# MSGEXPORT_<SECTION>_<KEY>, e.g. MSGEXPORT_EXPORT_CHUNK_SIZE=500.",
    "",
    "# ============================================================================",
    "# Application",
    "# ============================================================================",
    "[application]",
    "# trace, debug, info, warn, error",
    "log_level = \"info\"",
    "",
    "# ============================================================================",
    "# Elasticsearch",
    "# ============================================================================",
    "[elasticsearch]",
    "base_url = \"http://localhost:9200\"",
    "",
    "# Basic authentication; set both or neither",
    "# username = \"$\x7bMSGEXPORT_ES_USERNAME\x7d\"",
    "# password = \"$\x7bMSGEXPORT_ES_PASSWORD\x7d\"",
    "",
    "# Verify TLS certificates",
    "tls_verify = true",
    "",
    "# Per-request timeout",
    "timeout_seconds = 60",
    "",
    "# Accept query terms that start with * or ?. These are slow on large",
    "# indices, so exports reject them unless enabled.",
    "allow_leading_wildcard_searches = false",
    "",
    "# Retries for connection failures and 5xx responses",
    "[elasticsearch.retry]",
    "max_retries = 3",
    "initial_delay_ms = 1000",
    "max_delay_ms = 30000",
    "backoff_multiplier = 2.0",
    "",
    "# ============================================================================",
    "# Export defaults",
    "# ============================================================================",
    "[export]",
    "# Messages per page; every page is delivered as one chunk (1 - 10000)",
    "chunk_size = 1000",
    "",
    "# Columns when neither the command line nor the search names any",
    "default_fields = [\"timestamp\", \"source\", \"message\"]",
    "",
    "# ============================================================================",
    "# Index resolution",
    "# ============================================================================",
    "[indices]",
    "# Searched when no ranges are configured",
    "default_patterns = [\"graylog_*\"]",
    "",
    "# Known index ranges. When present, an export only searches indices whose",
    "# range overlaps the requested time range and that hold one of the",
    "# requested streams (empty streams = every stream).",
    "#",
    "# [[indices.ranges]]",
    "# index_name = \"graylog_0\"",
    "# begin = \"2015-01-01T00:00:00Z\"",
    "# end = \"2015-01-01T23:59:59Z\"",
    "# streams = [\"stream-01\"]",
    "",
    "# ============================================================================",
    "# Logging",
    "# ============================================================================",
    "[logging]",
    "# JSON log files next to the console output (stderr)",
    "local_enabled = true",
    "local_path = \"/var/log/msgexport\"",
    "",
    "# daily, hourly or never",
    "local_rotation = \"daily\""]

end SearchExport
