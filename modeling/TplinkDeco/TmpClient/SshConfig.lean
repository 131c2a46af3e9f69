-- The configuration of `tmp_ssh_config.py`, and what it refuses.
import TplinkDeco.Exceptions
import TplinkDeco.Lib.Text

open text

namespace tplink_deco_api.tmp_ssh_config

open exceptions

/-- The settings of an SSH tunnel to the local TMP service, before they are checked. -/
structure TmpSshConfig where
  host : String
  tp_link_id : String
  password : String
  host_key_sha256 : String := ""
  ssh_port : Int := 20001
  destination_host : String := "127.0.0.1"
  destination_port : Int := 20002
  timeout : Rat := 20
  allow_unverified_host_key : Bool := false

/-- A TCP port. -/
def is_port (port : Int) : Bool := 1 ≤ port && port ≤ 65535

/-- `__post_init__`. -/
def TmpSshConfig.post_init (config : TmpSshConfig) : Except PyError TmpSshConfig :=
  if strip config.host = "" then
    .error (value_error "Failed to configure TMP SSH: host is required")
  else if ¬ contains "@" (strip config.tp_link_id) then
    .error (value_error "Failed to configure TMP SSH: TP-Link ID must be an email address")
  else if config.password = "" then
    .error (value_error "Failed to configure TMP SSH: password is required")
  else if ¬ is_port config.ssh_port then
    .error (value_error "Failed to configure TMP SSH: SSH port is invalid")
  else if ¬ is_port config.destination_port then
    .error (value_error "Failed to configure TMP SSH: destination port is invalid")
  else if config.timeout ≤ 0 then
    .error (value_error "Failed to configure TMP SSH: timeout must be positive")
  else if config.host_key_sha256 ≠ "" ∧ ¬ starts_with config.host_key_sha256 "SHA256:" then
    .error (value_error "Failed to configure TMP SSH: host key must use SHA256: format")
  else .ok config

/-- The configuration takes a host with this fingerprint. -/
def TmpSshConfig.Accepts (config : TmpSshConfig) (host_key_sha256 : String) : Prop :=
  config.allow_unverified_host_key = true ∨
    config.host_key_sha256 ≠ "" ∧ config.host_key_sha256 = host_key_sha256

end tplink_deco_api.tmp_ssh_config
