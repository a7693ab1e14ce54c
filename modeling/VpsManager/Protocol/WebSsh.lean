import VpsManager.Go.Size
import VpsManager.Protocol.Runbook

namespace VpsManager.Protocol

open Go

def actionWebSSH : String := "web_ssh_v1"

structure WebSSHBinding where
  principalID : String
  hostID : String
  credentialID : String
  action : String
  deriving DecidableEq, Repr

structure TerminalSize where
  columns : UInt16
  rows : UInt16
  widthPixels : UInt16
  heightPixels : UInt16
  deriving DecidableEq, Repr

/-- `validTerminalSize`; the gateway, the Connector and the terminal have it alike. -/
def validTerminalSize (size : TerminalSize) : Bool :=
  20 ≤ size.columns && size.columns ≤ 500 && 5 ≤ size.rows && size.rows ≤ 300 &&
    size.widthPixels ≤ 10000 && size.heightPixels ≤ 10000

structure WebSSHTicketRequest where
  protocolVersion : String
  binding : WebSSHBinding
  target : Ssh.Target
  pinnedHostKey : String
  credential : Credential
  initialSize : TerminalSize
  deriving DecidableEq, Repr

structure WebSSHTicketResponse where
  protocolVersion : String
  requestID : String
  ticket : String
  sessionID : String
  expiresAt : Int
  deriving DecidableEq, Repr

/-- The message `Client.WebSSHTicket` posts. -/
def webSSHTicket (request : WebSSHTicketRequest) : WebSSHTicketRequest :=
  { request with protocolVersion := protocolVersion }

def WebSSHBinding.json (binding : WebSSHBinding) : Json :=
  .object [("principalId", .string binding.principalID), ("hostId", .string binding.hostID),
    ("credentialId", .string binding.credentialID), ("action", .string binding.action)]

def targetJson (target : Ssh.Target) : Json :=
  .object [("address", .string target.address), ("port", .ofInt target.port),
    ("user", .string target.user)]

def Credential.json (credential : Credential) : Json :=
  .struct [some ("privateKeyPem", .ofBytes credential.privateKeyPEM),
    if credential.passphrase = [] then none
    else some ("passphrase", .ofBytes credential.passphrase)]

def TerminalSize.json (size : TerminalSize) : Json :=
  .struct [some ("columns", .ofNat size.columns.toNat), some ("rows", .ofNat size.rows.toNat),
    Json.nonZero "widthPixels" size.widthPixels.toNat,
    Json.nonZero "heightPixels" size.heightPixels.toNat]

def WebSSHTicketRequest.json (request : WebSSHTicketRequest) : Json :=
  .object [("protocolVersion", .string request.protocolVersion),
    ("binding", request.binding.json), ("target", targetJson request.target),
    ("pinnedHostKey", .string request.pinnedHostKey), ("credential", request.credential.json),
    ("initialSize", request.initialSize.json)]

def outputJson (data : Bytes) : Json :=
  .object [("type", .string "output"), ("data", .ofBytes data)]

def inputJson (data : Bytes) : Json :=
  .object [("type", .string "input"), ("data", .ofBytes data)]

end VpsManager.Protocol
