import VpsManager.Go.Text

namespace VpsManager.Control

open Go

inductive Role
  | viewer
  | operator
  | admin
  | auditor
  | other (name : String)
  deriving DecidableEq, Repr

inductive Permission
  | hostsRead
  | hostsWrite
  | hostsDelete
  | hostKeyPin
  | hostKeyReplace
  | credentialsManage
  | jobsRead
  | snapshotsRun
  | commandsRun
  | anomalyScansRun
  | terminalSessionsOpen
  | runbooksPreview
  | runbooksExecute
  | jobsCancel
  | workersRead
  | workersWrite
  | workerTokensManage
  | workerDeploymentsPlan
  | workerDeploymentsRun
  | auditRead
  | sessionRevokeSelf
  deriving DecidableEq, Repr

open Permission in
def grants : Role → Option (List Permission)
  | .viewer => some [hostsRead, jobsRead, workersRead, sessionRevokeSelf]
  | .operator => some [hostsRead, hostsWrite, hostKeyPin, jobsRead, snapshotsRun, commandsRun,
      anomalyScansRun, terminalSessionsOpen, runbooksPreview, runbooksExecute, jobsCancel,
      workersRead, workersWrite, workerDeploymentsPlan, sessionRevokeSelf]
  | .admin => some [hostsRead, hostsWrite, hostsDelete, hostKeyPin, hostKeyReplace,
      credentialsManage, jobsRead, snapshotsRun, commandsRun, anomalyScansRun,
      terminalSessionsOpen, runbooksPreview, runbooksExecute, jobsCancel, workersRead,
      workersWrite, workerTokensManage, workerDeploymentsPlan, workerDeploymentsRun, auditRead,
      sessionRevokeSelf]
  | .auditor => some [hostsRead, jobsRead, workersRead, auditRead, sessionRevokeSelf]
  | .other _ => none

def validRole (role : Role) : Bool := (grants role).isSome

def allowed (role : Role) (permission : Permission) : Bool :=
  match grants role with
  | none => false
  | some permissions => permissions.contains permission

structure Principal where
  subject : String
  role : Role
  allHosts : Bool
  hostIDs : List String
  sessionID : String
  deriving DecidableEq, Repr

def canAccessHost (principal : Principal) (hostID : String) : Bool :=
  principal.allHosts || principal.hostIDs.contains hostID

end VpsManager.Control
