import LinkedAccess.AccessError
import LinkedAccess.Credentials

/-!
# Authorization

The decision on a request: every mode that it needs on a target must be among the permissions that
were found for the target, in whichever group. The first target that falls short is reported, with
all the modes it lacks.
-/

namespace LinkedAccess

/-- The needed modes that no group holds. A target without an entry has no permissions. -/
def missingModes (available : PermissionMap) (target : Identifier) (needed : Modes) : Modes :=
  needed.filter fun mode => !(available.get? target).any (·.allows mode)

/-- The error for a target that lacks modes. -/
def Credentials.denial (credentials : Credentials) (target : Identifier) (missing : Modes) :
    AccessError :=
  if credentials.isAuthenticated then .forbidden target missing else .unauthorized target missing

/-- Decides on targets with the modes they need, one after the other. -/
def authorizeTargets (credentials : Credentials) (available : PermissionMap) :
    List (Identifier × Modes) → Except AccessError Unit
  | [] => .ok ()
  | (target, needed) :: later =>
    let missing := missingModes available target needed
    if missing.isEmpty then authorizeTargets credentials available later
    else .error (credentials.denial target missing)

/-- Decides on a request, given what was found for its targets. -/
def authorize (credentials : Credentials) (requested : AccessMap) (available : PermissionMap) :
    Except AccessError Unit :=
  authorizeTargets credentials available requested.toList

end LinkedAccess
